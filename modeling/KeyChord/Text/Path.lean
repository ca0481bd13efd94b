/-!
# Comparing paths

Two paths are the same when they have the same components. Repeated and trailing slashes do not
count, nor does a dot, except one that a relative path begins with.
-/

namespace KeyChord.Text

/-- One step of a path. -/
inductive Component where
  | root
  /-- The dot that a relative path begins with. -/
  | here
  | up
  | name (text : List Char)
  deriving DecidableEq, Repr

/-- The component of a piece between slashes. -/
def component (piece : List Char) : Component :=
  if piece = ['.', '.'] then .up else .name piece

/-- The pieces of a path that are components: not empty and no dots. -/
def inner (pieces : List (List Char)) : List Component :=
  (pieces.filter fun piece => piece ≠ [] && piece ≠ ['.']).map component

/-- The components of a path. -/
def components (path : List Char) : List Component :=
  let pieces := path.splitOn '/'
  match path.head?, pieces.head? with
  | some '/', _ => .root :: inner pieces
  | _, some ['.'] => .here :: inner pieces
  | _, _ => inner pieces

/-- Whether two paths are the same. -/
def samePath (a b : List Char) : Bool :=
  components a = components b

end KeyChord.Text
