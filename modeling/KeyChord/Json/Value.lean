/-!
# JSON values

An object keeps its members as they are written. Looking at an object means looking at its members
without repetitions: a repeated key stays where it was first written and has the value it was last
given.
-/

namespace KeyChord

/-- A number of a JSON text. Whole numbers of 64 bits are exact, signed or not; every other
number, `-0` among them, is a double. -/
inductive JsonNumber where
  | whole (value : Int)
  | real (value : Float)

/-- A JSON value with the members of its objects in writing order, repetitions included. -/
inductive Json where
  | null
  | bool (value : Bool)
  | number (value : JsonNumber)
  | text (value : String)
  | array (items : List Json)
  | object (members : List (String × Json))

end KeyChord
