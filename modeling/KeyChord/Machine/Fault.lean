/-!
# Faults of the machine

What opening, reading, writing or starting something can fail with. The wording is the system's,
with its error number, except for the faults that are found before the system is asked.
-/

namespace KeyChord

/-- Why the machine refused. -/
inductive MachineFault where
  | noEntry
  /-- The arguments and the environment of a command are longer than the system hands over. -/
  | argumentsTooLong
  | noDevice
  | notDirectory
  | isDirectory
  /-- The file takes no requests of the kind an input device takes. -/
  | notInput
  | noSpace
  | nameTooLong
  /-- A text file holds bytes that are no UTF-8. -/
  | notText
  /-- A path holds the character of code zero. -/
  | zeroInPath
  /-- An argument of a command holds the character of code zero. -/
  | zeroInArgument
  deriving DecidableEq, Repr

/-- The wording of a fault. -/
def MachineFault.message : MachineFault → String
  | noEntry => "No such file or directory (os error 2)"
  | argumentsTooLong => "Argument list too long (os error 7)"
  | noDevice => "No such device (os error 19)"
  | notDirectory => "Not a directory (os error 20)"
  | isDirectory => "Is a directory (os error 21)"
  | notInput => "Inappropriate ioctl for device (os error 25)"
  | noSpace => "No space left on device (os error 28)"
  | nameTooLong => "File name too long (os error 36)"
  | notText => "stream did not contain valid UTF-8"
  | zeroInPath => "file name contained an unexpected NUL byte"
  | zeroInArgument => "nul byte found in provided data"

end KeyChord
