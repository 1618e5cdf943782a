/-!
# Faults of the operating system

Why the operating system does not carry out what it is asked to do with a file or a directory, and
the words it has for that.
-/

namespace AccessPortal

inductive SystemFault where
  | missing
  | denied
  | taken
  | notDirectory
  | isDirectory
  | noSpace
  | nameTooLong
  /-- A path holds the character NUL. -/
  | badCharacter
  | notText
  /-- Anything else, in the words of the operating system. -/
  | other (words : String)
  deriving DecidableEq, Repr, Inhabited

def SystemFault.text : SystemFault → String
  | .missing => "No such file or directory (os error 2)"
  | .denied => "Permission denied (os error 13)"
  | .taken => "File exists (os error 17)"
  | .notDirectory => "Not a directory (os error 20)"
  | .isDirectory => "Is a directory (os error 21)"
  | .noSpace => "No space left on device (os error 28)"
  | .nameTooLong => "File name too long (os error 36)"
  | .badCharacter => "file name contained an unexpected NUL byte"
  | .notText => "stream did not contain valid UTF-8"
  | .other words => words

end AccessPortal
