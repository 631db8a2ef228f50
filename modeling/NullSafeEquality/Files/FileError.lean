/-!
Reasons why a file cannot be read or written.
-/

namespace NullSafeEquality

inductive FileError where
  | notFound | noDevice | notADirectory | isADirectory | noRoom | nameTooLong
  /-- The bytes of the file encode no text. -/
  | notText
  /-- Any other reason, as the system words it. -/
  | other (text : String)
deriving DecidableEq

namespace FileError

def message : FileError → String
  | .notFound => "No such file or directory (os error 2)"
  | .noDevice => "No such device or address (os error 6)"
  | .notADirectory => "Not a directory (os error 20)"
  | .isADirectory => "Is a directory (os error 21)"
  | .noRoom => "No space left on device (os error 28)"
  | .nameTooLong => "File name too long (os error 36)"
  | .notText => "stream did not contain valid UTF-8"
  | .other text => text

end FileError
end NullSafeEquality
