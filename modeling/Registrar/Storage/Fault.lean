/-! Why something could not be read or written. -/
namespace Registrar

inductive StorageFault where
  | notFound
  | notADirectory
  | isADirectory
  | alreadyExists
  | nameTooLong
  /-- A path with a null character names nothing. -/
  | nullInPath
  /-- The bytes are no text. -/
  | notText
  /-- Anything else, in the words of the store. -/
  | refused (reason : String)
  deriving DecidableEq

namespace StorageFault

def message : StorageFault → String
  | notFound => "No such file or directory (os error 2)"
  | notADirectory => "Not a directory (os error 20)"
  | isADirectory => "Is a directory (os error 21)"
  | alreadyExists => "File exists (os error 17)"
  | nameTooLong => "File name too long (os error 36)"
  | nullInPath => "file name contained an unexpected NUL byte"
  | notText => "stream did not contain valid UTF-8"
  | refused reason => reason

end StorageFault
end Registrar
