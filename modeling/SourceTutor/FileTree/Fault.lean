/-!
# Faults of the file system

Why an operation on files fails, and the text that says so.
-/

set_option autoImplicit false

namespace SourceTutor

/-- Why an operation on files fails. -/
inductive IoFault where
  | notFound
  | alreadyExists
  | notADirectory
  | isADirectory
  | tooManyLinks
  | nameTooLong
  | zeroInPath
  /-- The bytes read are not text. -/
  | notText
  deriving DecidableEq

/-- The text of a fault. -/
def IoFault.message : IoFault → String
  | .notFound => "No such file or directory (os error 2)"
  | .alreadyExists => "File exists (os error 17)"
  | .notADirectory => "Not a directory (os error 20)"
  | .isADirectory => "Is a directory (os error 21)"
  | .tooManyLinks => "Too many levels of symbolic links (os error 40)"
  | .nameTooLong => "File name too long (os error 36)"
  | .zeroInPath => "file name contained an unexpected NUL byte"
  | .notText => "stream did not contain valid UTF-8"

end SourceTutor
