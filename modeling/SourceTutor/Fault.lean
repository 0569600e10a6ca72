import SourceTutor.FileTree.Fault
import SourceTutor.Path

/-!
# Why a command fails

The failures of the program and the text that reports each.
-/

set_option autoImplicit false

namespace SourceTutor

/-- Why a command fails. -/
inductive Fault where
  | missingKey
  | settings (reason : String)
  /-- A file that the program makes cannot be written. -/
  | artifact (path : Path) (fault : IoFault)
  /-- A file cannot be read or removed. -/
  | io (fault : IoFault)
  deriving DecidableEq

/-- The text of a failure. -/
def Fault.message : Fault → String
  | .missingKey =>
    "Missing DeepSeek API key. Set DEEPSEEK_API_KEY or `api_key` in the config file."
  | .settings reason => "Config error: " ++ reason
  | .artifact path fault =>
    "Failed to write artifact " ++ path.toString ++ ": " ++ fault.message
  | .io fault => "IO error: " ++ fault.message

end SourceTutor
