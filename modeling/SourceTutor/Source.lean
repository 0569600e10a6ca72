import SourceTutor.Path
import SourceTutor.Text.LowerCase

/-!
# Source files

Which files are worth explaining, and the name of the language that a file is written in. Both go
by the file name alone, whatever the case of its letters.
-/

set_option autoImplicit false

namespace SourceTutor

/-- Which files are worth explaining. -/
structure EligibilityRules where
  /-- The extensions that count, in lower case and without a dot. -/
  extensions : List String
  /-- The endings of file names that do not count. -/
  excludedSuffixes : List String
  deriving DecidableEq

/-- C, C++ and device tree sources, but neither the generated descriptions of modules nor the
records of commands. -/
def EligibilityRules.standard : EligibilityRules := ⟨["c", "cpp", "dts"], ["mod.c", ".cmd"]⟩

/-- Whether the second text ends the first. -/
def endsWith (s ending : String) : Bool := ending.toList.isSuffixOf s.toList

namespace EligibilityRules

/-- Whether the rules accept a file of this path, whose name counts as what it reads as. -/
def accepts (rules : EligibilityRules) (p : Path) : Bool :=
  match p.fileName? with
  | none => false
  | some name =>
    (match p.extension? with
      | none => false
      | some extension =>
        rules.extensions.contains (Text.toLowerCase (FileName.text extension))) &&
    !rules.excludedSuffixes.any fun suffix =>
      endsWith (Text.toLowerCase (FileName.text name)) (Text.toLowerCase suffix)

end EligibilityRules

/-- The name of the language of a file. -/
def languageOf (p : Path) : String :=
  match Text.toLowerCase (FileName.text (p.extension?.getD "")) with
  | "c" => "C"
  | "cpp" => "C++"
  | "dts" => "Device Tree Source"
  | _ => "Unknown"

end SourceTutor
