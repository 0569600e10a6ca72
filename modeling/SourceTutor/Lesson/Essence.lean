import SourceTutor.Text.Blank
import SourceTutor.Text.Word

/-!
# The essence of a long source text

A text that is longer than allowed is condensed: the first fifth of its lines, a list of the
definitions that stand out, and the beginning of its entry point; whatever is still too long is cut
off with a remark. A definition is one of four forms: `def` and a word, `class` and a word, a word
before `()`, or two words joined by `::`.
-/

set_option autoImplicit false

namespace SourceTutor.Lesson

open SourceTutor.Text

/-! ## Definitions -/

/-- What follows a run of at least one character of the class, the run as long as possible. -/
def skipRun? (p : Char → Bool) (s : List Char) : Option (List Char) :=
  match s with
  | [] => none
  | c :: rest => if p c then some (rest.dropWhile p) else none

/-- What follows the given characters. -/
def skipExact? (word s : List Char) : Option (List Char) :=
  if word.isPrefixOf s then some (s.drop word.length) else none

/-- What follows a keyword, white space and a word. -/
def keywordForm? (keyword s : List Char) : Option (List Char) := do
  skipRun? isWordChar (← skipRun? isBlank (← skipExact? keyword s))

/-- What follows a word, white space if there is any, and `()`. -/
def callForm? (s : List Char) : Option (List Char) := do
  skipExact? ['(', ')'] ((← skipRun? isWordChar s).dropWhile isBlank)

/-- What follows two words joined by `::`. -/
def memberForm? (s : List Char) : Option (List Char) := do
  skipRun? isWordChar (← skipExact? [':', ':'] (← skipRun? isWordChar s))

/-- What follows `def` or `class`, white space and a word. -/
def keyedForm? (s : List Char) : Option (List Char) :=
  keywordForm? ['d', 'e', 'f'] s <|> keywordForm? ['c', 'l', 'a', 's', 's'] s

/-- What follows the first form that starts the text, if one does. -/
def definitionForm? (s : List Char) : Option (List Char) :=
  keyedForm? s <|> callForm? s <|> memberForm? s

/-- All characters of a word are followed by the same. -/
theorem skipRun?_cons {p : Char → Bool} {c d : Char} (s : List Char) (hc : p c = true)
    (hd : p d = true) : skipRun? p (c :: d :: s) = skipRun? p (d :: s) := by
  simp [skipRun?, hc, hd]

/-- A call starts at a character of a word exactly when it starts at the next one. -/
theorem callForm?_cons {c d : Char} (s : List Char) (hc : isWordChar c = true)
    (hd : isWordChar d = true) : callForm? (c :: d :: s) = callForm? (d :: s) := by
  simp only [callForm?, skipRun?_cons s hc hd]

/-- A member starts at a character of a word exactly when it starts at the next one. -/
theorem memberForm?_cons {c d : Char} (s : List Char) (hc : isWordChar c = true)
    (hd : isWordChar d = true) : memberForm? (c :: d :: s) = memberForm? (d :: s) := by
  simp only [memberForm?, skipRun?_cons s hc hd]

/-- Behind a character of a word at which no form starts, only a keyword can start a form while the
word goes on. -/
theorem definitionForm?_of_cons_eq_none {c d : Char} {s : List Char} (hc : isWordChar c = true)
    (hd : isWordChar d = true) (h : definitionForm? (c :: d :: s) = none) :
    definitionForm? (d :: s) = keyedForm? (d :: s) := by
  simp only [definitionForm?, Option.orElse_eq_orElse, Option.orElse_eq_or,
    Option.or_eq_none_iff] at h ⊢
  rw [← callForm?_cons s hc hd, ← memberForm?_cons s hc hd, h.2.1, h.2.2]
  simp

/-- The definitions of a text from left to right, at most `count`: each starts at the first place
behind the one before where a form applies. `within` says that the place lies behind a character of
a word at which no form starts; while the word goes on, only keywords are looked for then. The first
argument bounds the number of places. -/
def definitionsFrom (within : Bool) : Nat → Nat → List Char → List (List Char)
  | 0, _, _ => []
  | _, 0, _ => []
  | _, _, [] => []
  | fuel + 1, count + 1, c :: s =>
    match if within && isWordChar c then keyedForm? (c :: s) else definitionForm? (c :: s) with
    | some rest =>
      (c :: s).take ((c :: s).length - rest.length) :: definitionsFrom false fuel count rest
    | none => definitionsFrom (isWordChar c) fuel (count + 1) s

/-- The greatest number of definitions listed. -/
def maxDefinitions : Nat := 20

/-- The definitions listed for a text. -/
def definitions (s : List Char) : List (List Char) :=
  definitionsFrom false s.length maxDefinitions s

/-! ## The entry point -/

/-- The words with which an entry point may start, the later the better. -/
def entryPoints : List String :=
  ["def main", "if __name__", "int main", "void main", "public static void main"]

/-- The greatest length of the excerpt at the entry point. -/
def excerptLength : Nat := 1000

/-- The text from the first place on where it continues with `word`. -/
def from? (word : List Char) : List Char → Option (List Char)
  | [] => if word.isEmpty then some [] else none
  | c :: s => if word.isPrefixOf (c :: s) then some (c :: s) else from? word s

/-- The text from the first occurrence of a marker on, if a brace opens behind it. -/
def blockFrom? (marker s : List Char) : Option (List Char) :=
  match from? marker s with
  | some rest => if (rest.drop marker.length).contains '\x7b' then some rest else none
  | none => none

/-- The beginning of the entry point: of the last marker that opens a block. -/
def entryExcerpt? (s : List Char) : Option (List Char) :=
  ((entryPoints.filterMap fun marker => blockFrom? marker.toList s).getLast?).map
    (·.take excerptLength)

/-! ## The essence -/

/-- The lines of a text. -/
def linesOf (s : List Char) : List (List Char) := s.splitOn '\n'

/-- The first fifth of the lines. -/
def head (s : List Char) : List Char :=
  let lines := linesOf s
  ['\n'].intercalate (lines.take (lines.length / 5))

/-- The heading over the definitions. -/
def definitionsHeading : List Char := "\n\n# Key function definitions found in the code:\n".toList

/-- What stands in front of each definition. -/
def bullet : List Char := "# - ".toList

/-- The heading over the excerpt at the entry point. -/
def entryHeading : List Char := "\n\n# Main entry point:\n".toList

/-- The list of definitions with its heading; nothing if there are none. -/
def definitionList (s : List Char) : List Char :=
  let found := definitions s
  if found.isEmpty then []
  else definitionsHeading ++ ['\n'].intercalate (found.map (bullet ++ ·))

/-- The excerpt at the entry point with its heading; nothing if there is none. -/
def entryList (s : List Char) : List Char :=
  match entryExcerpt? s with
  | none => []
  | some excerpt => entryHeading ++ excerpt

/-- The condensed text before it is cut. -/
def outline (s : List Char) : List Char := head s ++ definitionList s ++ entryList s

/-- What is said where a text is cut. -/
def cutMark : List Char := "\n\n# [Code truncated due to length...]".toList

/-- The text itself if it is at most `maxLength` characters long, and otherwise its outline, cut
to that length. -/
def essence (content : String) (maxLength : Nat) : String :=
  let s := content.toList
  if s.length ≤ maxLength then content
  else
    let full := outline s
    if full.length ≤ maxLength then String.ofList full
    else String.ofList (full.take maxLength ++ cutMark)

end SourceTutor.Lesson
