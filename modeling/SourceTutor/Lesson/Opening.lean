import SourceTutor.Chat.Message
import SourceTutor.Lesson.Essence
import SourceTutor.Source

/-!
# The opening of a lesson

A lesson about a file opens with two turns: one says who the teacher is, the other hands over the
code, condensed to the length allowed, with its file name and language.
-/

set_option autoImplicit false

namespace SourceTutor.Lesson

open SourceTutor.Chat

/-- Who the teacher is. -/
def teacher : String :=
  "You are an exceptional programming teacher and code reviewer who gives extremely " ++
  "detailed, step-by-step explanations of code. You break complex concepts down into " ++
  "simple terms anyone can follow while still covering every technical detail. You use " ++
  "examples, analogies and clear language so that beginners and experts alike understand " ++
  "the code."

/-- The turn that hands over the code. -/
def introduction (content fileName language : String) (maxLength : Nat) : String :=
  "I'm going to ask you three sequential questions about the following " ++ language ++
  " code file.\n" ++
  "Please analyze this code carefully: I'll ask about its purpose, a comprehensive line-by-line " ++
  "explanation, and potential improvements.\n\n" ++
  "I need extremely thorough and educational explanations that anyone can understand, " ++
  "regardless of their programming experience.\n\n" ++
  "Filename: " ++ fileName ++ "\n\nCode:\n```" ++ Text.toLowerCase language ++ "\n" ++
  essence content maxLength ++ "\n```"

/-- The turns that open a lesson about the file at this path. -/
def opening (p : Path) (content : String) (maxLength : Nat) : List Message :=
  [.system teacher,
    .user (introduction content (FileName.text (p.fileName?.getD "")) (languageOf p)
      maxLength)]

end SourceTutor.Lesson
