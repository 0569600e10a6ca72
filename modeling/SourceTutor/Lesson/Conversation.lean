import SourceTutor.Chat.Retry
import SourceTutor.Lesson.Question
import SourceTutor.Path

/-!
# Conversations

The questions are asked in order within one growing conversation. Every answer is written down and
becomes part of the conversation before the next question is asked; the first failure, of a
request or of the writing, ends it. Between questions there is a pause.
-/

set_option autoImplicit false

namespace SourceTutor.Lesson

open SourceTutor.Chat

variable {σ : Type}

/-- Takes the answer to a question, by the index of the question. The outcome is the path of what
has been written, or the reason why nothing has. -/
abbrev Writer (σ : Type) := Nat → String → σ → Except String Path × σ

/-- How a conversation ends. -/
inductive Conclusion where
  /-- Every question is answered and every answer written. -/
  | completed (artifacts : List Path)
  /-- A question fails; the answers before it have been written. -/
  | failed (question : Nat) (reason : String) (artifacts : List Path)
  /-- A wait is no length of time. -/
  | impossibleWait
  deriving DecidableEq

namespace Conclusion

/-- Whether every question is answered. -/
def isCompleted : Conclusion → Bool
  | .completed _ => true
  | _ => false

/-- The conclusion with an artifact in front. -/
def after (artifact : Path) : Conclusion → Conclusion
  | .completed artifacts => .completed (artifact :: artifacts)
  | .failed question reason artifacts => .failed question reason (artifact :: artifacts)
  | .impossibleWait => .impossibleWait

end Conclusion

/-- The pause between two questions. -/
def pause (service : Service σ) (pacing : Duration) (w : σ) : σ :=
  if pacing.isZero then w else service.sleep pacing w

/-- Ask the questions from number `index` on, after the given turns. -/
def converseFrom (client : Client) (service : Service σ) (writer : Writer σ) (pacing : Duration) :
    Nat → List Question → List Message → σ → Conclusion × σ
  | _, [], _, w => (.completed [], w)
  | index, question :: rest, turns, w =>
    let asked := turns ++ [.user question.prompt]
    match client.send service asked w with
    | (.impossibleWait, w) => (.impossibleWait, w)
    | (.failed failure, w) => (.failed index failure.message [], w)
    | (.answered text, w) =>
      match writer index text w with
      | (.error reason, w) => (.failed index reason [], w)
      | (.ok path, w) =>
        let w := if rest.isEmpty then w else pause service pacing w
        let (conclusion, w) :=
          converseFrom client service writer pacing (index + 1) rest
            (asked ++ [.assistant text]) w
        (conclusion.after path, w)

/-- Ask all questions after the opening turns. -/
def converse (client : Client) (service : Service σ) (writer : Writer σ) (pacing : Duration)
    (questions : List Question) (opening : List Message) (w : σ) : Conclusion × σ :=
  converseFrom client service writer pacing 0 questions opening w

end SourceTutor.Lesson
