import SourceTutor.Chat.Response

/-!
# Failed exchanges

Why an exchange with the service fails, how the failure reads, and whether asking again may help:
a failure is transient when the service is busy or broken, when the network fails, and when the
answer cannot be used.
-/

set_option autoImplicit false

namespace SourceTutor.Chat

/-- Why an exchange fails. -/
inductive Fault where
  /-- The service refuses; `body` is what it says when that can be read. -/
  | api (status : Nat) (body : Option ErrorBody) (message : String)
  | network (detail : String)
  | decode (detail : String)
  /-- The answer has no usable text. -/
  | missingCompletion
  deriving DecidableEq

/-- Whether asking again may help. -/
inductive Severity where
  | transient
  | fatal
  deriving DecidableEq

namespace Fault

/-- The text of a failure. -/
def message : Fault → String
  | .api status _ text => "API error (status " ++ toString status ++ "): " ++ text
  | .network detail => "network error: " ++ detail
  | .decode detail => "undecodable response body: " ++ detail
  | .missingCompletion => "response has no completion text"

/-- The status with which the service refuses. -/
def status? : Fault → Option Nat
  | .api status _ _ => some status
  | _ => none

/-- Whether the service refuses because it does not know the model. -/
def isUnknownModel : Fault → Bool
  | .api status (some body) _ => (status == 400 || status == 404) && body.rejectsModel
  | _ => false

/-- Whether asking again may help. -/
def severity : Fault → Severity
  | .api status _ _ =>
    if status == 408 || status == 409 || status == 429 || (500 ≤ status && status ≤ 599) then
      .transient
    else .fatal
  | _ => .transient

end Fault

/-- What one exchange yields. -/
abbrev Reply := Except Fault Response

/-- The usable text of a reply; an answer without one is a failure. -/
def completionOf : Reply → Except Fault String
  | .error e => .error e
  | .ok response =>
    match response.completion? with
    | some text => .ok text
    | none => .error .missingCompletion

end SourceTutor.Chat
