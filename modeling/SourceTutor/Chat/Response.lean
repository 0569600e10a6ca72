import SourceTutor.Json.Reader
import SourceTutor.Json.Record

/-!
# Answers of the service

The answer to a request and the body of an error answer, and how both are read from JSON. Every
member of an answer may be missing, so that an odd answer can still be read; `Response.completion?`
says whether it holds a usable text.
-/

set_option autoImplicit false

namespace SourceTutor.Chat

open SourceTutor.Json

/-- The turn inside a choice. -/
structure ChoiceMessage where
  role : Option String
  content : Option String
  deriving DecidableEq

/-- One of the answers offered. -/
structure Choice where
  index : Nat
  message : Option ChoiceMessage
  finishReason : Option String
  deriving DecidableEq

/-- How many tokens the exchange took. -/
structure Usage where
  promptTokens : Nat
  completionTokens : Nat
  totalTokens : Nat
  deriving DecidableEq

/-- An answer. -/
structure Response where
  id : Option String
  model : Option String
  choices : List Choice
  usage : Option Usage
  deriving DecidableEq

/-- What the service says about an error. -/
structure ErrorBody where
  message : String
  kind : Option String
  param : Option String
  code : Option String
  deriving DecidableEq

/-- Read the turn inside a choice. -/
def ChoiceMessage.ofJson? (v : Json) : Option ChoiceMessage := do
  match ← fields? ["role", "content"] v with
  | [role, content] =>
    some ⟨← defaulted? none (asOptional? asText?) role,
      ← defaulted? none (asOptional? asText?) content⟩
  | _ => none

/-- Read a choice. -/
def Choice.ofJson? (v : Json) : Option Choice := do
  match ← fields? ["index", "message", "finish_reason"] v with
  | [index, message, finishReason] =>
    some ⟨← defaulted? 0 asWord? index,
      ← defaulted? none (asOptional? ChoiceMessage.ofJson?) message,
      ← defaulted? none (asOptional? asText?) finishReason⟩
  | _ => none

/-- Read the token counts. -/
def Usage.ofJson? (v : Json) : Option Usage := do
  match ← fields? ["prompt_tokens", "completion_tokens", "total_tokens"] v with
  | [prompt, completion, total] =>
    some ⟨← defaulted? 0 asWord? prompt, ← defaulted? 0 asWord? completion,
      ← defaulted? 0 asWord? total⟩
  | _ => none

/-- Read an answer. -/
def Response.ofJson? (v : Json) : Option Response := do
  match ← fields? ["id", "model", "choices", "usage"] v with
  | [id, model, choices, usage] =>
    some ⟨← defaulted? none (asOptional? asText?) id,
      ← defaulted? none (asOptional? asText?) model,
      ← defaulted? [] (asList? Choice.ofJson?) choices,
      ← defaulted? none (asOptional? Usage.ofJson?) usage⟩
  | _ => none

/-- Read the body of an error. -/
def ErrorBody.ofJson? (v : Json) : Option ErrorBody := do
  match ← fields? ["message", "type", "param", "code"] v with
  | [message, kind, param, code] =>
    some ⟨← defaulted? "" asText? message, ← defaulted? none (asOptional? asText?) kind,
      ← defaulted? none (asOptional? asText?) param,
      ← defaulted? none (asOptional? asText?) code⟩
  | _ => none

/-- Read the envelope around the body of an error. -/
def ErrorBody.ofEnvelope? (v : Json) : Option ErrorBody := do
  match ← fields? ["error"] v with
  | [body] => required? ErrorBody.ofJson? body
  | _ => none

/-- The answer that a text holds. -/
def Response.parse? (s : String) : Option Response := (Json.parse? s).bind ofJson?

/-- The body of an error that a text holds. -/
def ErrorBody.parse? (s : String) : Option ErrorBody := (Json.parse? s).bind ofEnvelope?

namespace Response

/-- The answer with a single choice of this content. -/
def ofContent (content : String) : Response :=
  ⟨none, none, [⟨0, some ⟨none, some content⟩, none⟩], none⟩

/-- The text of the first choice without the white space around it, unless nothing is left. -/
def completion? (r : Response) : Option String := do
  let choice ← r.choices.head?
  let content ← (← choice.message).content
  let text := Text.trim content
  if text == "" then none else some text

end Response

/-- Whether the body says that the model is not known: it names the parameter, or it has one of
the two codes. -/
def ErrorBody.rejectsModel (b : ErrorBody) : Bool :=
  b.param == some "model" || b.code == some "model_not_found" || b.code == some "invalid_model"

end SourceTutor.Chat
