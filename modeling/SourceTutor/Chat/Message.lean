import SourceTutor.Binary.Format

/-!
# Turns and requests

A conversation is a list of turns, oldest first. A request carries the conversation so far to a
model, with a bound on the length of the answer and a sampling temperature.
-/

set_option autoImplicit false

namespace SourceTutor.Chat

/-- Who speaks. -/
inductive Role where
  | system
  | user
  | assistant
  deriving DecidableEq

/-- The name of a role. -/
def Role.name : Role → String
  | .system => "system"
  | .user => "user"
  | .assistant => "assistant"

/-- One turn of a conversation. -/
structure Message where
  role : Role
  content : String
  deriving DecidableEq

/-- A turn that sets the scene. -/
def Message.system (content : String) : Message := ⟨.system, content⟩

/-- A turn that asks. -/
def Message.user (content : String) : Message := ⟨.user, content⟩

/-- A turn that answers. -/
def Message.assistant (content : String) : Message := ⟨.assistant, content⟩

/-- How answers are drawn. -/
structure Sampling where
  maxTokens : Nat
  temperature : Binary.Value
  deriving DecidableEq

/-- Four thousand and ninety-six tokens at a temperature of one fifth. -/
def Sampling.standard : Sampling := ⟨4096, Binary.single.ofDecimal false 2 (-1)⟩

/-- A request to a model. -/
structure Request where
  model : String
  messages : List Message
  sampling : Sampling
  deriving DecidableEq

end SourceTutor.Chat
