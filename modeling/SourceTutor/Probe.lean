import SourceTutor.Chat.Retry

/-!
# Probing models

One small request each tells which models answer, or whether the service answers at all. A probe
is sent once; what comes back first is reported.
-/

set_option autoImplicit false

namespace SourceTutor.Probe

open SourceTutor.Chat

variable {σ : Type}

/-- The models that are recommended, each with a remark. -/
def recommended : List (String × String) :=
  [("deepseek-coder", "base code model"), ("deepseek-chat", "general chat model"),
    ("deepseek-coder-instruct", "instruction-tuned coder"),
    ("deepseek-lite", "faster, smaller model")]

/-- The models that are probed when none are named. -/
def standardModels : List String :=
  ["deepseek-coder", "deepseek-chat", "deepseek-coder-instruct", "deepseek-lite",
    "deepseek-ai/deepseek-coder-7b-instruct", "deepseek-ai/deepseek-chat"]

/-- A request for ten tokens at temperature zero. -/
def request (model prompt : String) : Request :=
  ⟨model, [.user prompt], ⟨10, .finite false 0⟩⟩

/-- What a probe of a model has shown. -/
structure Result where
  model : String
  /-- Why it does not answer, if it does not. -/
  error : Option String
  deriving DecidableEq

/-- Whether the model answers. -/
def Result.isAvailable (r : Result) : Bool := r.error.isNone

/-- Ask a model whether it works; its answer, if it is usable. -/
def testConnection (service : Service σ) (model : String) (w : σ) : Except Chat.Fault String × σ :=
  let (reply, w) := service.exchange (request model "Hello, are you working?") w
  (completionOf reply, w)

/-- Probe one model; any answer will do. -/
def probeModel (service : Service σ) (model : String) (w : σ) : Result × σ :=
  let (reply, w) :=
    service.exchange (request model "Hello, can you respond with one word?") w
  match reply with
  | .ok _ => (⟨model, none⟩, w)
  | .error e => (⟨model, some e.message⟩, w)

/-- Probe models one after the other. -/
def probeModels (service : Service σ) : List String → σ → List Result × σ
  | [], w => ([], w)
  | model :: rest, w =>
    let (result, w) := probeModel service model w
    let (results, w) := probeModels service rest w
    (result :: results, w)

end SourceTutor.Probe
