import SourceTutor.Chat.Fault
import SourceTutor.Chat.Message
import SourceTutor.Chat.RetryPolicy

/-!
# Asking until there is an answer

`Client.ask` sends a request and, while it fails for a transient reason and attempts are left,
waits and sends it again. A model that the service does not know is replaced once, at the first
attempt and without a wait, by the substitute named for it. The result comes with a record of the
failed attempts.

The world in which this happens is a parameter: `Service` says how a request is answered and how
time passes in it.
-/

set_option autoImplicit false

namespace SourceTutor.Chat

variable {σ : Type}

/-- What the outside world does for a client. -/
structure Service (σ : Type) where
  exchange : Request → σ → Reply × σ
  sleep : Duration → σ → σ
  /-- Pick a jitter factor between two bounds. -/
  draw : Binary.Value → Binary.Value → Binary.Value

/-- What is asked of the service, and how. -/
structure Client where
  model : String
  /-- For some models, another to ask when the service does not know them. -/
  substitutes : List (String × String)
  sampling : Sampling
  policy : RetryPolicy
  deriving DecidableEq

/-- A failed attempt. -/
structure Attempt where
  /-- Its number, counted from zero. -/
  number : Nat
  /-- The wait after it. -/
  delay : Duration
  /-- Whether asking again may have helped. -/
  severity : Severity
  deriving DecidableEq

/-- Why a request has no answer in the end. -/
inductive Failure where
  /-- An attempt fails for a reason that will not go away. -/
  | fatal (attempt : Nat) (reason : String)
  | exhausted (attempts : Nat) (lastError : String)
  deriving DecidableEq

/-- The text of a failure. -/
def Failure.message : Failure → String
  | .fatal attempt reason => "fatal error on attempt " ++ toString attempt ++ ": " ++ reason
  | .exhausted attempts lastError =>
    "gave up after " ++ toString attempts ++ " attempts: " ++ lastError

/-- How a request ends. -/
inductive Ending where
  | answered (text : String)
  | failed (failure : Failure)
  /-- With a wait that is no length of time. -/
  | impossibleWait
  deriving DecidableEq

/-- How a request ends, and the attempts that failed before that. -/
structure Trace where
  ending : Ending
  /-- The failed attempts, in order. -/
  attempts : List Attempt
  deriving DecidableEq

/-- The trace with an attempt in front. -/
def Trace.after (attempt : Attempt) (trace : Trace) : Trace :=
  { trace with attempts := attempt :: trace.attempts }

namespace Client

/-- The request for a conversation to a model. -/
def request (client : Client) (model : String) (messages : List Message) : Request :=
  ⟨model, messages, client.sampling⟩

/-- The model to ask instead of one that is not known. -/
def substitute? (client : Client) (model : String) : Option String :=
  client.substitutes.lookup model

/-- Ask a model from attempt number `attempt` on, with `left` more attempts after this one. -/
def askFrom (client : Client) (service : Service σ) (model : String) (messages : List Message) :
    Nat → Nat → σ → Trace × σ
  | left, attempt, w =>
    let (reply, w) := service.exchange (client.request model messages) w
    match completionOf reply with
    | .ok text => (⟨.answered text, []⟩, w)
    | .error e =>
      if e.isUnknownModel || e.severity = .fatal then
        (⟨.failed (.fatal attempt e.message), [⟨attempt, .zero, .fatal⟩]⟩, w)
      else match left with
        | 0 =>
          (⟨.failed (.exhausted (attempt + 1) e.message), [⟨attempt, .zero, .transient⟩]⟩, w)
        | left + 1 =>
          match client.policy.delay? attempt (client.policy.jitter service.draw) with
          | none => (⟨.impossibleWait, []⟩, w)
          | some delay =>
            let (trace, w) :=
              client.askFrom service model messages left (attempt + 1) (service.sleep delay w)
            (trace.after ⟨attempt, delay, .transient⟩, w)

/-- The number of attempts of a request, at least one. -/
def budget (client : Client) : Nat := max 1 client.policy.maxAttempts

/-- Ask for an answer to a conversation. When the service does not know the model and there is a
substitute, the first attempt is spent on finding that out, and at least one more is allowed. -/
def ask (client : Client) (service : Service σ) (messages : List Message) (w : σ) : Trace × σ :=
  let (reply, after) := service.exchange (client.request client.model messages) w
  match completionOf reply, client.substitute? client.model with
  | .error e, some model =>
    if e.isUnknownModel then
      let (trace, after) :=
        client.askFrom service model messages (max client.budget 2 - 2) 1 after
      (trace.after ⟨0, .zero, .transient⟩, after)
    else client.askFrom service client.model messages (client.budget - 1) 0 w
  | _, _ => client.askFrom service client.model messages (client.budget - 1) 0 w

/-- Ask for an answer to a conversation, when the waits are added up too. -/
def send (client : Client) (service : Service σ) (messages : List Message) (w : σ) :
    Ending × σ :=
  let (trace, w) := client.ask service messages w
  match Duration.sum? (trace.attempts.map (·.delay)) with
  | none => (.impossibleWait, w)
  | some _ => (trace.ending, w)

end Client

end SourceTutor.Chat
