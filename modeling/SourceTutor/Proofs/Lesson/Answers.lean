import SourceTutor.Lesson.Analysis
import SourceTutor.Proofs.Chat.Asking

/-!
# Answers of the service

What the service answers between two worlds is read off the requests sent in between, with the
conversation that each answer belongs to (`Surroundings.Hears`). A client that asks and gets an
answer has heard this one answer and no other, to the conversation it asked about, however often it
had to ask (`Client.hears_send`); and it leaves the files alone (`Client.tree_send`).
-/

set_option autoImplicit false

namespace SourceTutor

open SourceTutor.Chat

namespace Lesson

/-! ## What is heard -/

/-- The usable answers to these requests, when the others have been sent before; each comes with the
conversation that it answers. -/
def Surroundings.answers (around : Surroundings) :
    List Request → List Request → List (List Message × String)
  | _, [] => []
  | sent, request :: rest =>
    match completionOf (around.reply (sent ++ [request])) with
    | .ok text => (request.messages, text) :: around.answers (sent ++ [request]) rest
    | .error _ => around.answers (sent ++ [request]) rest

/-- Between the two worlds these answers are given, in this order. -/
def Surroundings.Hears (around : Surroundings) (w w' : World)
    (found : List (List Message × String)) : Prop :=
  ∃ requests, w'.sent = w.sent ++ requests ∧ around.answers w.sent requests = found

variable {around : Surroundings} {w w' w'' : World}
  {found more : List (List Message × String)}

theorem Surroundings.answers_append (around : Surroundings) (sent requests rest : List Request) :
    around.answers sent (requests ++ rest) =
      around.answers sent requests ++ around.answers (sent ++ requests) rest := by
  induction requests generalizing sent with
  | nil => simp [answers]
  | cons request requests ih =>
      rw [List.cons_append, answers, answers]
      split
      · rw [ih, List.cons_append, List.append_assoc, List.singleton_append]
      · rw [ih, List.append_assoc, List.singleton_append]

/-- Without a request nothing is heard. -/
theorem Surroundings.hears_nil (around : Surroundings) (h : w'.sent = w.sent) :
    around.Hears w w' [] :=
  ⟨[], by rw [h, List.append_nil], rfl⟩

/-- A wait leaves the files and the requests alone. The world is taken apart first, since otherwise
the lengths of time are compared. -/
theorem Surroundings.sleep_spec (around : Surroundings) (d : Duration) (w : World) :
    (around.service.sleep d w).tree = w.tree ∧ (around.service.sleep d w).sent = w.sent := by
  cases w
  exact ⟨rfl, rfl⟩

theorem Surroundings.Hears.trans (h : around.Hears w w' found) (h' : around.Hears w' w'' more) :
    around.Hears w w'' (found ++ more) := by
  obtain ⟨requests, hsent, hfound⟩ := h
  obtain ⟨rest, hsent', hmore⟩ := h'
  refine ⟨requests ++ rest, by rw [hsent', hsent, List.append_assoc], ?_⟩
  rw [around.answers_append, hfound, ← hsent, hmore]

section

variable {request : Request}

theorem Surroundings.hears_of_ok {text : String}
    (h : completionOf (around.service.exchange request w).1 = .ok text) :
    around.Hears w (around.service.exchange request w).2 [(request.messages, text)] := by
  refine ⟨[request], rfl, ?_⟩
  have hreply : completionOf (around.reply (w.sent ++ [request])) = .ok text := h
  simp only [answers, hreply]

theorem Surroundings.hears_of_error {e : Chat.Fault}
    (h : completionOf (around.service.exchange request w).1 = .error e) :
    around.Hears w (around.service.exchange request w).2 [] := by
  refine ⟨[request], rfl, ?_⟩
  have hreply : completionOf (around.reply (w.sent ++ [request])) = .error e := h
  simp only [answers, hreply]

end

end Lesson

/-! ## What a client hears -/

namespace Chat

open SourceTutor.Lesson

/-- The answer that a request ends with. -/
def Ending.answer? : Ending → Option String
  | .answered text => some text
  | _ => none

/-- A request that comes to this: its answer is all that is heard, and the files are the same. -/
def Trace.Heard (around : Surroundings) (messages : List Message) (w : World)
    (out : Trace × World) : Prop :=
  around.Hears w out.2 (out.1.ending.answer?.toList.map (messages, ·)) ∧ out.2.tree = w.tree

namespace Client

variable {around : Surroundings}

/-- From any attempt on. The induction is on the attempts left. -/
theorem heard_askFrom (client : Client) (around : Surroundings) (model : String)
    (messages : List Message) (left attempt : Nat) (w : World) :
    Trace.Heard around messages w
      (client.askFrom around.service model messages left attempt w) := by
  induction left generalizing attempt w with
  | zero =>
      cases h : completionOf (around.service.exchange (client.request model messages) w).1 with
      | ok text =>
          rw [askFrom_of_ok around.service 0 h]
          exact ⟨Surroundings.hears_of_ok h, rfl⟩
      | error e =>
          by_cases hfatal : (e.isUnknownModel || e.severity = .fatal) = true
          · rw [askFrom_of_fatal around.service 0 h hfatal]
            exact ⟨Surroundings.hears_of_error h, rfl⟩
          · rw [askFrom_of_exhausted around.service h hfatal]
            exact ⟨Surroundings.hears_of_error h, rfl⟩
  | succ left ih =>
      cases h : completionOf (around.service.exchange (client.request model messages) w).1 with
      | ok text =>
          rw [askFrom_of_ok around.service _ h]
          exact ⟨Surroundings.hears_of_ok h, rfl⟩
      | error e =>
          by_cases hfatal : (e.isUnknownModel || e.severity = .fatal) = true
          · rw [askFrom_of_fatal around.service _ h hfatal]
            exact ⟨Surroundings.hears_of_error h, rfl⟩
          cases hdelay : client.policy.delay? attempt
              (client.policy.jitter around.service.draw) with
          | none =>
              rw [askFrom_of_impossibleWait around.service _ h hfatal hdelay]
              exact ⟨Surroundings.hears_of_error h, rfl⟩
          | some delay =>
              -- nothing is heard before the wait, and nothing during it
              rw [askFrom_of_again around.service _ h hfatal hdelay]
              obtain ⟨hears, htree⟩ := ih (attempt + 1) (around.service.sleep delay
                (around.service.exchange (client.request model messages) w).2)
              have hslept : around.Hears w (around.service.sleep delay
                  (around.service.exchange (client.request model messages) w).2) ([] ++ []) :=
                (Surroundings.hears_of_error h).trans (around.hears_nil (around.sleep_spec _ _).2)
              exact ⟨hslept.trans hears, htree.trans (around.sleep_spec _ _).1⟩

theorem heard_ask (client : Client) (around : Surroundings) (messages : List Message) (w : World) :
    Trace.Heard around messages w (client.ask around.service messages w) := by
  cases h : client.replacement?
      (around.service.exchange (client.request client.model messages) w).1 with
  | none =>
      rw [ask_of_not_replaced around.service h]
      exact client.heard_askFrom around client.model messages _ 0 w
  | some model =>
      rw [ask_of_replaced around.service h]
      obtain ⟨hears, htree⟩ := client.heard_askFrom around model messages
        (max client.budget 2 - 2) 1
        (around.service.exchange (client.request client.model messages) w).2
      -- only an error leads to another model
      have hfirst : around.Hears w
          (around.service.exchange (client.request client.model messages) w).2 [] := by
        rw [replacement?] at h
        split at h
        · cases h
        · rename_i e hreply
          exact Surroundings.hears_of_error hreply
      exact ⟨hfirst.trans hears, htree⟩

/-- Asking leaves the files alone. -/
theorem tree_send (client : Client) (around : Surroundings) (messages : List Message) (w : World) :
    (client.send around.service messages w).2.tree = w.tree := by
  have h := (client.heard_ask around messages w).2
  rw [send]
  generalize client.ask around.service messages w = out at h
  obtain ⟨trace, w'⟩ := out
  dsimp only
  split <;> exact h

/-- At most one answer is heard, to the conversation that was asked about; a request that ends with
an answer has heard this one. -/
theorem hears_send_opt (client : Client) (around : Surroundings) (messages : List Message)
    (w : World) :
    ∃ text? : Option String, around.Hears w (client.send around.service messages w).2
        (text?.toList.map (messages, ·)) ∧
      ∀ text, (client.send around.service messages w).1 = .answered text → text? = some text := by
  have hears := (client.heard_ask around messages w).1
  rw [send]
  generalize client.ask around.service messages w = out at hears
  obtain ⟨trace, w'⟩ := out
  refine ⟨trace.ending.answer?, ?_⟩
  dsimp only
  split
  · refine ⟨hears, fun text h => ?_⟩
    cases h
  · refine ⟨hears, fun text h => ?_⟩
    have hending : trace.ending = .answered text := h
    rw [hending]
    rfl

/-- **An answer is all that is heard**, and belongs to the conversation that was asked about. -/
theorem hears_send (client : Client) {messages : List Message} {w : World} {text : String}
    (h : (client.send around.service messages w).1 = .answered text) :
    around.Hears w (client.send around.service messages w).2 [(messages, text)] := by
  obtain ⟨text?, hears, hanswered⟩ := client.hears_send_opt around messages w
  rw [hanswered text h] at hears
  exact hears

end Client

end Chat

end SourceTutor
