import SourceTutor.Chat.Retry

/-!
# One request and its repetitions

`Client.ask` is described here from outside, by the events in which it takes part: the requests it
sends, with their replies, and the waits between them. A `Plan` says for every attempt what is sent,
which replies end the request and how, and how long the wait is otherwise; `Client.plan` is the plan
of a client, where the number of attempts and the model asked depend on whether the model is
replaced after the first reply. `Client.ask_keeps_plan` says that a request follows its plan to the
letter, up to the first reply that ends it.
-/

set_option autoImplicit false

namespace SourceTutor.Chat

variable {σ : Type}

/-! ## What one attempt leads to -/

namespace Client

section

variable {client : Client} (service : Service σ) {model : String} {messages : List Message}
  {attempt : Nat} {w : σ}

theorem askFrom_of_ok (left : Nat) {text : String}
    (h : completionOf (service.exchange (client.request model messages) w).1 = .ok text) :
    client.askFrom service model messages left attempt w =
      (⟨.answered text, []⟩, (service.exchange (client.request model messages) w).2) := by
  rw [askFrom.eq_def]
  simp only [h]

theorem askFrom_of_fatal (left : Nat) {e : Fault}
    (h : completionOf (service.exchange (client.request model messages) w).1 = .error e)
    (hfatal : (e.isUnknownModel || e.severity = .fatal) = true) :
    client.askFrom service model messages left attempt w =
      (⟨.failed (.fatal attempt e.message), [⟨attempt, .zero, .fatal⟩]⟩,
        (service.exchange (client.request model messages) w).2) := by
  rw [askFrom.eq_def]
  simp only [h, hfatal, if_true]

theorem askFrom_of_exhausted {e : Fault}
    (h : completionOf (service.exchange (client.request model messages) w).1 = .error e)
    (hfatal : ¬ (e.isUnknownModel || e.severity = .fatal) = true) :
    client.askFrom service model messages 0 attempt w =
      (⟨.failed (.exhausted (attempt + 1) e.message), [⟨attempt, .zero, .transient⟩]⟩,
        (service.exchange (client.request model messages) w).2) := by
  rw [askFrom.eq_def]
  simp only [h, hfatal, if_false, Bool.false_eq_true]

/-- What the attempts come to that follow a wait. -/
theorem askFrom_of_again (left : Nat) {e : Fault} {delay : Duration}
    (h : completionOf (service.exchange (client.request model messages) w).1 = .error e)
    (hfatal : ¬ (e.isUnknownModel || e.severity = .fatal) = true)
    (hdelay : client.policy.delay? attempt (client.policy.jitter service.draw) = some delay) :
    client.askFrom service model messages (left + 1) attempt w =
      ((client.askFrom service model messages left (attempt + 1)
          (service.sleep delay (service.exchange (client.request model messages) w).2)).1.after
            ⟨attempt, delay, .transient⟩,
        (client.askFrom service model messages left (attempt + 1)
          (service.sleep delay (service.exchange (client.request model messages) w).2)).2) := by
  rw [askFrom.eq_def]
  simp only [h, hfatal, if_false, Bool.false_eq_true, hdelay]

theorem askFrom_of_impossibleWait (left : Nat) {e : Fault}
    (h : completionOf (service.exchange (client.request model messages) w).1 = .error e)
    (hfatal : ¬ (e.isUnknownModel || e.severity = .fatal) = true)
    (hdelay : client.policy.delay? attempt (client.policy.jitter service.draw) = none) :
    client.askFrom service model messages (left + 1) attempt w =
      (⟨.impossibleWait, []⟩, (service.exchange (client.request model messages) w).2) := by
  rw [askFrom.eq_def]
  simp only [h, hfatal, if_false, Bool.false_eq_true, hdelay]

/-- The model that takes the place of the client's when this is the first reply. -/
def replacement? (client : Client) (reply : Reply) : Option String :=
  match completionOf reply with
  | .ok _ => none
  | .error e => if e.isUnknownModel then client.substitute? client.model else none

/-- Without a replacement the client's own model is asked from the first attempt on. -/
theorem ask_of_not_replaced
    (h : client.replacement? (service.exchange (client.request client.model messages) w).1 =
      none) :
    client.ask service messages w =
      client.askFrom service client.model messages (client.budget - 1) 0 w := by
  rw [ask]
  dsimp only
  split
  · rename_i e model hreply hmodel
    simp only [replacement?, hreply, hmodel] at h
    by_cases hunknown : e.isUnknownModel
    · simp [hunknown] at h
    · rw [if_neg hunknown]
  · rfl

/-- With a replacement that one is asked from the second attempt on, without a wait. -/
theorem ask_of_replaced
    (h : client.replacement? (service.exchange (client.request client.model messages) w).1 =
      some model) :
    client.ask service messages w =
      ((client.askFrom service model messages (max client.budget 2 - 2) 1
          (service.exchange (client.request client.model messages) w).2).1.after
            ⟨0, .zero, .transient⟩,
        (client.askFrom service model messages (max client.budget 2 - 2) 1
          (service.exchange (client.request client.model messages) w).2).2) := by
  rw [replacement?] at h
  split at h
  · cases h
  · rename_i e hreply
    by_cases hunknown : e.isUnknownModel
    · rw [if_pos hunknown] at h
      simp only [ask, hreply, h, hunknown, if_true]
    · rw [if_neg hunknown] at h
      cases h

end

end Client

/-! ## Services that mirror each other -/

/-- What one service does in a world, another does in the image of the world. -/
structure Service.Mirrors {τ : Type} (f : σ → τ) (service : Service σ) (mirror : Service τ) :
    Prop where
  exchange : ∀ request w, mirror.exchange request (f w) =
    ((service.exchange request w).1, f (service.exchange request w).2)
  sleep : ∀ duration w, mirror.sleep duration (f w) = f (service.sleep duration w)
  draw : mirror.draw = service.draw

namespace Client

variable {τ : Type} {f : σ → τ} {service : Service σ} {mirror : Service τ}

theorem askFrom_mirrored (client : Client) (h : service.Mirrors f mirror) (model : String)
    (messages : List Message) (left attempt : Nat) (w : σ) :
    client.askFrom mirror model messages left attempt (f w) =
      Prod.map id f (client.askFrom service model messages left attempt w) := by
  induction left using Nat.strongRecOn generalizing attempt w with
  | ind left ih =>
      have hexchange := h.exchange (client.request model messages) w
      have hsame := congrArg (fun out => completionOf out.1) hexchange
      cases hreply : completionOf (service.exchange (client.request model messages) w).1 with
      | ok text =>
          rw [askFrom_of_ok service _ hreply, askFrom_of_ok mirror _ (hsame.trans hreply),
            hexchange]
          rfl
      | error e =>
          have hreply' := hsame.trans hreply
          by_cases hfatal : (e.isUnknownModel || e.severity = .fatal) = true
          · rw [askFrom_of_fatal service _ hreply hfatal,
              askFrom_of_fatal mirror _ hreply' hfatal, hexchange]
            rfl
          cases left with
          | zero =>
              rw [askFrom_of_exhausted service hreply hfatal,
                askFrom_of_exhausted mirror hreply' hfatal, hexchange]
              rfl
          | succ left =>
              cases hdelay : client.policy.delay? attempt (client.policy.jitter service.draw) with
              | none =>
                  have hdelay' := h.draw ▸ hdelay
                  rw [askFrom_of_impossibleWait service _ hreply hfatal hdelay,
                    askFrom_of_impossibleWait mirror _ hreply' hfatal hdelay', hexchange]
                  rfl
              | some delay =>
                  have hdelay' := h.draw ▸ hdelay
                  rw [askFrom_of_again service _ hreply hfatal hdelay,
                    askFrom_of_again mirror _ hreply' hfatal hdelay', hexchange, h.sleep,
                    ih left (Nat.lt_succ_self left)]
                  rfl

/-- A client that asks the mirror gets the same, in the image of the world. -/
theorem ask_mirrored (client : Client) (h : service.Mirrors f mirror) (messages : List Message)
    (w : σ) :
    client.ask mirror messages (f w) = Prod.map id f (client.ask service messages w) := by
  have hexchange := h.exchange (client.request client.model messages) w
  have hfirst := congrArg (fun out => client.replacement? out.1) hexchange
  cases hreplaced : client.replacement?
      (service.exchange (client.request client.model messages) w).1 with
  | none =>
      rw [ask_of_not_replaced service hreplaced,
        ask_of_not_replaced mirror (hfirst.trans hreplaced)]
      exact client.askFrom_mirrored h client.model messages _ 0 w
  | some model =>
      rw [ask_of_replaced service hreplaced, ask_of_replaced mirror (hfirst.trans hreplaced),
        hexchange, client.askFrom_mirrored h]
      rfl

theorem send_mirrored (client : Client) (h : service.Mirrors f mirror) (messages : List Message)
    (w : σ) :
    client.send mirror messages (f w) = Prod.map id f (client.send service messages w) := by
  rw [send, send, client.ask_mirrored h]
  dsimp only [Prod.map, id]
  split
  · rfl
  · rfl

end Client

/-! ## What a service sees -/

/-- What happens between a client and a service. -/
inductive Event where
  /-- A request and the reply to it. -/
  | sent (request : Request) (reply : Reply)
  /-- A wait. -/
  | slept (duration : Duration)

/-- The service that takes note of what happens. -/
def Service.noting (service : Service σ) : Service (σ × List Event) where
  exchange request v :=
    ((service.exchange request v.1).1, (service.exchange request v.1).2,
      v.2 ++ [.sent request (service.exchange request v.1).1])
  sleep duration v := (service.sleep duration v.1, v.2 ++ [.slept duration])
  draw := service.draw

/-- Without the notes, it is the service itself. -/
theorem Service.noting_mirrors (service : Service σ) : service.noting.Mirrors Prod.fst service where
  exchange _ _ := rfl
  sleep _ _ := rfl
  draw := rfl

/-- The outcome without the notes. -/
def unnoted {α : Type} (out : α × (σ × List Event)) : α × σ := (out.1, out.2.1)

namespace Client

/-- **Taking note changes nothing.** -/
theorem ask_noting (client : Client) (service : Service σ) (messages : List Message)
    (v : σ × List Event) :
    unnoted (client.ask service.noting messages v) = client.ask service messages v.1 :=
  (client.ask_mirrored service.noting_mirrors messages v).symm

end Client

/-! ## Plans -/

/-- What a client does attempt by attempt, counted from zero. -/
structure Plan where
  /-- What is sent. -/
  request : Nat → Request
  /-- How the request ends with this reply, if it does. -/
  ending? : Nat → Reply → Option Ending
  /-- The wait after an attempt that does not end the request, if there is one. -/
  wait? : Nat → Option Duration

/-- The failed attempt that a request ends with, unless it ends with an answer. -/
def Ending.attempts (ending : Ending) (attempt : Nat) : List Attempt :=
  match ending with
  | .failed (.fatal _ _) => [⟨attempt, .zero, .fatal⟩]
  | .failed (.exhausted _ _) => [⟨attempt, .zero, .transient⟩]
  | .answered _ | .impossibleWait => []

namespace Plan

/-- What happens in an attempt that does not end the request. -/
def round (plan : Plan) (reply : Nat → Reply) (attempt : Nat) : List Event :=
  .sent (plan.request attempt) (reply attempt) :: (plan.wait? attempt).toList.map .slept

/-- What is recorded of such an attempt. -/
def repeated (plan : Plan) (attempt : Nat) : Attempt :=
  ⟨attempt, (plan.wait? attempt).getD .zero, .transient⟩

/-- The world before each attempt, when the service is asked and waits are made as planned. -/
def world (plan : Plan) (service : Service σ) (w : σ) : Nat → σ
  | 0 => w
  | i + 1 =>
    let after := (service.exchange (plan.request i) (plan.world service w i)).2
    match plan.wait? i with
    | none => after
    | some duration => service.sleep duration after

/-- The replies of the service. -/
def reply (plan : Plan) (service : Service σ) (w : σ) (i : Nat) : Reply :=
  (service.exchange (plan.request i) (plan.world service w i)).1

/-- These events and this trace are what the plan asks for, from attempt number `first` on to
attempt number `last`, when the replies are these. -/
structure Keeps (plan : Plan) (reply : Nat → Reply) (first last : Nat) (events : List Event)
    (trace : Trace) : Prop where
  le : first ≤ last
  /-- The replies before the last leave the request open. -/
  open_before : ∀ i, first ≤ i → i < last → plan.ending? i (reply i) = none
  /-- The last reply ends it. -/
  ending_eq : plan.ending? last (reply last) = some trace.ending
  /-- There is one request for each attempt, and a wait behind each but the last that asks for
  one. -/
  events_eq : events = (List.range' first (last - first)).flatMap (plan.round reply) ++
    [.sent (plan.request last) (reply last)]
  /-- There is one entry for each failed attempt. -/
  attempts_eq : trace.attempts =
    (List.range' first (last - first)).map plan.repeated ++ trace.ending.attempts last

variable {plan : Plan} {reply : Nat → Reply} {first last : Nat} {events : List Event}
  {trace : Trace}

theorem round_of_wait {i : Nat} {duration : Duration} (h : plan.wait? i = some duration) :
    plan.round reply i = [.sent (plan.request i) (reply i), .slept duration] := by
  rw [round, h]
  rfl

theorem round_of_no_wait {i : Nat} (h : plan.wait? i = none) :
    plan.round reply i = [.sent (plan.request i) (reply i)] := by
  rw [round, h]
  rfl

theorem repeated_of_wait {i : Nat} {duration : Duration} (h : plan.wait? i = some duration) :
    plan.repeated i = ⟨i, duration, .transient⟩ := by
  rw [repeated, h]
  rfl

theorem repeated_of_no_wait {i : Nat} (h : plan.wait? i = none) :
    plan.repeated i = ⟨i, .zero, .transient⟩ := by
  rw [repeated, h]
  rfl

/-- A request that ends at once. -/
theorem keeps_last {ending : Ending} (h : plan.ending? last (reply last) = some ending) :
    plan.Keeps reply last last [.sent (plan.request last) (reply last)]
      ⟨ending, ending.attempts last⟩ where
  le := Nat.le_refl _
  open_before i hi hlt := absurd hi (Nat.not_le_of_lt hlt)
  ending_eq := h
  events_eq := by simp
  attempts_eq := by simp

/-- A request with one more attempt in front. -/
theorem Keeps.cons (h : plan.Keeps reply (first + 1) last events trace)
    (hopen : plan.ending? first (reply first) = none) :
    plan.Keeps reply first last (plan.round reply first ++ events)
      (trace.after (plan.repeated first)) where
  le := Nat.le_of_succ_le h.le
  open_before i hi hlt := by
    rcases Nat.eq_or_lt_of_le hi with rfl | hi
    · exact hopen
    · exact h.open_before i hi hlt
  ending_eq := h.ending_eq
  events_eq := by
    have hsize : last - first = last - (first + 1) + 1 := by have := h.le; omega
    rw [h.events_eq, hsize, List.range'_succ, List.flatMap_cons, List.append_assoc]
  attempts_eq := by
    have hsize : last - first = last - (first + 1) + 1 := by have := h.le; omega
    rw [hsize, List.range'_succ, List.map_cons, List.cons_append]
    exact congrArg _ h.attempts_eq

end Plan

/-! ## The plan of a client -/

namespace Client

/-- The number of attempts allowed: one at least, and two when the model is replaced. -/
def allowed (client : Client) (replacement? : Option String) : Nat :=
  if replacement?.isSome then max client.budget 2 else client.budget

/-- The plan of a client for a conversation, when its model is replaced by this one after the first
attempt and these are the waits of its policy. -/
def plan (client : Client) (messages : List Message) (replacement? : Option String)
    (delay : Nat → Duration) : Plan where
  request i :=
    client.request (if i = 0 then client.model else replacement?.getD client.model) messages
  ending? i reply :=
    match completionOf reply with
    | .ok text => some (.answered text)
    | .error e =>
      if i = 0 ∧ replacement?.isSome then none
      else if e.isUnknownModel || e.severity = .fatal then
        some (.failed (.fatal i e.message))
      else if i + 1 < client.allowed replacement? then none
      else some (.failed (.exhausted (client.allowed replacement?) e.message))
  wait? i := if i = 0 ∧ replacement?.isSome then none else some (delay i)

variable {client : Client} {service : Service σ} {messages : List Message}
  {replacement? : Option String} {delay : Nat → Duration} {w : σ}

/-- What is sent in every attempt but the one that leads to a replacement. -/
theorem plan_request {i : Nat} (hi : i = 0 → replacement? = none) :
    (client.plan messages replacement? delay).request i =
      client.request (replacement?.getD client.model) messages := by
  by_cases h0 : i = 0
  · simp [plan, h0, hi h0]
  · simp [plan, h0]

/-- The wait after such an attempt. -/
theorem plan_wait? {i : Nat} (hi : i = 0 → replacement? = none) :
    (client.plan messages replacement? delay).wait? i = some (delay i) := by
  by_cases h0 : i = 0
  · simp [plan, hi h0]
  · simp [plan, h0]

theorem ending?_of_ok {i : Nat} {reply : Reply} {text : String}
    (h : completionOf reply = .ok text) :
    (client.plan messages replacement? delay).ending? i reply = some (.answered text) := by
  simp only [plan, h]

/-- The reply that leads to a replacement leaves the request open. -/
theorem ending?_of_replaced {reply : Reply} {model : String}
    (h : client.replacement? reply = some model) :
    (client.plan messages (some model) delay).ending? 0 reply = none := by
  rw [replacement?] at h
  split at h
  · cases h
  · rename_i e hreply
    simp [plan, hreply]

/-- An error is judged in the same way in every attempt but the one that leads to a replacement. -/
theorem ending?_of_error {i : Nat} {reply : Reply} {e : Fault} (h : completionOf reply = .error e)
    (hi : i = 0 → replacement? = none) :
    (client.plan messages replacement? delay).ending? i reply =
      if e.isUnknownModel || e.severity = .fatal then some (.failed (.fatal i e.message))
      else if i + 1 < client.allowed replacement? then none
      else some (.failed (.exhausted (client.allowed replacement?) e.message)) := by
  have hkept : ¬ (i = 0 ∧ replacement?.isSome) := by
    rintro ⟨h0, hsome⟩
    rw [hi h0] at hsome
    cases hsome
  simp only [plan, h, if_neg hkept]

/-- A reply that ends the request in the plan ends it. -/
theorem askFrom_of_ending {model : String} {plan : Plan} (service : Service σ)
    (hplan : plan = client.plan messages replacement? delay) {left attempt : Nat}
    {ending : Ending} (hattempt : attempt = 0 → replacement? = none)
    (hleft : attempt + left + 1 = client.allowed replacement?)
    (h : plan.ending? attempt (service.exchange (client.request model messages) w).1 =
      some ending) :
    client.askFrom service model messages left attempt w =
      (⟨ending, ending.attempts attempt⟩,
        (service.exchange (client.request model messages) w).2) := by
  cases hreply : completionOf (service.exchange (client.request model messages) w).1 with
  | ok text =>
      rw [hplan, ending?_of_ok hreply] at h
      cases h
      exact askFrom_of_ok service left hreply
  | error e =>
      rw [hplan, ending?_of_error hreply hattempt] at h
      by_cases hfatal : (e.isUnknownModel || e.severity = .fatal) = true
      · rw [if_pos hfatal] at h
        cases h
        exact askFrom_of_fatal service left hreply hfatal
      · rw [if_neg hfatal] at h
        by_cases hmore : attempt + 1 < client.allowed replacement?
        · rw [if_pos hmore] at h
          cases h
        · rw [if_neg hmore] at h
          cases h
          -- no attempt is left exactly if all that are allowed have been made
          obtain rfl : left = 0 := by omega
          rw [askFrom_of_exhausted service hreply hfatal, ← hleft]
          rfl

/-- A reply that leaves the request open in the plan is followed by a wait and another attempt. -/
theorem askFrom_of_open {model : String} {plan : Plan} (service : Service σ)
    (hplan : plan = client.plan messages replacement? delay) {left attempt : Nat}
    (hattempt : attempt = 0 → replacement? = none)
    (hleft : attempt + left + 1 = client.allowed replacement?)
    (hdelay : attempt + 1 < client.allowed replacement? →
      client.policy.delay? attempt (client.policy.jitter service.draw) = some (delay attempt))
    (h : plan.ending? attempt (service.exchange (client.request model messages) w).1 = none) :
    ∃ fewer, left = fewer + 1 ∧ client.askFrom service model messages left attempt w =
      ((client.askFrom service model messages fewer (attempt + 1) (service.sleep (delay attempt)
          (service.exchange (client.request model messages) w).2)).1.after
            ⟨attempt, delay attempt, .transient⟩,
        (client.askFrom service model messages fewer (attempt + 1) (service.sleep (delay attempt)
          (service.exchange (client.request model messages) w).2)).2) := by
  cases hreply : completionOf (service.exchange (client.request model messages) w).1 with
  | ok text =>
      rw [hplan, ending?_of_ok hreply] at h
      cases h
  | error e =>
      rw [hplan, ending?_of_error hreply hattempt] at h
      by_cases hfatal : (e.isUnknownModel || e.severity = .fatal) = true
      · rw [if_pos hfatal] at h
        cases h
      · rw [if_neg hfatal] at h
        by_cases hmore : attempt + 1 < client.allowed replacement?
        · obtain ⟨fewer, rfl⟩ : ∃ fewer, left = fewer + 1 := ⟨left - 1, by omega⟩
          exact ⟨fewer, rfl, askFrom_of_again service fewer hreply hfatal (hdelay hmore)⟩
        · rw [if_neg hmore] at h
          cases h

/-- From any attempt on that is not replaced, with as many left as are allowed. The induction is on
the attempts left. -/
theorem askFrom_keeps_plan {model : String} {plan : Plan} (service : Service σ) (w : σ)
    (hplan : plan = client.plan messages replacement? delay)
    (hdelay : ∀ i, i + 1 < client.allowed replacement? → (i = 0 → replacement? = none) →
      client.policy.delay? i (client.policy.jitter service.draw) = some (delay i))
    (hmodel : replacement?.getD client.model = model)
    (left attempt : Nat) (hattempt : attempt = 0 → replacement? = none)
    (hleft : attempt + left + 1 = client.allowed replacement?) (log : List Event) :
    ∃ last events, last < client.allowed replacement? ∧
      (client.askFrom service.noting model messages left attempt
        (plan.world service w attempt, log)).2.2 = log ++ events ∧
      plan.Keeps (plan.reply service w) attempt last events
        (client.askFrom service.noting model messages left attempt
          (plan.world service w attempt, log)).1 := by
  induction left using Nat.strongRecOn generalizing attempt log with
  | _ left ih =>
      have hrequest : plan.request attempt = client.request model messages := by
        rw [hplan, plan_request hattempt, hmodel]
      have hwait : plan.wait? attempt = some (delay attempt) := by
        rw [hplan, plan_wait? hattempt]
      have hreply : (service.noting.exchange (client.request model messages)
          (plan.world service w attempt, log)).1 = plan.reply service w attempt := by
        rw [Plan.reply, hrequest]
        rfl
      have hafter : (service.noting.exchange (client.request model messages)
          (plan.world service w attempt, log)).2 =
            ((service.exchange (client.request model messages) (plan.world service w attempt)).2,
              log ++ [.sent (client.request model messages) (plan.reply service w attempt)]) := by
        rw [← hreply]
        rfl
      cases hend : plan.ending? attempt (plan.reply service w attempt) with
      | some ending =>
          -- the reply ends the request, and this attempt is the last
          have hkeeps := Plan.keeps_last hend
          rw [← hreply] at hend
          rw [askFrom_of_ending service.noting hplan hattempt hleft hend, hafter, ← hrequest]
          exact ⟨attempt, _, by omega, rfl, hkeeps⟩
      | none =>
          have hopen := hend
          rw [← hreply] at hend
          obtain ⟨fewer, rfl, hask⟩ := askFrom_of_open service.noting hplan hattempt hleft
            (hdelay attempt · hattempt) hend
          -- the attempt and the wait behind it are a round of the plan
          have hslept : service.noting.sleep (delay attempt) (service.noting.exchange
              (client.request model messages) (plan.world service w attempt, log)).2 =
                (plan.world service w (attempt + 1),
                  log ++ plan.round (plan.reply service w) attempt) := by
            rw [hafter, Plan.round_of_wait hwait]
            simp only [Service.noting, Plan.world, hwait, hrequest, List.append_assoc,
              List.singleton_append]
          obtain ⟨last, events, hlast, hlog, hkeeps⟩ := ih fewer (Nat.lt_succ_self _) _
            (fun h => absurd h (Nat.succ_ne_zero attempt)) (by omega)
            (log ++ plan.round (plan.reply service w) attempt)
          rw [hask, hslept, ← Plan.repeated_of_wait hwait]
          refine ⟨last, plan.round (plan.reply service w) attempt ++ events, hlast, ?_,
            hkeeps.cons hopen⟩
          rw [hlog, List.append_assoc]

/-- **A request keeps to its plan.** The model is replaced when the first reply does not know it and
there is another; the plan then says what is sent, when the request ends and how, and how long the
waits are, and this is what happens, up to the first reply that ends the request. -/
theorem ask_keeps_plan (client : Client) (service : Service σ) (messages : List Message) (w : σ)
    (delay : Nat → Duration)
    (hdelay : ∀ i, i + 1 < client.policy.maxAttempts →
      client.policy.delay? i (client.policy.jitter service.draw) = some (delay i)) :
    let replacement? := client.replacement?
      (service.exchange (client.request client.model messages) w).1
    let plan := client.plan messages replacement? delay
    ∃ last, last < client.allowed replacement? ∧
      plan.Keeps (plan.reply service w) 0 last
        (client.ask service.noting messages (w, [])).2.2 (client.ask service messages w).1 := by
  intro replacement? plan
  have htrace : (client.ask service messages w).1 =
      (client.ask service.noting messages (w, [])).1 := by
    rw [← client.ask_noting service messages (w, [])]
    rfl
  have hnoted : client.replacement? (service.noting.exchange
      (client.request client.model messages) (w, [])).1 = replacement? := rfl
  rw [htrace]
  cases hreplaced : replacement? with
  | none =>
      have hallowed : client.allowed replacement? = client.budget := by
        rw [hreplaced]
        rfl
      obtain ⟨last, events, hlast, hlog, hkeeps⟩ := askFrom_keeps_plan service w
        (show plan = client.plan messages replacement? delay from rfl)
        (fun i hi _ => hdelay i (by simp only [hallowed, budget] at hi; omega))
        (by rw [hreplaced, Option.getD_none]) (client.budget - 1) 0 (fun _ => hreplaced)
        (by rw [hallowed, budget]; omega) []
      rw [List.nil_append] at hlog
      rw [ask_of_not_replaced service.noting (hnoted.trans hreplaced)]
      exact ⟨last, hreplaced ▸ hlast, hlog ▸ hkeeps⟩
  | some model =>
      have hallowed : client.allowed replacement? = max client.budget 2 := by
        rw [hreplaced]
        rfl
      have hopen : plan.ending? 0 (plan.reply service w 0) = none := by
        have hplan : plan = client.plan messages (some model) delay := by rw [← hreplaced]
        rw [hplan]
        exact ending?_of_replaced hreplaced
      have hwait : plan.wait? 0 = none := if_pos ⟨rfl, by rw [hreplaced]; rfl⟩
      -- the attempt that leads to the replacement is a round of the plan without a wait
      have hafter : (service.noting.exchange (client.request client.model messages) (w, [])).2 =
          (plan.world service w 1, plan.round (plan.reply service w) 0) := by
        rw [Plan.round_of_no_wait hwait]
        simp only [Plan.world, hwait]
        rfl
      obtain ⟨last, events, hlast, hlog, hkeeps⟩ := askFrom_keeps_plan service w
        (show plan = client.plan messages replacement? delay from rfl)
        (fun i hi hi0 => hdelay i (by
          have : i ≠ 0 := fun h => by rw [hreplaced] at hi0; cases hi0 h
          simp only [hallowed, budget] at hi
          omega))
        (by rw [hreplaced, Option.getD_some]) (max client.budget 2 - 2) 1
        (fun h => absurd h Nat.one_ne_zero) (by rw [hallowed]; omega)
        (plan.round (plan.reply service w) 0)
      rw [ask_of_replaced service.noting (hnoted.trans hreplaced), hafter, hlog,
        ← Plan.repeated_of_no_wait hwait]
      exact ⟨last, hreplaced ▸ hlast, hkeeps.cons hopen⟩

/-- A service that does not know the model at first, then is busy, and answers in the end. -/
def recovering : Service Nat where
  exchange _ n :=
    (match n with
      | 0 => .error (.api 404 (some ⟨"no such model", none, some "model", none⟩) "no such model")
      | 1 => .error (.api 503 none "busy")
      | _ => .ok ⟨none, none, [⟨0, some ⟨none, some " Done. "⟩, none⟩], none⟩, n + 1)
  sleep _ n := n
  draw low _ := low

/-- A client with a substitute for its model, which waits for two seconds and then for three. -/
def patient : Client where
  model := "teacher"
  substitutes := [("teacher", "tutor")]
  sampling := .standard
  policy := ⟨3, .ofSeconds 2, .ofSeconds 3, .finite false 1, .finite false 1⟩

theorem patient_delay (i : Nat) (hi : i + 1 < patient.policy.maxAttempts) :
    patient.policy.delay? i (patient.policy.jitter recovering.draw) =
      some (if i = 0 then .ofSeconds 2 else .ofSeconds 3) := by
  obtain rfl | rfl : i = 0 ∨ i = 1 := by
    have : i + 1 < 3 := hi
    omega
  · decide +kernel
  · decide +kernel

/-- An instance: the model is replaced, and there is a wait before the answer. -/
theorem patient_keeps_plan_recovering :
    let delay : Nat → Duration := fun i => if i = 0 then .ofSeconds 2 else .ofSeconds 3
    let messages := [Message.user "Explain."]
    let plan := patient.plan messages (some "tutor") delay
    (∀ i, i + 1 < patient.policy.maxAttempts →
      patient.policy.delay? i (patient.policy.jitter recovering.draw) = some (delay i)) ∧
    ∃ last, last < 3 ∧
      plan.Keeps (plan.reply recovering 0) 0 last
        (patient.ask recovering.noting messages (0, [])).2.2
        (patient.ask recovering messages 0).1 := by
  intro delay messages plan
  exact ⟨patient_delay, patient.ask_keeps_plan recovering messages 0 delay patient_delay⟩

end Client

end SourceTutor.Chat
