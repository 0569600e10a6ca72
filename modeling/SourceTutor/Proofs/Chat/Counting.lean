import Mathlib.Algebra.Order.BigOperators.Group.List
import Mathlib.Algebra.Order.Ring.Nat
import SourceTutor.Proofs.Chat.Sending

/-!
# Counting the attempts in thirty-two bits

`Client.ask` counts its attempts in natural numbers. Here a request counts them in words of
thirty-two bits, where there is not always a next number (`next?`), and takes a jitter factor of its
own for every wait (`Client.count?`). As long as the number of attempts allowed is such a word
itself, the counter never runs out of them: with one factor for all waits the request is the same as
before (`Client.count?_eq_ask`), and with any factors for which the waits are lengths of time it
comes to its end, with waits that have a sum (`Client.exists_count?`).
-/

set_option autoImplicit false

namespace SourceTutor.Chat

variable {σ : Type}

/-! ## The loop -/

/-- The next number of a counter of thirty-two bits, if there is one. -/
def next? (n : Nat) : Option Nat := if n + 1 < UInt32.size then some (n + 1) else none

theorem next?_of_lt {n : Nat} (h : n + 1 < UInt32.size) : next? n = some (n + 1) := if_pos h

theorem of_next?_eq_some {n m : Nat} (h : next? n = some m) : m = n + 1 ∧ m < UInt32.size := by
  unfold next? at h
  split at h
  · next hlt =>
      cases h
      exact ⟨rfl, hlt⟩
  · cases h

/-- What comes of an attempt. -/
inductive Turn where
  /-- The request ends. -/
  | ended (trace : Trace)
  /-- The attempt has failed, and after the wait, if there is one, this model is asked, with so many
  attempts allowed. -/
  | again (failed : Attempt) (wait : Option Duration) (model : String) (allowed : Nat)

/-! ## Bounds -/

section

variable {bound attempt : Nat}

/-- A trace that a request comes to from this attempt on: its attempts are counted in thirty-two
bits, none has a longer wait than the bound, and no wait has been impossible. -/
structure Trace.InBounds (trace : Trace) (bound attempt : Nat) : Prop where
  ending : trace.ending ≠ .impossibleWait
  few : attempt + trace.attempts.length ≤ UInt32.size
  number : ∀ failed ∈ trace.attempts, failed.number < UInt32.size
  delay : ∀ failed ∈ trace.attempts, failed.delay.nanos ≤ bound

/-- A request that ends with a failed attempt. -/
theorem Trace.inBounds_singleton {failure : Failure} {severity : Severity}
    (hfits : attempt + 1 < UInt32.size) :
    Trace.InBounds ⟨.failed failure, [⟨attempt, .zero, severity⟩]⟩ bound attempt where
  ending := nofun
  few := by
    simp only [List.length_singleton]
    omega
  number failed hfailed := by
    obtain rfl := List.mem_singleton.mp hfailed
    show attempt < UInt32.size
    omega
  delay failed hfailed := by
    obtain rfl := List.mem_singleton.mp hfailed
    exact Nat.zero_le bound

/-- One more failed attempt in front. -/
theorem Trace.InBounds.after {trace : Trace} (h : trace.InBounds bound (attempt + 1))
    {failed : Attempt} (hnumber : failed.number = attempt) (hdelay : failed.delay.nanos ≤ bound) :
    (trace.after failed).InBounds bound attempt where
  ending := h.ending
  few := by
    have hfew := h.few
    show attempt + (trace.attempts.length + 1) ≤ UInt32.size
    omega
  number other hother := by
    rcases List.mem_cons.mp hother with rfl | hother
    · have hfew := h.few
      omega
    · exact h.number other hother
  delay other hother := by
    rcases List.mem_cons.mp hother with rfl | hother
    · exact hdelay
    · exact h.delay other hother

/-- What an attempt comes to keeps the bounds: the request ends within them, or goes on with a
counter that is still below the number of attempts allowed. -/
def Turn.Keeps (bound attempt : Nat) : Turn → Prop
  | .ended trace => trace.InBounds bound attempt
  | .again failed _ _ allowed =>
    failed.number = attempt ∧ failed.delay.nanos ≤ bound ∧ attempt + 1 < allowed ∧
      allowed < UInt32.size

/-- Waits in bounds have a sum, if as many of the greatest as there are words of thirty-two bits
do. -/
theorem Trace.InBounds.exists_sum? {trace : Trace} (h : trace.InBounds bound attempt)
    (hbound : UInt32.size * bound < Duration.limit) :
    ∃ total, Duration.sum? (trace.attempts.map (·.delay)) = some total := by
  have hsum : ((trace.attempts.map (·.delay)).map Duration.nanos).sum ≤
      trace.attempts.length * bound := by
    rw [List.map_map]
    have hle := List.sum_le_card_nsmul (trace.attempts.map (Duration.nanos ∘ (·.delay))) bound
    rw [List.length_map, Nat.nsmul_eq_mul] at hle
    apply hle
    intro n hn
    obtain ⟨failed, hfailed, rfl⟩ := List.mem_map.mp hn
    exact h.delay failed hfailed
  have hfew : trace.attempts.length ≤ UInt32.size := Nat.le_trans (Nat.le_add_left _ _) h.few
  have hmul := Nat.mul_le_mul_right bound hfew
  have hlimit : ((trace.attempts.map (·.delay)).map Duration.nanos).sum < Duration.limit := by omega
  refine ⟨⟨_, hlimit⟩, ?_⟩
  rw [Duration.sum?_eq, Duration.ofNanos?, dif_pos hlimit]

end

namespace Client

/-- What comes of the reply to an attempt, when its number and the next one are these. -/
def turn (client : Client) (factor : Nat → Binary.Value) (model : String)
    (allowed attempt next : Nat) (reply : Reply) : Turn :=
  match completionOf reply with
  | .ok text => .ended ⟨.answered text, []⟩
  | .error e =>
    if e.isUnknownModel then
      match if attempt = 0 then client.substitute? model else none with
      | some other => .again ⟨attempt, .zero, .transient⟩ none other (max allowed 2)
      | none => .ended ⟨.failed (.fatal attempt e.message), [⟨attempt, .zero, .fatal⟩]⟩
    else if e.severity = .fatal then
      .ended ⟨.failed (.fatal attempt e.message), [⟨attempt, .zero, .fatal⟩]⟩
    else if next < allowed then
      match client.policy.delay? attempt (factor attempt) with
      | none => .ended ⟨.impossibleWait, []⟩
      | some delay => .again ⟨attempt, delay, .transient⟩ (some delay) model allowed
    else .ended ⟨.failed (.exhausted allowed e.message), [⟨attempt, .zero, .transient⟩]⟩

/-- The world after a wait, if there is one. -/
def waited (service : Service σ) (wait : Option Duration) (w : σ) : σ :=
  match wait with
  | none => w
  | some delay => service.sleep delay w

/-- Ask a model from an attempt on, as long as attempts are allowed. There is no result when the
counter has no next number. -/
def countFrom? (client : Client) (service : Service σ) (factor : Nat → Binary.Value)
    (messages : List Message) (model : String) (allowed attempt : Nat) (w : σ) :
    Option (Trace × σ) :=
  match _ : next? attempt with
  | none => none
  | some next =>
    let (reply, w) := service.exchange (client.request model messages) w
    match client.turn factor model allowed attempt next reply with
    | .ended trace => some (trace, w)
    | .again failed wait model allowed =>
      (client.countFrom? service factor messages model allowed next (waited service wait w)).map
        (Prod.map (Trace.after failed) id)
  termination_by UInt32.size - attempt
  decreasing_by
    obtain ⟨rfl, hlt⟩ := of_next?_eq_some ‹_›
    omega

/-- Ask for an answer to a conversation, with a counter of thirty-two bits and a jitter factor for
every attempt. -/
def count? (client : Client) (service : Service σ) (factor : Nat → Binary.Value)
    (messages : List Message) (w : σ) : Option (Trace × σ) :=
  client.countFrom? service factor messages client.model client.budget 0 w

section

variable {client : Client} {service : Service σ} {factor : Nat → Binary.Value}
  {messages : List Message} {model : String} {allowed attempt : Nat} {w : σ}

/-! ### Its equations -/

theorem countFrom?_of_ended {trace : Trace} (hfits : attempt + 1 < UInt32.size)
    (hturn : client.turn factor model allowed attempt (attempt + 1)
      (service.exchange (client.request model messages) w).1 = .ended trace) :
    client.countFrom? service factor messages model allowed attempt w =
      some (trace, (service.exchange (client.request model messages) w).2) := by
  rw [countFrom?]
  split
  · next hnone => rw [next?_of_lt hfits] at hnone; cases hnone
  · next next hnext =>
      rw [next?_of_lt hfits] at hnext
      cases hnext
      dsimp only
      rw [hturn]

theorem countFrom?_of_again {failed : Attempt} {wait : Option Duration} {model' : String}
    {allowed' : Nat} (hfits : attempt + 1 < UInt32.size)
    (hturn : client.turn factor model allowed attempt (attempt + 1)
      (service.exchange (client.request model messages) w).1 =
        .again failed wait model' allowed') :
    client.countFrom? service factor messages model allowed attempt w =
      (client.countFrom? service factor messages model' allowed' (attempt + 1)
        (waited service wait (service.exchange (client.request model messages) w).2)).map
          (Prod.map (Trace.after failed) id) := by
  rw [countFrom?]
  split
  · next hnone => rw [next?_of_lt hfits] at hnone; cases hnone
  · next next hnext =>
      rw [next?_of_lt hfits] at hnext
      cases hnext
      dsimp only
      rw [hturn]

/-! ### What comes of a reply -/

section

variable {next : Nat} {reply : Reply} {e : Fault}

theorem turn_of_ok {text : String} (h : completionOf reply = .ok text) :
    client.turn factor model allowed attempt next reply = .ended ⟨.answered text, []⟩ := by
  simp only [turn, h]

/-- The model is not replaced after this reply. -/
def Kept (client : Client) (model : String) (attempt : Nat) (reply : Reply) : Prop :=
  attempt = 0 → ∀ e, completionOf reply = .error e → e.isUnknownModel = true →
    client.substitute? model = none

theorem turn_of_fatal (h : completionOf reply = .error e)
    (hfatal : (e.isUnknownModel || e.severity = .fatal) = true)
    (hkept : client.Kept model attempt reply) :
    client.turn factor model allowed attempt next reply =
      .ended ⟨.failed (.fatal attempt e.message), [⟨attempt, .zero, .fatal⟩]⟩ := by
  by_cases hunknown : e.isUnknownModel = true
  · have hnone : (if attempt = 0 then client.substitute? model else none) = none := by
      split
      · next hfirst => exact hkept hfirst e h hunknown
      · rfl
    simp only [turn, h, hunknown, hnone, if_true]
  · simp only [hunknown, Bool.false_or, decide_eq_true_eq] at hfatal
    simp only [turn, h, hunknown, hfatal, if_true, if_false, Bool.false_eq_true]

/-- A failure that may pass leads on while attempts are left, if the wait is a length of time. -/
theorem turn_of_transient (h : completionOf reply = .error e)
    (hfatal : ¬ (e.isUnknownModel || e.severity = .fatal) = true) :
    client.turn factor model allowed attempt next reply =
      if next < allowed then
        match client.policy.delay? attempt (factor attempt) with
        | none => .ended ⟨.impossibleWait, []⟩
        | some delay => .again ⟨attempt, delay, .transient⟩ (some delay) model allowed
      else .ended ⟨.failed (.exhausted allowed e.message), [⟨attempt, .zero, .transient⟩]⟩ := by
  simp only [Bool.or_eq_true, decide_eq_true_eq, not_or] at hfatal
  simp only [turn, h, hfatal.1, hfatal.2, if_false, Bool.false_eq_true]

end

/-! ## One factor for all waits -/

/-- From any attempt on, unless the model is replaced after it, the loop does what `askFrom` does.
The induction is on the attempts left. -/
theorem countFrom?_eq_askFrom (left : Nat) (hfits : attempt + left + 1 < UInt32.size)
    (hkept : client.Kept model attempt
      (service.exchange (client.request model messages) w).1) :
    client.countFrom? service (fun _ => client.policy.jitter service.draw) messages model
        (attempt + left + 1) attempt w =
      some (client.askFrom service model messages left attempt w) := by
  induction left using Nat.strongRecOn generalizing attempt w with
  | ind left ih =>
      have hlt : attempt + 1 < UInt32.size := by omega
      cases hreply : completionOf (service.exchange (client.request model messages) w).1 with
      | ok text =>
          rw [askFrom_of_ok service left hreply]
          exact countFrom?_of_ended hlt (turn_of_ok hreply)
      | error e =>
          by_cases hfatal : (e.isUnknownModel || e.severity = .fatal) = true
          · rw [askFrom_of_fatal service left hreply hfatal]
            exact countFrom?_of_ended hlt (turn_of_fatal hreply hfatal hkept)
          cases left with
          | zero =>
              have hturn : client.turn (fun _ => client.policy.jitter service.draw) model
                  (attempt + 0 + 1) attempt (attempt + 1)
                  (service.exchange (client.request model messages) w).1 =
                    .ended ⟨.failed (.exhausted (attempt + 0 + 1) e.message),
                      [⟨attempt, .zero, .transient⟩]⟩ := by
                rw [turn_of_transient hreply hfatal, if_neg (by omega)]
              rw [askFrom_of_exhausted service hreply hfatal]
              exact countFrom?_of_ended hlt hturn
          | succ left =>
              have hturn : client.turn (fun _ => client.policy.jitter service.draw) model
                  (attempt + (left + 1) + 1) attempt (attempt + 1)
                  (service.exchange (client.request model messages) w).1 =
                    match client.policy.delay? attempt (client.policy.jitter service.draw) with
                    | none => .ended ⟨.impossibleWait, []⟩
                    | some delay => .again ⟨attempt, delay, .transient⟩ (some delay) model
                        (attempt + (left + 1) + 1) := by
                rw [turn_of_transient hreply hfatal, if_pos (by omega)]
              cases hdelay : client.policy.delay? attempt (client.policy.jitter service.draw) with
              | none =>
                  rw [hdelay] at hturn
                  rw [askFrom_of_impossibleWait service left hreply hfatal hdelay]
                  exact countFrom?_of_ended hlt hturn
              | some delay =>
                  -- behind the first attempt no model is replaced
                  have hrest := @ih left (Nat.lt_succ_self left) (attempt + 1)
                    (service.sleep delay (service.exchange (client.request model messages) w).2)
                    (by omega) (fun hzero => absurd hzero (Nat.succ_ne_zero attempt))
                  have hsame : attempt + 1 + left + 1 = attempt + (left + 1) + 1 := by omega
                  rw [hsame] at hrest
                  rw [hdelay] at hturn
                  rw [askFrom_of_again service left hreply hfatal hdelay,
                    countFrom?_of_again hlt hturn]
                  dsimp only [waited]
                  rw [hrest]
                  rfl

/-- **Counting in thirty-two bits changes nothing**, when the number of attempts allowed is itself
counted so. -/
theorem count?_eq_ask (client : Client) (service : Service σ) (messages : List Message) (w : σ)
    (hattempts : client.policy.maxAttempts < UInt32.size) :
    client.count? service (fun _ => client.policy.jitter service.draw) messages w =
      some (client.ask service messages w) := by
  have hbudget : 1 ≤ client.budget ∧ client.budget < UInt32.size := by
    have hone : 1 < UInt32.size := by decide
    unfold budget
    omega
  unfold count?
  cases hreplaced : client.replacement?
      (service.exchange (client.request client.model messages) w).1 with
  | none =>
      have hkept : client.Kept client.model 0
          (service.exchange (client.request client.model messages) w).1 := by
        intro _ e hreply hunknown
        rw [replacement?, hreply] at hreplaced
        simpa only [hunknown, if_true] using hreplaced
      have hsame : 0 + (client.budget - 1) + 1 = client.budget := by omega
      have hloop := countFrom?_eq_askFrom (client.budget - 1) (by omega) hkept
      rw [hsame] at hloop
      rw [hloop, ask_of_not_replaced service hreplaced]
  | some other =>
      obtain ⟨e, hreply, hunknown, hother⟩ : ∃ e,
          completionOf (service.exchange (client.request client.model messages) w).1 = .error e ∧
            e.isUnknownModel = true ∧ client.substitute? client.model = some other := by
        unfold replacement? at hreplaced
        split at hreplaced
        · cases hreplaced
        · next e hreply =>
            split at hreplaced
            · next hunknown => exact ⟨e, hreply, hunknown, hreplaced⟩
            · cases hreplaced
      have hturn : client.turn (fun _ => client.policy.jitter service.draw) client.model
          client.budget 0 (0 + 1)
          (service.exchange (client.request client.model messages) w).1 =
            .again ⟨0, .zero, .transient⟩ none other (max client.budget 2) := by
        simp only [turn, hreply, hunknown, if_true, hother]
      have htwo : 2 < UInt32.size := by decide
      have hlater : client.Kept other (0 + 1) (service.exchange (client.request other messages)
          (service.exchange (client.request client.model messages) w).2).1 := by
        intro hzero
        omega
      have hrest := countFrom?_eq_askFrom (max client.budget 2 - 2) (by omega) hlater
      have hsame : 0 + 1 + (max client.budget 2 - 2) + 1 = max client.budget 2 := by omega
      rw [hsame] at hrest
      rw [countFrom?_of_again (by decide) hturn, ask_of_replaced service hreplaced]
      dsimp only [waited]
      rw [hrest]
      rfl

/-! ## A factor for every wait -/

variable {bound : Nat}

theorem turn_keeps (hattempt : attempt < allowed) (hallowed : allowed < UInt32.size)
    (hwait : ∃ d, client.policy.delay? attempt (factor attempt) = some d ∧ d.nanos ≤ bound)
    (reply : Reply) :
    (client.turn factor model allowed attempt (attempt + 1) reply).Keeps bound attempt := by
  obtain ⟨delay, hdelay, hle⟩ := hwait
  have hfits : attempt + 1 < UInt32.size := by omega
  have htwo : 2 < UInt32.size := by decide
  unfold turn
  split
  · have hle : attempt ≤ UInt32.size := by omega
    exact ⟨nofun, hle, nofun, nofun⟩
  split
  · split
    · next other hother =>
        -- only the first attempt leads to another model
        have hzero : attempt = 0 := by
          split at hother
          · assumption
          · cases hother
        exact ⟨rfl, Nat.zero_le bound, by omega, by omega⟩
    · exact Trace.inBounds_singleton hfits
  split
  · exact Trace.inBounds_singleton hfits
  split
  · next hnext =>
      rw [hdelay]
      exact ⟨rfl, hle, hnext, hallowed⟩
  · exact Trace.inBounds_singleton hfits

/-- From any attempt on. The induction is on the numbers that are left to the counter. -/
theorem exists_countFrom? (hattempt : attempt < allowed) (hallowed : allowed < UInt32.size)
    (hwait : ∀ i, ∃ d, client.policy.delay? i (factor i) = some d ∧ d.nanos ≤ bound) :
    ∃ trace w', client.countFrom? service factor messages model allowed attempt w =
      some (trace, w') ∧ trace.InBounds bound attempt := by
  obtain ⟨left, hleft⟩ : ∃ left, attempt + left + 1 = UInt32.size := ⟨UInt32.size - 1 - attempt,
    by omega⟩
  induction left generalizing attempt allowed model w with
  | zero => omega
  | succ left ih =>
      have hfits : attempt + 1 < UInt32.size := by omega
      have hkeeps : (client.turn factor model allowed attempt (attempt + 1)
          (service.exchange (client.request model messages) w).1).Keeps bound attempt :=
        turn_keeps hattempt hallowed (hwait attempt) _
      cases hturn : client.turn factor model allowed attempt (attempt + 1)
          (service.exchange (client.request model messages) w).1 with
      | ended trace =>
          rw [hturn] at hkeeps
          exact ⟨trace, _, countFrom?_of_ended hfits hturn, hkeeps⟩
      | again failed wait model' allowed' =>
          rw [hturn] at hkeeps
          obtain ⟨hnumber, hdelay, hnext, hallowed'⟩ := hkeeps
          obtain ⟨trace, w', hloop, hbounds⟩ : ∃ trace w', client.countFrom? service factor
              messages model' allowed' (attempt + 1)
              (waited service wait (service.exchange (client.request model messages) w).2) =
                some (trace, w') ∧ trace.InBounds bound (attempt + 1) :=
            ih hnext hallowed' (by omega)
          refine ⟨trace.after failed, w', ?_, hbounds.after hnumber hdelay⟩
          rw [countFrom?_of_again hfits hturn, hloop]
          rfl

/-- **The counter never runs out**, whatever the replies and the factors are, as long as the waits
are lengths of time within the bound. -/
theorem exists_count? (hattempts : client.policy.maxAttempts < UInt32.size)
    (hwait : ∀ i, ∃ d, client.policy.delay? i (factor i) = some d ∧ d.nanos ≤ bound) :
    ∃ trace w', client.count? service factor messages w = some (trace, w') ∧
      trace.InBounds bound 0 := by
  have hone : 1 < UInt32.size := by decide
  have hbudget : 0 < client.budget ∧ client.budget < UInt32.size := by
    unfold budget
    omega
  exact exists_countFrom? hbudget.1 hbudget.2 hwait

end

end Client

end SourceTutor.Chat
