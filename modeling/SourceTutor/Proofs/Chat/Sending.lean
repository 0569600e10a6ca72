import Mathlib.Algebra.Order.Ring.Nat
import Mathlib.Algebra.Ring.Rat
import SourceTutor.Proofs.Chat.Asking

/-!
# What a client gets

A client that is sent off with a conversation comes back with an answer or with a failure
(`Client.send_ends`), as long as the waits of its policy are lengths of time and so is their sum
(`RetryPolicy.WaitsFit`). An answer is a text with something other than white space at both ends
(`Text.Trimmed`), and every request on the way carries the same conversation
(`Client.messages_of_sent`).
-/

set_option autoImplicit false

namespace SourceTutor

/-! ## Trimmed texts -/

/-- The text is not empty, and there is no white space at either end. -/
structure Text.Trimmed (text : String) : Prop where
  ne_empty : text ≠ ""
  first : ∀ c, text.toList.head? = some c → Text.isBlank c = false
  last : ∀ c, text.toList.getLast? = some c → Text.isBlank c = false

namespace Text

theorem head?_trimStart {s : List Char} {c : Char} (h : (trimStart s).head? = some c) :
    isBlank c = false := by
  have hnot := List.head?_dropWhile_not isBlank s
  rw [trimStart] at h
  rw [h] at hnot
  exact hnot

theorem getLast?_trimEnd {s : List Char} {c : Char} (h : (trimEnd s).getLast? = some c) :
    isBlank c = false := by
  rw [trimEnd, List.getLast?_reverse] at h
  exact head?_trimStart h

/-- What stands first when the end is trimmed stood first before. -/
theorem head?_trimEnd {s : List Char} {c : Char} (h : (trimEnd s).head? = some c) :
    s.head? = some c := by
  obtain ⟨dropped, hdropped⟩ : trimEnd s <+: s := by
    have hsuffix := List.dropWhile_suffix (l := s.reverse) isBlank
    rw [← List.reverse_prefix, List.reverse_reverse] at hsuffix
    exact hsuffix
  rw [← hdropped, List.head?_append, h]
  rfl

/-- What is left of a text that is not blank is trimmed. -/
theorem trimmed_trim {s : String} (h : trim s ≠ "") : Trimmed (trim s) where
  ne_empty := h
  first c hc := by
    rw [trim, String.toList_ofList] at hc
    exact head?_trimStart (head?_trimEnd hc)
  last c hc := by
    rw [trim, String.toList_ofList] at hc
    exact getLast?_trimEnd hc

end Text

/-! ## Sums of lengths of time -/

namespace Duration

theorem foldlM_add?_eq (d : Duration) (ds : List Duration) :
    ds.foldlM add? d = ofNanos? (d.nanos + (ds.map nanos).sum) := by
  induction ds generalizing d with
  | nil => simp [ofNanos?, d.nanos_lt]
  | cons e ds ih =>
      rw [List.foldlM_cons, List.map_cons, List.sum_cons, ← Nat.add_assoc]
      by_cases hfits : d.nanos + e.nanos < limit
      · have hadd : add? d e = some ⟨d.nanos + e.nanos, hfits⟩ := dif_pos hfits
        rw [hadd]
        exact ih _
      · -- a sum that is out of range on the way stays out of range
        have hadd : add? d e = none := dif_neg hfits
        have hout : ¬ d.nanos + e.nanos + (ds.map nanos).sum < limit := by omega
        rw [hadd, ofNanos?, dif_neg hout]
        rfl

/-- Only the whole sum has to be in range. -/
theorem sum?_eq (ds : List Duration) : sum? ds = ofNanos? (ds.map nanos).sum := by
  rw [sum?, foldlM_add?_eq]
  exact congrArg ofNanos? (Nat.zero_add _)

end Duration

/-- Fewer and smaller terms have a smaller sum. -/
theorem sum_map_range_le {f g : Nat → Nat} {m n : Nat} (hmn : m ≤ n)
    (h : ∀ i, i < m → f i ≤ g i) : ((List.range m).map f).sum ≤ ((List.range n).map g).sum := by
  induction n generalizing m with
  | zero =>
      obtain rfl : m = 0 := Nat.le_zero.mp hmn
      exact Nat.le_refl _
  | succ n ih =>
      rw [List.range_succ, List.map_append, List.sum_append]
      rcases Nat.eq_or_lt_of_le hmn with rfl | hlt
      · have hrest := ih (Nat.le_refl n) fun i hi => h i (Nat.lt_succ_of_lt hi)
        have hlast := h n (Nat.lt_succ_self n)
        rw [List.range_succ, List.map_append, List.sum_append]
        simp only [List.map_cons, List.map_nil, List.sum_cons, List.sum_nil]
        omega
      · have hrest := ih (Nat.le_of_lt_succ hlt) h
        omega

namespace Chat

variable {σ : Type}

/-- The waits of the policy for this jitter factor are lengths of time, and so is the sum of all of
them. -/
def RetryPolicy.WaitsFit (policy : RetryPolicy) (jitter : Binary.Value) : Prop :=
  ∃ delay : Nat → Duration,
    (∀ i, i + 1 < policy.maxAttempts → policy.delay? i jitter = some (delay i)) ∧
    ((List.range (policy.maxAttempts - 1)).map fun i => (delay i).nanos).sum < Duration.limit

/-! ## Answers -/

/-- A usable answer is trimmed. -/
theorem trimmed_of_completion {response : Response} {text : String}
    (h : response.completion? = some text) : Text.Trimmed text := by
  simp only [Response.completion?, Option.bind_eq_bind, Option.bind_eq_some_iff] at h
  obtain ⟨choice, -, message, -, content, -, h⟩ := h
  split at h
  · cases h
  · rename_i hne
    cases h
    exact Text.trimmed_trim (by simpa using hne)

theorem trimmed_of_completionOf {reply : Reply} {text : String} (h : completionOf reply = .ok text) :
    Text.Trimmed text := by
  cases reply with
  | error e => cases h
  | ok response =>
      simp only [completionOf] at h
      split at h
      · rename_i heq
        cases h
        exact trimmed_of_completion heq
      · cases h

namespace Client

/-- What happens between the client and the service when the client is sent off. -/
def events (client : Client) (service : Service σ) (messages : List Message) (w : σ) :
    List Event :=
  (client.ask service.noting messages (w, [])).2.2

section

variable {client : Client} {service : Service σ} {messages : List Message}
  {replacement? : Option String} {delay : Nat → Duration} {w : σ}

/-- In a plan a request ends with a trimmed answer or with a failure. -/
theorem ending_of_plan {i : Nat} {reply : Reply} {ending : Ending}
    (h : (client.plan messages replacement? delay).ending? i reply = some ending) :
    (∃ text, ending = .answered text ∧ Text.Trimmed text) ∨
      ∃ failure, ending = .failed failure := by
  cases hreply : completionOf reply with
  | ok text =>
      rw [ending?_of_ok hreply] at h
      cases h
      exact .inl ⟨text, rfl, trimmed_of_completionOf hreply⟩
  | error e =>
      simp only [plan, hreply] at h
      split at h
      · cases h
      split at h
      · cases h
        exact .inr ⟨_, rfl⟩
      split at h
      · cases h
      · cases h
        exact .inr ⟨_, rfl⟩

/-- The waits recorded for the attempts of a plan are no longer than all waits of the policy. -/
theorem sum_waits_le {reply : Nat → Reply} {last : Nat} {log : List Event} {trace : Trace}
    (hlast : last < client.allowed replacement?)
    (h : (client.plan messages replacement? delay).Keeps reply 0 last log trace) :
    ((trace.attempts.map (·.delay)).map Duration.nanos).sum ≤
      ((List.range (client.policy.maxAttempts - 1)).map fun i => (delay i).nanos).sum := by
  -- the attempt that the request ends with has no wait
  have hending : ((trace.ending.attempts last).map fun a => a.delay.nanos).sum = 0 := by
    cases trace.ending with
    | answered text => rfl
    | failed failure => cases failure <;> rfl
    | impossibleWait => rfl
  have hattempts : ((trace.attempts.map (·.delay)).map Duration.nanos).sum =
      ((List.range last).map fun i =>
        ((client.plan messages replacement? delay).repeated i).delay.nanos).sum := by
    rw [List.map_map, h.attempts_eq, List.map_append, List.sum_append, List.map_map,
      Nat.sub_zero, ← List.range_eq_range']
    exact Nat.add_eq_left.mpr hending
  rw [hattempts]
  by_cases hfew : last ≤ client.policy.maxAttempts - 1
  · refine sum_map_range_le hfew fun i _ => ?_
    simp only [Plan.repeated, plan]
    split
    · exact Nat.zero_le _
    · exact Nat.le_refl _
  · -- the second attempt is one more than the policy allows, and there is no wait before it
    have hreplaced : replacement?.isSome ∧ last = 1 := by
      rw [allowed, budget] at hlast
      split at hlast
      · rename_i hsome
        exact ⟨hsome, by omega⟩
      · omega
    obtain ⟨hsome, rfl⟩ := hreplaced
    have hnone : ((client.plan messages replacement? delay).repeated 0).delay.nanos = 0 := by
      simp only [Plan.repeated, plan, hsome, and_self, if_true]
      rfl
    simp [hnone]

/-- **How a client comes back**: with a trimmed answer or with a failure. -/
theorem send_ends (hwaits : client.policy.WaitsFit (client.policy.jitter service.draw))
    (messages : List Message) (w : σ) :
    (∃ text, (client.send service messages w).1 = .answered text ∧ Text.Trimmed text) ∨
      ∃ failure, (client.send service messages w).1 = .failed failure := by
  obtain ⟨delay, hdelay, hsum⟩ := hwaits
  obtain ⟨last, hlast, hkeeps⟩ := client.ask_keeps_plan service messages w delay hdelay
  have hwaited := Nat.lt_of_le_of_lt (sum_waits_le hlast hkeeps) hsum
  have hend := ending_of_plan hkeeps.ending_eq
  have hsend : (client.send service messages w).1 = (client.ask service messages w).1.ending := by
    rw [send]
    dsimp only
    rw [Duration.sum?_eq, Duration.ofNanos?, dif_pos hwaited]
  rw [hsend]
  exact hend

/-- Every request on the way carries the conversation. -/
theorem messages_of_sent (hwaits : client.policy.WaitsFit (client.policy.jitter service.draw))
    {request : Request} {reply : Reply} (h : .sent request reply ∈ client.events service messages w) :
    request.messages = messages := by
  obtain ⟨delay, hdelay, -⟩ := hwaits
  obtain ⟨last, -, hkeeps⟩ := client.ask_keeps_plan service messages w delay hdelay
  rw [events, hkeeps.events_eq, List.mem_append, List.mem_flatMap, List.mem_singleton] at h
  rcases h with ⟨i, -, hround⟩ | hlast
  · rw [Plan.round, List.mem_cons, List.mem_map] at hround
    rcases hround with hsent | ⟨_, _, hslept⟩
    · obtain ⟨rfl, -⟩ := Event.sent.inj hsent
      rfl
    · cases hslept
  · obtain ⟨rfl, -⟩ := Event.sent.inj hlast
    rfl

end

theorem patient_waitsFit : patient.policy.WaitsFit (patient.policy.jitter recovering.draw) :=
  ⟨_, patient_delay, by decide⟩

/-- A service that is always busy. -/
def busy : Service Nat where
  exchange _ n := (.error (.api 503 none "server busy"), n + 1)
  sleep _ n := n
  draw low _ := low

/-- A client whose only wait would be too long for sixty-four bits of seconds. -/
def steep : Client where
  model := "teacher"
  substitutes := []
  sampling := .standard
  policy := ⟨2, .ofSeconds 2, .ofSeconds 60, .finite false (10 ^ 19), .finite false (10 ^ 19)⟩

theorem send_steep (messages : List Message) (n : Nat) :
    (steep.send busy messages n).1 = .impossibleWait := by
  have hdelay : steep.policy.delay? 0 (steep.policy.jitter busy.draw) = none := by decide +kernel
  have hask : steep.ask busy messages n = (⟨.impossibleWait, []⟩, n + 1) := by
    rw [ask_of_not_replaced busy rfl]
    exact askFrom_of_impossibleWait busy 0 rfl (by decide) hdelay
  rw [send, hask]
  rfl

end Client

end Chat

end SourceTutor
