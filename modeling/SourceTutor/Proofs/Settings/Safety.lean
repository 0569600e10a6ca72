import SourceTutor.Proofs.Chat.Backoff
import SourceTutor.Proofs.Chat.Counting
import SourceTutor.Proofs.Settings.Waits

/-!
# Accepted settings are safe

Much of the arithmetic of a request has no result when it leaves its range: turning seconds into a
length of time, scaling a wait, adding waits up, and counting attempts in thirty-two bits. Nothing
of that happens with a policy that comes of accepted settings (`RetryPolicy.Safe`), for any jitter
factor between four and six fifths, be it drawn anew for every wait, and for any number of attempts
that fits into thirty-two bits (`Settings.accepted_safe`).
-/

set_option autoImplicit false

namespace SourceTutor

open Binary SourceTutor.Chat

/-- A jitter factor between four and six fifths. -/
def FairFactor (v : Value) : Prop := ∃ x : Rat, v = .finite false x ∧ 4 / 5 ≤ x ∧ x ≤ 6 / 5

namespace Chat.RetryPolicy

/-- The policy with another number of attempts. -/
def withAttempts (policy : RetryPolicy) (n : Nat) : RetryPolicy := { policy with maxAttempts := n }

/-- No arithmetic of a client with this policy leaves its range. -/
structure Safe (policy : RetryPolicy) : Prop where
  delay : ∀ attempt factor, FairFactor factor → ∃ d, policy.delay? attempt factor = some d
  bounded : ∀ attempt, (policy.steadyDelay attempt).nanos ≤ policy.maxDelay.nanos
  growing : ∀ i j, i ≤ j → (policy.steadyDelay i).nanos ≤ (policy.steadyDelay j).nanos
  /-- The counter of the attempts never runs out of its thirty-two bits, whatever the replies, when
  every wait has a factor of its own; and the waits have a sum. -/
  counted : ∀ {σ : Type} (client : Client) (service : Service σ) (factor : Nat → Value)
    (messages : List Message) (w : σ) (n : Nat), n < UInt32.size →
    client.policy = policy.withAttempts n → (∀ i, FairFactor (factor i)) →
    ∃ trace w' total, client.count? service factor messages w = some (trace, w') ∧
      trace.ending ≠ .impossibleWait ∧
      Duration.sum? (trace.attempts.map (·.delay)) = some total
  /-- So it is with one factor for all waits, and what a client is sent off for is what it comes
  back with. -/
  sent : ∀ {σ : Type} (client : Client) (service : Service σ) (messages : List Message) (w : σ)
    (n : Nat), n < UInt32.size → client.policy = policy.withAttempts n →
    FairFactor (client.policy.jitter service.draw) →
    client.count? service (fun _ => client.policy.jitter service.draw) messages w =
        some (client.ask service messages w) ∧
      client.send service messages w =
        ((client.ask service messages w).1.ending, (client.ask service messages w).2) ∧
      (client.send service messages w).1 ≠ .impossibleWait

/-- The longest wait, when the longest delay is an hour: twice as long, and what rounding adds. -/
def greatestWait : Nat := 7211 * nanosPerSecond + 1

variable {policy : RetryPolicy}

/-- A wait of at most an hour is a length of time when it is scaled. -/
theorem delay?_of_le (hdelay : policy.maxDelay.nanos ≤ 3600 * nanosPerSecond + 1) (attempt : Nat)
    {factor : Value} (hfactor : FairFactor factor) :
    ∃ d, policy.delay? attempt factor = some d ∧ d.nanos ≤ greatestWait := by
  obtain ⟨x, rfl, hleast, hgreatest⟩ := hfactor
  have hsteady := (Settings.steadyDelay_le policy attempt).trans hdelay
  have hfair : 2 * (3600 + 5) + 1 ≤ Format.fair := by decide
  have hzero : 0 ≤ x := by linarith
  have htwo : x ≤ 2 := by linarith
  obtain ⟨d, hd, hle⟩ := Duration.scale?_of_le hsteady hfair hzero htwo
  exact ⟨d, hd, hle.trans (by decide)⟩

/-- With such a policy no counter runs out, and all waits are in bounds. -/
theorem exists_count?_of_le {σ : Type} {client : Client} {factor : Nat → Value} {n : Nat}
    (hdelay : policy.maxDelay.nanos ≤ 3600 * nanosPerSecond + 1) (service : Service σ)
    (messages : List Message) (w : σ) (hn : n < UInt32.size)
    (hpolicy : client.policy = policy.withAttempts n) (hfactor : ∀ i, FairFactor (factor i)) :
    ∃ trace w', client.count? service factor messages w = some (trace, w') ∧
      trace.InBounds greatestWait 0 := by
  have hattempts : client.policy.maxAttempts < UInt32.size := by
    rw [hpolicy]
    exact hn
  have hlongest : client.policy.maxDelay.nanos ≤ 3600 * nanosPerSecond + 1 := by
    rw [hpolicy]
    exact hdelay
  exact Client.exists_count? hattempts fun i => delay?_of_le hlongest i (hfactor i)

/-- **A policy whose longest delay is an hour is safe.** -/
theorem safe_of_le (hdelay : policy.maxDelay.nanos ≤ 3600 * nanosPerSecond + 1) : policy.Safe where
  delay attempt factor hfactor := by
    obtain ⟨d, hd, -⟩ := delay?_of_le hdelay attempt hfactor
    exact ⟨d, hd⟩
  bounded := Settings.steadyDelay_le policy
  growing _ _ := policy.steadyDelay_mono
  counted client service factor messages w n hn hpolicy hfactor := by
    obtain ⟨trace, w', hcount, hbounds⟩ :=
      exists_count?_of_le hdelay service messages w hn hpolicy hfactor
    obtain ⟨total, htotal⟩ := hbounds.exists_sum? (by decide)
    exact ⟨trace, w', total, hcount, hbounds.ending, htotal⟩
  sent client service messages w n hn hpolicy hfactor := by
    have hattempts : client.policy.maxAttempts < UInt32.size := by
      rw [hpolicy]
      exact hn
    obtain ⟨trace, w', hcount, hbounds⟩ :=
      exists_count?_of_le hdelay service messages w hn hpolicy fun _ => hfactor
    have hsame := client.count?_eq_ask service messages w hattempts
    obtain ⟨total, htotal⟩ := hbounds.exists_sum? (by decide)
    rw [hsame] at hcount
    have hask : client.ask service messages w = (trace, w') := Option.some.inj hcount
    have hsend : client.send service messages w = (trace.ending, w') := by
      rw [Client.send, hask]
      dsimp only
      rw [htotal]
    rw [hsend, hask]
    exact ⟨hask ▸ hsame, rfl, hbounds.ending⟩

end Chat.RetryPolicy

namespace Settings

variable {s : Settings}

/-- **Accepted settings are safe**: they come to a policy and a pause, and no arithmetic of a client
with this policy leaves its range. The jitter factors drawn for it are fair. -/
theorem accepted_safe (hsound : s.Sound) (hvalid : s.validate = .ok ()) :
    ∃ policy pause, s.retryPolicy? = some policy ∧ s.pacing? = some pause ∧ policy.Safe ∧
      ∀ draw, FairDraw draw → FairFactor (policy.jitter draw) := by
  have hs := validate_eq_ok_iff.mp hvalid
  obtain ⟨policy, hpolicy, -, hlow, hhigh, hle⟩ := exists_delays hs hsound
  obtain ⟨pause, hpause⟩ := exists_pacing? hs hsound
  refine ⟨policy, pause, hpolicy, hpause, RetryPolicy.safe_of_le hle, ?_⟩
  intro draw hdraw
  exact exists_jitter hlow hhigh hdraw

/-- Settings at the edge of what is accepted: as many attempts as can be counted, the longest
delays, and a pause of negative zero. -/
def extreme : Settings :=
  { standard with
    maxAttempts := 4294967295
    baseDelaySecs := wholeSeconds 3600
    maxDelaySecs := wholeSeconds 3600
    pacingSecs := .finite true 0 }

/-- An instance: these are safe too. -/
theorem accepted_safe_extreme :
    extreme.Sound ∧ extreme.validate = .ok () ∧
      ∃ policy pause, extreme.retryPolicy? = some policy ∧ extreme.pacing? = some pause ∧
        policy.Safe ∧ ∀ draw, FairDraw draw → FairFactor (policy.jitter draw) := by
  have hzero : Value.HasMagnitude (.finite true 0) := by
    intro negative x h
    cases h
    exact le_refl 0
  have hsound : extreme.Sound :=
    ⟨by decide, wholeSeconds_hasMagnitude 3600, wholeSeconds_hasMagnitude 3600, hzero⟩
  have hvalid : extreme.validate = .ok () := by decide
  exact ⟨hsound, hvalid, accepted_safe hsound hvalid⟩

end Settings

end SourceTutor
