import SourceTutor.Proofs.Chat.Sending
import SourceTutor.Proofs.Lesson.Explaining
import SourceTutor.Proofs.Queue.Calls

/-!
# Worlds that stay whole

A world breaks when a wait comes out as no length of time, and in no other way. When the waits of the
client fit, no wait does, whatever the service replies and whatever can be read or written: a
conversation is completed or fails (`converseFrom_unbroken`), and a world that is whole at the start
of a run is whole at its end (`Analyzer.run_unbroken`).
-/

set_option autoImplicit false

namespace SourceTutor.Lesson

open SourceTutor.Chat

variable {around : Surroundings} {w : World}

/-! ## The service -/

/-- The service does the same in a world that is broken. -/
theorem Surroundings.service_mirrors (around : Surroundings) (broken : Bool) :
    around.service.Mirrors (fun w : World => { w with broken := broken }) around.service where
  exchange _ _ := rfl
  sleep _ w := by
    cases w
    rfl
  draw := rfl

/-- Asking breaks nothing. -/
theorem broken_send (client : Client) (around : Surroundings) (messages : List Message) (w : World) :
    (client.send around.service messages w).2.broken = w.broken := by
  have hsend := client.send_mirrored (around.service_mirrors w.broken) messages w
  have hsame : ({ w with broken := w.broken } : World) = w := by
    cases w
    rfl
  rw [hsame] at hsend
  rw [hsend]
  rfl

theorem broken_sleep (around : Surroundings) (d : Duration) (w : World) :
    (around.service.sleep d w).broken = w.broken := by
  cases w
  rfl

/-- A pause, if there is one, breaks nothing. -/
theorem broken_pause (around : Surroundings) (pacing : Duration) (last : Bool) (w : World) :
    (if last then w else pause around.service pacing w).broken = w.broken := by
  rw [pause]
  split
  · rfl
  · split
    · rfl
    · exact broken_sleep around pacing w

/-! ## A conversation -/

/-- The writer leaves the world whole. -/
def Writer.Careful (writer : Writer World) : Prop :=
  ∀ index answer w, (writer index answer w).2.broken = w.broken

/-- A conversation that is completed or fails in a world as whole as before. -/
def Whole (w : World) (out : Conclusion × World) : Prop :=
  out.1 ≠ .impossibleWait ∧ out.2.broken = w.broken

theorem Whole.of_after {conclusion : Conclusion} {w' : World} (h : Whole w (conclusion, w'))
    (path : Path) : Whole w (conclusion.after path, w') := by
  refine ⟨?_, h.2⟩
  cases conclusion with
  | completed artifacts => exact nofun
  | failed question reason artifacts => exact nofun
  | impossibleWait => exact absurd rfl h.1

/-- **A conversation leaves the world whole**, from any question on. The induction is on the
questions left. -/
theorem converseFrom_unbroken {client : Client} {writer : Writer World}
    (hwaits : client.policy.WaitsFit (client.policy.jitter around.draw)) (hwriter : writer.Careful)
    (pacing : Duration) (index : Nat) (questions : List Question) (turns : List Message)
    (w : World) :
    Whole w (converseFrom client around.service writer pacing index questions turns w) := by
  induction questions generalizing index turns w with
  | nil =>
      rw [converseFrom]
      refine ⟨?_, rfl⟩
      intro h
      cases h
  | cons question rest ih =>
      have hbroken := broken_send client around (turns ++ [.user question.prompt]) w
      have hfit : client.policy.WaitsFit (client.policy.jitter around.service.draw) := hwaits
      have hends := Client.send_ends hfit (turns ++ [.user question.prompt]) w
      obtain ⟨⟨ending, w₁⟩, hsend⟩ : ∃ out,
        client.send around.service (turns ++ [.user question.prompt]) w = out := ⟨_, rfl⟩
      rw [hsend] at hbroken hends
      rcases hends with ⟨text, rfl, -⟩ | ⟨failure, rfl⟩
      · have hwritten := hwriter index text w₁
        obtain ⟨⟨result, w₂⟩, hresult⟩ : ∃ out, writer index text w₁ = out := ⟨_, rfl⟩
        rw [hresult] at hwritten
        cases result with
        | error reason =>
            rw [converseFrom_of_unwritten rest hsend hresult]
            refine ⟨?_, hwritten.trans hbroken⟩
            intro h
            cases h
        | ok path =>
            obtain ⟨⟨conclusion, w'⟩, hrest⟩ : ∃ out,
              converseFrom client around.service writer pacing (index + 1) rest
                (turns ++ [.user question.prompt] ++ [.assistant text])
                (if rest.isEmpty then w₂ else pause around.service pacing w₂) = out := ⟨_, rfl⟩
            have hwhole := ih (index + 1) (turns ++ [.user question.prompt] ++ [.assistant text])
              (if rest.isEmpty then w₂ else pause around.service pacing w₂)
            rw [hrest] at hwhole
            rw [converseFrom_of_written rest hsend hresult hrest]
            refine Whole.of_after ⟨hwhole.1, ?_⟩ path
            rw [hwhole.2, broken_pause]
            exact hwritten.trans hbroken
      · rw [converseFrom_of_failed rest hsend]
        refine ⟨?_, hbroken⟩
        intro h
        cases h

namespace Analyzer

variable {a : Analyzer}

/-! ## A run -/

theorem writer_careful (a : Analyzer) (source : Path) : (a.writer source).Careful := by
  intro index answer w
  rw [writer]
  split <;> rfl

/-- Working on an item leaves the world whole. -/
theorem process_unbroken (hwaits : a.client.policy.WaitsFit (a.client.policy.jitter around.draw))
    (item : String) (w : World) : (a.process around item w).2.broken = w.broken := by
  rw [process]
  cases hread : w.tree.read (.ofString item) with
  | error e => rfl
  | ok bytes =>
      have hwhole := converseFrom_unbroken hwaits (a.writer_careful (.ofString item)) a.pacing 0
        a.questions (opening (.ofString item) (Text.decode bytes) a.maxCodeLength) w
      obtain ⟨⟨conclusion, w'⟩, hconverse⟩ : ∃ out, converse a.client around.service
        (a.writer (.ofString item)) a.pacing a.questions
        (opening (.ofString item) (Text.decode bytes) a.maxCodeLength) w = out := ⟨_, rfl⟩
      rw [← converse, hconverse] at hwhole
      dsimp only
      rw [explain, hconverse]
      cases conclusion with
      | completed artifacts => exact hwhole.2
      | failed question reason artifacts => exact hwhole.2
      | impossibleWait => exact absurd rfl hwhole.1

/-- Saving the queue leaves the world whole. -/
theorem broken_save (a : Analyzer) (around : Surroundings) (store : Store) (batchSize : Nat)
    (throttle : Duration) (q : Progress) (w : World) :
    ((a.scheduler around store batchSize throttle).save q w).2.broken = w.broken := rfl

/-- A course leaves the world whole. -/
theorem course_unbroken (hwaits : a.client.policy.WaitsFit (a.client.policy.jitter around.draw))
    {store : Store} {batchSize : Nat} {throttle : Duration} {pace : Scheduler.Pace}
    {calls : List (Call World)} {q₀ q : Progress} {w₀ w : World}
    (h : Scheduler.Course (a.scheduler around store batchSize throttle) q₀ w₀ pace calls q w) :
    w.broken = w₀.broken := by
  induction h with
  | start => rfl
  | @item calls q w item waiting _ _ _ ih =>
      rw [Scheduler.handle_world, broken_save]
      exact (process_unbroken hwaits item w).trans ih
  | @pause calls q w _ _ _ ih =>
      have hpause : ((a.scheduler around store batchSize throttle).pause w).broken = w.broken := by
        show (if throttle.isZero then w else around.service.sleep throttle w).broken = w.broken
        split
        · rfl
        · exact broken_sleep around throttle w
      exact hpause.trans ih

/-- **A run leaves the world whole** when the waits of its client fit. -/
theorem run_unbroken (hwaits : a.client.policy.WaitsFit (a.client.policy.jitter around.draw))
    (store : Store) (batchSize : Nat) (throttle : Duration) (q : Progress) (w : World) :
    ((a.scheduler around store batchSize throttle).run q w).2.2.broken = w.broken := by
  obtain ⟨pace, hcourse⟩ := (a.scheduler around store batchSize throttle).course_run q w
  exact course_unbroken hwaits hcourse

end Analyzer

end SourceTutor.Lesson
