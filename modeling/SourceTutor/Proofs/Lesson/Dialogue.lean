import SourceTutor.Proofs.Chat.Sending
import SourceTutor.Proofs.Lesson.Explaining

/-!
# How a conversation goes

A conversation is described here by what happens in it: what its requests take part in, and what is
written (`Happening`). `Orderly` says how the questions follow each other. Each is asked behind the
opening and all questions before it with their answers, and no question is asked behind one that
fails; the answers before that one are stored in order, and the waits are those of the requests and
one pause between two questions. Every conversation is orderly (`converse_orderly`) if the waits of
its client are lengths of time. Otherwise it may end with a wait that is none
(`not_always_orderly`).
-/

set_option autoImplicit false

namespace SourceTutor

open SourceTutor.Chat

variable {σ : Type}

/-! ## What happens in requests -/

/-- The request that is sent. -/
def Chat.Event.request? : Event → Option Request
  | .sent request _ => some request
  | .slept _ => none

/-- The nanoseconds waited. -/
def Chat.Event.waited : Event → Nat
  | .sent _ _ => 0
  | .slept duration => duration.nanos

namespace Lesson

/-- What happens in a conversation. -/
inductive Happening where
  /-- In a request, or a pause. -/
  | chatted (event : Event)
  | wrote (index : Nat) (answer : String) (result : Except String Path)

namespace Happening

def request? : Happening → Option Request
  | .chatted event => event.request?
  | .wrote _ _ _ => none

/-- The answer that is stored, and the number of its question. -/
def stored? : Happening → Option (String × Nat)
  | .wrote index answer (.ok _) => some (answer, index)
  | _ => none

/-- Where an answer is stored. -/
def path? : Happening → Option Path
  | .wrote _ _ (.ok path) => some path
  | _ => none

def waited : Happening → Nat
  | .chatted event => event.waited
  | .wrote _ _ _ => 0

end Happening

/-- The requests, in order. -/
def requestsIn (log : List Happening) : List Request := log.filterMap Happening.request?

/-- The answers that are stored with the numbers of their questions, in order. -/
def storedIn (log : List Happening) : List (String × Nat) := log.filterMap Happening.stored?

/-- Where the answers are stored, in order. -/
def pathsIn (log : List Happening) : List Path := log.filterMap Happening.path?

/-- The nanoseconds waited, in requests and between questions. -/
def waitedIn (log : List Happening) : Nat := (log.map Happening.waited).sum

/-- The service that takes note of what happens. -/
def listening (service : Service σ) : Service (σ × List Happening) where
  exchange request v :=
    ((service.exchange request v.1).1, (service.exchange request v.1).2,
      v.2 ++ [.chatted (.sent request (service.exchange request v.1).1)])
  sleep duration v := (service.sleep duration v.1, v.2 ++ [.chatted (.slept duration)])
  draw := service.draw

/-- The writer that takes note of what it writes. -/
def recording (writer : Writer σ) : Writer (σ × List Happening) := fun index answer v =>
  ((writer index answer v.1).1, (writer index answer v.1).2,
    v.2 ++ [.wrote index answer (writer index answer v.1).1])

/-- What happens in a conversation. -/
def happenings (client : Client) (service : Service σ) (writer : Writer σ) (pacing : Duration)
    (questions : List Question) (opening : List Message) (w : σ) : List Happening :=
  (converse client (listening service) (recording writer) pacing questions opening (w, [])).2.2

/-! ## Taking note changes nothing -/

theorem pause_mirrored {τ : Type} {f : σ → τ} {service : Service σ} {mirror : Service τ}
    (h : service.Mirrors f mirror) (pacing : Duration) (w : σ) :
    pause mirror pacing (f w) = f (pause service pacing w) := by
  rw [pause, pause]
  split
  · rfl
  · exact h.sleep pacing w

theorem converseFrom_mirrored {τ : Type} {f : σ → τ} {service : Service σ} {mirror : Service τ}
    (h : service.Mirrors f mirror) {writer : Writer σ} {writer' : Writer τ}
    (hwriter : ∀ index answer w, writer' index answer (f w) = Prod.map id f (writer index answer w))
    (client : Client) (pacing : Duration) (index : Nat) (questions : List Question)
    (turns : List Message) (w : σ) :
    converseFrom client mirror writer' pacing index questions turns (f w) =
      Prod.map id f (converseFrom client service writer pacing index questions turns w) := by
  induction questions generalizing index turns w with
  | nil => rfl
  | cons question rest ih =>
      rw [converseFrom, converseFrom]
      dsimp only
      rw [client.send_mirrored h]
      generalize client.send service (turns ++ [.user question.prompt]) w = out
      obtain ⟨ending, w₁⟩ := out
      cases ending with
      | failed failure => rfl
      | impossibleWait => rfl
      | answered text =>
          dsimp only [Prod.map, id]
          rw [hwriter]
          generalize writer index text w₁ = out
          obtain ⟨result, w₂⟩ := out
          cases result with
          | error reason => rfl
          | ok path =>
              have hpause : (if rest.isEmpty then f w₂ else pause mirror pacing (f w₂)) =
                  f (if rest.isEmpty then w₂ else pause service pacing w₂) := by
                rw [pause_mirrored h]
                exact (apply_ite f _ _ _).symm
              dsimp only [Prod.map, id]
              rw [hpause, ih]
              rfl

/-- **Taking note changes nothing**: a conversation of which note is taken comes to the same. -/
theorem converse_noted (client : Client) (service : Service σ) (writer : Writer σ)
    (pacing : Duration) (questions : List Question) (opening : List Message)
    (v : σ × List Happening) :
    converse client service writer pacing questions opening v.1 = Prod.map id Prod.fst
      (converse client (listening service) (recording writer) pacing questions opening v) := by
  have hservice : (listening service).Mirrors Prod.fst service :=
    ⟨fun _ _ => rfl, fun _ _ => rfl, rfl⟩
  exact converseFrom_mirrored hservice (fun _ _ _ => rfl) client pacing 0 questions opening v

/-- What a request takes part in is noted behind what has happened before. -/
theorem send_listening (client : Client) (service : Service σ) (messages : List Message) (w : σ)
    (log : List Happening) :
    client.send (listening service) messages (w, log) =
      ((client.send service messages w).1, (client.send service messages w).2,
        log ++ (client.events service messages w).map .chatted) := by
  have hevents : (client.send service.noting messages (w, [])).2.2 =
      client.events service messages w := by
    rw [Client.send]
    dsimp only
    split
    · rfl
    · rfl
  have hplain := client.send_mirrored service.noting_mirrors messages (w, [])
  have hmirror : service.noting.Mirrors (fun v => (v.1, log ++ v.2.map Happening.chatted))
      (listening service) := by
    refine ⟨fun request v => ?_, fun duration v => ?_, rfl⟩
    · simp [listening, Service.noting]
    · simp [listening, Service.noting]
  have hnoted := client.send_mirrored hmirror messages (w, [])
  dsimp only at hplain hnoted
  rw [List.map_nil, List.append_nil] at hnoted
  rw [hnoted, hplain, ← hevents]
  rfl

/-! ## The order of a conversation -/

/-- What comes of asking one question. -/
structure Round where
  events : List Event
  ending : Ending

/-- The round of a client that is sent off with this conversation. -/
def roundOf (client : Client) (service : Service σ) (messages : List Message) (w : σ) : Round :=
  ⟨client.events service messages w, (client.send service messages w).1⟩

/-- The nanoseconds waited for the answer. -/
def Round.waited (round : Round) : Nat := (round.events.map Event.waited).sum

/-- The turns of these questions with their answers. -/
def exchanged (questions : List Question) (answers : List String) : List Message :=
  (questions.zip answers).flatMap fun turn => [.user turn.1.prompt, .assistant turn.2]

/-- How many pauses there are when so many of these questions are answered: one behind each answer,
unless all are answered; then none is made behind the last. -/
def pauseCount (answered asked : Nat) : Nat := if answered < asked then answered else asked - 1

/-- Why a question fails: there is no answer, or it is not stored. -/
inductive Round.Fails (log : List Happening) (index : Nat) (reason : String) (round : Round) :
    Prop where
  | unanswered {failure : Failure} : round.ending = .failed failure → reason = failure.message →
      Fails log index reason round
  | unwritten {answer : String} : round.ending = .answered answer →
      .wrote index answer (.error reason) ∈ log → Fails log index reason round

/-- A conversation about these questions behind the opening, the first of which has the number
`first`: there is a round for every question up to the first that fails, and the answers before that
one are stored. -/
structure Orderly (client : Client) (service : Service σ) (pacing : Duration)
    (questions : List Question) (opening : List Message) (first : Nat) (log : List Happening)
    (conclusion : Conclusion) (rounds : List Round) (answers : List String) (paths : List Path) :
    Prop where
  answers_le : answers.length ≤ questions.length
  rounds_length : rounds.length = min (answers.length + 1) questions.length
  /-- Each round is the client's request about the opening, the questions before with their answers,
  and the question. -/
  asked : ∀ k question (round : Round), questions[k]? = some question → rounds[k]? = some round →
    ∃ w, round = roundOf client service
      (opening ++ exchanged questions (answers.take k) ++ [.user question.prompt]) w
  /-- This is what every request of the round carries, the repeated ones included. -/
  carried : ∀ k question (round : Round), questions[k]? = some question → rounds[k]? = some round →
    ∀ request reply, .sent request reply ∈ round.events →
      request.messages =
        opening ++ exchanged questions (answers.take k) ++ [.user question.prompt]
  /-- There are no requests but those of the rounds. -/
  requests_eq : requestsIn log = rounds.flatMap fun round => round.events.filterMap Event.request?
  /-- The rounds before the last end with the answers. -/
  answered : ∀ (k : Nat) answer, answers[k]? = some answer →
    ∃ round : Round, rounds[k]? = some round ∧ round.ending = .answered answer
  trimmed : ∀ answer ∈ answers, Text.Trimmed answer
  /-- The answers are stored in order. -/
  stored_eq : storedIn log = answers.zipIdx first
  /-- The paths are those at which they are stored. -/
  paths_eq : pathsIn log = paths
  paths_length : paths.length = answers.length
  /-- The waits are those for the answers, and a pause behind each stored answer but that to the last
  question. -/
  waited_eq : waitedIn log = (rounds.map Round.waited).sum +
    pacing.nanos * pauseCount answers.length questions.length
  /-- Every question has its answer stored, or the one behind the stored answers fails. -/
  concluded : answers.length = questions.length ∧ conclusion = .completed paths ∨
    answers.length < questions.length ∧ ∃ reason, ∃ round : Round,
      conclusion = .failed (first + answers.length) reason paths ∧
      rounds[answers.length]? = some round ∧ round.Fails log (first + answers.length) reason

section

variable {client : Client} {service : Service σ} {pacing : Duration} {questions : List Question}
  {question : Question} {opening : List Message} {first : Nat} {log : List Happening}
  {conclusion : Conclusion} {rounds : List Round} {round : Round} {answers : List String}
  {answer : String} {paths : List Path} {path : Path}

/-- Nothing is asked. -/
theorem orderly_nil : Orderly client service pacing [] opening first [] (.completed []) [] [] [] where
  answers_le := Nat.le_refl _
  rounds_length := rfl
  asked _ _ _ h := by simp at h
  carried _ _ _ h := by simp at h
  requests_eq := rfl
  answered _ _ h := by simp at h
  trimmed _ h := by simp at h
  stored_eq := rfl
  paths_eq := rfl
  paths_length := rfl
  waited_eq := rfl
  concluded := .inl ⟨rfl, rfl⟩

theorem requestsIn_chatted (events : List Event) (log : List Happening) :
    requestsIn (events.map .chatted ++ log) = events.filterMap Event.request? ++ requestsIn log := by
  rw [requestsIn, List.filterMap_append, List.filterMap_map]
  rfl

theorem storedIn_chatted (events : List Event) (log : List Happening) :
    storedIn (events.map .chatted ++ log) = storedIn log := by
  rw [storedIn, List.filterMap_append, List.filterMap_map]
  simp [Function.comp_def, Happening.stored?, storedIn]

theorem pathsIn_chatted (events : List Event) (log : List Happening) :
    pathsIn (events.map .chatted ++ log) = pathsIn log := by
  rw [pathsIn, List.filterMap_append, List.filterMap_map]
  simp [Function.comp_def, Happening.path?, pathsIn]

theorem waitedIn_chatted (events : List Event) (log : List Happening) :
    waitedIn (events.map .chatted ++ log) = (events.map Event.waited).sum + waitedIn log := by
  rw [waitedIn, List.map_append, List.sum_append, List.map_map]
  rfl

/-- The first question fails. -/
theorem orderly_failed (hwaits : client.policy.WaitsFit (client.policy.jitter service.draw))
    (rest : List Question) {w : σ} {reason : String} {more : List Happening}
    (hround : round = roundOf client service (opening ++ [.user question.prompt]) w)
    (hmore : more = [] ∨ ∃ answer, more = [.wrote first answer (.error reason)])
    (hfails : round.Fails (round.events.map .chatted ++ more) first reason) :
    Orderly client service pacing (question :: rest) opening first
      (round.events.map .chatted ++ more) (.failed first reason []) [round] [] [] where
  answers_le := Nat.zero_le _
  rounds_length := by simp
  asked k asked round' hquestion hr := by
    obtain ⟨rfl, rfl⟩ : k = 0 ∧ round = round' := by simpa [List.getElem?_singleton] using hr
    cases hquestion
    exact ⟨w, by simpa [exchanged] using hround⟩
  carried k asked round' hquestion hr request reply hsent := by
    obtain ⟨rfl, rfl⟩ : k = 0 ∧ round = round' := by simpa [List.getElem?_singleton] using hr
    cases hquestion
    rw [hround] at hsent
    simpa [exchanged] using Client.messages_of_sent hwaits hsent
  requests_eq := by
    rw [requestsIn_chatted]
    obtain rfl | ⟨answer, rfl⟩ := hmore
    · simp [requestsIn]
    · simp [requestsIn, Happening.request?]
  answered _ _ h := by simp at h
  trimmed _ h := by simp at h
  stored_eq := by
    rw [storedIn_chatted]
    obtain rfl | ⟨answer, rfl⟩ := hmore
    · rfl
    · rfl
  paths_eq := by
    rw [pathsIn_chatted]
    obtain rfl | ⟨answer, rfl⟩ := hmore
    · rfl
    · rfl
  paths_length := rfl
  waited_eq := by
    rw [waitedIn_chatted]
    obtain rfl | ⟨answer, rfl⟩ := hmore
    · simp [waitedIn, Round.waited, pauseCount]
    · simp [waitedIn, Round.waited, Happening.waited, pauseCount]
  concluded := by
    refine .inr ⟨Nat.succ_pos _, reason, round, rfl, rfl, hfails⟩

/-- What happens between a stored answer and the next question. -/
def pauses (pacing : Duration) (rest : List Question) : List Event :=
  if rest.isEmpty || pacing.isZero then [] else [.slept pacing]

theorem sum_pauses (pacing : Duration) (rest : List Question) :
    ((pauses pacing rest).map Event.waited).sum = if rest.isEmpty then 0 else pacing.nanos := by
  rw [pauses]
  by_cases hzero : pacing.nanos = 0
  · simp [Duration.isZero, hzero]
  · cases rest with
    | nil => rfl
    | cons question rest => simp [Duration.isZero, hzero, Event.waited]

theorem pauseCount_succ {answered asked : Nat} (h : answered ≤ asked) :
    pauseCount (answered + 1) (asked + 1) =
      (if asked = 0 then 0 else 1) + pauseCount answered asked := by
  rw [pauseCount, pauseCount]
  by_cases hfew : answered < asked
  · rw [if_pos (by omega), if_pos hfew, if_neg (by omega)]
    omega
  · rw [if_neg (by omega), if_neg hfew]
    split
    · omega
    · omega

theorem requests_pauses (pacing : Duration) (rest : List Question) :
    (pauses pacing rest).filterMap Event.request? = [] := by
  rw [pauses]
  split
  · rfl
  · rfl

/-- The first answer is stored, and the conversation goes on. -/
theorem Orderly.cons (hwaits : client.policy.WaitsFit (client.policy.jitter service.draw)) {w : σ}
    (hround : round = roundOf client service (opening ++ [.user question.prompt]) w)
    (hanswer : round.ending = .answered answer) (htrimmed : Text.Trimmed answer)
    (h : Orderly client service pacing questions
      (opening ++ [.user question.prompt] ++ [.assistant answer]) (first + 1) log conclusion rounds
      answers paths) :
    Orderly client service pacing (question :: questions) opening first
      (round.events.map .chatted ++
        .wrote first answer (.ok path) :: ((pauses pacing questions).map .chatted ++ log))
      (conclusion.after path) (round :: rounds) (answer :: answers) (path :: paths) where
  answers_le := Nat.succ_le_succ h.answers_le
  rounds_length := by
    rw [List.length_cons, h.rounds_length, List.length_cons, List.length_cons,
      Nat.succ_min_succ]
  asked k asked round' hquestion hr := by
    cases k with
    | zero =>
        cases hquestion
        cases hr
        exact ⟨w, by simpa [exchanged] using hround⟩
    | succ k =>
        obtain ⟨w', hw'⟩ := h.asked k asked round' hquestion hr
        exact ⟨w', by simpa [exchanged] using hw'⟩
  carried k asked round' hquestion hr request reply hsent := by
    cases k with
    | zero =>
        cases hquestion
        cases hr
        rw [hround] at hsent
        simpa [exchanged] using Client.messages_of_sent hwaits hsent
    | succ k => simpa [exchanged] using h.carried k asked round' hquestion hr request reply hsent
  requests_eq := by
    have hlog := h.requests_eq
    have hrest : requestsIn (.wrote first answer (.ok path) ::
        ((pauses pacing questions).map .chatted ++ log)) = requestsIn log := by
      show requestsIn ((pauses pacing questions).map .chatted ++ log) = requestsIn log
      rw [requestsIn_chatted, requests_pauses]
      rfl
    rw [requestsIn_chatted, hrest, hlog, List.flatMap_cons]
  answered k asked hanswers := by
    cases k with
    | zero =>
        cases hanswers
        exact ⟨round, rfl, hanswer⟩
    | succ k => exact h.answered k asked hanswers
  trimmed asked hasked := by
    rcases List.mem_cons.mp hasked with rfl | hasked
    · exact htrimmed
    · exact h.trimmed asked hasked
  stored_eq := by
    have hlog := h.stored_eq
    rw [storedIn_chatted, List.zipIdx_cons, ← hlog]
    show (answer, first) :: storedIn ((pauses pacing questions).map .chatted ++ log) = _
    rw [storedIn_chatted]
  paths_eq := by
    have hlog := h.paths_eq
    rw [pathsIn_chatted]
    show path :: pathsIn ((pauses pacing questions).map .chatted ++ log) = _
    rw [pathsIn_chatted, hlog]
  paths_length := congrArg Nat.succ h.paths_length
  waited_eq := by
    have hlog := h.waited_eq
    have hle := h.answers_le
    have hrest : waitedIn (.wrote first answer (.ok path) ::
        ((pauses pacing questions).map .chatted ++ log)) =
          (if questions.isEmpty then 0 else pacing.nanos) + waitedIn log := by
      rw [← sum_pauses, ← waitedIn_chatted]
      exact Nat.zero_add _
    -- there is one pause more, unless this is the last question
    have hpaused : pacing.nanos * pauseCount (answers.length + 1) (questions.length + 1) =
        (if questions.isEmpty then 0 else pacing.nanos) +
          pacing.nanos * pauseCount answers.length questions.length := by
      rw [pauseCount_succ h.answers_le, Nat.mul_add]
      cases questions with
      | nil => simp
      | cons next rest => simp
    rw [waitedIn_chatted, hrest, hlog, List.map_cons, List.sum_cons, List.length_cons,
      List.length_cons, hpaused, Round.waited]
    omega
  concluded := by
    rcases h.concluded with ⟨hall, hcompleted⟩ | ⟨hfew, reason, failed, hfailed, hround', hfails⟩
    · refine .inl ⟨congrArg Nat.succ hall, ?_⟩
      rw [hcompleted]
      rfl
    · have hindex : first + (answers.length + 1) = first + 1 + answers.length := by omega
      refine .inr ⟨Nat.succ_lt_succ hfew, reason, failed, ?_, hround', ?_⟩
      · rw [hfailed, List.length_cons, hindex]
        rfl
      · rw [List.length_cons, hindex]
        cases hfails with
        | unanswered hending hreason => exact .unanswered hending hreason
        | unwritten hending hwrote => exact .unwritten hending (by simp [hwrote])

/-! ## Every conversation -/

/-- A pause is noted behind what has happened before. -/
theorem pause_listening (service : Service σ) (pacing : Duration) (rest : List Question) (w : σ)
    (log : List Happening) :
    (if rest.isEmpty then (w, log) else pause (listening service) pacing (w, log)) =
      ((if rest.isEmpty then w else pause service pacing w),
        log ++ (pauses pacing rest).map .chatted) := by
  rw [pause, pause, pauses]
  cases hrest : rest.isEmpty
  · cases hzero : pacing.isZero
    · rfl
    · simp
  · simp

/-- From any question on. The induction is on the questions left. -/
theorem converseFrom_orderly (hwaits : client.policy.WaitsFit (client.policy.jitter service.draw))
    (writer : Writer σ) (pacing : Duration) (questions : List Question) (opening : List Message)
    (first : Nat) (w : σ) (before : List Happening) :
    ∃ log rounds answers paths,
      (converseFrom client (listening service) (recording writer) pacing first questions opening
        (w, before)).2.2 = before ++ log ∧
      Orderly client service pacing questions opening first log
        (converseFrom client (listening service) (recording writer) pacing first questions opening
          (w, before)).1 rounds answers paths := by
  induction questions generalizing opening first w before with
  | nil => exact ⟨[], [], [], [], (List.append_nil _).symm, orderly_nil⟩
  | cons question rest ih =>
      have hsend := send_listening client service (opening ++ [.user question.prompt]) w before
      obtain ⟨round, hround⟩ : ∃ round,
        round = roundOf client service (opening ++ [.user question.prompt]) w := ⟨_, rfl⟩
      obtain ⟨w₁, hw₁⟩ : ∃ w₁,
        (client.send service (opening ++ [.user question.prompt]) w).2 = w₁ := ⟨_, rfl⟩
      have hevents : client.events service (opening ++ [.user question.prompt]) w = round.events := by
        rw [hround]
        rfl
      have hending : (client.send service (opening ++ [.user question.prompt]) w).1 =
          round.ending := by
        rw [hround]
        rfl
      have hends := client.send_ends hwaits (opening ++ [.user question.prompt]) w
      rw [hending] at hends
      rw [hevents, hending, hw₁] at hsend
      rcases hends with ⟨text, htext, htrimmed⟩ | ⟨failure, hfailure⟩
      · rw [htext] at hsend
        obtain ⟨⟨result, w₂⟩, hwriter⟩ : ∃ out, writer first text w₁ = out := ⟨_, rfl⟩
        have hrecord : recording writer first text
            (w₁, before ++ round.events.map .chatted) =
              (result, w₂, before ++ round.events.map .chatted ++ [.wrote first text result]) := by
          rw [recording, hwriter]
        cases result with
        | error reason =>
            -- the answer cannot be written
            rw [converseFrom_of_unwritten rest hsend hrecord]
            refine ⟨round.events.map .chatted ++ [.wrote first text (.error reason)], [round], [],
              [], List.append_assoc .., ?_⟩
            exact orderly_failed hwaits rest hround (.inr ⟨text, rfl⟩)
              (.unwritten htext (by simp))
        | ok path =>
            -- the conversation goes on behind the pause
            obtain ⟨log, rounds, answers, paths, hlog, horderly⟩ := ih
              (opening ++ [.user question.prompt] ++ [.assistant text]) (first + 1)
              (if rest.isEmpty then w₂ else pause service pacing w₂)
              (before ++ round.events.map .chatted ++ [.wrote first text (.ok path)] ++
                (pauses pacing rest).map .chatted)
            rw [← pause_listening] at hlog horderly
            rw [converseFrom_of_written rest hsend hrecord rfl]
            refine ⟨_, round :: rounds, text :: answers, path :: paths, ?_,
              horderly.cons hwaits hround htext htrimmed⟩
            rw [hlog]
            simp only [List.append_assoc, List.cons_append, List.nil_append]
      · -- the request fails
        rw [hfailure] at hsend
        rw [converseFrom_of_failed rest hsend]
        refine ⟨round.events.map .chatted ++ [], [round], [], [], ?_, ?_⟩
        · rw [List.append_nil]
        · exact orderly_failed hwaits rest hround (.inl rfl) (.unanswered hfailure rfl)

/-- **Every conversation is orderly**: whatever the service replies and whatever the writer refuses,
if the waits of the client are lengths of time, as is their sum. -/
theorem converse_orderly (client : Client) (service : Service σ)
    (hwaits : client.policy.WaitsFit (client.policy.jitter service.draw)) (writer : Writer σ)
    (pacing : Duration) (questions : List Question) (opening : List Message) (w : σ) :
    ∃ rounds answers paths, Orderly client service pacing questions opening 0
      (happenings client service writer pacing questions opening w)
      (converse client service writer pacing questions opening w).1 rounds answers paths := by
  obtain ⟨log, rounds, answers, paths, hlog, horderly⟩ :=
    converseFrom_orderly hwaits writer pacing questions opening 0 w []
  have hconclusion : (converse client service writer pacing questions opening w).1 =
      (converse client (listening service) (recording writer) pacing questions opening
        (w, [])).1 := by
    rw [converse_noted client service writer pacing questions opening (w, [])]
    rfl
  rw [List.nil_append] at hlog
  refine ⟨rounds, answers, paths, ?_⟩
  rw [hconclusion, happenings, converse, hlog]
  exact horderly

end

section

open Client

/-- A writer that refuses the answer to the second question. -/
def choosy : Writer Nat := fun index _ n =>
  if index = 1 then (.error "read-only", n) else (.ok ⟨["answer.md"]⟩, n)

/-- An instance: the first answer comes behind a replacement of the model and a wait, and the second
one is refused. -/
theorem converse_orderly_patient :
    patient.policy.WaitsFit (patient.policy.jitter recovering.draw) ∧
      ∃ rounds answers paths, Orderly patient recovering (.ofSeconds 1) Question.standard
        [.system "Teach."] 0
        (happenings patient recovering choosy (.ofSeconds 1) Question.standard
          [.system "Teach."] 0)
        (converse patient recovering choosy (.ofSeconds 1) Question.standard
          [.system "Teach."] 0).1
        rounds answers paths :=
  ⟨patient_waitsFit, converse_orderly patient recovering patient_waitsFit choosy (.ofSeconds 1)
    Question.standard [.system "Teach."] 0⟩

/-- **Without fitting waits** a conversation need not be orderly, even if the jitter is constant: it
may end with a wait that is no length of time, and so neither completed nor failed. -/
theorem not_always_orderly :
    ¬ ∀ (client : Client) (service : Service Nat) (writer : Writer Nat) (pacing : Duration)
      (questions : List Question) (opening : List Message) (w : Nat),
      client.policy.jitterLow = client.policy.jitterHigh →
      ∃ rounds answers paths, Orderly client service pacing questions opening 0
        (happenings client service writer pacing questions opening w)
        (converse client service writer pacing questions opening w).1 rounds answers paths := by
  intro h
  obtain ⟨_, _, _, horderly⟩ := h steep busy choosy .zero [Question.overview] [] 0 rfl
  have himpossible : (converse steep busy choosy .zero [Question.overview] [] 0).1 =
      .impossibleWait := by
    have hsend := send_steep ([] ++ [.user Question.overview.prompt]) 0
    rw [converse, converseFrom]
    dsimp only
    generalize steep.send busy ([] ++ [.user Question.overview.prompt]) 0 = out at hsend
    obtain ⟨ending, w₁⟩ := out
    dsimp only at hsend
    rw [hsend]
  have hconcluded := horderly.concluded
  rw [himpossible] at hconcluded
  rcases hconcluded with ⟨-, hcompleted⟩ | ⟨-, _, _, hfailed, -⟩
  · cases hcompleted
  · cases hfailed

end

end Lesson

end SourceTutor
