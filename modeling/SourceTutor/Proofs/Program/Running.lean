import SourceTutor.Proofs.Lesson.Unbroken
import SourceTutor.Proofs.CommandLine.Values
import SourceTutor.Proofs.Program.Refusing
import SourceTutor.Proofs.Queue.Stopping
import SourceTutor.Proofs.Settings.Keys
import SourceTutor.Proofs.Settings.Waits

/-!
# Running to the end

Once the command that explains files has begun to look for them, it carries out its work and ends
well, or it ends with an index that cannot be written (`Program.explainFiles_works`). Neither a reply
of the service nor a file that cannot be read makes it fail: the waits of settings that pass the
checks are lengths of time, so that nothing breaks on the way. Whichever way it ends, every item that
was begun has been recorded, and the queue saved at once (`Program.Works`).

With what is known of a command that is refused, this says of every launch when the command fails and
what it leaves behind (`Program.run_fails_safely`), as long as the search for a key ends. A standard
settings file that is a link to nowhere is no reason to refuse, and a search without an end keeps the
command from failing at all (`Program.not_fails_safely`).
-/

set_option autoImplicit false

namespace SourceTutor.Program

open SourceTutor.FileTree SourceTutor.Lesson

variable {l : Launch} {line : CommandLine} {flags : RunFlags} {s : Settings} {a : Analyzer}
  {t : FileTree} {w : World}

/-! ## The work -/

/-- The queue that the scan leaves, and the world behind it. -/
def scanned (l : Launch) (flags : RunFlags) (s : Settings) (w : World) : Progress × World :=
  let (t, q) := (scanOptions flags s).scan ⟨s.stateFile⟩ l.now flags.dir w.tree
  (q, note s "scan finished" { w with tree := t })

/-- What is done behind the scan. -/
structure Labour where
  /-- The calls of the run, in order. -/
  calls : List (Call World)
  queue : Progress
  world : World
  interrupted : Bool

/-- How the queue is worked through. -/
def scheduler (l : Launch) (s : Settings) (a : Analyzer) : Scheduler World :=
  a.scheduler (l.surroundings s) ⟨s.stateFile⟩ s.batchSize s.throttle

/-- The work on a queue: none if somebody has asked to stop or nothing waits. -/
def labour (l : Launch) (s : Settings) (a : Analyzer) (q : Progress) (w : World) : Labour :=
  if l.stopRequested w then ⟨[], q, w, true⟩
  else if q.pending.isEmpty then ⟨[], q, w, false⟩
  else
    let (summary, q', w') := (scheduler l s a).run q w
    ⟨(scheduler l s a).runCalls q w, q', w'.print (Report.summary summary), summary.interrupted⟩

/-- The work behind the scan. -/
def done (l : Launch) (flags : RunFlags) (s : Settings) (a : Analyzer) (w : World) : Labour :=
  labour l s a (scanned l flags s w).1 (scanned l flags s w).2

/-- The command ends behind its work, with or without an index. -/
structure Works (l : Launch) (flags : RunFlags) (s : Settings) (a : Analyzer) (w : World)
    (out : Step) : Prop where
  /-- Behind the work the index is written, if that is asked for and nobody has asked to stop. -/
  ends : out =
    if flags.createIndex && !(done l flags s a w).interrupted then
      writeIndex l s flags.dir (done l flags s a w).world
    else ((done l flags s a w).world, .ok ())
  /-- The command fails only with an index that is asked for and cannot be written. -/
  fails : ∀ e, out.2 = .error e → flags.createIndex = true ∧
    (done l flags s a w).interrupted = false ∧
    ∃ fault, e = .command (.artifact (Index.path flags.dir s.outputDir) fault) ∧
      out.1.tree.write (Index.path flags.dir s.outputDir)
        ((Index.build out.1.tree flags.dir s.outputDir Question.standard .standard).render
          l.date).toUTF8 = .error fault
  /-- Every item that is begun is the first of the queue so far. It is recorded, and the queue saved
  at once. -/
  recorded : ∀ before item w₁ after,
    (done l flags s a w).calls = before ++ .process item w₁ :: after →
    ∃ q waiting later, q = (scheduler l s a).queueAfter (scanned l flags s w).1 before ∧
      q.pending = item :: waiting ∧
      after = .save ({ q with pending := waiting }.record item
        (a.process (l.surroundings s) item w₁).1) (a.process (l.surroundings s) item w₁).2 :: later
  /-- At the end every item that was begun is finished in the queue. -/
  finished : ∀ item ∈ handed (done l flags s a w).calls,
    item ∈ (done l flags s a w).queue.finished

/-! ## Nothing breaks -/

theorem broken_note (s : Settings) (event : String) (w : World) :
    (note s event w).broken = w.broken := by
  rw [note]
  split
  · rfl
  · split
    · rfl
    · split <;> rfl

/-- Settings that pass the checks come to an analyzer whose waits fit. -/
theorem exists_analyzer? (hs : s.Accepted) (hsound : s.Sound) :
    ∃ a, analyzer? s = some a ∧
      ∀ draw, FairDraw draw → a.client.policy.WaitsFit (a.client.policy.jitter draw) := by
  obtain ⟨policy, hpolicy, hwaits⟩ := Settings.exists_retryPolicy? hs hsound
  obtain ⟨pacing, hpacing⟩ := Settings.exists_pacing? hs hsound
  refine ⟨⟨⟨s.model, s.fallbackModels, ⟨s.maxTokens, s.temperature⟩, policy⟩, Question.standard,
    s.outputDir, s.maxCodeLength, pacing⟩, ?_, hwaits⟩
  rw [analyzer?, hpolicy, hpacing]
  rfl

/-- The work is carried out without a wait that is no length of time. -/
theorem workThrough_eq (ha : analyzer? s = some a)
    (hwaits : a.client.policy.WaitsFit (a.client.policy.jitter l.draw)) (hw : w.broken = false)
    (q : Progress) :
    workThrough l s ⟨s.stateFile⟩ q w =
      let out := (scheduler l s a).run q w
      (out.2.2.print (Report.summary out.1), .ok out.1.interrupted) := by
  have hfit : a.client.policy.WaitsFit (a.client.policy.jitter (l.surroundings s).draw) := hwaits
  have hwhole := Analyzer.run_unbroken hfit ⟨s.stateFile⟩ s.batchSize s.throttle q w
  rw [workThrough, ha]
  dsimp only
  rw [hwhole, hw, if_neg Bool.false_ne_true]
  rfl

/-- The command in terms of what it finds when it scans. -/
theorem explainFiles_scanned (l : Launch) (flags : RunFlags) (s : Settings) (w : World) :
    explainFiles l flags s ⟨s.stateFile⟩ w =
      if l.stopRequested (scanned l flags s w).2 then ((scanned l flags s w).2, .ok ())
      else
        match if (scanned l flags s w).1.pending.isEmpty then ((scanned l flags s w).2, .ok false)
          else workThrough l s ⟨s.stateFile⟩ (scanned l flags s w).1 (scanned l flags s w).2 with
        | (w, .error e) => (w, .error e)
        | (w, .ok interrupted) =>
          if flags.createIndex && !interrupted then writeIndex l s flags.dir w else (w, .ok ()) :=
  rfl

/-- **The command ends behind its work**, with or without an index. -/
theorem explainFiles_eq (ha : analyzer? s = some a)
    (hwaits : a.client.policy.WaitsFit (a.client.policy.jitter l.draw)) (hw : w.broken = false) :
    explainFiles l flags s ⟨s.stateFile⟩ w =
      if flags.createIndex && !(done l flags s a w).interrupted then
        writeIndex l s flags.dir (done l flags s a w).world
      else ((done l flags s a w).world, .ok ()) := by
  have hscanned : (scanned l flags s w).2.broken = false := by
    rw [scanned]
    exact (broken_note s _ _).trans hw
  rw [explainFiles_scanned, done, labour]
  cases hstop : l.stopRequested (scanned l flags s w).2 with
  | true => simp
  | false =>
      cases hempty : (scanned l flags s w).1.pending.isEmpty with
      | true => simp
      | false =>
          rw [if_neg Bool.false_ne_true, if_neg Bool.false_ne_true, if_neg Bool.false_ne_true,
            if_neg Bool.false_ne_true, workThrough_eq ha hwaits hscanned]

/-! ## What is behind the work -/

/-- Writing an index fails only with the write itself. -/
theorem writeIndex_error {dir : Path} {w' : World} {e : ProgramFault}
    (h : writeIndex l s dir w = (w', .error e)) :
    ∃ fault, e = .command (.artifact (Index.path dir s.outputDir) fault) ∧
      w'.tree.write (Index.path dir s.outputDir)
        ((Index.build w'.tree dir s.outputDir Question.standard .standard).render
          l.date).toUTF8 = .error fault := by
  unfold writeIndex Index.write at h
  dsimp only at h
  cases hwrite : (noteEmptyIndex s dir w).tree.write (Index.path dir s.outputDir)
      ((Index.build (noteEmptyIndex s dir w).tree dir s.outputDir Question.standard
        .standard).render l.date).toUTF8 with
  | ok t =>
      rw [hwrite] at h
      cases h
  | error fault =>
      rw [hwrite] at h
      obtain ⟨rfl, he⟩ := Prod.mk.inj h
      exact ⟨fault, (Except.error.inj he).symm, hwrite⟩

/-- The work takes its course: the calls lead from the queue and the world behind the scan to the
queue at the end. -/
theorem course_labour (l : Launch) (s : Settings) (a : Analyzer) (q : Progress) (w : World) :
    ∃ pace w', Scheduler.Course (scheduler l s a) q w pace (labour l s a q w).calls
      (labour l s a q w).queue w' := by
  rw [labour]
  split
  · exact ⟨_, w, .start⟩
  · split
    · exact ⟨_, w, .start⟩
    · obtain ⟨pace, hcourse⟩ := (scheduler l s a).course_run q w
      exact ⟨pace, _, hcourse⟩

/-- **The command that explains files works**, and fails only with its index. -/
theorem explainFiles_works (ha : analyzer? s = some a)
    (hwaits : a.client.policy.WaitsFit (a.client.policy.jitter l.draw)) (hw : w.broken = false) :
    Works l flags s a w (explainFiles l flags s ⟨s.stateFile⟩ w) := by
  have hends : explainFiles l flags s ⟨s.stateFile⟩ w = _ := explainFiles_eq ha hwaits hw
  obtain ⟨pace, w', hcourse⟩ := course_labour l s a (scanned l flags s w).1 (scanned l flags s w).2
  refine ⟨hends, fun e he => ?_, fun before item w₁ after hcalls => ?_, hcourse.finished⟩
  · rw [hends] at he ⊢
    split at he
    · rename_i hindex
      rw [if_pos hindex]
      simp only [Bool.and_eq_true, Bool.not_eq_true'] at hindex
      exact ⟨hindex.1, hindex.2, writeIndex_error (Prod.ext rfl he)⟩
    · cases he
  · obtain ⟨waiting, later, hpending, hafter⟩ := hcourse.recorded hcalls
    exact ⟨_, waiting, later, rfl, hpending, hafter⟩

/-! ## Every launch -/

/-- What begins is sound, and in a world in which nothing has broken. -/
theorem Begins.sound (hparse : CommandLine.parse l.arguments = .ok line)
    (hrun : line.command = .run flags) (h : Begins l line flags t s w) :
    s.Sound ∧ w.broken = false := by
  obtain ⟨s₀, hload, rfl⟩ := h.loaded
  have hsound := Settings.sound_of_load hload
  refine ⟨⟨?_, hsound.baseDelay, hsound.maxDelay, hsound.pacing⟩, ?_⟩
  · show flags.maxAttempts.getD s₀.maxAttempts < UInt32.size
    cases hattempts : flags.maxAttempts with
    | none => exact hsound.maxAttempts
    | some n => exact CommandLine.maxAttempts_lt hparse hrun hattempts
  · obtain ⟨w₁, hlog, hqueue⟩ := h.forgotten
    have hwhole : w₁.broken = false := by
      obtain ⟨-, hsame⟩ := openLog_spec (flags.overlay s₀).logFile (.start t)
      rw [hlog] at hsame
      exact congrArg World.broken hsame
    rcases resetQueue_cases flags ⟨(flags.overlay s₀).stateFile⟩ w₁ with
      ⟨-, e, -, -, hfails⟩ | ⟨-, t', hforgets⟩
    · rw [hfails] at hqueue
      cases hqueue
    · rw [hforgets] at hqueue
      obtain ⟨rfl, -⟩ := Prod.mk.inj hqueue
      exact hwhole

/-- What begins works. -/
theorem Begins.works (hparse : CommandLine.parse l.arguments = .ok line)
    (hrun : line.command = .run flags) (hdraw : FairDraw l.draw) (h : Begins l line flags t s w) :
    ∃ a, analyzer? s = some a ∧
      Works l flags s a w (explainFiles l flags s ⟨s.stateFile⟩ w) := by
  obtain ⟨hsound, hw⟩ := h.sound hparse hrun
  have haccepted : s.Accepted := Settings.validate_eq_ok_iff.mp h.accepted
  obtain ⟨a, ha, hwaits⟩ := exists_analyzer? haccepted hsound
  exact ⟨a, ha, explainFiles_works ha (hwaits l.draw hdraw) hw⟩

/-- How the program ends that is asked to explain files. -/
structure FailsSafely (l : Launch) (line : CommandLine) (flags : RunFlags) (t : FileTree)
    (out : Step) : Prop where
  /-- It fails before it looks for files exactly when the command is refused. -/
  refused_iff : (∃ e, out.2 = .error e ∧ ¬ OfIndex e) ↔ Refused l line flags t
  /-- Then it has made nothing but the log file and the directories above it, -/
  made : Refused l line flags t → LogMade (logFile? l line t) t out.1.tree
  /-- every file has its bytes, -/
  kept : Refused l line flags t → ∀ p bytes, t.read p = .ok bytes → out.1.tree.read p = .ok bytes
  /-- and nothing has been asked, waited for or printed. -/
  same : Refused l line flags t → out.1 = { World.start t with tree := out.1.tree }
  /-- Otherwise it explains files. -/
  works : ¬ Refused l line flags t →
    ∃ s a w, Begins l line flags t s w ∧ analyzer? s = some a ∧ Works l flags s a w out

/-- **A command that explains files fails safely.** Whatever the words, the environment and the
files, whatever the service replies and whenever somebody asks to stop, as long as the search for a
key ends the program does, and it fails before it looks for files exactly when one of the five
reasons holds; then it has made nothing but the log file and the directories above it. Otherwise it
works, and only its index can fail. -/
theorem run_fails_safely (hparse : CommandLine.parse l.arguments = .ok line)
    (hrun : line.command = .run flags) (hdraw : FairDraw l.draw) (t : FileTree)
    (hends : Settings.searchesForEver t l.environment = false) :
    ∃ out, run l t = some out ∧ FailsSafely l line flags t out := by
  obtain ⟨out, hout, ⟨hrefused, hearly⟩ | ⟨hnot, s, w, hbegins, hexplain⟩⟩ :=
    run_cases hparse hrun hends
  · refine ⟨out, hout, ?_⟩
    exact ⟨⟨fun _ => hrefused, fun _ => hearly.fails⟩, fun _ => hearly.made,
      fun _ _ _ hread => hearly.made.gains.read_eq_ok hread, fun _ => hearly.same,
      fun hnot => absurd hrefused hnot⟩
  · obtain ⟨a, ha, hworks⟩ := hbegins.works hparse hrun hdraw
    rw [← hexplain] at hworks
    refine ⟨out, hout, ?_⟩
    refine ⟨⟨fun ⟨e, he, hindex⟩ => ?_, fun hrefused => absurd hrefused hnot⟩,
      fun hrefused => absurd hrefused hnot, fun hrefused => absurd hrefused hnot,
      fun hrefused => absurd hrefused hnot, fun _ => ⟨s, a, w, hbegins, ha, hworks⟩⟩
    -- the only failure behind the scan is that of the index
    obtain ⟨-, -, fault, hfault, -⟩ := hworks.fails e he
    exact absurd ⟨_, fault, hfault⟩ hindex

/-- A launch that asks to forget the queue, without a key. -/
def keyless : Launch where
  arguments := ["run", "--reset"]
  environment _ := none
  reply endpoint _ := endpoint.unreachable
  draw low _ := low
  stopRequested _ := false
  now := ""
  date := ""

theorem fairDraw_keyless : FairDraw keyless.draw :=
  fun low _ _ hle => ⟨low, rfl, le_refl low, hle⟩

/-- A tree with a queue in the standard place. -/
def shelved : FileTree :=
  ⟨[(["code_analyzer_state.json"], .file "{}".toUTF8)]⟩

/-- Without a settings file and without a key the standard settings are loaded. -/
theorem load_standard {environment : EnvFile.Names} (hget : t.get? ["code-analyzer.toml"] = none)
    (hkey : environment Settings.keyName = none)
    (hread : ∃ fault, t.read Settings.envFile = .error fault) :
    Settings.load t environment none = .ok .standard := by
  obtain ⟨fault, hread⟩ := hread
  have houter : Settings.outerKey? t environment = none := by
    rw [Settings.outerKey?, Settings.envFileKey?, hkey, hread]
  rw [Settings.load, Settings.ofFileOrStandard_of_free hget, houter]
  rfl

theorem read_shelved :
    shelved.read (.ofString "code_analyzer_state.json") = .ok "{}".toUTF8 := by
  have hbare : (Path.ofString "code_analyzer_state.json").IsBare "code_analyzer_state.json" :=
    ⟨by decide, by simp [Path.IsName], by decide, by decide⟩
  exact read_bare_file hbare rfl

/-- An instance: without a key the queue stays, though it is to be forgotten. -/
theorem keyless_fails_safely :
    ∃ line flags out, CommandLine.parse keyless.arguments = .ok line ∧ line.command = .run flags ∧
      flags.reset = true ∧ FairDraw keyless.draw ∧
      Settings.searchesForEver shelved keyless.environment = false ∧
      run keyless shelved = some out ∧ FailsSafely keyless line flags shelved out ∧
      Refused keyless line flags shelved ∧
      out.1.tree.read (.ofString "code_analyzer_state.json") = .ok "{}".toUTF8 := by
  have hparse : ∃ line flags, CommandLine.parse keyless.arguments = .ok line ∧
      line.config = none ∧ line.command = .run flags ∧ flags.reset = true :=
    ⟨_, _, rfl, rfl, rfl, rfl⟩
  obtain ⟨line, flags, hparse, hconfig, hrun, hreset⟩ := hparse
  obtain ⟨hread, -, hdirectory⟩ := read_bare_free Settings.isBare_envFile (t := shelved) (by decide)
  have hends : Settings.searchesForEver shelved keyless.environment = false := by
    rw [Settings.searchesForEver, hdirectory, Bool.and_false]
  have hload : Settings.load shelved keyless.environment none = .ok .standard :=
    load_standard (by decide) rfl ⟨_, hread⟩
  obtain ⟨out, hout, hsafe⟩ := run_fails_safely hparse hrun fairDraw_keyless shelved hends
  have hrefused : Refused keyless line flags shelved := .keyless (hconfig ▸ hload) rfl
  exact ⟨line, flags, out, hparse, hrun, hreset, fairDraw_keyless, hends, hout, hsafe, hrefused,
    hsafe.kept hrefused _ _ read_shelved⟩

/-! ### Settings that are not looked at, and a search without an end -/

/-- A launch with a key. -/
def keyed : Launch :=
  { keyless with
    arguments := ["run"]
    environment := fun name => if name = Settings.keyName then some "sk-test" else none }

/-- A tree in which the standard settings file is a link to itself. -/
def knot : FileTree :=
  ⟨[(["code-analyzer.toml"], .link ⟨["code-analyzer.toml"]⟩)]⟩

/-- Whoever follows the link comes back to it. -/
theorem walkFrom_knot (links : Nat) :
    knot.walkFrom .target links [] ["code-analyzer.toml"] = .error .tooManyLinks := by
  have hget : knot.get? ["code-analyzer.toml"] = some (.link ⟨["code-analyzer.toml"]⟩) := rfl
  induction links with
  | zero =>
      rw [walkFrom_name Settings.isBare_standardFile.isName, List.nil_append, hget]
      rfl
  | succ links ih =>
      rw [walkFrom_name Settings.isBare_standardFile.isName, List.nil_append, hget]
      exact ih

theorem resolve_knot : knot.resolve .target Settings.standardFile = .error .tooManyLinks :=
  (resolve_bare Settings.isBare_standardFile knot .target).trans (walkFrom_knot linkBudget)

theorem load_knot : Settings.load knot keyed.environment none =
    .ok { Settings.standard with apiKey := "sk-test" } := by
  have hfile : knot.contains Settings.standardFile = false := by
    rw [FileTree.contains, node?, resolve_knot]
    rfl
  rw [Settings.load, Settings.ofFileOrStandard, hfile]
  rfl

/-- The log file is made. -/
theorem openLog_knot :
    ∃ w, openLog Settings.standard.logFile (.start knot) = (w, .ok ()) := by
  have hname : Settings.standard.logFile = some ⟨["code_analyzer.log"]⟩ := by decide
  have hparent : (⟨["code_analyzer.log"]⟩ : Path).parent? = some .empty := by decide
  have hbare : (⟨["code_analyzer.log"]⟩ : Path).IsBare "code_analyzer.log" :=
    ⟨rfl, by simp [Path.IsName], by decide, by decide⟩
  have hfree := resolve_bare_free hbare (t := knot) (by decide) .creation
  have htouch : touch knot ⟨["code_analyzer.log"]⟩ =
      .ok (knot.insert ["code_analyzer.log"] (.file .empty)) := by
    simp only [touch, bind, Except.bind, write, hfree]
  rw [hname, openLog, hparent, Option.getD_some, if_pos (show Path.empty.isEmpty = true by decide)]
  simp only [World.start, htouch]
  exact ⟨_, rfl⟩

/-- A launch without a key that asks for batches of no files. -/
def unready : Launch := { keyless with arguments := ["run", "--batch-size", "0"] }

/-- A tree in which a directory stands in place of the environment file. -/
def blocked : FileTree := ⟨[([".env"], .directory)]⟩

theorem searchesForEver_blocked :
    Settings.searchesForEver blocked unready.environment = true := by
  rw [Settings.searchesForEver, (read_bare_directory Settings.isBare_envFile rfl).2]
  rfl

theorem load_blocked : Settings.load blocked unready.environment none = .ok .standard :=
  load_standard (by decide) rfl ⟨_, (read_bare_directory Settings.isBare_envFile rfl).1⟩

/-- **Not every settings file that cannot be read is a reason to refuse, and a reason need not come
to bear.** A standard settings file that leads nowhere counts as missing, and the command explains
files though nobody can read it. While a directory stands in place of the environment file the
program without a key has no end, though its settings would not pass the checks. -/
theorem not_fails_safely :
    (∃ line flags out, CommandLine.parse keyed.arguments = .ok line ∧ line.config = none ∧
      line.command = .run flags ∧
      knot.readText Settings.standardFile = .error .tooManyLinks ∧
      run keyed knot = some out ∧ ∀ e, out.2 = .error e → OfIndex e) ∧
    ∃ line flags, CommandLine.parse unready.arguments = .ok line ∧ line.command = .run flags ∧
      (∃ s e, Settings.load blocked unready.environment line.config = .ok s ∧
        (flags.overlay s).validate = .error e) ∧
      run unready blocked = none := by
  constructor
  · have hparse : ∃ line flags, CommandLine.parse keyed.arguments = .ok line ∧
        line.config = none ∧ line.command = .run flags ∧ flags.reset = false ∧
        flags.overlay { Settings.standard with apiKey := "sk-test" } =
          { Settings.standard with apiKey := "sk-test" } :=
      ⟨_, _, rfl, rfl, rfl, rfl, rfl⟩
    obtain ⟨line, flags, hparse, hconfig, hrun, hreset, hoverlay⟩ := hparse
    have hread : knot.readText Settings.standardFile = .error .tooManyLinks := by
      simp only [readText, FileTree.read, resolve_knot, bind, Except.bind]
    have hload := load_knot
    rw [← hconfig] at hload
    obtain ⟨w, hlog⟩ := openLog_knot
    have hvalid : (flags.overlay { Settings.standard with apiKey := "sk-test" }).validate =
        .ok () := by
      rw [hoverlay]
      decide
    have hkey : ({ Settings.standard with apiKey := "sk-test" } : Settings).requireKey =
        .ok "sk-test" := by decide
    -- the file that cannot be read is not looked at, and nothing else refuses the command
    have hnot : ¬ Refused keyed line flags knot :=
      not_refused hload hvalid hlog hkey fun e hforget => by
        rw [hreset] at hforget
        cases hforget
    obtain ⟨out, hout, ⟨hrefused, -⟩ | ⟨-, s, w', hbegins, hexplain⟩⟩ :=
      run_cases hparse hrun (t := knot) rfl
    · exact absurd hrefused hnot
    · refine ⟨line, flags, out, hparse, hconfig, hrun, hread, hout, fun e he => ?_⟩
      obtain ⟨a, -, hworks⟩ := hbegins.works hparse hrun fairDraw_keyless
      rw [hexplain] at he
      obtain ⟨-, -, fault, hfault, -⟩ := hworks.fails e he
      exact ⟨_, fault, hfault⟩
  · have hparse : ∃ line flags, CommandLine.parse unready.arguments = .ok line ∧
        line.config = none ∧ line.command = .run flags ∧
        ∃ e, (flags.overlay .standard).validate = .error e :=
      ⟨_, _, rfl, rfl, rfl, _, rfl⟩
    obtain ⟨line, flags, hparse, hconfig, hrun, e, hinvalid⟩ := hparse
    refine ⟨line, flags, hparse, hrun, ⟨_, e, hconfig ▸ load_blocked, hinvalid⟩, ?_⟩
    exact (run_eq_none_iff unready blocked).mpr ⟨⟨line, hparse⟩, searchesForEver_blocked⟩

end SourceTutor.Program
