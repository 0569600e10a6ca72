import SourceTutor.Program
import SourceTutor.Proofs.FileTree.Gaining

/-!
# Refusing to run

The command that explains files is refused before it looks for any, for one of five reasons
(`Program.Refused`): the settings cannot be loaded, they do not pass the checks, the log file cannot
be opened, there is no key, or the queue cannot be forgotten though that is asked for. Otherwise the
command begins (`Program.run_cases`). When it is refused, all that has been made is the log file and
the directories above it (`Program.EndsEarly`).
-/

set_option autoImplicit false

namespace SourceTutor.Program

open SourceTutor.FileTree SourceTutor.Lesson

variable {l : Launch} {line : CommandLine} {flags : RunFlags} {t t' : FileTree} {w : World}

/-! ## The log file -/

/-- All that has been made is some of the directories above the log file, and perhaps the log file,
with nothing in it. -/
def LogMade (file : Option Path) (t t' : FileTree) : Prop :=
  t' = t ∨ ∃ p t₁, file = some p ∧ MadeAbove p t t₁ ∧
    (t' = t₁ ∨ ∃ key slash, t₁.resolve .creation p = .ok (.free key slash) ∧
      t' = t₁.insert key (.file .empty))

theorem LogMade.gains {file : Option Path} (h : LogMade file t t') : Gains t t' := by
  rcases h with rfl | ⟨p, t₁, -, hmade, rfl | ⟨key, slash, hok, rfl⟩⟩
  · exact .refl _
  · exact hmade.gains
  · exact hmade.gains.trans (.of_insert (get?_of_resolve_free hok) _)

/-- Opening the log file makes it if it is missing. -/
theorem touch_cases {p : Path} (h : touch t p = .ok t') :
    t' = t ∨ ∃ key slash, t.resolve .creation p = .ok (.free key slash) ∧
      t' = t.insert key (.file .empty) := by
  rw [touch] at h
  cases hok : t.resolve .creation p with
  | error e =>
      rw [hok] at h
      cases h
  | ok place =>
      rw [hok] at h
      cases place with
      | free key slash =>
          refine .inr ⟨key, slash, rfl, ?_⟩
          simp only [bind, Except.bind, write, hok] at h
          exact (Except.ok.inj h).symm
      | taken key n =>
          cases n with
          | file bytes => exact .inl (Except.ok.inj h).symm
          | directory => cases h
          | link target => cases h

/-- **Opening the log file** makes nothing else, also when it fails, and changes the files only. -/
theorem openLog_spec (file : Option Path) (w : World) :
    LogMade file w.tree (openLog file w).1.tree ∧
      (openLog file w).1 = { w with tree := (openLog file w).1.tree } := by
  cases file with
  | none => exact ⟨.inl rfl, rfl⟩
  | some p =>
      have hmade : MadeAbove p w.tree (if ((p.parent?).getD .empty).isEmpty then (w.tree, .ok ())
          else w.tree.createDirectories ((p.parent?).getD .empty)).1 := by
        split
        · exact .refl
        · rename_i hempty
          cases hparent : p.parent? with
          | none => simp [hparent, Path.empty, Path.isEmpty] at hempty
          | some dir => exact createUpward_madeAbove _ _ dir (Path.above_of_parent? hparent)
      rw [openLog]
      generalize (if ((p.parent?).getD .empty).isEmpty then (w.tree, .ok ())
          else w.tree.createDirectories ((p.parent?).getD .empty)) = made at hmade
      obtain ⟨t₁, result⟩ := made
      cases result with
      | error e => exact ⟨.inr ⟨p, t₁, rfl, hmade, .inl rfl⟩, rfl⟩
      | ok _ =>
          dsimp only
          cases htouch : touch t₁ p with
          | error e => exact ⟨.inr ⟨p, t₁, rfl, hmade, .inl rfl⟩, rfl⟩
          | ok t₂ => exact ⟨.inr ⟨p, t₁, rfl, hmade, touch_cases htouch⟩, rfl⟩

/-! ## Reasons to refuse -/

/-- Why the command is refused before it looks for files. -/
inductive Refused (l : Launch) (line : CommandLine) (flags : RunFlags) (t : FileTree) : Prop
  /-- The settings file cannot be read or holds no settings. -/
  | unloaded {e} : Settings.load t l.environment line.config = .error e → Refused l line flags t
  /-- The settings with the arguments in place of theirs do not pass the checks. -/
  | unaccepted {s e} : Settings.load t l.environment line.config = .ok s →
      (flags.overlay s).validate = .error e → Refused l line flags t
  /-- The log file cannot be opened, or its directory cannot be made. -/
  | unlogged {s e} : Settings.load t l.environment line.config = .ok s →
      (openLog s.logFile (.start t)).2 = .error e → Refused l line flags t
  /-- There is no key in the settings as they are loaded. -/
  | keyless {s e} : Settings.load t l.environment line.config = .ok s →
      s.requireKey = .error e → Refused l line flags t
  /-- The queue is to be forgotten, and its file is there but cannot be removed. -/
  | unforgotten {s e} : Settings.load t l.environment line.config = .ok s → flags.reset = true →
      (openLog s.logFile (.start t)).1.tree.removeFile s.stateFile = .error e → e ≠ .notFound →
      Refused l line flags t

/-- The command begins to look for files, with these settings and in this world. -/
structure Begins (l : Launch) (line : CommandLine) (flags : RunFlags) (t : FileTree) (s : Settings)
    (w : World) : Prop where
  loaded : ∃ s₀, Settings.load t l.environment line.config = .ok s₀ ∧ s = flags.overlay s₀
  accepted : s.validate = .ok ()
  keyed : ∃ key, s.requireKey = .ok key
  forgotten : ∃ w₁, openLog s.logFile (.start t) = (w₁, .ok ()) ∧
    resetQueue flags ⟨s.stateFile⟩ w₁ = (w, .ok ())

/-- The fault is that an index cannot be written. -/
def OfIndex (e : ProgramFault) : Prop := ∃ path fault, e = .command (.artifact path fault)

/-- The log file of the settings as they are loaded. -/
def logFile? (l : Launch) (line : CommandLine) (t : FileTree) : Option Path :=
  match Settings.load t l.environment line.config with
  | .ok s => s.logFile
  | .error _ => none

theorem logFile?_of_load {s : Settings} (h : Settings.load t l.environment line.config = .ok s) :
    logFile? l line t = s.logFile := by
  rw [logFile?, h]

/-! ## One step after the other -/

theorem not_ofIndex_of_validate {s : Settings} {e : Fault} (h : s.validate = .error e) :
    ¬ OfIndex (.command e) := by
  rintro ⟨path, fault, he⟩
  obtain rfl : e = .artifact path fault := ProgramFault.command.inj he
  rw [Settings.validate] at h
  iterate 6
    split at h
    · cases h
  cases h

theorem not_ofIndex_of_openLog {file : Option Path} {w' : World} {e : ProgramFault}
    (h : openLog file w = (w', .error e)) : ¬ OfIndex e := by
  cases file with
  | none => cases h
  | some p =>
      rw [openLog] at h
      split at h
      · cases h
        exact nofun
      · split at h
        · cases h
          exact nofun
        · cases h

theorem not_ofIndex_of_requireKey {s : Settings} {e : Fault} (h : s.requireKey = .error e) :
    ¬ OfIndex (.command e) := by
  rw [Settings.requireKey] at h
  split at h
  · cases h
    exact nofun
  · cases h

/-- Forgetting the queue fails only when its file is there and cannot be removed. -/
theorem resetQueue_cases (flags : RunFlags) (store : Store) (w : World) :
    (flags.reset = true ∧ ∃ e, w.tree.removeFile store.path = .error e ∧ e ≠ .notFound ∧
        resetQueue flags store w = (w, .error (.resetQueue store.path e))) ∨
      (∀ e, flags.reset = true → w.tree.removeFile store.path = .error e → e = .notFound) ∧
        ∃ t', resetQueue flags store w = ({ w with tree := t' }, .ok ()) := by
  rw [resetQueue]
  cases hreset : flags.reset with
  | false => exact .inr ⟨nofun, w.tree, rfl⟩
  | true =>
      rw [if_pos rfl, Store.reset]
      cases hremove : w.tree.removeFile store.path with
      | ok t' => exact .inr ⟨nofun, t', rfl⟩
      | error e =>
          cases e with
          | notFound => exact .inr ⟨fun e _ h => (Except.error.inj h).symm, w.tree, rfl⟩
          | _ => exact .inl ⟨rfl, _, rfl, nofun, rfl⟩

/-- The program with a command line that asks for some work loads the settings and proceeds, unless
the search for a key has no end. -/
theorem run_eq (hparse : CommandLine.parse l.arguments = .ok line) (t : FileTree) :
    run l t = if Settings.searchesForEver t l.environment then none
      else some (proceed l line (Settings.load t l.environment line.config) (.start t)) := by
  rw [run, hparse]
  dsimp only
  rw [Settings.load?]
  split <;> rfl

/-- **The program has no end** exactly when the words ask for some work and the search for a key has
none. -/
theorem run_eq_none_iff (l : Launch) (t : FileTree) :
    run l t = none ↔ (∃ line, CommandLine.parse l.arguments = .ok line) ∧
      Settings.searchesForEver t l.environment = true := by
  cases hparse : CommandLine.parse l.arguments with
  | error e =>
      have hends : run l t ≠ none := by
        rw [run, hparse]
        cases e <;> exact Option.some_ne_none _
      simp [hends]
  | ok line =>
      rw [run_eq hparse]
      split <;> simp_all

/-- What is done with loaded settings by a command line that asks to explain files. -/
theorem proceed_eq (hrun : line.command = .run flags) (loaded : Except LoadFault Settings)
    (w : World) :
    proceed l line loaded w = match loaded with
      | .error e => (w, .error (.load e))
      | .ok s => match (flags.overlay s).validate with
        | .error e => (w, .error (.command e))
        | .ok () => match openLog s.logFile w with
          | (w, .error e) => (w, .error e)
          | (w, .ok ()) => runFiles l flags (flags.overlay s) w := by
  rw [proceed, settingsFor.eq_def]
  cases loaded with
  | error e => rfl
  | ok s =>
      dsimp only
      rw [hrun, Command.overlay]
      cases hvalid : (flags.overlay s).validate with
      | error e => rfl
      | ok _ =>
          dsimp only
          have hlog : (flags.overlay s).logFile = s.logFile := rfl
          rw [hlog]
          generalize openLog s.logFile w = out
          obtain ⟨w, result⟩ := out
          cases result with
          | error e => rfl
          | ok _ =>
              dsimp only
              rw [perform, hrun]

/-- With the log file open the command lacks a key, fails to forget the queue, or begins. -/
theorem runFiles_cases (l : Launch) (flags : RunFlags) (s : Settings) (w : World) :
    (∃ e, s.requireKey = .error e ∧ runFiles l flags s w = (w, .error (.command e))) ∨
      (flags.reset = true ∧ ∃ e, w.tree.removeFile s.stateFile = .error e ∧ e ≠ .notFound ∧
        runFiles l flags s w = (w, .error (.resetQueue s.stateFile e))) ∨
      (∃ key, s.requireKey = .ok key) ∧
        (∀ e, flags.reset = true → w.tree.removeFile s.stateFile = .error e → e = .notFound) ∧
        ∃ t', resetQueue flags ⟨s.stateFile⟩ w = ({ w with tree := t' }, .ok ()) ∧
          runFiles l flags s w = explainFiles l flags s ⟨s.stateFile⟩ { w with tree := t' } := by
  rw [runFiles]
  cases hkey : s.requireKey with
  | error e => exact .inl ⟨e, rfl, rfl⟩
  | ok key =>
      dsimp only
      rcases resetQueue_cases flags ⟨s.stateFile⟩ w with
        ⟨hreset, e, hremove, hne, hqueue⟩ | ⟨hforgotten, t', hqueue⟩
      · exact .inr (.inl ⟨hreset, e, hremove, hne, by rw [hqueue]⟩)
      · exact .inr (.inr ⟨⟨key, rfl⟩, hforgotten, t', hqueue, by rw [hqueue]⟩)

/-- How the program ends when the command is refused. -/
structure EndsEarly (file : Option Path) (t : FileTree) (out : Step) : Prop where
  fails : ∃ e, out.2 = .error e ∧ ¬ OfIndex e
  made : LogMade file t out.1.tree
  same : out.1 = { World.start t with tree := out.1.tree }

/-- A command for which none of the reasons holds is not refused. -/
theorem not_refused {s : Settings} (hload : Settings.load t l.environment line.config = .ok s)
    (hvalid : (flags.overlay s).validate = .ok ())
    (hlog : openLog s.logFile (.start t) = (w, .ok ())) {key : String}
    (hkey : s.requireKey = .ok key)
    (hforgotten : ∀ e, flags.reset = true → w.tree.removeFile s.stateFile = .error e →
      e = .notFound) : ¬ Refused l line flags t := by
  intro h
  cases h with
  | unloaded hload' =>
      rw [hload] at hload'
      cases hload'
  | unaccepted hload' hinvalid =>
      rw [hload] at hload'
      cases hload'
      rw [hvalid] at hinvalid
      cases hinvalid
  | unlogged hload' hlog' =>
      rw [hload] at hload'
      cases hload'
      rw [hlog] at hlog'
      cases hlog'
  | keyless hload' hkey' =>
      rw [hload] at hload'
      cases hload'
      rw [hkey] at hkey'
      cases hkey'
  | unforgotten hload' hreset hremove hne =>
      rw [hload] at hload'
      cases hload'
      rw [hlog] at hremove
      exact hne (hforgotten _ hreset hremove)

/-- **The command is refused, or it begins**, and then it explains files. -/
theorem run_cases (hparse : CommandLine.parse l.arguments = .ok line)
    (hrun : line.command = .run flags)
    (hends : Settings.searchesForEver t l.environment = false) :
    ∃ out, run l t = some out ∧
      (Refused l line flags t ∧ EndsEarly (logFile? l line t) t out ∨
        ¬ Refused l line flags t ∧ ∃ s w, Begins l line flags t s w ∧
          out = explainFiles l flags s ⟨s.stateFile⟩ w) := by
  refine ⟨_, by rw [run_eq hparse, hends]; rfl, ?_⟩
  rw [proceed_eq hrun]
  cases hload : Settings.load t l.environment line.config with
  | error e => exact .inl ⟨.unloaded hload, ⟨_, rfl, nofun⟩, .inl rfl, rfl⟩
  | ok s =>
      rw [logFile?_of_load hload]
      dsimp only
      cases hvalid : (flags.overlay s).validate with
      | error e =>
          exact .inl ⟨.unaccepted hload hvalid, ⟨_, rfl, not_ofIndex_of_validate hvalid⟩,
            .inl rfl, rfl⟩
      | ok _ =>
          obtain ⟨hmade, hsame⟩ := openLog_spec s.logFile (.start t)
          dsimp only
          obtain ⟨⟨w, result⟩, hlog⟩ : ∃ out, openLog s.logFile (.start t) = out := ⟨_, rfl⟩
          rw [hlog] at hmade hsame ⊢
          cases result with
          | error e =>
              exact .inl ⟨.unlogged hload (congrArg Prod.snd hlog),
                ⟨_, rfl, not_ofIndex_of_openLog hlog⟩, hmade, hsame⟩
          | ok _ =>
              dsimp only
              rcases runFiles_cases l flags (flags.overlay s) w with
                ⟨e, hkey, hends⟩ | ⟨hreset, e, hremove, hne, hends⟩ |
                ⟨⟨key, hkey⟩, hforgotten, t', hqueue, hbegins⟩
              · rw [hends]
                exact .inl ⟨.keyless hload hkey, ⟨_, rfl, not_ofIndex_of_requireKey hkey⟩,
                  hmade, hsame⟩
              · rw [hends]
                refine .inl ⟨.unforgotten hload hreset ?_ hne, ⟨_, rfl, nofun⟩, hmade, hsame⟩
                rw [hlog]
                exact hremove
              · rw [hbegins]
                exact .inr ⟨not_refused hload hvalid hlog hkey hforgotten, _, _,
                  ⟨⟨s, hload, rfl⟩, hvalid, ⟨key, hkey⟩, w, hlog, hqueue⟩, rfl⟩

end SourceTutor.Program
