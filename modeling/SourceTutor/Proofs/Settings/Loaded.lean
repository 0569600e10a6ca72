import SourceTutor.Proofs.Binary.Rounding
import SourceTutor.Settings.Load

/-!
# What settings are loaded

Settings come from a document that may hold anything, but their numbers are those of the program's
own types (`Settings.Sound`): the number of attempts fits into thirty-two bits, and a delay that is
finite has a magnitude.
-/

set_option autoImplicit false

namespace SourceTutor

open Binary

/-- A finite value has a magnitude, which is not negative. -/
def Binary.Value.HasMagnitude (v : Value) : Prop :=
  ∀ negative x, v = .finite negative x → 0 ≤ x

theorem Binary.Format.round_hasMagnitude (f : Format) (negative : Bool) (x : Rat) :
    (f.round negative x).HasMagnitude := by
  intro negative' y h
  rw [round] at h
  split at h
  · cases h
    exact f.nearest_nonneg x
  · cases h

theorem Binary.Format.convert_hasMagnitude (f : Format) (v : Value) :
    (f.convert v).HasMagnitude := by
  cases v with
  | nan => exact fun _ _ h => nomatch h
  | infinite negative => exact fun _ _ h => nomatch h
  | finite negative x => exact f.round_hasMagnitude negative x

namespace Settings

variable {s : Settings} {es : Toml.Entries}

/-- The numbers of the settings are those of the program's own types. -/
structure Sound (s : Settings) : Prop where
  maxAttempts : s.maxAttempts < UInt32.size
  baseDelay : s.baseDelaySecs.HasMagnitude
  maxDelay : s.maxDelaySecs.HasMagnitude
  pacing : s.pacingSecs.HasMagnitude

/-! ## One setting -/

/-- What holds of the standard value and of every value read holds of the setting. -/
theorem holds_of_setting? {α : Type} {P : α → Prop} {name : String} {read : Toml → Option α}
    {missing v : α} (hmissing : P missing) (hread : ∀ w v, read w = some v → P v)
    (h : setting? es name read missing = some v) : P v := by
  rw [setting?] at h
  split at h
  · cases h
    exact hmissing
  · exact hread _ _ h

theorem lt_of_asNat? {bound n : Nat} {w : Toml} (h : asNat? bound w = some n) : n < bound := by
  rw [asNat?.eq_def] at h
  split at h
  · split at h
    · rename_i hrange
      cases h
      simp only [Bool.and_eq_true, decide_eq_true_eq] at hrange
      omega
    · cases h
  · cases h

theorem hasMagnitude_of_asFloat? {f : Format} {v : Value} {w : Toml} (h : asFloat? f w = some v) :
    v.HasMagnitude := by
  rw [asFloat?.eq_def] at h
  split at h
  · cases h
    exact f.convert_hasMagnitude _
  · cases h
    exact f.round_hasMagnitude _ _
  · cases h

theorem wholeSeconds_hasMagnitude (n : Nat) : (wholeSeconds n).HasMagnitude := by
  intro negative x h
  cases h
  exact_mod_cast Nat.zero_le n

/-! ## All of them -/

theorem sound_standard : standard.Sound where
  maxAttempts := by decide
  baseDelay := wholeSeconds_hasMagnitude 2
  maxDelay := wholeSeconds_hasMagnitude 60
  pacing := wholeSeconds_hasMagnitude 1

theorem sound_of_ofEntries? (h : ofEntries? es = some s) : s.Sound := by
  -- the settings are read one by one
  iterate 7 obtain ⟨_, -, h⟩ := Option.bind_eq_some_iff.mp h
  obtain ⟨maxAttempts, hattempts, h⟩ := Option.bind_eq_some_iff.mp h
  obtain ⟨base, hbase, h⟩ := Option.bind_eq_some_iff.mp h
  obtain ⟨max, hmax, h⟩ := Option.bind_eq_some_iff.mp h
  iterate 2 obtain ⟨_, -, h⟩ := Option.bind_eq_some_iff.mp h
  obtain ⟨pacing, hpacing, h⟩ := Option.bind_eq_some_iff.mp h
  iterate 4 obtain ⟨_, -, h⟩ := Option.bind_eq_some_iff.mp h
  obtain rfl := Option.some.inj h
  exact ⟨holds_of_setting? (P := (· < UInt32.size)) sound_standard.maxAttempts
      (fun _ _ => lt_of_asNat?) hattempts,
    holds_of_setting? sound_standard.baseDelay (fun _ _ => hasMagnitude_of_asFloat?) hbase,
    holds_of_setting? sound_standard.maxDelay (fun _ _ => hasMagnitude_of_asFloat?) hmax,
    holds_of_setting? sound_standard.pacing (fun _ _ => hasMagnitude_of_asFloat?) hpacing⟩

theorem sound_of_ofFile {t : FileTree} {p : Path} (h : ofFile t p = .ok s) : s.Sound := by
  rw [ofFile] at h
  split at h
  · cases h
  · split at h
    · rename_i hparse
      cases h
      obtain ⟨document, -, hentries⟩ := Option.bind_eq_some_iff.mp hparse
      exact sound_of_ofEntries? hentries
    · cases h

/-- **Settings that are loaded are sound.** -/
theorem sound_of_load {t : FileTree} {environment : EnvFile.Names} {file : Option Path}
    (h : load t environment file = .ok s) : s.Sound := by
  rw [load] at h
  cases hfile : ofFileOrStandard t file with
  | error e =>
      rw [hfile] at h
      cases h
  | ok s₁ =>
      have hsound : s₁.Sound := by
        rw [ofFileOrStandard.eq_def] at hfile
        split at hfile
        · exact sound_of_ofFile hfile
        · split at hfile
          · exact sound_of_ofFile hfile
          · cases hfile
            exact sound_standard
      rw [hfile] at h
      simp only [bind, Except.bind] at h
      split at h
      · cases h
        exact ⟨hsound.maxAttempts, hsound.baseDelay, hsound.maxDelay, hsound.pacing⟩
      · cases h
        exact hsound

end Settings

end SourceTutor
