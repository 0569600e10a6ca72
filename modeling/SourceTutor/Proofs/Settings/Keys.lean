import SourceTutor.Proofs.FileTree.Resolve
import SourceTutor.Settings.Load

/-!
# Which key counts

A key for the service may come from the environment, from the environment file and from the
settings file (`suppliedKeys`). The first one that is not empty counts, and it is refused if it is
blank: then a usable key that comes later is not looked at. `key_of_load` says so for all sources,
and that this is the only way in which a usable key is overlooked.
-/

set_option autoImplicit false

namespace SourceTutor.Settings

open SourceTutor.FileTree

variable {t : FileTree} {environment : EnvFile.Names} {file : Option Path} {s found : Settings}
  {keys : List String} {key : String}

/-! ## The keys of all sources -/

/-- The keys of the environment file, in the order of its entries. -/
def envFileKeys (t : FileTree) (environment : EnvFile.Names) : List String :=
  match t.read envFile with
  | .error _ => []
  | .ok bytes => ((EnvFile.entries environment bytes).filter (·.1 == keyName)).map (·.2)

/-- The keys of all sources in the order in which they count: the variable of the environment, the
entries of the environment file, and the settings found in a settings file. -/
def suppliedKeys (t : FileTree) (environment : EnvFile.Names) (found : Settings) : List String :=
  (environment keyName).toList ++ envFileKeys t environment ++ [found.apiKey]

/-- The key has the property, and no key before it has. -/
def IsFirst (p : String → Bool) (keys : List String) (key : String) : Prop :=
  ∃ before after, keys = before ++ key :: after ∧ p key = true ∧
    ∀ earlier ∈ before, p earlier = false

/-- The key is not empty. -/
def isGiven (key : String) : Bool := key != ""

/-- The key is not blank. -/
def isUsable (key : String) : Bool := !Text.isBlankText key

theorem find?_eq_some_iff {p : String → Bool} :
    keys.find? p = some key ↔ IsFirst p keys key := by
  rw [List.find?_eq_some_iff_append]
  constructor
  · rintro ⟨hkey, before, after, rfl, hbefore⟩
    exact ⟨before, after, rfl, hkey, fun earlier h => by simpa using hbefore earlier h⟩
  · rintro ⟨before, after, rfl, hkey, hbefore⟩
    exact ⟨hkey, before, after, rfl, fun earlier h => by simpa using hbefore earlier h⟩

theorem isGiven_of_isUsable (h : isUsable key = true) : isGiven key = true := by
  cases hgiven : isGiven key with
  | true => rfl
  | false =>
      obtain rfl : key = "" := by simpa [isGiven] using hgiven
      exact absurd h (by decide)

/-! ## The one that is loaded -/

theorem envFileKey?_eq (t : FileTree) (environment : EnvFile.Names) :
    envFileKey? t environment = (envFileKeys t environment).find? isGiven := by
  unfold envFileKey? envFileKeys
  cases t.read envFile with
  | error e => rfl
  | ok bytes =>
      dsimp only
      rw [List.find?_map, List.find?_filter]
      congr 2
      funext entry
      rw [Bool.eq_iff_iff]
      simp [isGiven]

theorem outerKey?_eq (t : FileTree) (environment : EnvFile.Names) :
    outerKey? t environment =
      ((environment keyName).toList ++ envFileKeys t environment).find? isGiven := by
  unfold outerKey?
  rw [List.find?_append, ← envFileKey?_eq]
  cases environment keyName with
  | none => rfl
  | some key =>
      show (if isGiven key = true then some key else envFileKey? t environment) = _
      by_cases hkey : isGiven key = true
      · rw [if_pos hkey, Option.toList_some, List.find?_cons_of_pos hkey, Option.some_or]
      · rw [if_neg hkey, Option.toList_some, List.find?_cons_of_neg hkey, List.find?_nil,
          Option.none_or]

/-- What is loaded are the settings found, with the first key that is not empty. -/
theorem load_eq (environment : EnvFile.Names) (hfile : ofFileOrStandard t file = .ok found) :
    load t environment file =
      .ok { found with
        apiKey := ((suppliedKeys t environment found).find? isGiven).getD "" } := by
  have hlast : ([found.apiKey].find? isGiven).getD "" = found.apiKey := by
    by_cases hkey : isGiven found.apiKey = true
    · rw [List.find?_cons_of_pos hkey, Option.getD_some]
    · have hempty : found.apiKey = "" := by simpa [isGiven] using hkey
      rw [List.find?_cons_of_neg hkey, hempty]
      rfl
  unfold load suppliedKeys
  rw [hfile, List.find?_append, ← outerKey?_eq]
  cases outerKey? t environment with
  | some key => rfl
  | none =>
      rw [Option.none_or, hlast]
      rfl

theorem requireKey_eq_ok_iff : s.requireKey = .ok key ↔ s.apiKey = key ∧ isUsable key = true := by
  unfold requireKey isUsable
  split
  · next hblank =>
      constructor
      · intro h
        cases h
      · rintro ⟨rfl, husable⟩
        rw [hblank] at husable
        cases husable
  · next hblank =>
      constructor
      · intro h
        obtain rfl := Except.ok.inj h
        exact ⟨rfl, by simpa using hblank⟩
      · rintro ⟨rfl, -⟩
        rfl

theorem requireKey_eq_error_iff :
    s.requireKey = .error .missingKey ↔ isUsable s.apiKey = false := by
  unfold requireKey isUsable
  split
  · next hblank => simp [hblank]
  · next hblank => simp [hblank]

/-! ## The one that should be -/

/-- What is asked for among these keys is the first usable one; none is missed only if none is
usable. -/
structure Heeds (keys : List String) (outcome : Except Fault String) : Prop where
  ok : ∀ key, outcome = .ok key ↔ IsFirst isUsable keys key
  missing : outcome = .error .missingKey ↔ ∀ key ∈ keys, isUsable key = false

/-- The first key that is not empty is blank, and a usable one comes later. -/
def Hides (keys : List String) : Prop :=
  ∃ key, IsFirst isGiven keys key ∧ isUsable key = false ∧ ∃ later ∈ keys, isUsable later = true

/-- If the first key that is not empty is usable, it is the first usable one. -/
theorem isFirst_isUsable (h : IsFirst isGiven keys key) (husable : isUsable key = true) :
    IsFirst isUsable keys key := by
  obtain ⟨before, after, rfl, -, hbefore⟩ := h
  refine ⟨before, after, rfl, husable, ?_⟩
  intro earlier hearlier
  rw [Bool.eq_false_iff]
  intro h
  have hnot := hbefore earlier hearlier
  rw [isGiven_of_isUsable h] at hnot
  cases hnot

theorem IsFirst.unique {p : String → Bool} {other : String} (h : IsFirst p keys key)
    (h' : IsFirst p keys other) : key = other := by
  rw [← find?_eq_some_iff] at h h'
  rw [h] at h'
  exact Option.some.inj h'

theorem IsFirst.mem {p : String → Bool} (h : IsFirst p keys key) : key ∈ keys ∧ p key = true := by
  obtain ⟨before, after, rfl, hkey, -⟩ := h
  exact ⟨by simp, hkey⟩

theorem exists_isFirst {p : String → Bool} (hkey : key ∈ keys) (h : p key = true) :
    ∃ first, IsFirst p keys first := by
  have hsome : (keys.find? p).isSome = true := List.find?_isSome.mpr ⟨key, hkey, h⟩
  obtain ⟨first, hfirst⟩ := Option.isSome_iff_exists.mp hsome
  exact ⟨first, find?_eq_some_iff.mp hfirst⟩

variable {outcome : Except Fault String}

/-- The key asked for is the first that is not empty, unless that is blank. -/
theorem requireKey_of_first (h : s.apiKey = (keys.find? isGiven).getD "") :
    (∀ key, s.requireKey = .ok key ↔ IsFirst isGiven keys key ∧ isUsable key = true) ∧
      (s.requireKey = .error .missingKey ↔
        ∀ key, IsFirst isGiven keys key → isUsable key = false) := by
  have hok : ∀ key, s.requireKey = .ok key ↔
      IsFirst isGiven keys key ∧ isUsable key = true := by
    intro key
    rw [requireKey_eq_ok_iff, ← find?_eq_some_iff, h]
    cases keys.find? isGiven with
    | some first => simp
    | none =>
        have hempty : isUsable "" = false := by decide
        constructor
        · rintro ⟨rfl, husable⟩
          rw [Option.getD_none, hempty] at husable
          cases husable
        · rintro ⟨hnone, -⟩
          cases hnone
  refine ⟨hok, ?_⟩
  rw [requireKey_eq_error_iff]
  constructor
  · intro hblank key hkey
    rw [Bool.eq_false_iff]
    intro husable
    have hsame := (requireKey_eq_ok_iff.mp ((hok key).mpr ⟨hkey, husable⟩)).1
    rw [hsame, husable] at hblank
    cases hblank
  · intro hfirst
    rw [Bool.eq_false_iff]
    intro husable
    obtain ⟨hkey, -⟩ := (hok s.apiKey).mp (requireKey_eq_ok_iff.mpr ⟨rfl, husable⟩)
    rw [hfirst s.apiKey hkey] at husable
    cases husable

/-- Where nothing is hidden, the first usable key is the first that is not empty. -/
theorem isFirst_isGiven (hclear : ¬ Hides keys) (h : IsFirst isUsable keys key) :
    IsFirst isGiven keys key := by
  obtain ⟨hmem, husable⟩ := h.mem
  obtain ⟨first, hfirst⟩ := exists_isFirst hmem (isGiven_of_isUsable husable)
  cases hgood : isUsable first with
  | true =>
      rw [h.unique (isFirst_isUsable hfirst hgood)]
      exact hfirst
  | false => exact absurd ⟨first, hfirst, hgood, key, hmem, husable⟩ hclear

/-- Taking the first key that is not empty heeds the usable ones unless one is hidden. -/
theorem heeds_iff
    (hok : ∀ key, outcome = .ok key ↔ IsFirst isGiven keys key ∧ isUsable key = true)
    (hmissing : outcome = .error .missingKey ↔
      ∀ key, IsFirst isGiven keys key → isUsable key = false) :
    Heeds keys outcome ↔ ¬ Hides keys := by
  constructor
  · -- the blank key is the first, so that none is had although one is usable
    rintro ⟨-, hnone⟩ ⟨key, hfirst, hblank, later, hlater, husable⟩
    have herror : outcome = .error .missingKey := by
      apply hmissing.mpr
      intro other hother
      rw [← hfirst.unique hother]
      exact hblank
    rw [hnone.mp herror later hlater] at husable
    cases husable
  · intro hclear
    constructor
    · intro key
      rw [hok]
      constructor
      · rintro ⟨hgiven, husable⟩
        exact isFirst_isUsable hgiven husable
      · intro hkey
        exact ⟨isFirst_isGiven hclear hkey, hkey.mem.2⟩
    · rw [hmissing]
      constructor
      · intro h key hkey
        rw [Bool.eq_false_iff]
        intro husable
        obtain ⟨first, hfirst⟩ := exists_isFirst hkey husable
        have hblank := h first (isFirst_isGiven hclear hfirst)
        rw [hfirst.mem.2] at hblank
        cases hblank
      · intro h key hkey
        exact h key hkey.mem.1

/-- **Which key counts.** If the settings file is in order the settings are loaded, and only the key
depends on more than the file. A key is had exactly if it is the first that is not empty and is not
blank, and it is missing exactly if there is none that is not empty or the first such is blank. So
the first usable key is had, and it is missing only if there is none, unless a blank key that is not
empty hides it. -/
theorem key_of_load (environment : EnvFile.Names) (hfile : ofFileOrStandard t file = .ok found) :
    ∃ s, load t environment file = .ok s ∧ s = { found with apiKey := s.apiKey } ∧
      (∀ key, s.requireKey = .ok key ↔
        IsFirst isGiven (suppliedKeys t environment found) key ∧ isUsable key = true) ∧
      (s.requireKey = .error .missingKey ↔
        ∀ key, IsFirst isGiven (suppliedKeys t environment found) key → isUsable key = false) ∧
      (Heeds (suppliedKeys t environment found) s.requireKey ↔
        ¬ Hides (suppliedKeys t environment found)) := by
  obtain ⟨s, hload, hs, hkey⟩ : ∃ s, load t environment file = .ok s ∧
      s = { found with apiKey := s.apiKey } ∧
      s.apiKey = ((suppliedKeys t environment found).find? isGiven).getD "" :=
    ⟨_, load_eq environment hfile, rfl, rfl⟩
  obtain ⟨hok, hmissing⟩ := requireKey_of_first hkey
  exact ⟨s, hload, hs, hok, hmissing, heeds_iff hok hmissing⟩

/-! ## A blank key in front of a usable one -/

/-- An environment file with an empty key and a usable one. -/
def pinned : FileTree :=
  ⟨[([".env"], .file "DEEPSEEK_API_KEY=\nDEEPSEEK_API_KEY=sk-live\n".toUTF8)]⟩

/-- An environment in which nothing but the key is known. -/
def keyIs (key : String) : EnvFile.Names := fun name => if name = keyName then some key else none

theorem isBare_standardFile : standardFile.IsBare "code-analyzer.toml" :=
  ⟨by decide, by simp [Path.IsName], by decide, by decide⟩

theorem isBare_envFile : envFile.IsBare ".env" :=
  ⟨by decide, by simp [Path.IsName], by decide, by decide⟩

/-- Without a standard file the standard settings are those to start from. -/
theorem ofFileOrStandard_of_free (hget : t.get? ["code-analyzer.toml"] = none) :
    ofFileOrStandard t none = .ok standard := by
  rw [ofFileOrStandard, (read_bare_free isBare_standardFile hget).2.1]
  rfl

theorem ofFileOrStandard_pinned : ofFileOrStandard pinned none = .ok standard :=
  ofFileOrStandard_of_free (by decide)

theorem suppliedKeys_pinned (hkey : key = "" ∨ key = " ") :
    suppliedKeys pinned (keyIs key) standard = [key, "", "sk-live", ""] := by
  have hread : pinned.read envFile =
      .ok "DEEPSEEK_API_KEY=\nDEEPSEEK_API_KEY=sk-live\n".toUTF8 :=
    read_bare_file isBare_envFile rfl
  have hentries : EnvFile.entries (keyIs key)
      "DEEPSEEK_API_KEY=\nDEEPSEEK_API_KEY=sk-live\n".toUTF8 =
        [(keyName, ""), (keyName, "sk-live")] := by
    rcases hkey with rfl | rfl <;> decide +kernel
  rw [suppliedKeys, envFileKeys, hread]
  dsimp only
  rw [hentries]
  rfl

/-- An instance: an empty variable hides nothing. -/
theorem key_of_load_pinned :
    ofFileOrStandard pinned none = .ok standard ∧
      ∃ s, load pinned (keyIs "") none = .ok s ∧ s.requireKey = .ok "sk-live" ∧
        Heeds ["", "", "sk-live", ""] s.requireKey := by
  obtain ⟨s, hload, -, hok, -, hheeds⟩ :=
    key_of_load (keyIs "") ofFileOrStandard_pinned
  rw [suppliedKeys_pinned (.inl rfl)] at hok hheeds
  have hfirst : IsFirst isGiven ["", "", "sk-live", ""] "sk-live" :=
    ⟨["", ""], [""], rfl, by decide, by decide⟩
  refine ⟨ofFileOrStandard_pinned, s, hload, (hok _).mpr ⟨hfirst, by decide⟩, hheeds.mpr ?_⟩
  rintro ⟨key, hkey, hblank, -⟩
  rw [← hfirst.unique hkey] at hblank
  exact absurd hblank (by decide)

/-- **A blank variable hides the key of the environment file.** -/
theorem not_always_heeded :
    ¬ ∀ (t : FileTree) (environment : EnvFile.Names) (file : Option Path) (found : Settings),
      ofFileOrStandard t file = .ok found →
        ∃ s, load t environment file = .ok s ∧
          Heeds (suppliedKeys t environment found) s.requireKey := by
  intro h
  obtain ⟨s, hload, hheeds⟩ := h pinned (keyIs " ") none standard ofFileOrStandard_pinned
  have hsame := load_eq (keyIs " ") ofFileOrStandard_pinned
  rw [hload] at hsame
  have hkey : s.apiKey = ((suppliedKeys pinned (keyIs " ") standard).find? isGiven).getD "" :=
    congrArg apiKey (Except.ok.inj hsame)
  obtain ⟨hok, hmissing⟩ := requireKey_of_first hkey
  have hhides : Hides (suppliedKeys pinned (keyIs " ") standard) := by
    rw [suppliedKeys_pinned (.inr rfl)]
    exact ⟨" ", ⟨[], ["", "sk-live", ""], rfl, by decide, by decide⟩, by decide,
      "sk-live", by decide, by decide⟩
  exact (heeds_iff hok hmissing).mp hheeds hhides

end SourceTutor.Settings
