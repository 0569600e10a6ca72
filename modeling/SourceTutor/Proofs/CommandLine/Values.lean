import SourceTutor.CommandLine.Basic

/-!
# The values of a command line

Every value that is read of a command has been read as one of the kind that the command's option
takes (`Given.Fits`): this holds when nothing has been read, and every word that is read keeps it
(`Level.fits_readFrom`). So a number that has to fit into thirty-two bits does
(`CommandLine.maxAttempts_lt`).
-/

set_option autoImplicit false

namespace SourceTutor

theorem bind_eq_ok {ε α β : Type} {x : Except ε α} {f : α → Except ε β} {b : β} :
    x >>= f = .ok b ↔ ∃ a, x = .ok a ∧ f a = .ok b := by
  cases x with
  | error e => exact ⟨nofun, fun ⟨_, h, _⟩ => nomatch h⟩
  | ok a => exact ⟨fun h => ⟨a, rfl, h⟩, fun ⟨_, h, h'⟩ => by cases h; exact h'⟩

namespace CommandLine

variable {level : Level} {g g' : Given} {name : String} {kind : ValueKind}

/-! ## What one word does -/

/-- The values are of the kinds that the options take, and so is the one that is waited for. -/
structure Given.Fits (level : Level) (g : Given) : Prop where
  values : ∀ name v, (name, v) ∈ g.values →
    ∃ kind s, level.options.lookup name = some kind ∧ kind.read s = .ok v
  waiting : ∀ w, g.waiting = some w → level.options.lookup w.name = some w.kind

namespace Given

theorem fits_nothing (level : Level) : nothing.Fits level :=
  ⟨fun _ _ h => (nomatch h), fun _ h => (nomatch h)⟩

theorem Fits.settle (h : g.Fits level) (hok : g.settle = .ok g') : g'.Fits level := by
  rw [Given.settle] at hok
  split at hok
  · cases hok
    exact h
  · cases hok
  · rename_i name kind s hwaiting
    split at hok
    · cases hok
    · obtain ⟨v, hv, hok⟩ := bind_eq_ok.mp hok
      cases hok
      refine ⟨fun name' v' hmem => ?_, fun _ h => nomatch h⟩
      rcases List.mem_append.mp hmem with hmem | hmem
      · exact h.values name' v' hmem
      · obtain ⟨rfl, rfl⟩ := Prod.mk.inj (List.mem_singleton.mp hmem)
        exact ⟨kind, s, h.waiting _ hwaiting, hv⟩

theorem Fits.takeValue (h : g.Fits level) (s : String) : (g.takeValue s).Fits level := by
  refine ⟨h.values, fun w hw => ?_⟩
  obtain ⟨w', hw', rfl⟩ := Option.map_eq_some_iff.mp hw
  exact h.waiting w' hw'

theorem Fits.takeFlag (h : g.Fits level) (hok : g.takeFlag name = .ok g') : g'.Fits level := by
  obtain ⟨g₁, hsettle, hok⟩ := bind_eq_ok.mp hok
  have hfits := h.settle hsettle
  split at hok
  · cases hok
  split at hok
  · cases hok
  split at hok
  · cases hok
  · cases hok
    exact ⟨hfits.values, hfits.waiting⟩

theorem Fits.takeOption (h : g.Fits level) (hkind : level.options.lookup name = some kind)
    {attached : Option String} (hok : g.takeOption name kind attached = .ok g') :
    g'.Fits level := by
  obtain ⟨g₁, hsettle, hok⟩ := bind_eq_ok.mp hok
  have hfits : ({ g₁ with waiting := some ⟨name, kind, attached⟩ } : Given).Fits level := by
    refine ⟨(h.settle hsettle).values, fun w hw => ?_⟩
    obtain rfl := Option.some.inj hw
    exact hkind
  split at hok
  · exact hfits.settle hok
  · cases hok
    exact hfits

theorem Fits.takeWord (h : g.Fits level) {s : String} (hok : g.takeWord s = .ok g') :
    g'.Fits level := by
  obtain ⟨g₁, hsettle, hok⟩ := bind_eq_ok.mp hok
  cases hok
  exact ⟨(h.settle hsettle).values, (h.settle hsettle).waiting⟩

end Given

/-! ## What all words do -/

/-- What has been read when the reading stops. -/
def Stop.given : Stop → Given
  | .lineEnd g => g
  | .command g _ _ => g

namespace Level

theorem fits_readLong (h : g.Fits level) {s : List Char} (hok : level.readLong g s = .ok g') :
    g'.Fits level := by
  rw [readLong] at hok
  split at hok
  · rename_i kind hkind
    exact h.takeOption hkind hok
  · split at hok
    · split at hok
      · cases hok
      · exact h.takeFlag hok
    · cases hok

theorem fits_readLetters (h : g.Fits level) {letters : List Char}
    (hok : level.readLetters g letters = .ok g') : g'.Fits level := by
  induction letters generalizing g with
  | nil =>
      cases hok
      exact h
  | cons c letters ih =>
      rw [readLetters] at hok
      split at hok
      · cases hok
      · obtain ⟨g₁, hflag, hok⟩ := bind_eq_ok.mp hok
        exact ih (h.takeFlag hflag) hok

theorem fits_readWord (h : g.Fits level) {escaped : Bool} {s : String}
    (hok : level.readWord escaped g s = .ok g') : g'.Fits level := by
  rw [readWord] at hok
  split at hok
  · exact h.takeWord hok
  · split at hok
    · cases hok
    · cases hok

theorem fits_readEscaped (h : g.Fits level) {words : List String}
    (hok : level.readEscaped g words = .ok g') : g'.Fits level := by
  induction words generalizing g with
  | nil =>
      cases hok
      exact h
  | cons s words ih =>
      rw [readEscaped] at hok
      obtain ⟨g₁, hword, hok⟩ := bind_eq_ok.mp hok
      exact ih (fits_readWord h hword) hok

/-- Whatever words are read, the values fit. The induction is on the words left. -/
theorem fits_readFrom (h : g.Fits level) {words : List String} {stop : Stop}
    (hok : level.readFrom g words = .ok stop) : stop.given.Fits level := by
  induction words generalizing g with
  | nil =>
      cases hok
      exact h
  | cons s words ih =>
      rw [readFrom] at hok
      split at hok
      · cases hok
        exact h
      · split at hok
        · obtain ⟨g₁, hescaped, hok⟩ := bind_eq_ok.mp hok
          cases hok
          exact fits_readEscaped h hescaped
        · obtain ⟨g₁, hlong, hok⟩ := bind_eq_ok.mp hok
          exact ih (fits_readLong h hlong) hok
        · obtain ⟨g₁, hletters, hok⟩ := bind_eq_ok.mp hok
          exact ih (fits_readLetters h hletters) hok
        · split at hok
          · exact ih (h.takeValue s) hok
          · obtain ⟨g₁, hword, hok⟩ := bind_eq_ok.mp hok
            exact ih (fits_readWord h hword) hok

end Level

/-- **The values read of a command are of the kinds that its options take.** -/
theorem fits_readToEnd {words : List String} (hok : readToEnd level words = .ok g) :
    g.Fits level := by
  obtain ⟨stop, hread, hok⟩ := bind_eq_ok.mp hok
  have hfits : stop.given.Fits level :=
    Level.fits_readFrom (Given.fits_nothing level) (by simpa [Level.read] using hread)
  split at hok
  · exact hfits.settle hok
  · exact hfits.settle hok

/-! ## Numbers -/

theorem natural?_word_lt {s : String} {n : Nat} (h : natural? UInt32.size true s = some n) :
    n < UInt32.size := by
  have hdigits : ∀ digits, ((digitsValue? digits).bind fun n =>
      if n < UInt32.size then some n else none) = some n → n < UInt32.size := by
    intro digits hvalue
    obtain ⟨m, -, hm⟩ := Option.bind_eq_some_iff.mp hvalue
    split at hm
    · rename_i hlt
      cases hm
      exact hlt
    · cases hm
  rw [natural?] at h
  split at h
  · exact hdigits _ h
  · obtain ⟨m, -, hm⟩ := Option.bind_eq_some_iff.mp h
    split at hm
    · cases hm
      decide
    · cases hm
  · exact hdigits _ h

/-- A number that is given for an option of thirty-two bits fits into them. -/
theorem numberOf?_lt (h : g.Fits level) (hkind : level.options.lookup name = some .word) {n : Nat}
    (hn : numberOf? g name = some n) : n < UInt32.size := by
  rw [numberOf?] at hn
  split at hn
  · rename_i m hlookup
    cases hn
    obtain ⟨before, after, hvalues, -⟩ := List.lookup_eq_some_iff.mp hlookup
    obtain ⟨kind, s, hkind', hread⟩ := h.values name (.number n) (by simp [hvalues])
    rw [hkind] at hkind'
    cases hkind'
    rw [ValueKind.read] at hread
    cases hnumber : natural? UInt32.size true s with
    | none =>
        rw [hnumber] at hread
        cases hread
    | some m =>
        rw [hnumber] at hread
        cases hread
        exact natural?_word_lt hnumber
  · cases hn

/-- The command that explains files is the only one that comes to its arguments. -/
theorem runLevel_of_commandOf? {command : Given → Command} {flags : RunFlags}
    (hcommand : commandOf? name = some (level, command)) (hrun : command g = .run flags) :
    level = runLevel ∧ flags = runFlags g := by
  unfold commandOf? at hcommand
  split at hcommand
  · cases hcommand
    cases hrun
    exact ⟨rfl, rfl⟩
  all_goals
    cases hcommand
    try cases hrun

/-- The attempts that a command line asks for fit into thirty-two bits. -/
theorem maxAttempts_lt {words : List String} {line : CommandLine} {flags : RunFlags}
    (hparse : parse words = .ok line) (hrun : line.command = .run flags) {n : Nat}
    (hn : flags.maxAttempts = some n) : n < UInt32.size := by
  obtain ⟨stop, -, hparse⟩ := bind_eq_ok.mp hparse
  split at hparse
  · obtain ⟨g, -, hparse⟩ := bind_eq_ok.mp hparse
    cases hparse
  · rename_i above name rest
    split at hparse
    · cases hparse
    · rename_i level command hcommand
      obtain ⟨below, hbelow, hparse⟩ := bind_eq_ok.mp hparse
      obtain ⟨above', -, hparse⟩ := bind_eq_ok.mp hparse
      cases hparse
      obtain ⟨rfl, rfl⟩ := runLevel_of_commandOf? hcommand hrun
      exact numberOf?_lt (fits_readToEnd hbelow) (by decide) hn

end CommandLine

end SourceTutor
