import Mathlib.Tactic.ByContra
import SourceTutor.Lesson.Essence

/-!
# Patterns

A pattern is a regular expression: characters of a class, one pattern behind another, one before
another, and runs of a class that are as long or as short as possible. Matching goes by preference:
`Pattern.rests` lists what may follow a match at the start of a text, the most preferred first, and
the match is the first of them (`Pattern.rest?`). Where a match can start is searched from left to
right (`Pattern.start?`).

A run that is as long as possible is never given back when what comes behind it cannot start with a
character of the run (`Pattern.flatMap_greedy`); a run of any characters that is as short as
possible is a search (`Pattern.isSome_rest?_through`).
-/

set_option autoImplicit false

namespace SourceTutor.Text

open SourceTutor.Lesson

/-- A regular expression. -/
inductive Pattern where
  /-- The empty text. -/
  | nothing
  /-- One character of a class. -/
  | one (p : Char → Bool)
  | seq (first second : Pattern)
  /-- The first pattern, and otherwise the second. -/
  | either (first second : Pattern)
  /-- Any number of characters of a class, as many as possible. -/
  | greedy (p : Char → Bool)
  /-- Any number of characters of a class, as few as possible. -/
  | reluctant (p : Char → Bool)

namespace Pattern

/-- What may follow a run as long as possible, the longest run first. -/
def greedyRests (p : Char → Bool) : List Char → List (List Char)
  | [] => [[]]
  | c :: s => if p c then greedyRests p s ++ [c :: s] else [c :: s]

/-- What may follow a run as short as possible, the shortest run first. -/
def reluctantRests (p : Char → Bool) : List Char → List (List Char)
  | [] => [[]]
  | c :: s => if p c then (c :: s) :: reluctantRests p s else [c :: s]

/-- What may follow a match at the start of the text, the most preferred match first. -/
def rests : Pattern → List Char → List (List Char)
  | nothing, s => [s]
  | one _, [] => []
  | one p, c :: s => if p c then [s] else []
  | seq first second, s => (first.rests s).flatMap second.rests
  | either first second, s => first.rests s ++ second.rests s
  | greedy p, s => greedyRests p s
  | reluctant p, s => reluctantRests p s

/-- What follows the match at the start of the text, if there is one. -/
def rest? (pattern : Pattern) (s : List Char) : Option (List Char) := (pattern.rests s).head?

/-- The least position of the text where a match starts. -/
def start? (pattern : Pattern) : List Char → Option Nat
  | [] => if (pattern.rest? []).isSome then some 0 else none
  | c :: s =>
    if (pattern.rest? (c :: s)).isSome then some 0 else (pattern.start? s).map (· + 1)

/-- These characters. -/
def literal : List Char → Pattern
  | [] => nothing
  | c :: word => seq (one (· == c)) (literal word)

/-- At least one character of a class, as many as possible. -/
def run (p : Char → Bool) : Pattern := seq (one p) (greedy p)

/-- Any text up to a character, as short as possible, and that character. -/
def through (c : Char) : Pattern := seq (reluctant fun _ => true) (one (· == c))

variable {α : Type} {p : Char → Bool}

/-! ## Literal texts -/

theorem rests_literal (word s : List Char) :
    (literal word).rests s = (skipExact? word s).toList := by
  induction word generalizing s with
  | nil => rfl
  | cons c word ih =>
      cases s with
      | nil => rfl
      | cons d s =>
          by_cases h : c = d
          · subst h
            have hskip : skipExact? (c :: word) (c :: s) = skipExact? word s := by
              simp [skipExact?]
            rw [hskip, ← ih s]
            simp [literal, rests]
          · have hskip : skipExact? (c :: word) (d :: s) = none := by
              simp [skipExact?, h]
            have hne : ¬ d = c := fun heq => h heq.symm
            rw [hskip]
            simp [literal, rests, hne]

theorem rest?_literal (word s : List Char) : (literal word).rest? s = skipExact? word s := by
  rw [rest?, rests_literal]
  cases skipExact? word s <;> rfl

/-! ## Runs -/

/-- A run as long as possible is not given back when what comes behind it cannot start with one of
its characters. -/
theorem flatMap_greedy {behind : List Char → List α}
    (hbehind : ∀ c s, p c = true → behind (c :: s) = []) (s : List Char) :
    ((greedy p).rests s).flatMap behind = behind (s.dropWhile p) := by
  show (greedyRests p s).flatMap behind = _
  induction s with
  | nil => simp [greedyRests]
  | cons c s ih =>
      by_cases hc : p c = true
      · have hlast : behind (c :: s) = [] := hbehind c s hc
        simp [greedyRests, hc, ih, hlast]
      · simp [greedyRests, hc]

/-- So it is with a run that is not empty. -/
theorem flatMap_run {behind : List Char → List α}
    (hbehind : ∀ c s, p c = true → behind (c :: s) = []) (s : List Char) :
    ((run p).rests s).flatMap behind = (skipRun? p s).toList.flatMap behind := by
  cases s with
  | nil => rfl
  | cons c s =>
      by_cases hc : p c = true
      · have hrests : (run p).rests (c :: s) = (greedy p).rests s := by simp [run, rests, hc]
        have hskip : skipRun? p (c :: s) = some (s.dropWhile p) := if_pos hc
        rw [hrests, flatMap_greedy hbehind, hskip]
        simp
      · simp [run, rests, skipRun?, hc]

/-- The longest run is preferred. -/
theorem head?_greedy (p : Char → Bool) (s : List Char) :
    ((greedy p).rests s).head? = some (s.dropWhile p) := by
  show (greedyRests p s).head? = _
  induction s with
  | nil => rfl
  | cons c s ih =>
      by_cases hc : p c = true
      · simp [greedyRests, hc, ih]
      · simp [greedyRests, hc]

theorem rest?_run (p : Char → Bool) (s : List Char) : (run p).rest? s = skipRun? p s := by
  cases s with
  | nil => rfl
  | cons c s =>
      by_cases hc : p c = true
      · have hrests : (run p).rests (c :: s) = (greedy p).rests s := by simp [run, rests, hc]
        rw [rest?, hrests, head?_greedy]
        exact (if_pos hc).symm
      · simp [rest?, run, rests, skipRun?, hc]

/-! ## One pattern behind another -/

theorem rests_seq (first second : Pattern) (s : List Char) :
    (seq first second).rests s = (first.rests s).flatMap second.rests := rfl

theorem rest?_either (first second : Pattern) (s : List Char) :
    (either first second).rest? s = (first.rest? s <|> second.rest? s) := by
  simp only [rest?, rests, List.head?_append, Option.orElse_eq_orElse, Option.orElse_eq_or]

/-- Behind a literal text it is all a matter of what follows. -/
theorem rest?_seq_literal (word : List Char) (second : Pattern) (s : List Char) :
    (seq (literal word) second).rest? s = (skipExact? word s).bind second.rest? := by
  rw [rest?, rests_seq, rests_literal]
  cases skipExact? word s with
  | none => rfl
  | some s => simp [rest?]

/-- Behind a run, too, when the second pattern cannot start with one of its characters. -/
theorem rest?_seq_run {second : Pattern}
    (hsecond : ∀ c s, p c = true → second.rests (c :: s) = []) (s : List Char) :
    (seq (run p) second).rest? s = (skipRun? p s).bind second.rest? := by
  rw [rest?, rests_seq, flatMap_run hsecond]
  cases skipRun? p s with
  | none => rfl
  | some s => simp [rest?]

theorem rest?_seq_greedy {second : Pattern}
    (hsecond : ∀ c s, p c = true → second.rests (c :: s) = []) (s : List Char) :
    (seq (greedy p) second).rest? s = second.rest? (s.dropWhile p) := by
  rw [rest?, rests_seq, flatMap_greedy hsecond, rest?]

/-- What is said of the rests of a literal text and of a run: without their first character there
are none. -/
theorem rests_literal_ne {c d : Char} (h : d ≠ c) (word s : List Char) :
    (literal (c :: word)).rests (d :: s) = [] := by
  simp [literal, rests, h]

theorem rests_run_of_not {c : Char} (h : p c = false) (s : List Char) :
    (run p).rests (c :: s) = [] := by
  simp [run, rests, h]

/-! ## Searching -/

/-- A run of any characters that is as short as possible, up to a character: the match is there
if the character is. -/
theorem isSome_rest?_through (c : Char) (s : List Char) :
    ((through c).rest? s).isSome = s.contains c := by
  show ((reluctantRests (fun _ => true) s).flatMap (one (· == c)).rests).head?.isSome = _
  induction s with
  | nil => rfl
  | cons d s ih =>
      by_cases hd : d = c
      · subst hd
        simp [reluctantRests, rests]
      · have hne : ¬ c = d := fun h => hd h.symm
        simp only [reluctantRests, if_true, List.flatMap_cons]
        simp only [rests, beq_iff_eq, hd, if_false, List.nil_append, ih]
        simp [hne]

/-- **A search finds the least position**, or there is none. -/
theorem start?_eq_some_iff {pattern : Pattern} {s : List Char} {i : Nat} :
    pattern.start? s = some i ↔ i ≤ s.length ∧ (pattern.rest? (s.drop i)).isSome = true ∧
      ∀ j, j < i → (pattern.rest? (s.drop j)).isSome = false := by
  induction s generalizing i with
  | nil =>
      unfold start?
      cases hmatch : (pattern.rest? []).isSome with
      | false => simp [hmatch]
      | true =>
          simp only [if_true, Option.some.injEq, List.drop_nil, hmatch, List.length_nil]
          constructor
          · rintro rfl
            exact ⟨Nat.le_refl 0, trivial, nofun⟩
          · rintro ⟨hle, -, -⟩
            omega
  | cons c s ih =>
      unfold start?
      cases hmatch : (pattern.rest? (c :: s)).isSome with
      | true =>
          simp only [if_true, Option.some.injEq]
          constructor
          · rintro rfl
            exact ⟨Nat.zero_le _, hmatch, nofun⟩
          · rintro ⟨-, -, hleast⟩
            by_contra hne
            have hnone := hleast 0 (by omega)
            rw [List.drop_zero, hmatch] at hnone
            cases hnone
      | false =>
          simp only [if_false, Bool.false_eq_true, Option.map_eq_some_iff]
          constructor
          · rintro ⟨j, hj, rfl⟩
            obtain ⟨hle, hfound, hleast⟩ := ih.mp hj
            refine ⟨by simpa using hle, hfound, ?_⟩
            intro k hk
            cases k with
            | zero => exact hmatch
            | succ k => exact hleast k (by omega)
          · rintro ⟨hle, hfound, hleast⟩
            cases i with
            | zero =>
                rw [List.drop_zero, hmatch] at hfound
                cases hfound
            | succ j =>
                refine ⟨j, ih.mpr ⟨by simpa using hle, hfound, ?_⟩, rfl⟩
                intro k hk
                exact hleast (k + 1) (by omega)

end Pattern

end SourceTutor.Text
