import SourceTutor.Proofs.Text.Pattern

/-!
# The definitions of a text

The definitions listed for a text are described here by their places. A `Form` says how a definition
is spelled, with every run of letters or white space as long as possible; at a place the first form
that applies counts (`FirstForm`), and that is what the regular expression for definitions prefers
there (`rest?_definitionPattern`). `Lists` says that places follow each other from left to right,
each the least one behind the one before where a form applies. The definitions listed are the texts
at such places (`definitions_eq_iff`), although inside a word they are looked for with fewer forms.
-/

set_option autoImplicit false

namespace SourceTutor.Lesson

open SourceTutor.Text

variable {p : Char → Bool} {s text rest run : List Char}

/-! ## Runs -/

/-- A run of characters of a class that is as long as possible: none of the class follows. -/
structure MaximalRun (p : Char → Bool) (run rest : List Char) : Prop where
  all : ∀ c ∈ run, p c = true
  maximal : ∀ c, rest.head? = some c → p c = false

theorem maximalRun_takeWhile (p : Char → Bool) (s : List Char) :
    MaximalRun p (s.takeWhile p) (s.dropWhile p) where
  all c hc := by
    have hall : (s.takeWhile p).all p = true := List.all_takeWhile
    exact List.all_eq_true.mp hall c hc
  maximal c hc := by
    have hnot := List.head?_dropWhile_not p s
    rw [hc] at hnot
    exact hnot

theorem MaximalRun.dropWhile_eq (h : MaximalRun p run rest) : (run ++ rest).dropWhile p = rest := by
  have hrun : (run ++ rest).dropWhile p = rest.dropWhile p :=
    List.dropWhile_append_of_pos h.all
  rw [hrun]
  cases rest with
  | nil => rfl
  | cons c rest =>
      have hc : p c = false := h.maximal c rfl
      simp [hc]

theorem dropWhile_eq_iff :
    s.dropWhile p = rest ↔ ∃ run, s = run ++ rest ∧ MaximalRun p run rest := by
  constructor
  · rintro rfl
    exact ⟨s.takeWhile p, List.takeWhile_append_dropWhile.symm, maximalRun_takeWhile p s⟩
  · rintro ⟨run, rfl, hrun⟩
    exact hrun.dropWhile_eq

theorem skipRun?_eq_some_iff :
    skipRun? p s = some rest ↔ ∃ run, s = run ++ rest ∧ run ≠ [] ∧ MaximalRun p run rest := by
  cases s with
  | nil =>
      constructor
      · intro h
        cases h
      · rintro ⟨run, hs, hne, -⟩
        exact absurd (List.append_eq_nil_iff.mp hs.symm).1 hne
  | cons c s =>
      by_cases hc : p c = true
      · have hskip : skipRun? p (c :: s) = some (s.dropWhile p) := if_pos hc
        rw [hskip, Option.some.injEq, dropWhile_eq_iff]
        constructor
        · rintro ⟨run, rfl, hrun⟩
          refine ⟨c :: run, rfl, List.cons_ne_nil c run, ?_, hrun.maximal⟩
          intro d hd
          rcases List.mem_cons.mp hd with rfl | hd
          · exact hc
          · exact hrun.all d hd
        · rintro ⟨_ | ⟨d, run⟩, hs, hne, hrun⟩
          · exact absurd rfl hne
          · obtain ⟨rfl, rfl⟩ := List.cons.inj hs
            exact ⟨run, rfl, fun d hd => hrun.all d (List.mem_cons_of_mem c hd), hrun.maximal⟩
      · have hskip : skipRun? p (c :: s) = none := if_neg hc
        rw [hskip]
        constructor
        · intro h
          cases h
        · rintro ⟨_ | ⟨d, run⟩, hs, hne, hrun⟩
          · exact absurd rfl hne
          · obtain ⟨rfl, rfl⟩ := List.cons.inj hs
            exact absurd (hrun.all c (List.mem_cons_self ..)) hc

theorem skipExact?_eq_some_iff {word : List Char} :
    skipExact? word s = some rest ↔ s = word ++ rest := by
  unfold skipExact?
  split
  · next h =>
      obtain ⟨behind, rfl⟩ := List.isPrefixOf_iff_prefix.mp h
      rw [List.drop_left, Option.some.injEq, List.append_cancel_left_eq]
  · next h =>
      constructor
      · intro hnone
        cases hnone
      · rintro rfl
        exact absurd (List.isPrefixOf_iff_prefix.mpr (List.prefix_append word rest)) h

/-- The numbers of the characters that are white space. -/
def blanks : List Nat := [
  0x09, 0x0A, 0x0B, 0x0C, 0x0D, 0x20, 0x85, 0xA0, 0x1680, 0x2000, 0x2001, 0x2002, 0x2003, 0x2004,
  0x2005, 0x2006, 0x2007, 0x2008, 0x2009, 0x200A, 0x2028, 0x2029, 0x202F, 0x205F, 0x3000]

theorem mem_blanks {c : Char} (h : isBlank c = true) : c.toNat ∈ blanks := by
  simp only [isBlank, Bool.or_eq_true, Bool.and_eq_true, decide_eq_true_eq, beq_iff_eq] at h
  simp only [blanks, List.mem_cons, List.not_mem_nil, or_false]
  omega

/-- White space stands in no word. -/
theorem isWordChar_of_isBlank {c : Char} (h : isBlank c = true) : isWordChar c = false := by
  have hall : ∀ n ∈ blanks, isWordChar (Char.ofNat n) = false := by decide +kernel
  have hword := hall c.toNat (mem_blanks h)
  rwa [Char.ofNat_toNat] at hword

/-! ## Forms -/

/-- How a definition may be spelled. -/
inductive Form where
  /-- `def` and a word. -/
  | function
  /-- `class` and a word. -/
  | type
  /-- A word before `()`. -/
  | call
  /-- Two words joined by `::`. -/
  | member

/-- A keyword, white space and a word. -/
def SpellsKeyword (keyword text rest : List Char) : Prop :=
  ∃ gap word, text = keyword ++ gap ++ word ∧ gap ≠ [] ∧ word ≠ [] ∧
    MaximalRun isBlank gap (word ++ rest) ∧ MaximalRun isWordChar word rest

/-- A word, white space if there is any, and `()`. -/
def SpellsCall (text rest : List Char) : Prop :=
  ∃ word gap, text = word ++ gap ++ ['(', ')'] ∧ word ≠ [] ∧
    MaximalRun isWordChar word (gap ++ ['(', ')'] ++ rest) ∧
    MaximalRun isBlank gap (['(', ')'] ++ rest)

/-- Two words joined by `::`. -/
def SpellsMember (text rest : List Char) : Prop :=
  ∃ word word', text = word ++ [':', ':'] ++ word' ∧ word ≠ [] ∧ word' ≠ [] ∧
    MaximalRun isWordChar word ([':', ':'] ++ word' ++ rest) ∧ MaximalRun isWordChar word' rest

namespace Form

/-- The forms in their order. -/
def all : List Form := [function, type, call, member]

/-- The text is spelled in this form when the rest follows. -/
def Spells : Form → List Char → List Char → Prop
  | function => SpellsKeyword ['d', 'e', 'f']
  | type => SpellsKeyword ['c', 'l', 'a', 's', 's']
  | call => SpellsCall
  | member => SpellsMember

/-- The form applies at the start of a text, to this piece of it, and the rest follows. -/
def Applies (form : Form) (s text rest : List Char) : Prop :=
  s = text ++ rest ∧ form.Spells text rest

/-- What follows the form at the start of a text. -/
def skip? : Form → List Char → Option (List Char)
  | function => keywordForm? ['d', 'e', 'f']
  | type => keywordForm? ['c', 'l', 'a', 's', 's']
  | call => callForm?
  | member => memberForm?

end Form

/-- The first form that applies at the start of a text applies to this piece of it. -/
def FirstForm (s text rest : List Char) : Prop :=
  ∃ before form after, Form.all = before ++ form :: after ∧ form.Applies s text rest ∧
    ∀ earlier ∈ before, ∀ text rest, ¬ earlier.Applies s text rest

/-! ### How they are found -/

theorem keywordForm?_eq_some_iff {keyword : List Char} :
    keywordForm? keyword s = some rest ↔
      ∃ text, s = text ++ rest ∧ SpellsKeyword keyword text rest := by
  simp only [keywordForm?, Option.bind_eq_bind, Option.bind_eq_some_iff, skipExact?_eq_some_iff,
    skipRun?_eq_some_iff]
  constructor
  · rintro ⟨_, rfl, _, ⟨gap, rfl, hgap, hgapRun⟩, word, rfl, hword, hwordRun⟩
    exact ⟨keyword ++ gap ++ word, by simp, gap, word, rfl, hgap, hword, hgapRun, hwordRun⟩
  · rintro ⟨_, rfl, gap, word, rfl, hgap, hword, hgapRun, hwordRun⟩
    exact ⟨gap ++ (word ++ rest), by simp, word ++ rest, ⟨gap, rfl, hgap, hgapRun⟩, word, rfl,
      hword, hwordRun⟩

theorem callForm?_eq_some_iff :
    callForm? s = some rest ↔ ∃ text, s = text ++ rest ∧ SpellsCall text rest := by
  simp only [callForm?, Option.bind_eq_bind, Option.bind_eq_some_iff, skipExact?_eq_some_iff,
    skipRun?_eq_some_iff, dropWhile_eq_iff]
  constructor
  · rintro ⟨_, ⟨word, rfl, hword, hwordRun⟩, gap, rfl, hgapRun⟩
    exact ⟨word ++ gap ++ ['(', ')'], by simp, word, gap, rfl, hword, by simpa using hwordRun,
      hgapRun⟩
  · rintro ⟨_, rfl, word, gap, rfl, hword, hwordRun, hgapRun⟩
    exact ⟨gap ++ (['(', ')'] ++ rest), ⟨word, by simp, hword, by simpa using hwordRun⟩, gap, rfl,
      hgapRun⟩

theorem memberForm?_eq_some_iff :
    memberForm? s = some rest ↔ ∃ text, s = text ++ rest ∧ SpellsMember text rest := by
  simp only [memberForm?, Option.bind_eq_bind, Option.bind_eq_some_iff, skipExact?_eq_some_iff,
    skipRun?_eq_some_iff]
  constructor
  · rintro ⟨_, ⟨word, rfl, hword, hwordRun⟩, _, rfl, word', rfl, hword', hwordRun'⟩
    exact ⟨word ++ [':', ':'] ++ word', by simp, word, word', rfl, hword, hword',
      by simpa using hwordRun, hwordRun'⟩
  · rintro ⟨_, rfl, word, word', rfl, hword, hword', hwordRun, hwordRun'⟩
    exact ⟨[':', ':'] ++ (word' ++ rest), ⟨word, by simp, hword, by simpa using hwordRun⟩,
      word' ++ rest, rfl, word', rfl, hword', hwordRun'⟩

/-- What is skipped at the start of a text is what the form applies to. -/
theorem Form.skip?_eq_some_iff (form : Form) :
    form.skip? s = some rest ↔ ∃ text, form.Applies s text rest := by
  cases form with
  | function => exact keywordForm?_eq_some_iff
  | type => exact keywordForm?_eq_some_iff
  | call => exact callForm?_eq_some_iff
  | member => exact memberForm?_eq_some_iff

theorem Form.skip?_eq_none_iff (form : Form) :
    form.skip? s = none ↔ ∀ text rest, ¬ form.Applies s text rest := by
  rw [Option.eq_none_iff_forall_ne_some]
  constructor
  · intro h text rest happlies
    exact h rest (form.skip?_eq_some_iff.mpr ⟨text, happlies⟩)
  · intro h rest hskip
    obtain ⟨text, happlies⟩ := form.skip?_eq_some_iff.mp hskip
    exact h text rest happlies

theorem definitionForm?_eq (s : List Char) :
    definitionForm? s = Form.all.findSome? (·.skip? s) := by
  simp only [definitionForm?, keyedForm?, Form.all, List.findSome?, Form.skip?]
  cases keywordForm? ['d', 'e', 'f'] s with
  | some rest => rfl
  | none =>
      cases keywordForm? ['c', 'l', 'a', 's', 's'] s with
      | some rest => rfl
      | none =>
          cases callForm? s with
          | some rest => rfl
          | none => cases memberForm? s <;> rfl

/-- **What is found at the start of a text** is the first form that applies. -/
theorem definitionForm?_eq_some_iff :
    definitionForm? s = some rest ↔ ∃ text, FirstForm s text rest := by
  rw [definitionForm?_eq, List.findSome?_eq_some_iff]
  constructor
  · rintro ⟨before, form, after, hall, hskip, hbefore⟩
    obtain ⟨text, happlies⟩ := form.skip?_eq_some_iff.mp hskip
    exact ⟨text, before, form, after, hall, happlies,
      fun earlier hearlier => earlier.skip?_eq_none_iff.mp (hbefore earlier hearlier)⟩
  · rintro ⟨text, before, form, after, hall, happlies, hbefore⟩
    exact ⟨before, form, after, hall, form.skip?_eq_some_iff.mpr ⟨text, happlies⟩,
      fun earlier hearlier => earlier.skip?_eq_none_iff.mpr (hbefore earlier hearlier)⟩

theorem definitionForm?_eq_none_iff :
    definitionForm? s = none ↔ ∀ (form : Form) text rest, ¬ form.Applies s text rest := by
  have hall : ∀ form : Form, form ∈ Form.all := by
    intro form
    cases form <;> simp [Form.all]
  rw [definitionForm?_eq, List.findSome?_eq_none_iff]
  constructor
  · intro h form
    exact form.skip?_eq_none_iff.mp (h form (hall form))
  · intro h form _
    exact form.skip?_eq_none_iff.mpr (h form)

/-! ### The regular expression -/

/-- A keyword, white space and a word. -/
def keywordPattern (keyword : List Char) : Pattern :=
  .seq (.literal keyword) (.seq (.run isBlank) (.run isWordChar))

/-- A word, white space if there is any, and `()`. -/
def callPattern : Pattern :=
  .seq (.run isWordChar) (.seq (.greedy isBlank) (.literal ['(', ')']))

/-- Two words joined by `::`. -/
def memberPattern : Pattern :=
  .seq (.run isWordChar) (.seq (.literal [':', ':']) (.run isWordChar))

/-- The regular expression for definitions, one form before the other. -/
def definitionPattern : Pattern :=
  .either (keywordPattern ['d', 'e', 'f']) (.either (keywordPattern ['c', 'l', 'a', 's', 's'])
    (.either callPattern memberPattern))

theorem rest?_keywordPattern (keyword s : List Char) :
    (keywordPattern keyword).rest? s = keywordForm? keyword s := by
  have hgap : ∀ c s, isBlank c = true → (Pattern.run isWordChar).rests (c :: s) = [] :=
    fun c s hc => Pattern.rests_run_of_not (isWordChar_of_isBlank hc) s
  unfold keywordPattern keywordForm?
  rw [Pattern.rest?_seq_literal]
  congr 1
  funext s
  rw [Pattern.rest?_seq_run hgap]
  congr 1
  funext s
  exact Pattern.rest?_run isWordChar s

theorem rest?_callPattern (s : List Char) : callPattern.rest? s = callForm? s := by
  have hgap : ∀ c s, isBlank c = true → (Pattern.literal ['(', ')']).rests (c :: s) = [] := by
    intro c s hc
    have hne : c ≠ '(' := by
      rintro rfl
      exact absurd hc (by decide)
    exact Pattern.rests_literal_ne hne [')'] s
  have hword : ∀ c s, isWordChar c = true →
      (Pattern.seq (.greedy isBlank) (.literal ['(', ')'])).rests (c :: s) = [] := by
    intro c s hc
    have hne : c ≠ '(' := by
      rintro rfl
      exact absurd hc (by decide)
    have hblank : isBlank c = false := by
      by_contra hblank
      rw [isWordChar_of_isBlank (by simpa using hblank)] at hc
      cases hc
    rw [Pattern.rests_seq, Pattern.flatMap_greedy hgap, List.dropWhile_cons, hblank]
    exact Pattern.rests_literal_ne hne [')'] s
  unfold callPattern callForm?
  rw [Pattern.rest?_seq_run hword]
  congr 1
  funext s
  rw [Pattern.rest?_seq_greedy hgap]
  exact Pattern.rest?_literal ['(', ')'] _

theorem rest?_memberPattern (s : List Char) : memberPattern.rest? s = memberForm? s := by
  have hword : ∀ c s, isWordChar c = true →
      (Pattern.seq (.literal [':', ':']) (.run isWordChar)).rests (c :: s) = [] := by
    intro c s hc
    have hne : c ≠ ':' := by
      rintro rfl
      exact absurd hc (by decide)
    rw [Pattern.rests_seq, Pattern.rests_literal_ne hne]
    rfl
  unfold memberPattern memberForm?
  rw [Pattern.rest?_seq_run hword]
  congr 1
  funext s
  rw [Pattern.rest?_seq_literal]
  congr 1
  funext s
  exact Pattern.rest?_run isWordChar s

/-- **What the regular expression prefers** at the start of a text. -/
theorem rest?_definitionPattern (s : List Char) :
    definitionPattern.rest? s = definitionForm? s := by
  unfold definitionPattern definitionForm? keyedForm?
  simp only [Pattern.rest?_either, rest?_keywordPattern, rest?_callPattern, rest?_memberPattern,
    Option.orElse_eq_orElse, Option.orElse_eq_or, Option.or_assoc]

/-! ## Places -/

/-- A piece of a text, from one position up to another. -/
@[ext]
structure Span where
  start : Nat
  stop : Nat

/-- The piece itself. -/
def Span.of (s : List Char) (span : Span) : List Char :=
  (s.drop span.start).take (span.stop - span.start)

/-- Some form applies at this position. -/
def StartsAt (s : List Char) (i : Nat) : Prop :=
  ∃ (form : Form) (text rest : List Char), form.Applies (s.drop i) text rest

/-- The piece is the next definition from this position on: it starts at the least position where a
form applies, and is what the first such form applies to. -/
structure IsNext (s : List Char) (here : Nat) (span : Span) : Prop where
  here_le : here ≤ span.start
  stop_le : span.stop ≤ s.length
  least : ∀ i, here ≤ i → i < span.start → ¬ StartsAt s i
  first : FirstForm (s.drop span.start) (span.of s) (s.drop span.stop)

/-- Each piece is the next definition from the end of the one before on. -/
inductive Chain (s : List Char) : Nat → List Span → Prop
  | nil {here} : Chain s here []
  | cons {here span spans} : IsNext s here span → Chain s span.stop spans →
      Chain s here (span :: spans)

/-- Where the last of the pieces ends; if there is none, where they would start. -/
def lastStop (here : Nat) : List Span → Nat
  | [] => here
  | span :: spans => lastStop span.stop spans

/-- These are the first definitions from this position on: at most so many, and if there are fewer,
no form applies behind the last. -/
structure Lists (s : List Char) (here count : Nat) (spans : List Span) : Prop where
  chain : Chain s here spans
  few : spans.length ≤ count
  complete : spans.length < count → ∀ i, lastStop here spans ≤ i → ¬ StartsAt s i

variable {here count : Nat} {span : Span} {spans : List Span}

theorem Form.Spells.ne_nil {form : Form} (h : form.Spells text rest) : text ≠ [] := by
  cases form with
  | function =>
      obtain ⟨gap, word, rfl, -⟩ := h
      simp
  | type =>
      obtain ⟨gap, word, rfl, -⟩ := h
      simp
  | call =>
      obtain ⟨word, gap, rfl, -⟩ := h
      simp
  | member =>
      obtain ⟨word, word', rfl, -⟩ := h
      simp

theorem FirstForm.eq_append (h : FirstForm s text rest) : s = text ++ rest := by
  obtain ⟨-, form, -, -, ⟨heq, -⟩, -⟩ := h
  exact heq

theorem FirstForm.ne_nil (h : FirstForm s text rest) : text ≠ [] := by
  obtain ⟨-, form, -, -, ⟨-, hspells⟩, -⟩ := h
  exact hspells.ne_nil

theorem not_startsAt_iff {i : Nat} : ¬ StartsAt s i ↔ definitionForm? (s.drop i) = none := by
  rw [definitionForm?_eq_none_iff, StartsAt]
  constructor
  · intro h form text rest happlies
    exact h ⟨form, text, rest, happlies⟩
  · rintro h ⟨form, text, rest, happlies⟩
    exact h form text rest happlies

theorem not_startsAt_of_drop_eq_nil {i : Nat} (h : s.drop i = []) : ¬ StartsAt s i := by
  rintro ⟨form, text, rest, heq, hspells⟩
  rw [h] at heq
  exact hspells.ne_nil (List.append_eq_nil_iff.mp heq.symm).1

/-! ### Their order -/

theorem IsNext.start_lt_stop (h : IsNext s here span) : span.start < span.stop := by
  by_contra hle
  apply h.first.ne_nil
  rw [Span.of, Nat.sub_eq_zero_of_le (by omega), List.take_zero]

theorem Chain.here_le (h : Chain s here spans) : ∀ span ∈ spans, here ≤ span.start := by
  induction h with
  | nil => exact nofun
  | cons hnext _ ih =>
      intro other hother
      have hlt := hnext.start_lt_stop
      have hle := hnext.here_le
      rcases List.mem_cons.mp hother with rfl | hother
      · exact hle
      · have hlater := ih other hother
        omega

/-- **The pieces do not overlap and stand in order**; each lies in the text, and none is empty. -/
theorem Chain.ordered (h : Chain s here spans) :
    spans.Pairwise (fun span later => span.stop ≤ later.start) ∧
      ∀ span ∈ spans, span.start < span.stop ∧ span.stop ≤ s.length := by
  induction h with
  | nil => exact ⟨.nil, nofun⟩
  | cons hnext hchain ih =>
      refine ⟨List.pairwise_cons.mpr ⟨hchain.here_le, ih.1⟩, ?_⟩
      intro other hother
      rcases List.mem_cons.mp hother with rfl | hother
      · exact ⟨hnext.start_lt_stop, hnext.stop_le⟩
      · exact ih.2 other hother

/-! ### There is only one such list -/

theorem FirstForm.startsAt {i : Nat} (h : FirstForm (s.drop i) text rest) : StartsAt s i := by
  obtain ⟨-, form, -, -, happlies, -⟩ := h
  exact ⟨form, text, rest, happlies⟩

/-- The first form that applies applies to one piece only. -/
theorem FirstForm.unique {text' rest' : List Char} (h : FirstForm s text rest)
    (h' : FirstForm s text' rest') : text = text' := by
  have hrest := definitionForm?_eq_some_iff.mpr ⟨text, h⟩
  have hrest' := definitionForm?_eq_some_iff.mpr ⟨text', h'⟩
  rw [hrest, Option.some.injEq] at hrest'
  apply List.append_cancel_right
  calc
    text ++ rest = s := h.eq_append.symm
    _ = text' ++ rest' := h'.eq_append
    _ = text' ++ rest := by rw [hrest']

theorem IsNext.length_of (h : IsNext s here span) :
    (Span.of s span).length = span.stop - span.start := by
  have hstop := h.stop_le
  rw [Span.of, List.length_take, List.length_drop]
  omega

theorem IsNext.unique {span' : Span} (h : IsNext s here span) (h' : IsNext s here span') :
    span = span' := by
  have hstart : span.start = span'.start := by
    have hlt : ¬ span.start < span'.start :=
      fun hlt => h'.least span.start h.here_le hlt h.first.startsAt
    have hlt' : ¬ span'.start < span.start :=
      fun hlt => h.least span'.start h'.here_le hlt h'.first.startsAt
    omega
  have hfirst := h.first
  rw [hstart] at hfirst
  have hof := congrArg List.length (hfirst.unique h'.first)
  rw [h.length_of, h'.length_of] at hof
  have hlt := h.start_lt_stop
  have hlt' := h'.start_lt_stop
  have hstop : span.stop = span'.stop := by omega
  exact Span.ext hstart hstop

/-- Behind a definition the rest is listed in the same way. -/
theorem Lists.tail (h : Lists s here count (span :: spans)) :
    IsNext s here span ∧ ∃ fewer, count = fewer + 1 ∧ Lists s span.stop fewer spans := by
  have hfew := h.few
  rw [List.length_cons] at hfew
  cases h.chain with
  | cons hnext hchain =>
      refine ⟨hnext, count - 1, by omega, hchain, by omega, ?_⟩
      intro hlt
      exact h.complete (by rw [List.length_cons]; omega)

/-- If nothing is listed though something may be, no form applies. -/
theorem Lists.not_cons (h : Lists s here count []) : ¬ Lists s here count (span :: spans) := by
  intro h'
  obtain ⟨hnext, fewer, rfl, -⟩ := h'.tail
  exact h.complete (Nat.succ_pos fewer) span.start hnext.here_le hnext.first.startsAt

/-- **At most one list of pieces** is that of the first definitions. -/
theorem Lists.unique {spans' : List Span} (h : Lists s here count spans)
    (h' : Lists s here count spans') : spans = spans' := by
  induction spans generalizing here count spans' with
  | nil =>
      cases spans' with
      | nil => rfl
      | cons span' spans' => exact absurd h' h.not_cons
  | cons span spans ih =>
      cases spans' with
      | nil => exact absurd h h'.not_cons
      | cons span' spans' =>
          obtain ⟨hnext, fewer, rfl, hspans⟩ := h.tail
          obtain ⟨hnext', fewer', heq, hspans'⟩ := h'.tail
          obtain rfl := hnext.unique hnext'
          obtain rfl := Nat.succ.inj heq
          rw [ih hspans hspans']

/-! ### One place after the other -/

/-- Nothing is listed from the end of the text on. -/
theorem lists_nil_of_drop (count : Nat) (h : s.drop here = []) : Lists s here count [] where
  chain := .nil
  few := Nat.zero_le count
  complete _ i hi := by
    apply not_startsAt_of_drop_eq_nil
    have hlength := List.drop_eq_nil_iff.mp h
    exact List.drop_eq_nil_iff.mpr (Nat.le_trans hlength hi)

/-- Where no form applies the next position lists the same. -/
theorem Lists.of_succ (hnot : ¬ StartsAt s here) (h : Lists s (here + 1) count spans) :
    Lists s here count spans where
  chain := by
    cases h.chain with
    | nil => exact .nil
    | cons hnext hchain =>
        have hle := hnext.here_le
        refine .cons ⟨by omega, hnext.stop_le, ?_, hnext.first⟩ hchain
        intro i hi hlt
        rcases Nat.eq_or_lt_of_le hi with rfl | hi
        · exact hnot
        · exact hnext.least i hi hlt
  few := h.few
  complete hfew i hi := by
    have hcomplete := h.complete hfew
    cases spans with
    | nil =>
        rcases Nat.eq_or_lt_of_le hi with rfl | hi
        · exact hnot
        · exact hcomplete i hi
    | cons span spans => exact hcomplete i hi

/-- Where a form applies its piece is listed in front. -/
theorem Lists.of_first {stop : Nat} (hstop : stop ≤ s.length)
    (hfirst : FirstForm (s.drop here) (Span.of s ⟨here, stop⟩) (s.drop stop))
    (h : Lists s stop count spans) : Lists s here (count + 1) (⟨here, stop⟩ :: spans) where
  chain := by
    refine .cons ⟨Nat.le_refl here, hstop, ?_, hfirst⟩ h.chain
    intro i hi hlt
    exact absurd hlt (Nat.not_lt.mpr hi)
  few := Nat.succ_le_succ h.few
  complete hfew := h.complete (Nat.lt_of_succ_lt_succ hfew)

/-- What is taken from a place where a form applies is the piece it applies to. -/
theorem drop_eq_of_append (h : s.drop here = text ++ rest) :
    Span.of s ⟨here, here + text.length⟩ = text ∧ s.drop (here + text.length) = rest := by
  constructor
  · rw [Span.of, h, Nat.add_sub_cancel_left, List.take_left]
  · rw [← List.drop_drop, h, List.drop_left]

/-- The text goes on behind a character of a word at which no form starts. -/
def Behind (s : List Char) : Prop := ∃ c, isWordChar c = true ∧ definitionForm? (c :: s) = none

/-- There it makes no difference which forms are looked for. -/
theorem form?_of_behind {within : Bool} {c : Char} (h : within = true → Behind (c :: s)) :
    (if within && isWordChar c then keyedForm? (c :: s) else definitionForm? (c :: s)) =
      definitionForm? (c :: s) := by
  split
  · next hboth =>
      obtain ⟨hwithin, hc⟩ := Bool.and_eq_true_iff.mp hboth
      obtain ⟨d, hd, hnone⟩ := h hwithin
      exact (definitionForm?_of_cons_eq_none hd hc hnone).symm
  · rfl

/-- **What is listed from a position on.** The induction is on the number of positions that are
left; it carries that the text goes on behind a character of a word where only keywords are looked
for. -/
theorem definitionsFrom_lists (s : List Char) (within : Bool) (fuel count here : Nat)
    (hfuel : (s.drop here).length ≤ fuel) (hbehind : within = true → Behind (s.drop here)) :
    ∃ spans, definitionsFrom within fuel count (s.drop here) = spans.map (Span.of s) ∧
      Lists s here count spans := by
  induction fuel generalizing within count here with
  | zero =>
      have hnil : s.drop here = [] := List.eq_nil_of_length_eq_zero (by omega)
      exact ⟨[], by simp [definitionsFrom], lists_nil_of_drop count hnil⟩
  | succ fuel ih =>
      cases count with
      | zero =>
          exact ⟨[], by simp [definitionsFrom], .nil, Nat.le_refl 0, fun hlt => by cases hlt⟩
      | succ count =>
          cases hdrop : s.drop here with
          | nil => exact ⟨[], by simp [definitionsFrom], lists_nil_of_drop _ hdrop⟩
          | cons c rest =>
              rw [hdrop] at hfuel hbehind
              unfold definitionsFrom
              rw [form?_of_behind hbehind]
              cases hform : definitionForm? (c :: rest) with
              | some after =>
                  obtain ⟨text, hfirst⟩ := definitionForm?_eq_some_iff.mp hform
                  have happend := hfirst.eq_append
                  obtain ⟨hof, hafter⟩ := drop_eq_of_append (hdrop.trans happend)
                  have hpos := List.length_pos_iff.mpr hfirst.ne_nil
                  have hlength : (c :: rest).length = text.length + after.length := by
                    rw [happend, List.length_append]
                  obtain ⟨spans, hlisted, hlists⟩ := ih false count (here + text.length)
                    (by rw [hafter]; omega) nofun
                  rw [hafter] at hlisted
                  refine ⟨⟨here, here + text.length⟩ :: spans, ?_, ?_⟩
                  · show List.take _ (c :: rest) :: definitionsFrom false fuel count after = _
                    rw [hlisted, List.map_cons, hof, hlength, Nat.add_sub_cancel, happend,
                      List.take_left]
                  · apply Lists.of_first _ _ hlists
                    · have hrest := congrArg List.length hdrop
                      rw [List.length_drop, hlength] at hrest
                      omega
                    · rw [hdrop, hof, hafter]
                      exact hfirst
              | none =>
                  have hnext : s.drop (here + 1) = rest := by
                    rw [← List.drop_drop, hdrop]
                    rfl
                  have hnot : ¬ StartsAt s here := not_startsAt_iff.mpr (by rw [hdrop, hform])
                  obtain ⟨spans, hlisted, hlists⟩ := ih (isWordChar c) (count + 1) (here + 1)
                    (by rw [hnext]; exact Nat.le_of_succ_le_succ hfuel)
                    (fun hc => by rw [hnext]; exact ⟨c, hc, hform⟩)
                  rw [hnext] at hlisted
                  exact ⟨spans, hlisted, hlists.of_succ hnot⟩

/-- **The definitions listed for a text** are the pieces of the first definitions in it. -/
theorem definitions_eq_iff (s : List Char) (found : List (List Char)) :
    definitions s = found ↔
      ∃ spans, Lists s 0 maxDefinitions spans ∧ found = spans.map (Span.of s) := by
  obtain ⟨spans, hlisted, hlists⟩ :=
    definitionsFrom_lists s false s.length maxDefinitions 0 (Nat.le_refl _) nofun
  constructor
  · rintro rfl
    exact ⟨spans, hlists, hlisted⟩
  · rintro ⟨spans', hlists', rfl⟩
    rw [hlists'.unique hlists]
    exact hlisted

end SourceTutor.Lesson
