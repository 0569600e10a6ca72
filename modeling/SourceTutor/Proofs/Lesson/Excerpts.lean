import SourceTutor.Proofs.Lesson.Definitions

/-!
# Excerpts

The two excerpts of a long text, the definitions listed and the beginning of its entry point, are
what the regular expressions for them find. An entry point is looked for with an expression for each
marker, the marker and then any text up to a brace, as short as possible (`blockPattern`). That
comes to a search for the first place where the marker stands, with a brace behind it
(`start?_blockPattern`), so the excerpt starts where the last marker opens a block
(`entryExcerpt?_eq_some_iff`).
-/

set_option autoImplicit false

namespace SourceTutor.Lesson

open SourceTutor.Text

variable {s word rest text excerpt : List Char} {i : Nat}

/-! ## The first occurrence of a word -/

/-- The word stands at this position and nowhere before. -/
structure FirstAt (s word : List Char) (i : Nat) : Prop where
  stands : word <+: s.drop i
  least : ∀ j, j < i → ¬ word <+: s.drop j

/-- The word stands first at this position, and a brace opens behind it. -/
structure Opens (s word : List Char) (i : Nat) : Prop where
  first : FirstAt s word i
  brace : '\x7b' ∈ s.drop (i + word.length)

theorem FirstAt.le_length (h : FirstAt s word i) : i ≤ s.length := by
  by_contra hlt
  apply h.least s.length (by omega)
  have hstands := h.stands
  rw [List.drop_eq_nil_of_le (by omega)] at hstands
  rw [List.drop_length]
  exact hstands

theorem from?_eq_some_iff : from? word s = some rest ↔ ∃ i, FirstAt s word i ∧ rest = s.drop i := by
  induction s with
  | nil =>
      unfold from?
      constructor
      · intro h
        split at h
        · next hempty =>
            obtain rfl := List.isEmpty_iff.mp hempty
            exact ⟨0, ⟨List.prefix_rfl, nofun⟩, (Option.some.inj h).symm⟩
        · cases h
      · rintro ⟨i, ⟨hstands, -⟩, rfl⟩
        rw [List.drop_nil, List.prefix_nil] at hstands
        rw [hstands, List.drop_nil]
        rfl
  | cons c s ih =>
      unfold from?
      by_cases hstands : word <+: c :: s
      · rw [if_pos (List.isPrefixOf_iff_prefix.mpr hstands), Option.some.injEq]
        constructor
        · rintro rfl
          exact ⟨0, ⟨hstands, nofun⟩, rfl⟩
        · rintro ⟨i, hfirst, rfl⟩
          cases i with
          | zero => rfl
          | succ i => exact absurd hstands (hfirst.least 0 (Nat.succ_pos i))
      · rw [if_neg (fun h => hstands (List.isPrefixOf_iff_prefix.mp h)), ih]
        constructor
        · rintro ⟨i, hfirst, rfl⟩
          refine ⟨i + 1, ⟨hfirst.stands, ?_⟩, rfl⟩
          intro j hj
          cases j with
          | zero => exact hstands
          | succ j => exact hfirst.least j (Nat.lt_of_succ_lt_succ hj)
        · rintro ⟨i, hfirst, rfl⟩
          cases i with
          | zero => exact absurd hfirst.stands hstands
          | succ i =>
              refine ⟨i, ⟨hfirst.stands, ?_⟩, rfl⟩
              intro j hj
              exact hfirst.least (j + 1) (Nat.succ_lt_succ hj)

theorem blockFrom?_eq_some_iff :
    blockFrom? word s = some rest ↔ ∃ i, Opens s word i ∧ rest = s.drop i := by
  have hblock : blockFrom? word s = some rest ↔
      from? word s = some rest ∧ '\x7b' ∈ rest.drop word.length := by
    unfold blockFrom?
    cases from? word s with
    | none => simp
    | some found =>
        simp only [List.contains_iff_mem]
        constructor
        · intro h
          split at h
          · next hbrace =>
              obtain rfl := Option.some.inj h
              exact ⟨rfl, hbrace⟩
          · cases h
        · rintro ⟨h, hbrace⟩
          obtain rfl := Option.some.inj h
          exact if_pos hbrace
  rw [hblock, from?_eq_some_iff]
  constructor
  · rintro ⟨⟨i, hfirst, rfl⟩, hbrace⟩
    rw [List.drop_drop] at hbrace
    exact ⟨i, ⟨hfirst, hbrace⟩, rfl⟩
  · rintro ⟨i, hopens, rfl⟩
    refine ⟨⟨i, hopens.first, rfl⟩, ?_⟩
    rw [List.drop_drop]
    exact hopens.brace

/-! ## The expressions for entry points -/

/-- A marker and any text up to a brace, as short as possible. -/
def blockPattern (word : List Char) : Pattern :=
  .seq (.literal word) (.through '\x7b')

/-- It matches where the marker stands with a brace behind it. -/
theorem isSome_rest?_blockPattern :
    ((blockPattern word).rest? s).isSome = true ↔ word <+: s ∧ '\x7b' ∈ s.drop word.length := by
  rw [blockPattern, Pattern.rest?_seq_literal, skipExact?]
  by_cases hstands : word <+: s
  · rw [if_pos (List.isPrefixOf_iff_prefix.mpr hstands), Option.bind_some,
      Pattern.isSome_rest?_through, List.contains_iff_mem]
    simp only [hstands, true_and]
  · rw [if_neg (fun h => hstands (List.isPrefixOf_iff_prefix.mp h))]
    simp [hstands]

/-- **Where it matches first**: where the marker stands first, if a brace opens behind it. A brace
behind a later occurrence stands behind the first one too. -/
theorem start?_blockPattern : (blockPattern word).start? s = some i ↔ Opens s word i := by
  rw [Pattern.start?_eq_some_iff]
  constructor
  · rintro ⟨-, hfound, hleast⟩
    obtain ⟨hstands, hbrace⟩ := isSome_rest?_blockPattern.mp hfound
    rw [List.drop_drop] at hbrace
    refine ⟨⟨hstands, ?_⟩, hbrace⟩
    intro j hj hearlier
    have hsuffix : s.drop (i + word.length) <:+ s.drop (j + word.length) :=
      List.drop_suffix_drop_left s (by omega)
    have hmatch : ((blockPattern word).rest? (s.drop j)).isSome = true := by
      apply isSome_rest?_blockPattern.mpr
      rw [List.drop_drop]
      exact ⟨hearlier, hsuffix.subset hbrace⟩
    rw [hleast j hj] at hmatch
    cases hmatch
  · intro hopens
    refine ⟨hopens.first.le_length, ?_, ?_⟩
    · apply isSome_rest?_blockPattern.mpr
      rw [List.drop_drop]
      exact ⟨hopens.first.stands, hopens.brace⟩
    · intro j hj
      rw [Bool.eq_false_iff]
      intro hmatch
      exact hopens.first.least j hj (isSome_rest?_blockPattern.mp hmatch).1

theorem blockFrom?_eq_start? (word s : List Char) :
    blockFrom? word s = ((blockPattern word).start? s).map fun i => s.drop i := by
  apply Option.ext
  intro rest
  rw [blockFrom?_eq_some_iff, Option.map_eq_some_iff]
  constructor
  · rintro ⟨i, hopens, rfl⟩
    exact ⟨i, start?_blockPattern.mpr hopens, rfl⟩
  · rintro ⟨i, hstart, rfl⟩
    exact ⟨i, start?_blockPattern.mp hstart, rfl⟩

/-- The word stands somewhere in the text. -/
def occurs (word s : List Char) : Bool := (from? word s).isSome

/-- The excerpt at the entry point by regular expressions: of the markers that occur, the last whose
expression is found. -/
def patternExcerpt? (s : List Char) : Option (List Char) :=
  ((entryPoints.filter fun marker => occurs marker.toList s).filterMap fun marker =>
    (blockPattern marker.toList).start? s).getLast?.map fun i => (s.drop i).take excerptLength

theorem occurs_of_opens (h : Opens s word i) : occurs word s = true := by
  rw [occurs, from?_eq_some_iff.mpr ⟨i, h.first, rfl⟩]
  rfl

/-- **The search is the regular expressions.** Whether a marker occurs need not be asked first. -/
theorem entryExcerpt?_eq_patternExcerpt? (s : List Char) : entryExcerpt? s = patternExcerpt? s := by
  have hoccurs : ∀ marker : String,
      (if occurs marker.toList s then (blockPattern marker.toList).start? s else none) =
        (blockPattern marker.toList).start? s := by
    intro marker
    split
    · rfl
    · next hnot =>
        symm
        rw [Option.eq_none_iff_forall_ne_some]
        intro i hstart
        exact hnot (occurs_of_opens (start?_blockPattern.mp hstart))
  calc
    entryExcerpt? s
      = (entryPoints.filterMap fun marker =>
          ((blockPattern marker.toList).start? s).map fun i => s.drop i).getLast?.map
            (·.take excerptLength) := by simp only [entryExcerpt?, blockFrom?_eq_start?]
    _ = (entryPoints.filterMap fun marker => (blockPattern marker.toList).start? s).getLast?.map
          fun i => (s.drop i).take excerptLength := by
        rw [← List.map_filterMap, List.getLast?_map, Option.map_map]
        rfl
    _ = patternExcerpt? s := by simp only [patternExcerpt?, List.filterMap_filter, hoccurs]

/-! ## The entry point -/

/-- The excerpt starts where the last marker that opens a block stands first, and is cut to the
length allowed. -/
def IsExcerpt (s excerpt : List Char) : Prop :=
  ∃ before marker after i, entryPoints = before ++ marker :: after ∧ Opens s marker.toList i ∧
    (∀ later ∈ after, ∀ j, ¬ Opens s later.toList j) ∧ excerpt = (s.drop i).take excerptLength

theorem blockFrom?_eq_none_iff : blockFrom? word s = none ↔ ∀ i, ¬ Opens s word i := by
  rw [Option.eq_none_iff_forall_ne_some]
  constructor
  · intro h i hopens
    exact h (s.drop i) (blockFrom?_eq_some_iff.mpr ⟨i, hopens, rfl⟩)
  · intro h rest hblock
    obtain ⟨i, hopens, -⟩ := blockFrom?_eq_some_iff.mp hblock
    exact h i hopens

/-- The last that a partial function gives on a list. -/
theorem getLast?_filterMap_eq_some_iff {α β : Type} {f : α → Option β} {l : List α} {b : β} :
    (l.filterMap f).getLast? = some b ↔
      ∃ before a after, l = before ++ a :: after ∧ f a = some b ∧
        ∀ later ∈ after, f later = none := by
  rw [List.getLast?_filterMap, List.findSome?_eq_some_iff]
  constructor
  · rintro ⟨after, a, before, hl, ha, hafter⟩
    refine ⟨before.reverse, a, after.reverse, ?_, ha, ?_⟩
    · rw [← List.reverse_reverse l, hl]
      simp
    · intro later h
      exact hafter later (List.mem_reverse.mp h)
  · rintro ⟨before, a, after, rfl, ha, hafter⟩
    exact ⟨after.reverse, a, before.reverse, by simp, ha,
      fun later h => hafter later (List.mem_reverse.mp h)⟩

/-- **The excerpt at the entry point** starts at the last marker that opens a block. -/
theorem entryExcerpt?_eq_some_iff : entryExcerpt? s = some excerpt ↔ IsExcerpt s excerpt := by
  rw [entryExcerpt?, Option.map_eq_some_iff]
  simp only [getLast?_filterMap_eq_some_iff, blockFrom?_eq_some_iff, blockFrom?_eq_none_iff]
  constructor
  · rintro ⟨_, ⟨before, marker, after, hmarkers, ⟨i, hopens, rfl⟩, hafter⟩, rfl⟩
    exact ⟨before, marker, after, i, hmarkers, hopens, hafter, rfl⟩
  · rintro ⟨before, marker, after, i, hmarkers, hopens, hafter, rfl⟩
    exact ⟨s.drop i, ⟨before, marker, after, hmarkers, ⟨i, hopens, rfl⟩, hafter⟩, rfl⟩

theorem entryExcerpt?_eq_none_iff :
    entryExcerpt? s = none ↔ ∀ marker ∈ entryPoints, ∀ i, ¬ Opens s marker.toList i := by
  rw [entryExcerpt?, Option.map_eq_none_iff, List.getLast?_eq_none_iff, List.filterMap_eq_nil_iff]
  simp only [blockFrom?_eq_none_iff]

/-! ## Both excerpts -/

/-- What the regular expression for definitions prefers at the start of a text is the first form. -/
theorem firstForm_iff :
    FirstForm s text rest ↔ s = text ++ rest ∧ definitionPattern.rest? s = some rest := by
  rw [rest?_definitionPattern]
  constructor
  · intro h
    exact ⟨h.eq_append, definitionForm?_eq_some_iff.mpr ⟨text, h⟩⟩
  · rintro ⟨happend, hform⟩
    obtain ⟨text', h⟩ := definitionForm?_eq_some_iff.mp hform
    have htext : text' = text := by
      apply List.append_cancel_right
      rw [← h.eq_append, happend]
    rwa [htext] at h

/-- **What the excerpts are.** The definitions listed are the pieces of the first definitions of the
text, which the regular expression matches there; the pieces lie one behind the other. The excerpt
at the entry point is what the expressions for the markers find, and starts at the last marker that
opens a block; there is none if no marker does. -/
theorem excerpts_eq_reference (s : List Char) :
    (∀ found, definitions s = found ↔
        ∃ spans, Lists s 0 maxDefinitions spans ∧ found = spans.map (Span.of s)) ∧
      (∀ spans, Lists s 0 maxDefinitions spans →
        spans.Pairwise (fun span later => span.stop ≤ later.start) ∧
          ∀ span ∈ spans, span.start < span.stop ∧ span.stop ≤ s.length) ∧
      (∀ i text rest, FirstForm (s.drop i) text rest ↔
        s.drop i = text ++ rest ∧ definitionPattern.rest? (s.drop i) = some rest) ∧
      entryExcerpt? s = patternExcerpt? s ∧
      (∀ excerpt, entryExcerpt? s = some excerpt ↔ IsExcerpt s excerpt) ∧
      (entryExcerpt? s = none ↔ ∀ marker ∈ entryPoints, ∀ i, ¬ Opens s marker.toList i) := by
  refine ⟨definitions_eq_iff s, ?_, ?_, entryExcerpt?_eq_patternExcerpt? s, ?_,
    entryExcerpt?_eq_none_iff⟩
  · intro spans h
    exact h.chain.ordered
  · intro i text rest
    exact firstForm_iff
  · intro excerpt
    exact entryExcerpt?_eq_some_iff

end SourceTutor.Lesson
