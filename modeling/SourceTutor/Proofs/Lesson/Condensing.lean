import SourceTutor.Proofs.Lesson.Excerpts

/-!
# Condensed texts

A text that is too long is condensed to its first lines, the definitions found in it and the
beginning of its entry point, and what is still too long is cut. `FirstFifth` says which lines come
first, `Outlined` what each of the three parts is, and `Composed` that a text is put together from a
few contiguous pieces of another one and from fixed texts. The main statement, `essence_condenses`,
gives the length of the outcome, the outcome itself, and where all of it comes from.
-/

set_option autoImplicit false

namespace SourceTutor.Lesson

variable {s text rest top : List Char}

/-! ## The first fifth of the lines -/

/-- The first fifth of the lines, rounded down: nothing of a text that has fewer than five, and
otherwise the text up to the line end behind so many of them. -/
def FirstFifth (s top : List Char) : Prop :=
  if s.count '\n' + 1 < 5 then top = []
  else ∃ rest, s = top ++ '\n' :: rest ∧ top.count '\n' + 1 = (s.count '\n' + 1) / 5

theorem length_linesOf (s : List Char) : (linesOf s).length = s.count '\n' + 1 := by
  induction s with
  | nil => rfl
  | cons c s ih =>
      rw [linesOf] at ih
      rw [linesOf, List.splitOn_cons_eq_if_modifyHead, List.count_cons]
      by_cases hc : (c == '\n') = true
      · simp [hc, ih]
      · simp [hc, ih]

/-- A text without its last lines is followed by a line end, and has one line end less than
lines. -/
theorem exists_of_take_linesOf (s : List Char) {k : Nat} (hpos : 0 < k)
    (hlt : k < (linesOf s).length) :
    ∃ rest, s = ['\n'].intercalate ((linesOf s).take k) ++ '\n' :: rest ∧
      (['\n'].intercalate ((linesOf s).take k)).count '\n' + 1 = k := by
  induction s generalizing k with
  | nil =>
      have hone : (linesOf []).length = 1 := rfl
      omega
  | cons c s ih =>
      obtain ⟨k, rfl⟩ := Nat.exists_eq_succ_of_ne_zero (by omega : k ≠ 0)
      obtain ⟨line, lines, hlines⟩ :=
        List.exists_cons_of_ne_nil (List.splitOn_ne_nil '\n' s)
      have hs : linesOf s = line :: lines := hlines
      by_cases hc : c = '\n'
      · -- a line ends here, so one line less is taken from the rest
        subst hc
        have hall : linesOf ('\n' :: s) = [] :: linesOf s := by
          rw [linesOf, List.splitOn_cons_eq_if_modifyHead]
          rfl
        rw [hall] at hlt ⊢
        rw [List.take_succ_cons]
        cases k with
        | zero => exact ⟨s, rfl, rfl⟩
        | succ k =>
            obtain ⟨rest, htop, hcount⟩ := ih (Nat.succ_pos k) (by simpa using hlt)
            have hne : (linesOf s).take (k + 1) ≠ [] := by simp [hs]
            rw [List.intercalate_cons_of_ne_nil hne, List.nil_append, List.singleton_append]
            refine ⟨rest, ?_, ?_⟩
            · rw [List.cons_append, ← htop]
            · rw [List.count_cons_self, hcount]
      · -- the character is the first of the first line
        have hall : linesOf (c :: s) = (c :: line) :: lines := by
          rw [linesOf, List.splitOn_cons_eq_if_modifyHead, hlines]
          simp [hc]
        have hsame : ['\n'].intercalate ((linesOf (c :: s)).take (k + 1)) =
            c :: ['\n'].intercalate ((linesOf s).take (k + 1)) := by
          rw [hall, hs, List.take_succ_cons, List.take_succ_cons,
            List.intercalate_cons_cons_left]
        rw [hall] at hlt
        obtain ⟨rest, htop, hcount⟩ := ih hpos (by rw [hs]; simpa using hlt)
        rw [hsame]
        refine ⟨rest, ?_, ?_⟩
        · rw [List.cons_append, ← htop]
        · rw [List.count_cons_of_ne hc, hcount]

theorem firstFifth_head (s : List Char) : FirstFifth s (head s) := by
  have hlength := length_linesOf s
  unfold FirstFifth
  split
  · next hfew =>
      have hzero : (linesOf s).length / 5 = 0 := by omega
      show ['\n'].intercalate ((linesOf s).take ((linesOf s).length / 5)) = []
      rw [hzero]
      rfl
  · next hmany =>
      obtain ⟨rest, htop, hcount⟩ :=
        exists_of_take_linesOf s (k := (linesOf s).length / 5) (by omega) (by omega)
      exact ⟨rest, htop, by rw [← hlength]; exact hcount⟩

theorem FirstFifth.isPrefix (h : FirstFifth s top) : top <+: s := by
  unfold FirstFifth at h
  split at h
  · rw [h]
    exact List.nil_prefix
  · obtain ⟨rest, rfl, -⟩ := h
    exact List.prefix_append top _

/-! ## Pieces -/

/-- All that a condensed text may hold and the text itself need not. -/
def fixedTexts : List (List Char) := [definitionsHeading, bullet, ['\n'], entryHeading, cutMark]

/-- The text is put together from at most so many contiguous pieces of another one, and from fixed
texts or the beginnings of such. -/
inductive Composed (s : List Char) : Nat → List Char → Prop
  | nil {n} : Composed s n []
  | fixed {n fixed text rest} : fixed ∈ fixedTexts → text <+: fixed → Composed s n rest →
      Composed s n (text ++ rest)
  | copied {n text rest} : text <:+: s → Composed s n rest → Composed s (n + 1) (text ++ rest)

namespace Composed

variable {m n : Nat}

theorem mono (h : Composed s n text) (hle : n ≤ m) : Composed s m text := by
  induction h generalizing m with
  | nil => exact .nil
  | fixed hfixed hbegins _ ih => exact .fixed hfixed hbegins (ih hle)
  | copied hpiece _ ih =>
      obtain ⟨m, rfl⟩ := Nat.exists_eq_succ_of_ne_zero (by omega : m ≠ 0)
      exact .copied hpiece (ih (by omega))

theorem append (h : Composed s m text) (h' : Composed s n rest) :
    Composed s (m + n) (text ++ rest) := by
  induction h with
  | nil => exact h'.mono (Nat.le_add_left n _)
  | fixed hfixed hbegins _ ih =>
      rw [List.append_assoc]
      exact .fixed hfixed hbegins ih
  | @copied m piece more hpiece _ ih =>
      rw [List.append_assoc, Nat.add_right_comm]
      exact .copied hpiece ih

/-- What is cut off is taken from a piece or from a fixed text. -/
theorem take (h : Composed s n text) (m : Nat) : Composed s n (text.take m) := by
  induction h generalizing m with
  | nil =>
      rw [List.take_nil]
      exact .nil
  | fixed hfixed hbegins _ ih =>
      rw [List.take_append]
      exact .fixed hfixed ((List.take_prefix _ _).trans hbegins) (ih _)
  | copied hpiece _ ih =>
      rw [List.take_append]
      exact .copied ((List.take_prefix _ _).isInfix.trans hpiece) (ih _)

theorem of_fixed (h : text ∈ fixedTexts) : Composed s 0 text := by
  have hcomposed : Composed s 0 (text ++ []) := .fixed h List.prefix_rfl .nil
  rwa [List.append_nil] at hcomposed

theorem of_isInfix (h : text <:+: s) : Composed s 1 text := by
  have hcomposed : Composed s 1 (text ++ []) := .copied h .nil
  rwa [List.append_nil] at hcomposed

end Composed

/-! ## The three parts -/

/-- The definitions one to a line under their heading, if there are any. -/
def listing (found : List (List Char)) : List Char :=
  if found = [] then [] else definitionsHeading ++ ['\n'].intercalate (found.map (bullet ++ ·))

/-- The excerpt at the entry point under its heading, if there is one. -/
def entryText : Option (List Char) → List Char
  | none => []
  | some excerpt => entryHeading ++ excerpt

/-- The three parts below each other. -/
def layOut (top : List Char) (found : List (List Char)) (excerpt : Option (List Char)) :
    List Char :=
  top ++ listing found ++ entryText excerpt

/-- What the three parts of a condensed text are. -/
structure Outlined (s top : List Char) (found : List (List Char))
    (excerpt : Option (List Char)) : Prop where
  lines : FirstFifth s top
  definitions : found = definitions s
  few : found.length ≤ 20
  taken : ∀ text ∈ found, text ≠ [] ∧ text <:+: s
  entry : excerpt = entryExcerpt? s
  short : ∀ text, excerpt = some text → text.length ≤ 1000 ∧ text <:+: s

variable {found : List (List Char)} {excerpt : Option (List Char)}

theorem Span.isInfix (s : List Char) (span : Span) : span.of s <:+: s :=
  (List.take_prefix _ _).isInfix.trans (List.drop_suffix _ _).isInfix

/-- The definitions listed are a few pieces of the text, none of them empty. -/
theorem taken_definitions (s : List Char) :
    (definitions s).length ≤ 20 ∧ ∀ text ∈ definitions s, text ≠ [] ∧ text <:+: s := by
  obtain ⟨spans, hlists, hfound⟩ := (definitions_eq_iff s (definitions s)).mp rfl
  rw [hfound]
  refine ⟨by rw [List.length_map]; exact hlists.few, ?_⟩
  intro text htext
  obtain ⟨span, hspan, rfl⟩ := List.mem_map.mp htext
  obtain ⟨hlt, hle⟩ := hlists.chain.ordered.2 span hspan
  refine ⟨?_, span.isInfix s⟩
  apply List.ne_nil_of_length_pos
  rw [Span.of, List.length_take, List.length_drop]
  omega

/-- The excerpt at the entry point is a piece of the text. -/
theorem short_entryExcerpt? (h : entryExcerpt? s = some text) :
    text.length ≤ 1000 ∧ text <:+: s := by
  obtain ⟨-, -, -, i, -, -, -, rfl⟩ := entryExcerpt?_eq_some_iff.mp h
  refine ⟨?_, (List.take_prefix _ _).isInfix.trans (List.drop_suffix _ _).isInfix⟩
  rw [List.length_take]
  exact Nat.min_le_left _ _

theorem outlined (s : List Char) : Outlined s (head s) (definitions s) (entryExcerpt? s) where
  lines := firstFifth_head s
  definitions := rfl
  few := (taken_definitions s).1
  taken := (taken_definitions s).2
  entry := rfl
  short _ := short_entryExcerpt?

/-- The condensed text before it is cut is made of these parts. -/
theorem outline_eq_layOut (s : List Char) :
    outline s = layOut (head s) (definitions s) (entryExcerpt? s) := by
  have hlisting : definitionList s = listing (definitions s) := by
    simp only [definitionList, listing, List.isEmpty_iff]
  have hentry : entryList s = entryText (entryExcerpt? s) := by
    unfold entryList
    cases entryExcerpt? s <;> rfl
  rw [outline, layOut, hlisting, hentry]

/-- Each definition of the list is one piece. -/
theorem composed_listing (h : ∀ text ∈ found, text <:+: s) :
    Composed s found.length (listing found) := by
  have hheading : definitionsHeading ∈ fixedTexts := by simp [fixedTexts]
  have hbullet : bullet ∈ fixedTexts := by simp [fixedTexts]
  have hend : ['\n'] ∈ fixedTexts := by simp [fixedTexts]
  have hlines : Composed s found.length (['\n'].intercalate (found.map (bullet ++ ·))) := by
    induction found with
    | nil => exact .nil
    | cons text found ih =>
        have htext : Composed s 1 text := .of_isInfix (h text (List.mem_cons_self ..))
        have hline : Composed s 1 (bullet ++ text) := .fixed hbullet List.prefix_rfl htext
        have hlater := ih fun text htext => h text (List.mem_cons_of_mem _ htext)
        cases found with
        | nil =>
            rw [List.map_singleton, List.intercalate_singleton]
            exact hline
        | cons next found =>
            rw [List.map_cons, List.map_cons, List.intercalate_cons_cons, List.append_assoc,
              List.length_cons, Nat.add_comm]
            exact hline.append (.fixed hend List.prefix_rfl hlater)
  unfold listing
  split
  · exact .nil
  · exact .fixed hheading List.prefix_rfl hlines

theorem composed_entryText (h : ∀ text, excerpt = some text → text <:+: s) :
    Composed s 1 (entryText excerpt) := by
  have hheading : entryHeading ∈ fixedTexts := by simp [fixedTexts]
  cases excerpt with
  | none => exact .nil
  | some text => exact .fixed hheading List.prefix_rfl (.of_isInfix (h text rfl))

/-- The first lines, at most twenty definitions and an excerpt are at most twenty-two pieces. -/
theorem Outlined.composed (h : Outlined s top found excerpt) :
    Composed s 22 (layOut top found excerpt) := by
  have htop : Composed s 1 top := .of_isInfix h.lines.isPrefix.isInfix
  have hlisting := composed_listing fun text htext => (h.taken text htext).2
  have hentry := composed_entryText fun text htext => (h.short text htext).2
  exact (htop.append (hlisting.mono h.few)).append hentry

/-! ## The outcome -/

theorem essence_eq (content : String) (maxLength : Nat) :
    (essence content maxLength).toList =
      if content.length ≤ maxLength then content.toList
      else if (outline content.toList).length ≤ maxLength then outline content.toList
      else (outline content.toList).take maxLength ++ cutMark := by
  simp only [essence, String.length_toList]
  by_cases hshort : content.length ≤ maxLength
  · rw [if_pos hshort, if_pos hshort]
  · rw [if_neg hshort, if_neg hshort]
    by_cases hfits : (outline content.toList).length ≤ maxLength
    · rw [if_pos hfits, if_pos hfits, String.toList_ofList]
    · rw [if_neg hfits, if_neg hfits, String.toList_ofList]

/-- **What becomes of a text.** The outcome is at most as long as allowed, but for the remark that
something is cut. It is the text itself if that is not too long, and otherwise its three parts, cut
if they are still too long. Nothing of it that is not fixed stands anywhere but in the text, of
which it holds at most twenty-two pieces. -/
theorem essence_condenses (content : String) (maxLength : Nat) :
    (essence content maxLength).length ≤ maxLength + cutMark.length ∧
      Composed content.toList 22 (essence content maxLength).toList ∧
      ∃ top found excerpt, Outlined content.toList top found excerpt ∧
        (essence content maxLength).toList =
          if content.length ≤ maxLength then content.toList
          else if (layOut top found excerpt).length ≤ maxLength then layOut top found excerpt
          else (layOut top found excerpt).take maxLength ++ cutMark := by
  have houtlined := outlined content.toList
  have hmark : cutMark ∈ fixedTexts := by simp [fixedTexts]
  have heq := essence_eq content maxLength
  rw [outline_eq_layOut] at heq
  refine ⟨?_, ?_, _, _, _, houtlined, heq⟩
  · rw [← String.length_toList, heq]
    split
    · next hshort =>
        rw [String.length_toList]
        omega
    · split
      · next hfits => omega
      · rw [List.length_append, List.length_take]
        omega
  · rw [heq]
    split
    · exact (Composed.of_isInfix List.infix_rfl).mono (by omega)
    · split
      · exact houtlined.composed
      · exact (houtlined.composed.take maxLength).append (.of_fixed hmark)

end SourceTutor.Lesson
