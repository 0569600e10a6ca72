import SourceTutor.FileName

/-!
# Names and lists in order

Names that are text read as they are (`FileName.text_of_not_mem`). Lists are ordered by the first
place at which they differ (`listLe`), and this order is as good as that of what is in them: if of
two elements that differ exactly one comes first (`Orders`), of two lists one comes first, and both
do only if they are equal. The order of names is of this kind (`FileName.orders`).
-/

set_option autoImplicit false

namespace SourceTutor

/-! ## The order of lists -/

/-- Of two elements that differ exactly one comes before the other, and what comes before an element
comes before everything behind it. -/
structure Orders {α : Type} (before : α → α → Bool) : Prop where
  trans : ∀ {a b c}, before a b = true → before b c = true → before a c = true
  asymm : ∀ {a b}, before a b = true → before b a = false
  total : ∀ {a b}, a ≠ b → before a b = true ∨ before b a = true

theorem Orders.ne {α : Type} {before : α → α → Bool} (h : Orders before) {a b : α}
    (hlt : before a b = true) : a ≠ b := by
  rintro rfl
  have hasymm := h.asymm hlt
  rw [hlt] at hasymm
  cases hasymm

section

variable {α : Type} [DecidableEq α] {before : α → α → Bool}

/-- The first elements that differ decide. -/
theorem listLe_cons_cons (h : Orders before) (a b : α) (k l : List α) :
    listLe before (a :: k) (b :: l) = true ↔
      before a b = true ∨ a = b ∧ listLe before k l = true := by
  rw [listLe]
  by_cases heq : a = b
  · subst heq
    have hno : ¬ before a a = true := fun hlt => h.ne hlt rfl
    simp [hno]
  · simp [heq]

theorem listLe_trans (h : Orders before) (a b c : List α) (hab : listLe before a b = true)
    (hbc : listLe before b c = true) : listLe before a c = true := by
  induction a generalizing b c with
  | nil => rfl
  | cons x a ih =>
      cases b with
      | nil => cases hab
      | cons y b =>
          cases c with
          | nil => cases hbc
          | cons z c =>
              rw [listLe_cons_cons h] at hab hbc ⊢
              rcases hab with hlt | ⟨rfl, hle⟩
              · rcases hbc with hlt' | ⟨rfl, -⟩
                · exact .inl (h.trans hlt hlt')
                · exact .inl hlt
              · rcases hbc with hlt' | ⟨rfl, hle'⟩
                · exact .inl hlt'
                · exact .inr ⟨rfl, ih b c hle hle'⟩

theorem listLe_total (h : Orders before) (a b : List α) :
    (listLe before a b || listLe before b a) = true := by
  rw [Bool.or_eq_true]
  induction a generalizing b with
  | nil => exact .inl rfl
  | cons x a ih =>
      cases b with
      | nil => exact .inr rfl
      | cons y b =>
          rw [listLe_cons_cons h, listLe_cons_cons h]
          by_cases heq : x = y
          · exact (ih b).imp (fun hle => .inr ⟨heq, hle⟩) fun hle => .inr ⟨heq.symm, hle⟩
          · exact (h.total heq).imp .inl .inl

theorem listLe_antisymm (h : Orders before) {a b : List α} (hab : listLe before a b = true)
    (hba : listLe before b a = true) : a = b := by
  induction a generalizing b with
  | nil =>
      cases b with
      | nil => rfl
      | cons y b => cases hba
  | cons x a ih =>
      cases b with
      | nil => cases hab
      | cons y b =>
          rw [listLe_cons_cons h] at hab hba
          rcases hab with hlt | ⟨rfl, hle⟩
          · rcases hba with hgt | ⟨rfl, -⟩
            · rw [h.asymm hlt] at hgt
              cases hgt
            · exact absurd rfl (h.ne hlt)
          · rcases hba with hlt | ⟨-, hle'⟩
            · exact absurd rfl (h.ne hlt)
            · rw [ih hle hle']

end

/-! ## Names -/

namespace FileName

variable {name : String}

theorem isText_iff : isText name = true ↔ '/' ∉ name.toList := by
  simp [isText]

/-- A name that is text reads as it is. -/
theorem text_of_not_mem (h : '/' ∉ name.toList) : text name = name := by
  rw [text, if_pos (isText_iff.mpr h)]

/-- A name has bytes. -/
theorem bytes_ne_nil (h : name ≠ "") : bytes name ≠ [] := by
  rw [bytes]
  have hchars : name.toList ≠ [] := fun hnil => h (String.toList_injective hnil)
  generalize name.toList = chars at hchars
  fun_cases bytesOf chars with
  | case1 => exact absurd rfl hchars
  | case2 c rest => exact List.cons_ne_nil _ _
  | case3 c rest _ =>
      have hlength := String.length_utf8EncodeChar c
      have hpos := c.utf8Size_pos
      intro hnil
      rw [(List.append_eq_nil_iff.mp hnil).1] at hlength
      simp at hlength
      omega

/-- Of two texts that differ one comes first. -/
theorem lt_or_lt {a b : String} (h : a ≠ b) : a < b ∨ b < a := by
  by_cases hlt : a < b
  · exact .inl hlt
  by_cases hgt : b < a
  · exact .inr hgt
  exact absurd (String.le_antisymm (String.not_lt.mp hgt) (String.not_lt.mp hlt)) h

theorem orders_byteBefore : Orders byteBefore where
  trans {a b c} hab hbc := by
    simp only [byteBefore, decide_eq_true_eq] at hab hbc ⊢
    omega
  asymm {a b} hab := by
    simp only [byteBefore, decide_eq_true_eq, decide_eq_false_iff_not] at hab ⊢
    omega
  total {a b} hne := by
    have hnat : a.toNat ≠ b.toNat := fun heq => hne (UInt8.toNat_inj.mp heq)
    simp only [byteBefore, decide_eq_true_eq]
    omega

/-- The bytes decide, unless they are the same. -/
theorem before_iff (a b : String) : before a b = true ↔
    bytes a ≠ bytes b ∧ listLe byteBefore (bytes a) (bytes b) = true ∨
      bytes a = bytes b ∧ a < b := by
  rw [before]
  by_cases heq : bytes a = bytes b <;> simp [heq]

/-- **Names are in order.** -/
theorem orders : Orders before where
  trans {a b c} hab hbc := by
    rw [before_iff] at hab hbc ⊢
    rcases hab with ⟨hne, hle⟩ | ⟨heq, hlt⟩
    · -- if the outer names had the same bytes, so would the inner one
      rcases hbc with ⟨-, hle'⟩ | ⟨heq', -⟩
      · refine .inl ⟨fun hsame => ?_, listLe_trans orders_byteBefore _ _ _ hle hle'⟩
        rw [← hsame] at hle'
        exact hne (listLe_antisymm orders_byteBefore hle hle')
      · rw [← heq']
        exact .inl ⟨hne, hle⟩
    · rw [heq]
      exact hbc.imp_right fun ⟨heq', hlt'⟩ => ⟨heq', String.lt_trans hlt hlt'⟩
  asymm {a b} hab := by
    rw [Bool.eq_false_iff, ne_eq, before_iff]
    rw [before_iff] at hab
    rintro (⟨hne, hle⟩ | ⟨heq, hlt⟩)
    · rcases hab with ⟨-, hle'⟩ | ⟨heq', -⟩
      · exact hne (listLe_antisymm orders_byteBefore hle hle')
      · exact hne heq'.symm
    · rcases hab with ⟨hne', -⟩ | ⟨-, hlt'⟩
      · exact hne' heq.symm
      · exact String.lt_asymm hlt hlt'
  total {a b} hne := by
    rw [before_iff, before_iff]
    by_cases heq : bytes a = bytes b
    · exact (lt_or_lt hne).imp (fun hlt => .inr ⟨heq, hlt⟩) fun hlt => .inr ⟨heq.symm, hlt⟩
    · have htotal := listLe_total orders_byteBefore (bytes a) (bytes b)
      rw [Bool.or_eq_true] at htotal
      exact htotal.imp (fun hle => .inl ⟨heq, hle⟩) fun hle => .inl ⟨Ne.symm heq, hle⟩

end FileName

end SourceTutor
