import Mathlib.Data.List.Forall2
import SourceTutor.Json.Record

/-!
# Reading what has been edited

An object may be edited by removing members, by rearranging them and by adding members with names
that nobody looks for (`Edited`); the members that stay may have been edited themselves. Of the
fields of a record, those whose members are removed are missing afterwards, and each of the others
has the edited value (`fields?_edited`). The lemmas behind it carry this on through defaults, `null`
and arrays.
-/

set_option autoImplicit false

namespace SourceTutor.Json

/-! ## Edits -/

/-- A member stays, under its name and with its value edited. -/
inductive Stays (edit : String → Json → Json → Prop) :
    Option String × Json → Option String × Json → Prop
  | intro {name : String} {v v' : Json} : edit name v v' → Stays edit (some name, v) (some name, v')

/-- An object is edited: the members with some names are removed, the others stay, members with
names that are not known are added, and all of them stand in any order. -/
inductive Edited (known removed : List String) (edit : String → Json → Json → Prop) :
    Json → Json → Prop
  | intro {members kept added members' : List (Option String × Json)} :
      List.Forall₂ (Stays edit) (members.filter fun m => m.1 ∉ removed.map some) kept →
      (∀ m ∈ added, ∃ name, m.1 = some name ∧ name ∉ known) →
      members'.Perm (kept ++ added) →
      Edited known removed edit (.object members) (.object members')

/-- A value is edited that may be `null` instead. -/
inductive OrNull (edit : Json → Json → Prop) : Json → Json → Prop
  | null : OrNull edit .null .null
  | value {v v' : Json} : edit v v' → OrNull edit v v'

/-- Every element of an array is edited, each in its own way. -/
inductive EditedElements (edit : Nat → Json → Json → Prop) : Json → Json → Prop
  | intro {vs vs' : List Json} : vs.length = vs'.length →
      (∀ i v v', vs[i]? = some v → vs'[i]? = some v' → edit i v v') →
      EditedElements edit (.array vs) (.array vs')

variable {known removed : List String} {edit : String → Json → Json → Prop} {name : String}
  {members members' kept added : List (Option String × Json)} {v v' : Json}
  {f f' : Option Json} {fs : List (Option Json)} {α : Type} {read : Json → Option α}

/-! ## Members -/

theorem valuesOf_cons (name : String) (m : Option String × Json)
    (members : List (Option String × Json)) : valuesOf name (m :: members) =
      if m.1 = some name then m.2 :: valuesOf name members else valuesOf name members := by
  rw [valuesOf, List.filterMap_cons]
  by_cases hname : m.1 = some name
  · simp [hname, valuesOf]
  · simp [hname, valuesOf]

theorem valuesOf_filter (name : String) (removed : List String)
    (members : List (Option String × Json)) :
    valuesOf name (members.filter fun m => m.1 ∉ removed.map some) =
      if name ∈ removed then [] else valuesOf name members := by
  induction members with
  | nil => simp [valuesOf]
  | cons m members ih =>
      rw [List.filter_cons, valuesOf_cons]
      by_cases hname : m.1 = some name
      · -- a member with the name is removed exactly if the name is
        by_cases hremoved : name ∈ removed
        · have hgone : ¬ decide (m.1 ∉ removed.map some) = true := by simp [hname, hremoved]
          rw [if_neg hgone, ih, if_pos hremoved, if_pos hremoved]
        · have hkept : decide (m.1 ∉ removed.map some) = true := by simp [hname, hremoved]
          rw [if_pos hkept, if_neg hremoved, valuesOf_cons, ih, if_neg hremoved]
      · rw [if_neg hname, ← ih]
        split
        · rw [valuesOf_cons, if_neg hname]
        · rfl

theorem valuesOf_stays (h : List.Forall₂ (Stays edit) members kept) (name : String) :
    List.Forall₂ (edit name) (valuesOf name members) (valuesOf name kept) := by
  induction h with
  | nil => exact .nil
  | cons hstays _ ih =>
      cases hstays with
      | @intro other v v' hedit =>
          rw [valuesOf_cons, valuesOf_cons]
          by_cases hname : other = name
          · subst hname
            rw [if_pos rfl, if_pos rfl]
            exact List.Forall₂.cons hedit ih
          · have hother : ¬ some other = some name := fun h => hname (Option.some.inj h)
            rw [if_neg hother, if_neg hother]
            exact ih

theorem isSome_of_stays (h : List.Forall₂ (Stays edit) members kept) :
    ∀ m ∈ kept, m.1.isSome = true := by
  induction h with
  | nil => nofun
  | cons hstays _ ih =>
      cases hstays with
      | intro _ => exact List.forall_mem_cons.mpr ⟨rfl, ih⟩

theorem valuesOf_added (h : ∀ m ∈ added, ∃ name, m.1 = some name ∧ name ∉ known)
    (hname : name ∈ known) : valuesOf name added = [] := by
  rw [valuesOf, List.filterMap_eq_nil_iff]
  intro m hm
  obtain ⟨other, hother, hunknown⟩ := h m hm
  have hne : other ≠ name := by
    rintro rfl
    exact hunknown hname
  simp [hother, hne]

/-- What becomes of a field: it is missing if it is removed, and otherwise there if it was, with its
value edited. -/
def FieldEdited (removed : List String) (edit : String → Json → Json → Prop) (name : String)
    (f f' : Option Json) : Prop :=
  if name ∈ removed then f' = none else Option.Rel (edit name) f f'

theorem member?_edited
    (hkept : List.Forall₂ (Stays edit) (members.filter fun m => m.1 ∉ removed.map some) kept)
    (hadded : ∀ m ∈ added, ∃ name, m.1 = some name ∧ name ∉ known)
    (hperm : members'.Perm (kept ++ added)) (hname : name ∈ known)
    (h : member? name members = some f) :
    ∃ f', member? name members' = some f' ∧ FieldEdited removed edit name f f' := by
  -- rearranged or not, and whatever is added, the values of a known name are those that stay
  have hvalues : (valuesOf name members').Perm (valuesOf name kept) := by
    have hperm := hperm.filterMap fun m => if m.1 == some name then some m.2 else none
    rw [List.filterMap_append] at hperm
    have hnone := valuesOf_added hadded hname
    rw [valuesOf] at hnone
    rw [hnone, List.append_nil] at hperm
    exact hperm
  have hstays := valuesOf_stays hkept name
  rw [valuesOf_filter] at hstays
  unfold FieldEdited
  -- there is at most one of them, so that their order says nothing
  by_cases hremoved : name ∈ removed
  · rw [if_pos hremoved] at hstays
    rw [List.forall₂_nil_left_iff.mp hstays] at hvalues
    refine ⟨none, ?_, if_pos hremoved ▸ rfl⟩
    rw [member?, hvalues.eq_nil]
  · rw [if_neg hremoved] at hstays
    simp only [if_neg hremoved]
    rw [member?] at h
    split at h
    · rename_i hnone
      obtain rfl := Option.some.inj h
      rw [hnone, List.forall₂_nil_left_iff] at hstays
      rw [hstays] at hvalues
      exact ⟨none, by rw [member?, hvalues.eq_nil], .none⟩
    · rename_i v hone
      obtain rfl := Option.some.inj h
      rw [hone, List.forall₂_cons_left_iff] at hstays
      obtain ⟨v', rest, hedit, hrest, hkept⟩ := hstays
      rw [List.forall₂_nil_left_iff.mp hrest] at hkept
      rw [hkept] at hvalues
      exact ⟨some v', by rw [member?, hvalues.eq_singleton], .some hedit⟩
    · cases h

/-! ## Fields -/

/-- What becomes of the fields of a record. -/
inductive FieldsEdited (removed : List String) (edit : String → Json → Json → Prop) :
    List String → List (Option Json) → List (Option Json) → Prop
  | nil : FieldsEdited removed edit [] [] []
  | cons {name : String} {names : List String} {f f' : Option Json} {fs fs' : List (Option Json)} :
      FieldEdited removed edit name f f' → FieldsEdited removed edit names fs fs' →
      FieldsEdited removed edit (name :: names) (f :: fs) (f' :: fs')

/-- **Of an edited object, the fields are found edited.** -/
theorem fields?_edited (hedited : Edited known removed edit v v') (h : fields? known v = some fs) :
    ∃ fs', fields? known v' = some fs' ∧ FieldsEdited removed edit known fs fs' := by
  cases hedited with
  | @intro members kept added members' hkept hadded hperm =>
      have hnamed : members'.all (·.1.isSome) = true := by
        rw [List.all_eq_true]
        intro m hm
        rcases List.mem_append.mp (hperm.mem_iff.mp hm) with hm | hm
        · exact isSome_of_stays hkept m hm
        · obtain ⟨name, hname, _⟩ := hadded m hm
          rw [hname]
          rfl
      have hfields : ∀ names fs, (∀ name ∈ names, name ∈ known) →
          (names.mapM fun name => member? name members) = some fs →
          ∃ fs', (names.mapM fun name => member? name members') = some fs' ∧
            FieldsEdited removed edit names fs fs' := by
        intro names
        induction names with
        | nil =>
            intro fs _ hfs
            obtain rfl := Option.some.inj hfs
            exact ⟨[], rfl, .nil⟩
        | cons name names ih =>
            intro fs hnames hfs
            obtain ⟨hname, hnames⟩ := List.forall_mem_cons.mp hnames
            rw [List.mapM_cons] at hfs
            obtain ⟨f, hf, hfs⟩ := Option.bind_eq_some_iff.mp hfs
            obtain ⟨rest, hrest, hfs⟩ := Option.bind_eq_some_iff.mp hfs
            obtain rfl := Option.some.inj hfs
            obtain ⟨f', hf', hfield⟩ := member?_edited hkept hadded hperm hname hf
            obtain ⟨rest', hrest', hfields⟩ := ih rest hnames hrest
            refine ⟨f' :: rest', ?_, .cons hfield hfields⟩
            rw [List.mapM_cons, hf', hrest']
            rfl
      rw [fields?] at h
      split at h
      · obtain ⟨fs', hfs', hedited⟩ := hfields known fs (fun _ => id) h
        exact ⟨fs', by rw [fields?, if_pos hnamed, hfs'], hedited⟩
      · cases h

/-! ## Values -/

/-- A field that may be missing is read as its default if it is removed, and otherwise as what the
edit makes of it, which has to leave the default alone. -/
theorem defaulted?_edited {missing : α} {read : Json → Option α} {edited : α → α} {a : α}
    (hfield : FieldEdited removed edit name f f') (hmissing : edited missing = missing)
    (hread : ∀ v v' a, edit name v v' → read v = some a → read v' = some (edited a))
    (h : defaulted? missing read f = some a) :
    defaulted? missing read f' = some (if name ∈ removed then missing else edited a) := by
  unfold FieldEdited at hfield
  by_cases hremoved : name ∈ removed
  · rw [if_pos hremoved] at hfield
    rw [hfield, if_pos hremoved]
    rfl
  · rw [if_neg hremoved] at hfield
    rw [if_neg hremoved]
    cases hfield with
    | none =>
        obtain rfl := Option.some.inj h
        rw [hmissing]
        rfl
    | some hedit => exact hread _ _ _ hedit h

/-- A field that is not edited is read as before. -/
theorem defaulted?_same {missing : α} {read : Json → Option α} {a : α}
    (hfield : FieldEdited removed edit name f f') (hsame : ∀ v v', edit name v v' → v = v')
    (h : defaulted? missing read f = some a) :
    defaulted? missing read f' = some (if name ∈ removed then missing else a) := by
  have hread : ∀ v v' a, edit name v v' → read v = some a → read v' = some (id a) := by
    intro v v' a hedit ha
    rw [← hsame v v' hedit]
    exact ha
  exact defaulted?_edited hfield rfl hread h

theorem asOptional?_edited {read : Json → Option α} {edited : α → α} {a : Option α}
    (hedited : OrNull (Edited known removed edit) v v')
    (hread : ∀ a, Edited known removed edit v v' → read v = some a → read v' = some (edited a))
    (h : asOptional? read v = some a) : asOptional? read v' = some (a.map edited) := by
  cases hedited with
  | null =>
      obtain rfl := Option.some.inj h
      rfl
  | value hedit =>
      cases hedit with
      | intro hkept hadded hperm =>
          obtain ⟨b, hb, rfl⟩ := Option.map_eq_some_iff.mp h
          rw [asOptional?, hread b (.intro hkept hadded hperm) hb]
          · rfl
          · nofun

theorem EditedElements.singleton {edit : Nat → Json → Json → Prop} (h : edit 0 v v') :
    EditedElements edit (.array [v]) (.array [v']) := by
  refine .intro rfl ?_
  intro i w w' hw hw'
  cases i with
  | zero =>
      cases hw
      cases hw'
      exact h
  | succ i => cases hw

theorem asList?_edited {read : Json → Option α} {edit : Nat → Json → Json → Prop}
    {edited : Nat → α → α} {as : List α} (hedited : EditedElements edit v v')
    (hread : ∀ i v v' a, edit i v v' → read v = some a → read v' = some (edited i a))
    (h : asList? read v = some as) : asList? read v' = some (as.mapIdx edited) := by
  cases hedited with
  | @intro vs vs' hlength hedit =>
      rw [asList?] at h ⊢
      induction vs generalizing vs' as edit edited with
      | nil =>
          obtain rfl := List.eq_nil_of_length_eq_zero hlength.symm
          obtain rfl := Option.some.inj h
          rfl
      | cons v vs ih =>
          obtain ⟨v', vs', rfl⟩ := List.exists_cons_of_length_eq_add_one hlength.symm
          rw [List.mapM_cons] at h
          obtain ⟨a, ha, h⟩ := Option.bind_eq_some_iff.mp h
          obtain ⟨rest, hrest, h⟩ := Option.bind_eq_some_iff.mp h
          obtain rfl := Option.some.inj h
          -- the further elements are edited like those of an array that begins behind the first
          have htail : vs'.mapM read = some (rest.mapIdx fun i => edited (i + 1)) :=
            ih (fun i => hread (i + 1)) (Nat.succ.inj hlength) (fun i => hedit (i + 1)) hrest
          rw [List.mapM_cons, hread 0 v v' a (hedit 0 v v' rfl rfl) ha, htail, List.mapIdx_cons]
          rfl

end SourceTutor.Json
