import SourceTutor.Proofs.FileTree.Effects
import SourceTutor.Proofs.FileTree.Steps
import SourceTutor.Proofs.PathParts

/-!
# Making the directories above a path

A directory that is made above a path was missing before, so that the path led nowhere; and it is
empty when it is made, so that the path leads to nothing still. Hence making directories changes
neither what is read under the path nor whether the path is a link. This holds for every path
that goes up at its start only: one that leads into a new directory and up again would find what
stands beside it.
-/

set_option autoImplicit false

namespace SourceTutor

namespace Path

/-- A path above a second one is above any third one in the same directory. -/
theorem Above.sibling {a p q : Path} {dir tail : List String} {last new : String}
    (hp : p.segments = dir ++ last :: tail) (htail : tail.all isSilent = true)
    (hq : q.segments = dir ++ [new]) (hnew : isSilent new = false) (h : Above a p) :
    Above a q := by
  rcases h with h | ⟨dir', d, more, hd, ha, hp', segment, hmem, hsegment⟩
  · exact .inl h
  · -- the last name of the second path is followed by no other, so the path above ends before it
    have hloud : ¬ more.all isSilent = true := fun h => by
      rw [List.all_eq_true.mp h segment hmem] at hsegment
      cases hsegment
    rw [hp] at hp'
    rcases List.append_eq_append_iff.mp hp' with ⟨between, rfl, hrest⟩ | ⟨between, rfl, hrest⟩
    · cases between with
      | nil =>
          obtain ⟨_, rfl⟩ := List.cons.inj hrest
          exact absurd htail hloud
      | cons x between =>
          rw [List.cons_append] at hrest
          obtain ⟨_, rfl⟩ := List.cons.inj hrest
          rw [List.all_append, List.all_cons, hd] at htail
          simp at htail
    · cases between with
      | nil =>
          obtain ⟨_, rfl⟩ := List.cons.inj hrest
          exact absurd htail hloud
      | cons x between =>
          obtain ⟨rfl, _⟩ := List.cons.inj hrest
          refine .inr ⟨dir', d, between ++ [new], hd, ha, ?_, new, by simp, hnew⟩
          rw [hq]
          simp

end Path

namespace FileTree

/-- The second tree comes from the first one by making some of the directories above the path. -/
inductive MadeAbove (p : Path) : FileTree → FileTree → Prop
  | refl {t} : MadeAbove p t t
  | step {t t' t'' a} : MadeAbove p t t' → Path.Above a p → t'.createDirectory a = .ok t'' →
      MadeAbove p t t''

variable {t t' : FileTree} {a p : Path} {links : Nat} {k : Key}

theorem createUpward_madeAbove (height : Nat) (t : FileTree) (a : Path) (h : Path.Above a p) :
    MadeAbove p t (t.createUpward height a).1 := by
  induction height generalizing a with
  | zero => exact .refl
  | succ height ih =>
      rw [createUpward]
      by_cases hempty : a.isEmpty
      · rw [if_pos hempty]
        exact .refl
      · rw [if_neg hempty]
        split
        · rename_i t' hmade
          exact .step .refl h hmade
        · cases hparent : a.parent? with
          | none => exact .refl
          | some above =>
              have hrec := ih above ((Path.above_of_parent? hparent).trans h)
              dsimp only
              split
              · rename_i t' e heq
                rw [heq] at hrec
                exact hrec
              · rename_i t' heq
                rw [heq] at hrec
                split
                · rename_i t'' hmade
                  exact .step hrec h hmade
                · split <;> exact hrec
        · split <;> exact .refl

/-! ## Empty directories -/

/-- In an empty directory a name leads to nothing. -/
theorem walkFrom_barren (aim : Aim) (hbarren : ∀ name, t.get? (k ++ [name]) = none)
    {todo : List String} (hup : ∀ segment ∈ todo, segment ≠ "..")
    (hloud : ∃ segment ∈ todo, Path.isSilent segment = false) (key : Key) (n : Node) :
    t.walkFrom aim links k todo ≠ .ok (.taken key n) := by
  induction todo with
  | nil =>
      obtain ⟨segment, hmem, _⟩ := hloud
      cases hmem
  | cons segment todo ih =>
      have hup' : ∀ segment ∈ todo, segment ≠ ".." :=
        fun s hs => hup s (List.mem_cons_of_mem _ hs)
      have hloud' : Path.isSilent segment = true →
          ∃ segment ∈ todo, Path.isSilent segment = false := by
        intro hsilent
        obtain ⟨s, hmem, hs⟩ := hloud
        rcases List.mem_cons.mp hmem with rfl | hmem
        · rw [hsilent] at hs
          cases hs
        · exact ⟨s, hmem, hs⟩
      rcases Path.segment_cases segment with rfl | rfl | rfl | hname
      · rw [walkFrom.eq_2]
        exact ih hup' (hloud' rfl)
      · rw [walkFrom.eq_3]
        exact ih hup' (hloud' rfl)
      · exact absurd rfl (hup ".." (List.mem_cons_self ..))
      · intro h
        -- of what may stand under a name only nothing is left, and the place is free
        have hfound := (walkFrom_name_cases hname h).2
        simp [hbarren segment] at hfound

/-! ## One directory made -/

theorem IsName_of_loud {segment : String} (h : Path.isSilent segment = false)
    (hup : segment ≠ "..") : Path.IsName segment := by
  simp only [Path.isSilent, Bool.or_eq_false_iff, beq_eq_false_iff_ne] at h
  exact ⟨h.1, h.2, hup⟩

section

variable {dir more : List String} {last : String} (hl : t.Reaches p dir links k)
  (hp : p.segments = dir ++ last :: more) (hmore : more.all (· == "") = false)

include hl hp hmore

theorem walkFrom_of_reaches {aim : Aim} {place : Place} (h : t.resolve aim p = .ok place) :
    t.walkFrom aim links k (last :: more) = .ok place := by
  have hall : (last :: more).all (· == "") = false := by
    rw [List.all_cons, hmore, Bool.and_false]
  rw [← (walkFrom_of_resolve_eq_ok h).2, hp, Leads.walkFrom_append hl hall]

/-- A path leads to nothing if a directory is missing on the way. -/
theorem not_taken_of_missing (hname : Path.IsName last) (hnone : t.get? (k ++ [last]) = none)
    (aim : Aim) (key : Key) (n : Node) : t.resolve aim p ≠ .ok (.taken key n) := by
  intro hok
  have hfound := (walkFrom_name_cases hname (walkFrom_of_reaches hl hp hmore hok)).2
  simp [hnone] at hfound

/-- A path leads to nothing if a directory on the way is empty. -/
theorem not_taken_of_barren (hname : Path.IsName last)
    (hdir : t.get? (k ++ [last]) = some .directory)
    (hbarren : ∀ name, t.get? (k ++ [last] ++ [name]) = none)
    (hup : ∀ segment ∈ more, segment ≠ "..")
    (hloud : ∃ segment ∈ more, Path.isSilent segment = false) (aim : Aim) (key : Key) (n : Node) :
    t.resolve aim p ≠ .ok (.taken key n) := by
  intro hok
  have hwalk := walkFrom_of_reaches hl hp hmore hok
  rw [walkFrom_name_cons hname hmore, hdir] at hwalk
  split at hwalk
  · cases hwalk
  · exact walkFrom_barren aim hbarren hup hloud key n hwalk

end

/-- Making a directory above a path, the path led to nothing and leads to nothing. -/
theorem resolve_of_made (hp : p.Direct) (ht : t.WellFormed) (ha : Path.Above a p)
    (h : t.createDirectory a = .ok t') :
    t'.WellFormed ∧ ∀ aim key n, t.resolve aim p ≠ .ok (.taken key n) ∧
      t'.resolve aim p ≠ .ok (.taken key n) := by
  rcases ha with ha | ⟨dir, last, more, hlast, ha, hsegments, hloud⟩
  · exact absurd h (createDirectory_steps (Path.all_isStep ha))
  -- what is made has a name, and behind a name the path goes up no more
  rcases hp.split_at hsegments with hsteps | ⟨start, between, _, _, hrest⟩
  · exact absurd h (createDirectory_steps (ha ▸ hsteps))
  have hmem : ∀ segment ∈ last :: more, segment ≠ ".." ∧ segment ≠ "/" := fun s hs =>
    hrest s (List.mem_append_right _ hs)
  obtain ⟨hup, hroot⟩ := hmem last (List.mem_cons_self ..)
  have hname := IsName_of_loud hlast hup
  have hmore : more.all (· == "") = false := by
    obtain ⟨segment, hs, hsegment⟩ := hloud
    refine Bool.eq_false_iff.mpr fun hall => ?_
    have := List.all_eq_true.mp hall segment hs
    rw [beq_iff_eq] at this
    subst this
    cases hsegment
  have hhome : a.home = p.home := by
    rw [Path.home, Path.home, Path.isAbsolute_congr ha hsegments hlast hlast]
  obtain ⟨key, ⟨_, _, links, k, hl, rfl⟩, hnone, rfl⟩ := of_createDirectory_eq_ok ha hname h
  rw [Reaches, hhome] at hl
  have hord : Ordinary (k ++ [last]) := ordinary_concat k hup hroot
  have hdir : t.IsDirectory k := hl.isDirectory ht (isDirectory_home t p)
  have hl' : Reaches (t.insert (k ++ [last]) .directory) p dir links k :=
    hl.congr (.of_insert_new hnone)
  refine ⟨ht.insert hdir (by simp [hnone]), fun aim key n =>
    ⟨not_taken_of_missing hl hsegments hmore hname hnone aim key n, ?_⟩⟩
  refine not_taken_of_barren hl' hsegments hmore hname (get?_insert_self hord.ne_nil)
    (fun name => ?_) (fun s hs => (hmem s (List.mem_cons_of_mem _ hs)).1) hloud aim key n
  have hne : k ++ [last] ++ [name] ≠ k ++ [last] := by
    intro heq
    have := congrArg List.length heq
    simp at this
  rw [get?_insert_of_ne hne]
  exact ht.get?_below hnone hord name

/-! ## Any number of directories made -/

/-- Making directories makes no files. -/
theorem MadeAbove.mem_of_file (h : MadeAbove p t t') {bytes : ByteArray}
    (hmem : (k, .file bytes) ∈ t'.nodes) : (k, .file bytes) ∈ t.nodes := by
  induction h with
  | refl => exact hmem
  | step _ _ hmade ih =>
      obtain ⟨key, slash, -, rfl⟩ := resolve_of_createDirectory_eq_ok hmade
      rcases mem_insert.mp hmem with heq | ⟨hold, -⟩
      · cases heq
      · exact ih hold

theorem MadeAbove.mono {q : Path} (hq : ∀ a, Path.Above a p → Path.Above a q)
    (h : MadeAbove p t t') : MadeAbove q t t' := by
  induction h with
  | refl => exact .refl
  | step _ ha hmade ih => exact .step ih (hq _ ha) hmade

theorem MadeAbove.wellFormed (h : MadeAbove p t t') (hp : p.Direct) (ht : t.WellFormed) :
    t'.WellFormed := by
  induction h with
  | refl => exact ht
  | step _ ha hmade ih => exact (resolve_of_made hp ih ha hmade).1

/-- Above a link no directory is missing. -/
theorem MadeAbove.eq_of_linkAt (h : MadeAbove p t t') (hp : p.Direct) (ht : t.WellFormed)
    (hlink : t'.LinkAt p) : t' = t := by
  cases h with
  | refl => rfl
  | step hbefore ha hmade =>
      obtain ⟨key, target, hok⟩ := hlink
      exact absurd hok ((resolve_of_made hp (hbefore.wellFormed hp ht) ha hmade).2 _ _ _).2

/-- What is read under the path stays the same. -/
theorem MadeAbove.read_eq_ok_iff (h : MadeAbove p t t') (hp : p.Direct) (ht : t.WellFormed)
    (bytes : ByteArray) : t'.read p = .ok bytes ↔ t.read p = .ok bytes := by
  induction h with
  | refl => rfl
  | step hbefore ha hmade ih =>
      have hnothing := (resolve_of_made hp (hbefore.wellFormed hp ht) ha hmade).2
      rw [← ih]
      constructor
      · intro hread
        obtain ⟨key, hok⟩ := resolve_of_read_eq_ok hread
        exact absurd hok (hnothing _ _ _).2
      · intro hread
        obtain ⟨key, hok⟩ := resolve_of_read_eq_ok hread
        exact absurd hok (hnothing _ _ _).1

end FileTree

end SourceTutor
