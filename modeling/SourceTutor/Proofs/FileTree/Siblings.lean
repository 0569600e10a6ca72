import SourceTutor.Proofs.FileTree.Growing
import SourceTutor.Proofs.FileTree.Below

/-!
# Siblings

What is beside a file is reached in two ways: by another last name, and by going up and down again.
The second way is shorter, since the silent segments in front of the name are gone (`Path.tidy`), but
it leads to the same place: a file that is found by the first way is found by the second
(`isFile_tidy`).
-/

set_option autoImplicit false

namespace SourceTutor

namespace Path

variable {p : Path} {dir rest : List String} {name first : String}

/-- The segments in front of a name, as they are when one goes up from it. -/
def tidy : List String → List String
  | [] => []
  | first :: rest => first :: trimSilent rest

/-- Only silent segments are lost. -/
theorem tidy_append (dir : List String) :
    ∃ tail, dir = tidy dir ++ tail ∧ tail.all isSilent = true := by
  cases dir with
  | nil => exact ⟨[], rfl, rfl⟩
  | cons first rest =>
      obtain ⟨tail, hrest, htail⟩ := trimSilent_append rest
      exact ⟨tail, congrArg (first :: ·) hrest, htail⟩

theorem trimSilent_cons (hfirst : isSilent first = false) (rest : List String) :
    trimSilent (first :: rest) = first :: trimSilent rest := by
  rw [trimSilent, trimSilent, List.reverse_cons, List.dropWhile_append]
  split
  · next hempty =>
    rw [List.isEmpty_iff] at hempty
    simp [hfirst, hempty]
  · rw [List.reverse_append, List.reverse_singleton, List.singleton_append]

/-- The start of a path and what is behind it, which do not depend on the last name. -/
theorem exists_split_concat (dir : List String) : ∃ start body, start ++ body = dir ∧
    start ++ trimSilent body = tidy dir ∧ (start = [] ∨ start = [""] ∨ start = ["."]) ∧
      ∀ name, IsName name → split ⟨dir ++ [name]⟩ = (start, body ++ [name]) := by
  cases dir with
  | nil =>
      refine ⟨[], [], rfl, rfl, by simp, fun name hname => ?_⟩
      rw [split]
      split <;> simp_all [IsName]
  | cons first rest =>
      by_cases hempty : first = ""
      · subst hempty
        exact ⟨[""], rest, rfl, rfl, by simp, fun name _ => by cases rest <;> rfl⟩
      by_cases hdot : first = "."
      · subst hdot
        exact ⟨["."], rest, rfl, rfl, by simp, fun name _ => rfl⟩
      have hloud : isSilent first = false := by simp [isSilent, hempty, hdot]
      refine ⟨[], first :: rest, rfl, trimSilent_cons hloud rest, by simp, fun name _ => ?_⟩
      rw [split]
      split <;> simp_all

/-- Behind a segment that is not empty nothing is taken off. -/
theorem child_of_getLast? (hp : p.segments.getLast? ≠ some "") (hname : IsPlain name) :
    p.child name = ⟨p.segments ++ [name]⟩ := by
  have hempty : p.isEmpty = false := by
    rw [isEmpty, beq_eq_false_iff_ne]
    intro heq
    exact hp (by rw [heq]; rfl)
  rw [child_eq_join _ hname, join_cons _ hname, if_neg (by simp [hempty]),
    if_neg (by simpa using hp)]

/-- **Going up from a name and down to another** one. -/
theorem exists_parent_tidy (dir : List String) :
    ∃ a : Path, (∀ name, IsName name → (⟨dir ++ [name]⟩ : Path).parent? = some a) ∧
      ∀ name, IsPlain name → a.child name = ⟨tidy dir ++ [name]⟩ := by
  obtain ⟨start, body, hdir, htidy, hstart, hsplit⟩ := exists_split_concat dir
  refine ⟨assemble start (trimSilent body), fun name hname => ?_, fun name hname => ?_⟩
  · obtain ⟨body', hbody', hparent⟩ := parent?_concat (p := ⟨dir ++ [name]⟩) rfl hname
    rw [hsplit name hname] at hbody' hparent
    rw [hparent, List.append_cancel_left (hbody'.trans hdir.symm)]
  rw [← htidy]
  rcases List.eq_nil_or_concat (trimSilent body) with hnil | ⟨front, last, hconcat⟩
  · rw [hnil, List.append_nil]
    rcases hstart with rfl | rfl | rfl
    · rw [child_eq_join _ hname, join_cons _ hname]
      rfl
    · rw [child_eq_join _ hname, join_cons _ hname]
      rfl
    · exact child_of_getLast? (by decide) hname
  · rw [List.concat_eq_append] at hconcat
    have hloud := trimSilent_eq_concat hconcat
    rw [hconcat, ← List.append_assoc, ← segments_assemble hloud]
    refine child_of_getLast? ?_ hname
    rw [segments_assemble hloud, List.getLast?_concat]
    rintro heq
    rw [Option.some.inj heq] at hloud
    exact absurd hloud (by decide)

theorem home_tidy (dir : List String) (name : String) :
    home ⟨tidy dir ++ [name]⟩ = home ⟨dir ++ [name]⟩ := by
  cases dir with
  | nil => rfl
  | cons first rest =>
      obtain ⟨next, more, hmore⟩ := List.exists_cons_of_ne_nil (l := rest ++ [name]) (by simp)
      obtain ⟨next', more', hmore'⟩ :=
        List.exists_cons_of_ne_nil (l := trimSilent rest ++ [name]) (by simp)
      rw [tidy, List.cons_append, List.cons_append, hmore, hmore', home, home,
        isAbsolute_cons_cons, isAbsolute_cons_cons]

/-- A path does not get worse when silent segments in front of its name are left out. -/
theorem fault?_tidy (h : (⟨dir ++ [name]⟩ : Path).fault? = none) :
    (⟨tidy dir ++ [name]⟩ : Path).fault? = none := by
  obtain ⟨tail, hdir, -⟩ := tidy_append dir
  cases dir with
  | nil => exact h
  | cons first rest =>
      obtain ⟨front, hfront⟩ : ∃ front, front = tidy (first :: rest) := ⟨_, rfl⟩
      have hne : front ≠ [] := by
        rw [hfront]
        exact List.cons_ne_nil _ _
      rw [← hfront] at hdir ⊢
      have hshort := bytes_append hne (List.cons_ne_nil name [])
      have hlong : ∃ between, (⟨first :: rest ++ [name]⟩ : Path).bytes =
          bytes ⟨front⟩ ++ 0x2F :: (between ++ bytes ⟨[name]⟩) := by
        rw [hdir, List.append_assoc, bytes_append hne (by simp)]
        by_cases htail : tail = []
        · exact ⟨[], by simp [htail]⟩
        · refine ⟨bytes ⟨tail⟩ ++ [0x2F], ?_⟩
          rw [bytes_append htail (List.cons_ne_nil _ _)]
          simp
      obtain ⟨between, hlong⟩ := hlong
      rw [fault?_eq_none, hlong] at h
      rw [fault?_eq_none, hshort]
      simp only [List.mem_append, List.mem_cons, List.length_append, List.length_cons] at h ⊢
      refine ⟨fun hzero => h.1 ?_, by simp, by omega⟩
      exact hzero.imp_right fun hback => hback.imp_right .inr

end Path

namespace FileTree

variable {t : FileTree} {links : Nat} {k key : Key} {todo tail more dir : List String}
  {name : String}

/-- A silent segment leads nowhere. -/
theorem Finds.of_silent_cons {segment : String} (hsilent : Path.isSilent segment = true)
    (h : Finds t links k (segment :: todo) key) : Finds t links k todo key := by
  have hno : ¬ Path.IsName segment := by
    rintro ⟨hempty, hdot, -⟩
    simp [Path.isSilent, hempty, hdot] at hsilent
  generalize hsegments : segment :: todo = segments at h
  cases h with
  | here hname => exact absurd ((List.cons.inj hsegments).1 ▸ hname) hno
  | empty h => exact (List.cons.inj hsegments).2 ▸ h
  | stay h => exact (List.cons.inj hsegments).2 ▸ h
  | up h =>
      rw [(List.cons.inj hsegments).1] at hsilent
      exact absurd hsilent (by decide)
  | down hname => exact absurd ((List.cons.inj hsegments).1 ▸ hname) hno
  | follow hname => exact absurd ((List.cons.inj hsegments).1 ▸ hname) hno

theorem Finds.of_silent (htail : tail.all Path.isSilent = true)
    (h : Finds t links k (tail ++ more) key) : Finds t links k more key := by
  induction tail with
  | nil => exact h
  | cons segment tail ih =>
      rw [List.all_cons, Bool.and_eq_true] at htail
      exact ih htail.2 (.of_silent_cons htail.1 h)

/-- Silent segments between others can be left out. -/
theorem Finds.skip (htail : tail.all Path.isSilent = true)
    (h : Finds t links k (todo ++ (tail ++ more)) key) : Finds t links k (todo ++ more) key := by
  generalize hsegments : todo ++ (tail ++ more) = segments at h
  -- nothing but the tail is to be left out once the segments in front are gone
  induction h generalizing todo with
  | here hname hsize hw =>
      cases todo with
      | nil =>
          rw [List.nil_append] at hsegments ⊢
          refine .of_silent htail ?_
          rw [hsegments]
          exact .here hname hsize hw
      | cons first todo =>
          obtain ⟨rfl, hrest⟩ := List.cons.inj hsegments
          obtain ⟨rfl, hmore⟩ := List.append_eq_nil_iff.mp hrest
          obtain ⟨-, rfl⟩ := List.append_eq_nil_iff.mp hmore
          exact .here hname hsize hw
  | empty h ih =>
      cases todo with
      | nil => exact .of_silent htail (hsegments ▸ .empty h)
      | cons first todo =>
          obtain ⟨rfl, hrest⟩ := List.cons.inj hsegments
          exact .empty (ih hrest)
  | stay h ih =>
      cases todo with
      | nil => exact .of_silent htail (hsegments ▸ .stay h)
      | cons first todo =>
          obtain ⟨rfl, hrest⟩ := List.cons.inj hsegments
          exact .stay (ih hrest)
  | up h ih =>
      cases todo with
      | nil => exact .of_silent htail (hsegments ▸ .up h)
      | cons first todo =>
          obtain ⟨rfl, hrest⟩ := List.cons.inj hsegments
          exact .up (ih hrest)
  | down hname hsize hget h ih =>
      cases todo with
      | nil => exact .of_silent htail (hsegments ▸ .down hname hsize hget h)
      | cons first todo =>
          obtain ⟨rfl, hrest⟩ := List.cons.inj hsegments
          exact .down hname hsize hget (ih hrest)
  | @follow links k name target rest key hname hsize hget h ih =>
      cases todo with
      | nil => exact .of_silent htail (hsegments ▸ .follow hname hsize hget h)
      | cons first todo =>
          obtain ⟨rfl, hrest⟩ := List.cons.inj hsegments
          have hfollowed : target.segments ++ todo ++ (tail ++ more) = target.segments ++ rest :=
            (List.append_assoc ..).trans (congrArg (target.segments ++ ·) hrest)
          refine .follow hname hsize hget ?_
          have hskipped := ih hfollowed
          rwa [List.append_assoc] at hskipped

/-- **A file stays one** when silent segments in front of its name are left out. -/
theorem isFile_tidy (h : t.isFile ⟨dir ++ [name]⟩ = true) :
    t.isFile ⟨Path.tidy dir ++ [name]⟩ = true := by
  obtain ⟨key, bytes, ⟨hfault, hfound⟩, hget⟩ := isFile_iff_finds.mp h
  obtain ⟨tail, hdir, htail⟩ := Path.tidy_append dir
  refine isFile_iff_finds.mpr ⟨key, bytes, ⟨Path.fault?_tidy hfault, ?_⟩, hget⟩
  rw [Path.home_tidy]
  refine .skip htail ?_
  rwa [← List.append_assoc, ← hdir]

end FileTree

end SourceTutor
