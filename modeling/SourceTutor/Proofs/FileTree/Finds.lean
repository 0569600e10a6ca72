import SourceTutor.Proofs.FileTree.Effects

/-!
# Files behind links

`Finds` is the walk to a file in small steps, or to the place where one may be written; other than
`PointsTo` it follows a link under the last name as well. What is read under a path is the file that
is found there (`read_eq_ok_iff_finds`). A write changes what is read from one file only, and moving
the file that was written, or the link behind which it was written, to another place adds nothing to
that: whatever is read under a path afterwards has been read there before or is what was written
(`read_of_write`, `read_of_rename`).
-/

set_option autoImplicit false

namespace SourceTutor.FileTree

/-- Walking the segments from the directory leads to the key, where no directory and no link is. At
the start so many links may be followed. -/
inductive Finds (t : FileTree) : Nat → Key → List String → Key → Prop
  | here {links k name} : Path.IsName name → FileName.size name ≤ longestName →
      t.Writable (k ++ [name]) → Finds t links k [name] (k ++ [name])
  | empty {links k rest key} : Finds t links k rest key → Finds t links k ("" :: rest) key
  | stay {links k rest key} : Finds t links k rest key → Finds t links k ("." :: rest) key
  | up {links k rest key} : Finds t links (Key.above k) rest key →
      Finds t links k (".." :: rest) key
  | down {links k name rest key} : Path.IsName name → FileName.size name ≤ longestName →
      t.get? (k ++ [name]) = some .directory → Finds t links (k ++ [name]) rest key →
      Finds t links k (name :: rest) key
  | follow {links k name target rest key} : Path.IsName name →
      FileName.size name ≤ longestName → t.get? (k ++ [name]) = some (.link target) →
      Finds t links (if target.isAbsolute then Key.root else k) (target.segments ++ rest) key →
      Finds t (links + 1) k (name :: rest) key

variable {t t' : FileTree} {p : Path} {links links' : Nat} {k key : Key} {todo more : List String}
  {bytes : ByteArray}

/-! ## What is found -/

/-- A walk that ends at a file, or that ends where a file may be made, finds the place. -/
theorem finds_of_walk {aim : Aim} {place : Place} (h : t.walkFrom aim links k todo = .ok place)
    (hplace : (∃ bytes, place = .taken key (.file bytes)) ∨
      aim = .creation ∧ ∃ slash, place = .free key slash) :
    Finds t links k todo key ∧
      ∀ bytes, place = .taken key (.file bytes) → t.get? key = some (.file bytes) := by
  -- the segments of a link are walked with fewer links left
  induction links using Nat.strongRecOn generalizing k todo with
  | ind links ihlinks =>
  induction todo generalizing k with
  | nil =>
      rw [walkFrom.eq_1] at h
      cases h
      obtain ⟨bytes, hplace⟩ | ⟨_, slash, hplace⟩ := hplace <;> cases hplace
  | cons segment rest ih =>
      rcases Path.segment_cases segment with rfl | rfl | rfl | hname
      · rw [walkFrom.eq_2] at h
        exact (ih h).imp_left .empty
      · rw [walkFrom.eq_3] at h
        exact (ih h).imp_left .stay
      · rw [walkFrom.eq_4] at h
        exact (ih h).imp_left .up
      obtain ⟨hsize, ⟨hget, _, hslash, rfl⟩ | ⟨found, hget, rfl, rfl⟩ | ⟨hget, hon⟩ |
        ⟨target, hget, ⟨_, _, rfl⟩ | ⟨left, rfl, hon⟩⟩⟩ := walkFrom_name_cases hname h
      · obtain ⟨bytes, hplace⟩ | ⟨haim, slash, hplace⟩ := hplace
        · cases hplace
        · -- whoever makes a file does not follow its name with a slash
          cases hplace
          obtain rfl := hslash haim
          exact ⟨.here hname hsize (writable_of_none hget), by simp⟩
      · obtain ⟨bytes, hplace⟩ | ⟨_, slash, hplace⟩ := hplace
        · cases hplace
          refine ⟨.here hname hsize (writable_of_file hget), ?_⟩
          rintro bytes ⟨⟩
          exact hget
        · cases hplace
      · exact (ih hon).imp_left (.down hname hsize hget)
      · obtain ⟨bytes, hplace⟩ | ⟨_, slash, hplace⟩ := hplace <;> cases hplace
      · exact (ihlinks left (Nat.lt_succ_self left) hon).imp_left (.follow hname hsize hget)

/-- A file that is found is what a walk for it ends at. -/
theorem Finds.walkFrom_eq (h : Finds t links k todo key) (hget : t.get? key = some (.file bytes)) :
    t.walkFrom .target links k todo = .ok (.taken key (.file bytes)) := by
  induction h with
  | here hname hsize _ =>
      rw [walkFrom_name hname, if_neg (Nat.not_lt_of_le hsize), hget]
  | empty _ ih => rw [walkFrom.eq_2, ih hget]
  | stay _ ih => rw [walkFrom.eq_3, ih hget]
  | up _ ih => rw [walkFrom.eq_4, ih hget]
  | down hname hsize hdir _ ih =>
      rw [walkFrom.eq_5 _ _ _ _ _ _ hname.1 hname.2.1 hname.2.2, hdir]
      simp only [reduceCtorEq, decide_false, Bool.false_and, Bool.false_eq_true, if_false,
        if_neg (Nat.not_lt_of_le hsize)]
      exact ih hget
  | follow hname hsize hlink _ ih =>
      rw [walkFrom.eq_5 _ _ _ _ _ _ hname.1 hname.2.1 hname.2.2, hlink]
      simp only [reduceCtorEq, decide_false, Bool.false_and, Bool.and_false, Bool.false_eq_true,
        if_false, if_neg (Nat.not_lt_of_le hsize)]
      exact ih hget

/-- What is found depends on the directories and the links on the way. -/
theorem Finds.congr (h : Finds t links k todo key) (hw : t'.Writable key)
    (hways : KeepsWays t t') : Finds t' links k todo key := by
  induction h with
  | here hname hsize _ => exact .here hname hsize hw
  | empty _ ih => exact .empty (ih hw)
  | stay _ ih => exact .stay (ih hw)
  | up _ ih => exact .up (ih hw)
  | down hname hsize hget _ ih => exact .down hname hsize (hways.directory _ hget) (ih hw)
  | follow hname hsize hget _ ih => exact .follow hname hsize (hways.link _ _ hget) (ih hw)

theorem Finds.writable (h : Finds t links k todo key) : t.Writable key := by
  induction h with
  | here _ _ hw => exact hw
  | empty _ ih => exact ih
  | stay _ ih => exact ih
  | up _ ih => exact ih
  | down _ _ _ _ ih => exact ih
  | follow _ _ _ _ ih => exact ih

/-- What is found behind the directory that the first segments lead to. -/
theorem Leads.finds {k' : Key} (h : Leads t links k todo links' k')
    (hrest : Finds t links' k' more key) : Finds t links k (todo ++ more) key := by
  induction h with
  | here => exact hrest
  | empty _ ih => exact .empty (ih hrest)
  | stay _ ih => exact .stay (ih hrest)
  | up _ ih => exact .up (ih hrest)
  | down hname hsize hget _ ih => exact .down hname hsize hget (ih hrest)
  | follow hname hsize hget _ ih =>
      refine .follow hname hsize hget ?_
      have hfound := ih hrest
      rwa [List.append_assoc] at hfound

/-- What is found stands in a directory. -/
theorem Finds.parent (h : Finds t links k todo key) (ht : t.WellFormed) (hk : t.IsDirectory k) :
    ∃ k' name, key = k' ++ [name] ∧ t.IsDirectory k' ∧ t.Writable key := by
  induction h with
  | here _ _ hw => exact ⟨_, _, rfl, hk, hw⟩
  | empty _ ih => exact ih hk
  | stay _ ih => exact ih hk
  | up _ ih => exact ih (ht.above hk)
  | down _ _ hget _ ih => exact ih (.inl hget)
  | @follow _ _ _ target _ _ _ _ _ _ ih =>
      refine ih ?_
      by_cases habs : target.isAbsolute
      · rw [if_pos habs]
        exact .inr (.inr rfl)
      · rwa [if_neg habs]

/-! ## The first step -/

theorem Finds.of_empty (h : Finds t links k ("" :: todo) key) : Finds t links k todo key := by
  generalize hsegment : "" = segment at h
  cases h with
  | here hname => exact absurd hsegment.symm hname.1
  | empty h => exact h
  | stay => exact absurd hsegment (by decide)
  | up => exact absurd hsegment (by decide)
  | down hname => exact absurd hsegment.symm hname.1
  | follow hname => exact absurd hsegment.symm hname.1

theorem Finds.of_stay (h : Finds t links k ("." :: todo) key) : Finds t links k todo key := by
  generalize hsegment : "." = segment at h
  cases h with
  | here hname => exact absurd hsegment.symm hname.2.1
  | empty => exact absurd hsegment (by decide)
  | stay h => exact h
  | up => exact absurd hsegment (by decide)
  | down hname => exact absurd hsegment.symm hname.2.1
  | follow hname => exact absurd hsegment.symm hname.2.1

theorem Finds.of_up (h : Finds t links k (".." :: todo) key) :
    Finds t links (Key.above k) todo key := by
  generalize hsegment : ".." = segment at h
  cases h with
  | here hname => exact absurd hsegment.symm hname.2.2
  | empty => exact absurd hsegment (by decide)
  | stay => exact absurd hsegment (by decide)
  | up h => exact h
  | down hname => exact absurd hsegment.symm hname.2.2
  | follow hname => exact absurd hsegment.symm hname.2.2

/-- A name is the last one, or it is that of a directory or of a link. -/
theorem Finds.of_name {name : String} (hname : Path.IsName name)
    (h : Finds t links k (name :: todo) key) :
    (todo = [] ∧ key = k ++ [name] ∧ t.Writable key) ∨
      (t.get? (k ++ [name]) = some .directory ∧ Finds t links (k ++ [name]) todo key) ∨
      ∃ left target, t.get? (k ++ [name]) = some (.link target) ∧
        Finds t left (if target.isAbsolute then Key.root else k) (target.segments ++ todo) key := by
  cases h with
  | here _ _ hw => exact .inl ⟨rfl, rfl, hw⟩
  | empty => exact absurd rfl hname.1
  | stay => exact absurd rfl hname.2.1
  | up => exact absurd rfl hname.2.2
  | down _ _ hdir h => exact .inr (.inl ⟨hdir, h⟩)
  | follow _ _ hlink h => exact .inr (.inr ⟨_, _, hlink, h⟩)

/-- Nothing lies behind a file. -/
theorem Finds.eq_of_append {key' : Key} (h : Finds t links k todo key)
    (h' : Finds t links' k (todo ++ more) key') : key' = key := by
  induction h generalizing links' with
  | here hname _ hw =>
      rcases h'.of_name hname with ⟨_, rfl, _⟩ | ⟨hdir, _⟩ | ⟨_, target, hlink, _⟩
      · rfl
      · exact absurd hdir hw.ne_directory
      · exact absurd hlink (hw.ne_link target)
  | empty _ ih => exact ih h'.of_empty
  | stay _ ih => exact ih h'.of_stay
  | up _ ih => exact ih h'.of_up
  | down hname _ hdir _ ih =>
      rcases h'.of_name hname with ⟨_, rfl, hw⟩ | ⟨_, h'⟩ | ⟨_, _, hlink, _⟩
      · exact absurd hdir hw.ne_directory
      · exact ih h'
      · rw [hdir] at hlink
        cases hlink
  | @follow _ _ _ target _ _ hname _ hlink _ ih =>
      rcases h'.of_name hname with ⟨_, rfl, hw⟩ | ⟨hdir, _⟩ | ⟨left, _, hlink', h'⟩
      · exact absurd hlink (hw.ne_link target)
      · rw [hlink] at hdir
        cases hdir
      · rw [hlink] at hlink'
        cases hlink'
        refine @ih left ?_
        rw [List.append_assoc]
        exact h'

/-! ## What is read -/

/-- The file or the free place that a path leads to. -/
def FindsAt (t : FileTree) (p : Path) (key : Key) : Prop :=
  p.fault? = none ∧ Finds t linkBudget p.home p.segments key

theorem findsAt_of_resolve {aim : Aim} {place : Place} (h : t.resolve aim p = .ok place)
    (hplace : (∃ bytes, place = .taken key (.file bytes)) ∨
      aim = .creation ∧ ∃ slash, place = .free key slash) :
    t.FindsAt p key ∧ ∀ bytes, place = .taken key (.file bytes) →
      t.get? key = some (.file bytes) := by
  obtain ⟨hfault, hwalk⟩ := walkFrom_of_resolve_eq_ok h
  exact (finds_of_walk hwalk hplace).imp_left fun hfound => ⟨hfault, hfound⟩

/-- What is read under a path is the file that is found there. -/
theorem read_eq_ok_iff_finds :
    t.read p = .ok bytes ↔ ∃ key, t.FindsAt p key ∧ t.get? key = some (.file bytes) := by
  constructor
  · intro h
    obtain ⟨key, hok⟩ := resolve_of_read_eq_ok h
    obtain ⟨hfound, hget⟩ := findsAt_of_resolve hok (.inl ⟨bytes, rfl⟩)
    exact ⟨key, hfound, hget bytes rfl⟩
  · rintro ⟨key, ⟨hfault, hfound⟩, hget⟩
    rw [read, resolve_of_no_fault hfault, hfound.walkFrom_eq hget]
    rfl

/-- A file is written where one is found or may be made. -/
theorem findsAt_of_write (h : t.write p bytes = .ok t') :
    ∃ key, t.FindsAt p key ∧ t' = t.insert key (.file bytes) := by
  obtain ⟨key, hins, ⟨old, hok⟩ | ⟨slash, hok⟩⟩ := resolve_of_write_eq_ok h
  · exact ⟨key, (findsAt_of_resolve hok (.inl ⟨old, rfl⟩)).1, hins⟩
  · exact ⟨key, (findsAt_of_resolve hok (.inr ⟨rfl, slash, rfl⟩)).1, hins⟩

/-! ## After a write

The walk is the same before and after, since the directories and the links are; only what stands at
its end may differ. -/

theorem FindsAt.congr (h : t.FindsAt p key) (hw : t'.Writable key) (hways : KeepsWays t t') :
    t'.FindsAt p key :=
  ⟨h.1, h.2.congr hw hways⟩

theorem SameWays.findsAt (h : SameWays t t') (hfound : t.FindsAt p key) : t'.FindsAt p key := by
  have hw := hfound.2.writable
  refine hfound.congr (writable_of_not ?_ fun target => ?_) h.keepsWays
  · exact mt (h.back.directory key) hw.ne_directory
  · exact mt (h.back.link key target) (hw.ne_link target)

theorem SameWays.findsAt_iff (h : SameWays t t') : t'.FindsAt p key ↔ t.FindsAt p key :=
  ⟨h.symm.findsAt, h.findsAt⟩

/-- A path that points to a file, or to nothing, finds the place. -/
theorem PointsTo.findsAt {dir : List String} {name : String} (h : t.PointsTo p dir name key)
    (hp : p.segments = dir ++ [name]) (hname : Path.IsName name) (hw : t.Writable key) :
    t.FindsAt p key := by
  obtain ⟨hfault, hsize, left, k', hl, rfl⟩ := h
  refine ⟨hfault, ?_⟩
  rw [hp]
  exact Leads.finds hl (.here hname hsize hw)

theorem FindsAt.parent (h : t.FindsAt p key) (ht : t.WellFormed) :
    ∃ k name, key = k ++ [name] ∧ t.IsDirectory k ∧ t.Writable key :=
  h.2.parent ht (isDirectory_home t p)

/-- A write changes what is read from one file only. -/
theorem read_of_write (h : t.write p bytes = .ok t') (ht : t.WellFormed) :
    t'.WellFormed ∧ ∀ p' found, t'.read p' = .ok found → found = bytes ∨ t.read p' = .ok found := by
  obtain ⟨key, hfound, rfl⟩ := findsAt_of_write h
  obtain ⟨k, name, rfl, hdir, hw⟩ := hfound.parent ht
  have hne : k ++ [name] ≠ [] := by simp
  have hsame := hw.sameWays_insert hne bytes
  refine ⟨ht.insert hdir hw.ne_directory, fun p' found hread => ?_⟩
  obtain ⟨key', hfound', hget⟩ := read_eq_ok_iff_finds.mp hread
  by_cases heq : key' = k ++ [name]
  · rw [heq, get?_insert_self hne] at hget
    exact .inl (Node.file.inj (Option.some.inj hget)).symm
  · rw [get?_insert_of_ne heq] at hget
    refine .inr (read_eq_ok_iff_finds.mpr ⟨key', ?_, hget⟩)
    exact hfound'.congr (writable_of_file hget) hsame.back

/-- What is written is there. -/
theorem findsAt_written (h : t.write p bytes = .ok t') (ht : t.WellFormed) :
    ∃ key, t'.FindsAt p key ∧ t'.get? key = some (.file bytes) := by
  obtain ⟨key, hfound, rfl⟩ := findsAt_of_write h
  obtain ⟨k, name, rfl, _, hw⟩ := hfound.parent ht
  have hne : k ++ [name] ≠ [] := by simp
  have hsame := hw.sameWays_insert hne bytes
  have hget := get?_insert_self (t := t) (n := .file bytes) hne
  exact ⟨k ++ [name], hfound.congr (writable_of_file hget) hsame.keepsWays, hget⟩

/-- Taking something away, no other file is read than before. -/
theorem read_of_erase {found : ByteArray} (hk : key ≠ []) (h : (t.erase key).read p = .ok found) :
    t.read p = .ok found := by
  obtain ⟨key', hfound, hget⟩ := read_eq_ok_iff_finds.mp h
  have hne : key' ≠ key := by
    rintro rfl
    rw [get?_erase_self hk] at hget
    cases hget
  rw [get?_erase_of_ne hne] at hget
  exact read_eq_ok_iff_finds.mpr ⟨key', hfound.congr (writable_of_file hget) (.of_erase hk), hget⟩

/-! ## After a move

What is moved is the file that was written, or the link behind which it was written. A walk that
comes to the link at its new place goes on as it did from the old one, and so it ends at that
file. -/

theorem read_of_placed_file {found : ByteArray}
    (hback : ∀ key' n, t'.get? key' = some n →
      t.get? key' = some n ∨ key' = key ∧ n = .file bytes)
    (h : t'.read p = .ok found) : found = bytes ∨ t.read p = .ok found := by
  obtain ⟨key', hfound, hget⟩ := read_eq_ok_iff_finds.mp h
  have hways : KeepsWays t' t :=
    ⟨fun x hx => (hback _ _ hx).resolve_right (by simp),
      fun x target hx => (hback _ _ hx).resolve_right (by simp)⟩
  rcases hback _ _ hget with hold | ⟨_, hnew⟩
  · have hfound' := hfound.congr (writable_of_file hold) hways
    exact .inr (read_eq_ok_iff_finds.mpr ⟨key', hfound', hold⟩)
  · exact .inl (Node.file.inj hnew)

theorem Finds.of_placed_link {name : String} {here there : Key} {target : Path}
    {found : ByteArray}
    (hback : ∀ key' n, t'.get? key' = some n →
      t.get? key' = some n ∨ key' = here ++ [name] ∧ n = .link target)
    (hold : Finds t links' (if target.isAbsolute then Key.root else here) target.segments there)
    (h : Finds t' links k todo key) (hget : t'.get? key = some (.file found)) :
    key = there ∨ Finds t links k todo key := by
  induction h with
  | here hname hsize _ =>
      rcases hback _ _ hget with hget | ⟨_, hnew⟩
      · exact .inr (.here hname hsize (writable_of_file hget))
      · cases hnew
  | empty _ ih => exact (ih hget).imp_right .empty
  | stay _ ih => exact (ih hget).imp_right .stay
  | up _ ih => exact (ih hget).imp_right .up
  | down hname hsize hdir _ ih =>
      rcases hback _ _ hdir with hdir | ⟨_, hnew⟩
      · exact (ih hget).imp_right (.down hname hsize hdir)
      · cases hnew
  | follow hname hsize hlink _ ih =>
      rcases hback _ _ hlink with hlink | ⟨hkey, hnew⟩
      · exact (ih hget).imp_right (.follow hname hsize hlink)
      · -- at its new place the link leads to the file, behind which nothing lies
        obtain ⟨rfl, _⟩ := List.append_inj' hkey rfl
        cases hnew
        exact .inl ((ih hget).elim id hold.eq_of_append)

theorem read_of_placed_link {name : String} {here there : Key} {target : Path}
    {found : ByteArray}
    (hback : ∀ key' n, t'.get? key' = some n →
      t.get? key' = some n ∨ key' = here ++ [name] ∧ n = .link target)
    (hold : Finds t links' (if target.isAbsolute then Key.root else here) target.segments there)
    (hfile : t.get? there = some (.file bytes)) (h : t'.read p = .ok found) :
    found = bytes ∨ t.read p = .ok found := by
  obtain ⟨key', ⟨hfault, hfound⟩, hget⟩ := read_eq_ok_iff_finds.mp h
  have hfile' : t.get? key' = some (.file found) :=
    (hback _ _ hget).resolve_right (by simp)
  rcases Finds.of_placed_link hback hold hfound hget with rfl | hfound
  · rw [hfile] at hfile'
    exact .inl (Node.file.inj (Option.some.inj hfile')).symm
  · exact .inr (read_eq_ok_iff_finds.mpr ⟨key', ⟨hfault, hfound⟩, hfile'⟩)

/-- Where a path leads to a file, the file itself or a link to it stands under its last name. -/
theorem PointsTo.node_cases {dir : List String} {name : String} {n : Node} {there : Key}
    (h : t.PointsTo p dir name key) (hp : p.segments = dir ++ [name]) (hname : Path.IsName name)
    (hget : t.get? key = some n) (hfound : t.FindsAt p there)
    (hfile : t.get? there = some (.file bytes)) :
    n = .file bytes ∨ ∃ here left target, key = here ++ [name] ∧ n = .link target ∧
      Finds t left (if target.isAbsolute then Key.root else here) target.segments there := by
  obtain ⟨_, _, links, k, hl, rfl⟩ := h
  have hwalk := hfound.2.walkFrom_eq hfile
  rw [hp, hl.walkFrom_append (all_name hname)] at hwalk
  have hlast := (finds_of_walk hwalk (.inl ⟨bytes, rfl⟩)).1
  rcases hlast.of_name hname with ⟨_, rfl, _⟩ | ⟨_, hnil⟩ | ⟨left, target, hlink, hrest⟩
  · rw [hget] at hfile
    exact .inl (Option.some.inj hfile)
  · cases hnil
  · rw [hget] at hlink
    rw [List.append_nil] at hrest
    exact .inr ⟨k, left, target, rfl, Option.some.inj hlink, hrest⟩

/-- **A file that is written and moved** is all that is read besides what was there before. -/
theorem read_of_rename {staged : FileTree} {target : Path} {dir : List String}
    {name name' : String} (hp : p.segments = dir ++ [name]) (hname : Path.IsName name)
    (hroot : name ≠ "/") (hp' : target.segments = dir ++ [name']) (hname' : Path.IsName name')
    (hhome : p.home = target.home) (ht : t.WellFormed)
    (h : t.write p bytes = .ok staged) (h' : staged.rename p target = .ok t') :
    t'.WellFormed ∧ ∀ p' found, t'.read p' = .ok found → found = bytes ∨ t.read p' = .ok found := by
  obtain ⟨hstaged, hwritten⟩ := read_of_write h ht
  obtain ⟨key, key', n, hkey, hget, hkey', hnot', ⟨heq, rfl⟩ | ⟨hdiff, rfl⟩⟩ :=
    of_rename_eq_ok hp hname hp' hname' h'
  · exact ⟨hstaged, hwritten⟩
  obtain ⟨there, hfound, hfile⟩ := findsAt_written h ht
  have hnode := hkey.node_cases hp hname hget hfound hfile
  have hnot : staged.get? key ≠ some .directory := by
    rw [hget]
    rcases hnode with rfl | ⟨_, _, _, _, rfl, _⟩ <;> simp
  have hord := hkey.ordinary hname hroot
  obtain ⟨k, hdir, hk⟩ := hkey'.parent hstaged
  have hne' : key' ≠ [] := by simp [hk]
  have hback := fun x m => get?_moved (t := staged) (n := n) (x := x) (m := m) hord.ne_nil hne'
  constructor
  · rw [hk] at hnot' hdiff ⊢
    refine (hstaged.erase hnot hord).insert (hdir.erase hnot) ?_
    rwa [get?_erase_of_ne hdiff]
  · intro p' found hread
    rcases hnode with rfl | ⟨here, left, link, rfl, rfl, hlink⟩
    · -- the file itself was moved
      exact (read_of_placed_file hback hread).elim .inl (hwritten p' found)
    · -- a link was moved, and from the same directory it leads to the same file
      obtain ⟨k', hsame, rfl⟩ := hkey.sibling hkey' hhome
      obtain ⟨rfl, _⟩ := List.append_inj' hsame rfl
      exact (read_of_placed_link hback hlink hfile hread).elim .inl (hwritten p' found)

end SourceTutor.FileTree
