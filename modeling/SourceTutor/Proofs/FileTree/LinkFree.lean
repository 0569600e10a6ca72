import SourceTutor.Proofs.FileTree.Finds
import SourceTutor.Proofs.FileTree.Making

/-!
# Trees without links

In a tree without links a path names one key, whatever else is in the tree (`Path.key`), and an
operation that succeeds works on the keys that its paths name. So what one operation writes can be
told apart from what another one reads by their paths alone: `DisturbsOnly` says that a change
leaves the files as they are, but for those at certain keys, and `DisturbsOnly.read_eq_ok` that what
is read at any other key stays the same.
-/

set_option autoImplicit false

namespace SourceTutor

/-! ## The key that a path names -/

/-- Where a segment leads from a directory, when no link is followed. -/
def Key.step (k : Key) (segment : String) : Key :=
  if Path.isSilent segment then k else if segment = ".." then k.above else k ++ [segment]

theorem Key.step_silent (k : Key) {segment : String} (h : Path.isSilent segment = true) :
    k.step segment = k := if_pos h

theorem Key.step_name (k : Key) {name : String} (hname : Path.IsName name) :
    k.step name = k ++ [name] := by
  have hloud : ¬ Path.isSilent name = true := by
    simp [Path.isSilent, hname.1, hname.2.1]
  rw [step, if_neg hloud, if_neg hname.2.2]

theorem Key.foldl_step_silent (k : Key) {segments : List String}
    (h : segments.all Path.isSilent = true) : segments.foldl Key.step k = k := by
  induction segments with
  | nil => rfl
  | cons segment segments ih =>
      rw [List.all_cons, Bool.and_eq_true] at h
      rw [List.foldl_cons, Key.step_silent k h.1, ih h.2]

namespace Path

/-- The key that the path names in a tree without links. -/
def key (p : Path) : Key := p.segments.foldl Key.step p.home

theorem key_concat {p : Path} {dir : List String} {name : String} (hp : p.segments = dir ++ [name])
    (hname : IsName name) : p.key = dir.foldl Key.step p.home ++ [name] := by
  rw [key, hp, List.foldl_append, List.foldl_cons, List.foldl_nil, Key.step_name _ hname]

/-- Where a path starts from does not depend on its last segment. -/
theorem home_concat_congr (dir : List String) (last last' : String) :
    home ⟨dir ++ [last]⟩ = home ⟨dir ++ [last']⟩ := by
  match dir with
  | [] => simp [home, isAbsolute_singleton]
  | [first] => simp [home, isAbsolute_cons_cons]
  | first :: second :: rest => simp [home, isAbsolute_cons_cons]

/-- A path starts from where its directory starts, unless that is one empty segment, which makes no
path absolute by itself. -/
theorem home_concat {dir : List String} (hdir : dir ≠ [""]) (last : String) :
    home ⟨dir ++ [last]⟩ = home ⟨dir⟩ := by
  match dir with
  | [] => simp [home, isAbsolute]
  | [first] =>
      have hfirst : first ≠ "" := by
        rintro rfl
        exact hdir rfl
      simp [home, isAbsolute_singleton, isAbsolute_cons_cons, hfirst]
  | first :: second :: rest => simp [home, isAbsolute_cons_cons]

/-- A segment goes behind those of a path, but for an empty one at the end, which names nothing and
makes room for it. -/
theorem segments_child (p : Path) {text : String} (htext : '/' ∉ text.toList) :
    ∃ front back, p.segments = front ++ back ∧ back.all isSilent = true ∧
      (p.child text).segments = front ++ [text] ∧ (p.child text).home = p.home := by
  obtain ⟨segments⟩ := p
  rw [child, ofString_of_not_mem htext, join, isAbsolute_singleton, Bool.false_or]
  by_cases hempty : segments = [""]
  · subst hempty
    have hjoin : isEmpty ⟨[""]⟩ = true := rfl
    rw [if_pos hjoin]
    exact ⟨[], [""], rfl, rfl, rfl, home_concat_congr [] text ""⟩
  rw [if_neg (by simpa [isEmpty] using hempty)]
  by_cases hend : segments.getLast? = some ""
  · obtain ⟨dir, rfl⟩ := List.getLast?_eq_some_iff.mp hend
    rw [if_pos (by simp), List.dropLast_concat]
    exact ⟨dir, [""], rfl, rfl, rfl, home_concat_congr dir text ""⟩
  · rw [if_neg (by simpa using hend)]
    exact ⟨segments, [], (List.append_nil _).symm, rfl, rfl, home_concat hempty text⟩

/-- A segment leads from the key of a path to the one below. -/
theorem key_child_eq_step (p : Path) {text : String} (htext : '/' ∉ text.toList) :
    (p.child text).key = p.key.step text := by
  obtain ⟨front, back, hp, hback, hchild, hhome⟩ := p.segments_child htext
  rw [key, key, hchild, hhome, hp, List.foldl_append, List.foldl_append,
    Key.foldl_step_silent _ hback]
  rfl

/-- The key below that of a path, when the text names something in a directory. -/
theorem key_child (p : Path) {name : String} (hname : IsName name) (hslash : '/' ∉ name.toList) :
    (p.child name).key = p.key ++ [name] := by
  rw [p.key_child_eq_step hslash, Key.step_name _ hname]

end Path

namespace FileTree

/-- The key of a place. -/
def Place.key : Place → Key
  | .taken key _ => key
  | .free key _ => key

/-- What a place says of its key is so: a file or a link that is said to be there is there, and
nothing is where nothing is said to be. -/
def Place.Holds (t : FileTree) : Place → Prop
  | .taken key n => n = .directory ∨ t.get? key = some n
  | .free key _ => t.get? key = none

/-- There is no link in the tree. -/
def LinkFree (t : FileTree) : Prop := ∀ key target, t.get? key ≠ some (.link target)

variable {t t' t'' : FileTree} {p : Path} {k key : Key} {links : Nat} {todo : List String}
  {bytes : ByteArray}

theorem linkFree_of_nodes (h : ∀ entry ∈ t.nodes, ∀ target, entry.2 ≠ .link target) :
    t.LinkFree := by
  intro key target hget
  rw [get?] at hget
  split at hget
  · cases hget
  · exact h _ (mem_of_lookup hget) target rfl

/-! ## What a path leads to -/

/-- Without links a walk ends at the key that the segments name. -/
theorem LinkFree.of_walkFrom (ht : t.LinkFree) {aim : Aim} {place : Place}
    (h : t.walkFrom aim links k todo = .ok place) :
    place.key = todo.foldl Key.step k ∧ place.Holds t := by
  induction todo generalizing k with
  | nil =>
      rw [walkFrom.eq_1] at h
      cases h
      exact ⟨rfl, .inl rfl⟩
  | cons segment rest ih =>
      rw [List.foldl_cons]
      rcases Path.segment_cases segment with rfl | rfl | rfl | hname
      · rw [walkFrom.eq_2] at h
        exact ih h
      · rw [walkFrom.eq_3] at h
        exact ih h
      · rw [walkFrom.eq_4] at h
        exact ih h
      rw [Key.step_name k hname]
      rcases (walkFrom_name_cases hname h).2 with
        ⟨hget, hslashes, _, rfl⟩ | ⟨bytes, hget, rfl, rfl⟩ | ⟨_, hon⟩ | ⟨target, hget, _⟩
      · have hsilent : rest.all Path.isSilent = true := by
          rw [List.all_eq_true] at hslashes ⊢
          intro segment hmem
          rw [Path.isSilent, hslashes segment hmem, Bool.true_or]
        exact ⟨(Key.foldl_step_silent _ hsilent).symm, hget⟩
      · exact ⟨rfl, .inr hget⟩
      · exact ih hon
      · exact absurd hget (ht _ target)

theorem LinkFree.of_resolve (ht : t.LinkFree) {aim : Aim} {place : Place}
    (h : t.resolve aim p = .ok place) : place.key = p.key ∧ place.Holds t :=
  ht.of_walkFrom (walkFrom_of_resolve_eq_ok h).2

/-- Without links it is all the same whether a link under the last name is to be followed. -/
theorem LinkFree.walkFrom_entry (ht : t.LinkFree) (links : Nat) (k : Key) (todo : List String) :
    t.walkFrom .entry links k todo = t.walkFrom .target links k todo := by
  induction todo generalizing k with
  | nil => rw [walkFrom.eq_1, walkFrom.eq_1]
  | cons segment rest ih =>
      rcases Path.segment_cases segment with rfl | rfl | rfl | hname
      · rw [walkFrom.eq_2, walkFrom.eq_2, ih]
      · rw [walkFrom.eq_3, walkFrom.eq_3, ih]
      · rw [walkFrom.eq_4, walkFrom.eq_4, ih]
      rw [walkFrom.eq_5 _ _ _ _ _ _ hname.1 hname.2.1 hname.2.2,
        walkFrom.eq_5 _ _ _ _ _ _ hname.1 hname.2.1 hname.2.2]
      cases hget : t.get? (k ++ [segment]) with
      | none => rfl
      | some n =>
          cases n with
          | file bytes => rfl
          | directory => simp only [reduceCtorEq, decide_false, Bool.false_and, ih]
          | link target => exact absurd hget (ht _ target)

theorem LinkFree.resolve_entry (ht : t.LinkFree) (p : Path) :
    t.resolve .entry p = t.resolve .target p := by
  simp only [resolve, ht.walkFrom_entry]

/-- What is read is the file at the key that the path names. -/
theorem LinkFree.of_read (ht : t.LinkFree) (h : t.read p = .ok bytes) :
    t.FindsAt p p.key ∧ t.get? p.key = some (.file bytes) := by
  obtain ⟨key, hok⟩ := resolve_of_read_eq_ok h
  obtain ⟨hfound, hget⟩ := findsAt_of_resolve hok (.inl ⟨bytes, rfl⟩)
  obtain rfl : key = p.key := (ht.of_resolve hok).1
  exact ⟨hfound, hget bytes rfl⟩

/-! ## Changes and what they disturb -/

/-- The second tree has no links; the directories of the first one are still there, and so are its
files, but for those at the keys that may be touched. -/
structure DisturbsOnly (touched : Key → Prop) (t t' : FileTree) : Prop where
  linkFree : t'.LinkFree
  directory : ∀ key, t.get? key = some .directory → t'.get? key = some .directory
  file : ∀ key bytes, ¬ touched key → t.get? key = some (.file bytes) →
    t'.get? key = some (.file bytes)

namespace DisturbsOnly

variable {touched touched' : Key → Prop}

theorem refl (ht : t.LinkFree) : DisturbsOnly touched t t :=
  ⟨ht, fun _ h => h, fun _ _ _ h => h⟩

theorem trans (h : DisturbsOnly touched t t') (h' : DisturbsOnly touched t' t'') :
    DisturbsOnly touched t t'' :=
  ⟨h'.linkFree, fun key hget => h'.directory key (h.directory key hget),
    fun key bytes hkey hget => h'.file key bytes hkey (h.file key bytes hkey hget)⟩

theorem mono (h : DisturbsOnly touched t t') (hsub : ∀ key, touched key → touched' key) :
    DisturbsOnly touched' t t' :=
  ⟨h.linkFree, h.directory, fun key bytes hkey => h.file key bytes (mt (hsub key) hkey)⟩

/-- **What is read elsewhere stays the same.** -/
theorem read_eq_ok (h : DisturbsOnly touched t t') (ht : t.LinkFree) (hp : ¬ touched p.key)
    (hread : t.read p = .ok bytes) : t'.read p = .ok bytes := by
  obtain ⟨hfound, hget⟩ := ht.of_read hread
  have hget' := h.file p.key bytes hp hget
  have hways : KeepsWays t t' := ⟨h.directory, fun key target hlink => absurd hlink (ht key target)⟩
  exact read_eq_ok_iff_finds.mpr ⟨_, hfound.congr (writable_of_file hget') hways, hget'⟩

end DisturbsOnly

/-! ## One operation -/

theorem Writable.ne_nil (h : t.Writable key) : key ≠ [] := by
  rintro rfl
  exact h.ne_directory rfl

/-- A file is put in place of a file or of nothing. -/
theorem LinkFree.insert_file (ht : t.LinkFree) (hw : t.Writable key) (bytes : ByteArray) :
    DisturbsOnly (· = key) t (t.insert key (.file bytes)) := by
  have hsame := hw.sameWays_insert hw.ne_nil bytes
  refine ⟨fun other target hlink => ht _ _ (hsame.back.link other target hlink),
    hsame.keepsWays.directory, fun other found hne hget => ?_⟩
  rwa [get?_insert_of_ne hne]

/-- A file is taken away. -/
theorem LinkFree.erase_file (ht : t.LinkFree) (hw : t.Writable key) :
    DisturbsOnly (· = key) t (t.erase key) := by
  have hsame := hw.sameWays_erase hw.ne_nil
  refine ⟨fun other target hlink => ht _ _ (hsame.back.link other target hlink),
    hsame.keepsWays.directory, fun other found hne hget => ?_⟩
  rwa [get?_erase_of_ne hne]

/-- What is written stands at the key that the path names. -/
theorem LinkFree.of_write (ht : t.LinkFree) (h : t.write p bytes = .ok t') :
    t.Writable p.key ∧ t' = t.insert p.key (.file bytes) := by
  obtain ⟨key, rfl, ⟨old, hok⟩ | ⟨slash, hok⟩⟩ := resolve_of_write_eq_ok h
  · obtain ⟨hkey, hdir | hget⟩ := ht.of_resolve hok
    · cases hdir
    · rw [← hkey]
      exact ⟨writable_of_file hget, rfl⟩
  · obtain ⟨hkey, hget⟩ := ht.of_resolve hok
    rw [← hkey]
    exact ⟨writable_of_none hget, rfl⟩

theorem LinkFree.write (ht : t.LinkFree) (h : t.write p bytes = .ok t') :
    DisturbsOnly (· = p.key) t t' := by
  obtain ⟨hw, rfl⟩ := ht.of_write h
  exact ht.insert_file hw bytes

/-- What is written can be read. -/
theorem read_written (h : t.write p bytes = .ok t') : t'.read p = .ok bytes := by
  obtain ⟨key, hfound, rfl⟩ := findsAt_of_write h
  have hw := hfound.2.writable
  have hget : (t.insert key (.file bytes)).get? key = some (.file bytes) :=
    get?_insert_self hw.ne_nil
  exact read_eq_ok_iff_finds.mpr ⟨key,
    hfound.congr (writable_of_file hget) (hw.sameWays_insert hw.ne_nil bytes).keepsWays, hget⟩

/-- A directory is made where nothing is, and disturbs nothing. -/
theorem LinkFree.createDirectory (ht : t.LinkFree) (h : t.createDirectory p = .ok t') :
    DisturbsOnly (fun _ => False) t t' := by
  obtain ⟨key, slash, hok, rfl⟩ := resolve_of_createDirectory_eq_ok h
  have hnone : t.get? key = none := (ht.of_resolve hok).2
  have hne : key ≠ [] := (writable_of_none hnone).ne_nil
  refine ⟨fun other target hlink => ?_, (KeepsWays.of_insert_new hnone).directory,
    fun other found _ hget => ?_⟩
  · by_cases heq : other = key
    · rw [heq, get?_insert_self hne] at hlink
      cases hlink
    · rw [get?_insert_of_ne heq] at hlink
      exact ht _ _ hlink
  · have hother : other ≠ key := by
      rintro rfl
      rw [hnone] at hget
      cases hget
    rwa [get?_insert_of_ne hother]

theorem LinkFree.madeAbove (ht : t.LinkFree) (h : MadeAbove p t t') :
    DisturbsOnly (fun _ => False) t t' := by
  induction h with
  | refl => exact .refl ht
  | step _ _ hmade ih => exact ih.trans (ih.linkFree.createDirectory hmade)

/-- Making the directory of a path disturbs nothing, also when it fails half-way. -/
theorem LinkFree.createDirectories (ht : t.LinkFree) {dir : Path} (hdir : p.parent? = some dir) :
    DisturbsOnly (fun _ => False) t (t.createDirectories dir).1 :=
  ht.madeAbove (createUpward_madeAbove _ t dir (Path.above_of_parent? hdir))

/-- Moving a file disturbs the place where it was and the place where it comes to be. -/
theorem LinkFree.rename (ht : t.LinkFree) {target : Path} (hread : t.read p = .ok bytes)
    (h : t.rename p target = .ok t') :
    DisturbsOnly (fun key => key = p.key ∨ key = target.key) t t' := by
  obtain ⟨here, n, there, hok, hmoved⟩ := resolve_of_rename_eq_ok h
  obtain ⟨key, hfile⟩ := resolve_of_read_eq_ok hread
  -- the file is what is found, be it looked for as an entry
  rw [ht.resolve_entry, hfile] at hok
  cases hok
  obtain ⟨hkey, hdir | hget⟩ := ht.of_resolve hfile
  · cases hdir
  have hw := writable_of_file hget
  have hmove : ∀ {there : Key}, there = target.key → t.Writable there → there ≠ here →
      DisturbsOnly (fun key => key = p.key ∨ key = target.key) t
        ((t.erase here).insert there (.file bytes)) := by
    intro there hthere hfree hne
    have herased := ht.erase_file hw
    have hfree' : (t.erase here).Writable there := by
      rw [Writable, get?_erase_of_ne hne]
      exact hfree
    exact (herased.mono fun _ h => .inl (h.trans hkey)).trans
      ((herased.linkFree.insert_file hfree' bytes).mono fun _ h => .inr (h.trans hthere))
  rcases hmoved with ⟨hok', rfl⟩ | ⟨n', hok', hkind, ⟨_, rfl⟩ | ⟨hne, rfl⟩⟩
  · obtain ⟨hthere, hnone⟩ := ht.of_resolve hok'
    refine hmove hthere (writable_of_none hnone) ?_
    rintro rfl
    rw [show t.get? _ = none from hnone] at hget
    cases hget
  · exact .refl ht
  · obtain ⟨hthere, hdir | hget'⟩ := ht.of_resolve hok'
    · exact absurd hdir hkind
    · refine hmove hthere ?_ hne
      exact writable_of_not (by rw [hget']; exact fun h => hkind (Option.some.inj h)) (ht _)

end FileTree

end SourceTutor
