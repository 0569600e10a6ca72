import SourceTutor.Proofs.FileTree.LinkFree

/-!
# What changes in a tree

`ChangesOnly` says of every key what becomes of it: it keeps what stands there, or a directory is
made where nothing was, or a file is written where no directory was, and each of the two at certain
keys only. The directories that are made for the directory of a file are those that the path goes
through (`Path.Through`), also when the making fails half-way (`LinkFree.changes_madeAbove`).
-/

set_option autoImplicit false

namespace SourceTutor

/-- On its way the path names this key: some of its segments, from the first one on, lead there. -/
def Path.Through (p : Path) (key : Key) : Prop :=
  ∃ front back, p.segments = front ++ back ∧ key = front.foldl Key.step p.home

namespace FileTree

variable {made written made' written' : Key → Prop} {t t' t'' : FileTree} {p a : Path} {key : Key}
  {bytes : ByteArray}

/-- What may become of a key. -/
inductive Becomes (made written : Prop) : Option Node → Option Node → Prop
  | same (n : Option Node) : Becomes made written n n
  | made : made → Becomes made written none (some .directory)
  | written (n : Option Node) (bytes : ByteArray) : written → n ≠ some .directory →
      Becomes made written n (some (.file bytes))

theorem Becomes.trans {made written : Prop} {n n' n'' : Option Node} (h : Becomes made written n n')
    (h' : Becomes made written n' n'') : Becomes made written n n'' := by
  cases h' with
  | same => exact h
  | made hmade =>
      cases h with
      | same => exact .made hmade
  | written _ bytes hwritten hne =>
      cases h with
      | same => exact .written n bytes hwritten hne
      | made => exact absurd rfl hne
      | written _ _ _ hne' => exact .written n bytes hwritten hne'

theorem Becomes.mono {made written made' written' : Prop} {n n' : Option Node}
    (h : Becomes made written n n') (hmade : made → made') (hwritten : written → written') :
    Becomes made' written' n n' := by
  cases h with
  | same => exact .same n
  | made h => exact .made (hmade h)
  | written _ bytes h hne => exact .written n bytes (hwritten h) hne

/-- From one tree to another directories are made at the first keys only and files written at the
second ones only; at every other key stands what stood there. -/
def ChangesOnly (made written : Key → Prop) (t t' : FileTree) : Prop :=
  ∀ key, Becomes (made key) (written key) (t.get? key) (t'.get? key)

namespace ChangesOnly

theorem refl (t : FileTree) : ChangesOnly made written t t := fun key => .same (t.get? key)

theorem trans (h : ChangesOnly made written t t') (h' : ChangesOnly made written t' t'') :
    ChangesOnly made written t t'' := fun key => (h key).trans (h' key)

theorem mono (h : ChangesOnly made written t t') (hmade : ∀ key, made key → made' key)
    (hwritten : ∀ key, written key → written' key) : ChangesOnly made' written' t t' :=
  fun key => (h key).mono (hmade key) (hwritten key)

/-- A directory is made where nothing is. -/
theorem insert_directory (hnone : t.get? key = none) (hkey : made key) :
    ChangesOnly made written t (t.insert key .directory) := by
  intro other
  by_cases heq : other = key
  · have hne : key ≠ [] := (writable_of_none hnone).ne_nil
    rw [heq, hnone, get?_insert_self hne]
    exact .made hkey
  · rw [get?_insert_of_ne heq]
    exact .same _

/-- A file is written where no directory is. -/
theorem insert_file (hw : t.Writable key) (hkey : written key) (bytes : ByteArray) :
    ChangesOnly made written t (t.insert key (.file bytes)) := by
  intro other
  by_cases heq : other = key
  · rw [heq, get?_insert_self hw.ne_nil]
    exact .written _ bytes hkey hw.ne_directory
  · rw [get?_insert_of_ne heq]
    exact .same _

/-- **The files elsewhere** are those that were there. -/
theorem file_iff (h : ChangesOnly made written t t') (hkey : ¬ written key) :
    t'.get? key = some (.file bytes) ↔ t.get? key = some (.file bytes) := by
  generalize hn : t.get? key = n
  generalize hn' : t'.get? key = n'
  have hbecomes := h key
  rw [hn, hn'] at hbecomes
  cases hbecomes with
  | same => rfl
  | made =>
      constructor
      · intro hfile
        cases hfile
      · intro hfile
        cases hfile
  | written _ _ hwritten => exact absurd hwritten hkey

theorem directory (h : ChangesOnly made written t t') (hdir : t.get? key = some .directory) :
    t'.get? key = some .directory := by
  have hbecomes := h key
  rw [hdir] at hbecomes
  generalize t'.get? key = n at hbecomes
  cases hbecomes with
  | same => rfl
  | written _ _ _ hne => exact absurd rfl hne

theorem linkFree (h : ChangesOnly made written t t') (ht : t.LinkFree) : t'.LinkFree := by
  intro key target hlink
  have hbecomes := h key
  rw [hlink] at hbecomes
  generalize hn : t.get? key = n at hbecomes
  cases hbecomes with
  | same => exact ht key target hn

/-- What is written is all that is disturbed. -/
theorem disturbsOnly (h : ChangesOnly made written t t') (ht : t.LinkFree) :
    DisturbsOnly written t t' where
  linkFree := h.linkFree ht
  directory _ := h.directory
  file _ _ hkey hfile := (h.file_iff hkey).mpr hfile

end ChangesOnly

/-! ## Making directories -/

/-- A directory that is made above a path one step below another is one that the other path goes
through. -/
theorem LinkFree.changes_createDirectory (ht : t.LinkFree) {text : String}
    (htext : '/' ∉ text.toList) (ha : Path.Above a (p.child text))
    (h : t.createDirectory a = .ok t') : ChangesOnly p.Through written t t' := by
  rcases ha with hsilent | ⟨dir, last, more, hlast, ha, hchild, segment, hsegment, -⟩
  · exact absurd h (createDirectory_steps (Path.all_isStep hsilent))
  obtain ⟨front, back, hp, -, hsegments, hhome⟩ := p.segments_child htext
  -- the last segment is the one below, so that the other path is what stands before it
  obtain ⟨between, hmore⟩ : ∃ between, more = between ++ [text] := by
    obtain ⟨between, final, rfl⟩ : ∃ between final, more = between ++ [final] :=
      ⟨_, _, (List.dropLast_concat_getLast (List.ne_nil_of_mem hsegment)).symm⟩
    refine ⟨between, ?_⟩
    have hends := hchild.symm.trans hsegments
    rw [← List.cons_append, ← List.append_assoc] at hends
    rw [(List.append_singleton_inj.mp hends).2]
  have hfront : front = dir ++ last :: between := by
    rw [hsegments, hmore, ← List.cons_append, ← List.append_assoc] at hchild
    exact (List.append_singleton_inj.mp hchild).1
  have hstart : a.home = p.home := by
    rw [← hhome, Path.home, Path.home, Path.isAbsolute_congr ha hchild hlast hlast]
  obtain ⟨key, slash, hok, rfl⟩ := resolve_of_createDirectory_eq_ok h
  obtain ⟨hkey, hnone⟩ := ht.of_resolve hok
  refine .insert_directory hnone ⟨dir ++ [last], between ++ back, ?_, ?_⟩
  · rw [hp, hfront]
    simp
  · calc
      key = a.key := hkey
      _ = (dir ++ [last]).foldl Key.step p.home := by rw [Path.key, ha, hstart]

/-- **Making the directories of a path** that is one step below another makes directories that the
other path goes through, also when it fails half-way. -/
theorem LinkFree.changes_madeAbove (ht : t.LinkFree) {text : String} (htext : '/' ∉ text.toList)
    (h : MadeAbove (p.child text) t t') : ChangesOnly p.Through written t t' := by
  induction h with
  | refl => exact .refl t
  | step _ ha hmade ih => exact ih.trans ((ih.linkFree ht).changes_createDirectory htext ha hmade)

/-! ## Names of files -/

/-- What is read under a path has a name: the last segment of the path. -/
theorem isName_of_read {dir : List String} {last : String} (hp : p.segments = dir ++ [last])
    (h : t.read p = .ok bytes) : Path.IsName last := by
  have hends : ∀ step, Path.isStep step = true → last ≠ step := by
    rintro step hstep rfl
    exact EndsInStep.read_ne_ok (.inr ⟨dir, last, hp, hstep⟩) bytes h
  exact ⟨hends "" rfl, hends "." rfl, hends ".." rfl⟩

/-- The way up from a directory leads to no name in it. -/
theorem above_ne_concat (k : Key) {name : String} (hname : Path.IsName name) :
    k.above ≠ k ++ [name] := by
  intro h
  rw [Key.above] at h
  split at h
  · have hlast := (List.append_singleton_inj.mp h).2
    exact hname.2.2 hlast.symm
  · have hlength := congrArg List.length h
    rw [List.length_append, List.length_singleton] at hlength
    split at hlength
    · next hroot =>
        rw [beq_iff_eq.mp hroot] at hlength
        simp at hlength
    · rw [List.length_dropLast] at hlength
      omega

/-- Only the name itself leads to what has this name. -/
theorem eq_of_step_eq_concat {k : Key} {segment name : String} (hname : Path.IsName name)
    (h : k.step segment = k ++ [name]) : segment = name := by
  have hself : k ≠ k ++ [name] := by simp
  rcases Path.segment_cases segment with rfl | rfl | rfl | hsegment
  · exact absurd h hself
  · exact absurd h hself
  · exact absurd h (above_ne_concat k hname)
  · rw [Key.step_name k hsegment] at h
    exact (List.append_singleton_inj.mp h).2

end FileTree

end SourceTutor
