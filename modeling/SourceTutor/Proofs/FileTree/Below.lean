import SourceTutor.FileTree.Listing
import SourceTutor.Proofs.FileTree.LinkFree

/-!
# Below a directory

Names that lead down from a directory extend its key (`Path.key_descend`), and the way back up takes
the last of them off again (`Path.exists_parent`). In a tree without links the files listed below a
directory are the files whose keys extend that of the directory (`LinkFree.filesBelow_eq`,
`mem_regularBelow`), and it stays a directory as long as none is taken away.
-/

set_option autoImplicit false

namespace SourceTutor

namespace Path

/-- A name of something in a directory, which has no slashes. -/
def IsPlain (name : String) : Prop := IsName name ∧ '/' ∉ name.toList

variable {p : Path} {dir names rest : List String} {name outer : String}

/-! ## Going down -/

theorem child_eq_join (p : Path) (hname : IsPlain name) : p.child name = p.join ⟨[name]⟩ := by
  rw [child, ofString_of_not_mem hname.2]

/-- Names are joined behind what is in front of a path's last slash, if it ends with one. -/
theorem join_cons (p : Path) (hname : IsPlain name) (rest : List String) :
    p.join ⟨name :: rest⟩ =
      if p.isEmpty then ⟨name :: rest⟩
      else if p.segments.getLast? == some "" then ⟨p.segments.dropLast ++ name :: rest⟩
      else ⟨p.segments ++ name :: rest⟩ := by
  have hrelative : (⟨name :: rest⟩ : Path).isAbsolute = false := by
    cases rest with
    | nil => exact isAbsolute_singleton name
    | cons next rest => rw [isAbsolute_cons_cons, beq_eq_false_iff_ne]; exact hname.1.1
  rw [join, hrelative, Bool.false_or]

/-- What leads to a directory and down from it stands in front of all names below. -/
theorem exists_front (p : Path) {dirs : List String} (hdirs : ∀ name ∈ dirs, IsPlain name) :
    ∃ front, ∀ name rest, IsPlain name →
      (p.descend (dirs ++ name :: rest)).segments = front ++ name :: rest := by
  have hfront : ∃ front, ∀ name rest, IsPlain name →
      (p.descend (name :: rest)).segments = front ++ name :: rest := by
    refine ⟨if p.isEmpty then [] else if p.segments.getLast? == some "" then p.segments.dropLast
      else p.segments, fun name rest hname => ?_⟩
    have hdescend : p.descend (name :: rest) = p.join ⟨name :: rest⟩ := rfl
    rw [hdescend, p.join_cons hname]
    split
    · rfl
    split <;> rfl
  obtain ⟨front, hfront⟩ := hfront
  cases dirs with
  | nil => exact ⟨front, hfront⟩
  | cons first dirs =>
      refine ⟨front ++ first :: dirs, fun name rest _ => ?_⟩
      rw [List.cons_append, hfront _ _ (hdirs first List.mem_cons_self), List.append_assoc,
        List.cons_append]

/-- Names go at the end of a path. -/
theorem exists_segments_descend (p : Path) (hname : IsPlain name) (rest : List String) :
    ∃ dir, (p.descend (name :: rest)).segments = dir ++ name :: rest := by
  obtain ⟨front, hfront⟩ := p.exists_front (fun name (h : name ∈ []) => nomatch h)
  exact ⟨front, hfront name rest hname⟩

theorem exists_segments_child (p : Path) (hname : IsPlain name) :
    ∃ dir, (p.child name).segments = dir ++ [name] := by
  rw [p.child_eq_join hname]
  exact p.exists_segments_descend hname []

/-- Behind a name nothing is taken off. -/
theorem join_of_concat (hp : p.segments = dir ++ [outer]) (houter : IsPlain outer)
    (hname : IsPlain name) (rest : List String) :
    p.join ⟨name :: rest⟩ = ⟨p.segments ++ name :: rest⟩ := by
  have hempty : p.isEmpty = false := by
    rw [isEmpty, hp, beq_eq_false_iff_ne]
    intro h
    rcases List.append_eq_singleton_iff.mp h with ⟨-, h⟩ | ⟨-, h⟩
    · exact houter.1.1 (List.singleton_inj.mp h)
    · cases h
  have hend : (p.segments.getLast? == some "") = false := by
    rw [hp, List.getLast?_concat, beq_eq_false_iff_ne]
    intro h
    exact houter.1.1 (Option.some.inj h)
  rw [p.join_cons hname, hempty, hend]
  rfl

theorem segments_child_of_concat (hp : p.segments = dir ++ [outer]) (houter : IsPlain outer)
    (hname : IsPlain name) : (p.child name).segments = dir ++ [outer, name] := by
  rw [p.child_eq_join hname, join_of_concat hp houter hname, hp]
  simp

/-- Names lead down one by one. -/
theorem descend_cons (p : Path) (hname : IsPlain name) (hrest : ∀ next ∈ rest, IsPlain next) :
    p.descend (name :: rest) = (p.child name).descend rest := by
  cases rest with
  | nil =>
      rw [p.child_eq_join hname]
      rfl
  | cons next rest =>
      have hnext : IsPlain next := hrest next (List.mem_cons_self ..)
      obtain ⟨dir, hdir⟩ := p.exists_segments_child hname
      show p.join ⟨name :: next :: rest⟩ = (p.child name).join ⟨next :: rest⟩
      rw [join_of_concat hdir hname hnext, p.child_eq_join hname, p.join_cons hname,
        p.join_cons hname]
      split
      · rfl
      split
      · simp
      · simp

/-- **Names that lead down extend the key.** -/
theorem key_descend (p : Path) (hnames : ∀ name ∈ names, IsPlain name) :
    (p.descend names).key = p.key ++ names := by
  induction names generalizing p with
  | nil => exact (List.append_nil _).symm
  | cons name rest ih =>
      have hname : IsPlain name := hnames name (List.mem_cons_self ..)
      have hrest : ∀ next ∈ rest, IsPlain next := fun next h =>
        hnames next (List.mem_cons_of_mem _ h)
      rw [p.descend_cons hname hrest, ih _ hrest, p.key_child hname.1 hname.2, List.append_assoc]
      rfl

/-! ## Going up -/

/-- A path that ends with a name has no silent tail. -/
theorem parts_concat (hp : p.segments = dir ++ [name]) (hname : IsName name) :
    ∃ body, trimSilent p.split.2 = body ++ [name] ∧ p.split.1 ++ body = dir := by
  have hloud : isSilent name = false := by simp [isSilent, hname.1, hname.2.1]
  rcases p.parts with ⟨-, hsilent⟩ | ⟨body, last, tail, hbody, -, htail, hsegments⟩
  · rw [hp, List.all_append, List.all_cons, hloud] at hsilent
    simp at hsilent
  · rw [hp] at hsegments
    rcases List.eq_nil_or_concat tail with rfl | ⟨more, quiet, rfl⟩
    · obtain ⟨rfl, hlast⟩ := List.append_inj' hsegments rfl
      obtain rfl := List.singleton_inj.mp hlast
      exact ⟨body, hbody, rfl⟩
    · -- the name would be the last of the silent tail
      rw [List.concat_eq_append, ← List.cons_append, ← List.append_assoc] at hsegments
      obtain ⟨-, rfl⟩ := List.append_singleton_inj.mp hsegments
      rw [List.concat_eq_append, List.all_append, List.all_cons, hloud] at htail
      simp at htail

theorem fileName?_concat (hp : p.segments = dir ++ [name]) (hname : IsName name) :
    p.fileName? = some name := by
  obtain ⟨body, hbody, -⟩ := parts_concat hp hname
  rw [fileName?, hbody, List.getLast?_concat]
  split
  · rename_i h
    exact absurd (Option.some.inj h) hname.2.2
  · rfl

/-- The last component of a path is a name. -/
theorem isName_of_fileName? (h : p.fileName? = some name) : IsName name := by
  rcases p.parts with ⟨hbody, -⟩ | ⟨body, last, tail, hbody, hlast, -, -⟩
  · rw [fileName?, hbody] at h
    cases h
  · rw [fileName?, hbody, List.getLast?_concat] at h
    split at h
    · cases h
    · rename_i habove
      obtain rfl := Option.some.inj h
      simp only [isSilent, Bool.or_eq_false_iff, beq_eq_false_iff_ne] at hlast
      exact ⟨hlast.1, hlast.2, fun heq => habove (congrArg some heq)⟩

/-- The way up from a name: what is in front of it, without its silent tail. -/
theorem parent?_concat (hp : p.segments = dir ++ [name]) (hname : IsName name) :
    ∃ body, p.split.1 ++ body = dir ∧ p.parent? = some (assemble p.split.1 (trimSilent body)) := by
  obtain ⟨body, hbody, hdir⟩ := parts_concat hp hname
  refine ⟨body, hdir, ?_⟩
  rw [parent?]
  dsimp only
  rw [hbody]
  cases hcons : body ++ [name] with
  | nil => simp at hcons
  | cons first rest =>
      dsimp only
      rw [← hcons, List.dropLast_concat]

/-- From one name the way up leads to the name before it. -/
theorem parent?_of_two (hp : p.segments = dir ++ [outer, name]) (houter : IsName outer)
    (hname : IsName name) : p.parent? = some ⟨dir ++ [outer]⟩ := by
  have hloud : isSilent outer = false := by simp [isSilent, houter.1, houter.2.1]
  have hp' : p.segments = dir ++ [outer] ++ [name] := by simp [hp]
  obtain ⟨body, hdir, hparent⟩ := parent?_concat hp' hname
  rcases List.eq_nil_or_concat body with rfl | ⟨front, last, rfl⟩
  · -- the start of a path is silent
    have hsilent := p.all_isSilent_split
    rw [List.append_nil] at hdir
    rw [hdir, List.all_append, List.all_cons, hloud] at hsilent
    simp at hsilent
  · rw [List.concat_eq_append, ← List.append_assoc] at hdir
    obtain ⟨rfl, rfl⟩ := List.append_singleton_inj.mp hdir
    have htrim : trimSilent (front ++ [last]) = front ++ [last] := by
      simp [trimSilent, hloud]
    have hsegments : (assemble p.split.1 (front ++ [last])).segments =
        p.split.1 ++ front ++ [last] := segments_assemble hloud
    rw [hparent, List.concat_eq_append, htrim, ← hsegments]

/-- Silent segments lead nowhere. -/
theorem foldl_step_trimSilent (k : Key) (segments : List String) :
    (trimSilent segments).foldl Key.step k = segments.foldl Key.step k := by
  obtain ⟨tail, hsegments, htail⟩ := trimSilent_append segments
  conv => rhs; rw [hsegments, List.foldl_append, Key.foldl_step_silent _ htail]

theorem home_cons (first : String) (rest : List String) (hfirst : first ≠ "") :
    home ⟨first :: rest⟩ = [] := by
  cases rest with
  | nil => rw [home, isAbsolute_singleton, if_neg (by simp)]
  | cons next rest => rw [home, isAbsolute_cons_cons, if_neg (by simpa using hfirst)]

theorem home_root (next : String) (rest : List String) : home ⟨"" :: next :: rest⟩ = Key.root := by
  rw [home, isAbsolute_cons_cons]
  rfl

/-- A path that starts with a name or a dot leads where its segments lead from the top, also without
the silent ones at its end. -/
theorem key_assemble_cons {start body : List String} {first : String} {more : List String}
    (hcons : start ++ trimSilent body = first :: more) (hfirst : first ≠ "") :
    (assemble start (trimSilent body)).key = (start ++ body).foldl Key.step [] := by
  have hassemble : assemble start (trimSilent body) = ⟨first :: more⟩ := by
    rw [assemble, hcons]
    split
    · rename_i h
      cases h
    · rename_i h
      exact absurd (List.cons.inj h).1 hfirst
    · rfl
  rw [hassemble, key, home_cons first more hfirst, List.foldl_append, ← foldl_step_trimSilent _ body,
    ← List.foldl_append, hcons]

/-- The start of a path with more than one segment. -/
theorem split_fst (first next : String) (rest : List String) :
    (split ⟨first :: next :: rest⟩).1 = if isSilent first then [first] else [] := by
  rw [split]
  split
  · rename_i h
    obtain rfl : first = "" := (List.cons.inj h).1
    rfl
  · rename_i h
    obtain rfl : first = "." := (List.cons.inj h).1
    rfl
  · rename_i hroot hdot
    rw [if_neg]
    rw [isSilent, Bool.or_eq_true, beq_iff_eq, beq_iff_eq]
    rintro (rfl | rfl)
    · exact hroot next rest rfl
    · exact hdot (next :: rest) rfl

/-- A path without its last name leads to its directory. -/
theorem key_assemble (hp : p.segments = dir ++ [name]) {body : List String}
    (hbody : p.split.1 ++ body = dir) :
    (assemble p.split.1 (trimSilent body)).key = dir.foldl Key.step p.home := by
  obtain ⟨segments⟩ := p
  dsimp only at hp
  subst hp
  cases dir with
  | nil =>
      obtain ⟨hstart, rfl⟩ := List.append_eq_nil_iff.mp hbody
      have hhome : home ⟨[name]⟩ = [] := by rw [home, isAbsolute_singleton, if_neg (by simp)]
      rw [hstart, List.nil_append, hhome]
      rfl
  | cons first more =>
      obtain ⟨next, rest, hmore⟩ : ∃ next rest, more ++ [name] = next :: rest :=
        List.exists_cons_of_ne_nil (by simp)
      rw [List.cons_append, hmore, split_fst] at hbody ⊢
      by_cases hsilent : isSilent first = true
      · -- the first segment counts as it is
        rw [if_pos hsilent] at hbody ⊢
        obtain rfl : body = more := (List.cons.inj hbody).2
        by_cases hfirst : first = ""
        · subst hfirst
          rw [home_root, List.foldl_cons, Key.step_silent _ hsilent, ← foldl_step_trimSilent _ body]
          cases trimSilent body with
          | nil => rfl
          | cons second others =>
              have hassemble : assemble [""] (second :: others) = ⟨"" :: second :: others⟩ := rfl
              rw [hassemble, key, home_root, List.foldl_cons, Key.step_silent _ hsilent]
        · rw [key_assemble_cons (List.singleton_append ..) hfirst, home_cons first _ hfirst]
          rfl
      · -- there is no start, and the first segment is a name or leads upward
        have hfirst : first ≠ "" := by
          rintro rfl
          exact hsilent rfl
        rw [if_neg hsilent] at hbody ⊢
        rw [List.nil_append] at hbody
        rw [home_cons first _ hfirst, hbody]
        obtain ⟨tail, hsegments, htail⟩ := trimSilent_append (first :: more)
        cases htrim : trimSilent (first :: more) with
        | nil =>
            rw [← foldl_step_trimSilent, htrim]
            rfl
        | cons second others =>
            obtain rfl : first = second := by
              rw [htrim] at hsegments
              exact (List.cons.inj hsegments).1
            rw [← htrim, key_assemble_cons htrim hfirst]
            rfl

/-- **The way up takes the last name off.** -/
theorem exists_parent (hp : p.segments = dir ++ [name]) (hname : IsName name) :
    ∃ a, p.parent? = some a ∧ p.key = a.key ++ [name] := by
  obtain ⟨body, hdir, hparent⟩ := parent?_concat hp hname
  exact ⟨_, hparent, by rw [key_assemble hp hdir, key_concat hp hname]⟩

end Path

namespace FileTree

variable {t t' : FileTree} {p : Path} {k top : Key} {names : List String} {links : Nat}
  {aim : Aim}

/-! ## What is listed -/

/-- The keys of the tree are made of plain names, behind what leads out of the top. -/
def Named (t : FileTree) : Prop :=
  ∀ entry ∈ t.nodes, ∃ start names, entry.1 = start ++ names ∧
    (∀ segment ∈ start, segment = ".." ∨ segment = "/") ∧ ∀ name ∈ names, Path.IsPlain name

theorem named_of_plain (h : ∀ entry ∈ t.nodes, ∀ name ∈ entry.1, Path.IsPlain name) : t.Named :=
  fun entry hentry => ⟨[], entry.1, rfl, fun _ hmem => (nomatch hmem), h entry hentry⟩

/-- Names that lead down to something are plain. -/
theorem Named.plain (ht : t.Named) {name : String} {rest : List String} {n : Node}
    (hmem : (k ++ name :: rest, n) ∈ t.nodes) (hname : Key.isOutside [name] = false) :
    ∀ next ∈ name :: rest, Path.IsPlain next := by
  obtain ⟨start, names, hkey, hstart, hnames⟩ := ht _ hmem
  have hinside : name ∉ start := by
    intro h
    rcases hstart name h with rfl | rfl
    · cases hname
    · cases hname
  rcases List.append_eq_append_iff.mp hkey with ⟨more, rfl, hrest⟩ | ⟨more, rfl, hmore⟩
  · cases more with
    | nil => exact hrest ▸ hnames
    | cons first more =>
        obtain ⟨rfl, -⟩ := List.cons.inj hrest
        exact absurd (by simp) hinside
  · intro next hnext
    exact hnames next (by rw [hmore]; exact List.mem_append_right _ hnext)

theorem Named.plain_of_mem (ht : t.Named) {n : Node} (hmem : (k ++ names, n) ∈ t.nodes)
    (hinside : Key.isOutside names = false) : ∀ next ∈ names, Path.IsPlain next := by
  cases names with
  | nil => exact fun next h => nomatch h
  | cons name rest => exact ht.plain hmem hinside

theorem namesBelow?_eq_some {key : Key} :
    namesBelow? top key = some names ↔
      ∃ name rest, names = name :: rest ∧ Key.isOutside [name] = false ∧ key = top ++ names := by
  rw [namesBelow?]
  constructor
  · intro h
    split at h
    · rename_i hprefix
      obtain ⟨below, rfl⟩ := List.isPrefixOf_iff_prefix.mp hprefix
      rw [List.drop_left] at h
      cases below with
      | nil => cases h
      | cons name rest =>
          dsimp only at h
          split at h
          · cases h
          · rename_i hinside
            cases h
            exact ⟨name, rest, rfl, by simpa using hinside, rfl⟩
    · cases h
  · rintro ⟨name, rest, rfl, hinside, rfl⟩
    rw [if_pos (List.isPrefixOf_iff_prefix.mpr (List.prefix_append ..)), List.drop_left]
    dsimp only
    rw [hinside]
    rfl

/-- The names listed below a key are those that lead to the files there. -/
theorem mem_regularBelow :
    names ∈ t.regularBelow top ↔ ∃ name rest bytes, names = name :: rest ∧
      Key.isOutside [name] = false ∧ (top ++ names, .file bytes) ∈ t.nodes := by
  rw [regularBelow, List.mem_mergeSort, List.mem_filterMap]
  constructor
  · rintro ⟨⟨key, n⟩, hmem, h⟩
    dsimp only at h
    cases n with
    | file bytes =>
        obtain ⟨name, rest, hnames, hinside, rfl⟩ := namesBelow?_eq_some.mp h
        exact ⟨name, rest, bytes, hnames, hinside, hmem⟩
    | directory => cases h
    | link target => cases h
  · rintro ⟨name, rest, bytes, hnames, hinside, hmem⟩
    exact ⟨_, hmem, namesBelow?_eq_some.mpr ⟨name, rest, hnames, hinside, rfl⟩⟩

theorem opens_iff {directory : Key} :
    opens p directory = true ↔ (p.descend directory).fault? = none :=
  Option.isNone_iff_eq_none

/-- A file is come to when its directory can be opened. -/
theorem mem_accessible {files : List Key} :
    names ∈ accessible p files ↔ names ∈ files ∧ opens p names.dropLast = true :=
  List.mem_filter

/-- Plain names do not lead outside. -/
theorem isOutside_of_plain {name : String} {rest : List String} (hname : Path.IsPlain name) :
    Key.isOutside (name :: rest) = false := by
  obtain ⟨hname, hslash⟩ := hname
  have hroot : name ≠ "/" := by
    rintro rfl
    exact hslash (by decide)
  simp [Key.isOutside, hname.2.2, hroot]

/-- A file is listed when plain names lead to it. -/
theorem mem_regularBelow_of_plain (hne : names ≠ []) (hplain : ∀ name ∈ names, Path.IsPlain name)
    {bytes : ByteArray} (hmem : (top ++ names, .file bytes) ∈ t.nodes) :
    names ∈ t.regularBelow top := by
  obtain ⟨name, rest, rfl⟩ := List.exists_cons_of_ne_nil hne
  exact mem_regularBelow.mpr ⟨name, rest, bytes, rfl,
    isOutside_of_plain (hplain name (List.mem_cons_self ..)), hmem⟩

/-- The file that listed names lead to from a path, with the directories on the way. -/
theorem Named.exists_dirs (ht : t.Named) (hnames : names ∈ t.regularBelow p.key) :
    ∃ dirs base front, names = dirs ++ [base] ∧ (∀ name ∈ dirs, Path.IsPlain name) ∧
      Path.IsPlain base ∧ (p.descend names).segments = front ++ [base] ∧
      (p.descend names).key = p.key ++ names := by
  obtain ⟨first, rest, bytes, rfl, hinside, hmem⟩ := mem_regularBelow.mp hnames
  have hplain := ht.plain hmem hinside
  obtain ⟨above, hsegments⟩ :=
    p.exists_segments_descend (hplain first (List.mem_cons_self ..)) rest
  have hkey := p.key_descend hplain
  obtain ⟨dirs, base, hlast⟩ : ∃ dirs base, first :: rest = dirs ++ [base] :=
    ⟨_, _, (List.dropLast_concat_getLast (List.cons_ne_nil first rest)).symm⟩
  rw [hlast] at hplain hsegments hkey ⊢
  rw [← List.append_assoc] at hsegments
  exact ⟨dirs, base, above ++ dirs, rfl, fun name h => hplain name (List.mem_append_left _ h),
    hplain base (by simp), hsegments, hkey⟩

/-! ## Directories -/

/-- A path that leads to a directory names its key. -/
theorem LinkFree.resolve_of_isDirectory (ht : t.LinkFree) (h : t.isDirectory p = true) :
    t.resolve .target p = .ok (.taken p.key .directory) := by
  rw [isDirectory, node?] at h
  cases hplace : t.resolve .target p with
  | error e =>
      rw [hplace] at h
      cases h
  | ok place =>
      have hkey := (ht.of_resolve hplace).1
      rw [hplace] at h
      cases place with
      | free key slash => cases h
      | taken key n =>
          cases n with
          | file bytes => cases h
          | link target => cases h
          | directory => rw [← hkey]; rfl

/-- In a tree without links the files below a directory are those whose keys extend its key and whose
directories can be opened. -/
theorem LinkFree.filesBelow_eq (ht : t.LinkFree) (h : t.isDirectory p = true) :
    t.filesBelow p = accessible p (t.regularBelow p.key) := by
  rw [filesBelow, ht.resolve_entry, ht.resolve_of_isDirectory h]

/-- A walk to a directory goes through directories only. -/
theorem LinkFree.walkFrom_directory_congr (ht : t.LinkFree)
    (hways : ∀ key, t.get? key = some .directory → t'.get? key = some .directory)
    {todo : List String} {key : Key}
    (h : t.walkFrom .target links k todo = .ok (.taken key .directory)) :
    t'.walkFrom .target links k todo = .ok (.taken key .directory) := by
  induction todo generalizing k with
  | nil => rwa [walkFrom.eq_1] at h ⊢
  | cons segment rest ih =>
      rcases Path.segment_cases segment with rfl | rfl | rfl | hname
      · rw [walkFrom.eq_2] at h ⊢
        exact ih h
      · rw [walkFrom.eq_3] at h ⊢
        exact ih h
      · rw [walkFrom.eq_4] at h ⊢
        exact ih h
      obtain ⟨hsize, ⟨_, _, _, hplace⟩ | ⟨bytes, _, _, hplace⟩ | ⟨hget, hon⟩ | ⟨target, hget, _⟩⟩ :=
        walkFrom_name_cases hname h
      · cases hplace
      · cases hplace
      · rw [walkFrom.eq_5 _ _ _ _ _ _ hname.1 hname.2.1 hname.2.2, hways _ hget]
        simp only [reduceCtorEq, decide_false, Bool.false_and, Bool.false_eq_true, if_false,
          if_neg (Nat.not_lt_of_le hsize)]
        exact ih hon
      · exact absurd hget (ht _ target)

/-- A directory stays one as long as no directory is taken away. -/
theorem LinkFree.isDirectory_congr (ht : t.LinkFree)
    (hways : ∀ key, t.get? key = some .directory → t'.get? key = some .directory)
    (h : t.isDirectory p = true) : t'.isDirectory p = true := by
  obtain ⟨hfault, hwalk⟩ := walkFrom_of_resolve_eq_ok (ht.resolve_of_isDirectory h)
  rw [isDirectory, node?, resolve_of_no_fault hfault, ht.walkFrom_directory_congr hways hwalk]

/-- A walk that succeeds behind a name has found a directory there. -/
theorem LinkFree.directory_of_walkFrom (ht : t.LinkFree) {todo : List String} {outer name : String}
    (houter : Path.IsName outer) (hname : Path.IsName name) {place : Place}
    (h : t.walkFrom aim links k (todo ++ [outer, name]) = .ok place) :
    t.get? (todo.foldl Key.step k ++ [outer]) = some .directory := by
  have hloud : ∀ segments : List String, (segments ++ [outer, name]).all (· == "") = false := by
    intro segments
    simp [hname.1]
  induction todo generalizing k with
  | nil =>
      rcases (walkFrom_name_cases houter h).2 with
        ⟨_, hslashes, _⟩ | ⟨_, _, hnil, _⟩ | ⟨hget, _⟩ | ⟨target, hget, _⟩
      · simp [hname.1] at hslashes
      · cases hnil
      · exact hget
      · exact absurd hget (ht _ target)
  | cons segment rest ih =>
      rw [List.cons_append] at h
      rw [List.foldl_cons]
      rcases Path.segment_cases segment with rfl | rfl | rfl | hsegment
      · rw [walkFrom.eq_2] at h
        exact ih h
      · rw [walkFrom.eq_3] at h
        exact ih h
      · rw [walkFrom.eq_4] at h
        exact ih h
      rw [Key.step_name k hsegment]
      rcases (walkFrom_name_cases hsegment h).2 with
        ⟨_, hslashes, _⟩ | ⟨_, _, hnil, _⟩ | ⟨_, hon⟩ | ⟨target, hget, _⟩
      · rw [hloud rest] at hslashes
        cases hslashes
      · simp at hnil
      · exact ih hon
      · exact absurd hget (ht _ target)

/-- A file that is written stands in a directory of the name before its own. -/
theorem LinkFree.directory_of_write (ht : t.LinkFree) {dir : List String} {outer name : String}
    (hp : p.segments = dir ++ [outer, name]) (houter : Path.IsName outer)
    (hname : Path.IsName name) {bytes : ByteArray} (h : t.write p bytes = .ok t') :
    ∃ key, p.key = key ++ [outer, name] ∧ t.get? (key ++ [outer]) = some .directory := by
  have hkey : p.key = dir.foldl Key.step p.home ++ [outer, name] := by
    rw [Path.key, hp, List.foldl_append, List.foldl_cons, List.foldl_cons, List.foldl_nil,
      Key.step_name _ houter, Key.step_name _ hname, List.append_assoc]
    rfl
  refine ⟨_, hkey, ?_⟩
  obtain ⟨key, _, ⟨old, hok⟩ | ⟨slash, hok⟩⟩ := resolve_of_write_eq_ok h
  · have hwalk := (walkFrom_of_resolve_eq_ok hok).2
    rw [hp] at hwalk
    exact ht.directory_of_walkFrom houter hname hwalk
  · have hwalk := (walkFrom_of_resolve_eq_ok hok).2
    rw [hp] at hwalk
    exact ht.directory_of_walkFrom houter hname hwalk

end FileTree

end SourceTutor
