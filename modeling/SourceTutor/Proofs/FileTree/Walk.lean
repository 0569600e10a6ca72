import SourceTutor.Proofs.FileTree.Nodes

/-!
# Walks through directories

`Leads` is a walk in small steps: silent segments are passed over, `..` goes up, a name goes down
into a directory, and a link is followed at the cost of one of the links left. A walk that leads
somewhere can be cut off a longer one (`Leads.walkFrom_append`), and where no walk leads through a
list of segments, every longer walk stops with the same fault (`leads_or_fault`). So a path is
resolved in two halves: its directory, of which only directories and links matter
(`Leads.congr`), and its last name.
-/

set_option autoImplicit false

namespace SourceTutor

/-- A segment that names something in a directory. -/
def Path.IsName (segment : String) : Prop := segment ≠ "" ∧ segment ≠ "." ∧ segment ≠ ".."

/-- The directory from which a path starts. -/
def Path.home (p : Path) : Key := if p.isAbsolute then Key.root else []

theorem Path.segment_cases (segment : String) :
    segment = "" ∨ segment = "." ∨ segment = ".." ∨ Path.IsName segment := by
  by_cases h₁ : segment = ""
  · exact .inl h₁
  by_cases h₂ : segment = "."
  · exact .inr (.inl h₂)
  by_cases h₃ : segment = ".."
  · exact .inr (.inr (.inl h₃))
  exact .inr (.inr (.inr ⟨h₁, h₂, h₃⟩))

namespace FileTree

/-- Walking the segments from the first directory leads to the second one, and of the links that
may be followed at the start so many are left. -/
inductive Leads (t : FileTree) : Nat → Key → List String → Nat → Key → Prop
  | here {links k} : Leads t links k [] links k
  | empty {links k rest links' k'} : Leads t links k rest links' k' →
      Leads t links k ("" :: rest) links' k'
  | stay {links k rest links' k'} : Leads t links k rest links' k' →
      Leads t links k ("." :: rest) links' k'
  | up {links k rest links' k'} : Leads t links (Key.above k) rest links' k' →
      Leads t links k (".." :: rest) links' k'
  | down {links k name rest links' k'} : Path.IsName name →
      FileName.size name ≤ longestName → t.get? (k ++ [name]) = some .directory →
      Leads t links (k ++ [name]) rest links' k' → Leads t links k (name :: rest) links' k'
  | follow {links k name target rest links' k'} : Path.IsName name →
      FileName.size name ≤ longestName → t.get? (k ++ [name]) = some (.link target) →
      Leads t links (if target.isAbsolute then Key.root else k) (target.segments ++ rest)
        links' k' →
      Leads t (links + 1) k (name :: rest) links' k'

variable {t t' : FileTree} {links links' : Nat} {k k' : Key} {n : Node}
  {todo more : List String}

/-! ## One name -/

/-- A name behind which the path goes on. -/
theorem walkFrom_name_cons {name : String} (hname : Path.IsName name)
    (hmore : more.all (· == "") = false) (aim : Aim) :
    t.walkFrom aim links k (name :: more) =
      if longestName < FileName.size name then .error .nameTooLong
      else match t.get? (k ++ [name]) with
        | none => .error .notFound
        | some (.file _) => .error .notADirectory
        | some .directory => t.walkFrom aim links (k ++ [name]) more
        | some (.link target) =>
          match links with
          | 0 => .error .tooManyLinks
          | links + 1 =>
            t.walkFrom aim links (if target.isAbsolute then Key.root else k)
              (target.segments ++ more) := by
  have hne : more.isEmpty = false := by
    cases more with
    | nil => cases hmore
    | cons _ _ => rfl
  have hwalk := walkFrom.eq_5 t aim links k name more hname.1 hname.2.1 hname.2.2
  simp only [hmore, hne, Bool.and_false, Bool.false_eq_true, if_false, Bool.false_and] at hwalk
  exact hwalk

/-- The last name of a path. -/
theorem walkFrom_name {name : String} (hname : Path.IsName name) (aim : Aim) :
    t.walkFrom aim links k [name] =
      if longestName < FileName.size name then .error .nameTooLong
      else match t.get? (k ++ [name]) with
        | none => .ok (.free (k ++ [name]) false)
        | some (.file bytes) => .ok (.taken (k ++ [name]) (.file bytes))
        | some .directory => .ok (.taken (k ++ [name]) .directory)
        | some (.link target) =>
          if aim = .entry then .ok (.taken (k ++ [name]) (.link target))
          else match links with
            | 0 => .error .tooManyLinks
            | links + 1 =>
              t.walkFrom aim links (if target.isAbsolute then Key.root else k)
                target.segments := by
  have hwalk := walkFrom.eq_5 t aim links k name [] hname.1 hname.2.1 hname.2.2
  simp only [List.isEmpty_nil, List.all_nil, Bool.not_true, Bool.and_false, Bool.false_eq_true,
    Bool.false_and, if_false, if_true, walkFrom.eq_1, List.append_nil, Bool.true_and,
    decide_eq_true_eq] at hwalk
  exact hwalk

/-- **What a walk finds under a name** if it does not stop there: nothing, and then only slashes
follow; a file, and then nothing follows; a directory, in which it goes on; or a link, which ends
the walk or is followed. -/
theorem walkFrom_name_cases {name : String} {aim : Aim} {place : Place} (hname : Path.IsName name)
    (h : t.walkFrom aim links k (name :: more) = .ok place) :
    FileName.size name ≤ longestName ∧
      ((t.get? (k ++ [name]) = none ∧ more.all (· == "") = true ∧ (aim = .creation → more = []) ∧
          place = .free (k ++ [name]) !more.isEmpty) ∨
        (∃ bytes, t.get? (k ++ [name]) = some (.file bytes) ∧ more = [] ∧
          place = .taken (k ++ [name]) (.file bytes)) ∨
        (t.get? (k ++ [name]) = some .directory ∧
          t.walkFrom aim links (k ++ [name]) more = .ok place) ∨
        ∃ target, t.get? (k ++ [name]) = some (.link target) ∧
          ((more = [] ∧ aim = .entry ∧ place = .taken (k ++ [name]) (.link target)) ∨
            ∃ left, links = left + 1 ∧
              t.walkFrom aim left (if target.isAbsolute then Key.root else k)
                (target.segments ++ more) = .ok place)) := by
  rw [walkFrom.eq_5 _ _ _ _ _ _ hname.1 hname.2.1 hname.2.2] at h
  split at h
  · cases h
  rename_i hslash
  split at h
  · cases h
  rename_i hsize
  refine ⟨Nat.le_of_not_lt hsize, ?_⟩
  cases hget : t.get? (k ++ [name]) with
  | none =>
      simp only [hget] at h
      split at h
      · rename_i hall
        refine .inl ⟨rfl, hall, ?_, (Except.ok.inj h).symm⟩
        rintro rfl
        simpa [hall] using hslash
      · cases h
  | some n =>
      cases n with
      | file bytes =>
          simp only [hget] at h
          split at h
          · rename_i hmore
            exact .inr (.inl ⟨bytes, rfl, List.isEmpty_iff.mp hmore, (Except.ok.inj h).symm⟩)
          · cases h
      | directory =>
          simp only [hget] at h
          exact .inr (.inr (.inl ⟨rfl, h⟩))
      | link target =>
          simp only [hget] at h
          refine .inr (.inr (.inr ⟨target, rfl, ?_⟩))
          split at h
          · rename_i hlast
            rw [Bool.and_eq_true, decide_eq_true_eq] at hlast
            exact .inl ⟨List.isEmpty_iff.mp hlast.1, hlast.2, (Except.ok.inj h).symm⟩
          · cases links with
            | zero => cases h
            | succ left => exact .inr ⟨left, rfl, h⟩

/-! ## The first half of a walk -/

theorem all_append_false {segments : List String} (h : more.all (· == "") = false) :
    (segments ++ more).all (· == "") = false := by
  rw [List.all_append, h, Bool.and_false]

/-- A walk that leads somewhere goes on from there, whatever it is made for. -/
theorem Leads.walkFrom_append (h : Leads t links k todo links' k')
    (hmore : more.all (· == "") = false) (aim : Aim) :
    t.walkFrom aim links k (todo ++ more) = t.walkFrom aim links' k' more := by
  induction h with
  | here => rfl
  | empty _ ih => rw [List.cons_append, walkFrom.eq_2, ih]
  | stay _ ih => rw [List.cons_append, walkFrom.eq_3, ih]
  | up _ ih => rw [List.cons_append, walkFrom.eq_4, ih]
  | down hname hsize hget _ ih =>
      rw [List.cons_append, walkFrom_name_cons hname (all_append_false hmore),
        if_neg (Nat.not_lt_of_le hsize), hget]
      exact ih
  | follow hname hsize hget _ ih =>
      rw [List.cons_append, walkFrom_name_cons hname (all_append_false hmore),
        if_neg (Nat.not_lt_of_le hsize), hget, ← ih, List.append_assoc]

/-- The segments lead to one directory only. -/
theorem Leads.unique {links'' : Nat} {k'' : Key} (h : Leads t links k todo links' k')
    (h' : Leads t links k todo links'' k'') : k' = k'' := by
  have hstay : ["."].all (· == "") = false := by decide
  have hwalk := h.walkFrom_append hstay .target
  rw [h'.walkFrom_append hstay .target, walkFrom.eq_3, walkFrom.eq_3, walkFrom.eq_1,
    walkFrom.eq_1] at hwalk
  cases hwalk
  rfl

/-- The segments lead somewhere, or a walk that has to go on behind them stops on the way, whatever
it is made for and whatever follows. -/
def LeadsOrFaults (t : FileTree) (links : Nat) (k : Key) (todo : List String) : Prop :=
  (∃ links' k', Leads t links k todo links' k') ∨
    ∃ e, ∀ aim more, more.all (· == "") = false →
      t.walkFrom aim links k (todo ++ more) = .error e

/-- One walk goes the way of a second one, from where that one starts. -/
theorem LeadsOrFaults.of_step {next : List String} (h : LeadsOrFaults t links' k' next)
    (hleads : ∀ left end', Leads t links' k' next left end' → Leads t links k todo left end')
    (hwalk : ∀ aim more, more.all (· == "") = false →
      t.walkFrom aim links k (todo ++ more) = t.walkFrom aim links' k' (next ++ more)) :
    LeadsOrFaults t links k todo := by
  rcases h with ⟨left, end', h⟩ | ⟨e, h⟩
  · exact .inl ⟨left, end', hleads left end' h⟩
  · exact .inr ⟨e, fun aim more hmore => by rw [hwalk aim more hmore, h aim more hmore]⟩

theorem leads_or_fault (t : FileTree) (links : Nat) (k : Key) (todo : List String) :
    LeadsOrFaults t links k todo := by
  -- the segments of a link are walked with fewer links left
  induction links using Nat.strongRecOn generalizing k todo with
  | ind links ihlinks =>
  induction todo generalizing k with
  | nil => exact .inl ⟨links, k, .here⟩
  | cons segment rest ih =>
      rcases Path.segment_cases segment with rfl | rfl | rfl | hname
      · exact (ih k).of_step (fun _ _ => .empty) fun _ _ _ => by
          rw [List.cons_append, walkFrom.eq_2]
      · exact (ih k).of_step (fun _ _ => .stay) fun _ _ _ => by
          rw [List.cons_append, walkFrom.eq_3]
      · exact (ih (Key.above k)).of_step (fun _ _ => .up) fun _ _ _ => by
          rw [List.cons_append, walkFrom.eq_4]
      have hbehind : ∀ more : List String, more.all (· == "") = false →
          (rest ++ more).all (· == "") = false := fun more => all_append_false
      have hwalk := fun aim more hmore =>
        (walkFrom_name_cons hname (hbehind more hmore) aim : t.walkFrom aim links k _ = _)
      by_cases hsize : longestName < FileName.size segment
      · refine .inr ⟨.nameTooLong, fun aim more hmore => ?_⟩
        rw [List.cons_append, hwalk aim more hmore, if_pos hsize]
      simp only [if_neg hsize] at hwalk
      have hshort := Nat.le_of_not_lt hsize
      cases hget : t.get? (k ++ [segment]) with
      | none =>
          simp only [hget] at hwalk
          exact .inr ⟨.notFound, hwalk⟩
      | some n =>
          simp only [hget] at hwalk
          cases n with
          | file bytes => exact .inr ⟨.notADirectory, hwalk⟩
          | directory =>
              exact (ih (k ++ [segment])).of_step (fun _ _ => .down hname hshort hget) hwalk
          | link target =>
              cases links with
              | zero => exact .inr ⟨.tooManyLinks, hwalk⟩
              | succ left =>
                  refine (ihlinks left (Nat.lt_succ_self left) _ _).of_step
                    (fun _ _ => .follow hname hshort hget) fun aim more hmore => ?_
                  rw [List.cons_append, hwalk aim more hmore, List.append_assoc]

/-! ## The ways of a tree -/

/-- What is a directory or a link in the first tree is the same in the second one. -/
structure KeepsWays (t t' : FileTree) : Prop where
  directory : ∀ key, t.get? key = some .directory → t'.get? key = some .directory
  link : ∀ key target, t.get? key = some (.link target) → t'.get? key = some (.link target)

theorem KeepsWays.of_erase (hk : k ≠ []) : KeepsWays (t.erase k) t := by
  have hback : ∀ key n, (t.erase k).get? key = some n → t.get? key = some n := by
    intro key n hget
    by_cases heq : key = k
    · rw [heq, get?_erase_self hk] at hget
      cases hget
    · rwa [get?_erase_of_ne heq] at hget
  exact ⟨fun key => hback key _, fun key target => hback key _⟩

theorem KeepsWays.of_insert_file {bytes : ByteArray} (hk : k ≠ []) :
    KeepsWays (t.insert k (.file bytes)) t := by
  have hback : ∀ key n, (∀ bytes, n ≠ .file bytes) →
      (t.insert k (.file bytes)).get? key = some n → t.get? key = some n := by
    intro key n hn hget
    by_cases heq : key = k
    · rw [heq, get?_insert_self hk] at hget
      exact absurd (Option.some.inj hget).symm (hn bytes)
    · rwa [get?_insert_of_ne heq] at hget
  exact ⟨fun key => hback key _ (by simp), fun key target => hback key _ (by simp)⟩

theorem KeepsWays.of_erase_insert (hk : k ≠ []) : KeepsWays (t.erase k) (t.insert k n) := by
  have hforth : ∀ key m, (t.erase k).get? key = some m → (t.insert k n).get? key = some m := by
    intro key m hget
    by_cases heq : key = k
    · rw [heq, get?_erase_self hk] at hget
      cases hget
    · rw [get?_erase_of_ne heq] at hget
      rwa [get?_insert_of_ne heq]
  exact ⟨fun key => hforth key _, fun key target => hforth key _⟩

theorem Writable.keepsWays_erase (h : t.Writable k) : KeepsWays t (t.erase k) := by
  constructor
  · intro key hget
    have hne : key ≠ k := by
      rintro rfl
      exact h.ne_directory hget
    rwa [get?_erase_of_ne hne]
  · intro key target hget
    have hne : key ≠ k := by
      rintro rfl
      exact h.ne_link target hget
    rwa [get?_erase_of_ne hne]

theorem KeepsWays.of_insert_new (h : t.get? k = none) : KeepsWays t (t.insert k n) := by
  have hforth : ∀ key m, t.get? key = some m → (t.insert k n).get? key = some m := by
    intro key m hget
    have hne : key ≠ k := by
      rintro rfl
      rw [h] at hget
      cases hget
    rwa [get?_insert_of_ne hne]
  exact ⟨fun key => hforth key _, fun key target => hforth key _⟩

/-- Trees keep their ways when the same is taken away from both. -/
theorem KeepsWays.erase (h : KeepsWays t t') (hk : k ≠ []) :
    KeepsWays (t.erase k) (t'.erase k) := by
  have hforth : ∀ key n, (t.get? key = some n → t'.get? key = some n) →
      (t.erase k).get? key = some n → (t'.erase k).get? key = some n := by
    intro key n hkey hget
    by_cases heq : key = k
    · rw [heq, get?_erase_self hk] at hget
      cases hget
    · rw [get?_erase_of_ne heq] at hget ⊢
      exact hkey hget
  exact ⟨fun key => hforth key _ (h.directory key),
    fun key target => hforth key _ (h.link key target)⟩

theorem KeepsWays.trans {t'' : FileTree} (h : KeepsWays t t') (h' : KeepsWays t' t'') :
    KeepsWays t t'' :=
  ⟨fun key hget => h'.directory key (h.directory key hget),
    fun key target hget => h'.link key target (h.link key target hget)⟩

/-- Where a walk leads depends on the directories and the links of the tree only. -/
theorem Leads.congr (h : Leads t links k todo links' k') (hways : KeepsWays t t') :
    Leads t' links k todo links' k' := by
  induction h with
  | here => exact .here
  | empty _ ih => exact .empty ih
  | stay _ ih => exact .stay ih
  | up _ ih => exact .up ih
  | down hname hsize hget _ ih => exact .down hname hsize (hways.directory _ hget) ih
  | follow hname hsize hget _ ih => exact .follow hname hsize (hways.link _ _ hget) ih

/-- In a well-formed tree a walk leads from a directory to a directory. -/
theorem Leads.isDirectory (h : Leads t links k todo links' k') (ht : t.WellFormed)
    (hk : t.IsDirectory k) : t.IsDirectory k' := by
  induction h with
  | here => exact hk
  | empty _ ih => exact ih hk
  | stay _ ih => exact ih hk
  | up _ ih => exact ih (ht.above hk)
  | down _ _ hget _ ih => exact ih (.inl hget)
  | @follow _ _ _ target _ _ _ _ _ _ _ ih =>
      refine ih ?_
      by_cases habs : target.isAbsolute
      · rw [if_pos habs]
        exact .inr (.inr rfl)
      · rwa [if_neg habs]

theorem isDirectory_home (t : FileTree) (p : Path) : t.IsDirectory p.home := by
  rw [Path.home]
  by_cases habs : p.isAbsolute
  · rw [if_pos habs]
    exact .inr (.inr rfl)
  · rw [if_neg habs]
    exact .inl rfl

end FileTree

end SourceTutor
