import SourceTutor.Proofs.Queue.Keeping

/-!
# The file behaves like an atomic register

A `Dealing` is a call on a store together with its answer: a load, a save, a reset, or a save during
which the program is killed. `Store.Deals` says which dealings are possible in a file tree and what
tree they leave. `Register` says the same of a register that holds a queue and knows nothing of
files: a load answers what it holds, a save puts the queue in or fails and changes nothing, a reset
empties it or fails and changes nothing, and a save that is cut short puts the queue in or changes
nothing.

The file is such a register (`Store.register`): along any dealings, in a tree in which neither the
file nor the temporary file beside it is a symbolic link, what is loaded goes the way of what the
register holds. So each load answers what was put in last.
-/

set_option autoImplicit false

namespace SourceTutor

open FileTree

/-! ## Sequences of steps -/

/-- A sequence of steps with the events they show, from one state to another. -/
inductive Along {α ε : Type} (Step : α → ε → α → Prop) : α → List ε → α → Prop
  | nil {a} : Along Step a [] a
  | cons {a b c e events} : Step a e b → Along Step b events c → Along Step a (e :: events) c

section Along

variable {α β ε : Type} {Step : α → ε → α → Prop} {Step' : β → ε → β → Prop} {a c : α}
  {events : List ε}

/-- Steps that keep an invariant and are followed elsewhere are followed in sequence. -/
theorem Along.simulated {Inv : α → Prop} {view : α → β}
    (hstep : ∀ {a e b}, Inv a → Step a e b → Inv b ∧ Step' (view a) e (view b))
    (h : Along Step a events c) (ha : Inv a) : Inv c ∧ Along Step' (view a) events (view c) := by
  induction h with
  | nil => exact ⟨ha, .nil⟩
  | cons hfirst _ ih =>
      obtain ⟨hb, hfirst'⟩ := hstep ha hfirst
      obtain ⟨hc, hmore⟩ := ih hb
      exact ⟨hc, .cons hfirst' hmore⟩

/-- A sequence passes through a state between its first events and the others. -/
theorem Along.split {done rest : List ε} (h : Along Step a (done ++ rest) c) :
    ∃ b, Along Step a done b ∧ Along Step b rest c := by
  induction done generalizing a with
  | nil => exact ⟨a, .nil, h⟩
  | cons e done ih =>
      cases h with
      | cons hfirst hmore =>
          obtain ⟨b, hdone, hrest⟩ := ih hmore
          exact ⟨b, .cons hfirst hdone, hrest⟩

end Along

/-! ## Stores and registers -/

/-- A call on a store and its answer. A queue that is saved has the stamp of the save. -/
inductive Dealing where
  | load (answer : Progress)
  | save (q : Progress) (succeeded : Bool)
  | reset (answer : Except IoFault Bool)
  /-- The program is killed while it saves the queue. -/
  | killed (q : Progress)

/-- The queue that a dealing puts into the store. -/
def Dealing.puts? : Dealing → Option Progress
  | .save q true => some q
  | .reset (.ok _) => some .empty
  | _ => none

/-- What was put in last, when `v` was there at the start. -/
def latest (v : Progress) (dealings : List Dealing) : Progress :=
  (dealings.filterMap Dealing.puts?).getLastD v

/-- The dealings with a store, and the trees they leave. -/
inductive Store.Deals (s : Store) : FileTree → Dealing → FileTree → Prop
  | load {t} : Deals s t (.load (s.load t)) t
  | save {t} (now : String) (q : Progress) :
      Deals s t (.save (s.save now t q).2.1 (s.save now t q).2.2) (s.save now t q).1
  | reset {t t' existed} : s.reset t = .ok (t', existed) → Deals s t (.reset (.ok existed)) t'
  | notReset {t fault} : s.reset t = .error fault → Deals s t (.reset (.error fault)) t
  | killed {t t'} (now : String) (q : Progress) : s.Cut t { q with lastRun := some now } t' →
      Deals s t (.killed { q with lastRun := some now }) t'

/-- The dealings with an atomic register, and what it holds afterwards. -/
inductive Register : Progress → Dealing → Progress → Prop
  | load {v} : Register v (.load v) v
  | saved {v q} : Register v (.save q true) q
  | notSaved {v q} : Register v (.save q false) v
  | reset {v existed} : Register v (.reset (.ok existed)) .empty
  | notReset {v fault} : Register v (.reset (.error fault)) v
  | killedEarly {v q} : Register v (.killed q) v
  | killedLate {v q} : Register v (.killed q) q

/-! ## What a register holds -/

section Register

variable {v v' : Progress} {dealings : List Dealing}

theorem latest_cons (v : Progress) (dealing : Dealing) (dealings : List Dealing) :
    latest v (dealing :: dealings) = latest (dealing.puts?.getD v) dealings := by
  rw [latest, latest, List.filterMap_cons]
  cases dealing.puts? with
  | none => rfl
  | some q => exact List.getLastD_cons

/-- Unless the program is killed, a register holds what was put in, or what it held before. -/
theorem Register.eq_getD {dealing : Dealing} (h : Register v dealing v')
    (hkilled : ∀ q, dealing ≠ .killed q) : v' = dealing.puts?.getD v := by
  cases h with
  | killedEarly => exact absurd rfl (hkilled _)
  | killedLate => exact absurd rfl (hkilled _)
  | _ => rfl

/-- Unless the program is killed, a register holds what was put in last. -/
theorem Along.eq_latest (h : Along Register v dealings v') (hkilled : ∀ q, .killed q ∉ dealings) :
    v' = latest v dealings := by
  induction h with
  | nil => rfl
  | @cons v₁ v₂ v₃ dealing dealings hfirst _ ih =>
      have hone : ∀ q, dealing ≠ .killed q := by
        rintro q rfl
        exact hkilled q List.mem_cons_self
      rw [latest_cons, ← hfirst.eq_getD hone]
      exact ih fun q hq => hkilled q (List.mem_cons_of_mem _ hq)

/-- A load answers what was put in last. -/
theorem Along.loaded {done rest : List Dealing} {answer : Progress}
    (h : Along Register v (done ++ .load answer :: rest) v') (hkilled : ∀ q, .killed q ∉ done) :
    answer = latest v done := by
  obtain ⟨held, hdone, hrest⟩ := h.split
  rw [← hdone.eq_latest hkilled]
  cases hrest with
  | cons hload _ =>
      cases hload
      rfl

/-- After a save that is cut short a load answers what was put in last before, or what was to be
saved. -/
theorem Along.loaded_of_killed {done rest : List Dealing} {q answer : Progress}
    (h : Along Register v (done ++ .killed q :: .load answer :: rest) v')
    (hkilled : ∀ q, .killed q ∉ done) : answer = latest v done ∨ answer = q := by
  obtain ⟨held, hdone, hrest⟩ := h.split
  rw [← hdone.eq_latest hkilled]
  cases hrest with
  | cons hcut hmore =>
      cases hmore with
      | cons hload _ =>
          cases hload
          cases hcut with
          | killedEarly => exact .inl rfl
          | killedLate => exact .inr rfl

end Register

/-! ## The file of a store -/

namespace Store

variable {s : Store} {t t' : FileTree}

/-- A dealing with the file is one with the register that holds what is loaded. -/
theorem Hosts.register {dealing : Dealing} (hs : s.Hosts t) (h : s.Deals t dealing t') :
    s.Hosts t' ∧ Register (s.load t) dealing (s.load t') := by
  cases h with
  | load => exact ⟨hs, .load⟩
  | save now q =>
      obtain ⟨hs', hload⟩ := hs.of_write { q with lastRun := some now }
      refine ⟨hs', ?_⟩
      show Register _ (.save { q with lastRun := some now } (s.write t _).2)
        (s.load (s.write t _).1)
      rw [hload]
      cases (s.write t { q with lastRun := some now }).2 with
      | true => exact .saved
      | false => exact .notSaved
  | reset hreset =>
      obtain ⟨hs', hload⟩ := hs.of_reset hreset
      rw [hload]
      exact ⟨hs', .reset⟩
  | notReset _ => exact ⟨hs, .notReset⟩
  | killed now q hcut =>
      obtain ⟨hs', hold | hnew⟩ := hs.of_cut hcut
      · rw [hold]
        exact ⟨hs', .killedEarly⟩
      · rw [hnew]
        exact ⟨hs', .killedLate⟩

/-- A file that is no symbolic link can keep a queue, if the path does not lead upward and the
temporary file is no symbolic link either. -/
theorem hosts_of_not_linkAt (text : String) (hup : ".." ∉ (Path.ofString text).segments)
    (ht : t.WellFormed) (hpath : ¬ t.LinkAt (Path.ofString text))
    (htemporary : ¬ t.LinkAt (⟨.ofString text⟩ : Store).temporary) :
    (⟨.ofString text⟩ : Store).Hosts t where
  direct := Path.direct_ofString (List.nil_append _).symm rfl hup
  wellFormed := ht
  temporary_not_link := htemporary
  apart hlink := absurd hlink hpath
  outside hlink := absurd hlink hpath

/-- What an atomic register shows in a sequence of dealings that leads from one tree to another. -/
structure ActsAsRegister (s : Store) (t : FileTree) (dealings : List Dealing) (t' : FileTree) :
    Prop where
  /-- What is loaded goes the way of the register. -/
  follows : Along Register (s.load t) dealings (s.load t')
  /-- A load answers the queue of the last save that succeeded, no queue if a reset came after it,
  or else what was there at the start. -/
  loaded : ∀ done answer rest, dealings = done ++ .load answer :: rest →
    (∀ q, .killed q ∉ done) → answer = latest (s.load t) done
  /-- A save that is cut short leaves what was there before or what was to be saved. -/
  loaded_of_killed : ∀ done q answer rest, dealings = done ++ .killed q :: .load answer :: rest →
    (∀ q, .killed q ∉ done) → answer = latest (s.load t) done ∨ answer = q

/-- **The file is an atomic register**, whatever is done to a store that nobody else writes to. -/
theorem acts_as_register (text : String) (hup : ".." ∉ (Path.ofString text).segments)
    (ht : t.WellFormed) (hpath : ¬ t.LinkAt (Path.ofString text))
    (htemporary : ¬ t.LinkAt (⟨.ofString text⟩ : Store).temporary) {dealings : List Dealing}
    (h : Along (⟨.ofString text⟩ : Store).Deals t dealings t') :
    (⟨.ofString text⟩ : Store).ActsAsRegister t dealings t' := by
  have hhosts := hosts_of_not_linkAt text hup ht hpath htemporary
  obtain ⟨-, hfollows⟩ := h.simulated (fun hs hdeal => Hosts.register hs hdeal) hhosts
  refine ⟨hfollows, ?_, ?_⟩
  · rintro done answer rest rfl hkilled
    exact hfollows.loaded hkilled
  · rintro done q answer rest rfl hkilled
    exact hfollows.loaded_of_killed hkilled

end Store

/-! ## A store at work -/

/-- The tree of `shelf` after a save that was cut short in the middle of the temporary file. -/
def torn (q : Progress) (bytes : ByteArray) : FileTree :=
  ⟨[(["b.c"], .file .empty), (["state.json"], .file q.print.toUTF8),
    (["state.json.tmp"], .file bytes)]⟩

theorem cut_shelf (q q' : Progress) (n : Nat) :
    note.Cut (shelf q) q' (torn q (q'.print.toUTF8.extract 0 n)) := by
  refine .staging n (note_prepare _) ?_
  rw [note_temporary]
  simp +decide [FileTree.write, resolve_of_no_fault fault?_temporary, walkFrom, Path.home, get?,
    shelf, torn, List.lookup_cons, bind, Except.bind, FileTree.insert, erase]

theorem load_torn (q : Progress) (bytes : ByteArray) : note.load (torn q bytes) = q := by
  refine Store.load_of_read_eq_ok ?_
  simp +decide [note, FileTree.read, resolve_of_no_fault fault?_path, walkFrom, Path.home, get?,
    torn, List.lookup_cons, bind, Except.bind]

theorem write_torn (q q' : Progress) (bytes : ByteArray) :
    note.write (torn q bytes) q' = (shelf q', true) := by
  have hstage : (torn q bytes).write ⟨["state.json.tmp"]⟩ q'.print.toUTF8 =
      .ok (torn q q'.print.toUTF8) := by
    simp +decide [FileTree.write, resolve_of_no_fault fault?_temporary, walkFrom, Path.home, get?,
      torn, List.lookup_cons, bind, Except.bind, FileTree.insert, erase]
  refine note_write hstage ?_
  simp +decide [FileTree.rename, resolve_of_no_fault fault?_temporary,
    resolve_of_no_fault fault?_path, walkFrom, Path.home, get?, torn, shelf, List.lookup_cons, bind,
    Except.bind, FileTree.insert, erase]

theorem reset_shelf (q : Progress) :
    note.reset (shelf q) = .ok (⟨[(["b.c"], .file .empty)]⟩, true) := by
  have hpath : (⟨["state.json"]⟩ : Path).withoutEndSlashes = ⟨["state.json"]⟩ := by decide
  simp +decide [Store.reset, note, FileTree.removeFile, hpath, resolve_of_no_fault fault?_path,
    walkFrom, Path.home, get?, shelf, List.lookup_cons, bind, Except.bind, erase]

theorem Store.deals_load {s : Store} {t : FileTree} {q : Progress} (h : s.load t = q) :
    s.Deals t (.load q) t := by
  rw [← h]
  exact .load

theorem Store.deals_save {s : Store} {t t' : FileTree} {q : Progress} {now : String} {ok : Bool}
    (h : s.write t { q with lastRun := some now } = (t', ok)) :
    s.Deals t (.save { q with lastRun := some now } ok) t' := by
  have hsave : s.save now t q = (t', { q with lastRun := some now }, ok) := by
    rw [Store.save, h]
  have hdeal : s.Deals t _ _ := Store.Deals.save now q
  rwa [hsave] at hdeal

/-- An instance: a save that is cut short behind three bytes, one that succeeds, and a reset. -/
theorem acts_as_register_shelf :
    let q : Progress := ⟨["b.c"], [], [], none⟩
    let stamped : Progress := ⟨["b.c"], [], [], some "now"⟩
    let rest : FileTree := ⟨[(["b.c"], .file .empty)]⟩
    let dealings : List Dealing := [.load q, .killed stamped, .load q, .save stamped true,
      .load stamped, .reset (.ok true), .load .empty]
    ".." ∉ (Path.ofString "state.json").segments ∧ (shelf q).WellFormed ∧
      ¬ (shelf q).LinkAt (Path.ofString "state.json") ∧
      ¬ (shelf q).LinkAt (⟨.ofString "state.json"⟩ : Store).temporary ∧
      Along (⟨.ofString "state.json"⟩ : Store).Deals (shelf q) dealings rest ∧
      (⟨.ofString "state.json"⟩ : Store).ActsAsRegister (shelf q) dealings rest := by
  intro q stamped rest dealings
  have hnote : (⟨.ofString "state.json"⟩ : Store) = note := by decide
  have hup : ".." ∉ (Path.ofString "state.json").segments := by decide
  have hname : Path.IsName "state.json" := ⟨by decide, by decide, by decide⟩
  have hname' : Path.IsName "state.json.tmp" := ⟨by decide, by decide, by decide⟩
  have hpath : ¬ (shelf q).LinkAt (Path.ofString "state.json") :=
    not_linkAt_shelf q (by decide) hname
  have htemporary : ¬ (shelf q).LinkAt (⟨.ofString "state.json"⟩ : Store).temporary :=
    not_linkAt_shelf q (by decide) hname'
  have hempty : note.load rest = .empty := ((hosts_shelf stamped).of_reset (reset_shelf _)).2
  have hdealings : Along (⟨.ofString "state.json"⟩ : Store).Deals (shelf q) dealings rest := by
    rw [hnote]
    exact .cons (Store.deals_load (load_shelf q)) <|
      .cons (.killed "now" q (cut_shelf q stamped 3)) <|
      .cons (Store.deals_load (load_torn q _)) <|
      .cons (Store.deals_save (q := q) (write_torn q stamped _)) <|
      .cons (Store.deals_load (load_shelf stamped)) <|
      .cons (.reset (reset_shelf stamped)) <|
      .cons (Store.deals_load hempty) .nil
  exact ⟨hup, wellFormed_shelf q, hpath, htemporary, hdealings,
    Store.acts_as_register "state.json" hup (wellFormed_shelf q) hpath htemporary hdealings⟩

end SourceTutor
