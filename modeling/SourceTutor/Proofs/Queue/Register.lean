import SourceTutor.Proofs.FileTree.Finds
import SourceTutor.Proofs.FileTree.Making
import SourceTutor.Proofs.Queue.Document
import SourceTutor.Queue.Store

/-!
# The file as a register

What is loaded from the file of a queue is what was saved last. `Store.Hosts` says what the tree has
to be like: the path of the file goes up at its start only, the temporary file beside it is no
symbolic link, and if the file itself is one, it does not lead to the temporary file and is not on
the way to its own directory. Then each step of a save keeps what is loaded until the last one
replaces it, and so a save that stops anywhere, also in the middle of the temporary file
(`Store.Cut`), leaves the old queue or the new one.
-/

set_option autoImplicit false

namespace SourceTutor

open FileTree

namespace Store

/-- The tree that a save leaves when it stops somewhere: in the middle of making the directories, or
when so many bytes of the temporary file are written, or at its end. -/
inductive Cut (s : Store) (t : FileTree) (q : Progress) : FileTree → Prop
  | preparing {t'} : MadeAbove s.path t t' → Cut s t q t'
  | staging {t' t''} (n : Nat) : s.prepare t = (t', .ok ()) →
      t'.write s.temporary (q.print.toUTF8.extract 0 n) = .ok t'' → Cut s t q t''
  | finished : Cut s t q (s.write t q).1

variable {s : Store} {t t' : FileTree} {q : Progress}

/-- What the tree has to be like for a queue to be kept in it. -/
structure Hosts (s : Store) (t : FileTree) : Prop where
  direct : s.path.Direct
  wellFormed : t.WellFormed
  temporary_not_link : ¬ t.LinkAt s.temporary
  /-- A link in place of the file leads elsewhere than to the temporary file. -/
  apart : t.LinkAt s.path → ∀ key, t.FindsAt s.path key → ¬ t.FindsAt s.temporary key
  /-- A link in place of the file is not needed to reach its directory. -/
  outside : t.LinkAt s.path → t.Outside s.path

/-! ## The two paths -/

/-- The file and the temporary file have names of their own in one directory. -/
structure Beside (s : Store) (dir : List String) (name temporary : String)
    (tail : List String) : Prop where
  path_eq : s.path.segments = dir ++ name :: tail
  temporary_eq : s.temporary.segments = dir ++ [temporary]
  tail_silent : tail.all Path.isSilent = true
  isName : Path.IsName name
  isName_temporary : Path.IsName temporary
  ne : temporary ≠ name
  loud : Path.isSilent temporary = false
  ordinary : name ≠ "/"
  ordinary_temporary : temporary ≠ "/"
  direct : s.temporary.Direct

/-- Unless the path names nothing, the temporary file stands beside the file. -/
theorem beside (hs : s.path.Direct) :
    (s.path.segments.all Path.isStep = true ∧ s.temporary = s.path) ∨
      ∃ dir name temporary tail, s.Beside dir name temporary tail := by
  have hext : 1 < "json.tmp".toList.length := by decide
  rcases s.path.withExtension_cases hs "json.tmp" hext with
    h | ⟨dir, name, tail, hname, htail, hp, ht⟩
  · exact .inl h
  · obtain ⟨hloud, hup, hroot⟩ := Path.isSilent_append_dot (Path.cutName name).1 hext
    have hnames : name ≠ ".." ∧ name ≠ "/" := by
      rcases hs.split_at hp with hsteps | ⟨_, _, _, _, hrest⟩
      · simp [hname] at hsteps
      · exact hrest name (by simp)
    have hname' : Path.isSilent name = false := (Bool.or_eq_false_iff.mp hname).1
    exact .inr ⟨dir, name, _, tail, hp, ht, htail, IsName_of_loud hname' hnames.1,
      IsName_of_loud hloud hup, Path.cutName_append_ne name (by decide), hloud, hnames.2, hroot,
      hs.sibling hp hname ht hup hroot⟩

theorem Beside.endsInStep {dir tail : List String} {name temporary : String}
    (h : s.Beside dir name temporary tail) (hne : tail ≠ []) : EndsInStep s.path := by
  have hp : s.path.segments = (dir ++ [name]) ++ tail := by rw [h.path_eq, List.append_cons]
  exact endsInStep_of_tail hp hne (Path.all_isStep h.tail_silent)

/-- Either the path ends with a step, or its last name is that of the file. -/
theorem endsInStep_or_beside (hs : s.path.Direct) :
    EndsInStep s.path ∨ ∃ dir name temporary, s.Beside dir name temporary [] := by
  rcases s.beside hs with ⟨hsteps, _⟩ | ⟨dir, name, temporary, tail, hbeside⟩
  · exact .inl (endsInStep_of_all hsteps)
  · cases tail with
    | nil => exact .inr ⟨dir, name, temporary, hbeside⟩
    | cons first tail => exact .inl (hbeside.endsInStep (List.cons_ne_nil _ _))

/-! ## What is loaded -/

/-- The queue that is loaded from these bytes. -/
def decoded (bytes : ByteArray) : Progress :=
  match String.fromUTF8? bytes with
  | none => .empty
  | some text => (Progress.parse? text).getD .empty

theorem load_eq (s : Store) (t : FileTree) :
    s.load t = match t.read s.path with
      | .error _ => .empty
      | .ok bytes => decoded bytes := by
  rw [load, readText]
  cases t.read s.path with
  | error e => rfl
  | ok bytes =>
      simp only [bind, Except.bind, decoded]
      cases String.fromUTF8? bytes <;> rfl

/-- What is loaded depends on what is read. -/
theorem load_congr (h : ∀ bytes, t'.read s.path = .ok bytes ↔ t.read s.path = .ok bytes) :
    s.load t' = s.load t := by
  rw [load_eq, load_eq]
  cases hread : t.read s.path with
  | ok bytes => rw [(h bytes).mpr hread]
  | error e =>
      cases hread' : t'.read s.path with
      | ok bytes =>
          rw [(h bytes).mp hread'] at hread
          cases hread
      | error e' => rfl

theorem load_of_read_ne_ok (h : ∀ bytes, t.read s.path ≠ .ok bytes) : s.load t = .empty := by
  rw [load_eq]
  cases hread : t.read s.path with
  | ok bytes => exact absurd hread (h bytes)
  | error e => rfl

theorem decoded_print (q : Progress) : decoded q.print.toUTF8 = q := by
  have htext : String.fromUTF8? q.print.toUTF8 = some q.print := by
    have hvalid : q.print.toUTF8.IsValidUTF8 := q.print.isValidUTF8
    rw [String.fromUTF8?, dif_pos hvalid]
    rfl
  simp only [decoded, htext, Progress.parse?_print, Option.getD_some]

/-- A file with the document of a queue is loaded as the queue. -/
theorem load_of_read_eq_ok (h : t.read s.path = .ok q.print.toUTF8) : s.load t = q := by
  rw [load_eq, h]
  exact decoded_print q

theorem load_of_endsInStep (h : EndsInStep s.path) (t : FileTree) : s.load t = .empty :=
  load_of_read_ne_ok h.read_ne_ok

/-! ## Directories -/

theorem Beside.above {dir tail : List String} {name temporary : String} {a : Path}
    (h : s.Beside dir name temporary tail) (ha : Path.Above a s.path) :
    Path.Above a s.temporary :=
  ha.sibling h.path_eq h.tail_silent h.temporary_eq h.loud

/-- Making directories above the file keeps what is loaded. -/
theorem Hosts.of_madeAbove (hs : s.Hosts t) (h : MadeAbove s.path t t') :
    s.Hosts t' ∧ s.load t' = s.load t := by
  -- if a path is a link afterwards, no directory above it was missing and the tree is the same
  refine ⟨⟨hs.direct, h.wellFormed hs.direct hs.wellFormed, ?_, fun hlink => ?_, fun hlink => ?_⟩,
    load_congr (h.read_eq_ok_iff hs.direct hs.wellFormed)⟩
  · rcases s.beside hs.direct with ⟨_, heq⟩ | ⟨dir, name, temporary, tail, hbeside⟩
    · intro hlink
      have hsame : t' = t := h.eq_of_linkAt hs.direct hs.wellFormed (heq ▸ hlink)
      exact hs.temporary_not_link (hsame ▸ hlink)
    · intro hlink
      have hsame : t' = t :=
        (h.mono fun a => hbeside.above).eq_of_linkAt hbeside.direct hs.wellFormed hlink
      exact hs.temporary_not_link (hsame ▸ hlink)
  · obtain rfl : t' = t := h.eq_of_linkAt hs.direct hs.wellFormed hlink
    exact hs.apart hlink
  · obtain rfl : t' = t := h.eq_of_linkAt hs.direct hs.wellFormed hlink
    exact hs.outside hlink

/-- A save that comes through. -/
theorem write_eq_of_steps {t₁ t₂ t₃ : FileTree} (hprepare : s.prepare t = (t₁, .ok ()))
    (hstage : t₁.write s.temporary q.print.toUTF8 = .ok t₂)
    (hcommit : t₂.rename s.temporary s.path = .ok t₃) : s.write t q = (t₃, true) := by
  have hstage' : s.stage t₁ q = .ok t₂ := hstage
  have hcommit' : s.commit t₂ = .ok t₃ := hcommit
  simp only [write, hprepare, hstage', hcommit']

theorem prepare_madeAbove (s : Store) (t : FileTree) : MadeAbove s.path t (s.prepare t).1 := by
  rw [prepare]
  cases hparent : s.path.parent? with
  | none => exact .refl
  | some dir =>
      dsimp only
      by_cases hempty : dir.isEmpty
      · rw [if_pos hempty]
        exact .refl
      · rw [if_neg hempty]
        exact createUpward_madeAbove _ t dir (Path.above_of_parent? hparent)

/-! ## Files

Writing the temporary file, moving it and removing the file change files only. So the two paths
lead where they led before, and where the temporary file is written nothing of the file is seen. -/

/-- The temporary file and the file are two. -/
theorem Beside.key_ne {dir tail : List String} {name temporary : String} {key key' : Key}
    (h : s.Beside dir name temporary tail) {t t' : FileTree}
    (hkey : t.PointsTo s.temporary dir temporary key)
    (hkey' : t'.PointsTo s.path dir name key') : key' ≠ key := by
  obtain ⟨_, _, _, k, _, rfl⟩ := hkey
  obtain ⟨_, _, _, k', _, rfl⟩ := hkey'
  intro heq
  exact h.ne (List.singleton_inj.mp (List.append_inj' heq rfl).2).symm

theorem not_linkAt_of_steps (h : s.path.segments.all Path.isStep = true) : ¬ t.LinkAt s.path :=
  (endsInStep_of_all h).not_linkAt

/-- With fewer ways, neither path becomes a link. -/
theorem linkAt_of_keepsWays (hs : s.path.Direct) (hways : KeepsWays t' t) :
    (t'.LinkAt s.path → t.LinkAt s.path) ∧ (t'.LinkAt s.temporary → t.LinkAt s.temporary) := by
  rcases s.beside hs with ⟨hsteps, heq⟩ | ⟨dir, name, temporary, tail, hbeside⟩
  · rw [heq]
    exact ⟨fun h => absurd h (not_linkAt_of_steps hsteps),
      fun h => absurd h (not_linkAt_of_steps hsteps)⟩
  · refine ⟨fun h => ?_, hways.linkAt hbeside.temporary_eq hbeside.isName_temporary⟩
    cases tail with
    | nil => exact hways.linkAt hbeside.path_eq hbeside.isName h
    | cons first tail => exact absurd h (hbeside.endsInStep (List.cons_ne_nil _ _)).not_linkAt

theorem Hosts.of_sameWays (hs : s.Hosts t) (hsame : SameWays t t') (ht : t'.WellFormed) :
    s.Hosts t' := by
  obtain ⟨hpath, htemporary⟩ := linkAt_of_keepsWays hs.direct hsame.back
  refine ⟨hs.direct, ht, mt htemporary hs.temporary_not_link, fun hlink key hfound hfound' => ?_,
    fun hlink => hsame.outside (hs.outside (hpath hlink))⟩
  exact hs.apart (hpath hlink) key (hsame.symm.findsAt hfound) (hsame.symm.findsAt hfound')

/-- Writing the temporary file, in whole or in part, keeps what is loaded. -/
theorem Hosts.of_write_temporary {bytes : ByteArray} (hs : s.Hosts t)
    (h : t.write s.temporary bytes = .ok t') : s.Hosts t' ∧ s.load t' = s.load t := by
  rcases s.beside hs.direct with ⟨hsteps, heq⟩ | ⟨dir, name, temporary, tail, hbeside⟩
  · rw [heq] at h
    exact absurd h (write_steps hsteps bytes)
  obtain ⟨key, hkey, hw, rfl⟩ := of_write_eq_ok hbeside.temporary_eq hbeside.isName_temporary
    hs.temporary_not_link h
  have hord := hkey.ordinary hbeside.isName_temporary hbeside.ordinary_temporary
  have hsame := hw.sameWays_insert hord.ne_nil bytes
  have hs' := hs.of_sameWays hsame (hkey.wellFormed_insert hs.wellFormed hw.ne_directory _)
  refine ⟨hs', ?_⟩
  cases tail with
  | cons first tail =>
      have hend := hbeside.endsInStep (List.cons_ne_nil _ _)
      rw [load_of_endsInStep hend, load_of_endsInStep hend]
  | nil =>
      refine load_congr fun found => ?_
      by_cases hlink : t.LinkAt s.path
      · -- a link leads to another file
        have htemporary := hkey.findsAt hbeside.temporary_eq hbeside.isName_temporary hw
        rw [read_eq_ok_iff_finds, read_eq_ok_iff_finds]
        refine exists_congr fun key' => ?_
        rw [hsame.findsAt_iff]
        refine and_congr_right fun hfound => ?_
        have hne : key' ≠ key := by
          rintro rfl
          exact hs.apart hlink key' hfound htemporary
        rw [get?_insert_of_ne hne]
      · -- without a link the two paths point to siblings
        have hlink' : ¬ (t.insert key (.file bytes)).LinkAt s.path :=
          mt (linkAt_of_keepsWays hs.direct hsame.back).1 hlink
        rw [read_eq_ok_iff hbeside.path_eq hbeside.isName hlink',
          read_eq_ok_iff hbeside.path_eq hbeside.isName hlink]
        refine exists_congr fun key' => ?_
        rw [hsame.pointsTo_iff]
        refine and_congr_right fun hkey' => ?_
        rw [get?_insert_of_ne (hbeside.key_ne hkey hkey')]

/-- The directory of the file is reached without the file. -/
theorem Hosts.pointsTo_erase {dir : List String} {name temporary : String} {key : Key}
    (hs : s.Hosts t) (hbeside : s.Beside dir name temporary [])
    (hkey : t.PointsTo s.path dir name key) (hnot : t.get? key ≠ some .directory) :
    (t.erase key).PointsTo s.path dir name key := by
  by_cases hlink : t.LinkAt s.path
  · exact hs.outside hlink dir name key hbeside.path_eq hbeside.isName hkey
  · have hw : t.Writable key :=
      writable_of_not hnot (hkey.not_link hbeside.path_eq hbeside.isName hlink)
    have hord := hkey.ordinary hbeside.isName hbeside.ordinary
    exact (hw.sameWays_erase hord.ne_nil).pointsTo_iff.mpr hkey

/-- A file that takes the place of the file is read. -/
theorem Hosts.of_moved {dir : List String} {name temporary : String} {key key' : Key}
    {bytes : ByteArray} (hs : s.Hosts t) (hbeside : s.Beside dir name temporary [])
    (hkey : t.PointsTo s.temporary dir temporary key) (hget : t.get? key = some (.file bytes))
    (hkey' : t.PointsTo s.path dir name key') (hnot : t.get? key' ≠ some .directory) :
    s.Hosts ((t.erase key).insert key' (.file bytes)) ∧
      ((t.erase key).insert key' (.file bytes)).read s.path = .ok bytes := by
  have hord := hkey.ordinary hbeside.isName_temporary hbeside.ordinary_temporary
  have hord' := hkey'.ordinary hbeside.isName hbeside.ordinary
  have hne := hbeside.key_ne hkey hkey'
  have hfile : t.Writable key := writable_of_file hget
  have herased := hfile.sameWays_erase hord.ne_nil
  have hplaced := get?_insert_self (t := t.erase key) (n := .file bytes) hord'.ne_nil
  have hways : KeepsWays ((t.erase key).insert key' (.file bytes)) t :=
    (KeepsWays.of_insert_file hord'.ne_nil).trans herased.back
  -- the way to the directory does not lead over what is replaced
  have hpoints : ((t.erase key).insert key' (.file bytes)).PointsTo s.path dir name key' := by
    have hdirectory := (herased.erase hord'.ne_nil).pointsTo_iff.mpr
      (hs.pointsTo_erase hbeside hkey' hnot)
    exact (KeepsWays.of_erase_insert hord'.ne_nil).pointsTo hdirectory
  have hpath : ¬ ((t.erase key).insert key' (.file bytes)).LinkAt s.path :=
    hpoints.not_linkAt hbeside.path_eq hbeside.isName (by simp [hplaced])
  refine ⟨⟨hs.direct, ?_, ?_, fun hlink => absurd hlink hpath, fun hlink => absurd hlink hpath⟩, ?_⟩
  · refine (herased.pointsTo_iff.mpr hkey').wellFormed_insert
      (hs.wellFormed.erase hfile.ne_directory hord) ?_ _
    rwa [get?_erase_of_ne hne]
  · exact mt (linkAt_of_keepsWays hs.direct hways).2 hs.temporary_not_link
  · exact (read_eq_ok_iff hbeside.path_eq hbeside.isName hpath).mpr ⟨key', hpoints, hplaced⟩

/-- When the temporary file has been written and takes the place of the file, what it holds is
read. -/
theorem Hosts.of_rename {bytes : ByteArray} (hs : s.Hosts t) {staged : FileTree}
    (h : t.write s.temporary bytes = .ok staged) (h' : staged.rename s.temporary s.path = .ok t') :
    s.Hosts t' ∧ t'.read s.path = .ok bytes := by
  have hstaged := (hs.of_write_temporary h).1
  rcases s.endsInStep_or_beside hs.direct with hend | ⟨dir, name, temporary, hbeside⟩
  · exact absurd h' (hend.rename_ne_ok _)
  obtain ⟨key, hkey, hw, hins⟩ := of_write_eq_ok hbeside.temporary_eq hbeside.isName_temporary
    hs.temporary_not_link h
  have hord := hkey.ordinary hbeside.isName_temporary hbeside.ordinary_temporary
  have hsame : SameWays t staged := hins ▸ hw.sameWays_insert hord.ne_nil bytes
  obtain ⟨key₁, key', n, hkey₁, hget₁, hkey', hnot, hmoved⟩ := of_rename_eq_ok
    hbeside.temporary_eq hbeside.isName_temporary hbeside.path_eq hbeside.isName h'
  -- what is moved is what has been written
  obtain rfl : key = key₁ := hkey.unique (hsame.pointsTo_iff.mp hkey₁)
  obtain rfl : n = .file bytes := by
    rw [hins, get?_insert_self hord.ne_nil] at hget₁
    exact (Option.some.inj hget₁).symm
  have hne := hbeside.key_ne hkey₁ hkey'
  obtain ⟨_, rfl⟩ := hmoved.resolve_left fun h => hne h.1
  exact hstaged.of_moved hbeside hkey₁ hget₁ hkey' hnot

/-- Removing the file leaves nothing to load. -/
theorem Hosts.of_removeFile (hs : s.Hosts t) (h : t.removeFile s.path = .ok t') :
    s.Hosts t' ∧ s.load t' = .empty := by
  rcases s.endsInStep_or_beside hs.direct with hend | ⟨dir, name, temporary, hbeside⟩
  · exact absurd h hend.removeFile_ne_ok
  obtain ⟨key, hkey, hnot, rfl⟩ := of_removeFile_eq_ok hbeside.path_eq hbeside.isName h
  have hord := hkey.ordinary hbeside.isName hbeside.ordinary
  have hgone := get?_erase_self (t := t) hord.ne_nil
  have hpoints := hs.pointsTo_erase hbeside hkey hnot
  have hpath : ¬ (t.erase key).LinkAt s.path :=
    hpoints.not_linkAt hbeside.path_eq hbeside.isName (by simp [hgone])
  refine ⟨⟨hs.direct, hs.wellFormed.erase hnot hord, ?_, fun hlink => absurd hlink hpath,
    fun hlink => absurd hlink hpath⟩, load_of_read_ne_ok fun bytes hread => ?_⟩
  · exact mt (linkAt_of_keepsWays hs.direct (.of_erase hord.ne_nil)).2 hs.temporary_not_link
  · rw [read_eq_ok_iff hbeside.path_eq hbeside.isName hpath] at hread
    obtain ⟨key', hkey', hget⟩ := hread
    rw [← hpoints.unique hkey', hgone] at hget
    cases hget

/-! ## Saves, whole and cut short -/

/-- **A save is all or nothing.** When it succeeds the queue is loaded from then on, and when it
fails what was loaded before. -/
theorem Hosts.of_write (hs : s.Hosts t) (q : Progress) :
    s.Hosts (s.write t q).1 ∧
      s.load (s.write t q).1 = if (s.write t q).2 then q else s.load t := by
  have hprepared := hs.of_madeAbove (s.prepare_madeAbove t)
  rw [write]
  rcases hprepare : s.prepare t with ⟨t₁, e | ok⟩
  · rw [hprepare] at hprepared
    exact ⟨hprepared.1, by simpa using hprepared.2⟩
  · rw [hprepare] at hprepared
    cases hstage : s.stage t₁ q with
    | error e =>
        simp only [hstage]
        exact ⟨hprepared.1, by simpa using hprepared.2⟩
    | ok t₂ =>
        have hstaged := hprepared.1.of_write_temporary hstage
        cases hcommit : s.commit t₂ with
        | error e =>
            simp only [hstage, hcommit]
            exact ⟨hstaged.1, by simpa using hstaged.2.trans hprepared.2⟩
        | ok t₃ =>
            have hcommitted := hprepared.1.of_rename hstage hcommit
            simp only [hstage, hcommit]
            exact ⟨hcommitted.1, by simpa using load_of_read_eq_ok hcommitted.2⟩

/-- **A save that is cut short** leaves the old queue or the new one. -/
theorem Hosts.of_cut (hs : s.Hosts t) (h : s.Cut t q t') :
    s.Hosts t' ∧ (s.load t' = s.load t ∨ s.load t' = q) := by
  cases h with
  | preparing hmade =>
      obtain ⟨hs', hload⟩ := hs.of_madeAbove hmade
      exact ⟨hs', .inl hload⟩
  | staging n hprepare hstage =>
      have hprepared := hs.of_madeAbove (s.prepare_madeAbove t)
      rw [hprepare] at hprepared
      obtain ⟨hs', hload⟩ := hprepared.1.of_write_temporary hstage
      exact ⟨hs', .inl (hload.trans hprepared.2)⟩
  | finished =>
      obtain ⟨hs', hload⟩ := hs.of_write q
      refine ⟨hs', ?_⟩
      rw [hload]
      by_cases hok : (s.write t q).2 = true
      · exact .inr (if_pos hok)
      · exact .inl (if_neg hok)

/-- After a reset there is nothing to load, unless the file could not be removed. -/
theorem Hosts.of_reset (hs : s.Hosts t) {existed : Bool} (h : s.reset t = .ok (t', existed)) :
    s.Hosts t' ∧ s.load t' = .empty := by
  rw [reset] at h
  cases hremove : t.removeFile s.path with
  | ok t₁ =>
      rw [hremove] at h
      cases h
      exact hs.of_removeFile hremove
  | error e =>
      rw [hremove] at h
      cases e <;> cases h
      -- a file that is read is found when it is to be removed
      refine ⟨hs, load_of_read_ne_ok fun bytes hread => ?_⟩
      rcases s.endsInStep_or_beside hs.direct with hend | ⟨dir, name, temporary, hbeside⟩
      · exact hend.read_ne_ok bytes hread
      · obtain ⟨key, n, hkey, hget⟩ := pointsTo_of_read hbeside.path_eq hbeside.isName hread
        exact removeFile_ne_notFound hbeside.path_eq hbeside.isName hkey hget hremove

end Store

end SourceTutor
