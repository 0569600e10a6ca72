import SourceTutor.Proofs.FileTree.Finds
import SourceTutor.Proofs.Queue.Register

/-!
# What a save leaves behind links

Where the file of the queue or the temporary file is a symbolic link, a queue that has been saved
may be lost: the temporary file may be the file itself, which is then written in place, and the link
that takes its place leads nowhere. But nothing else comes to light. As long as the path of the file
goes up at its start only, a save that stops anywhere leaves the old queue, the new one or none
(`load_of_cut`), and a reset leaves the old one or none (`load_of_reset`).
-/

set_option autoImplicit false

namespace SourceTutor.Store

open FileTree

variable {s : Store} {t t' : FileTree} {q : Progress}

/-- From the first bytes of a document the queue is loaded, or nothing. -/
theorem decoded_extract (q : Progress) (n : Nat) :
    decoded (q.print.toUTF8.extract 0 n) = .empty ∨
      decoded (q.print.toUTF8.extract 0 n) = q := by
  rw [decoded]
  cases htext : String.fromUTF8? (q.print.toUTF8.extract 0 n) with
  | none => exact .inl rfl
  | some text =>
      obtain ⟨rest, hrest⟩ := Progress.exists_append_of_extract htext
      dsimp only
      cases hparse : Progress.parse? text with
      | none => exact .inl rfl
      | some q' => exact .inr (Progress.parse?_eq_of_append hparse hrest)

/-- Nothing is loaded, or what the bytes of the file hold. -/
theorem load_cases (s : Store) (t : FileTree) :
    s.load t = .empty ∨ ∃ bytes, t.read s.path = .ok bytes ∧ s.load t = decoded bytes := by
  rw [load_eq]
  cases t.read s.path with
  | error e => exact .inl rfl
  | ok bytes => exact .inr ⟨bytes, rfl, rfl⟩

/-- Where only these bytes are read besides what was read before, only they are loaded. -/
theorem load_of_read {bytes : ByteArray}
    (h : ∀ found, t'.read s.path = .ok found → found = bytes ∨ t.read s.path = .ok found) :
    s.load t' = .empty ∨ s.load t' = decoded bytes ∨ s.load t' = s.load t := by
  rcases s.load_cases t' with hload | ⟨found, hread, hload⟩
  · exact .inl hload
  · rcases h found hread with rfl | hold
    · exact .inr (.inl hload)
    · rw [s.load_eq t, hold]
      exact .inr (.inr hload)

theorem Beside.home_eq {dir tail : List String} {name temporary : String}
    (h : s.Beside dir name temporary tail) : s.temporary.home = s.path.home := by
  have hloud : Path.isSilent name = false := by
    simp [Path.isSilent, h.isName.1, h.isName.2.1]
  rw [Path.home, Path.home, Path.isAbsolute_congr h.temporary_eq h.path_eq h.loud hloud]

theorem load_of_madeAbove (hs : s.path.Direct) (ht : t.WellFormed)
    (h : MadeAbove s.path t t') : t'.WellFormed ∧ s.load t' = s.load t :=
  ⟨h.wellFormed hs ht, load_congr (h.read_eq_ok_iff hs ht)⟩

/-- The temporary file is written, or the beginning of it. -/
theorem load_of_write_temporary (ht : t.WellFormed) {bytes : ByteArray}
    (hbytes : decoded bytes = .empty ∨ decoded bytes = q)
    (h : t.write s.temporary bytes = .ok t') :
    t'.WellFormed ∧ (s.load t' = .empty ∨ s.load t' = q ∨ s.load t' = s.load t) := by
  obtain ⟨ht', hread⟩ := read_of_write h ht
  refine ⟨ht', ?_⟩
  rcases load_of_read (hread s.path) with hload | hload | hload
  · exact .inl hload
  · rw [hload]
    exact hbytes.imp_right .inl
  · exact .inr (.inr hload)

/-- The temporary file is written and takes the place of the file. -/
theorem load_of_commit (hs : s.path.Direct) (ht : t.WellFormed) {staged : FileTree}
    (h : s.stage t q = .ok staged) (h' : s.commit staged = .ok t') :
    t'.WellFormed ∧ (s.load t' = .empty ∨ s.load t' = q ∨ s.load t' = s.load t) := by
  rcases s.endsInStep_or_beside hs with hend | ⟨dir, name, temporary, hbeside⟩
  · exact absurd h' (hend.rename_ne_ok _)
  obtain ⟨ht', hread⟩ := read_of_rename hbeside.temporary_eq hbeside.isName_temporary
    hbeside.ordinary_temporary hbeside.path_eq hbeside.isName hbeside.home_eq ht h h'
  refine ⟨ht', ?_⟩
  have hload := load_of_read (hread s.path)
  rwa [decoded_print] at hload

/-- **A save that stops somewhere** leaves the old queue, the new one or none, whatever links there
are. -/
theorem load_of_cut (hs : s.path.Direct) (ht : t.WellFormed) (h : s.Cut t q t') :
    t'.WellFormed ∧ (s.load t' = .empty ∨ s.load t' = q ∨ s.load t' = s.load t) := by
  have hprepared := load_of_madeAbove hs ht (s.prepare_madeAbove t)
  cases h with
  | preparing hmade => exact (load_of_madeAbove hs ht hmade).imp_right fun h => .inr (.inr h)
  | staging n hprepare hstage =>
      rw [hprepare] at hprepared
      rw [← hprepared.2]
      exact load_of_write_temporary hprepared.1 (decoded_extract q n) hstage
  | finished =>
      rw [write]
      rcases hprepare : s.prepare t with ⟨t₁, e | ok⟩
      · rw [hprepare] at hprepared
        exact hprepared.imp_right fun h => .inr (.inr h)
      · rw [hprepare] at hprepared
        rw [← hprepared.2]
        cases hstage : s.stage t₁ q with
        | error e =>
            simp only [hstage]
            exact ⟨hprepared.1, .inr (.inr trivial)⟩
        | ok t₂ =>
            cases hcommit : s.commit t₂ with
            | error e =>
                -- behind a link the temporary file may be the file itself
                simp only [hstage, hcommit]
                exact load_of_write_temporary hprepared.1 (.inr (decoded_print q)) hstage
            | ok t₃ =>
                simp only [hstage, hcommit]
                exact load_of_commit hs hprepared.1 hstage hcommit

/-- A reset leaves the old queue or none. -/
theorem load_of_reset (hs : s.path.Direct) (ht : t.WellFormed) {existed : Bool}
    (h : s.reset t = .ok (t', existed)) :
    t'.WellFormed ∧ (s.load t' = .empty ∨ s.load t' = s.load t) := by
  rw [reset] at h
  cases hremove : t.removeFile s.path with
  | error e =>
      rw [hremove] at h
      cases e <;> cases h
      exact ⟨ht, .inr rfl⟩
  | ok t₁ =>
      rw [hremove] at h
      cases h
      rcases s.endsInStep_or_beside hs with hend | ⟨dir, name, temporary, hbeside⟩
      · exact absurd hremove hend.removeFile_ne_ok
      obtain ⟨key, hkey, hnot, rfl⟩ := of_removeFile_eq_ok hbeside.path_eq hbeside.isName hremove
      have hord := hkey.ordinary hbeside.isName hbeside.ordinary
      refine ⟨ht.erase hnot hord, (s.load_cases (t.erase key)).imp_right ?_⟩
      rintro ⟨bytes, hread, hload⟩
      rw [hload, load_eq, read_of_erase hord.ne_nil hread]

end SourceTutor.Store
