import SourceTutor.Proofs.Json.Prefix
import SourceTutor.Queue.Document

/-!
# The document of a queue holds the queue

Whatever characters the items have, a queue that is written and read again is the same queue, and
of a document that is cut short nothing else can be read.
-/

set_option autoImplicit false

namespace SourceTutor.Progress

open SourceTutor.Json

theorem exactElements_ofText (items : List String) : ExactElements (items.map .ofText) := by
  induction items with
  | nil => trivial
  | cons item items ih => exact ⟨rfl, ih⟩

theorem exact_toJson (q : Progress) : Exact q.toJson := by
  have hlast : Exact (.ofText? q.lastRun) := by
    cases q.lastRun <;> simp [Json.ofText?, Json.ofText, Exact]
  simp [toJson, Json.record, Json.ofTexts, Exact, ExactMembers, exactElements_ofText, hlast]

theorem mapM_asText? (items : List String) :
    (items.map Json.ofText).mapM asText? = some items := by
  induction items with
  | nil => rfl
  | cons item items ih =>
      rw [List.map_cons, List.mapM_cons, ih]
      rfl

theorem ofJson?_toJson (q : Progress) : ofJson? q.toJson = some q := by
  have hfields : fields? ["pending", "completed", "failed", "last_run"] q.toJson =
      some [some (.ofTexts q.pending), some (.ofTexts q.completed), some (.ofTexts q.failed),
        some (.ofText? q.lastRun)] := by
    simp [fields?, toJson, Json.record, member?, valuesOf]
  have hlist : ∀ items, required? (asList? asText?) (some (Json.ofTexts items)) = some items :=
    mapM_asText?
  have hlast : defaulted? none (asOptional? asText?) (some (Json.ofText? q.lastRun)) =
      some q.lastRun := by
    cases q.lastRun <;> rfl
  simp only [ofJson?, hfields, hlist, hlast, Option.bind_eq_bind, Option.bind_some]

/-- The document of a queue is read as the value it is written from. -/
theorem json_parse?_print (q : Progress) : Json.parse? q.print = some q.toJson :=
  Json.parse?_print (exact_toJson q) (List.all_eq_true.mp (by decide))

/-- **A queue survives its document.** -/
theorem parse?_print (q : Progress) : parse? q.print = some q := by
  rw [parse?, json_parse?_print]
  exact ofJson?_toJson q

/-! ## Documents that are cut short -/

theorem ofJson?_of_isScalar {v : Json} (h : v.isScalar = true) : ofJson? v = none := by
  cases v <;> first | rfl | cases h

/-- The beginning of a document is the document of the queue or of none. -/
theorem parse?_eq_of_append {q q' : Progress} {s more : String} (h : parse? s = some q')
    (hs : q.print = s ++ more) : q' = q := by
  obtain ⟨v, hv, hq'⟩ := Option.bind_eq_some_iff.mp h
  have hw : Json.parse? (s ++ more) = some q.toJson := by
    rw [← hs]
    exact json_parse?_print q
  rcases Json.parse?_append hv hw with rfl | hscalar
  · rw [ofJson?_toJson] at hq'
    exact (Option.some.inj hq').symm
  · rw [ofJson?_of_isScalar hscalar] at hq'
    cases hq'

/-- A text that is decoded from the first bytes of another one is its beginning. -/
theorem exists_append_of_extract {s first : String} {n : Nat}
    (h : String.fromUTF8? (s.toUTF8.extract 0 n) = some first) : ∃ rest, s = first ++ rest := by
  rw [String.fromUTF8?] at h
  split at h
  · have hbytes : first.toByteArray = s.toByteArray.extract 0 n := by
      rw [← Option.some.inj h]
      rfl
    -- a text whose bytes begin the bytes of another one begins the other one
    have hprefix : first.toList <+: s.toList := by
      apply List.isPrefix_of_utf8Encode_append_eq_utf8Encode
        (s.toByteArray.extract n s.toByteArray.size)
      rw [String.utf8Encode_toList, String.utf8Encode_toList, hbytes,
        ByteArray.extract_append_extract, Nat.zero_min, ByteArray.extract_zero_max_size]
    obtain ⟨rest, hrest⟩ := hprefix
    refine ⟨String.ofList rest, ?_⟩
    rw [← String.ofList_toList (s := s), ← hrest, String.ofList_append, String.ofList_toList]
  · cases h

end SourceTutor.Progress
