import SourceTutor.Proofs.Lesson.Completing
import SourceTutor.Proofs.Text.Utf8

/-!
# Reading loses nothing

`Represents` says what the text of a file is: the text whose encoding the bytes are, and one
character per byte when they are malformed. Either way the bytes can be had back from it. Such a text
is what a file is explained by (`Analyzer.process_of_readable`).
-/

set_option autoImplicit false

namespace SourceTutor

/-! ## Bytes as a list -/

namespace Text

variable {bytes : ByteArray} {text : String}

theorem toList_loop (bytes : ByteArray) (i : Nat) (read : List UInt8) :
    ByteArray.toList.loop bytes i read = read.reverse ++ bytes.data.toList.drop i := by
  fun_induction ByteArray.toList.loop bytes i read with
  | case1 i read h ih =>
      have hi : i < bytes.data.toList.length := h
      have hget : bytes.get! i = bytes.data.toList[i] := by
        rw [ByteArray.get!, Array.getElem_toList]
        exact getElem!_pos bytes.data i h
      rw [ih, List.reverse_cons, List.append_assoc, List.drop_eq_getElem_cons hi, hget]
      rfl
  | case2 i read h =>
      have hi : bytes.data.toList.length ≤ i := Nat.le_of_not_lt h
      rw [List.drop_eq_nil_of_le hi, List.append_nil]

theorem toList_eq (bytes : ByteArray) : bytes.toList = bytes.data.toList := by
  rw [ByteArray.toList, toList_loop]
  rfl

theorem toByteArray_toList (bytes : ByteArray) : bytes.toList.toByteArray = bytes := by
  apply ByteArray.ext
  apply Array.toList_inj.mp
  rw [List.toList_data_toByteArray, toList_eq]

/-- The bytes of a text are the encodings of its characters. -/
theorem toList_toUTF8 (s : String) : s.toUTF8.toList = s.toList.flatMap String.utf8EncodeChar := by
  have hbytes : s.toUTF8 = (s.toList.flatMap String.utf8EncodeChar).toByteArray :=
    String.utf8Encode_toList.symm
  rw [hbytes, toList_eq, List.toList_data_toByteArray]

/-- Bytes are malformed when they are the encoding of no text. -/
theorem malformed_iff (bytes : ByteArray) :
    Malformed bytes.toList ↔ ∀ s : String, bytes ≠ s.toUTF8 := by
  constructor
  · rintro h s rfl
    rw [toList_toUTF8] at h
    exact not_malformed_encode s.toList h
  · intro h
    rcases encoded_or_malformed bytes.toList with ⟨s, hs⟩ | hmalformed
    · refine absurd ?_ (h (String.ofList s))
      rw [← toByteArray_toList bytes, hs, ← toByteArray_toList (String.ofList s).toUTF8,
        toList_toUTF8, String.toList_ofList]
    · exact hmalformed

/-! ## Decoding -/

/-- The text stands for the bytes: it is the one whose encoding they are, and if there is none, it
has one character per byte, with the value of the byte as its code point. So its encoding, and its
code points taken as bytes, are the bytes again. There is no such text exactly if the bytes are
malformed. -/
structure Represents (bytes : ByteArray) (text : String) : Prop where
  encoded : ∀ s : String, bytes = s.toUTF8 → text = s
  single : (∀ s : String, bytes ≠ s.toUTF8) →
    text.toList.map Char.toNat = bytes.toList.map UInt8.toNat
  encoded_back : (∃ s : String, bytes = s.toUTF8) → text.toUTF8 = bytes
  single_back : (∀ s : String, bytes ≠ s.toUTF8) →
    (text.toList.map fun c => UInt8.ofNat c.toNat).toByteArray = bytes
  malformed : (∀ s : String, bytes ≠ s.toUTF8) ↔ Malformed bytes.toList

theorem fromUTF8?_toUTF8 (s : String) : String.fromUTF8? s.toUTF8 = some s := by
  have hvalid : s.toUTF8.IsValidUTF8 := s.isValidUTF8
  rw [String.fromUTF8?, dif_pos hvalid]
  rfl

theorem eq_toUTF8_of_fromUTF8? (h : String.fromUTF8? bytes = some text) : bytes = text.toUTF8 := by
  rw [String.fromUTF8?] at h
  split at h
  · rw [← Option.some.inj h]
    rfl
  · cases h

/-- The code points of the text with one character per byte are the bytes. -/
theorem map_toNat_ofBytes (bytes : ByteArray) :
    (ofBytes bytes).toList.map Char.toNat = bytes.toList.map UInt8.toNat := by
  rw [ofBytes, String.toList_ofList, List.map_map]
  apply List.map_congr_left
  intro b _
  have hlt := b.toNat_lt
  have hvalid : b.toNat.isValidChar := .inl (by omega)
  show (Char.ofNat b.toNat).toNat = b.toNat
  rw [Char.ofNat, dif_pos hvalid]
  rfl

/-- **What is decoded stands for the bytes**, whatever they are. -/
theorem represents_decode (bytes : ByteArray) : Represents bytes (decode bytes) := by
  have hencoded : ∀ s : String, bytes = s.toUTF8 → decode bytes = s := by
    rintro s rfl
    rw [decode, fromUTF8?_toUTF8]
  have hsingle : (∀ s : String, bytes ≠ s.toUTF8) → decode bytes = ofBytes bytes := by
    intro hnone
    rw [decode]
    split
    · rename_i s hs
      exact absurd (eq_toUTF8_of_fromUTF8? hs) (hnone s)
    · rfl
  exact {
    encoded := hencoded
    single := by
      intro hnone
      rw [hsingle hnone, map_toNat_ofBytes]
    encoded_back := by
      rintro ⟨s, hs⟩
      rw [hencoded s hs, hs]
    single_back := by
      intro hnone
      have hback := congrArg (List.map UInt8.ofNat) (map_toNat_ofBytes bytes)
      simp only [List.map_map, Function.comp_def, UInt8.ofNat_toNat, List.map_id'] at hback
      rw [hsingle hnone, hback, toByteArray_toList]
    malformed := (malformed_iff bytes).symm }

end Text

/-! ## Explaining what is read -/

namespace Lesson

open FileTree Text

/-- The world in which one more item is finished. -/
def World.counted (w : World) : World := { w with finished := w.finished + 1 }

/-- **A file that can be read is explained by a text that stands for its bytes.** -/
theorem Analyzer.process_of_readable (a : Analyzer) (around : Surroundings) (item : String)
    (w : World) (bytes : ByteArray) (h : w.tree.read (.ofString item) = .ok bytes) :
    ∃ text, Represents bytes text ∧
      a.process around item w =
        ((a.explain around item text w).1, (a.explain around item text w).2.counted) := by
  refine ⟨decode bytes, represents_decode bytes, ?_⟩
  rw [process, h]
  rfl

/-- The comment `/* café */` with a byte for each character; the fourth letter continues nothing
and is continued by nothing. -/
def latin : ByteArray := ⟨#[0x2F, 0x2A, 0x20, 0x63, 0x61, 0x66, 0xE9, 0x20, 0x2A, 0x2F]⟩

/-- A tree with the comment. -/
def legacy : FileTree := ⟨[(["a.c"], .file latin)]⟩

theorem read_legacy : legacy.read (.ofString "a.c") = .ok latin := by
  have hbare : (Path.ofString "a.c").IsBare "a.c" :=
    ⟨by decide, by simp [Path.IsName], by decide, by decide⟩
  exact read_bare_file hbare rfl

theorem Analyzer.process_of_readable_legacy :
    legacy.read (.ofString "a.c") = .ok latin ∧
      ∃ text, Represents latin text ∧
        explainer.process chatty "a.c" (.start legacy) =
          ((explainer.explain chatty "a.c" text (.start legacy)).1,
            (explainer.explain chatty "a.c" text (.start legacy)).2.counted) :=
  ⟨read_legacy, explainer.process_of_readable chatty "a.c" (.start legacy) latin read_legacy⟩

end Lesson

end SourceTutor
