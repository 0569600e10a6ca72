/-!
# Where UTF-8 is broken

A form is a byte that announces by the ones with which it begins how many continuation bytes follow,
and these bytes; its value is the number in the bits behind the ones. The encoding of a character is
the shortest form of its code point (`encode_spec`, `length_encode_le`). Bytes that are not
the encoding of a text have a `Defect` behind the characters that can be read (`Malformed`), and no
encoding has one: `encoded_or_malformed` and `not_malformed_encode`.
-/

set_option autoImplicit false

namespace SourceTutor.Text

variable {b : UInt8} {form form' next next' rest rest' : List UInt8} {c : Char} {n : Nat}

/-! ## Bytes -/

/-- The byte of so many ones with zeros behind them. -/
def ones : Nat → Nat
  | 0 => 0x00
  | 1 => 0x80
  | 2 => 0xC0
  | 3 => 0xE0
  | 4 => 0xF0
  | 5 => 0xF8
  | 6 => 0xFC
  | 7 => 0xFE
  | _ => 0xFF

/-- The number of ones with which a byte begins. -/
def leadingOnes (b : UInt8) : Nat :=
  if b.toNat < 0x80 then 0
  else if b.toNat < 0xC0 then 1
  else if b.toNat < 0xE0 then 2
  else if b.toNat < 0xF0 then 3
  else if b.toNat < 0xF8 then 4
  else if b.toNat < 0xFC then 5
  else if b.toNat < 0xFE then 6
  else if b.toNat < 0xFF then 7
  else 8

/-- The number in the bits behind the ones with which a byte begins. -/
def carried (b : UInt8) : Nat := b.toNat - ones (leadingOnes b)

/-- A byte lies between the byte of its ones and that of one more. -/
theorem leadingOnes_spec (b : UInt8) :
    ones (leadingOnes b) ≤ b.toNat ∧
      (leadingOnes b < 8 → b.toNat < ones (leadingOnes b + 1)) := by
  have hlt := b.toNat_lt
  unfold leadingOnes
  repeat' split
  all_goals simp only [ones]; omega

theorem leadingOnes_eq (hn : n ≤ 4) (hle : ones n ≤ b.toNat) (hlt : b.toNat < ones (n + 1)) :
    leadingOnes b = n := by
  unfold leadingOnes
  match n with
  | 0 | 1 | 2 | 3 | 4 =>
      simp only [ones] at hle hlt
      repeat' split
      all_goals omega

theorem toNat_eq (b : UInt8) : b.toNat = ones (leadingOnes b) + carried b := by
  have hle := (leadingOnes_spec b).1
  unfold carried
  omega

theorem carried_lt (hb : leadingOnes b = n) (hn : n < 8) : carried b < ones (n + 1) - ones n := by
  obtain ⟨hle, hlt⟩ := leadingOnes_spec b
  have hlt := hlt (by omega)
  rw [hb] at hle hlt
  unfold carried
  rw [hb]
  omega

/-- Two bytes with the same ones and the same number behind them are equal. -/
theorem byte_ext {b b' : UInt8} (hones : leadingOnes b = leadingOnes b')
    (hcarried : carried b = carried b') : b = b' := by
  apply UInt8.toNat_inj.mp
  rw [toNat_eq b, toNat_eq b', hones, hcarried]

/-! ## Forms -/

/-- A single byte without leading ones; or a byte with at least two, and continuation bytes, which
have one, until there are as many bytes as it has ones. -/
inductive IsForm : List UInt8 → Prop
  | single {b : UInt8} : leadingOnes b = 0 → IsForm [b]
  | several {b : UInt8} {next : List UInt8} : 2 ≤ leadingOnes b →
      next.length + 1 = leadingOnes b → (∀ c ∈ next, leadingOnes c = 1) → IsForm (b :: next)

/-- A number with the six bits of a continuation byte behind its own. -/
def extend (v : Nat) (b : UInt8) : Nat := 64 * v + carried b

/-- The number that a form stands for. -/
def value : List UInt8 → Nat
  | [] => 0
  | b :: next => next.foldl extend (carried b)

theorem IsForm.ne_nil (h : IsForm form) : form ≠ [] := by
  cases h <;> exact List.cons_ne_nil _ _

/-- The first byte says where a form ends. -/
theorem IsForm.eq_of_append (h : IsForm form) (h' : IsForm form')
    (heq : form ++ rest = form' ++ rest') : form = form' ∧ rest = rest' := by
  apply List.append_inj heq
  cases h with
  | single hb =>
      cases h' with
      | single hb' => rfl
      | several hb' hnext' _ =>
          obtain rfl := (List.cons.inj heq).1
          omega
  | several hb hnext _ =>
      cases h' with
      | single hb' =>
          obtain rfl := (List.cons.inj heq).1
          omega
      | several hb' hnext' _ =>
          obtain rfl := (List.cons.inj heq).1
          rw [List.length_cons, List.length_cons, hnext, hnext']

/-- The continuation bytes are determined by the number and their count. -/
theorem foldl_extend_inj {v v' : Nat} (hlength : next.length = next'.length)
    (hnext : ∀ c ∈ next, leadingOnes c = 1) (hnext' : ∀ c ∈ next', leadingOnes c = 1)
    (h : next.foldl extend v = next'.foldl extend v') : v = v' ∧ next = next' := by
  induction next generalizing next' v v' with
  | nil =>
      obtain rfl := List.eq_nil_of_length_eq_zero hlength.symm
      exact ⟨h, rfl⟩
  | cons c next ih =>
      cases next' with
      | nil => cases hlength
      | cons c' next' =>
          obtain ⟨hc, hnext⟩ := List.forall_mem_cons.mp hnext
          obtain ⟨hc', hnext'⟩ := List.forall_mem_cons.mp hnext'
          obtain ⟨hsum, rfl⟩ := ih (Nat.succ.inj hlength) hnext hnext' h
          have hlt : carried c < 64 := carried_lt hc (by omega)
          have hlt' : carried c' < 64 := carried_lt hc' (by omega)
          unfold extend at hsum
          have hsame : c = c' := byte_ext (hc.trans hc'.symm) (by omega)
          exact ⟨by omega, by rw [hsame]⟩

/-- Two forms of the same length and value are equal. -/
theorem IsForm.eq_of_value (h : IsForm form) (h' : IsForm form')
    (hlength : form.length = form'.length) (hvalue : value form = value form') :
    form = form' := by
  cases h with
  | single hb =>
      cases h' with
      | single hb' => rw [byte_ext (hb.trans hb'.symm) hvalue]
      | several hb' hnext' _ =>
          simp only [List.length_cons, List.length_nil] at hlength
          omega
  | several hb hnext hall =>
      cases h' with
      | single hb' =>
          simp only [List.length_cons, List.length_nil] at hlength
          omega
      | several hb' hnext' hall' =>
          have hlength := Nat.succ.inj hlength
          obtain ⟨hcarried, rfl⟩ := foldl_extend_inj hlength hall hall' hvalue
          rw [byte_ext (hnext.symm.trans hnext') hcarried]

/-- The values of short forms are bounded. -/
theorem IsForm.value_lt (h : IsForm form) :
    (form.length = 1 → value form < 0x80) ∧ (form.length = 2 → value form < 0x800) ∧
      (form.length = 3 → value form < 0x10000) := by
  cases h with
  | @single b hb => exact ⟨fun _ => carried_lt hb (by omega), nofun, nofun⟩
  | @several b next hb hnext hall =>
      refine ⟨?_, ?_, ?_⟩
      · intro hlength
        rw [List.length_cons] at hlength
        omega
      · intro hlength
        obtain ⟨x, rfl⟩ := List.length_eq_one_iff.mp (Nat.succ.inj hlength)
        have hb : carried b < 32 := carried_lt (n := 2) hnext.symm (by omega)
        have hx : carried x < 64 := carried_lt (hall x (by simp)) (by omega)
        simp only [value, List.foldl_cons, List.foldl_nil, extend]
        omega
      · intro hlength
        obtain ⟨x, next, rfl⟩ := List.exists_cons_of_length_eq_add_one (Nat.succ.inj hlength)
        obtain ⟨y, rfl⟩ := List.length_eq_one_iff.mp (Nat.succ.inj (Nat.succ.inj hlength))
        have hb : carried b < 16 := carried_lt (n := 3) hnext.symm (by omega)
        have hx : carried x < 64 := carried_lt (hall x (by simp)) (by omega)
        have hy : carried y < 64 := carried_lt (hall y (by simp)) (by omega)
        simp only [value, List.foldl_cons, List.foldl_nil, extend]
        omega

/-! ## Characters -/

/-- A byte made of some ones and a number that fits behind them. -/
theorem byte_spec {k : Nat} (hn : n ≤ 4) (hk : k + ones n < ones (n + 1)) :
    leadingOnes (UInt8.ofNat (k + ones n)) = n ∧ carried (UInt8.ofNat (k + ones n)) = k := by
  have hlt : k + ones n < 256 := by
    have hle : ones (n + 1) ≤ 255 := by unfold ones; split <;> omega
    omega
  have hval : (UInt8.ofNat (k + ones n)).toNat = k + ones n := by
    rw [UInt8.toNat_ofNat']
    exact Nat.mod_eq_of_lt hlt
  have hones : leadingOnes (UInt8.ofNat (k + ones n)) = n :=
    leadingOnes_eq hn (by omega) (by omega)
  refine ⟨hones, ?_⟩
  unfold carried
  rw [hval, hones]
  omega

/-- A byte with so many ones and a number behind them, and a continuation byte for each of these. -/
def several (n k : Nat) (sixes : List Nat) : List UInt8 :=
  UInt8.ofNat (k + ones n) :: sixes.map fun d => UInt8.ofNat (d + ones 1)

theorem several_spec {k : Nat} (sixes : List Nat) (hn : 2 ≤ n) (hn' : n ≤ 4)
    (hk : k + ones n < ones (n + 1)) (hlength : sixes.length + 1 = n)
    (hsix : ∀ d ∈ sixes, d < 64) :
    IsForm (several n k sixes) ∧
      value (several n k sixes) = sixes.foldl (fun v d => 64 * v + d) k := by
  obtain ⟨hones, hcarried⟩ := byte_spec hn' hk
  have hbyte : ∀ d ∈ sixes, leadingOnes (UInt8.ofNat (d + ones 1)) = 1 ∧
      carried (UInt8.ofNat (d + ones 1)) = d := by
    intro d hd
    have hlt := hsix d hd
    exact byte_spec (by omega) (by simp only [ones]; omega)
  constructor
  · refine .several (by rw [hones]; exact hn) (by rw [hones, List.length_map, hlength]) ?_
    intro c hc
    obtain ⟨d, hd, rfl⟩ := List.mem_map.mp hc
    exact (hbyte d hd).1
  · simp only [several, value]
    rw [hcarried, List.foldl_map]
    clear hlength hk hones hcarried
    induction sixes generalizing k with
    | nil => rfl
    | cons d sixes ih =>
        have hbyte := List.forall_mem_cons.mp hbyte
        rw [List.foldl_cons, List.foldl_cons, extend, hbyte.1.2]
        exact ih (List.forall_mem_cons.mp hsix).2 hbyte.2

/-- The encoding of a character is a form of its code point, and how long it is. -/
theorem encode_spec (c : Char) :
    IsForm (String.utf8EncodeChar c) ∧ value (String.utf8EncodeChar c) = c.toNat ∧
      (String.utf8EncodeChar c).length =
        if c.toNat < 0x80 then 1 else if c.toNat < 0x800 then 2
        else if c.toNat < 0x10000 then 3 else 4 := by
  have hmax : c.toNat < 0x110000 := by
    rcases c.valid with h | h
    · exact Nat.lt_trans h (by decide)
    · exact h.2
  have hval : c.val.toNat = c.toNat := rfl
  have hmod : ∀ n, n % 64 < 64 := fun n => Nat.mod_lt n (by decide)
  unfold String.utf8EncodeChar
  rw [hval]
  generalize c.toNat = v at hmax
  -- one case for each length; the bytes are ones and a few bits of the code point
  dsimp only
  split
  · obtain ⟨hones, hcarried⟩ : leadingOnes (UInt8.ofNat v) = 0 ∧ carried (UInt8.ofNat v) = v :=
      byte_spec (n := 0) (k := v) (by omega) (by simp only [ones]; omega)
    refine ⟨.single hones, hcarried, ?_⟩
    rw [if_pos (by omega)]
    rfl
  split
  · obtain ⟨hform, hvalue⟩ := several_spec (n := 2) (k := v / 64 % 32) [v % 64]
      (by omega) (by omega) (by simp only [ones]; omega) rfl
      (List.forall_mem_cons.mpr ⟨hmod v, nofun⟩)
    refine ⟨hform, hvalue.trans ?_, ?_⟩
    · simp only [List.foldl_cons, List.foldl_nil]
      omega
    · rw [if_neg (by omega), if_pos (by omega)]
      rfl
  split
  · obtain ⟨hform, hvalue⟩ := several_spec (n := 3) (k := v / 4096 % 16)
      [v / 64 % 64, v % 64] (by omega) (by omega) (by simp only [ones]; omega) rfl
      (List.forall_mem_cons.mpr ⟨hmod _, List.forall_mem_cons.mpr ⟨hmod v, nofun⟩⟩)
    refine ⟨hform, hvalue.trans ?_, ?_⟩
    · simp only [List.foldl_cons, List.foldl_nil]
      omega
    · rw [if_neg (by omega), if_neg (by omega), if_pos (by omega)]
      rfl
  · obtain ⟨hform, hvalue⟩ := several_spec (n := 4) (k := v / 262144 % 8)
      [v / 4096 % 64, v / 64 % 64, v % 64] (by omega) (by omega)
      (by simp only [ones]; omega) rfl (List.forall_mem_cons.mpr ⟨hmod _,
        List.forall_mem_cons.mpr ⟨hmod _, List.forall_mem_cons.mpr ⟨hmod v, nofun⟩⟩⟩)
    refine ⟨hform, hvalue.trans ?_, ?_⟩
    · simp only [List.foldl_cons, List.foldl_nil]
      omega
    · rw [if_neg (by omega), if_neg (by omega), if_neg (by omega)]
      rfl

/-- No form of a code point is shorter than its encoding. -/
theorem length_encode_le (h : IsForm form) (hvalue : value form = c.toNat) :
    (String.utf8EncodeChar c).length ≤ form.length := by
  obtain ⟨-, -, hlength⟩ := encode_spec c
  obtain ⟨hone, htwo, hthree⟩ := h.value_lt
  have hpos := List.length_pos_iff.mpr h.ne_nil
  rw [hvalue] at hone htwo hthree
  rw [hlength]
  split
  · omega
  split
  · omega
  split
  · omega
  · omega

/-! ## Defects -/

/-- What can be wrong where a character should begin: a continuation byte that continues nothing,
too few of them behind the byte that announces them, a form although there is a shorter one of the
same value, and the forms of surrogates and of what is beyond the last code point. -/
inductive Defect : List UInt8 → Prop
  | stray {b : UInt8} {rest : List UInt8} : leadingOnes b = 1 → Defect (b :: rest)
  | missing {b : UInt8} {rest : List UInt8} : 2 ≤ leadingOnes b →
      (rest.takeWhile fun c => leadingOnes c == 1).length + 1 < leadingOnes b → Defect (b :: rest)
  | overlong {form shorter rest : List UInt8} : IsForm form → IsForm shorter →
      value shorter = value form → shorter.length < form.length → Defect (form ++ rest)
  | surrogate {form rest : List UInt8} : IsForm form → 0xD800 ≤ value form →
      value form ≤ 0xDFFF → Defect (form ++ rest)
  | tooGreat {form rest : List UInt8} : IsForm form → 0x10FFFF < value form →
      Defect (form ++ rest)

/-- A form is the encoding of a character or has a defect. -/
theorem IsForm.encoded_or_defect (h : IsForm form) :
    (∃ c, form = String.utf8EncodeChar c) ∨ ∀ rest, Defect (form ++ rest) := by
  by_cases hsurrogate : 0xD800 ≤ value form ∧ value form ≤ 0xDFFF
  · exact .inr fun rest => .surrogate h hsurrogate.1 hsurrogate.2
  by_cases hgreat : 0x10FFFF < value form
  · exact .inr fun rest => .tooGreat h hgreat
  have hvalid : (value form).isValidChar := by
    unfold Nat.isValidChar
    omega
  obtain ⟨c, hc⟩ : ∃ c : Char, c.toNat = value form :=
    ⟨Char.ofNat (value form), by rw [Char.ofNat, dif_pos hvalid]; rfl⟩
  obtain ⟨hform, hvalue, -⟩ := encode_spec c
  rw [hc] at hvalue
  rcases Nat.lt_or_eq_of_le (length_encode_le h hc.symm) with hlt | heq
  · exact .inr fun rest => .overlong h hform hvalue hlt
  · exact .inl ⟨c, (hform.eq_of_value h heq hvalue).symm⟩

/-- If enough continuation bytes follow, the byte and these are a form. -/
theorem exists_isForm (hb : 2 ≤ leadingOnes b)
    (hmany : leadingOnes b ≤ (rest.takeWhile fun c => leadingOnes c == 1).length + 1) :
    ∃ form rest', b :: rest = form ++ rest' ∧ IsForm form := by
  let next := (rest.takeWhile fun c => leadingOnes c == 1).take (leadingOnes b - 1)
  obtain ⟨rest', hrest⟩ : next <+: rest :=
    (List.take_prefix _ _).trans (List.takeWhile_prefix _)
  refine ⟨b :: next, rest', by rw [← hrest]; rfl, .several hb ?_ ?_⟩
  · rw [List.length_take]
    omega
  · intro c hc
    have hall := List.all_takeWhile (p := fun c => leadingOnes c == 1) (l := rest)
    exact beq_iff_eq.mp (List.all_eq_true.mp hall c (List.mem_of_mem_take hc))

/-- **Where a character should begin**, one does or there is a defect. -/
theorem encoded_or_defect (h : rest ≠ []) :
    (∃ c rest', rest = String.utf8EncodeChar c ++ rest') ∨ Defect rest := by
  have hform : ∀ form rest', rest = form ++ rest' → IsForm form →
      (∃ c rest', rest = String.utf8EncodeChar c ++ rest') ∨ Defect rest := by
    rintro form rest' rfl hform
    rcases hform.encoded_or_defect with ⟨c, rfl⟩ | hdefect
    · exact .inl ⟨c, rest', rfl⟩
    · exact .inr (hdefect rest')
  obtain ⟨b, tail, rfl⟩ := List.exists_cons_of_ne_nil h
  by_cases hzero : leadingOnes b = 0
  · exact hform [b] tail rfl (.single hzero)
  by_cases hone : leadingOnes b = 1
  · exact .inr (.stray hone)
  by_cases hfew : (tail.takeWhile fun c => leadingOnes c == 1).length + 1 < leadingOnes b
  · exact .inr (.missing (by omega) hfew)
  · obtain ⟨form, rest', heq, hisForm⟩ : ∃ form rest', b :: tail = form ++ rest' ∧ IsForm form :=
      exists_isForm (by omega) (by omega)
    exact hform form rest' heq hisForm

/-- The byte with which a form begins is no continuation byte, and what it announces follows. -/
theorem IsForm.head {tail : List UInt8} (h : IsForm form) (heq : form ++ rest = b :: tail) :
    leadingOnes b ≠ 1 ∧
      leadingOnes b ≤ (tail.takeWhile fun c => leadingOnes c == 1).length + 1 := by
  cases h with
  | @single b' hb =>
      obtain rfl : b' = b := (List.cons.inj heq).1
      omega
  | @several b' next hb hnext hall =>
      obtain ⟨rfl, rfl⟩ : b' = b ∧ next ++ rest = tail := List.cons.inj heq
      rw [List.takeWhile_append_of_pos fun c hc => beq_iff_eq.mpr (hall c hc), List.length_append]
      omega

/-- An encoding has no defect in front. -/
theorem not_defect_encode (c : Char) (rest : List UInt8) :
    ¬ Defect (String.utf8EncodeChar c ++ rest) := by
  obtain ⟨hform, hvalue, -⟩ := encode_spec c
  have hvalid : c.toNat < 0xD800 ∨ 0xDFFF < c.toNat ∧ c.toNat < 0x110000 := c.valid
  generalize heq : String.utf8EncodeChar c ++ rest = bytes
  intro hdefect
  cases hdefect with
  | stray hb => exact (hform.head heq).1 hb
  | missing _ hfew =>
      have hmany := (hform.head heq).2
      omega
  -- the other defects are those of a form, which can only be the encoding itself
  | overlong hform' hshorter hsame hlt =>
      obtain ⟨rfl, -⟩ := hform.eq_of_append hform' heq
      have hle := length_encode_le hshorter (hsame.trans hvalue)
      omega
  | surrogate hform' hlow hhigh =>
      obtain ⟨rfl, -⟩ := hform.eq_of_append hform' heq
      omega
  | tooGreat hform' hgreat =>
      obtain ⟨rfl, -⟩ := hform.eq_of_append hform' heq
      omega

theorem Defect.ne_nil (h : Defect rest) : rest ≠ [] := by
  cases h with
  | stray _ => exact List.cons_ne_nil _ _
  | missing _ _ => exact List.cons_ne_nil _ _
  | overlong hform _ _ _ => exact List.append_ne_nil_of_left_ne_nil hform.ne_nil _
  | surrogate hform _ _ => exact List.append_ne_nil_of_left_ne_nil hform.ne_nil _
  | tooGreat hform _ => exact List.append_ne_nil_of_left_ne_nil hform.ne_nil _

/-! ## Texts -/

/-- The bytes go on as the encoding of a text up to a defect. -/
def Malformed (bytes : List UInt8) : Prop :=
  ∃ (s : List Char) (rest : List UInt8), bytes = s.flatMap String.utf8EncodeChar ++ rest ∧
    Defect rest

/-- **All bytes** are the encoding of a text or have a defect. -/
theorem encoded_or_malformed (bytes : List UInt8) :
    (∃ s : List Char, bytes = s.flatMap String.utf8EncodeChar) ∨ Malformed bytes := by
  induction hlength : bytes.length using Nat.strongRecOn generalizing bytes with
  | ind length ih =>
      by_cases hempty : bytes = []
      · exact .inl ⟨[], hempty⟩
      rcases encoded_or_defect hempty with ⟨c, rest, rfl⟩ | hdefect
      · -- behind the first character the bytes are fewer
        have hpos := List.length_pos_iff.mpr (encode_spec c).1.ne_nil
        have hlt : rest.length < length := by
          rw [List.length_append] at hlength
          omega
        rcases ih rest.length hlt rest rfl with ⟨s, rfl⟩ | ⟨s, rest', rfl, hdefect⟩
        · exact .inl ⟨c :: s, rfl⟩
        · exact .inr ⟨c :: s, rest', by rw [List.flatMap_cons, List.append_assoc], hdefect⟩
      · exact .inr ⟨[], bytes, rfl, hdefect⟩

/-- **No encoding of a text** has a defect. -/
theorem not_malformed_encode (s : List Char) : ¬ Malformed (s.flatMap String.utf8EncodeChar) := by
  rintro ⟨front, rest, heq, hdefect⟩
  -- both begin with the same character until the defect is reached, or the end of the text
  induction front generalizing s with
  | nil =>
      rw [List.flatMap_nil, List.nil_append] at heq
      cases s with
      | nil => exact hdefect.ne_nil heq.symm
      | cons c s =>
          rw [← heq, List.flatMap_cons] at hdefect
          exact not_defect_encode c _ hdefect
  | cons c front ih =>
      rw [List.flatMap_cons, List.append_assoc] at heq
      cases s with
      | nil =>
          have hne := (encode_spec c).1.ne_nil
          exact hne (List.append_eq_nil_iff.mp heq.symm).1
      | cons c' s =>
          rw [List.flatMap_cons] at heq
          obtain ⟨-, hrest⟩ := (encode_spec c').1.eq_of_append (encode_spec c).1 heq
          exact ih s hrest

end SourceTutor.Text
