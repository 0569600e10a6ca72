import SourceTutor.Proofs.Json.Prefix

/-!
# What is a document of a value

`Written v s` says that a text is a document of a value: the tokens of the value are spelled in it
one after the other, with white space wherever there is some between them (`Laid`). A token can be
spelled in several ways, since a character of a quoted text may be written as itself or as an escape
(`Body`, `Spells`). The reader reads a value from its documents and from nothing else
(`parse?_eq_some_iff`). It is a machine that takes one character at a time; what is left of a
document has a meaning in each of its modes (`Mode.Owes`), which every step keeps.
-/

set_option autoImplicit false

namespace SourceTutor.Json

variable {c : Char} {cs rest word body : List Char} {ts : List Token} {token : Token} {v : Json}

/-! ## Documents -/

/-- The digits continue a hexadecimal number to another one. -/
inductive Digits : Nat → List Char → Nat → Prop
  | nil {n : Nat} : Digits n [] n
  | cons {c : Char} {cs : List Char} {m d n : Nat} : hexValue? c = some d →
      Digits (m * 16 + d) cs n → Digits m (c :: cs) n

/-- What stands between the quotes of a text with these code points: each as the character itself,
as a letter behind a backslash, or as four digits behind a backslash and the letter `u`. -/
inductive Body : List Nat → List Char → Prop
  | nil : Body [] []
  | plain {c : Char} {points : List Nat} {body : List Char} : c ≠ '"' → c ≠ '\\' →
      0x20 ≤ c.toNat → Body points body → Body (c.toNat :: points) (c :: body)
  | letter {c : Char} {n : Nat} {points : List Nat} {body : List Char} : escaped? c = some n →
      Body points body → Body (n :: points) ('\\' :: c :: body)
  | digits {digits : List Char} {n : Nat} {points : List Nat} {body : List Char} :
      digits.length = 4 → Digits 0 digits n → Body points body →
      Body (n :: points) ('\\' :: 'u' :: (digits ++ body))

/-- How a token is written. A quoted text is none if it has a lone half of a surrogate pair. -/
inductive Spells : Token → List Char → Prop
  | mark {c : Char} {token : Token} : punctuation? c = some token → Spells token [c]
  | scalar {word : List Char} {token : Token} : scalar? word = some token → Spells token word
  | quoted {points : List Nat} {body : List Char} : Body points body →
      Spells (.text ((textOf? points).map String.ofList)) ('"' :: (body ++ ['"']))

/-- The tokens are written one after the other, with white space between them and around them. -/
inductive Laid : List Token → List Char → Prop
  | done : Laid [] []
  | space {c : Char} {ts : List Token} {cs : List Char} : isSpace c = true → Laid ts cs →
      Laid ts (c :: cs)
  | token {token : Token} {word : List Char} {ts : List Token} {cs : List Char} :
      Spells token word → Laid ts cs → Laid (token :: ts) (word ++ cs)

/-- **The text is a document of the value.** -/
def Written (v : Json) (s : String) : Prop := Laid (tokens v) s.toList

/-! ## What is read is written -/

/-- Behind the rest of a quoted text, of which some code points have been read, stand its quote and
the tokens that follow it. -/
def Quotes (points : List Nat) (body : List Char) (ts : List Token) (cs : List Char) : Prop :=
  ∃ more rest ts', Body more body ∧ cs = '"' :: rest ∧
    ts = closeText (more.reverse ++ points) :: ts' ∧ Laid ts' rest

/-- What is left of a document with these tokens left, when the reader is in the mode. -/
def Mode.Owes : Mode → List Token → List Char → Prop
  | .between, ts, cs => Laid ts cs
  | .scalar collected, ts, cs => ∃ word rest token ts', cs = word ++ rest ∧
      scalar? (collected.reverse ++ word) = some token ∧ ts = token :: ts' ∧ Laid ts' rest
  | .text points, ts, cs => ∃ body rest, cs = body ++ rest ∧ Quotes points body ts rest
  | .escape points, ts, cs => ∃ body rest, cs = body ++ rest ∧ Quotes points ('\\' :: body) ts rest
  | .digits points missing value, ts, cs => 0 < missing → ∃ digits n body rest,
      digits.length = missing ∧ Digits value digits n ∧ cs = digits ++ (body ++ rest) ∧
        Quotes (n :: points) body ts rest

/-- A character that is read belongs to what stands in front of the rest. -/
theorem Quotes.front {points : List Nat} {n : Nat} {body' : List Char}
    (h : Quotes (n :: points) body ts cs)
    (hbody : ∀ more, Body more body → Body (n :: more) body') : Quotes points body' ts cs := by
  obtain ⟨more, rest, ts', hmore, rfl, rfl, hlaid⟩ := h
  refine ⟨n :: more, rest, ts', hbody more hmore, rfl, ?_, hlaid⟩
  rw [List.reverse_cons, List.append_assoc]
  rfl

section

variable (ih : ∀ mode ts, Mode.tokens? mode cs = some ts → mode.Owes ts cs)

include ih

/-- Between two tokens white space is passed over, and anything else begins a token. -/
theorem laid_cons (h : Mode.between.tokens? (c :: cs) = some ts) : Laid ts (c :: cs) := by
  by_cases hspace : isSpace c = true
  · rw [tokens?_space cs hspace] at h
    exact .space hspace (ih _ ts h)
  by_cases hquote : c = '"'
  · subst hquote
    rw [tokens?_silent cs (show Mode.between.step '"' = some (.text [], []) from rfl)] at h
    -- nothing has been read yet, so that what is left of the text is all of it
    obtain ⟨body, _, rfl, more, rest, ts', hbody, rfl, rfl, hlaid⟩ := ih _ ts h
    have htoken := Laid.token (.quoted hbody) hlaid
    rw [List.cons_append, List.append_assoc] at htoken
    rw [List.append_nil, closeText, List.reverse_reverse]
    exact htoken
  cases hmark : punctuation? c with
  | some token =>
      rw [tokens?_punctuation cs (Bool.eq_false_iff.mpr hspace) hquote hmark] at h
      obtain ⟨ts', hts, rfl⟩ := Option.map_eq_some_iff.mp h
      exact .token (.mark hmark) (ih _ ts' hts)
  | none =>
      have hstep : Mode.between.step c = some (.scalar [c], []) := by
        simp [Mode.step, start, hspace, hquote, hmark]
      rw [tokens?_silent cs hstep] at h
      obtain ⟨word, rest, token, ts', rfl, hscalar, rfl, hlaid⟩ := ih _ ts h
      rw [← List.cons_append]
      exact .token (.scalar hscalar) hlaid

/-- A character goes on with a number or a word, or ends it and is read like one between two
tokens. -/
theorem owes_scalar {collected : List Char}
    (h : (Mode.scalar collected).tokens? (c :: cs) = some ts) :
    (Mode.scalar collected).Owes ts (c :: cs) := by
  by_cases hends : endsScalar c = true
  · cases hscalar : scalar? collected.reverse with
    | none => simp [Mode.tokens?, Mode.step, hends, hscalar] at h
    | some token =>
        rw [tokens?_scalar_end hscalar (ended_cons hends)] at h
        obtain ⟨ts', hts, rfl⟩ := Option.map_eq_some_iff.mp h
        exact ⟨[], c :: cs, token, ts', rfl, by rw [List.append_nil]; exact hscalar, rfl,
          laid_cons ih hts⟩
  · have hstep : (Mode.scalar collected).step c = some (.scalar (c :: collected), []) := by
      simp [Mode.step, hends]
    rw [tokens?_silent cs hstep] at h
    obtain ⟨word, rest, token, ts', rfl, hscalar, rfl, hlaid⟩ := ih _ ts h
    rw [List.reverse_cons, List.append_assoc] at hscalar
    exact ⟨c :: word, rest, token, ts', rfl, hscalar, rfl, hlaid⟩

/-- A character closes a quoted text, begins an escape or stands for itself. -/
theorem owes_text {points : List Nat} (h : (Mode.text points).tokens? (c :: cs) = some ts) :
    (Mode.text points).Owes ts (c :: cs) := by
  by_cases hquote : c = '"'
  · subst hquote
    rw [tokens?_of_step cs (show (Mode.text points).step '"' =
      some (.between, [closeText points]) from rfl)] at h
    obtain ⟨ts', hts, rfl⟩ := Option.map_eq_some_iff.mp h
    exact ⟨[], '"' :: cs, rfl, [], cs, ts', .nil, rfl, rfl, ih _ ts' hts⟩
  by_cases hback : c = '\\'
  · subst hback
    rw [tokens?_silent cs (show (Mode.text points).step '\\' =
      some (.escape points, []) from rfl)] at h
    obtain ⟨body, rest, rfl, hquotes⟩ := ih _ ts h
    exact ⟨'\\' :: body, rest, rfl, hquotes⟩
  by_cases hcontrol : c.toNat < 0x20
  · simp [Mode.tokens?, Mode.step, hquote, hback, hcontrol] at h
  · have hstep : (Mode.text points).step c = some (.text (c.toNat :: points), []) := by
      simp [Mode.step, hquote, hback, hcontrol]
    rw [tokens?_silent cs hstep] at h
    obtain ⟨body, rest, rfl, hquotes⟩ := ih _ ts h
    exact ⟨c :: body, rest, rfl, hquotes.front fun _ =>
      .plain hquote hback (Nat.le_of_not_lt hcontrol)⟩

/-- Behind a backslash stands a letter of its own or the beginning of four digits. -/
theorem owes_escape {points : List Nat} (h : (Mode.escape points).tokens? (c :: cs) = some ts) :
    (Mode.escape points).Owes ts (c :: cs) := by
  by_cases hu : c = 'u'
  · subst hu
    rw [tokens?_silent cs (show (Mode.escape points).step 'u' =
      some (.digits points 4 0, []) from rfl)] at h
    obtain ⟨digits, n, body, rest, hlength, hdigits, rfl, hquotes⟩ := ih _ ts h (by decide)
    refine ⟨'u' :: (digits ++ body), rest, ?_, hquotes.front fun _ => .digits hlength hdigits⟩
    rw [List.cons_append, List.append_assoc]
  · cases hletter : escaped? c with
    | none => simp [Mode.tokens?, Mode.step, hu, hletter] at h
    | some n =>
        have hstep : (Mode.escape points).step c = some (.text (n :: points), []) := by
          simp [Mode.step, hu, hletter]
        rw [tokens?_silent cs hstep] at h
        obtain ⟨body, rest, rfl, hquotes⟩ := ih _ ts h
        exact ⟨c :: body, rest, rfl, hquotes.front fun _ => .letter hletter⟩

/-- A digit is the last of its escape or has others behind it. -/
theorem owes_digits {points : List Nat} {missing value : Nat}
    (h : (Mode.digits points missing value).tokens? (c :: cs) = some ts) :
    (Mode.digits points missing value).Owes ts (c :: cs) := by
  intro hmissing
  cases hdigit : hexValue? c with
  | none => simp [Mode.tokens?, Mode.step, hdigit] at h
  | some d =>
      by_cases hlast : missing ≤ 1
      · have hstep : (Mode.digits points missing value).step c =
            some (.text ((value * 16 + d) :: points), []) := by
          simp [Mode.step, hdigit, hlast]
        rw [tokens?_silent cs hstep] at h
        obtain ⟨body, rest, rfl, hquotes⟩ := ih _ ts h
        refine ⟨[c], _, body, rest, ?_, .cons hdigit .nil, rfl, hquotes⟩
        exact Nat.le_antisymm hmissing hlast
      · have hstep : (Mode.digits points missing value).step c =
            some (.digits points (missing - 1) (value * 16 + d), []) := by
          simp [Mode.step, hdigit, hlast]
        rw [tokens?_silent cs hstep] at h
        obtain ⟨digits, n, body, rest, hlength, hdigits, rfl, hquotes⟩ := ih _ ts h (by omega)
        refine ⟨c :: digits, n, body, rest, ?_, .cons hdigit hdigits, rfl, hquotes⟩
        rw [List.length_cons, hlength]
        omega

end

/-- **What the reader finds is there**, in each of its modes. -/
theorem owes_of_tokens? (mode : Mode) (cs : List Char) {ts : List Token}
    (h : mode.tokens? cs = some ts) : mode.Owes ts cs := by
  -- one step of the reader for each character; the mode behind it is any
  induction cs generalizing mode ts with
  | nil =>
      cases mode with
      | between =>
          cases h
          exact .done
      | scalar collected =>
          obtain ⟨token, htoken, rfl⟩ := Option.map_eq_some_iff.mp h
          exact ⟨[], [], token, [], rfl, by rw [List.append_nil]; exact htoken, rfl, .done⟩
      | text points => cases h
      | escape points => cases h
      | digits points missing value => cases h
  | cons c cs ih =>
      have ih : ∀ mode ts, Mode.tokens? mode cs = some ts → mode.Owes ts cs := fun _ _ => ih _
      cases mode with
      | between => exact laid_cons ih h
      | scalar collected => exact owes_scalar ih h
      | text points => exact owes_text ih h
      | escape points => exact owes_escape ih h
      | digits points missing value => exact owes_digits ih h

/-! ## What is written is read

A number or a word is read up to the first character that ends it. None of its own characters does,
and behind it there is always one that does, since in the tokens of a value no number or word is
followed by another one (`Separated`). -/

theorem endsScalar_of_isDigit (h : c.isDigit = true) : endsScalar c = false := by
  cases hends : endsScalar c with
  | false => rfl
  | true =>
      simp only [endsScalar, isSpace, Bool.or_eq_true, beq_iff_eq] at hends
      rcases hends with hplain | hmark
      · rcases hplain with (((rfl | rfl) | rfl) | rfl) | rfl
        all_goals exact absurd h (by decide)
      · unfold punctuation? at hmark
        split at hmark
        all_goals first | exact absurd h (by decide) | cases hmark

theorem not_endsScalar_digits (h : cs.all Char.isDigit = true) :
    ∀ c ∈ cs, endsScalar c = false :=
  fun c hc => endsScalar_of_isDigit (List.all_eq_true.mp h c hc)

theorem not_endsScalar_exponent (h : isExponent cs = true) : ∀ c ∈ cs, endsScalar c = false := by
  unfold isExponent at h
  split at h
  · nofun
  · split at h
    · rename_i c rest hc
      have hc : endsScalar c = false := by
        simp only [Bool.or_eq_true, beq_iff_eq] at hc
        rcases hc with rfl | rfl <;> rfl
      have hdigits := (Bool.and_eq_true_iff.mp h).2
      refine List.forall_mem_cons.mpr ⟨hc, ?_⟩
      split at hdigits
      · exact List.forall_mem_cons.mpr ⟨rfl, not_endsScalar_digits hdigits⟩
      · exact List.forall_mem_cons.mpr ⟨rfl, not_endsScalar_digits hdigits⟩
      · exact not_endsScalar_digits hdigits
    · cases h

/-- Digits in front do not end a number. -/
theorem not_endsScalar_dropWhile (h : ∀ c ∈ cs.dropWhile Char.isDigit, endsScalar c = false) :
    ∀ c ∈ cs, endsScalar c = false := by
  rw [← List.takeWhile_append_dropWhile (p := Char.isDigit) (l := cs), List.forall_mem_append]
  exact ⟨not_endsScalar_digits List.all_takeWhile, h⟩

theorem not_endsScalar_fraction (h : isFraction cs = true) : ∀ c ∈ cs, endsScalar c = false := by
  unfold isFraction at h
  split at h
  · exact List.forall_mem_cons.mpr ⟨rfl, not_endsScalar_dropWhile
      (not_endsScalar_exponent (Bool.and_eq_true_iff.mp h).2)⟩
  · exact not_endsScalar_exponent h

theorem not_endsScalar_number (h : isNumber word = true) : ∀ c ∈ word, endsScalar c = false := by
  have hdigit : ∀ {c rest}, (c.isDigit && isFraction (rest.dropWhile Char.isDigit)) = true →
      ∀ d ∈ c :: rest, endsScalar d = false := by
    intro c rest h
    obtain ⟨hdigit, hrest⟩ := Bool.and_eq_true_iff.mp h
    exact List.forall_mem_cons.mpr ⟨endsScalar_of_isDigit hdigit,
      not_endsScalar_dropWhile (not_endsScalar_fraction hrest)⟩
  unfold isNumber at h
  split at h
  · refine List.forall_mem_cons.mpr ⟨rfl, ?_⟩
    dsimp only at h
    split at h
    · exact List.forall_mem_cons.mpr ⟨rfl, not_endsScalar_fraction h⟩
    · exact hdigit h
    · cases h
  · dsimp only at h
    split at h
    · exact List.forall_mem_cons.mpr ⟨rfl, not_endsScalar_fraction h⟩
    · exact hdigit h
    · cases h

/-- A number or a word has characters, none of which ends it. -/
theorem scalar?_spec (h : scalar? word = some token) :
    word ≠ [] ∧ ∀ c ∈ word, endsScalar c = false := by
  rw [scalar?] at h
  split at h
  · rename_i hword
    rw [beq_iff_eq.mp hword]
    exact ⟨List.cons_ne_nil _ _, not_endsScalar (by decide)⟩
  split at h
  · rename_i hword
    rw [beq_iff_eq.mp hword]
    exact ⟨List.cons_ne_nil _ _, not_endsScalar (by decide)⟩
  split at h
  · rename_i hword
    rw [beq_iff_eq.mp hword]
    exact ⟨List.cons_ne_nil _ _, not_endsScalar (by decide)⟩
  split at h
  · rename_i hnumber
    refine ⟨?_, not_endsScalar_number hnumber⟩
    rintro rfl
    cases hnumber
  · cases h

/-! ### Tokens -/

theorem isSpace_of_punctuation? (h : punctuation? c = some token) :
    isSpace c = false ∧ c ≠ '"' := by
  unfold punctuation? at h
  split at h
  all_goals first | decide | cases h

theorem tokens?_digits {points : List Nat} {digits : List Char} {value n : Nat}
    (h : Digits value digits n) (hne : digits ≠ []) :
    (Mode.digits points digits.length value).tokens? (digits ++ cs) =
      (Mode.text (n :: points)).tokens? cs := by
  induction h with
  | nil => exact absurd rfl hne
  | @cons c digits m d n hdigit hdigits ih =>
      cases digits with
      | nil =>
          cases hdigits
          exact tokens?_silent cs (by simp [Mode.step, hdigit])
      | cons c' digits =>
          rw [← ih (List.cons_ne_nil _ _)]
          exact tokens?_silent _ (by simp [Mode.step, hdigit])

/-- The code points of a quoted text are collected, the last one first. -/
theorem tokens?_body {points more : List Nat} (h : Body more body) :
    (Mode.text points).tokens? (body ++ cs) = (Mode.text (more.reverse ++ points)).tokens? cs := by
  induction h generalizing points with
  | nil => rfl
  | @plain c more body hquote hback hcontrol hbody ih =>
      rw [List.cons_append, tokens?_silent _ (show (Mode.text points).step c =
        some (.text (c.toNat :: points), []) by
          simp [Mode.step, hquote, hback, Nat.not_lt_of_le hcontrol]), ih, List.reverse_cons,
        List.append_assoc]
      rfl
  | @letter c n more body hletter hbody ih =>
      have hu : c ≠ 'u' := by
        rintro rfl
        cases hletter
      rw [List.cons_append, List.cons_append, tokens?_letter points _ hu hletter, ih,
        List.reverse_cons, List.append_assoc]
      rfl
  | @digits digits n more body hlength hdigits hbody ih =>
      have hne : digits ≠ [] := by
        rintro rfl
        cases hlength
      rw [List.cons_append, List.cons_append, List.append_assoc,
        tokens?_silent _ (show (Mode.text points).step '\\' = some (.escape points, []) from rfl),
        tokens?_silent _ (show (Mode.escape points).step 'u' =
          some (.digits points 4 0, []) from rfl), ← hlength, tokens?_digits hdigits hne, ih,
        List.reverse_cons, List.append_assoc]
      rfl

/-- A token that is written is read, when a number or a word is followed by what ends it. -/
theorem tokens?_spelled (h : Spells token word) (hended : token.isScalar = true → Ended cs) :
    Mode.between.tokens? (word ++ cs) = (Mode.between.tokens? cs).map (token :: ·) := by
  cases h with
  | mark hmark =>
      obtain ⟨hspace, hquote⟩ := isSpace_of_punctuation? hmark
      exact tokens?_punctuation cs hspace hquote hmark
  | scalar hscalar =>
      obtain ⟨hne, hword⟩ := scalar?_spec hscalar
      exact tokens?_word hne hword hscalar (hended (isScalar_of_scalar? hscalar))
  | @quoted points body hbody =>
      rw [List.cons_append, List.append_assoc,
        tokens?_silent _ (show Mode.between.step '"' = some (.text [], []) from rfl),
        tokens?_body hbody, List.append_nil]
      have hstep : (Mode.text points.reverse).step '"' =
          some (.between, [.text ((textOf? points).map String.ofList)]) := by
        simp [Mode.step, closeText]
      rw [List.cons_append, tokens?_of_step _ hstep]
      rfl

/-! ### Sequences of tokens -/

/-- No number or word is followed by another one. -/
def Separated : List Token → Prop
  | [] => True
  | [_] => True
  | t :: t' :: ts => (t.isScalar = true → t'.isScalar = false) ∧ Separated (t' :: ts)

/-- The tokens are separated, and may stand behind a number or a word. -/
def Guarded (ts : List Token) : Prop :=
  Separated ts ∧ ∀ t, ts.head? = some t → t.isScalar = false

theorem Guarded.nil : Guarded [] := ⟨trivial, nofun⟩

theorem Guarded.separated_cons (h : Guarded ts) : Separated (token :: ts) := by
  cases ts with
  | nil => trivial
  | cons t ts => exact ⟨fun _ => h.2 t rfl, h.1⟩

theorem Separated.guarded_cons (h : Separated ts) (htoken : token.isScalar = false) :
    Guarded (token :: ts) := by
  refine ⟨?_, ?_⟩
  · cases ts with
    | nil => trivial
    | cons t ts =>
        refine ⟨fun hscalar => ?_, h⟩
        rw [htoken] at hscalar
        cases hscalar
  · intro t ht
    obtain rfl : token = t := Option.some.inj ht
    exact htoken

theorem Guarded.cons (h : Guarded ts) (htoken : token.isScalar = false) :
    Guarded (token :: ts) := h.1.guarded_cons htoken

mutual

/-- In the tokens of a value, numbers and words are separated. -/
theorem separated_tokens (v : Json) {ts : List Token} (h : Guarded ts) :
    Separated (tokens v ++ ts) := by
  match v with
  | .null => exact h.separated_cons
  | .bool _ => exact h.separated_cons
  | .number _ => exact h.separated_cons
  | .text _ => exact h.separated_cons
  | .array [] => exact ((h.cons rfl).cons rfl).1
  | .array (v :: vs) =>
      have hclose : Guarded (.closeArray :: ts) := h.cons rfl
      have hv : Guarded (.openArray :: (tokens v ++ (elementTokens vs ++ .closeArray :: ts))) :=
        (separated_tokens v (guarded_elementTokens vs hclose)).guarded_cons rfl
      simpa only [tokens, List.append_assoc, List.cons_append, List.nil_append] using hv.1
  | .object [] => exact ((h.cons rfl).cons rfl).1
  | .object ((name, v) :: ms) =>
      have hclose : Guarded (.closeObject :: ts) := h.cons rfl
      have hv : Guarded (.colon :: (tokens v ++ (memberTokens ms ++ .closeObject :: ts))) :=
        (separated_tokens v (guarded_memberTokens ms hclose)).guarded_cons rfl
      have hname : Guarded (.openObject :: .text name :: .colon ::
          (tokens v ++ (memberTokens ms ++ .closeObject :: ts))) := (hv.cons rfl).cons rfl
      simpa only [tokens, List.append_assoc, List.cons_append, List.nil_append] using hname.1

theorem guarded_elementTokens (vs : List Json) {ts : List Token} (h : Guarded ts) :
    Guarded (elementTokens vs ++ ts) := by
  match vs with
  | [] => exact h
  | v :: vs =>
      have hv : Guarded (.comma :: (tokens v ++ (elementTokens vs ++ ts))) :=
        (separated_tokens v (guarded_elementTokens vs h)).guarded_cons rfl
      simpa only [elementTokens, List.append_assoc, List.cons_append] using hv

theorem guarded_memberTokens (ms : List (Option String × Json)) {ts : List Token}
    (h : Guarded ts) : Guarded (memberTokens ms ++ ts) := by
  match ms with
  | [] => exact h
  | (name, v) :: ms =>
      have hv : Guarded (.colon :: (tokens v ++ (memberTokens ms ++ ts))) :=
        (separated_tokens v (guarded_memberTokens ms h)).guarded_cons rfl
      have hname : Guarded (.comma :: .text name :: .colon ::
          (tokens v ++ (memberTokens ms ++ ts))) := (hv.cons rfl).cons rfl
      simpa only [memberTokens, List.append_assoc, List.cons_append] using hname

end

/-- What is written first ends a number or a word, unless it is one. -/
theorem Laid.ended (h : Laid ts cs) (hts : ∀ t, ts.head? = some t → t.isScalar = false) :
    Ended cs := by
  cases h with
  | done => nofun
  | space hspace _ => exact ended_cons (by rw [endsScalar, hspace]; rfl)
  | @token token word ts cs hspells _ =>
      cases hspells with
      | mark hmark => exact ended_cons (by simp [endsScalar, hmark])
      | scalar hscalar =>
          have hfalse := hts token rfl
          rw [isScalar_of_scalar? hscalar] at hfalse
          cases hfalse
      | quoted _ => exact ended_cons (by decide)

/-- **The reader finds the tokens that are there.** -/
theorem tokens?_of_laid (h : Laid ts cs) (hts : Separated ts) :
    Mode.between.tokens? cs = some ts := by
  induction h with
  | done => rfl
  | space hspace _ ih =>
      rw [tokens?_space _ hspace]
      exact ih hts
  | @token token word ts cs hspells hlaid ih =>
      have htail : Separated ts := by
        cases ts with
        | nil => trivial
        | cons t ts => exact hts.2
      have hended : token.isScalar = true → Ended cs := by
        intro hscalar
        refine hlaid.ended ?_
        cases ts with
        | nil => nofun
        | cons t ts =>
            intro t' ht'
            obtain rfl : t = t' := Option.some.inj ht'
            exact hts.1 hscalar
      rw [tokens?_spelled hspells hended, ih htail]
      rfl

/-- **A value is read from its documents and from nothing else.** -/
theorem parse?_eq_some_iff (s : String) (v : Json) : parse? s = some v ↔ Written v s := by
  rw [parse?, Token.ofText?, Written]
  constructor
  · intro h
    obtain ⟨ts, hts, hv⟩ := Option.bind_eq_some_iff.mp h
    rw [← ofTokens?_sound hv]
    exact owes_of_tokens? _ _ hts
  · intro h
    have hseparated := separated_tokens v .nil
    rw [List.append_nil] at hseparated
    rw [tokens?_of_laid h hseparated, Option.bind_some, ofTokens?_tokens]

end SourceTutor.Json
