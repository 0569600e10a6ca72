import SourceTutor.Json.Printer
import SourceTutor.Json.Token

/-!
# Reading back what was written, token by token

`Json.tokens` are the tokens of a value, and `tokens?_render` says that the reader finds them in the
text that the printer writes, whatever stands behind it. The reader is a machine that takes one
character at a time, so each piece of the text has a lemma of its own, which says what the machine
emits while it passes that piece. Numbers and words end only at the character behind them, and so
what follows a value has to begin with one that ends them (`Ended`); the printer always puts a comma
or a line end there.
-/

set_option autoImplicit false

namespace SourceTutor.Json

/-! ## The tokens of a value -/

mutual

/-- The tokens of a value. -/
def tokens : Json → List Token
  | .null => [.null]
  | .bool b => [.bool b]
  | .number literal => [.number literal]
  | .text s => [.text s]
  | .array [] => [.openArray, .closeArray]
  | .array (v :: vs) => .openArray :: tokens v ++ elementTokens vs ++ [.closeArray]
  | .object [] => [.openObject, .closeObject]
  | .object ((name, v) :: ms) =>
    .openObject :: .text name :: .colon :: tokens v ++ memberTokens ms ++ [.closeObject]

/-- The tokens of the further elements of an array. -/
def elementTokens : List Json → List Token
  | [] => []
  | v :: vs => .comma :: tokens v ++ elementTokens vs

/-- The tokens of the further members of an object. -/
def memberTokens : List (Option String × Json) → List Token
  | [] => []
  | (name, v) :: ms => .comma :: .text name :: .colon :: tokens v ++ memberTokens ms

end

mutual

/-- A value that is written as itself: its texts are texts, and its numbers are written as
numbers. -/
def Exact : Json → Prop
  | .null => True
  | .bool _ => True
  | .number literal => literal.toList ≠ [] ∧ (∀ c ∈ literal.toList, endsScalar c = false) ∧
    scalar? literal.toList = some (.number literal)
  | .text s => s.isSome
  | .array vs => ExactElements vs
  | .object ms => ExactMembers ms

/-- The elements are written as themselves. -/
def ExactElements : List Json → Prop
  | [] => True
  | v :: vs => Exact v ∧ ExactElements vs

/-- The members are written as themselves. -/
def ExactMembers : List (Option String × Json) → Prop
  | [] => True
  | (name, v) :: ms => name.isSome ∧ Exact v ∧ ExactMembers ms

end

/-! ## One piece of text after the other -/

/-- What stands here ends a number or a word. -/
def Ended (cs : List Char) : Prop := ∀ c, cs.head? = some c → endsScalar c = true

theorem ended_cons {c : Char} {cs : List Char} (h : endsScalar c = true) : Ended (c :: cs) := by
  rintro c' hc
  obtain rfl : c = c' := by simpa using hc
  exact h

theorem tokens?_of_step {mode next : Mode} {c : Char} {found : List Token} (cs : List Char)
    (h : mode.step c = some (next, found)) :
    mode.tokens? (c :: cs) = (next.tokens? cs).map (found ++ ·) := by
  rw [Mode.tokens?, h]

theorem tokens?_silent {mode next : Mode} {c : Char} (cs : List Char)
    (h : mode.step c = some (next, [])) : mode.tokens? (c :: cs) = next.tokens? cs := by
  rw [tokens?_of_step cs h]
  simp

theorem tokens?_space {c : Char} (cs : List Char) (h : isSpace c = true) :
    Mode.between.tokens? (c :: cs) = Mode.between.tokens? cs :=
  tokens?_silent cs (by simp [Mode.step, start, h])

theorem tokens?_punctuation {c : Char} {token : Token} (cs : List Char) (hspace : isSpace c = false)
    (hquote : c ≠ '"') (h : punctuation? c = some token) :
    Mode.between.tokens? (c :: cs) = (Mode.between.tokens? cs).map (token :: ·) := by
  rw [tokens?_of_step cs (show Mode.between.step c = some (.between, [token]) by
    simp [Mode.step, start, hspace, hquote, h])]
  rfl

theorem tokens?_replicate (n : Nat) (cs : List Char) :
    Mode.between.tokens? (List.replicate n ' ' ++ cs) = Mode.between.tokens? cs := by
  induction n with
  | zero => rfl
  | succ n ih =>
      rw [List.replicate_succ, List.cons_append, tokens?_space _ (by decide), ih]

theorem tokens?_newLine (level : Nat) (cs : List Char) :
    Mode.between.tokens? (newLine level ++ cs) = Mode.between.tokens? cs := by
  rw [newLine, List.cons_append, tokens?_space _ (by decide), tokens?_replicate]

/-! ## Numbers and words -/

theorem tokens?_scalar_end {collected : List Char} {token : Token} {cs : List Char}
    (h : scalar? collected.reverse = some token) (hcs : Ended cs) :
    (Mode.scalar collected).tokens? cs = (Mode.between.tokens? cs).map (token :: ·) := by
  cases cs with
  | nil => simp [Mode.tokens?, Mode.finish?, h]
  | cons c cs =>
      have hc : endsScalar c = true := hcs c rfl
      have hstep : (Mode.scalar collected).step c = some ((start c).1, token :: (start c).2) := by
        simp [Mode.step, hc, h]
      rw [tokens?_of_step cs hstep,
        tokens?_of_step cs (show Mode.between.step c = some ((start c).1, (start c).2) from rfl)]
      cases (start c).1.tokens? cs <;> rfl

theorem tokens?_scalar (collected word : List Char) {cs : List Char} {token : Token}
    (hword : ∀ c ∈ word, endsScalar c = false)
    (h : scalar? (collected.reverse ++ word) = some token) (hcs : Ended cs) :
    (Mode.scalar collected).tokens? (word ++ cs) =
      (Mode.between.tokens? cs).map (token :: ·) := by
  induction word generalizing collected with
  | nil => exact tokens?_scalar_end (by simpa using h) hcs
  | cons c word ih =>
      have hc : endsScalar c = false := hword c (List.mem_cons_self ..)
      rw [List.cons_append, tokens?_silent _ (show (Mode.scalar collected).step c =
        some (.scalar (c :: collected), []) by simp [Mode.step, hc])]
      refine ih (c :: collected) (fun d hd => hword d (List.mem_cons_of_mem _ hd)) ?_
      rw [List.reverse_cons, List.append_assoc]
      exact h

theorem not_endsScalar {word : List Char} (h : word.any endsScalar = false) :
    ∀ c ∈ word, endsScalar c = false := by
  simpa using h

/-- A number or a word is read as its token, when something follows that ends it. -/
theorem tokens?_word {word cs : List Char} {token : Token} (hne : word ≠ [])
    (hword : ∀ c ∈ word, endsScalar c = false) (h : scalar? word = some token) (hcs : Ended cs) :
    Mode.between.tokens? (word ++ cs) = (Mode.between.tokens? cs).map (token :: ·) := by
  cases word with
  | nil => exact absurd rfl hne
  | cons c word =>
      have hc : endsScalar c = false := hword c (List.mem_cons_self ..)
      have hstart : start c = (.scalar [c], []) := by
        simp only [endsScalar, Bool.or_eq_false_iff, Option.isSome_eq_false_iff,
          Option.isNone_iff_eq_none] at hc
        simp [start, hc]
      rw [List.cons_append, tokens?_silent _ (show Mode.between.step c = some (.scalar [c], []) by
        rw [Mode.step, hstart])]
      exact tokens?_scalar [c] word (fun d hd => hword d (List.mem_cons_of_mem _ hd)) h hcs

/-! ## Quoted texts

A character is written as itself, as a letter behind a backslash, or as the four digits of its code
point, and each of the three is read as that code point. The code points of a text are those of its
characters, none of which is half of a surrogate pair, so that they make up the text again. -/

theorem hexValue?_hexDigit (n : Nat) : hexValue? (hexDigit n) = some (n % 16) := by
  have h : ∀ d : Fin 16, hexValue? (Nat.digitChar d.val) = some d.val := by decide
  exact h ⟨n % 16, Nat.mod_lt _ (by decide)⟩

theorem tokens?_digit (points : List Nat) (missing value n : Nat) (cs : List Char) :
    (Mode.digits points (missing + 2) value).tokens? (hexDigit n :: cs) =
      (Mode.digits points (missing + 1) (value * 16 + n % 16)).tokens? cs :=
  tokens?_silent cs (by simp [Mode.step, hexValue?_hexDigit])

theorem tokens?_last_digit (points : List Nat) (value n : Nat) (cs : List Char) :
    (Mode.digits points 1 value).tokens? (hexDigit n :: cs) =
      (Mode.text ((value * 16 + n % 16) :: points)).tokens? cs :=
  tokens?_silent cs (by simp [Mode.step, hexValue?_hexDigit])

theorem tokens?_letter {letter : Char} {n : Nat} (points : List Nat) (cs : List Char)
    (hu : letter ≠ 'u') (h : escaped? letter = some n) :
    (Mode.text points).tokens? ('\\' :: letter :: cs) = (Mode.text (n :: points)).tokens? cs := by
  rw [tokens?_silent _ (show (Mode.text points).step '\\' = some (.escape points, []) from rfl)]
  exact tokens?_silent cs (by simp [Mode.step, hu, h])

theorem tokens?_escapedChar (points : List Nat) (c : Char) (cs : List Char) :
    (Mode.text points).tokens? (escapedChar c ++ cs) =
      (Mode.text (c.toNat :: points)).tokens? cs := by
  by_cases hquote : c = '"'
  · subst hquote
    exact tokens?_letter points cs (by decide) rfl
  by_cases hback : c = '\\'
  · subst hback
    exact tokens?_letter points cs (by decide) rfl
  by_cases hb : c = '\x08'
  · subst hb
    exact tokens?_letter points cs (by decide) rfl
  by_cases hf : c = '\x0c'
  · subst hf
    exact tokens?_letter points cs (by decide) rfl
  by_cases hn : c = '\n'
  · subst hn
    exact tokens?_letter points cs (by decide) rfl
  by_cases hr : c = '\r'
  · subst hr
    exact tokens?_letter points cs (by decide) rfl
  by_cases ht : c = '\t'
  · subst ht
    exact tokens?_letter points cs (by decide) rfl
  by_cases hcontrol : c.toNat < 0x20
  · have hwritten : escapedChar c =
        ['\\', 'u', hexDigit 0, hexDigit 0, hexDigit (c.toNat / 16), hexDigit c.toNat] := by
      simp [escapedChar, hquote, hback, hb, hf, hn, hr, ht, hcontrol, hexDigit]
    have hvalue : ((0 * 16 + 0 % 16) * 16 + 0 % 16) * 16 + c.toNat / 16 % 16 = c.toNat / 16 := by
      omega
    rw [hwritten]
    simp only [List.cons_append, List.nil_append]
    rw [tokens?_silent _ (show (Mode.text points).step '\\' = some (.escape points, []) from rfl),
      tokens?_silent _ (show (Mode.escape points).step 'u' = some (.digits points 4 0, []) from
        rfl),
      tokens?_digit, tokens?_digit, tokens?_digit, tokens?_last_digit, hvalue, Nat.div_add_mod']
  · have hwritten : escapedChar c = [c] := by
      simp [escapedChar, hquote, hback, hb, hf, hn, hr, ht, hcontrol]
    rw [hwritten]
    exact tokens?_silent cs (by simp [Mode.step, hquote, hback, hcontrol])

theorem tokens?_escaped (points : List Nat) (s cs : List Char) :
    (Mode.text points).tokens? (s.flatMap escapedChar ++ cs) =
      (Mode.text ((s.map Char.toNat).reverse ++ points)).tokens? cs := by
  induction s generalizing points with
  | nil => rfl
  | cons c s ih =>
      rw [List.flatMap_cons, List.append_assoc, tokens?_escapedChar, ih]
      simp

theorem not_surrogate (c : Char) : ¬ (0xD800 ≤ c.toNat ∧ c.toNat ≤ 0xDFFF) := by
  rcases c.valid with h | h
  · rintro ⟨hlow, _⟩
    exact absurd h (Nat.not_lt_of_le hlow)
  · rintro ⟨_, hhigh⟩
    exact absurd h.1 (Nat.not_lt_of_le hhigh)

/-- The code points of a text make up the text. -/
theorem textOf?_map_toNat (s : List Char) : textOf? (s.map Char.toNat) = some s := by
  induction s with
  | nil => rfl
  | cons c s ih =>
      have hc : (decide (0xD800 ≤ c.toNat) && decide (c.toNat ≤ 0xDFFF)) = false := by
        have := not_surrogate c
        simp only [Bool.and_eq_false_iff, decide_eq_false_iff_not]
        omega
      cases s with
      | nil => simp [textOf?, hc]
      | cons d s =>
          have hpair : (decide (0xD800 ≤ c.toNat) && decide (c.toNat ≤ 0xDBFF) &&
              decide (0xDC00 ≤ d.toNat) && decide (d.toNat ≤ 0xDFFF)) = false := by
            have := not_surrogate c
            simp only [Bool.and_eq_false_iff, decide_eq_false_iff_not]
            omega
          simp only [List.map_cons] at ih ⊢
          rw [textOf?, hpair, hc]
          simp [ih]

theorem tokens?_quotedText {s : Option String} (h : s.isSome) (cs : List Char) :
    Mode.between.tokens? (quotedText s ++ cs) =
      (Mode.between.tokens? cs).map (.text s :: ·) := by
  obtain ⟨s, rfl⟩ := Option.isSome_iff_exists.mp h
  have hclose : closeText ((s.toList.map Char.toNat).reverse ++ []) = .text (some s) := by
    simp [closeText, textOf?_map_toNat]
  rw [quotedText, Option.getD_some, List.append_assoc, List.append_assoc, List.cons_append,
    List.nil_append,
    tokens?_silent _ (show Mode.between.step '"' = some (.text [], []) from rfl), tokens?_escaped,
    List.cons_append, List.nil_append,
    tokens?_of_step cs (show (Mode.text ((s.toList.map Char.toNat).reverse ++ [])).step '"' =
      some (.between, [closeText ((s.toList.map Char.toNat).reverse ++ [])]) from rfl), hclose]
  rfl

/-! ## Values

The recursion follows that of the printer: a value, the further elements of an array, the further
members of an object. -/

theorem ended_newLine (level : Nat) (cs : List Char) : Ended (newLine level ++ cs) :=
  ended_cons (by decide)

theorem ended_renderElements (level : Nat) (vs : List Json) {cs : List Char} (hcs : Ended cs) :
    Ended (renderElements level vs ++ cs) := by
  cases vs with
  | nil => exact hcs
  | cons v vs =>
      rw [renderElements, List.append_assoc, List.append_assoc, List.append_assoc]
      exact ended_cons (by decide)

theorem ended_renderMembers (level : Nat) (ms : List (Option String × Json)) {cs : List Char}
    (hcs : Ended cs) : Ended (renderMembers level ms ++ cs) := by
  cases ms with
  | nil => exact hcs
  | cons m ms =>
      obtain ⟨name, v⟩ := m
      simp only [renderMembers, List.append_assoc]
      exact ended_cons (by decide)

mutual

/-- The reader finds the tokens of a value in what the printer writes. -/
theorem tokens?_render (level : Nat) (v : Json) (h : Exact v) {cs : List Char} (hcs : Ended cs) :
    Mode.between.tokens? (render level v ++ cs) =
      (Mode.between.tokens? cs).map (tokens v ++ ·) := by
  match v with
  | .null =>
      rw [render]
      exact tokens?_word (by decide) (not_endsScalar (by decide)) rfl hcs
  | .bool b =>
      rw [render]
      cases b <;> exact tokens?_word (by decide) (not_endsScalar (by decide)) rfl hcs
  | .number literal =>
      rw [Exact] at h
      exact tokens?_word h.1 h.2.1 h.2.2 hcs
  | .text s =>
      rw [Exact] at h
      rw [render]
      exact tokens?_quotedText h cs
  | .array [] =>
      simp only [render, List.cons_append, List.nil_append]
      rw [tokens?_punctuation _ (by decide) (by decide) rfl,
        tokens?_punctuation _ (by decide) (by decide) rfl, tokens, Option.map_map]
      rfl
  | .array (v :: vs) =>
      rw [Exact, ExactElements] at h
      have hend : Ended (newLine level ++ ']' :: cs) := ended_newLine level _
      have hv := tokens?_render (level + 1) v h.1 (ended_renderElements (level + 1) vs hend)
      have hvs := tokens?_renderElements (level + 1) vs h.2 hend
      simp only [render, List.append_assoc, List.cons_append, List.nil_append]
      rw [tokens?_punctuation _ (by decide) (by decide) rfl, tokens?_newLine, hv, hvs,
        tokens?_newLine, tokens?_punctuation _ (by decide) (by decide) rfl]
      simp only [Option.map_map, tokens]
      congr 1
      funext found
      simp
  | .object [] =>
      simp only [render, List.cons_append, List.nil_append]
      rw [tokens?_punctuation _ (by decide) (by decide) rfl,
        tokens?_punctuation _ (by decide) (by decide) rfl, tokens, Option.map_map]
      rfl
  | .object ((name, v) :: ms) =>
      rw [Exact, ExactMembers] at h
      have hend : Ended (newLine level ++ '\x7d' :: cs) := ended_newLine level _
      have hv := tokens?_render (level + 1) v h.2.1 (ended_renderMembers (level + 1) ms hend)
      have hms := tokens?_renderMembers (level + 1) ms h.2.2 hend
      simp only [render, List.append_assoc, List.cons_append, List.nil_append]
      rw [tokens?_punctuation _ (by decide) (by decide) rfl, tokens?_newLine,
        tokens?_quotedText h.1, tokens?_punctuation _ (by decide) (by decide) rfl,
        tokens?_space _ (by decide), hv, hms, tokens?_newLine,
        tokens?_punctuation _ (by decide) (by decide) rfl]
      simp only [Option.map_map, tokens]
      congr 1
      funext found
      simp

theorem tokens?_renderElements (level : Nat) (vs : List Json) (h : ExactElements vs)
    {cs : List Char} (hcs : Ended cs) :
    Mode.between.tokens? (renderElements level vs ++ cs) =
      (Mode.between.tokens? cs).map (elementTokens vs ++ ·) := by
  match vs with
  | [] => simp [renderElements, elementTokens]
  | v :: vs =>
      rw [ExactElements] at h
      have hv := tokens?_render level v h.1 (ended_renderElements level vs hcs)
      have hvs := tokens?_renderElements level vs h.2 hcs
      simp only [renderElements, List.append_assoc, List.cons_append, List.nil_append]
      rw [tokens?_punctuation _ (by decide) (by decide) rfl, tokens?_newLine, hv, hvs]
      simp only [Option.map_map, elementTokens]
      congr 1
      funext found
      simp

theorem tokens?_renderMembers (level : Nat) (ms : List (Option String × Json))
    (h : ExactMembers ms) {cs : List Char} (hcs : Ended cs) :
    Mode.between.tokens? (renderMembers level ms ++ cs) =
      (Mode.between.tokens? cs).map (memberTokens ms ++ ·) := by
  match ms with
  | [] => simp [renderMembers, memberTokens]
  | (name, v) :: ms =>
      rw [ExactMembers] at h
      have hv := tokens?_render level v h.2.1 (ended_renderMembers level ms hcs)
      have hms := tokens?_renderMembers level ms h.2.2 hcs
      simp only [renderMembers, List.append_assoc, List.cons_append, List.nil_append]
      rw [tokens?_punctuation _ (by decide) (by decide) rfl, tokens?_newLine,
        tokens?_quotedText h.1, tokens?_punctuation _ (by decide) (by decide) rfl,
        tokens?_space _ (by decide), hv, hms]
      simp only [Option.map_map, memberTokens]
      congr 1
      funext found
      simp

end

end SourceTutor.Json
