import SourceTutor.Proofs.Json.RoundTrip

/-!
# Documents that are cut short

The beginning of a document is not the document of another value, unless it is a single number or
word (`parse?_append`): an array or an object ends only with its last bracket. The reader takes
nothing but the tokens of the value that it reads (`value?_sound`), no value has the tokens of
another one with something behind them (`eq_of_tokens_append`), and the tokens of the beginning of a
text begin the tokens of the text, except for a number or a word that is cut in two.
-/

set_option autoImplicit false

namespace SourceTutor.Json

/-! ## The tokens that are taken -/

mutual

/-- The reader takes the tokens of the value that it reads. -/
theorem value?_sound (n : Nat) {ts rest : List Token} {v : Json}
    (h : value? n ts = some (v, rest)) : ts = tokens v ++ rest := by
  match n with
  | 0 => cases h
  | n + 1 =>
      rw [value?.eq_def] at h
      simp only at h
      split at h
      · cases h
        rfl
      · cases h
        rfl
      · cases h
        rfl
      · cases h
        rfl
      · cases h
        rfl
      · split at h
        · rename_i vs rest' hvs
          cases h
          obtain ⟨u, us, rfl, hmore⟩ := elements?_sound n hvs
          rw [hmore, tokens]
          simp
        · cases h
      · cases h
        rfl
      · split at h
        · rename_i ms rest' hms
          cases h
          obtain ⟨name, u, us, rfl, hmore⟩ := members?_sound n hms
          rw [hmore, tokens]
          simp
        · cases h
      · cases h

theorem elements?_sound (n : Nat) {ts rest : List Token} {vs : List Json}
    (h : elements? n ts = some (vs, rest)) :
    ∃ v us, vs = v :: us ∧ ts = tokens v ++ (elementTokens us ++ .closeArray :: rest) := by
  match n with
  | 0 => cases h
  | n + 1 =>
      rw [elements?] at h
      split at h
      · rename_i v more hv
        split at h
        · rename_i us rest' hus
          cases h
          obtain ⟨u, others, rfl, hmore⟩ := elements?_sound n hus
          refine ⟨v, _, rfl, ?_⟩
          rw [value?_sound n hv, hmore, elementTokens]
          simp
        · cases h
      · rename_i v more hv
        cases h
        refine ⟨v, [], rfl, ?_⟩
        rw [value?_sound n hv, elementTokens]
        rfl
      · cases h

theorem members?_sound (n : Nat) {ts rest : List Token} {ms : List (Option String × Json)}
    (h : members? n ts = some (ms, rest)) :
    ∃ name v us, ms = (name, v) :: us ∧
      ts = .text name :: .colon :: (tokens v ++ (memberTokens us ++ .closeObject :: rest)) := by
  match n with
  | 0 => cases h
  | n + 1 =>
      rw [members?.eq_def] at h
      simp only at h
      split at h
      · rename_i name more
        split at h
        · rename_i v more' hv
          split at h
          · rename_i us rest' hus
            cases h
            obtain ⟨other, u, others, rfl, hmore⟩ := members?_sound n hus
            refine ⟨name, v, _, rfl, ?_⟩
            rw [value?_sound n hv, hmore, memberTokens]
            simp
          · cases h
        · rename_i v more' hv
          cases h
          refine ⟨name, v, [], rfl, ?_⟩
          rw [value?_sound n hv, memberTokens]
          rfl
        · cases h
      · cases h

end

theorem ofTokens?_sound {ts : List Token} {v : Json} (h : ofTokens? ts = some v) :
    ts = tokens v := by
  rw [ofTokens?] at h
  split at h
  · rename_i v' hv
    cases h
    rw [value?_sound _ hv, List.append_nil]
  · cases h

/-- No value has the tokens of another one in front of its own. -/
theorem eq_of_tokens_append {v w : Json} {more : List Token} (h : tokens w = tokens v ++ more) :
    v = w := by
  have hw := value?_tokens (tokens w).length w (Nat.le_refl _) []
  have hv := value?_tokens (tokens w).length v (by
    rw [h, List.length_append]
    exact Nat.le_add_right _ _) more
  rw [List.append_nil] at hw
  rw [← h, hw] at hv
  cases hv
  rfl

/-! ## Numbers and words -/

/-- Whether the token is a number or a word. -/
def Token.isScalar : Token → Bool
  | .null => true
  | .bool _ => true
  | .number _ => true
  | _ => false

/-- Whether the value is a number or a word. -/
def isScalar : Json → Bool
  | .null => true
  | .bool _ => true
  | .number _ => true
  | _ => false

/-- Only a number or a word ends with one. -/
theorem isScalar_of_tokens_eq_concat {v : Json} {ts : List Token} {token : Token}
    (h : tokens v = ts ++ [token]) (htoken : token.isScalar = true) : v.isScalar = true := by
  have hlast : (tokens v).getLast? = some token := by rw [h, List.getLast?_concat]
  -- whatever else a value ends with, it is a text or a bracket
  have hne : ∀ closing : Token, closing.isScalar = false →
      (tokens v).getLast? = some closing → v.isScalar = true := by
    intro closing hclosing heq
    rw [hlast] at heq
    cases heq
    rw [htoken] at hclosing
    cases hclosing
  match v with
  | .null => rfl
  | .bool _ => rfl
  | .number _ => rfl
  | .text s => exact hne (.text s) rfl rfl
  | .array [] => exact hne .closeArray rfl rfl
  | .array (v :: vs) =>
      refine hne .closeArray rfl ?_
      rw [tokens, List.getLast?_concat]
  | .object [] => exact hne .closeObject rfl rfl
  | .object ((name, v) :: ms) =>
      refine hne .closeObject rfl ?_
      rw [tokens, List.getLast?_concat]

theorem isScalar_of_scalar? {cs : List Char} {token : Token} (h : scalar? cs = some token) :
    token.isScalar = true := by
  rw [scalar?] at h
  split at h
  · cases h
    rfl
  split at h
  · cases h
    rfl
  split at h
  · cases h
    rfl
  split at h
  · cases h
    rfl
  · cases h

/-- What is left at the end of a document is a number or a word. -/
theorem finish?_cases {mode : Mode} {ts : List Token} (h : mode.finish? = some ts) :
    ts = [] ∨ ∃ token, ts = [token] ∧ token.isScalar = true := by
  cases mode with
  | between =>
      cases h
      exact .inl rfl
  | scalar collected =>
      obtain ⟨token, htoken, rfl⟩ := Option.map_eq_some_iff.mp h
      exact .inr ⟨token, rfl, isScalar_of_scalar? htoken⟩
  | text points => cases h
  | escape points => cases h
  | digits points missing value => cases h

/-! ## The beginning of a text -/

/-- Both the beginning of a text and the whole text have the tokens that are read first; the text
may have more, and the beginning what is left at its end. -/
theorem tokens?_append (mode : Mode) (cs more : List Char) {ts full : List Token}
    (h : mode.tokens? cs = some ts) (hfull : mode.tokens? (cs ++ more) = some full) :
    ∃ first last rest, ts = first ++ last ∧ full = first ++ rest ∧
      (last = [] ∨ ∃ token, last = [token] ∧ token.isScalar = true) := by
  induction cs generalizing mode ts full with
  | nil => exact ⟨[], ts, full, rfl, rfl, finish?_cases h⟩
  | cons c cs ih =>
      rw [List.cons_append] at hfull
      cases hstep : mode.step c with
      | none =>
          rw [Mode.tokens?, hstep] at h
          cases h
      | some out =>
          obtain ⟨next, found⟩ := out
          rw [tokens?_of_step _ hstep] at h hfull
          obtain ⟨ts', hts, rfl⟩ := Option.map_eq_some_iff.mp h
          obtain ⟨full', hfull', rfl⟩ := Option.map_eq_some_iff.mp hfull
          -- both go on in the same mode, with what the character has brought
          obtain ⟨first, last, rest, rfl, rfl, hlast⟩ := ih next hts hfull'
          exact ⟨found ++ first, last, rest, by simp, by simp, hlast⟩

/-- **A document that is cut short** is the document of no other value, unless a single number or
word is left of it. -/
theorem parse?_append {s more : String} {v w : Json} (h : parse? s = some v)
    (hw : parse? (s ++ more) = some w) : v = w ∨ v.isScalar = true := by
  rw [parse?, Token.ofText?] at h hw
  obtain ⟨ts, hts, hv⟩ := Option.bind_eq_some_iff.mp h
  obtain ⟨full, hfull, hw⟩ := Option.bind_eq_some_iff.mp hw
  rw [String.toList_append] at hfull
  obtain ⟨first, last, rest, rfl, rfl, hlast⟩ := tokens?_append _ _ _ hts hfull
  have hv := ofTokens?_sound hv
  have hw := ofTokens?_sound hw
  rcases hlast with rfl | ⟨token, rfl, htoken⟩
  · -- all tokens of the beginning are tokens of the whole
    rw [List.append_nil] at hv
    rw [hv] at hw
    exact .inl (eq_of_tokens_append hw.symm)
  · exact .inr (isScalar_of_tokens_eq_concat hv.symm htoken)

end SourceTutor.Json
