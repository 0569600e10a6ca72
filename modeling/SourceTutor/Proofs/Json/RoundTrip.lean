import SourceTutor.Json.Reader
import SourceTutor.Proofs.Json.Tokens

/-!
# What is written is read back

`Json.parse?_print` says that a document that the printer writes is read as the value it was written
from, also with spaces or line ends behind it. The reader bounds its recursion by the number of
tokens, and `value?_tokens` shows that the tokens of a value are enough: a value and the elements of
an array ask for no more steps than they have tokens.
-/

set_option autoImplicit false

namespace SourceTutor.Json

/-- No value begins with the end of an array. -/
theorem exists_tokens_eq_cons (v : Json) :
    ∃ token rest, tokens v = token :: rest ∧ token ≠ .closeArray := by
  match v with
  | .null => exact ⟨_, _, rfl, nofun⟩
  | .bool b => exact ⟨_, _, rfl, nofun⟩
  | .number literal => exact ⟨_, _, rfl, nofun⟩
  | .text s => exact ⟨_, _, rfl, nofun⟩
  | .array [] => exact ⟨_, _, rfl, nofun⟩
  | .array (v :: vs) => exact ⟨.openArray, _, by rw [tokens]; rfl, nofun⟩
  | .object [] => exact ⟨_, _, rfl, nofun⟩
  | .object ((name, v) :: ms) => exact ⟨.openObject, _, by rw [tokens]; rfl, nofun⟩

theorem length_tokens_pos (v : Json) : 0 < (tokens v).length := by
  obtain ⟨token, rest, h, _⟩ := exists_tokens_eq_cons v
  rw [h]
  exact Nat.succ_pos _

/-- Behind the start of an array, anything but its end is read as elements. -/
theorem value?_openArray {n : Nat} {token : Token} {rest more : List Token} {vs : List Json}
    (hne : token ≠ .closeArray) (h : elements? n (token :: rest) = some (vs, more)) :
    value? (n + 1) (.openArray :: token :: rest) = some (.array vs, more) := by
  cases token with
  | closeArray => exact absurd rfl hne
  | _ => simp [value?, h]

mutual

/-- The tokens of a value are read as the value, and what stands behind them is left. -/
theorem value?_tokens (n : Nat) (v : Json) (hn : (tokens v).length ≤ n) (rest : List Token) :
    value? n (tokens v ++ rest) = some (v, rest) := by
  match n with
  | 0 =>
      have := length_tokens_pos v
      omega
  | n + 1 =>
      match v with
      | .null => rfl
      | .bool b => rfl
      | .number literal => rfl
      | .text s => rfl
      | .array [] => rfl
      | .array (v :: vs) =>
          obtain ⟨token, others, hv, hne⟩ := exists_tokens_eq_cons v
          have hvs := elements?_tokens n v vs (by
            simp only [tokens, List.length_cons, List.length_append, List.length_nil] at hn
            omega) rest
          rw [hv, List.cons_append] at hvs
          simp only [tokens, hv, List.cons_append, List.append_assoc, List.nil_append]
          exact value?_openArray hne hvs
      | .object [] => rfl
      | .object ((name, v) :: ms) =>
          have hms := members?_tokens n name v ms (by
            simp only [tokens, List.length_cons, List.length_append, List.length_nil] at hn
            omega) rest
          simp only [tokens, List.cons_append, List.append_assoc, List.nil_append]
          rw [value?, hms]
          nofun

theorem elements?_tokens (n : Nat) (v : Json) (vs : List Json)
    (hn : (tokens v).length + (elementTokens vs).length + 1 ≤ n) (rest : List Token) :
    elements? n (tokens v ++ (elementTokens vs ++ .closeArray :: rest)) =
      some (v :: vs, rest) := by
  match n with
  | 0 => omega
  | n + 1 =>
      rw [elements?, value?_tokens n v (by omega)]
      match vs with
      | [] => rfl
      | u :: us =>
          have hus := elements?_tokens n u us (by
            simp only [elementTokens, List.length_cons, List.length_append] at hn
            omega) rest
          simp only [elementTokens, List.cons_append, List.append_assoc]
          rw [hus]

theorem members?_tokens (n : Nat) (name : Option String) (v : Json)
    (ms : List (Option String × Json))
    (hn : (tokens v).length + (memberTokens ms).length + 1 ≤ n) (rest : List Token) :
    members? n (.text name :: .colon :: (tokens v ++ (memberTokens ms ++ .closeObject :: rest))) =
      some ((name, v) :: ms, rest) := by
  match n with
  | 0 => omega
  | n + 1 =>
      rw [members?, value?_tokens n v (by omega)]
      match ms with
      | [] => rfl
      | (other, u) :: us =>
          have hus := members?_tokens n other u us (by
            simp only [memberTokens, List.length_cons, List.length_append] at hn
            omega) rest
          simp only [memberTokens, List.cons_append, List.append_assoc]
          rw [hus]

end

theorem ofTokens?_tokens (v : Json) : ofTokens? (tokens v) = some v := by
  have h := value?_tokens (2 * (tokens v).length + 1) v (by omega) []
  rw [List.append_nil] at h
  rw [ofTokens?, h]

theorem tokens?_spaces {spaces : List Char} (h : ∀ c ∈ spaces, isSpace c = true) :
    Mode.between.tokens? spaces = some [] := by
  induction spaces with
  | nil => rfl
  | cons c spaces ih =>
      rw [tokens?_space _ (h c (List.mem_cons_self ..))]
      exact ih fun d hd => h d (List.mem_cons_of_mem _ hd)

/-- **What is written is read back**, with nothing but spaces and line ends behind it. -/
theorem parse?_print {v : Json} (h : Exact v) {spaces : String}
    (hspaces : ∀ c ∈ spaces.toList, isSpace c = true) : parse? (print v ++ spaces) = some v := by
  have hended : Ended spaces.toList := by
    intro c hc
    have := hspaces c (List.mem_of_mem_head? hc)
    simp [endsScalar, this]
  have htokens : Token.ofText? (print v ++ spaces) = some (tokens v) := by
    rw [Token.ofText?, String.toList_append, print, String.toList_ofList,
      tokens?_render 0 v h hended, tokens?_spaces hspaces]
    simp
  rw [parse?, htokens]
  exact ofTokens?_tokens v

end SourceTutor.Json
