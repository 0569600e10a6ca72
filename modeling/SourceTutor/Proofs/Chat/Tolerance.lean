import SourceTutor.Chat.Response
import SourceTutor.Proofs.Json.Editing
import SourceTutor.Proofs.Json.Grammar

/-!
# Answers that are written otherwise

An answer is edited when known members are removed from its objects, members are added that are not
known, and all are rearranged (`Response.Edited`). What is read from a document of what comes out,
however it is laid out, is the answer in which the removed fields have their defaults
(`Response.without`), and as long as the members on the way to the text of the first choice are kept,
that text is the same: `Response.parse?_edited`.
-/

set_option autoImplicit false

namespace SourceTutor.Chat

open SourceTutor.Json

/-- The names of the members that are removed from a choice and from its message. -/
structure ChoiceRemoval where
  fields : List String
  message : List String

/-- The names of the members that are removed from an answer, from each of its choices and from its
token counts. -/
structure Removal where
  fields : List String
  choice : Nat → ChoiceRemoval
  usage : List String

variable {v v' : Json} {removed : List String}

/-! ## Messages -/

namespace ChoiceMessage

/-- The message with defaults for what is removed. -/
def without (removed : List String) (m : ChoiceMessage) : ChoiceMessage where
  role := if "role" ∈ removed then none else m.role
  content := if "content" ∈ removed then none else m.content

/-- An edit of a message. -/
def Edited (removed : List String) : Json → Json → Prop :=
  Json.Edited ["role", "content"] removed fun _ v v' => v = v'

theorem ofJson?_eq_some_iff (v : Json) (m : ChoiceMessage) : ofJson? v = some m ↔
    ∃ role content, fields? ["role", "content"] v = some [role, content] ∧
      defaulted? none (asOptional? asText?) role = some m.role ∧
      defaulted? none (asOptional? asText?) content = some m.content := by
  constructor
  · intro h
    obtain ⟨fs, hfields, h⟩ := Option.bind_eq_some_iff.mp h
    split at h
    · rename_i role content
      obtain ⟨_, hrole, h⟩ := Option.bind_eq_some_iff.mp h
      obtain ⟨_, hcontent, h⟩ := Option.bind_eq_some_iff.mp h
      obtain rfl := Option.some.inj h
      exact ⟨role, content, hfields, hrole, hcontent⟩
    · cases h
  · rintro ⟨role, content, hfields, hrole, hcontent⟩
    simp only [ofJson?, hfields, hrole, hcontent, Option.bind_eq_bind, Option.bind_some]

theorem ofJson?_edited {m : ChoiceMessage} (hedited : Edited removed v v')
    (h : ofJson? v = some m) : ofJson? v' = some (m.without removed) := by
  obtain ⟨role, content, hfields, hrole, hcontent⟩ := (ofJson?_eq_some_iff v m).mp h
  obtain ⟨_, hfields', hedits⟩ := fields?_edited hedited hfields
  obtain - | ⟨hroleEdit, - | ⟨hcontentEdit, ⟨⟩⟩⟩ := hedits
  refine (ofJson?_eq_some_iff v' _).mpr ⟨_, _, hfields', ?_, ?_⟩
  · exact defaulted?_same hroleEdit (fun _ _ h => h) hrole
  · exact defaulted?_same hcontentEdit (fun _ _ h => h) hcontent

end ChoiceMessage

/-! ## Choices -/

namespace Choice

/-- The choice with defaults for what is removed. -/
def without (x : ChoiceRemoval) (c : Choice) : Choice where
  index := if "index" ∈ x.fields then 0 else c.index
  message := if "message" ∈ x.fields then none else c.message.map (·.without x.message)
  finishReason := if "finish_reason" ∈ x.fields then none else c.finishReason

/-- An edit of a choice: its message is edited or `null`, and its other members are kept as they
are. -/
def Edited (x : ChoiceRemoval) : Json → Json → Prop :=
  Json.Edited ["index", "message", "finish_reason"] x.fields fun
    | "message" => OrNull (ChoiceMessage.Edited x.message)
    | _ => fun v v' => v = v'

theorem ofJson?_eq_some_iff (v : Json) (c : Choice) : ofJson? v = some c ↔
    ∃ index message finishReason,
      fields? ["index", "message", "finish_reason"] v = some [index, message, finishReason] ∧
      defaulted? 0 asWord? index = some c.index ∧
      defaulted? none (asOptional? ChoiceMessage.ofJson?) message = some c.message ∧
      defaulted? none (asOptional? asText?) finishReason = some c.finishReason := by
  constructor
  · intro h
    obtain ⟨fs, hfields, h⟩ := Option.bind_eq_some_iff.mp h
    split at h
    · rename_i index message finishReason
      obtain ⟨_, hindex, h⟩ := Option.bind_eq_some_iff.mp h
      obtain ⟨_, hmessage, h⟩ := Option.bind_eq_some_iff.mp h
      obtain ⟨_, hreason, h⟩ := Option.bind_eq_some_iff.mp h
      obtain rfl := Option.some.inj h
      exact ⟨index, message, finishReason, hfields, hindex, hmessage, hreason⟩
    · cases h
  · rintro ⟨index, message, finishReason, hfields, hindex, hmessage, hreason⟩
    simp only [ofJson?, hfields, hindex, hmessage, hreason, Option.bind_eq_bind, Option.bind_some]

theorem ofJson?_edited {x : ChoiceRemoval} {c : Choice} (hedited : Edited x v v')
    (h : ofJson? v = some c) : ofJson? v' = some (c.without x) := by
  obtain ⟨index, message, finishReason, hfields, hindex, hmessage, hreason⟩ :=
    (ofJson?_eq_some_iff v c).mp h
  obtain ⟨_, hfields', hedits⟩ := fields?_edited hedited hfields
  obtain - | ⟨hindexEdit, - | ⟨hmessageEdit, - | ⟨hreasonEdit, ⟨⟩⟩⟩⟩ := hedits
  refine (ofJson?_eq_some_iff v' _).mpr ⟨_, _, _, hfields', ?_, ?_, ?_⟩
  · exact defaulted?_same hindexEdit (fun _ _ h => h) hindex
  · exact defaulted?_edited hmessageEdit rfl
      (fun _ _ _ hedit => asOptional?_edited hedit fun _ => ChoiceMessage.ofJson?_edited) hmessage
  · exact defaulted?_same hreasonEdit (fun _ _ h => h) hreason

end Choice

/-! ## Token counts -/

namespace Usage

/-- The token counts with defaults for what is removed. -/
def without (removed : List String) (u : Usage) : Usage where
  promptTokens := if "prompt_tokens" ∈ removed then 0 else u.promptTokens
  completionTokens := if "completion_tokens" ∈ removed then 0 else u.completionTokens
  totalTokens := if "total_tokens" ∈ removed then 0 else u.totalTokens

/-- An edit of the token counts. -/
def Edited (removed : List String) : Json → Json → Prop :=
  Json.Edited ["prompt_tokens", "completion_tokens", "total_tokens"] removed fun _ v v' => v = v'

theorem ofJson?_eq_some_iff (v : Json) (u : Usage) : ofJson? v = some u ↔
    ∃ prompt completion total,
      fields? ["prompt_tokens", "completion_tokens", "total_tokens"] v =
        some [prompt, completion, total] ∧
      defaulted? 0 asWord? prompt = some u.promptTokens ∧
      defaulted? 0 asWord? completion = some u.completionTokens ∧
      defaulted? 0 asWord? total = some u.totalTokens := by
  constructor
  · intro h
    obtain ⟨fs, hfields, h⟩ := Option.bind_eq_some_iff.mp h
    split at h
    · rename_i prompt completion total
      obtain ⟨_, hprompt, h⟩ := Option.bind_eq_some_iff.mp h
      obtain ⟨_, hcompletion, h⟩ := Option.bind_eq_some_iff.mp h
      obtain ⟨_, htotal, h⟩ := Option.bind_eq_some_iff.mp h
      obtain rfl := Option.some.inj h
      exact ⟨prompt, completion, total, hfields, hprompt, hcompletion, htotal⟩
    · cases h
  · rintro ⟨prompt, completion, total, hfields, hprompt, hcompletion, htotal⟩
    simp only [ofJson?, hfields, hprompt, hcompletion, htotal, Option.bind_eq_bind,
      Option.bind_some]

theorem ofJson?_edited {u : Usage} (hedited : Edited removed v v')
    (h : ofJson? v = some u) : ofJson? v' = some (u.without removed) := by
  obtain ⟨prompt, completion, total, hfields, hprompt, hcompletion, htotal⟩ :=
    (ofJson?_eq_some_iff v u).mp h
  obtain ⟨_, hfields', hedits⟩ := fields?_edited hedited hfields
  obtain - | ⟨hpromptEdit, - | ⟨hcompletionEdit, - | ⟨htotalEdit, ⟨⟩⟩⟩⟩ := hedits
  refine (ofJson?_eq_some_iff v' _).mpr ⟨_, _, _, hfields', ?_, ?_, ?_⟩
  · exact defaulted?_same hpromptEdit (fun _ _ h => h) hprompt
  · exact defaulted?_same hcompletionEdit (fun _ _ h => h) hcompletion
  · exact defaulted?_same htotalEdit (fun _ _ h => h) htotal

end Usage

/-! ## Answers -/

namespace Response

variable {x : Removal} {r : Response}

/-- The answer with defaults for what is removed. -/
def without (x : Removal) (r : Response) : Response where
  id := if "id" ∈ x.fields then none else r.id
  model := if "model" ∈ x.fields then none else r.model
  choices := if "choices" ∈ x.fields then [] else r.choices.mapIdx fun i c => c.without (x.choice i)
  usage := if "usage" ∈ x.fields then none else r.usage.map (·.without x.usage)

/-- An edit of an answer: its choices are edited, its token counts are edited or `null`, and its
other members are kept as they are. -/
def Edited (x : Removal) : Json → Json → Prop :=
  Json.Edited ["id", "model", "choices", "usage"] x.fields fun
    | "choices" => EditedElements fun i => Choice.Edited (x.choice i)
    | "usage" => OrNull (Usage.Edited x.usage)
    | _ => fun v v' => v = v'

theorem ofJson?_eq_some_iff (v : Json) (r : Response) : ofJson? v = some r ↔
    ∃ id model choices usage,
      fields? ["id", "model", "choices", "usage"] v = some [id, model, choices, usage] ∧
      defaulted? none (asOptional? asText?) id = some r.id ∧
      defaulted? none (asOptional? asText?) model = some r.model ∧
      defaulted? [] (asList? Choice.ofJson?) choices = some r.choices ∧
      defaulted? none (asOptional? Usage.ofJson?) usage = some r.usage := by
  constructor
  · intro h
    obtain ⟨fs, hfields, h⟩ := Option.bind_eq_some_iff.mp h
    split at h
    · rename_i id model choices usage
      obtain ⟨_, hid, h⟩ := Option.bind_eq_some_iff.mp h
      obtain ⟨_, hmodel, h⟩ := Option.bind_eq_some_iff.mp h
      obtain ⟨_, hchoices, h⟩ := Option.bind_eq_some_iff.mp h
      obtain ⟨_, husage, h⟩ := Option.bind_eq_some_iff.mp h
      obtain rfl := Option.some.inj h
      exact ⟨id, model, choices, usage, hfields, hid, hmodel, hchoices, husage⟩
    · cases h
  · rintro ⟨id, model, choices, usage, hfields, hid, hmodel, hchoices, husage⟩
    simp only [ofJson?, hfields, hid, hmodel, hchoices, husage, Option.bind_eq_bind,
      Option.bind_some]

theorem ofJson?_edited (hedited : Edited x v v') (h : ofJson? v = some r) :
    ofJson? v' = some (r.without x) := by
  obtain ⟨id, model, choices, usage, hfields, hid, hmodel, hchoices, husage⟩ :=
    (ofJson?_eq_some_iff v r).mp h
  obtain ⟨_, hfields', hedits⟩ := fields?_edited hedited hfields
  obtain - | ⟨hidEdit, - | ⟨hmodelEdit, - | ⟨hchoicesEdit, - | ⟨husageEdit, ⟨⟩⟩⟩⟩⟩ := hedits
  refine (ofJson?_eq_some_iff v' _).mpr ⟨_, _, _, _, hfields', ?_, ?_, ?_, ?_⟩
  · exact defaulted?_same hidEdit (fun _ _ h => h) hid
  · exact defaulted?_same hmodelEdit (fun _ _ h => h) hmodel
  · exact defaulted?_edited hchoicesEdit rfl
      (fun _ _ _ hedit => asList?_edited hedit fun _ _ _ _ => Choice.ofJson?_edited) hchoices
  · exact defaulted?_edited husageEdit rfl
      (fun _ _ _ hedit => asOptional?_edited hedit fun _ => Usage.ofJson?_edited) husage

/-- The text of an answer depends on nothing but the content of the message of its first choice. -/
theorem completion?_without (hchoices : "choices" ∉ x.fields)
    (hmessage : "message" ∉ (x.choice 0).fields) (hcontent : "content" ∉ (x.choice 0).message)
    (r : Response) : (r.without x).completion? = r.completion? := by
  -- down to the content every field is there as before
  have hrest : (r.without x).choices = r.choices.mapIdx fun i c => c.without (x.choice i) :=
    if_neg hchoices
  cases hcs : r.choices with
  | nil => simp only [completion?, hrest, hcs, List.mapIdx_nil]
  | cons c cs =>
      have hturn : (c.without (x.choice 0)).message =
          c.message.map (·.without (x.choice 0).message) := if_neg hmessage
      simp only [completion?, hrest, hcs, List.mapIdx_cons, List.head?_cons, Option.bind_eq_bind,
        Option.bind_some, hturn]
      cases c.message with
      | none => rfl
      | some m =>
          have hsame : (m.without (x.choice 0).message).content = m.content := if_neg hcontent
          simp only [Option.map_some, Option.bind_some, hsame]

/-- **An answer can be edited.** What it is read from is the document of a value, and from every
document of an edited value the answer is read without what has been removed; its text is the same
if the members on the way to it are kept. -/
theorem parse?_edited (s : String) (r : Response) (h : Response.parse? s = some r) :
    ∃ v, Written v s ∧ ∀ x v' s', Edited x v v' → Written v' s' →
      Response.parse? s' = some (r.without x) ∧
        ("choices" ∉ x.fields → "message" ∉ (x.choice 0).fields →
          "content" ∉ (x.choice 0).message → (r.without x).completion? = r.completion?) := by
  obtain ⟨v, hv, hr⟩ := Option.bind_eq_some_iff.mp h
  refine ⟨v, (parse?_eq_some_iff s v).mp hv, ?_⟩
  intro x v' s' hedited hwritten
  refine ⟨?_, fun hchoices hmessage hcontent => completion?_without hchoices hmessage hcontent r⟩
  rw [Response.parse?, (parse?_eq_some_iff s' v').mpr hwritten]
  exact ofJson?_edited hedited hr

/-! ### An answer that is edited everywhere -/

/-- The answer `Hi.`, with a role and with token counts. -/
def plain : String :=
  "\x7b\"id\":\"1\",\"choices\":[\x7b\"index\":1,\"message\":\x7b\"role\":\"a\"," ++
    "\"content\":\"Hi.\"\x7d\x7d],\"usage\":\x7b\"total_tokens\":3\x7d\x7d"

def plainMessage : Json := .object [(some "role", .ofText "a"), (some "content", .ofText "Hi.")]

def plainChoice : Json := .object [(some "index", .number "1"), (some "message", plainMessage)]

/-- The value of `plain`. -/
def plainValue : Json :=
  .object [(some "id", .ofText "1"), (some "choices", .array [plainChoice]),
    (some "usage", .object [(some "total_tokens", .number "3")])]

/-- The answer that `plain` holds. -/
def plainAnswer : Response :=
  ⟨some "1", none, [⟨1, some ⟨some "a", some "Hi."⟩, none⟩], some ⟨0, 0, 3⟩⟩

/-- One member is removed from every object. -/
def everywhere : Removal := ⟨["id"], fun _ => ⟨["index"], ["role"]⟩, ["total_tokens"]⟩

def reworkedMessage : Json := .object [(some "content", .ofText "Hi."), (some "x", .array [])]

def reworkedChoice : Json :=
  .object [(some "index_", .number "2"), (some "message", reworkedMessage)]

/-- The value without these members, with others instead, and in another order. -/
def reworked : Json :=
  .object [(some "x", .array [.null]), (some "usage", .object [(some "id", .bool true)]),
    (some "choices", .array [reworkedChoice])]

/-- A document of `reworked`, with white space. -/
def reworkedText : String :=
  "\x7b \"x\": [null],\n \"usage\": \x7b\"id\": true\x7d,\n \"choices\":\t[\x7b\"index_\": 2," ++
    " \"message\": \x7b\"content\" : \"Hi.\", \"x\": [ ]\x7d\x7d] \x7d\n"

theorem written_plain : Written plainValue plain :=
  owes_of_tokens? .between _ (by decide +kernel)

theorem written_reworked : Written reworked reworkedText :=
  owes_of_tokens? .between _ (by decide +kernel)

theorem parse?_plain : Response.parse? plain = some plainAnswer := by decide +kernel

theorem edited_everywhere : Edited everywhere plainValue reworked := by
  have hunknown : ∀ (name : String) (known : List String) (v : Json), name ∉ known →
      ∀ m ∈ [(some name, v)], ∃ other, m.1 = some other ∧ other ∉ known := by
    intro name known v hname m hm
    obtain rfl := List.mem_singleton.mp hm
    exact ⟨name, rfl, hname⟩
  have hmessage : ChoiceMessage.Edited ["role"] plainMessage reworkedMessage :=
    .intro (.cons (.intro rfl) .nil) (hunknown "x" _ _ (by decide)) (.refl _)
  have hchoice : Choice.Edited ⟨["index"], ["role"]⟩ plainChoice reworkedChoice :=
    .intro (.cons (.intro (.value hmessage)) .nil) (hunknown "index_" _ _ (by decide)) (.swap _ _ _)
  have hchoices : EditedElements (fun i => Choice.Edited (everywhere.choice i))
      (.array [plainChoice]) (.array [reworkedChoice]) := .singleton hchoice
  have husage : Usage.Edited ["total_tokens"] (.object [(some "total_tokens", .number "3")])
      (.object [(some "id", .bool true)]) :=
    .intro .nil (hunknown "id" _ _ (by decide)) (.refl _)
  exact .intro (.cons (.intro hchoices) (.cons (.intro (.value husage)) .nil))
    (hunknown "x" _ _ (by decide))
    (List.reverse_perm [(some "choices", _), (some "usage", _), (some "x", _)])

/-- The text without the members that are removed holds the answer without their fields. -/
theorem parse?_edited_reworked :
    Response.parse? plain = some plainAnswer ∧
      (∃ v, Written v plain ∧ Edited everywhere v reworked) ∧ Written reworked reworkedText ∧
      Response.parse? reworkedText = some (plainAnswer.without everywhere) ∧
      (plainAnswer.without everywhere).completion? = plainAnswer.completion? := by
  obtain ⟨v, hv, hedits⟩ := parse?_edited plain plainAnswer parse?_plain
  -- a text is the document of one value
  have hvalue : v = plainValue := by
    have hplain := (parse?_eq_some_iff plain plainValue).mpr written_plain
    rw [(parse?_eq_some_iff plain v).mpr hv] at hplain
    exact Option.some.inj hplain
  subst hvalue
  obtain ⟨hparse, hsame⟩ :=
    hedits everywhere reworked reworkedText edited_everywhere written_reworked
  exact ⟨parse?_plain, ⟨plainValue, hv, edited_everywhere⟩, written_reworked, hparse,
    hsame (by decide) (by decide) (by decide)⟩

end Response

end SourceTutor.Chat
