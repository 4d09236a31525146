import Decodex.Guarantees.FormAnswers

/-!
# MCP forms: accepted responses conform to the request

Source: crates/decodex-protocol/src/mcp_elicitation.rs:183-249 (`validate_mcp_response`). A form
response that is accepted names fields of the form only, and persists only a scope that was offered;
it is an instance of the schema exactly where the keywords passed over are met. A refusal carries
nothing, and what `mcp_form_content` makes is accepted.
-/
namespace Decodex.Guarantees.FormResponses

open Decodex.Library Decodex.Library.JsonSchema Decodex.Source.Protocol.McpElicitation
open Decodex.Guarantees.FormFields Decodex.Guarantees.FormAnswers

variable {F : Type}

/-- The content of a response; none counts as the empty object. -/
def contentOf (response : Value F) : Value F :=
  if (response.member "content").isNull then .object [] else response.member "content"

def schemaOf (request : Value F) : Value F := request.member "requestedSchema"

/-- The content has no field that the schema does not name. -/
def NamesFields (request response : Value F) : Prop :=
  ∀ name found, (contentOf response).get name = some found →
    (((schemaOf request).member "properties").get name).isSome = true

/-- The request offers to persist this scope. -/
def Offers (request : Value F) (scope : String) : Prop :=
  (request.member "_meta").member "persist" = .string scope ∨
    ∃ scopes, (request.member "_meta").member "persist" = .array scopes ∧ .string scope ∈ scopes

/-- A persist scope is that of a form without fields, no tool suggestion, that offered it. -/
def PersistsOffered (request response : Value F) : Prop :=
  ∀ persist, (response.member "_meta").get "persist" = some persist →
    (schemaOf request).member "properties" = .object [] ∧
      (request.member "_meta").member "codex_approval_kind" ≠ .string "tool_suggestion" ∧
      ∃ scope, persist = .string scope ∧ Offers request scope

/-- An accepted form response conforms to its request. -/
structure Conforms (exact : F → ℚ) (request response : Value F) : Prop where
  valid : Valid exact (schemaOf request) (contentOf response)
  names : NamesFields request response
  persists : PersistsOffered request response

/-- A response that accepts with this content and sends no metadata. -/
structure Submits (response content : Value F) : Prop where
  only : hasOnly ["action", "content", "_meta"] response = true
  action : response.member "action" = .string "accept"
  content : response.member "content" = content
  metadata : response.member "_meta" = .null

variable {host : JsonHost F} {exact : F → ℚ} {request response : Value F}
  {fields : List (McpFormField F)}

theorem isNull_iff {value : Value F} : value.isNull = true ↔ value = .null := by
  cases value <;> simp [Value.isNull]

theorem mcpRequestFields_ok (made : mcpRequestFields host request = .ok fields) :
    isFormMode request = true ∧ mcpFormFields host (schemaOf request) = .ok fields := by
  unfold mcpRequestFields at made
  split at made
  · cases made
  · rename_i schema held
    split at made
    · rename_i mode
      rw [schemaOf, member_of_get held]
      exact ⟨mode, made⟩
    · cases made

variable [DecidableEq F]

/-- What an accepted form response has passed. -/
theorem validateMcpResponse_ok (accepted : validateMcpResponse host request response = .ok ())
    (action : response.member "action" = .string "accept") (mode : isFormMode request = true) :
    ∃ fields, mcpRequestFields host request = .ok fields ∧
      checkContent host fields (response.member "content") = .ok () ∧
      checkMeta request fields (response.member "_meta") = .ok () := by
  unfold validateMcpResponse at accepted
  split at accepted
  · cases accepted
  · rw [check_bind_ok, action] at accepted
    have checked := accepted.2
    dsimp only [Value.asStr] at checked
    rw [if_neg (by decide), check_bind_ok, checkAccepted, if_pos mode] at checked
    obtain ⟨fields, made, checked⟩ := bind_ok checked.2
    rw [check_bind_ok] at checked
    exact ⟨fields, made, checked⟩

/-- The answers of an accepted form response are checked. -/
theorem checkContent_ok (checked : checkContent host fields (response.member "content") = .ok ()) :
    ∃ answers, contentOf response = .object answers ∧
      (∀ field ∈ fields, Answered host answers field) ∧
      ∀ entry ∈ answers, ∃ field ∈ fields, field.id = entry.1 := by
  unfold checkContent at checked
  unfold contentOf
  split at checked
  · rename_i none
    rw [List.isEmpty_iff] at none
    subst none
    rw [refuse_ok, Bool.and_eq_false_iff, Bool.not_eq_false', decide_eq_false_iff_not, not_not]
      at checked
    refine ⟨[], ?_, List.forall_mem_nil _, List.forall_mem_nil _⟩
    rcases checked with absent | empty
    · rw [if_pos absent]
    · rw [empty]
      rfl
  · split at checked
    · cases checked
    · rename_i answers object
      obtain ⟨made, formed, -⟩ := map_ok.mp checked
      obtain ⟨answered, known, -⟩ := mcpFormContent_ok formed
      rw [asObject_eq_some.mp object]
      exact ⟨answers, rfl, answered, known⟩

omit [DecidableEq F] in
theorem wasOffered_iff {scope : String} :
    wasOffered request scope = true ↔ Offers request scope := by
  unfold wasOffered Offers
  dsimp only
  generalize (request.member "_meta").member "persist" = offered
  rw [Bool.or_eq_true, beq_iff_eq, asStr_eq_some]
  refine or_congr Iff.rfl ?_
  cases offered with
  | array scopes =>
    simp only [asArray, Option.any_some, List.any_eq_true, beq_iff_eq, asStr_eq_some,
      Value.array.injEq, exists_eq_left', exists_eq_right]
  | _ => simp [asArray]

omit [DecidableEq F] in
theorem checkMeta_ok {metadata : Value F} (checked : checkMeta request fields metadata = .ok ())
    {persist : Value F} (held : metadata.get "persist" = some persist) :
    fields = [] ∧
      (request.member "_meta").member "codex_approval_kind" ≠ .string "tool_suggestion" ∧
      ∃ scope, persist = .string scope ∧ Offers request scope := by
  unfold checkMeta at checked
  split at checked
  · rename_i none
    rw [isNull_iff.mp none] at held
    cases held
  · split at checked
    · cases checked
    · rw [held, Option.bind_some] at checked
      split at checked
      · cases checked
      · rename_i scope isString
        rw [refuse_ok] at checked
        simp only [Bool.or_eq_false_iff, Bool.not_eq_false', beq_eq_false_iff_ne, ne_eq,
          asStr_eq_some, List.isEmpty_iff] at checked
        obtain ⟨⟨⟨⟨empty, kind⟩, -⟩, -⟩, offered⟩ := checked
        exact ⟨empty, kind, scope, asStr_eq_some.mp isString, wasOffered_iff.mp offered⟩

/-- An accepted form response conforms exactly where the keywords passed over are met. -/
theorem form_response_conforms_iff (faithful : Faithful host exact)
    (accepted : validateMcpResponse host request response = .ok ())
    (action : response.member "action" = .string "accept") (mode : isFormMode request = true) :
    NamesFields request response ∧ PersistsOffered request response ∧
      (Conforms exact request response ↔
        FormPassedOverMet host exact (schemaOf request) (contentOf response)) := by
  obtain ⟨fields, made, content, metadata⟩ := validateMcpResponse_ok accepted action mode
  obtain ⟨properties, required, form⟩ := mcpFormFields_ok (mcpRequestFields_ok made).2
  obtain ⟨answers, object, answered, known⟩ := checkContent_ok content
  have names : NamesFields request response := by
    intro name found held
    rw [object] at held
    obtain ⟨entry, listed, -⟩ := Option.map_eq_some_iff.mp held
    have named : entry.1 = name := by simpa using List.find?_some listed
    obtain ⟨field, member, same⟩ := known entry (List.mem_of_find?_eq_some listed)
    obtain ⟨there, -⟩ := form.property member
    rw [form.held]
    refine (Option.isSome_map ..).trans (List.find?_isSome.mpr ⟨_, there, ?_⟩)
    simpa using same.trans named
  have persists : PersistsOffered request response := by
    intro persist held
    obtain ⟨empty, kind, offered⟩ := checkMeta_ok metadata held
    refine ⟨?_, kind, offered⟩
    have none := form.isEmpty
    rw [empty] at none
    rw [form.held, List.isEmpty_iff.mp none.symm]
  refine ⟨names, persists, ?_⟩
  rw [object, ← form_valid_iff faithful form answered, ← object]
  constructor
  · intro conforms
    exact conforms.valid
  · intro valid
    exact ⟨valid, names, persists⟩

/-- A refusal carries nothing. -/
theorem refusal_is_empty (accepted : validateMcpResponse host request response = .ok ())
    (action : response.member "action" = .string "decline" ∨
      response.member "action" = .string "cancel") :
    response.member "content" = .null ∧ response.member "_meta" = .null := by
  unfold validateMcpResponse at accepted
  split at accepted
  · cases accepted
  · rw [check_bind_ok] at accepted
    have checked := accepted.2
    rcases action with action | action
    all_goals
      rw [action] at checked
      dsimp only [Value.asStr] at checked
      rw [if_pos (by decide), refuse_ok, Bool.or_eq_false_iff, Bool.not_eq_false',
        Bool.not_eq_false', isNull_iff, isNull_iff] at checked
      exact checked

/-- What `mcp_form_content` makes of the fields of a request is accepted for it. -/
theorem formed_content_accepted {answers : Answers F} {content : Value F}
    (made : mcpRequestFields host request = .ok fields)
    (formed : mcpFormContent host fields answers = .ok content)
    (submits : Submits response content) : validateMcpResponse host request response = .ok () := by
  obtain ⟨mode, -⟩ := mcpRequestFields_ok made
  obtain ⟨members, rfl, again⟩ := mcpFormContent_again formed
  have only := submits.only
  cases response with
  | object sent =>
    have allowed : hasOther ["action", "content", "_meta"] sent = false := by
      simpa [hasOnly, asObject] using only
    have checked : checkContent host fields (.object members) = .ok () := by
      unfold checkContent
      by_cases none : fields.isEmpty = true
      · rw [if_pos none, refuse_ok]
        rw [List.isEmpty_iff] at none
        subst none
        obtain ⟨-, known, -⟩ := mcpFormContent_ok again
        have empty : members = [] := by
          refine List.eq_nil_iff_forall_not_mem.mpr fun entry listed => ?_
          obtain ⟨field, member, -⟩ := known entry listed
          exact absurd member List.not_mem_nil
        subst empty
        simp
      · rw [if_neg none]
        dsimp only [asObject]
        rw [again]
        rfl
    unfold validateMcpResponse
    dsimp only [asObject]
    rw [check_bind_ok, refuse_ok, submits.action]
    refine ⟨allowed, ?_⟩
    dsimp only [Value.asStr]
    rw [if_neg (by decide), check_bind_ok, refuse_ok, checkAccepted, if_pos mode, made, ok_bind,
      check_bind_ok, submits.content, submits.metadata]
    exact ⟨by decide, checked, rfl⟩
  | _ => cases only

/-- Accepted form responses name fields of the form and persist what was offered; they conform
exactly where the keywords that the checks pass over are met. Refusals carry nothing, and formed
content is accepted. -/
theorem accepted_responses_conform_iff (faithful : Faithful host exact) :
    (∀ request response, validateMcpResponse host request response = .ok () →
      response.member "action" = .string "accept" → isFormMode request = true →
      NamesFields request response ∧ PersistsOffered request response ∧
        (Conforms exact request response ↔
          FormPassedOverMet host exact (schemaOf request) (contentOf response))) ∧
    (∀ request response, validateMcpResponse host request response = .ok () →
      (response.member "action" = .string "decline" ∨
        response.member "action" = .string "cancel") →
      response.member "content" = .null ∧ response.member "_meta" = .null) ∧
    ∀ request response fields answers content, mcpRequestFields host request = .ok fields →
      mcpFormContent host fields answers = .ok content → Submits response content →
      validateMcpResponse host request response = .ok () := by
  refine ⟨?_, ?_, ?_⟩
  · intro request response accepted action mode
    exact form_response_conforms_iff faithful accepted action mode
  · intro request response accepted action
    exact refusal_is_empty accepted action
  · intro request response fields answers content made formed submits
    exact formed_content_accepted made formed submits

/-- A name of at least two characters, where two is written `2.0`. -/
def nameSchema : Value Int :=
  .object [("properties", .object [("name", .object [("minLength", .fraction 2),
    ("type", .string "string")])]), ("type", .string "object")]

def nameRequest : Value Int :=
  .object [("mode", .string "form"), ("requestedSchema", nameSchema)]

def nameResponse (name : String) : Value Int :=
  .object [("action", .string "accept"), ("content", .object [("name", .string name)])]

/-- Doubles that are whole, and the lengths of the schema and of the two contents. -/
def nameHost : JsonHost Int where
  nearest whole := whole
  partialCmp left right := some (compare left right)
  length value := if value = nameSchema then 73 else 13

def whole (double : Int) : ℚ := double

theorem nameHost_faithful : Faithful nameHost whole := by
  intro left right
  simp only [nameHost, whole, compare, compareOfLessAndEq, Int.cast_lt, Int.cast_inj]

theorem name_passedOver_met {name : String} (long : 2 ≤ name.length) :
    FormPassedOverMet nameHost whole (schemaOf nameRequest) (contentOf (nameResponse name)) := by
  intro id property found held answer
  have content : (Value.object [("name", Value.string name)]).get id = some found := answer
  have properties : (Value.object [("name", Value.object [("minLength", Value.fraction 2),
    ("type", .string "string")])]).get id = some property := held
  simp only [Value.get, List.find?_cons, List.find?_nil] at content properties
  split at content
  · rename_i same
    rw [same] at properties
    cases content
    cases properties
    refine ⟨?_, ?_⟩
    · intro keyword meaning there passed
      simp only [Value.get, List.find?_cons, List.find?_nil] at there
      split at there
      · rename_i isLength
        obtain rfl := eq_of_beq isLength
        cases there
        rintro text same
        cases same
        exact ⟨2, rfl, long⟩
      · split at there
        · rename_i isType
          obtain rfl := eq_of_beq isType
          exact passed.elim
        · cases there
    · intro items same
      cases same
  · cases content

/-- A name of two characters conforms; one of one character is accepted and does not. -/
theorem names_conform_by_length :
    Conforms whole nameRequest (nameResponse "ab") ∧
      validateMcpResponse nameHost nameRequest (nameResponse "é") = .ok () ∧
      ¬Conforms whole nameRequest (nameResponse "é") := by
  have both := accepted_responses_conform_iff nameHost_faithful
  refine ⟨?_, rfl, ?_⟩
  · exact (both.1 nameRequest (nameResponse "ab") rfl rfl rfl).2.2.mpr
      (name_passedOver_met (by decide))
  · intro conforms
    have met := (both.1 nameRequest (nameResponse "é") rfl rfl rfl).2.2.mp conforms "name" _ _ rfl
      rfl
    obtain ⟨count, two, short⟩ := met.1 "minLength" _ rfl rfl "é" rfl
    have same : (2 : ℚ) = count := Option.some.inj two
    have single : "é".length = 1 := by decide
    rw [single] at short
    have small : (count : ℚ) ≤ 1 := by exact_mod_cast short
    rw [← same] at small
    norm_num at small

end Decodex.Guarantees.FormResponses
