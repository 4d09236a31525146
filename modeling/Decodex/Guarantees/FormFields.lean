import Decodex.Source.Protocol.McpElicitation

/-!
# MCP forms: what accepted fields and answers say

Source: crates/decodex-protocol/src/mcp_elicitation.rs. One lemma for each function says what holds
where it succeeds: `choices` lists the alternative that it reads, `form_field` and
`mcp_form_fields` describe the schema that they accept, `mcp_form_content` has checked each answer
and, given its own content again, returns it.
-/
namespace Decodex.Guarantees.FormFields

open Decodex.Library Decodex.Source.Protocol.McpElicitation

variable {F : Type} {host : JsonHost F}

theorem refuse_ok {bad : Bool} {error : String} : refuse bad error = .ok () ↔ bad = false := by
  unfold refuse
  cases bad <;> simp

theorem asObject_eq_some {value : Value F} {members : List (String × Value F)} :
    asObject value = some members ↔ value = .object members := by
  cases value <;> simp [asObject]

theorem asArray_eq_some {value : Value F} {items : List (Value F)} :
    asArray value = some items ↔ value = .array items := by
  cases value <;> simp [asArray]

theorem asStr_eq_some {value : Value F} {text : String} :
    value.asStr = some text ↔ value = .string text := by
  cases value <;> simp [Value.asStr]

theorem member_of_get {value meaning : Value F} {name : String}
    (held : value.get name = some meaning) : value.member name = meaning := by
  rw [Value.member, held, Option.getD_some]

/-- A member that is not `null` is there. -/
theorem get_of_member {value : Value F} {name : String} (there : value.member name ≠ .null) :
    value.get name = some (value.member name) := by
  unfold Value.member at there ⊢
  cases held : value.get name with
  | none => simp [held] at there
  | some meaning => rfl

/-- A member of an object with these names only has one of them. -/
theorem key_allowed {value meaning : Value F} {allowed : List String} {name : String}
    (only : hasOnly allowed value = true) (held : value.get name = some meaning) :
    name ∈ allowed := by
  unfold hasOnly at only
  split at only
  · cases only
  · rename_i members object
    rw [asObject_eq_some] at object
    subst object
    obtain ⟨entry, found, -⟩ := Option.map_eq_some_iff.mp held
    have listed := List.mem_of_find?_eq_some found
    have named : entry.1 = name := by simpa using List.find?_some found
    simp only [hasOther, Bool.not_eq_true', List.any_eq_false] at only
    have allows := only entry listed
    rw [named] at allows
    simpa using allows

/-- The alternative that `choices` reads: the first one that is an array. -/
def readAlternative (schema : Value F) : Option String :=
  ["enum", "oneOf", "anyOf"].find? fun keyword => (asArray (schema.member keyword)).isSome

/-- A `oneOf` or `anyOf` value is an object that has a string for `const`, and maybe a title. -/
structure Constant (branch : Value F) : Prop where
  only : hasOnly ["const", "title"] branch = true
  text : ∃ text, branch.member "const" = .string text

theorem constChoice_ok {branch : Value F} {choice : McpFormChoice F}
    (made : constChoice branch = .ok choice) :
    Constant branch ∧ branch.member "const" = choice.value := by
  unfold constChoice at made
  split at made
  · cases made
  · rename_i members object
    split at made
    · cases made
    · rename_i allowed
      split at made
      · cases made
      · rename_i text held
        rw [asStr_eq_some] at held
        cases made
        refine ⟨⟨?_, text, held⟩, held⟩
        rw [hasOnly, object]
        simpa using allowed

theorem enumChoice_ok {names value : Value F} {index : Nat} {choice : McpFormChoice F}
    (made : enumChoice names value index = .ok choice) : choice.value = value := by
  unfold enumChoice at made
  split at made
  · cases made
  · cases made
    rfl

theorem enumChoices_ok {names : Value F} {values : List (Value F)}
    {options : List (McpFormChoice F)}
    (made : (values.zipIdx.mapM fun (value, index) => enumChoice names value index) = .ok options) :
    options.map (·.value) = values := by
  have each (item : Value F × Nat) (choice : McpFormChoice F)
      (made : enumChoice names item.1 item.2 = .ok choice) : choice.value = item.1 :=
    enumChoice_ok made
  rw [(mapM_ok_spec each made).1, List.zipIdx_map_fst]

theorem constChoices_ok {branches : List (Value F)} {options : List (McpFormChoice F)}
    (made : branches.mapM constChoice = .ok options) :
    (∀ branch ∈ branches, Constant branch) ∧
      options.map (·.value) = branches.map (·.member "const") := by
  constructor
  · intro branch listed
    obtain ⟨choice, -, step⟩ := mapM_ok_each made branch listed
    exact (constChoice_ok step).1
  · exact (mapM_ok_spec (fun branch choice step => (constChoice_ok step).2.symm) made).1

/-- Options of a schema are strings. -/
theorem choices_strings {schema : Value F} {options : List (McpFormChoice F)}
    (made : choices schema = .ok options) :
    ∀ option ∈ options, ∃ text, option.value = .string text := by
  have ofEnum {names value : Value F} {index : Nat} {option : McpFormChoice F}
      (step : enumChoice names value index = .ok option) : ∃ text, option.value = .string text := by
    rw [enumChoice_ok step]
    unfold enumChoice at step
    split at step
    · cases step
    · rename_i text held
      exact ⟨text, asStr_eq_some.mp held⟩
  have ofConst {branch : Value F} {option : McpFormChoice F}
      (step : constChoice branch = .ok option) : ∃ text, option.value = .string text := by
    obtain ⟨⟨-, text⟩, same⟩ := constChoice_ok step
    rwa [same] at text
  unfold choices at made
  intro option listed
  split at made
  · obtain ⟨item, -, step⟩ := (mapM_ok_spec (g := fun _ => ()) (h := fun _ => ())
      (fun _ _ _ => rfl) made).2 option listed
    exact ofEnum step
  · split at made
    · obtain ⟨branch, -, step⟩ := (mapM_ok_spec (g := fun _ => ()) (h := fun _ => ())
        (fun _ _ _ => rfl) made).2 option listed
      exact ofConst step
    · cases made
      exact absurd listed List.not_mem_nil

/-- What the options of a schema are, by the alternative that is read. -/
theorem choices_ok {schema : Value F} {options : List (McpFormChoice F)}
    (made : choices schema = .ok options) :
    match readAlternative schema with
    | none => options = []
    | some keyword => ∃ values, schema.member keyword = .array values ∧
      if keyword = "enum" then options.map (·.value) = values
      else (∀ branch ∈ values, Constant branch) ∧
        options.map (·.value) = values.map (·.member "const") := by
  unfold choices at made
  cases enum : asArray (schema.member "enum") with
  | some values =>
    rw [enum] at made
    have read : readAlternative schema = some "enum" := by simp [readAlternative, enum]
    rw [read]
    exact ⟨values, asArray_eq_some.mp enum, enumChoices_ok made⟩
  | none =>
    rw [enum] at made
    cases one : asArray (schema.member "oneOf") with
    | some branches =>
      rw [one] at made
      have read : readAlternative schema = some "oneOf" := by simp [readAlternative, enum, one]
      rw [read]
      exact ⟨branches, asArray_eq_some.mp one, constChoices_ok made⟩
    | none =>
      rw [one] at made
      cases any : asArray (schema.member "anyOf") with
      | some branches =>
        rw [any] at made
        have read : readAlternative schema = some "anyOf" := by
          simp [readAlternative, enum, one, any]
        rw [read]
        exact ⟨branches, asArray_eq_some.mp any, constChoices_ok made⟩
      | none =>
        rw [any] at made
        have read : readAlternative schema = none := by simp [readAlternative, enum, one, any]
        rw [read]
        cases made
        rfl

/-- What `form_field` accepts, and the field it makes. -/
structure Accepted (id : String) (property : Value F) (required : List String)
    (field : McpFormField F) : Prop where
  named : field.id = id
  schema : field.schema = property
  needed : field.required = required.contains id
  only : hasOnly fieldKeys property = true
  kind : property.member "type" = .string field.kind
  known : field.kind ∈ ["string", "boolean", "number", "integer", "array"]
  plain : field.kind ≠ "string" → field.kind ≠ "array" → hasAlternatives property = false
  options : fieldOptions field.kind property = .ok field.choices
  offered : field.kind = "string" → hasAlternatives property = true → field.choices ≠ []
  items : field.kind = "array" → hasOnly itemKeys (property.member "items") = true ∧
    (property.member "items").member "type" = .string "string" ∧ field.choices ≠ []

theorem formField_ok {id : String} {property : Value F} {required : List String}
    {field : McpFormField F} (made : formField id property required = .ok field) :
    Accepted id property required field := by
  unfold formField at made
  rw [check_bind_ok, refuse_ok] at made
  obtain ⟨only, made⟩ := made
  split at made
  · cases made
  · rename_i kind held
    rw [asStr_eq_some] at held
    rw [check_bind_ok, check_bind_ok, check_bind_ok, refuse_ok, refuse_ok, refuse_ok] at made
    obtain ⟨known, plain, items, made⟩ := made
    obtain ⟨options, chosen, made⟩ := bind_ok made
    rw [check_bind_ok, refuse_ok] at made
    obtain ⟨offered, made⟩ := made
    cases made
    simp only [Bool.or_eq_false_iff, Bool.and_eq_false_iff, Bool.not_eq_false', bne_eq_false_iff_eq,
      beq_eq_false_iff_ne] at only known plain items offered
    obtain ⟨⟨unoffered, -⟩, selection⟩ := offered
    refine ⟨rfl, rfl, rfl, only, held, ?_, ?_, chosen, ?_, ?_⟩
    · simpa using known.1.1
    · intro notString notArray
      exact (plain.resolve_left fun either => either.elim notString notArray)
    · intro isString alternatives none
      rcases unoffered with (other | absent) | some
      · exact other isString
      · rw [alternatives] at absent
        cases absent
      · exact List.isEmpty_eq_false_iff.mp some none
    · intro isArray
      obtain ⟨typed, some⟩ := selection.resolve_left fun other => other isArray
      refine ⟨items.resolve_left fun other => other isArray, asStr_eq_some.mp typed, ?_⟩
      exact List.isEmpty_eq_false_iff.mp some

theorem requiredName_ok {properties : List (String × Value F)} {value : Value F} {id : String}
    (made : requiredName properties value = .ok id) :
    value = .string id ∧ ∃ property, (id, property) ∈ properties := by
  unfold requiredName at made
  split at made
  · rename_i found held
    cases made
    obtain ⟨text, named⟩ := Option.filter_eq_some_iff.mp held
    obtain ⟨⟨name, property⟩, listed, same⟩ := List.any_eq_true.mp named
    obtain rfl : name = id := by simpa using same
    exact ⟨asStr_eq_some.mp text, property, listed⟩
  · cases made

theorem requiredNames_ok {schema : Value F} {properties : List (String × Value F)}
    {required : List String} (made : requiredNames schema properties = .ok required) :
    (∀ meaning, schema.get "required" = some meaning →
      meaning = .array (required.map .string)) ∧
    ∀ id ∈ required, ∃ property, (id, property) ∈ properties := by
  unfold requiredNames at made
  split at made
  · rename_i absent
    cases made
    constructor
    · intro meaning held
      rw [absent] at held
      cases held
    · exact List.forall_mem_nil _
  · rename_i value held
    split at made
    · cases made
    · rename_i values array
      obtain ⟨same, origins⟩ := mapM_ok_spec (g := Value.string) (h := id)
        (fun value id step => (requiredName_ok step).1.symm) made
      constructor
      · intro meaning held'
        rw [held] at held'
        cases held'
        rw [same, List.map_id, asArray_eq_some.mp array]
      · intro id listed
        obtain ⟨value, -, step⟩ := origins id listed
        exact (requiredName_ok step).2

/-- What `mcp_form_fields` accepts, and the fields it makes. -/
structure AcceptedForm (schema : Value F) (properties : List (String × Value F))
    (required : List String) (fields : List (McpFormField F)) : Prop where
  only : hasOnly schemaKeys schema = true
  kind : schema.member "type" = .string "object"
  held : schema.member "properties" = .object properties
  needed : ∀ meaning, schema.get "required" = some meaning →
    meaning = .array (required.map .string)
  real : ∀ id ∈ required, ∃ property, (id, property) ∈ properties
  made : properties.mapM (fun property => formField property.1 property.2 required) = .ok fields

theorem mcpFormFields_ok {schema : Value F} {fields : List (McpFormField F)}
    (made : mcpFormFields host schema = .ok fields) :
    ∃ properties required, AcceptedForm schema properties required fields := by
  unfold mcpFormFields at made
  rw [check_bind_ok, check_bind_ok, refuse_ok, refuse_ok] at made
  obtain ⟨kind, only, made⟩ := made
  simp only [Bool.or_eq_false_iff, bne_eq_false_iff_eq, asStr_eq_some] at kind
  split at made
  · cases made
  · rename_i properties object
    rw [check_bind_ok] at made
    obtain ⟨-, made⟩ := made
    obtain ⟨required, named, made⟩ := bind_ok made
    obtain ⟨needed, real⟩ := requiredNames_ok named
    refine ⟨properties, required, ?_, kind.2, asObject_eq_some.mp object, needed, real, made⟩
    cases schema with
    | object members => simpa [hasOnly, asObject] using only
    | _ => simp [Value.member, Value.get] at kind

namespace AcceptedForm

variable {schema : Value F} {properties : List (String × Value F)} {required : List String}
  {fields : List (McpFormField F)}

/-- Each property has a field. -/
theorem field (form : AcceptedForm schema properties required fields) (name : String)
    (property : Value F) (listed : (name, property) ∈ properties) :
    ∃ field ∈ fields, Accepted name property required field := by
  obtain ⟨field, member, made⟩ := mapM_ok_each form.made _ listed
  exact ⟨field, member, formField_ok made⟩

/-- Each field is one of a property. -/
theorem property (form : AcceptedForm schema properties required fields)
    {field : McpFormField F} (listed : field ∈ fields) :
    (field.id, field.schema) ∈ properties ∧ Accepted field.id field.schema required field := by
  have each (property : String × Value F) (field : McpFormField F)
      (made : formField property.1 property.2 required = .ok field) :
      (field.id, field.schema) = property :=
    Prod.ext (formField_ok made).named (formField_ok made).schema
  obtain ⟨⟨name, property⟩, member, made⟩ := (mapM_ok_spec (h := id) each form.made).2 _ listed
  have accepted := formField_ok made
  rw [accepted.named, accepted.schema]
  exact ⟨member, accepted⟩

theorem isEmpty (form : AcceptedForm schema properties required fields) :
    fields.isEmpty = properties.isEmpty := by
  have made := form.made
  cases properties with
  | nil =>
    cases made
    rfl
  | cons first rest =>
    obtain ⟨field, listed, -⟩ := form.field first.1 first.2 (by simp)
    simpa using List.ne_nil_of_mem listed

end AcceptedForm

section Answers

variable [DecidableEq F] {field : McpFormField F} {value : Value F}

/-- What the checks of one answer say. -/
structure Checked (host : JsonHost F) (field : McpFormField F) (value : Value F) : Prop where
  kind : ofKind field.kind value = true
  chosen : field.choices ≠ [] → ∀ item ∈ selected field value,
    item ∈ field.choices.map (·.value)
  length : outsideLength field value = false
  range : outsideRange host field value = false

theorem checkChoices_ok (passed : checkChoices field value = .ok ()) :
    field.choices ≠ [] → ∀ item ∈ selected field value, item ∈ field.choices.map (·.value) := by
  intro some item listed
  unfold checkChoices at passed
  rw [if_neg (by simpa using some), check_bind_ok, refuse_ok, refuse_ok] at passed
  have offered := List.any_eq_false.mp passed.1 item listed
  simpa using offered

theorem checkAnswer_ok (passed : checkAnswer host field value = .ok ()) :
    Checked host field value := by
  unfold checkAnswer at passed
  rw [check_bind_ok, check_bind_ok, check_bind_ok, refuse_ok, refuse_ok, refuse_ok] at passed
  obtain ⟨kind, chosen, length, range⟩ := passed
  exact ⟨by simpa using kind, checkChoices_ok chosen, length, range⟩

/-- A field that was passed has a checked answer, or none and needs none. -/
structure Answered (host : JsonHost F) (answers : Answers F) (field : McpFormField F) : Prop where
  missing : answerOf answers field.id = none → field.required = false
  checked : ∀ value, answerOf answers field.id = some value → Checked host field value

variable {answers content after : List (String × Value F)}

theorem addAnswer_ok (added : addAnswer host answers content field = .ok after) :
    Answered host answers field ∧
      after = match answerOf answers field.id with
        | none => content
        | some value => Value.setMember field.id value content := by
  unfold addAnswer at added
  cases held : answerOf answers field.id with
  | none =>
    rw [held] at added
    dsimp only at added
    split at added
    · cases added
    · rename_i optional
      cases added
      refine ⟨⟨fun _ => by simpa using optional, fun value found => ?_⟩, rfl⟩
      rw [held] at found
      cases found
  | some value =>
    rw [held] at added
    dsimp only at added
    rw [check_bind_ok] at added
    obtain ⟨checked, added⟩ := added
    cases added
    refine ⟨⟨fun missing => ?_, fun value found => ?_⟩, rfl⟩
    · rw [held] at missing
      cases missing
    · rw [held] at found
      cases found
      exact checkAnswer_ok checked

/-- What the loop of `mcp_form_content` has put in the content. -/
structure Gathered (answers : Answers F) (done : List (McpFormField F))
    (content : Answers F) : Prop where
  reads : ∀ id, answerOf content id =
    if ∃ field ∈ done, field.id = id then answerOf answers id else none
  named : ∀ entry ∈ content, ∃ field ∈ done, field.id = entry.1

theorem Gathered.step {done : List (McpFormField F)} (gathered : Gathered answers done content)
    (added : addAnswer host answers content field = .ok after) :
    Gathered answers (done ++ [field]) after := by
  obtain ⟨-, rfl⟩ := addAnswer_ok added
  cases held : answerOf answers field.id with
  | none =>
    constructor
    · intro id
      rw [gathered.reads]
      by_cases same : field.id = id
      · subst same
        simp [held]
      · simp [same]
    · intro entry listed
      obtain ⟨found, member, same⟩ := gathered.named entry listed
      exact ⟨found, by simp [member], same⟩
  | some value =>
    constructor
    · intro id
      have reads := Value.find?_setMember field.id id value content
      rw [answerOf, reads]
      by_cases same : id = field.id
      · subst same
        simp [held]
      · have apart : ¬field.id = id := fun equal => same equal.symm
        have before := gathered.reads id
        rw [answerOf] at before
        simp [same, apart, before]
    · intro entry listed
      rcases Value.names_of_setMember entry listed with same | ⟨old, member, same⟩
      · exact ⟨field, by simp, same.symm⟩
      · obtain ⟨found, there, named⟩ := gathered.named old member
        exact ⟨found, by simp [there], named.trans same⟩

theorem mcpFormContent_ok {fields : List (McpFormField F)} {made : Value F}
    (formed : mcpFormContent host fields answers = .ok made) :
    (∀ field ∈ fields, Answered host answers field) ∧
      (∀ entry ∈ answers, ∃ field ∈ fields, field.id = entry.1) ∧
      ∃ content, made = .object content ∧ Gathered answers fields content := by
  unfold mcpFormContent at formed
  obtain ⟨content, looped, formed⟩ := bind_ok formed
  rw [check_bind_ok, check_bind_ok, refuse_ok, refuse_ok] at formed
  obtain ⟨known, -, formed⟩ := formed
  cases formed
  refine ⟨?_, ?_, content, rfl, ?_⟩
  · exact foldlM_ok_each (fun before field after step => (addAnswer_ok step).1) looped
  · intro entry listed
    simpa using List.any_eq_false.mp known entry listed
  · refine foldlM_ok_prefix (Gathered answers) (fun done before field after gathered step =>
      gathered.step step) ⟨fun id => by simp [answerOf], List.forall_mem_nil _⟩ looped

/-- The content that was made is accepted as answers, and makes itself again. -/
theorem mcpFormContent_again {fields : List (McpFormField F)} {made : Value F}
    (formed : mcpFormContent host fields answers = .ok made) :
    ∃ content, made = .object content ∧ mcpFormContent host fields content = .ok made := by
  obtain ⟨-, -, content, rfl, gathered⟩ := mcpFormContent_ok formed
  refine ⟨content, rfl, ?_⟩
  unfold mcpFormContent at formed ⊢
  have rounds : fields.foldlM (addAnswer host content) [] =
      fields.foldlM (addAnswer host answers) [] := by
    refine foldlM_congr (fun field listed before => ?_) []
    have reads := gathered.reads field.id
    rw [if_pos ⟨field, listed, rfl⟩] at reads
    rw [addAnswer, addAnswer, reads]
  obtain ⟨same, looped, formed⟩ := bind_ok formed
  rw [rounds, looped, ok_bind]
  rw [check_bind_ok, check_bind_ok, refuse_ok] at formed ⊢
  obtain ⟨-, small, formed⟩ := formed
  cases formed
  refine ⟨?_, small, rfl⟩
  rw [List.any_eq_false]
  intro entry listed
  simpa using gathered.named entry listed

end Answers

end Decodex.Guarantees.FormFields
