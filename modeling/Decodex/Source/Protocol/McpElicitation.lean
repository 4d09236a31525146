import Mathlib.Data.List.Basic
import Decodex.Library.Except
import Decodex.Library.JsonValue

/-!
# MCP form answers

Source: crates/decodex-protocol/src/mcp_elicitation.rs and
crates/decodex-protocol/src/wire.rs:52 (`MAX_HISTORY_INLINE_BYTES`). A map of answers is a list of
entries, read by its first entry for a key.
-/
namespace Decodex.Source.Protocol.McpElicitation

open Decodex.Library

def maxHistoryInlineBytes : Nat := 16 * 1024

/-- What `serde_json` and the doubles of the machine do. -/
structure JsonHost (F : Type) where
  /-- An integer as the nearest double. -/
  nearest : Int → F
  partialCmp : F → F → Option Ordering
  /-- `to_string().len()`. -/
  length : Value F → Nat

variable {F : Type}

structure McpFormChoice (F : Type) where
  label : String
  value : Value F

structure McpFormField (F : Type) where
  id : String
  title : String
  description : Option String
  required : Bool
  kind : String
  choices : List (McpFormChoice F)
  schema : Value F

abbrev Answers (F : Type) := List (String × Value F)

def asArray : Value F → Option (List (Value F))
  | .array items => some items
  | _ => none

def asObject : Value F → Option (List (String × Value F))
  | .object members => some members
  | _ => none

/-- `value[index]`. -/
def element (value : Value F) (index : Nat) : Value F :=
  ((asArray value).bind fun items => items[index]?).getD .null

/-- `as_i64`, else `as_u64`. -/
def asInteger : Value F → Option Int
  | .integer value => if -2 ^ 63 ≤ value ∧ value < 2 ^ 64 then some value else none
  | _ => none

def asF64 (host : JsonHost F) : Value F → Option F
  | .integer value => some (host.nearest value)
  | .fraction value => some value
  | _ => none

def isNumber : Value F → Bool
  | .integer _ => true
  | .fraction _ => true
  | _ => false

def isString : Value F → Bool
  | .string _ => true
  | _ => false

def isBoolean : Value F → Bool
  | .bool _ => true
  | _ => false

/-- A map has a key that is not one of these. -/
def hasOther (allowed : List String) (members : List (String × Value F)) : Bool :=
  members.any fun member => !allowed.contains member.1

def refuse (bad : Bool) (error : String) : Except String Unit :=
  if bad then .error error else .ok ()

/-- `compare_numbers`. -/
def compareNumbers (host : JsonHost F) (left right : Value F) : Option Ordering :=
  match asInteger left, asInteger right with
  | some left, some right => some (compare left right)
  | _, _ => do
    let left ← asF64 host left
    let right ← asF64 host right
    host.partialCmp left right

/-- The choice of an `enum` value and its index. -/
def enumChoice (names : Value F) (value : Value F) (index : Nat) :
    Except String (McpFormChoice F) :=
  match value.asStr with
  | none => .error "Unsupported enum value"
  | some text => .ok ⟨((element names index).asStr).getD text, value⟩

/-- The choice of a `oneOf` or `anyOf` value. -/
def constChoice (value : Value F) : Except String (McpFormChoice F) :=
  match asObject value with
  | none => .error "Unsupported choice constraints"
  | some members =>
    if hasOther ["const", "title"] members then .error "Unsupported choice constraints"
    else
      match (value.member "const").asStr with
      | none => .error "Unsupported choice"
      | some text => .ok ⟨((value.member "title").asStr).getD text, .string text⟩

/-- `choices`. -/
def choices (schema : Value F) : Except String (List (McpFormChoice F)) :=
  match asArray (schema.member "enum") with
  | some values => values.zipIdx.mapM fun (value, index) =>
    enumChoice (schema.member "enumNames") value index
  | none =>
    match (asArray (schema.member "oneOf")).orElse fun _ => asArray (schema.member "anyOf") with
    | some values => values.mapM constChoice
    | none => .ok []

def fieldKeys : List String :=
  ["type", "title", "description", "default", "format", "minLength", "maxLength", "minimum",
    "maximum", "enum", "enumNames", "oneOf", "anyOf", "items", "minItems", "maxItems"]

def itemKeys : List String := ["type", "enum", "oneOf", "anyOf"]

/-- One of `enum`, `oneOf` and `anyOf` is there. -/
def hasAlternatives (property : Value F) : Bool :=
  ["enum", "oneOf", "anyOf"].any fun key => (property.get key).isSome

def hasOnly (allowed : List String) (value : Value F) : Bool :=
  match asObject value with
  | none => false
  | some members => !hasOther allowed members

/-- The options of a field. -/
def fieldOptions (kind : String) (property : Value F) : Except String (List (McpFormChoice F)) :=
  if kind = "boolean" then .ok [⟨"True", .bool true⟩, ⟨"False", .bool false⟩]
  else choices (if kind = "array" then property.member "items" else property)

/-- `form_field`. -/
def formField (id : String) (property : Value F) (required : List String) :
    Except String (McpFormField F) := do
  refuse (!hasOnly fieldKeys property) "This field uses unsupported schema constraints."
  match (property.member "type").asStr with
  | none => .error "Missing field type"
  | some kind => do
    refuse (!(["string", "boolean", "number", "integer", "array"].contains kind) || id.isEmpty ||
      decide (512 < id.utf8ByteSize)) "Unsupported form field"
    refuse (kind != "string" && kind != "array" && hasAlternatives property)
      "Unsupported field alternatives"
    refuse (kind == "array" && !hasOnly itemKeys (property.member "items"))
      "Unsupported item constraints"
    let options ← fieldOptions kind property
    refuse ((kind == "string" && hasAlternatives property && options.isEmpty) ||
      decide (64 < options.length) ||
      (kind == "array" && (((property.member "items").member "type").asStr != some "string" ||
        options.isEmpty))) "Unsupported selection field"
    .ok ⟨id, ((property.member "title").asStr).getD id, (property.member "description").asStr,
      required.contains id, kind, options, property⟩

/-- One name of `required`. -/
def requiredName (properties : List (String × Value F)) (value : Value F) :
    Except String String :=
  match value.asStr.filter fun id => properties.any fun property => property.1 == id with
  | some id => .ok id
  | none => .error "Invalid required field"

def requiredNames (schema : Value F) (properties : List (String × Value F)) :
    Except String (List String) :=
  match schema.get "required" with
  | none => .ok []
  | some value =>
    match asArray value with
    | none => .error "Invalid required fields"
    | some values => values.mapM (requiredName properties)

def schemaKeys : List String :=
  ["$schema", "type", "properties", "required", "title", "description", "additionalProperties"]

/-- `mcp_form_fields`. -/
def mcpFormFields (host : JsonHost F) (schema : Value F) :
    Except String (List (McpFormField F)) := do
  refuse (decide (maxHistoryInlineBytes < host.length schema) ||
    (schema.member "type").asStr != some "object") "This form schema is not supported."
  refuse ((asObject schema).any (hasOther schemaKeys))
    "This form uses unsupported schema constraints."
  match asObject (schema.member "properties") with
  | none => .error "Missing form fields"
  | some properties => do
    refuse (decide (32 < properties.length)) "This form has too many fields."
    let required ← requiredNames schema properties
    properties.mapM fun property => formField property.1 property.2 required

def isFormMode (request : Value F) : Bool :=
  match (request.member "mode").asStr with
  | some mode => ["form", "openai/form", "openaiForm"].contains mode
  | none => false

/-- `mcp_request_fields`. -/
def mcpRequestFields (host : JsonHost F) (request : Value F) :
    Except String (List (McpFormField F)) :=
  match request.get "requestedSchema" with
  | none => .error "Missing form schema"
  | some schema =>
    if isFormMode request then mcpFormFields host schema
    else .error "This form schema is not supported."

section Answers

variable [DecidableEq F]

def ofKind (kind : String) (value : Value F) : Bool :=
  if kind = "string" then isString value
  else if kind = "boolean" then isBoolean value
  else if kind = "number" then isNumber value
  else if kind = "integer" then (asInteger value).isSome
  else if kind = "array" then (asArray value).isSome
  else false

/-- The values that are chosen. -/
def selected (field : McpFormField F) (value : Value F) : List (Value F) :=
  if field.kind = "array" then (asArray value).getD [] else [value]

def hasDuplicates : List (Value F) → Bool
  | [] => false
  | value :: rest => rest.contains value || hasDuplicates rest

def checkChoices (field : McpFormField F) (value : Value F) : Except String Unit :=
  if field.choices.isEmpty then .ok ()
  else do
    refuse ((selected field value).any fun value => !field.choices.any fun choice =>
      choice.value = value) ("Choose an advertised value for " ++ field.title ++ ".")
    refuse (field.kind == "array" && hasDuplicates (selected field value))
      ("Remove duplicate choices for " ++ field.title ++ ".")

/-- The characters of a string, or the items of an array. -/
def countOf : Value F → Option Nat
  | .string text => some text.length
  | .array items => some items.length
  | _ => none

def bounds (kind : String) : String × String :=
  if kind = "array" then ("minItems", "maxItems") else ("minLength", "maxLength")

def outsideLength (field : McpFormField F) (value : Value F) : Bool :=
  (countOf value).any fun count =>
    (field.schema.member (bounds field.kind).1).asU64.any (fun min => count < min) ||
      (field.schema.member (bounds field.kind).2).asU64.any fun max => max < count

def outsideRange (host : JsonHost F) (field : McpFormField F) (value : Value F) : Bool :=
  compareNumbers host value (field.schema.member "minimum") == some .lt ||
    compareNumbers host value (field.schema.member "maximum") == some .gt

/-- The checks of one answer. -/
def checkAnswer (host : JsonHost F) (field : McpFormField F) (value : Value F) :
    Except String Unit := do
  refuse (!ofKind field.kind value) (field.title ++ " has an invalid value.")
  checkChoices field value
  refuse (outsideLength field value) (field.title ++ " does not meet the required length.")
  refuse (outsideRange host field value) (field.title ++ " is outside the allowed range.")

def answerOf (answers : Answers F) (id : String) : Option (Value F) :=
  (answers.find? fun answer => answer.1 == id).map (·.2)

/-- One field of the loop in `mcp_form_content`. -/
def addAnswer (host : JsonHost F) (answers : Answers F) (content : List (String × Value F))
    (field : McpFormField F) : Except String (List (String × Value F)) :=
  match answerOf answers field.id with
  | none =>
    if field.required then .error (field.title ++ " is required.") else .ok content
  | some value => do
    checkAnswer host field value
    .ok (Value.setMember field.id value content)

/-- `mcp_form_content`. -/
def mcpFormContent (host : JsonHost F) (fields : List (McpFormField F)) (answers : Answers F) :
    Except String (Value F) := do
  let content ← fields.foldlM (addAnswer host answers) []
  refuse (answers.any fun answer => !fields.any fun field => field.id == answer.1)
    "Unexpected form field"
  refuse (decide (maxHistoryInlineBytes - 128 < host.length (.object content)))
    "Response is too large; shorten the answers."
  .ok (.object content)

/-- The content of an accepted form. -/
def checkContent (host : JsonHost F) (fields : List (McpFormField F)) (content : Value F) :
    Except String Unit :=
  if fields.isEmpty then
    refuse (!content.isNull && content ≠ .object []) "This approval has no input fields"
  else
    match asObject content with
    | none => .error "Form content must be an object"
    | some answers => (mcpFormContent host fields answers).map fun _ => ()

/-- The scope was offered by the request. -/
def wasOffered (request : Value F) (persist : String) : Bool :=
  let offered := (request.member "_meta").member "persist"
  offered.asStr == some persist ||
    (asArray offered).any fun values => values.any fun value => value.asStr == some persist

/-- The metadata of an accepted form. -/
def checkMeta (request : Value F) (fields : List (McpFormField F)) (metadata : Value F) :
    Except String Unit :=
  if metadata.isNull then .ok ()
  else
    match asObject metadata with
    | none => .error "Invalid response metadata"
    | some members =>
      match (metadata.get "persist").bind (·.asStr) with
      | none => .error "Missing persistence choice"
      | some persist =>
        refuse (!fields.isEmpty ||
          ((request.member "_meta").member "codex_approval_kind").asStr == some "tool_suggestion" ||
          members.length != 1 || !(["session", "always"].contains persist) ||
          !wasOffered request persist) "This persistence scope was not offered"

/-- An accepted request, by its mode. -/
def checkAccepted (host : JsonHost F) (request response : Value F) : Except String Unit :=
  if isFormMode request then do
    let fields ← mcpRequestFields host request
    checkContent host fields (response.member "content")
    checkMeta request fields (response.member "_meta")
  else if (request.member "mode").asStr = some "url" then
    refuse (!(response.member "content").isNull || !(response.member "_meta").isNull)
      "URL confirmation cannot submit form content"
  else .error "This verification method cannot be accepted by this client"

/-- `validate_mcp_response`. -/
def validateMcpResponse (host : JsonHost F) (request response : Value F) : Except String Unit :=
  match asObject response with
  | none => .error "Response must be an object"
  | some members => do
    refuse (hasOther ["action", "content", "_meta"] members) "Unexpected response field"
    match (response.member "action").asStr with
    | none => .error "Missing elicitation action"
    | some action =>
      if action = "decline" ∨ action = "cancel" then
        refuse (!(response.member "content").isNull || !(response.member "_meta").isNull)
          "Decline and cancel cannot submit content or persistent permission"
      else do
        refuse (action != "accept") "Unknown elicitation action"
        checkAccepted host request response

end Answers

end Decodex.Source.Protocol.McpElicitation
