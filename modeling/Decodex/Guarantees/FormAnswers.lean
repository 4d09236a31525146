import Decodex.Guarantees.FormFields
import Decodex.Library.JsonSchema

/-!
# MCP forms: answers against their schema

Source: crates/decodex-protocol/src/mcp_elicitation.rs. The checks of a form read its schema key by
key and pass over a keyword that they cannot read. Every other keyword of an accepted field, and of
the items of an array field, is met by a checked answer; so the answers are an instance of the
schema exactly where the keywords passed over are met.
-/
namespace Decodex.Guarantees.FormAnswers

open Decodex.Library Decodex.Library.JsonSchema Decodex.Source.Protocol.McpElicitation
open Decodex.Guarantees.FormFields

variable {F : Type} {host : JsonHost F} {exact : F → ℚ}

/-- Doubles compare as the numbers that they are. -/
def Faithful (host : JsonHost F) (exact : F → ℚ) : Prop :=
  ∀ left right, host.partialCmp left right = some (compare (exact left) (exact right))

/-- An integer that is no double. -/
def Rounded (host : JsonHost F) (exact : F → ℚ) (value : Value F) : Prop :=
  ∃ whole, value = .integer whole ∧ exact (host.nearest whole) ≠ whole

/-- A bound that is not compared exactly: it is not a number, or one of the two is rounded. -/
def Inexact (host : JsonHost F) (exact : F → ℚ) (value bound : Value F) : Prop :=
  number exact bound = none ∨
    ((asInteger value).isNone ∨ (asInteger bound).isNone) ∧
      (Rounded host exact value ∨ Rounded host exact bound)

theorem asInteger_eq_some {value : Value F} {whole : Int} (held : asInteger value = some whole) :
    value = .integer whole := by
  unfold asInteger at held
  split at held
  · split at held
    · cases held
      rfl
    · cases held
  · cases held

theorem number_of_asInteger {value : Value F} {whole : Int} (held : asInteger value = some whole) :
    number exact value = some (whole : ℚ) := by
  rw [asInteger_eq_some held]
  rfl

theorem number_of_asF64 {value : Value F} {double : F} (held : asF64 host value = some double)
    (kept : ¬Rounded host exact value) : number exact value = some (exact double) := by
  cases value with
  | integer whole =>
    cases held
    have same : exact (host.nearest whole) = whole := by
      by_contra other
      exact kept ⟨whole, rfl, other⟩
    rw [same]
    rfl
  | fraction value =>
    cases held
    rfl
  | _ => cases held

theorem asF64_of_number (host : JsonHost F) {value : Value F} {held : ℚ}
    (is_number : number exact value = some held) :
    ∃ double, asF64 host value = some double := by
  cases value with
  | integer whole => exact ⟨_, rfl⟩
  | fraction value => exact ⟨_, rfl⟩
  | _ => cases is_number

/-- Numbers that are compared exactly compare as numbers. -/
theorem compareNumbers_eq (faithful : Faithful host exact) {value bound : Value F} {held limit : ℚ}
    (is_number : number exact value = some held) (bounds : number exact bound = some limit)
    (kept : ¬Inexact host exact value bound) :
    compareNumbers host value bound = some (compare held limit) := by
  have doubles (apart : (asInteger value).isNone ∨ (asInteger bound).isNone) :
      (do
        let left ← asF64 host value
        let right ← asF64 host bound
        host.partialCmp left right) = some (compare held limit) := by
    obtain ⟨first, left⟩ := asF64_of_number host is_number
    obtain ⟨second, right⟩ := asF64_of_number host bounds
    have same := number_of_asF64 left fun rounded => kept (.inr ⟨apart, .inl rounded⟩)
    have same' := number_of_asF64 right fun rounded => kept (.inr ⟨apart, .inr rounded⟩)
    rw [is_number, Option.some.injEq] at same
    rw [bounds, Option.some.injEq] at same'
    rw [left, right, same, same']
    exact faithful first second
  unfold compareNumbers
  cases left : asInteger value with
  | none => exact doubles (.inl (by rw [left]; rfl))
  | some first =>
    cases right : asInteger bound with
    | none => exact doubles (.inr (by rw [right]; rfl))
    | some second =>
      rw [number_of_asInteger left] at is_number
      rw [number_of_asInteger right] at bounds
      cases is_number
      cases bounds
      simp only [Option.some.injEq]
      simp only [compare, compareOfLessAndEq, Int.cast_lt, Int.cast_inj]

theorem number_of_asU64 {value : Value F} {count : Nat} (held : value.asU64 = some count) :
    number exact value = some (count : ℚ) := by
  unfold Value.asU64 at held
  split at held
  · rename_i whole
    split at held
    · rename_i inside
      cases held
      have same : ((whole.toNat : Int) : ℚ) = whole := by rw [Int.toNat_of_nonneg inside.1]
      rw [number, ← same]
      rfl
    · cases held
  · cases held

theorem valid_constant {branch value : Value F} (constant : Constant branch) :
    Valid exact branch value ↔ branch.member "const" = value := by
  obtain ⟨text, held⟩ := constant.text
  have there : branch.get "const" = some (.string text) := by
    rw [get_of_member (by simp [held]), held]
  cases branch with
  | object members =>
    rw [valid_object, held]
    constructor
    · intro valid
      exact (valid "const" _ there).symm
    · rintro rfl keyword meaning found
      have allowed := key_allowed constant.only found
      simp only [List.mem_cons, List.not_mem_nil, or_false] at allowed
      rcases allowed with rfl | rfl
      · rw [there] at found
        cases found
        rfl
      · exact trivial
  | _ => cases there

/-- A value that one branch has, and no other, splits the branches there. -/
theorem countP_once {α : Type} {p : α → Bool} {items : List α} (there : ∃ item ∈ items, p item)
    (once : ¬1 < items.countP p) : ∃ before item after, items = before ++ item :: after ∧
      p item ∧ ∀ other ∈ before ++ after, ¬p other := by
  obtain ⟨item, listed, holds⟩ := there
  obtain ⟨before, after, rfl⟩ := List.append_of_mem listed
  refine ⟨before, item, after, rfl, holds, ?_⟩
  rw [List.countP_append, List.countP_cons, if_pos holds] at once
  have none : (before ++ after).countP p = 0 := by
    rw [List.countP_append]
    omega
  exact List.countP_eq_zero.mp none

theorem ofKind_hasType (exact : F → ℚ) {kind : String} {value : Value F}
    (held : ofKind kind value = true) :
    HasType exact kind value := by
  unfold ofKind at held
  split at held
  · cases value <;> simp_all [isString, HasType]
  · split at held
    · cases value <;> simp_all [isBoolean, HasType]
    · split at held
      · cases value <;> simp_all [isNumber, HasType]
      · split at held
        · cases value <;> simp_all [asInteger, HasType]
        · split at held
          · cases value <;> simp_all [asArray, HasType]
          · cases held

theorem kind_of_string {kind text : String} (held : ofKind kind (.string text : Value F) = true) :
    kind = "string" :=
  ofKind_hasType (fun _ => 0) held

theorem kind_of_array {kind : String} {items : List (Value F)}
    (held : ofKind kind (.array items) = true) : kind = "array" :=
  ofKind_hasType (fun _ => 0) held

theorem isArray_of_kind {value : Value F} (held : ofKind "array" value = true) :
    ∃ items, value = .array items := by
  obtain ⟨items, array⟩ := Option.isSome_iff_exists.mp held
  exact ⟨items, asArray_eq_some.mp array⟩

/-- The bounds of the length that are read are kept. -/
theorem bounds_kept {field : McpFormField F} {value : Value F} {count : Nat}
    (within : outsideLength field value = false) (counted : countOf value = some count) :
    (∀ least, (field.schema.member (bounds field.kind).1).asU64 = some least → least ≤ count) ∧
      ∀ most, (field.schema.member (bounds field.kind).2).asU64 = some most → count ≤ most := by
  unfold outsideLength at within
  rw [counted, Option.any_some, Bool.or_eq_false_iff] at within
  constructor
  · intro least bound
    rw [bound, Option.any_some, decide_eq_false_iff_not] at within
    omega
  · intro most bound
    rw [bound, Option.any_some, decide_eq_false_iff_not] at within
    omega

variable {id : String} {property value : Value F} {required : List String} {field : McpFormField F}

theorem length_met (exact : F → ℚ) (meaning : Value F)
    (accepted : Accepted id property required field) (checked : Checked host field value)
    {count : Nat} (counted : countOf value = some count) :
    (property.get (bounds field.kind).1 = some meaning → meaning.asU64 ≠ none →
      Bounds exact (· ≤ count) meaning) ∧
    (property.get (bounds field.kind).2 = some meaning → meaning.asU64 ≠ none →
      Bounds exact (count ≤ ·) meaning) := by
  have kept := bounds_kept checked.length counted
  rw [accepted.schema] at kept
  constructor
  · intro held read
    obtain ⟨least, bound⟩ := Option.ne_none_iff_exists'.mp read
    rw [← member_of_get held] at bound
    refine ⟨least, ?_, kept.1 least bound⟩
    rw [← member_of_get held]
    exact number_of_asU64 bound
  · intro held read
    obtain ⟨most, bound⟩ := Option.ne_none_iff_exists'.mp read
    rw [← member_of_get held] at bound
    refine ⟨most, ?_, kept.2 most bound⟩
    rw [← member_of_get held]
    exact number_of_asU64 bound

theorem minimum_met (faithful : Faithful host exact)
    (accepted : Accepted id property required field)
    (checked : Checked host field value) {meaning : Value F}
    (held : property.get "minimum" = some meaning) (kept : ¬Inexact host exact value meaning)
    {own : ℚ} (is_number : number exact value = some own) :
    ∃ bound, number exact meaning = some bound ∧ bound ≤ own := by
  obtain ⟨bound, limit⟩ := Option.ne_none_iff_exists'.mp fun none => kept (.inl none)
  refine ⟨bound, limit, ?_⟩
  have range := checked.range
  unfold outsideRange at range
  rw [accepted.schema, Bool.or_eq_false_iff, member_of_get held,
    compareNumbers_eq faithful is_number limit kept] at range
  have notLess : compare own bound ≠ .lt := by simpa using range.1
  exact not_lt.mp fun less => notLess (compare_lt_iff_lt.mpr less)

theorem maximum_met (faithful : Faithful host exact)
    (accepted : Accepted id property required field)
    (checked : Checked host field value) {meaning : Value F}
    (held : property.get "maximum" = some meaning) (kept : ¬Inexact host exact value meaning)
    {own : ℚ} (is_number : number exact value = some own) :
    ∃ bound, number exact meaning = some bound ∧ own ≤ bound := by
  obtain ⟨bound, limit⟩ := Option.ne_none_iff_exists'.mp fun none => kept (.inl none)
  refine ⟨bound, limit, ?_⟩
  have range := checked.range
  unfold outsideRange at range
  rw [accepted.schema, Bool.or_eq_false_iff, member_of_get held,
    compareNumbers_eq faithful is_number limit kept] at range
  have notMore : compare own bound ≠ .gt := by simpa using range.2
  exact not_lt.mp fun more => notMore (compare_gt_iff_gt.mpr more)

variable [DecidableEq F]

/-- The value stands in more than one branch. -/
def ListedTwice (branches value : Value F) : Prop :=
  1 < ((asArray branches).getD []).countP fun branch => branch.member "const" = value

/-- The checks of a field pass over a keyword of its schema. -/
def PassedOver (host : JsonHost F) (exact : F → ℚ) (schema value : Value F) (keyword : String) :
    Prop :=
  match keyword with
  | "minLength" | "maxLength" | "minItems" | "maxItems" => (schema.member keyword).asU64 = none
  | "minimum" | "maximum" => Inexact host exact value (schema.member keyword)
  | "enum" | "anyOf" => (asArray value).isSome ∨ readAlternative schema ≠ some keyword
  | "oneOf" => (asArray value).isSome ∨ readAlternative schema ≠ some "oneOf" ∨
    ListedTwice (schema.member "oneOf") value
  | _ => False

/-- The keywords of a schema that are passed over are met all the same. -/
def OthersMet (host : JsonHost F) (exact : F → ℚ) (schema value : Value F) : Prop :=
  ∀ keyword meaning, schema.get keyword = some meaning →
    PassedOver host exact schema value keyword → Meets exact (Valid exact) keyword meaning value

/-- So are those of an answer's items. -/
def PassedOverMet (host : JsonHost F) (exact : F → ℚ) (schema value : Value F) : Prop :=
  OthersMet host exact schema value ∧
    ∀ items, value = .array items → ∀ item ∈ items,
      OthersMet host exact (schema.member "items") item

/-- A chosen value is an instance of the alternative that was read. -/
theorem alternative_met {schema value meaning : Value F} {options : List (McpFormChoice F)}
    {keyword : String} (made : choices schema = .ok options)
    (chosen : value ∈ options.map (·.value)) (read : readAlternative schema = some keyword)
    (held : schema.get keyword = some meaning)
    (once : keyword = "oneOf" → ¬ListedTwice meaning value) :
    Meets exact (Valid exact) keyword meaning value := by
  have known : keyword ∈ ["enum", "oneOf", "anyOf"] := List.mem_of_find?_eq_some read
  have options' := choices_ok made
  rw [read] at options'
  obtain ⟨values, array, same⟩ := options'
  rw [member_of_get held] at array
  subst array
  simp only [List.mem_cons, List.not_mem_nil, or_false] at known
  rcases known with rfl | rfl | rfl
  · rw [if_pos rfl] at same
    rw [same] at chosen
    exact ⟨values, rfl, chosen⟩
  · rw [if_neg (by decide)] at same
    obtain ⟨constants, same⟩ := same
    rw [same] at chosen
    obtain ⟨branch, listed, has⟩ := List.mem_map.mp chosen
    obtain ⟨before, branch, after, rfl, holds, others⟩ := countP_once
      ⟨branch, listed, decide_eq_true has⟩ (once rfl)
    refine ⟨_, rfl, before, branch, after, rfl, ?_, ?_⟩
    · exact (valid_constant (constants branch (by simp))).mpr (of_decide_eq_true holds)
    · intro other member valid
      have constant := constants other (by rcases List.mem_append.mp member with h | h <;> simp [h])
      exact others other member (decide_eq_true ((valid_constant constant).mp valid))
  · rw [if_neg (by decide)] at same
    obtain ⟨constants, same⟩ := same
    rw [same] at chosen
    obtain ⟨branch, listed, has⟩ := List.mem_map.mp chosen
    exact ⟨values, rfl, branch, listed, (valid_constant (constants branch listed)).mpr has⟩

/-- An alternative of a field that is read is met. -/
theorem field_alternative_met (accepted : Accepted id property required field)
    (checked : Checked host field value) {keyword : String} {meaning : Value F}
    (held : property.get keyword = some meaning) (plain : asArray value = none)
    (read : readAlternative property = some keyword)
    (once : keyword = "oneOf" → ¬ListedTwice meaning value) :
    Meets exact (Valid exact) keyword meaning value := by
  have known : keyword ∈ ["enum", "oneOf", "anyOf"] := List.mem_of_find?_eq_some read
  have alternatives : hasAlternatives property = true := by
    rw [hasAlternatives, List.any_eq_true]
    exact ⟨keyword, known, by rw [held]; rfl⟩
  have notArray : field.kind ≠ "array" := by
    intro isArray
    have kind := checked.kind
    rw [isArray] at kind
    obtain ⟨items, rfl⟩ := isArray_of_kind kind
    cases plain
  have isString : field.kind = "string" := by
    by_contra notString
    rw [accepted.plain notString notArray] at alternatives
    cases alternatives
  have options := accepted.options
  rw [fieldOptions, isString, if_neg (by decide), if_neg (by decide)] at options
  have chosen := checked.chosen (accepted.offered isString alternatives) value (by
    rw [selected, if_neg notArray]
    exact List.mem_singleton_self _)
  exact alternative_met options chosen read held once

/-- The keywords of a field that are not passed over are met. -/
theorem field_keyword_met (faithful : Faithful host exact)
    (accepted : Accepted id property required field) (checked : Checked host field value)
    {keyword : String} {meaning : Value F} (held : property.get keyword = some meaning)
    (read : ¬PassedOver host exact property value keyword) (plain : keyword ≠ "items") :
    Meets exact (Valid exact) keyword meaning value := by
  have known := key_allowed accepted.only held
  simp only [fieldKeys, List.mem_cons, List.not_mem_nil, or_false] at known
  rcases known with rfl | rfl | rfl | rfl | rfl | rfl | rfl | rfl | rfl | rfl | rfl | rfl | rfl |
    rfl | rfl | rfl
  · refine ⟨field.kind, ?_, ofKind_hasType exact checked.kind⟩
    rw [← member_of_get held]
    exact accepted.kind
  · exact trivial
  · exact trivial
  · exact trivial
  · exact trivial
  · rintro text rfl
    have kept := (length_met exact meaning accepted checked rfl).1
    rw [kind_of_string checked.kind] at kept
    exact kept held (by rwa [← member_of_get held])
  · rintro text rfl
    have kept := (length_met exact meaning accepted checked rfl).2
    rw [kind_of_string checked.kind] at kept
    exact kept held (by rwa [← member_of_get held])
  · intro own is_number
    exact minimum_met faithful accepted checked held (by rwa [← member_of_get held]) is_number
  · intro own is_number
    exact maximum_met faithful accepted checked held (by rwa [← member_of_get held]) is_number
  · have both : ¬((asArray value).isSome ∨ readAlternative property ≠ some "enum") := read
    rw [not_or, not_not, Bool.not_eq_true, Option.isSome_eq_false_iff, Option.isNone_iff_eq_none]
      at both
    exact field_alternative_met accepted checked held both.1 both.2
      fun other => absurd other (by decide)
  · exact trivial
  · have all : ¬((asArray value).isSome ∨ readAlternative property ≠ some "oneOf" ∨
      ListedTwice (property.member "oneOf") value) := read
    rw [not_or, not_or, not_not, Bool.not_eq_true, Option.isSome_eq_false_iff,
      Option.isNone_iff_eq_none, member_of_get held] at all
    exact field_alternative_met accepted checked held all.1 all.2.1 fun _ => all.2.2
  · have both : ¬((asArray value).isSome ∨ readAlternative property ≠ some "anyOf") := read
    rw [not_or, not_not, Bool.not_eq_true, Option.isSome_eq_false_iff, Option.isNone_iff_eq_none]
      at both
    exact field_alternative_met accepted checked held both.1 both.2
      fun other => absurd other (by decide)
  · exact absurd rfl plain
  · rintro items rfl
    have kept := (length_met exact meaning accepted checked rfl).1
    rw [kind_of_array checked.kind] at kept
    exact kept held (by rwa [← member_of_get held])
  · rintro items rfl
    have kept := (length_met exact meaning accepted checked rfl).2
    rw [kind_of_array checked.kind] at kept
    exact kept held (by rwa [← member_of_get held])

/-- Items of an answer meet the keywords of their schema that are not passed over. -/
theorem item_keyword_met (accepted : Accepted id property required field)
    {items : List (Value F)} (checked : Checked host field (.array items)) {item : Value F}
    (listed : item ∈ items) {keyword : String} {meaning : Value F}
    (held : (property.member "items").get keyword = some meaning)
    (read : ¬PassedOver host exact (property.member "items") item keyword) :
    Meets exact (Valid exact) keyword meaning item := by
  have isArray := kind_of_array checked.kind
  obtain ⟨only, typed, offered⟩ := accepted.items isArray
  have options := accepted.options
  rw [fieldOptions, isArray, if_neg (by decide), if_pos rfl] at options
  have chosen := checked.chosen offered item (by rwa [selected, if_pos isArray])
  obtain ⟨option, member, same⟩ := List.mem_map.mp chosen
  obtain ⟨text, isString⟩ := choices_strings options option member
  have known := key_allowed only held
  simp only [itemKeys, List.mem_cons, List.not_mem_nil, or_false] at known
  rw [isString] at same
  subst same
  rcases known with rfl | rfl | rfl | rfl
  · rw [member_of_get held] at typed
    exact ⟨"string", typed, rfl⟩
  · have both : ¬(false ∨ readAlternative (property.member "items") ≠ some "enum") := read
    exact alternative_met options chosen (by simpa using both) held
      fun other => absurd other (by decide)
  · have both : ¬(false ∨ readAlternative (property.member "items") ≠ some "oneOf" ∨
      ListedTwice ((property.member "items").member "oneOf") (.string text)) := read
    rw [not_or, not_or, not_not, member_of_get held] at both
    exact alternative_met options chosen both.2.1 held fun _ => both.2.2
  · have both : ¬(false ∨ readAlternative (property.member "items") ≠ some "anyOf") := read
    exact alternative_met options chosen (by simpa using both) held
      fun other => absurd other (by decide)

omit [DecidableEq F] in
theorem valid_keyword {schema value meaning : Value F} {keyword : String}
    (valid : Valid exact schema value) (held : schema.get keyword = some meaning) :
    Meets exact (Valid exact) keyword meaning value := by
  cases schema with
  | object members => exact valid_object.mp valid keyword meaning held
  | _ => cases held

omit [DecidableEq F] in
theorem valid_of_keywords {schema value : Value F} {allowed : List String}
    (only : hasOnly allowed schema = true) (met : ∀ keyword meaning,
      schema.get keyword = some meaning → Meets exact (Valid exact) keyword meaning value) :
    Valid exact schema value := by
  cases schema with
  | object members => exact valid_object.mpr met
  | _ => cases only

/-- A checked answer is an instance of its schema where the keywords passed over are met. -/
theorem field_valid_iff (faithful : Faithful host exact)
    (accepted : Accepted id property required field) (checked : Checked host field value) :
    Valid exact property value ↔ PassedOverMet host exact property value := by
  constructor
  · intro valid
    refine ⟨fun keyword meaning held _ => valid_keyword valid held, ?_⟩
    rintro items rfl item listed keyword meaning held -
    obtain ⟨only, -, -⟩ := accepted.items (kind_of_array checked.kind)
    have there : property.get "items" = some (property.member "items") :=
      get_of_member fun absent => by rw [absent] at held; cases held
    have items_valid : Valid exact (property.member "items") item :=
      valid_keyword valid there items rfl item listed
    exact valid_keyword items_valid held
  · rintro ⟨met, itemsMet⟩
    refine valid_of_keywords accepted.only fun keyword meaning held => ?_
    by_cases passed : PassedOver host exact property value keyword
    · exact met keyword meaning held passed
    by_cases isItems : keyword = "items"
    · subst isItems
      rintro items rfl item listed
      obtain ⟨only, -, -⟩ := accepted.items (kind_of_array checked.kind)
      rw [← member_of_get held]
      refine valid_of_keywords only fun keyword meaning held => ?_
      by_cases passed : PassedOver host exact (property.member "items") item keyword
      · exact itemsMet items rfl item listed keyword meaning held passed
      · exact item_keyword_met accepted checked listed held passed
    · exact field_keyword_met faithful accepted checked held passed isItems

/-- The keywords that the checks of a form pass over are met by the content. -/
def FormPassedOverMet (host : JsonHost F) (exact : F → ℚ) (schema content : Value F) : Prop :=
  ∀ name property found, (schema.member "properties").get name = some property →
    content.get name = some found → PassedOverMet host exact property found

section Forms

variable {schema : Value F} {properties : List (String × Value F)} {fields : List (McpFormField F)}
  {answers : Answers F}

theorem form_property_valid_iff (faithful : Faithful host exact)
    (form : AcceptedForm schema properties required fields)
    (answered : ∀ field ∈ fields, Answered host answers field) {name : String}
    {property found : Value F} (held : (Value.object properties).get name = some property)
    (answer : answerOf answers name = some found) :
    Valid exact property found ↔ PassedOverMet host exact property found := by
  obtain ⟨entry, listed, rfl⟩ := Option.map_eq_some_iff.mp held
  have same : entry.1 = name := by simpa using List.find?_some listed
  obtain ⟨field, member, accepted⟩ := form.field entry.1 entry.2
    (List.mem_of_find?_eq_some listed)
  refine field_valid_iff faithful accepted ((answered field member).checked found ?_)
  rw [accepted.named, same]
  exact answer

omit [DecidableEq F] in
theorem form_required_met (form : AcceptedForm schema properties required fields)
    (answered : ∀ field ∈ fields, Answered host answers field) {id : String}
    (needed : id ∈ required) : ((Value.object answers).get id).isSome = true := by
  obtain ⟨property, listed⟩ := form.real id needed
  obtain ⟨field, member, accepted⟩ := form.field _ _ listed
  cases answer : answerOf answers id with
  | some found =>
    have reads : (Value.object answers).get id = some found := answer
    rw [reads, Option.isSome_some]
  | none =>
    have missing := (answered field member).missing (by rw [accepted.named, answer])
    rw [accepted.needed] at missing
    have there : required.contains id = true := by simpa using needed
    rw [there] at missing
    cases missing

/-- The answers to a form are an instance of its schema where the keywords passed over are met. -/
theorem form_valid_iff (faithful : Faithful host exact)
    (form : AcceptedForm schema properties required fields)
    (answered : ∀ field ∈ fields, Answered host answers field) :
    Valid exact schema (.object answers) ↔
      FormPassedOverMet host exact schema (.object answers) := by
  constructor
  · intro valid name property found held answer
    have there : schema.get "properties" = some (schema.member "properties") :=
      get_of_member fun absent => by rw [absent] at held; cases held
    have properties_valid := valid_keyword valid there answers rfl
    rw [form.held] at held properties_valid
    exact (form_property_valid_iff faithful form answered held answer).mp
      (properties_valid.2 name property found held answer)
  · intro met
    refine valid_of_keywords form.only fun keyword meaning held => ?_
    have known := key_allowed form.only held
    simp only [schemaKeys, List.mem_cons, List.not_mem_nil, or_false] at known
    rcases known with rfl | rfl | rfl | rfl | rfl | rfl | rfl
    · exact trivial
    · refine ⟨"object", ?_, rfl⟩
      rw [← member_of_get held]
      exact form.kind
    · have same := form.held
      rw [member_of_get held] at same
      subst same
      intro members _
      refine ⟨⟨properties, rfl⟩, fun name property found held' answer => ?_⟩
      refine (form_property_valid_iff faithful form answered held' answer).mpr ?_
      exact met name property found (by rwa [member_of_get held]) answer
    · intro members _
      refine ⟨_, form.needed meaning held, ?_⟩
      intro name listed
      obtain ⟨id, needed, rfl⟩ := List.mem_map.mp listed
      exact ⟨id, rfl, form_required_met form answered needed⟩
    · exact trivial
    · exact trivial
    · exact trivial

end Forms

end Decodex.Guarantees.FormAnswers
