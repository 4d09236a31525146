import Mathlib.Data.Rat.Defs
import Mathlib.Data.Rat.Cast.Order
import Decodex.Library.JsonValue

/-!
# JSON Schema

What it means that a value is an instance of a schema, for the keywords `type`, `const`, `enum`,
`oneOf`, `anyOf`, `items`, `properties`, `required` and the bounds of lengths, counts and numbers. A
keyword speaks of the values of its own type only, and one that is not written as it must be is met
by none of these. Other keywords are annotations. Nothing here names a particular program.
-/
namespace Decodex.Library.JsonSchema

variable {F : Type} (exact : F → ℚ)

/-- The number that a value is. -/
def number : Value F → Option ℚ
  | .integer value => some value
  | .fraction value => some (exact value)
  | _ => none

def HasType (name : String) (value : Value F) : Prop :=
  match value with
  | .null => name = "null"
  | .bool _ => name = "boolean"
  | .integer _ => name = "integer" ∨ name = "number"
  | .fraction value => name = "number" ∨ name = "integer" ∧ ∃ whole : Int, exact value = whole
  | .string _ => name = "string"
  | .array _ => name = "array"
  | .object _ => name = "object"

/-- The bound is a natural number `count` that is related to the count of a value. -/
def Bounds (related : Nat → Prop) (bound : Value F) : Prop :=
  ∃ count : Nat, number exact bound = some count ∧ related count

/-- A value meets a keyword, given what instances of the schemas in it are. -/
def Meets (valid : Value F → Value F → Prop) (keyword : String) (meaning value : Value F) : Prop :=
  match keyword with
  | "type" => ∃ name, meaning = .string name ∧ HasType exact name value
  | "const" => value = meaning
  | "enum" => ∃ values, meaning = .array values ∧ value ∈ values
  | "oneOf" => ∃ branches, meaning = .array branches ∧ ∃ before branch after,
      branches = before ++ branch :: after ∧ valid branch value ∧
      ∀ other ∈ before ++ after, ¬valid other value
  | "anyOf" => ∃ branches, meaning = .array branches ∧ ∃ branch ∈ branches, valid branch value
  | "items" => ∀ items, value = .array items → ∀ item ∈ items, valid meaning item
  | "properties" => ∀ members, value = .object members → (∃ named, meaning = .object named) ∧
      ∀ name schema found, meaning.get name = some schema → value.get name = some found →
        valid schema found
  | "required" => ∀ members, value = .object members → ∃ names, meaning = .array names ∧
      ∀ name ∈ names, ∃ id, name = .string id ∧ (value.get id).isSome = true
  | "minLength" => ∀ text, value = .string text → Bounds exact (· ≤ text.length) meaning
  | "maxLength" => ∀ text, value = .string text → Bounds exact (text.length ≤ ·) meaning
  | "minItems" => ∀ items, value = .array items → Bounds exact (· ≤ items.length) meaning
  | "maxItems" => ∀ items, value = .array items → Bounds exact (items.length ≤ ·) meaning
  | "minimum" => ∀ held, number exact value = some held →
      ∃ bound, number exact meaning = some bound ∧ bound ≤ held
  | "maximum" => ∀ held, number exact value = some held →
      ∃ bound, number exact meaning = some bound ∧ held ≤ bound
  | _ => True

/-- An instance of a schema that is nested no deeper than `depth`. -/
def validAt : Nat → Value F → Value F → Prop
  | 0, _, _ => False
  | depth + 1, schema, value =>
    match schema with
    | .bool accepts => accepts = true
    | .object members => ∀ keyword meaning, (Value.object members).get keyword = some meaning →
      Meets exact (validAt depth) keyword meaning value
    | _ => False

def Valid (schema value : Value F) : Prop := validAt exact (sizeOf schema) schema value

variable {exact}

theorem sizeOf_get {value found : Value F} {name : String} (held : value.get name = some found) :
    sizeOf found < sizeOf value := by
  unfold Value.get at held
  split at held
  · rename_i members
    obtain ⟨entry, listed, rfl⟩ := Option.map_eq_some_iff.mp held
    have inside := List.sizeOf_lt_of_mem (List.mem_of_find?_eq_some listed)
    obtain ⟨key, value⟩ := entry
    simp only [Prod.mk.sizeOf_spec, Value.object.sizeOf_spec] at inside ⊢
    omega
  · cases held

theorem sizeOf_branch {branches : List (Value F)} {branch : Value F} (listed : branch ∈ branches) :
    sizeOf branch ≤ sizeOf (Value.array branches) := by
  have inside := List.sizeOf_lt_of_mem listed
  rw [Value.array.sizeOf_spec]
  omega

theorem meets_of_same {valid valid' : Value F → Value F → Prop} {keyword : String}
    {meaning value : Value F} (same : ∀ schema value, sizeOf schema ≤ sizeOf meaning →
      (valid schema value ↔ valid' schema value))
    (met : Meets exact valid keyword meaning value) : Meets exact valid' keyword meaning value := by
  unfold Meets at met ⊢
  split at met
  case h_4 =>
    obtain ⟨branches, rfl, before, branch, after, rfl, holds, others⟩ := met
    refine ⟨_, rfl, before, branch, after, rfl, ?_, fun other listed met => ?_⟩
    · exact (same branch value (sizeOf_branch (by simp))).mp holds
    · refine others other listed ((same other value (sizeOf_branch ?_)).mpr met)
      rcases List.mem_append.mp listed with listed | listed <;> simp [listed]
  case h_5 =>
    obtain ⟨branches, rfl, branch, listed, holds⟩ := met
    exact ⟨branches, rfl, branch, listed, (same branch value (sizeOf_branch listed)).mp holds⟩
  case h_6 =>
    intro items found item listed
    exact (same meaning item (Nat.le_refl _)).mp (met items found item listed)
  case h_7 =>
    intro members found
    obtain ⟨named, holds⟩ := met members found
    refine ⟨named, fun name schema held listed reads => ?_⟩
    exact (same schema held (Nat.le_of_lt (sizeOf_get listed))).mp
      (holds name schema held listed reads)
  all_goals exact met

/-- More depth than the schema has changes nothing. -/
theorem validAt_iff {depth : Nat} {schema value : Value F} (deep : sizeOf schema ≤ depth) :
    validAt exact depth schema value ↔ Valid exact schema value := by
  suffices general : ∀ first second schema value, sizeOf schema ≤ first → sizeOf schema ≤ second →
      (validAt exact first schema value ↔ validAt exact second schema value) from
    general _ _ _ _ deep (Nat.le_refl _)
  intro first
  induction first with
  | zero =>
    intro second schema value small
    cases schema <;> simp at small
  | succ first ih =>
    intro second schema value small room
    cases second with
    | zero => cases schema <;> simp at room
    | succ second =>
      cases schema with
      | object members =>
        have same (keyword : String) (meaning : Value F)
            (held : (Value.object members).get keyword = some meaning) (schema value : Value F)
            (smaller : sizeOf schema ≤ sizeOf meaning) :
            validAt exact first schema value ↔ validAt exact second schema value := by
          have less := sizeOf_get held
          exact ih second schema value (by omega) (by omega)
        constructor
        · intro met keyword meaning held
          exact meets_of_same (same keyword meaning held) (met keyword meaning held)
        · intro met keyword meaning held
          exact meets_of_same (fun schema value smaller =>
            (same keyword meaning held schema value smaller).symm) (met keyword meaning held)
      | _ => exact Iff.rfl

/-- An instance of a schema object meets each of its keywords. -/
theorem valid_object {members : List (String × Value F)} {value : Value F} :
    Valid exact (.object members) value ↔ ∀ keyword meaning,
      (Value.object members).get keyword = some meaning →
        Meets exact (Valid exact) keyword meaning value := by
  have deep : sizeOf (Value.object members) ≤ sizeOf members + 1 := by
    rw [Value.object.sizeOf_spec]
    omega
  rw [← validAt_iff deep, validAt]
  have same (keyword : String) (meaning : Value F)
      (held : (Value.object members).get keyword = some meaning) (schema value : Value F)
      (smaller : sizeOf schema ≤ sizeOf meaning) :
      validAt exact (sizeOf members) schema value ↔ Valid exact schema value := by
    have less := sizeOf_get held
    rw [Value.object.sizeOf_spec] at less
    exact validAt_iff (by omega)
  constructor
  · intro met keyword meaning held
    exact meets_of_same (same keyword meaning held) (met keyword meaning held)
  · intro met keyword meaning held
    exact meets_of_same (fun schema value smaller =>
      (same keyword meaning held schema value smaller).symm) (met keyword meaning held)

end Decodex.Library.JsonSchema
