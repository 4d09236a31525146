import Mathlib.Algebra.Order.Ring.Int
import Mathlib.Data.List.Basic

/-!
# JSON values with fractions

The values of a JSON document whose numbers are integers or fractions; what a fraction is stays
a parameter. A member is read and replaced by its name, and the two rules of a record hold: the
replaced member reads back, the others read as before. Nothing here names a particular format.
-/
namespace Decodex.Library

inductive Value (F : Type) where
  | null
  | bool (value : Bool)
  | integer (value : Int)
  | fraction (value : F)
  | string (value : String)
  | array (items : List (Value F))
  | object (members : List (String × Value F))

namespace Value

variable {F : Type}

/-- `Value::get` of a name. -/
def get (value : Value F) (name : String) : Option (Value F) :=
  match value with
  | .object members => (members.find? (·.1 == name)).map (·.2)
  | _ => none

/-- `Value::as_str`. -/
def asStr : Value F → Option String
  | .string value => some value
  | _ => none

/-- `Value::as_u64`. -/
def asU64 : Value F → Option Nat
  | .integer value => if 0 ≤ value ∧ value < 2 ^ 64 then some value.toNat else none
  | _ => none

/-- `Value::is_null`. -/
def isNull : Value F → Bool
  | .null => true
  | _ => false

/-- `value[name]`. -/
def member (value : Value F) (name : String) : Value F := (value.get name).getD .null

/-- `Map::insert`. -/
def setMember (name : String) (value : Value F) : List (String × Value F) → List (String × Value F)
  | [] => [(name, value)]
  | (held, old) :: rest =>
    if held = name then (held, value) :: rest else (held, old) :: setMember name value rest

/-- `value[name] = member`: `null` becomes an object, and any other value has no members. -/
def set (value : Value F) (name : String) (member : Value F) : Option (Value F) :=
  match value with
  | .object members => some (.object (setMember name member members))
  | .null => some (.object [(name, member)])
  | _ => none

theorem find?_setMember (name other : String) (value : Value F) (members : List (String × Value F)) :
    ((setMember name value members).find? (·.1 == other)).map (·.2) =
      if other = name then some value else (members.find? (·.1 == other)).map (·.2) := by
  induction members with
  | nil =>
    by_cases same : other = name
    · simp [setMember, same]
    · have apart : ¬name = other := fun equal => same equal.symm
      simp [setMember, same, apart]
  | cons first rest ih =>
    obtain ⟨held, old⟩ := first
    unfold setMember
    by_cases named : held = name
    · rw [if_pos named]
      by_cases same : other = name
      · simp [same, named]
      · have apart : ¬name = other := fun equal => same equal.symm
        simp [same, named, apart]
    · rw [if_neg named]
      by_cases same : held = other
      · have apart : ¬other = name := fun equal => named (same.trans equal)
        simp [same, apart]
      · simp only [List.find?_cons, beq_false_of_ne same]
        exact ih

/-- Only the name that is written is new. -/
theorem names_of_setMember {name : String} {value : Value F} {members : List (String × Value F)} :
    ∀ entry ∈ setMember name value members,
      entry.1 = name ∨ ∃ old ∈ members, old.1 = entry.1 := by
  induction members with
  | nil =>
    intro entry listed
    simp only [setMember, List.mem_singleton] at listed
    left
    rw [listed]
  | cons first rest ih =>
    obtain ⟨held, old⟩ := first
    unfold setMember
    split
    · intro entry listed
      rcases List.mem_cons.mp listed with rfl | listed
      · exact .inr ⟨(held, old), by simp, rfl⟩
      · exact .inr ⟨entry, by simp [listed], rfl⟩
    · intro entry listed
      rcases List.mem_cons.mp listed with rfl | listed
      · exact .inr ⟨(held, old), by simp, rfl⟩
      · rcases ih entry listed with same | ⟨old, member, same⟩
        · exact .inl same
        · exact .inr ⟨old, by simp [member], same⟩

/-- What is written to an object reads back, and the other members read as before. -/
theorem get_set {value member after : Value F} {name : String}
    (done : value.set name member = some after) (other : String) :
    after.get other = if other = name then some member else value.get other := by
  unfold set at done
  split at done
  · cases done
    exact find?_setMember name other member _
  · cases done
    by_cases same : other = name
    · simp [get, same]
    · have apart : ¬name = other := fun equal => same equal.symm
      simp [get, same, apart]
  · cases done

/-- A value with a member is an object. -/
theorem set_of_get {value found : Value F} {name : String} (held : value.get name = some found)
    (other : String) (member : Value F) : ∃ after, value.set other member = some after := by
  unfold get at held
  split at held
  · exact ⟨_, rfl⟩
  · cases held

theorem asU64_integer {number : Nat} (fits : number < 2 ^ 64) :
    (integer number : Value F).asU64 = some number := by
  have inside : (0 : Int) ≤ number ∧ (number : Int) < 2 ^ 64 := by omega
  simp only [asU64]
  rw [if_pos inside, Int.toNat_natCast]

section Equality

variable [DecidableEq F]

mutual

/-- Equality, by the shape of the first value. -/
def decEq : (left right : Value F) → Decidable (left = right)
  | .null, right => decidable_of_iff (right.isNull = true) (by cases right <;> simp [isNull])
  | .string text, right =>
    decidable_of_iff (right.asStr = some text) (by cases right <;> simp [asStr, eq_comm])
  | .bool left, right =>
    match right with
    | .bool right => decidable_of_iff (left = right) (by simp)
    | .null | .integer _ | .fraction _ | .string _ | .array _ | .object _ => isFalse (by simp)
  | .integer left, right =>
    match right with
    | .integer right => decidable_of_iff (left = right) (by simp)
    | .null | .bool _ | .fraction _ | .string _ | .array _ | .object _ => isFalse (by simp)
  | .fraction left, right =>
    match right with
    | .fraction right => decidable_of_iff (left = right) (by simp)
    | .null | .bool _ | .integer _ | .string _ | .array _ | .object _ => isFalse (by simp)
  | .array left, right =>
    match right with
    | .array right =>
      have := decEqItems left right
      decidable_of_iff (left = right) (by simp)
    | .null | .bool _ | .integer _ | .fraction _ | .string _ | .object _ => isFalse (by simp)
  | .object left, right =>
    match right with
    | .object right =>
      have := decEqMembers left right
      decidable_of_iff (left = right) (by simp)
    | .null | .bool _ | .integer _ | .fraction _ | .string _ | .array _ => isFalse (by simp)

def decEqItems : (left right : List (Value F)) → Decidable (left = right)
  | [], right => decidable_of_iff (right.isEmpty = true) (by cases right <;> simp)
  | _ :: _, [] => isFalse (by simp)
  | left :: lefts, right :: rights =>
    have := decEq left right
    have := decEqItems lefts rights
    decidable_of_iff (left = right ∧ lefts = rights) (by simp)

def decEqMembers : (left right : List (String × Value F)) → Decidable (left = right)
  | [], right => decidable_of_iff (right.isEmpty = true) (by cases right <;> simp)
  | _ :: _, [] => isFalse (by simp)
  | left :: lefts, right :: rights =>
    have := decEqMember left right
    have := decEqMembers lefts rights
    decidable_of_iff (left = right ∧ lefts = rights) (by simp)

def decEqMember : (left right : String × Value F) → Decidable (left = right)
  | (name, left), (other, right) =>
    have := decEq left right
    decidable_of_iff (name = other ∧ left = right) (by simp)
  termination_by structural left => left

end

instance : DecidableEq (Value F) := decEq

end Equality

end Value

end Decodex.Library
