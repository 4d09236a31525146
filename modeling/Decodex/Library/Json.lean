import Decodex.Library.Except

/-!
# JSON documents

A document as a tree, the readers of its parts, and the rule that a list of parts reads back
exactly when each part does. An object keeps its members in writing order; a member is looked
up by its name. Numbers are integers: a reader of 64 bits refuses the others. Nothing here
names a particular format.
-/
namespace Decodex.Library

inductive Json where
  | null
  | bool (value : Bool)
  | number (value : Int)
  | string (value : String)
  | array (items : List Json)
  | object (members : List (String × Json))

namespace Json

def asObject : Json → Option (List (String × Json))
  | .object members => some members
  | _ => none

def asArray : Json → Option (List Json)
  | .array items => some items
  | _ => none

def asString : Json → Option String
  | .string value => some value
  | _ => none

/-- A value of 64 bits with a sign. -/
def Int64 (value : Int) : Prop := -9223372036854775808 ≤ value ∧ value < 9223372036854775808

instance decidableInt64 (value : Int) : Decidable (Int64 value) :=
  inferInstanceAs (Decidable (_ ∧ _))

def asInt64 : Json → Option Int
  | .number value => if Int64 value then some value else none
  | _ => none

/-- The member of an object with this name. -/
def get (members : List (String × Json)) (name : String) : Option Json :=
  (members.find? (·.1 == name)).map (·.2)

@[simp] theorem asObject_object (members : List (String × Json)) :
    (object members).asObject = some members := rfl

@[simp] theorem asArray_array (items : List Json) : (array items).asArray = some items := rfl

@[simp] theorem asString_string (value : String) : (string value).asString = some value := rfl

@[simp] theorem get_cons (name : String) (value : Json) (members : List (String × Json))
    (sought : String) :
    get ((name, value) :: members) sought = if name = sought then some value else get members sought := by
  unfold get
  by_cases same : name = sought <;> simp [same]

theorem asInt64_eq_some {value : Int} (inside : Int64 value) :
    (number value).asInt64 = some value := if_pos inside

theorem asInt64_eq_none {value : Int} (outside : ¬Int64 value) :
    (number value).asInt64 = none := if_neg outside

end Json

/-- A list reads back what was written exactly when each of its items does. -/
theorem mapM_map_eq_ok_iff {ε α β : Type} {write : α → β} {read : β → Except ε α} (items : List α) :
    (items.map write).mapM read = .ok items ↔ ∀ item ∈ items, read (write item) = .ok item := by
  induction items with
  | nil => simp [pure, Except.pure]
  | cons first rest ih =>
    rw [List.map_cons, List.mapM_cons, List.forall_mem_cons, ← ih]
    constructor
    · intro done
      obtain ⟨value, head, done⟩ := bind_ok done
      obtain ⟨others, tail, done⟩ := bind_ok done
      obtain ⟨rfl, rfl⟩ := List.cons.inj (Except.ok.inj done)
      exact ⟨head, tail⟩
    · rintro ⟨head, tail⟩
      rw [head, ok_bind, tail, ok_bind]
      rfl

end Decodex.Library
