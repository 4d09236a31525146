import Mathlib.Data.List.Basic
import Mathlib.Tactic.Common

/-!
# Fair shares of a room

Requests are served from the front. Each one costs a frame and is given the least of what it
asks for and of an equal share of what is left, so what a later request is given depends on
every earlier one. `requiredRoom` says how much room the front has to find for one request
to be given anything; it is read off the requests alone.
-/
namespace Decodex.Library.FairShare

/-- What each request is given, by its length. -/
def shares (frame : Nat) : Nat → List Nat → List Nat
  | _, [] => []
  | room, length :: rest =>
    if room ≤ frame then 0 :: shares frame room rest
    else
      let share := min length ((room - frame) / (rest.length + 1))
      share :: shares frame (room - (frame + share)) rest

/-- The room in which a request is given something, when `before` are served first and `left`
requests are not: itself and those behind it. -/
def requiredRoom (frame : Nat) : List Nat → Nat → Nat
  | [], left => frame + left
  | length :: before, left =>
    let next := requiredRoom frame before left
    frame + next + min length ((next - 1) / (before.length + left))

@[simp] theorem shares_length (frame room : Nat) (lengths : List Nat) :
    (shares frame room lengths).length = lengths.length := by
  induction lengths generalizing room with
  | nil => rfl
  | cons length rest ih =>
    unfold shares
    split <;> simp [ih]

/-- Frames included, no more is given out than there was. -/
theorem share_room {frame room : Nat} (length count : Nat) (above : ¬ room ≤ frame) :
    frame + min length ((room - frame) / count) ≤ room := by
  have share : (room - frame) / count ≤ room - frame := Nat.div_le_self _ _
  omega

/-- When every request asks for at most `most` and there is room for as many such requests,
each is given what it asks for. -/
theorem shares_eq_self {frame room : Nat} (most : Nat) {lengths : List Nat}
    (small : ∀ length ∈ lengths, length ≤ most)
    (enough : lengths.length * (frame + most) ≤ room) : shares frame room lengths = lengths := by
  induction lengths generalizing room with
  | nil => rfl
  | cons length rest ih =>
    have own : length ≤ most := small length List.mem_cons_self
    have others : ∀ other ∈ rest, other ≤ most := fun other member =>
      small other (List.mem_cons_of_mem _ member)
    rw [List.length_cons, Nat.add_mul, Nat.one_mul] at enough
    unfold shares
    split
    · -- No byte is left behind the frame, so nothing is asked for.
      have : length = 0 := by omega
      rw [this, ih others (by omega)]
    · rename_i above
      have share : length ≤ (room - frame) / (rest.length + 1) := by
        rw [Nat.le_div_iff_mul_le (Nat.succ_pos _)]
        have bound : length * (rest.length + 1) ≤ most * (rest.length + 1) :=
          Nat.mul_le_mul_right _ own
        have expand : most * (rest.length + 1) ≤ rest.length * (frame + most) + most := by
          rw [Nat.mul_add, Nat.mul_add, Nat.mul_one, Nat.mul_comm most]
          omega
        rw [Nat.succ_eq_add_one]
        omega
      simp only [Nat.min_eq_left share]
      rw [ih others (by omega)]

theorem requiredRoom_lower (frame : Nat) (before : List Nat) (left : Nat) :
    frame + left ≤ requiredRoom frame before left := by
  induction before with
  | nil => exact Nat.le_refl _
  | cons length before ih =>
    simp only [requiredRoom]
    exact Nat.le_trans (Nat.le_trans ih (Nat.le_add_left _ _)) (Nat.le_add_right _ _)

/-- Giving an equal share to one of `others + 1` leaves `next` exactly from this room on. -/
theorem le_sub_share_iff {next others room : Nat} (positive : 0 < next) (some : 0 < others) :
    next + room / (others + 1) ≤ room ↔ next + (next - 1) / others ≤ room := by
  have total := Nat.div_add_mod room (others + 1)
  have part := Nat.mod_lt room (Nat.succ_pos others)
  have asked := Nat.div_add_mod (next - 1) others
  have rest := Nat.mod_lt (next - 1) some
  generalize room / (others + 1) = share at *
  generalize room % (others + 1) = remainder at *
  generalize (next - 1) / others = taken at *
  generalize (next - 1) % others = spare at *
  rw [Nat.add_mul, Nat.one_mul] at total
  constructor
  · intro fits
    have : taken ≤ share := by
      by_contra more
      have := Nat.mul_le_mul_left others (Nat.lt_of_not_le more)
      rw [Nat.mul_succ] at this
      omega
    omega
  · intro fits
    by_contra short
    have : share ≤ taken := by
      by_contra more
      have := Nat.mul_le_mul_left others (Nat.lt_of_not_le more)
      rw [Nat.mul_succ] at this
      omega
    have := Nat.mul_le_mul_left others this
    omega

/-- What one request needs is met after the request in front of it exactly when what both need
is met before it. -/
theorem room_after_iff {frame room length next others : Nat} (above : frame < room)
    (positive : 0 < next) (some : 0 < others) :
    next ≤ room - (frame + min length ((room - frame) / (others + 1))) ↔
      frame + next + min length ((next - 1) / others) ≤ room := by
  have key : next + (room - frame) / (others + 1) ≤ room - frame ↔
      next + (next - 1) / others ≤ room - frame := le_sub_share_iff positive some
  have share : (room - frame) / (others + 1) ≤ room - frame := Nat.div_le_self _ _
  omega

/-- A request is given something exactly when it asks for something and the room is what is
required of it. -/
theorem share_ne_zero_iff (frame room : Nat) (before after : List Nat) (length : Nat) :
    (∃ share, (shares frame room (before ++ length :: after))[before.length]? = some share ∧
      share ≠ 0) ↔
      length ≠ 0 ∧ requiredRoom frame before (after.length + 1) ≤ room := by
  induction before generalizing room with
  | nil =>
    simp only [List.nil_append, List.length_nil, requiredRoom]
    unfold shares
    split
    · simp only [List.getElem?_cons_zero, Option.some.injEq]
      omega
    · rename_i above
      have share : (room - frame) / (after.length + 1) ≠ 0 ↔ frame + (after.length + 1) ≤ room := by
        rw [← Nat.pos_iff_ne_zero, Nat.div_pos_iff]
        omega
      simp only [List.getElem?_cons_zero, Option.some.injEq, exists_eq_left']
      rw [← share]
      generalize (room - frame) / (after.length + 1) = given
      omega
  | cons first before ih =>
    have lower := requiredRoom_lower frame before (after.length + 1)
    simp only [List.cons_append, List.length_cons, requiredRoom]
    unfold shares
    split
    · rw [List.getElem?_cons_succ, ih]
      generalize min first _ = share
      omega
    · rename_i above
      have count : (before ++ length :: after).length = before.length + (after.length + 1) := by
        rw [List.length_append, List.length_cons]
      simp only [List.getElem?_cons_succ, ih, count]
      rw [room_after_iff (Nat.lt_of_not_le above) (by omega) (by omega)]

/-- What is required for a request is enough for every request in front of it: as every frame
costs something, shares run dry from the back. -/
theorem requiredRoom_le_of_append {frame : Nat} (paid : 0 < frame) (before between : List Nat)
    (left : Nat) : requiredRoom frame before (between.length + left) ≤
    requiredRoom frame (before ++ between) left := by
  induction before with
  | nil =>
    induction between with
    | nil => simp
    | cons length between ih =>
      simp only [List.nil_append, requiredRoom, List.length_cons] at ih ⊢
      generalize min length _ = share
      omega
  | cons length before ih =>
    have width : (before ++ between).length + left = before.length + (between.length + left) := by
      rw [List.length_append, Nat.add_assoc]
    simp only [List.cons_append, requiredRoom, width]
    have := Nat.div_le_div_right (c := before.length + (between.length + left))
      (Nat.sub_le_sub_right ih 1)
    generalize (requiredRoom frame before (between.length + left) - 1) / _ = share at *
    generalize (requiredRoom frame (before ++ between) left - 1) / _ = share' at *
    omega

end Decodex.Library.FairShare
