import Decodex.Source.Core.AgentPromptDraft

/-!
# Prompt edits keep their markers

Each edit of a valid draft is refused and leaves the draft as it was, or ends with a valid draft:
exactly the requested text is replaced or removed, and each marker that stays covers the text that
it covered. No step panics.
-/
namespace Decodex.Guarantees.PromptEditing

open Decodex.Library Decodex.Source.Core

variable {F α β : Type}

/-- The call is refused, or ends with a value that meets the condition. -/
def Settles (call : Except PromptFault α) (post : α → Prop) : Prop :=
  match call with
  | .ok value => post value
  | .error (.refused _) => True
  | .error .panicked => False

theorem settles_ok {value : α} {post : α → Prop} (meets : post value) :
    Settles (.ok value) post := meets

theorem Settles.bind {call : Except PromptFault α} {next : α → Except PromptFault β}
    {middle : α → Prop} {post : β → Prop} (first : Settles call middle)
    (second : ∀ value, middle value → Settles (next value) post) :
    Settles (call >>= next) post := by
  match call, first with
  | .ok value, first => exact second value first
  | .error (.refused _), _ => trivial

theorem Settles.mono {call : Except PromptFault α} {post weaker : α → Prop}
    (settles : Settles call post) (implies : ∀ value, post value → weaker value) :
    Settles call weaker := by
  match call, settles with
  | .ok value, settles => exact implies value settles
  | .error (.refused _), _ => trivial

theorem settles_okOr_bind {found : Option α} {message : String}
    {next : α → Except PromptFault β} {post : β → Prop}
    (meets : ∀ value, found = some value → Settles (next value) post) :
    Settles (okOr found message >>= next) post := by
  cases found with
  | none => trivial
  | some value => exact meets value rfl

theorem settles_refuseWhen_bind {condition : Prop} [Decidable condition] {message : String}
    {next : Unit → Except PromptFault β} {post : β → Prop}
    (meets : ¬condition → Settles (next ()) post) :
    Settles (refuseWhen condition message >>= next) post := by
  unfold refuseWhen
  split
  · trivial
  · rename_i passed
    exact meets passed

theorem settles_orPanic {found : Option α} {value : α} {post : α → Prop}
    (is_some : found = some value) (meets : post value) : Settles (orPanic found) post := by
  subst is_some
  exact meets

theorem settles_mapM {call : α → Except PromptFault β} {relation : α → β → Prop} {items : List α}
    (each : ∀ item ∈ items, Settles (call item) (relation item)) :
    Settles (items.mapM call) (List.Forall₂ relation items) := by
  induction items with
  | nil => exact .nil
  | cons first rest ih =>
    rw [List.mapM_cons]
    apply (each first (by simp)).bind
    intro value related
    apply (ih fun item listed => each item (List.mem_cons_of_mem _ listed)).bind
    intro values others
    exact .cons related others

theorem settles_foldlM {call : β → α → Except PromptFault β} (invariant : List α → β → Prop)
    {items : List α} {start : β}
    (round : ∀ done value item, done ++ [item] <+: items → invariant done value →
      Settles (call value item) (invariant (done ++ [item])))
    (opening : invariant [] start) : Settles (items.foldlM call start) (invariant items) := by
  induction items using List.reverseRecOn with
  | nil => exact opening
  | append_singleton done item ih =>
    rw [List.foldlM_append]
    apply (ih fun earlier value item begins => round earlier value item
      (begins.trans (List.prefix_append _ _))).bind
    intro value held
    rw [List.foldlM_cons]
    apply (round done value item (List.prefix_refl _) held).bind
    intro value held
    exact held

/-- The characters that a marker covers. -/
def covered (text : String) (marker : Value F) : Option (List Char) :=
  match elementRange marker with
  | .ok range => (range.cut text).map (·.2.1)
  | .error _ => none

theorem covered_eq_some {text : String} {marker : Value F} {chars : List Char} :
    covered text marker = some chars ↔ ∃ range before behind, elementRange marker = .ok range ∧
      range.cut text = some (before, chars, behind) := by
  unfold covered
  constructor
  · intro found
    split at found
    · rename_i range read
      obtain ⟨⟨before, inner, behind⟩, cut, same⟩ := Option.map_eq_some_iff.mp found
      cases same
      exact ⟨range, before, behind, read, cut⟩
    · cases found
  · rintro ⟨range, before, behind, read, cut⟩
    rw [read]
    dsimp only
    rw [cut]
    rfl

/-- A marker covers in a text what it covered before, and its other fields are as before. -/
structure Keeps (text text' : String) (old new : Value F) : Prop where
  covers : ∃ chars, covered text old = some chars ∧ covered text' new = some chars
  fields : ∀ name, name ≠ "byteRange" → new.get name = old.get name
  range : ∀ name, name ≠ "start" → name ≠ "end" →
    (new.member "byteRange").get name = (old.member "byteRange").get name

theorem Keeps.refl {text : String} {marker : Value F} {chars : List Char}
    (valid : covered text marker = some chars) : Keeps text text marker marker where
  covers := ⟨chars, valid, valid⟩
  fields := fun _ _ => rfl
  range := fun _ _ _ => rfl

theorem Keeps.trans {first second third : String} {old middle new : Value F}
    (left : Keeps first second old middle) (right : Keeps second third middle new) :
    Keeps first third old new where
  covers := by
    obtain ⟨chars, before, between⟩ := left.covers
    obtain ⟨others, between', behind⟩ := right.covers
    obtain rfl := Option.some.inj (between.symm.trans between')
    exact ⟨chars, before, behind⟩
  fields := fun name apart => (right.fields name apart).trans (left.fields name apart)
  range := fun name start stop => (right.range name start stop).trans (left.range name start stop)

/-- The two ends of a marker read back as they were written. -/
theorem elementRange_eq_ok {marker : Value F} {range : ByteRange} :
    elementRange marker = .ok range ↔
      ((marker.get "byteRange").bind (·.get "start")).bind (·.asU64) = some range.start ∧
      ((marker.get "byteRange").bind (·.get "end")).bind (·.asU64) = some range.stop ∧
      range.start ≤ range.stop := by
  unfold elementRange elementOffset
  cases ((marker.get "byteRange").bind (·.get "start")).bind (·.asU64) with
  | none => simp [okOr]
  | some start =>
    cases ((marker.get "byteRange").bind (·.get "end")).bind (·.asU64) with
    | none => simp [okOr]
    | some stop =>
      obtain ⟨first, last⟩ := range
      simp only [okOr, ok_bind, refuseWhen]
      split
      · rename_i reversed
        simp only [error_bind, reduceCtorEq, Option.some.injEq, false_iff, not_and]
        rintro rfl rfl
        omega
      · simp only [ok_bind, Except.ok.injEq, ByteRange.mk.injEq, Option.some.injEq]
        constructor
        · rintro ⟨rfl, rfl⟩
          exact ⟨rfl, rfl, by omega⟩
        · rintro ⟨rfl, rfl, _⟩
          exact ⟨rfl, rfl⟩

theorem elementRange_lt {marker : Value F} {range : ByteRange}
    (read : elementRange marker = .ok range) : range.stop < 2 ^ 64 := by
  obtain ⟨_, stop, _⟩ := elementRange_eq_ok.mp read
  obtain ⟨value, _, number⟩ := Option.bind_eq_some_iff.mp stop
  unfold Value.asU64 at number
  split at number
  · split at number
    · have same := Option.some.inj number
      omega
    · cases number
  · cases number

/-- A marker with a new end. -/
theorem setOffset_settles {marker inner held : Value F} {name : String} {offset : Nat}
    (object : marker.get "byteRange" = some inner) (inside : inner.get name = some held) :
    Settles (setOffset marker name offset) fun new =>
      (∀ other, other ≠ "byteRange" → new.get other = marker.get other) ∧
      ∃ outer, new.get "byteRange" = some outer ∧
        ∀ other, outer.get other = if other = name then some (.integer offset) else inner.get other := by
  unfold setOffset
  have same : marker.member "byteRange" = inner := by
    unfold Value.member
    rw [object]
    rfl
  obtain ⟨outer, written⟩ := Value.set_of_get inside name (.integer offset)
  obtain ⟨new, stored⟩ := Value.set_of_get object "byteRange" outer
  have read := Value.get_set stored
  rw [same, written]
  apply settles_orPanic stored
  refine ⟨?_, outer, ?_, Value.get_set written⟩
  · intro other apart
    rw [read, if_neg apart]
  · rw [read, if_pos rfl]

theorem checkedShift_settles {offset removed added : Nat} (enough : removed ≤ offset)
    (fits : offset - removed + added < 2 ^ 64) :
    Settles (checkedShift offset removed added) (· = offset - removed + added) := by
  unfold checkedShift
  rw [if_neg (by omega)]
  exact rfl

/-- A slice of the text around an edit is the same slice, moved with what stands before it. -/
theorem slice_around {start stop : Nat} {before middle behind added a b c : List Char}
    (found : slice start stop (before ++ (middle ++ behind)) = some (a, b, c)) :
    (stop ≤ byteLength before →
      ∃ c', slice start stop (before ++ (added ++ behind)) = some (a, b, c')) ∧
    (byteLength before + byteLength middle ≤ start →
      ∃ a', slice (start - byteLength middle + byteLength added)
        (stop - byteLength middle + byteLength added) (before ++ (added ++ behind)) =
          some (a', b, c)) := by
  constructor
  · intro inside
    exact slice_of_prefix _ found inside
  · intro later
    rw [← List.append_assoc] at found ⊢
    obtain ⟨a', moved⟩ := slice_of_suffix (before ++ added) found
      (by rw [byteLength_append]; exact later)
    have order := slice_le found
    refine ⟨a', ?_⟩
    rw [byteLength_append, byteLength_append] at moved
    rw [← moved]
    congr 1 <;> omega

/-- A marker around an edit moves with its text. -/
theorem moveMarker_settles {text replacement : String} {range : ByteRange} {marker : Value F}
    {before middle behind chars : List Char}
    (cut : range.cut text = some (before, middle, behind))
    (valid : covered text marker = some chars)
    (fits : ∀ old, elementRange marker = .ok old →
      old.stop + byteLength replacement.toList < 2 ^ 64) :
    Settles (moveMarker range (byteLength replacement.toList) marker)
      (Keeps text (String.ofList (before ++ (replacement.toList ++ behind))) marker) := by
  obtain ⟨old, a, c, read, found⟩ := covered_eq_some.mp valid
  obtain ⟨whole, first, last⟩ := slice_eq_some.mp cut
  have bounds := slice_le found
  have small := fits old read
  unfold ByteRange.cut at found
  rw [← whole] at found
  have around := @slice_around old.start old.stop before middle behind replacement.toList a chars c
    found
  unfold moveMarker
  rw [read, ok_bind]
  apply settles_refuseWhen_bind
  intro outside
  split
  · rename_i later
    obtain ⟨startRead, stopRead, order⟩ := elementRange_eq_ok.mp read
    obtain ⟨startValue, startHeld, _⟩ := Option.bind_eq_some_iff.mp startRead
    obtain ⟨inner, object, startHeld⟩ := Option.bind_eq_some_iff.mp startHeld
    obtain ⟨stopValue, stopHeld, _⟩ := Option.bind_eq_some_iff.mp stopRead
    rw [object, Option.bind_some] at stopHeld
    have len : range.len = byteLength middle := by
      unfold ByteRange.len
      omega
    rw [len]
    apply (checkedShift_settles (by omega) (by omega)).bind
    rintro _ rfl
    apply (checkedShift_settles (by omega) (by omega)).bind
    rintro _ rfl
    apply (setOffset_settles object startHeld).bind
    rintro moved ⟨fieldsFirst, outer, objectFirst, innerFirst⟩
    have stopStill : outer.get "end" = some stopValue := by
      rw [innerFirst, if_neg (by decide)]
      exact stopHeld
    apply (setOffset_settles objectFirst stopStill).mono
    rintro new ⟨fields, last, objectLast, innerLast⟩
    have newRead : elementRange new = .ok ⟨old.start - byteLength middle +
        byteLength replacement.toList, old.stop - byteLength middle +
        byteLength replacement.toList⟩ := by
      apply elementRange_eq_ok.mpr
      refine ⟨?_, ?_, ?_⟩
      · rw [objectLast, Option.bind_some, innerLast, if_neg (by decide), innerFirst, if_pos rfl,
          Option.bind_some]
        exact Value.asU64_integer (by omega)
      · rw [objectLast, Option.bind_some, innerLast, if_pos rfl, Option.bind_some]
        exact Value.asU64_integer (by omega)
      · dsimp only
        omega
    obtain ⟨a', same⟩ := around.2 (by omega)
    refine ⟨⟨chars, valid, covered_eq_some.mpr ⟨_, a', c, newRead, ?_⟩⟩, ?_, ?_⟩
    · unfold ByteRange.cut
      rw [String.toList_ofList]
      exact same
    · intro name apart
      rw [fields name apart, fieldsFirst name apart]
    · intro name start stop
      unfold Value.member
      rw [object, objectLast, Option.getD_some, Option.getD_some, innerLast, if_neg stop,
        innerFirst, if_neg start]
  · rename_i earlier
    obtain ⟨c', same⟩ := around.1 (by omega)
    refine ⟨⟨chars, valid, ?_⟩, fun _ _ => rfl, fun _ _ _ => rfl⟩
    apply covered_eq_some.mpr
    refine ⟨old, a, c', read, ?_⟩
    unfold ByteRange.cut
    rw [String.toList_ofList]
    exact same

theorem forM_eq_ok {check : α → Except PromptFault Unit} {items : List α} :
    items.forM check = .ok () ↔ ∀ item ∈ items, check item = .ok () := by
  induction items with
  | nil => simp [pure, Except.pure]
  | cons first rest ih =>
    change (check first >>= fun _ => rest.forM check) = .ok () ↔ _
    rw [List.forall_mem_cons, ← ih]
    constructor
    · intro passed
      obtain ⟨_, head, tail⟩ := bind_ok passed
      exact ⟨head, tail⟩
    · rintro ⟨head, tail⟩
      rw [head, ok_bind, tail]

theorem refuseWhen_eq_ok {condition : Prop} [Decidable condition] {message : String} :
    refuseWhen condition message = .ok () ↔ ¬condition := by
  unfold refuseWhen
  split <;> simp_all

theorem okOr_eq_ok {found : Option α} {message : String} {value : α} :
    okOr found message = .ok value ↔ found = some value := by
  cases found <;> simp [okOr]

/-- A text part whose markers each cover a part of its text. -/
structure TextPart (part : Value F) (text : String) (markers : List (Value F)) : Prop where
  kind : kindOf part = some "text"
  holds : textOf part = some text
  listed : elements part = .ok markers
  valid : ∀ marker ∈ markers, ∃ chars, covered text marker = some chars

theorem validateElement_eq_ok {text : String} {marker : Value F} :
    validateElement text marker = .ok () ↔ ∃ chars, covered text marker = some chars := by
  unfold validateElement
  constructor
  · intro passed
    obtain ⟨range, read, cut⟩ := bind_ok passed
    rw [refuseWhen_eq_ok, Bool.not_eq_true, Option.isNone_eq_false_iff, Option.isSome_iff_exists]
      at cut
    obtain ⟨⟨before, inner, behind⟩, cut⟩ := cut
    exact ⟨inner, covered_eq_some.mpr ⟨range, before, behind, read, cut⟩⟩
  · rintro ⟨chars, valid⟩
    obtain ⟨range, before, behind, read, cut⟩ := covered_eq_some.mp valid
    rw [read, ok_bind, refuseWhen_eq_ok, cut]
    simp

theorem validatePart_eq_ok {part : Value F} :
    validatePart part = .ok () ↔ ∃ kind, kindOf part = some kind ∧
      (kind = "text" → ∃ text markers, TextPart part text markers) := by
  unfold validatePart
  constructor
  · intro passed
    obtain ⟨kind, found, passed⟩ := bind_ok passed
    rw [okOr_eq_ok] at found
    refine ⟨kind, found, ?_⟩
    rintro rfl
    rw [if_pos rfl] at passed
    unfold validateText at passed
    obtain ⟨text, held, passed⟩ := bind_ok passed
    obtain ⟨markers, listed, passed⟩ := bind_ok passed
    rw [okOr_eq_ok] at held
    rw [forM_eq_ok] at passed
    exact ⟨text, markers, found, held, listed, fun marker member =>
      validateElement_eq_ok.mp (passed marker member)⟩
  · rintro ⟨kind, found, whole⟩
    rw [okOr_eq_ok.mpr found, ok_bind]
    split
    · rename_i text
      obtain ⟨text, markers, valid⟩ := whole text
      unfold validateText
      rw [okOr_eq_ok.mpr valid.holds, ok_bind, valid.listed, ok_bind, forM_eq_ok]
      intro marker member
      exact validateElement_eq_ok.mpr (valid.valid marker member)
    · rfl

theorem TextPart.passes {part : Value F} {text : String} {markers : List (Value F)}
    (valid : TextPart part text markers) : validatePart part = .ok () :=
  validatePart_eq_ok.mpr ⟨"text", valid.kind, fun _ => ⟨text, markers, valid⟩⟩

theorem validate_eq_ok {draft : PromptDraft F} :
    draft.validate = .ok () ↔
      draft.parts ≠ [] ∧ ∀ part ∈ draft.parts, validatePart part = .ok () := by
  unfold PromptDraft.validate
  constructor
  · intro passed
    obtain ⟨_, inhabited, passed⟩ := bind_ok passed
    rw [refuseWhen_eq_ok, List.isEmpty_iff] at inhabited
    exact ⟨inhabited, forM_eq_ok.mp passed⟩
  · rintro ⟨inhabited, passed⟩
    rw [refuseWhen_eq_ok.mpr (by rwa [List.isEmpty_iff]), ok_bind, forM_eq_ok]
    exact passed

/-- A text part of a valid draft. -/
theorem textPart_of_validate {draft : PromptDraft F} {part : Value F}
    (valid : draft.validate = .ok ()) (listed : part ∈ draft.parts)
    (kind : kindOf part = some "text") : ∃ text markers, TextPart part text markers := by
  obtain ⟨held, found, whole⟩ := validatePart_eq_ok.mp ((validate_eq_ok.mp valid).2 part listed)
  exact whole (Option.some.inj (found.symm.trans kind))

theorem related_of_mem_right {relation : α → β → Prop} {left : List α} {right : List β} {item : β}
    (each : List.Forall₂ relation left right) (listed : item ∈ right) :
    ∃ other, relation other item := by
  induction each with
  | nil => cases listed
  | cons related _ ih =>
    rcases List.mem_cons.mp listed with rfl | listed
    · exact ⟨_, related⟩
    · exact ih listed

theorem forall₂_compose {γ : Type} {first : α → β → Prop} {second : β → γ → Prop}
    {joined : α → γ → Prop} (compose : ∀ a b c, first a b → second b c → joined a c)
    {left : List α} {middle : List β} {right : List γ} (former : List.Forall₂ first left middle)
    (latter : List.Forall₂ second middle right) : List.Forall₂ joined left right := by
  induction former generalizing right with
  | nil =>
    cases latter
    exact .nil
  | cons related _ ih =>
    cases latter with
    | cons other rest => exact .cons (compose _ _ _ related other) (ih rest)

/-- A text part with another text, in which some of its markers still cover what they covered.
Its other fields are as before. -/
structure Rewritten (part part' : Value F) (text text' : String) (kept : List (Value F)) :
    Prop where
  before : textOf part = some text
  after : textOf part' = some text'
  fields : ∀ name, name ≠ "text" → name ≠ "text_elements" → part'.get name = part.get name
  markers : ∃ left, elements part' = .ok left ∧ List.Forall₂ (Keeps text text') kept left

theorem Rewritten.textPart {part part' : Value F} {text text' : String} {kept : List (Value F)}
    (rewritten : Rewritten part part' text text' kept) (kind : kindOf part = some "text") :
    ∃ left, TextPart part' text' left ∧ List.Forall₂ (Keeps text text') kept left := by
  obtain ⟨left, listed, each⟩ := rewritten.markers
  refine ⟨left, ⟨?_, rewritten.after, listed, ?_⟩, each⟩
  · unfold kindOf
    rw [rewritten.fields "type" (by decide) (by decide)]
    exact kind
  · intro marker member
    obtain ⟨old, keeps⟩ := related_of_mem_right each member
    obtain ⟨chars, _, covers⟩ := keeps.covers
    exact ⟨chars, covers⟩

/-- Two rewritings in a row. -/
theorem Rewritten.trans {first second third : Value F} {text text' text'' : String}
    {kept left : List (Value F)} (former : Rewritten first second text text' kept)
    (listed : elements second = .ok left) (latter : Rewritten second third text' text'' left) :
    Rewritten first third text text'' kept := by
  obtain ⟨middle, same, each⟩ := former.markers
  obtain rfl : middle = left := Except.ok.inj (same.symm.trans listed)
  obtain ⟨last, ended, others⟩ := latter.markers
  refine ⟨former.before, latter.after, ?_, last, ended, ?_⟩
  · intro name text elements
    rw [latter.fields name text elements, former.fields name text elements]
  · refine forall₂_compose ?_ each others
    intro _ _ _ left right
    exact left.trans right

/-- The new ends of the markers fit `usize`. -/
def Moves (markers : List (Value F)) (replacement : String) : Prop :=
  ∀ marker ∈ markers, ∀ old, elementRange marker = .ok old →
    old.stop + byteLength replacement.toList < 2 ^ 64

/-- The markers of a part move with its text. -/
theorem moveMarkers_settles {part : Value F} {text replacement : String} {range : ByteRange}
    {markers : List (Value F)} {before middle behind : List Char}
    (valid : TextPart part text markers) (cut : range.cut text = some (before, middle, behind))
    (fits : Moves markers replacement) :
    Settles (moveMarkers range (byteLength replacement.toList) part) fun moved =>
      (∀ name, name ≠ "text_elements" → moved.get name = part.get name) ∧
      ∃ left, elements moved = .ok left ∧ List.Forall₂
        (Keeps text (String.ofList (before ++ (replacement.toList ++ behind)))) markers left := by
  have listed := valid.listed
  unfold elements at listed
  unfold moveMarkers
  cases held : part.get "text_elements" with
  | none =>
    rw [held] at listed
    cases listed
    refine settles_ok ⟨fun _ _ => rfl, [], ?_, .nil⟩
    unfold elements
    rw [held]
  | some value =>
    rw [held] at listed
    cases value with
    | array items =>
      cases listed
      apply (settles_mapM fun marker member => by
        obtain ⟨chars, covers⟩ := valid.valid marker member
        exact moveMarker_settles cut covers (fits marker member)).bind
      intro moved each
      obtain ⟨after, written⟩ := Value.set_of_get held "text_elements" (.array moved)
      apply settles_orPanic written
      have read := Value.get_set written
      refine ⟨?_, moved, ?_, each⟩
      · intro name apart
        rw [read, if_neg apart]
      · unfold elements
        rw [read, if_pos rfl]
    | _ => cases listed

theorem editedPart_settles {part : Value F} {text replacement : String} {range : ByteRange}
    {markers : List (Value F)} (valid : TextPart part text markers)
    (fits : Moves markers replacement) :
    Settles (editedPart part range replacement) fun part' => ∃ before middle behind,
      range.cut text = some (before, middle, behind) ∧
      Rewritten part part' text (String.ofList (before ++ (replacement.toList ++ behind)))
        markers := by
  have same : (part.member "text").asStr = some text := by
    obtain ⟨value, held, holds⟩ := Option.bind_eq_some_iff.mp valid.holds
    unfold Value.member
    rw [held]
    exact holds
  unfold editedPart
  apply settles_refuseWhen_bind
  intro _
  apply settles_okOr_bind
  intro text' found
  obtain rfl : text = text' := Option.some.inj (same.symm.trans found)
  apply settles_refuseWhen_bind
  intro inside
  rw [Bool.not_eq_true, Option.isNone_eq_false_iff, Option.isSome_iff_exists] at inside
  obtain ⟨⟨before, middle, behind⟩, cut⟩ := inside
  apply (moveMarkers_settles valid cut fits).bind
  rintro moved ⟨fields, left, listed, each⟩
  have replaced : replaceRange text range replacement =
      .ok (String.ofList (before ++ (replacement.toList ++ behind))) := by
    unfold replaceRange
    rw [cut]
  rw [replaced, ok_bind]
  obtain ⟨value, held, _⟩ := Option.bind_eq_some_iff.mp valid.holds
  have heldStill : moved.get "text" = some value := by
    rw [fields "text" (by decide)]
    exact held
  obtain ⟨after, written⟩ := Value.set_of_get heldStill "text"
    (.string (String.ofList (before ++ (replacement.toList ++ behind))))
  apply settles_orPanic written
  have read := Value.get_set written
  refine ⟨before, middle, behind, cut, valid.holds, ?_, ?_, left, ?_, each⟩
  · unfold textOf
    rw [read, if_pos rfl]
    rfl
  · intro name text elements
    rw [read, if_neg text, fields name elements]
  · unfold elements at listed ⊢
    rw [read, if_neg (by decide)]
    exact listed

/-- One part of a draft was replaced. -/
structure TextReplaced (draft after : PromptDraft F) (partIndex : Nat) (range : ByteRange)
    (replacement : String) : Prop where
  part : ∃ part part' text before middle behind markers, draft.parts[partIndex]? = some part ∧
    after.parts = draft.parts.set partIndex part' ∧ TextPart part text markers ∧
    range.cut text = some (before, middle, behind) ∧
    Rewritten part part' text (String.ofList (before ++ (replacement.toList ++ behind))) markers

theorem withText_settles {draft : PromptDraft F} {partIndex : Nat} {range : ByteRange}
    {replacement : String} (valid : draft.validate = .ok ())
    (fits : ∀ part text markers, draft.parts[partIndex]? = some part →
      TextPart part text markers → Moves markers replacement) :
    Settles (draft.withText partIndex range replacement) fun after =>
      after.validate = .ok () ∧ TextReplaced draft after partIndex range replacement := by
  unfold PromptDraft.withText
  rw [valid, ok_bind]
  apply settles_okOr_bind
  intro part found
  have listed := List.mem_of_getElem? found
  by_cases kind : kindOf part = some "text"
  · obtain ⟨text, markers, whole⟩ := textPart_of_validate valid listed kind
    apply (editedPart_settles whole (fits part text markers found whole)).bind
    rintro part' ⟨before, middle, behind, cut, rewritten⟩
    obtain ⟨left, edited, _⟩ := rewritten.textPart kind
    refine settles_ok ⟨validate_eq_ok.mpr ⟨?_, ?_⟩, ⟨part, part', text, before, middle, behind,
      markers, found, rfl, whole, cut, rewritten⟩⟩
    · have inhabited := (validate_eq_ok.mp valid).1
      simpa using inhabited
    · intro other member
      rcases List.mem_or_eq_of_mem_set member with old | rfl
      · exact (validate_eq_ok.mp valid).2 other old
      · exact edited.passes
  · unfold editedPart refuseWhen
    rw [if_pos kind]
    trivial

/-- The byte ranges of the selected markers of one text. -/
def selectedRanges (markers : List (Nat × Nat)) (textIndex : Nat) (original : List (Value F)) :
    List (Nat × Nat) :=
  markers.filterMap fun marker =>
    if marker.1 = textIndex then
      match original[marker.2]?.map elementRange with
      | some (.ok range) => some (range.start, range.stop)
      | _ => none
    else none

/-- A text part behind the removal of its selected markers. -/
structure MarkersRemoved (markers : List (Nat × Nat)) (textIndex : Nat) (part part' : Value F) :
    Prop where
  rewritten : ∃ text original, TextPart part text original ∧
    (∀ marker ∈ markers, marker.1 = textIndex → marker.2 < original.length) ∧
    Rewritten part part' text
      (String.ofList (keepOutside (selectedRanges markers textIndex original) 0 text.toList))
      (retainedElements textIndex markers original)

/-- A part was removed, and from the texts the markers that were selected with it. -/
structure BoundRemoved (draft after : PromptDraft F) (partIndex : Nat)
    (markers : List (Nat × Nat)) : Prop where
  parts : ∃ middle : List (Value F), middle.length = draft.parts.length ∧
    after.parts = middle.eraseIdx partIndex ∧
    (∃ part, draft.parts[partIndex]? = some part ∧ kindOf part ≠ some "text") ∧
    ∀ index part part', draft.parts[index]? = some part → middle[index]? = some part' →
      if index ∈ markers.map (·.1) then MarkersRemoved markers index part part' else part' = part

/-- What a loop over the selected markers has found. -/
structure Found (draft : PromptDraft F) (markers : List (Nat × Nat)) (selected : List Selected) :
    Prop where
  identities : selected.map (·.identity) = markers
  each : ∀ marker ∈ selected, ∃ part original element, draft.parts[marker.textIndex]? = some part ∧
    kindOf part = some "text" ∧ elements part = .ok original ∧
    original[marker.elementIndex]? = some element ∧ elementRange element = .ok marker.range

theorem kindOf_eq (part : Value F) : (part.member "type").asStr = kindOf part := by
  unfold Value.member kindOf
  cases part.get "type" <;> rfl

theorem selectMarkers_settles {draft : PromptDraft F} (valid : draft.validate = .ok ())
    (markers : List (Nat × Nat)) :
    Settles (markers.foldlM (selectMarker draft) []) (Found draft markers) := by
  apply settles_foldlM (Found draft)
  · intro done selected marker _ found
    unfold selectMarker
    apply settles_refuseWhen_bind
    intro _
    apply settles_okOr_bind
    intro part held
    apply settles_refuseWhen_bind
    intro kind
    rw [ne_eq, not_not, kindOf_eq] at kind
    obtain ⟨text, original, whole⟩ := textPart_of_validate valid (List.mem_of_getElem? held) kind
    rw [whole.listed, ok_bind]
    apply settles_okOr_bind
    intro element placed
    obtain ⟨chars, covers⟩ := whole.valid element (List.mem_of_getElem? placed)
    obtain ⟨range, _, _, read, _⟩ := covered_eq_some.mp covers
    rw [read, ok_bind]
    refine settles_ok ⟨?_, ?_⟩
    · rw [List.map_append, found.identities]
      rfl
    · intro other member
      rcases List.mem_append.mp member with old | new
      · exact found.each other old
      · rw [List.mem_singleton.mp new]
        exact ⟨part, original, element, held, kind, whole.listed, placed, read⟩
  · exact ⟨rfl, by simp⟩

theorem mem_retained {textIndex : Nat} {markers : List (Nat × Nat)} {original : List (Value F)}
    {element : Value F} (kept : element ∈ retainedElements textIndex markers original) :
    element ∈ original := by
  unfold retainedElements at kept
  obtain ⟨placed, member, rfl⟩ := List.mem_map.mp kept
  exact List.fst_mem_of_mem_zipIdx (List.mem_filter.mp member).1

/-- Ranges that do not overlap in their order are apart. -/
theorem apart_of_not_overlapping {ranges : List ByteRange}
    (ordered : ∀ range ∈ ranges, range.start ≤ range.stop) (clear : overlapping ranges = false) :
    ranges.Pairwise fun earlier later => earlier.stop ≤ later.start := by
  induction ranges with
  | nil => exact .nil
  | cons first rest ih =>
    cases rest with
    | nil => exact List.pairwise_singleton _ _
    | cons second others =>
      simp only [overlapping, Bool.or_eq_false_iff, decide_eq_false_iff_not, Nat.not_lt] at clear
      have later := ih (fun range listed => ordered range (List.mem_cons_of_mem _ listed)) clear.2
      have inside := ordered second (by simp)
      refine List.pairwise_cons.mpr ⟨?_, later⟩
      intro range listed
      rcases List.mem_cons.mp listed with rfl | listed
      · exact clear.1
      · have := (List.pairwise_cons.mp later).1 range listed
        omega

/-- The state of the loop that removes the ranges of one text, the last one first. -/
structure Removing (parts : List (Value F)) (textIndex : Nat) (part : Value F) (text : String)
    (kept : List (Value F)) (ranges done : List ByteRange) (updated : PromptDraft F) : Prop where
  valid : updated.validate = .ok ()
  current : ∃ part' text' left, updated.parts = parts.set textIndex part' ∧
    TextPart part' text' left ∧ Rewritten part part' text text' kept ∧
    ∀ rest, ranges = rest ++ done.reverse →
      keepOutside (rest.map (·.pair)) 0 text'.toList =
        keepOutside (ranges.map (·.pair)) 0 text.toList

theorem removeRanges_settles {parts : List (Value F)} {textIndex : Nat} {part : Value F}
    {text : String} {kept : List (Value F)} {ranges : List ByteRange} {updated : PromptDraft F}
    (inside : textIndex < parts.length)
    (apart : ranges.Pairwise fun earlier later => earlier.stop ≤ later.start)
    (opening : Removing parts textIndex part text kept ranges [] updated) :
    Settles (ranges.reverse.foldlM (fun updated range => updated.withText textIndex range "") updated)
      (Removing parts textIndex part text kept ranges ranges.reverse) := by
  apply settles_foldlM (Removing parts textIndex part text kept ranges) _ opening
  intro done updated range begins removing
  obtain ⟨part', text', left, listed, whole, rewritten, removed⟩ := removing.current
  have current : updated.parts[textIndex]? = some part' := by
    rw [listed, List.getElem?_set_self inside]
  apply (withText_settles removing.valid fun other _ markers _ _ marker _ old read => by
    simpa using elementRange_lt read).mono
  rintro after ⟨valid, ⟨other, part'', text'', before, middle, behind, markers, found, stored,
    same, cut, next⟩⟩
  obtain rfl : part' = other := Option.some.inj (current.symm.trans found)
  obtain rfl : text' = text'' := Option.some.inj (whole.holds.symm.trans same.holds)
  obtain rfl : left = markers := Except.ok.inj (whole.listed.symm.trans same.listed)
  obtain ⟨last, edited, _⟩ := next.textPart whole.kind
  refine ⟨valid, part'', _, last, ?_, edited, rewritten.trans whole.listed next, ?_⟩
  · rw [stored, listed, List.set_set]
  · intro rest split
    rw [List.reverse_append, List.reverse_singleton, List.singleton_append] at split
    have earlier := removed (rest ++ [range]) (by rw [split, List.append_assoc]; rfl)
    rw [← earlier, List.map_append, List.map_singleton, String.toList_ofList]
    symm
    apply keepOutside_concat cut
    intro other member
    obtain ⟨held, earliest, rfl⟩ := List.mem_map.mp member
    rw [split] at apart
    exact (List.pairwise_append.mp apart).2.2 held earliest range (by simp)

/-- A selected marker of one text, with its element and its range. -/
theorem Found.at {draft : PromptDraft F} {markers : List (Nat × Nat)} {selected : List Selected}
    {textIndex : Nat} {part : Value F} {original : List (Value F)}
    (found : Found draft markers selected) (held : draft.parts[textIndex]? = some part)
    (listed : elements part = .ok original) {marker : Selected} (member : marker ∈ selected)
    (own : marker.textIndex = textIndex) : ∃ element, original[marker.elementIndex]? = some element ∧
      elementRange element = .ok marker.range := by
  obtain ⟨other, others, element, placed, _, same, inside, read⟩ := found.each marker member
  rw [own, held] at placed
  cases placed
  rw [listed] at same
  cases same
  exact ⟨element, inside, read⟩

/-- The ranges of the selected markers of one text are the ones that were found there. -/
theorem mem_selectedRanges {draft : PromptDraft F} {markers : List (Nat × Nat)}
    {selected : List Selected} {textIndex : Nat} {part : Value F} {original : List (Value F)}
    (found : Found draft markers selected) (held : draft.parts[textIndex]? = some part)
    (listed : elements part = .ok original) (range : Nat × Nat) :
    range ∈ selectedRanges markers textIndex original ↔
      ∃ marker ∈ selected, marker.textIndex = textIndex ∧ marker.range.pair = range := by
  unfold selectedRanges
  rw [List.mem_filterMap, ← found.identities]
  constructor
  · rintro ⟨identity, listedIdentity, same⟩
    obtain ⟨marker, member, rfl⟩ := List.mem_map.mp listedIdentity
    split at same
    · rename_i own
      obtain ⟨element, inside, read⟩ := found.at held listed member own
      have placed : original[marker.identity.2]? = some element := inside
      rw [placed, Option.map_some, read] at same
      exact ⟨marker, member, own, Option.some.inj same⟩
    · cases same
  · rintro ⟨marker, member, own, rfl⟩
    obtain ⟨element, inside, read⟩ := found.at held listed member own
    have placed : original[marker.identity.2]? = some element := inside
    have here : marker.identity.1 = textIndex := own
    refine ⟨marker.identity, List.mem_map_of_mem member, ?_⟩
    rw [if_pos here, placed, Option.map_some, read]
    rfl

theorem removeTargets_settles {draft updated : PromptDraft F} {markers : List (Nat × Nat)}
    {selected : List Selected} {textIndex : Nat} {part : Value F}
    (found : Found draft markers selected) (selects : textIndex ∈ markers.map (·.1))
    (held : draft.parts[textIndex]? = some part) (same : updated.parts[textIndex]? = some part)
    (before : draft.validate = .ok ()) (valid : updated.validate = .ok ()) :
    Settles (removeTargets draft selected updated textIndex) fun after =>
      after.validate = .ok () ∧ ∃ part', after.parts = updated.parts.set textIndex part' ∧
        MarkersRemoved markers textIndex part part' := by
  have kind : kindOf part = some "text" := by
    rw [← found.identities, List.map_map] at selects
    obtain ⟨marker, listed, own⟩ := List.mem_map.mp selects
    obtain ⟨other, _, _, placed, kind, _⟩ := found.each marker listed
    have place : marker.textIndex = textIndex := own
    rw [place, held] at placed
    rw [Option.some.inj placed]
    exact kind
  obtain ⟨text, original, whole⟩ := textPart_of_validate before (List.mem_of_getElem? held) kind
  unfold removeTargets
  rw [held, orPanic, ok_bind, whole.listed, ok_bind, same, orPanic, ok_bind, found.identities]
  obtain ⟨value, typed, _⟩ := Option.bind_eq_some_iff.mp kind
  obtain ⟨opened, written⟩ := Value.set_of_get typed "text_elements"
    (.array (retainedElements textIndex markers original))
  have read := Value.get_set written
  rw [written, orPanic, ok_bind]
  apply settles_refuseWhen_bind
  intro clear
  have member_iff : ∀ range, range ∈ ((selected.filter fun marker =>
      marker.textIndex = textIndex).map (·.range)).insertionSort ByteRange.Le ↔
      ∃ marker ∈ selected, marker.textIndex = textIndex ∧ marker.range = range := by
    intro range
    simp [List.mem_insertionSort, and_assoc]
  have apart := apart_of_not_overlapping (fun range listed => by
    obtain ⟨marker, member, own, rfl⟩ := (member_iff range).mp listed
    obtain ⟨element, _, read⟩ := found.at held whole.listed member own
    exact (elementRange_eq_ok.mp read).2.2) (by simpa using clear)
  have inside : textIndex < updated.parts.length := (List.getElem?_eq_some_iff.mp same).1
  have started : TextPart opened text (retainedElements textIndex markers original) := by
    refine ⟨?_, ?_, ?_, fun marker member => whole.valid marker (mem_retained member)⟩
    · unfold kindOf
      rw [read, if_neg (by decide)]
      exact kind
    · unfold textOf
      rw [read, if_neg (by decide)]
      exact whole.holds
    · unfold elements
      rw [read, if_pos rfl]
  have pairs : ∀ range, range ∈ (((selected.filter fun marker =>
      marker.textIndex = textIndex).map (·.range)).insertionSort ByteRange.Le).map (·.pair) ↔
      range ∈ selectedRanges markers textIndex original := by
    intro range
    rw [mem_selectedRanges found held whole.listed, List.mem_map]
    constructor
    · rintro ⟨inner, listed, rfl⟩
      obtain ⟨marker, member, own, rfl⟩ := (member_iff inner).mp listed
      exact ⟨marker, member, own, rfl⟩
    · rintro ⟨marker, member, own, rfl⟩
      exact ⟨marker.range, (member_iff _).mpr ⟨marker, member, own, rfl⟩, rfl⟩
  refine (@removeRanges_settles F updated.parts textIndex part text
    (retainedElements textIndex markers original) _ _ inside apart ?_).mono ?_
  · refine ⟨validate_eq_ok.mpr ⟨?_, ?_⟩, opened, text, _, rfl, started, ⟨whole.holds, started.holds,
      ?_, _, started.listed, ?_⟩, ?_⟩
    · have inhabited := (validate_eq_ok.mp valid).1
      simpa using inhabited
    · intro other member
      rcases List.mem_or_eq_of_mem_set member with old | rfl
      · exact (validate_eq_ok.mp valid).2 other old
      · exact started.passes
    · intro name _ elements
      rw [read, if_neg elements]
    · apply List.forall₂_same.mpr
      intro marker member
      obtain ⟨chars, covers⟩ := started.valid marker member
      exact Keeps.refl covers
    · intro rest split
      rw [split, List.reverse_nil, List.append_nil]
  · intro after removing
    obtain ⟨part', text', left, stored, _, rewritten, removed⟩ := removing.current
    refine ⟨removing.valid, part', stored, text, original, whole, ?_, ?_⟩
    · intro marker listed own
      rw [← found.identities] at listed
      obtain ⟨selectedMarker, member, rfl⟩ := List.mem_map.mp listed
      obtain ⟨element, placed, _⟩ := found.at held whole.listed member own
      exact (List.getElem?_eq_some_iff.mp placed).1
    · have last := removed [] (by simp)
      rw [List.map_nil, keepOutside_nil] at last
      have ranges : text' = String.ofList
          (keepOutside (selectedRanges markers textIndex original) 0 text.toList) := by
        apply String.toList_injective
        rw [last, String.toList_ofList]
        apply keepOutside_congr
        intro place _ _
        simp only [pairs]
      rw [← ranges]
      exact rewritten

/-- The state of the loop over the texts. -/
structure Rewriting (draft : PromptDraft F) (markers : List (Nat × Nat)) (done : List Nat)
    (updated : PromptDraft F) : Prop where
  valid : updated.validate = .ok ()
  length : updated.parts.length = draft.parts.length
  each : ∀ index part part', draft.parts[index]? = some part → updated.parts[index]? = some part' →
    if index ∈ done then MarkersRemoved markers index part part' else part' = part

theorem mem_textIndices {markers : List (Nat × Nat)} {selected : List Selected} {index : Nat}
    (identities : selected.map (·.identity) = markers) :
    index ∈ textIndices selected ↔ index ∈ markers.map (·.1) := by
  unfold textIndices
  rw [List.mem_insertionSort, List.mem_dedup, ← identities, List.map_map]
  rfl

theorem textIndices_nodup (selected : List Selected) : (textIndices selected).Nodup := by
  unfold textIndices
  exact (List.perm_insertionSort _ _).nodup_iff.mpr (List.nodup_dedup _)

theorem removeEach_settles {draft : PromptDraft F} {markers : List (Nat × Nat)}
    {selected : List Selected} (valid : draft.validate = .ok ())
    (found : Found draft markers selected) :
    Settles ((textIndices selected).foldlM (removeTargets draft selected) draft)
      (Rewriting draft markers (textIndices selected)) := by
  apply settles_foldlM (Rewriting draft markers)
  · intro done updated index begins rewriting
    have distinct := (textIndices_nodup selected).sublist begins.sublist
    have fresh : index ∉ done := (List.nodup_append.mp distinct).2.2 |> fun apart listed =>
      apart index listed index (List.mem_singleton_self _) rfl
    have listed : index ∈ textIndices selected := begins.subset (by simp)
    have selects := (mem_textIndices found.identities).mp listed
    obtain ⟨part, held⟩ : ∃ part, draft.parts[index]? = some part := by
      rw [← found.identities, List.map_map] at selects
      obtain ⟨marker, member, own⟩ := List.mem_map.mp selects
      obtain ⟨part, _, _, placed, _⟩ := found.each marker member
      have place : marker.textIndex = index := own
      exact ⟨part, place ▸ placed⟩
    have inside : index < updated.parts.length := by
      rw [rewriting.length]
      exact (List.getElem?_eq_some_iff.mp held).1
    have same : updated.parts[index]? = some part := by
      have current := List.getElem?_eq_getElem inside
      have kept := rewriting.each index part _ held current
      rw [if_neg fresh] at kept
      rw [current, kept]
    apply (removeTargets_settles found selects held same valid rewriting.valid).mono
    rintro after ⟨passed, part', stored, removed⟩
    refine ⟨passed, ?_, ?_⟩
    · rw [stored, List.length_set, rewriting.length]
    · intro other before behind first second
      rw [stored] at second
      by_cases own : other = index
      · subst other
        rw [List.getElem?_set_self inside] at second
        rw [held] at first
        cases first
        cases second
        rw [if_pos (by simp)]
        exact removed
      · rw [List.getElem?_set_ne fun equal => own equal.symm] at second
        have earlier := rewriting.each other before behind first second
        by_cases listedEarlier : other ∈ done
        · rw [if_pos listedEarlier] at earlier
          rw [if_pos (List.mem_append_left _ listedEarlier)]
          exact earlier
        · rw [if_neg listedEarlier] at earlier
          rw [if_neg (by simp [listedEarlier, own])]
          exact earlier
  · exact ⟨valid, rfl, fun index part part' held same => by
      rw [if_neg List.not_mem_nil]
      exact Option.some.inj (same.symm.trans held)⟩

theorem withoutBoundPart_settles {draft : PromptDraft F} {partIndex : Nat}
    {markers : List (Nat × Nat)} (valid : draft.validate = .ok ()) :
    Settles (draft.withoutBoundPart partIndex markers) fun after =>
      after.validate = .ok () ∧ BoundRemoved draft after partIndex markers := by
  unfold PromptDraft.withoutBoundPart
  rw [valid, ok_bind]
  apply settles_refuseWhen_bind
  intro bound
  apply (selectMarkers_settles valid markers).bind
  intro selected found
  apply (removeEach_settles valid found).bind
  intro updated rewriting
  unfold PromptDraft.withoutPart
  apply settles_refuseWhen_bind
  intro inside
  apply settles_refuseWhen_bind
  intro many
  rw [Nat.not_le] at inside
  have placed := List.getElem?_eq_getElem (rewriting.length ▸ inside)
  rw [placed, Option.all_some, decide_eq_true_eq, kindOf_eq] at bound
  refine settles_ok ⟨validate_eq_ok.mpr ⟨?_, ?_⟩, ⟨updated.parts, rewriting.length, rfl,
    ⟨_, placed, bound⟩, ?_⟩⟩
  · intro empty
    have length := congrArg List.length empty
    rw [List.length_eraseIdx_of_lt inside, List.length_nil] at length
    omega
  · intro part listed
    exact (validate_eq_ok.mp rewriting.valid).2 part (List.mem_of_mem_eraseIdx listed)
  · intro index part part' first second
    have each := rewriting.each index part part' first second
    simp only [mem_textIndices found.identities] at each
    exact each

/-- What a Rust string can be: at most `isize::MAX` bytes. -/
def Held (text : String) : Prop := byteLength text.toList < 2 ^ 63

theorem assign_settles {draft : PromptDraft F} {updated : Except PromptFault (PromptDraft F)}
    {post : PromptDraft F → Prop} (settles : Settles updated post) :
    (∃ message, assign draft updated = (.error (.refused message), draft)) ∨
      ∃ after, assign draft updated = (.ok (), after) ∧ post after := by
  match updated, settles with
  | .ok after, settles => exact .inr ⟨after, rfl, settles⟩
  | .error (.refused message), _ => exact .inl ⟨message, rfl⟩

/-- Each edit of a valid draft is refused and changes nothing, or leaves a valid draft in which
exactly the requested text is replaced or removed and every marker that stays covers its text. -/
theorem prompt_edits_keep_markers (draft : PromptDraft F) (valid : draft.validate = .ok ())
    (held : ∀ part ∈ draft.parts, ∀ text, textOf part = some text → Held text) :
    (∀ partIndex range replacement, Held replacement →
      (∃ message, draft.replaceText partIndex range replacement =
        (.error (.refused message), draft)) ∨
      ∃ after, draft.replaceText partIndex range replacement = (.ok (), after) ∧
        after.validate = .ok () ∧ TextReplaced draft after partIndex range replacement) ∧
    ∀ partIndex markers,
      (∃ message, draft.removeBoundPart partIndex markers = (.error (.refused message), draft)) ∨
      ∃ after, draft.removeBoundPart partIndex markers = (.ok (), after) ∧
        after.validate = .ok () ∧ BoundRemoved draft after partIndex markers := by
  constructor
  · intro partIndex range replacement fits
    apply assign_settles
    apply withText_settles valid
    intro part text markers found whole marker member old read
    obtain ⟨chars, covers⟩ := whole.valid marker member
    obtain ⟨other, _, _, same, cut⟩ := covered_eq_some.mp covers
    rw [read] at same
    cases same
    have bound := (slice_le cut).2
    have text := held part (List.mem_of_getElem? found) text whole.holds
    unfold Held at fits text
    omega
  · intro partIndex markers
    exact assign_settles (withoutBoundPart_settles valid)

def sampleMarker : Value Unit :=
  .object [("byteRange", .object [("start", .integer 5), ("end", .integer 10)])]

def sampleDraft : PromptDraft Unit :=
  ⟨[.object [("type", .string "text"), ("text", .string "für @file."),
      ("text_elements", .array [sampleMarker])],
    .object [("type", .string "mention"), ("name", .string "file"), ("path", .string "/file")]]⟩

theorem sampleDraft_held : ∀ part ∈ sampleDraft.parts, ∀ text, textOf part = some text →
    Held text := by
  intro part listed text found
  simp only [sampleDraft, List.mem_cons, List.not_mem_nil, or_false] at listed
  rcases listed with rfl | rfl
  · obtain rfl : "für @file." = text := Option.some.inj found
    unfold Held
    decide
  · cases found

/-- The word before the marker is replaced, and the marker is removed with its input. -/
theorem sample_edits :
    (∃ after, sampleDraft.replaceText 0 ⟨0, 4⟩ "for" = (.ok (), after) ∧ after.validate = .ok () ∧
      TextReplaced sampleDraft after 0 ⟨0, 4⟩ "for") ∧
    ∃ after, sampleDraft.removeBoundPart 1 [(0, 0)] = (.ok (), after) ∧ after.validate = .ok () ∧
      BoundRemoved sampleDraft after 1 [(0, 0)] := by
  have replaced : (sampleDraft.replaceText 0 ⟨0, 4⟩ "for").1 = .ok () := by decide +kernel
  have removed : (sampleDraft.removeBoundPart 1 [(0, 0)]).1 = .ok () := by decide +kernel
  obtain ⟨replace, remove⟩ :=
    prompt_edits_keep_markers sampleDraft (by decide +kernel) sampleDraft_held
  constructor
  · rcases replace 0 ⟨0, 4⟩ "for" (show byteLength "for".toList < 2 ^ 63 by decide) with
      ⟨message, refused⟩ | done
    · rw [refused] at replaced
      cases replaced
    · exact done
  · rcases remove 1 [(0, 0)] with ⟨message, refused⟩ | done
    · rw [refused] at removed
      cases removed
    · exact done

end Decodex.Guarantees.PromptEditing
