import Mathlib.Data.List.Dedup
import Mathlib.Data.List.Sort
import Decodex.Library.CharBoundary
import Decodex.Library.Except
import Decodex.Library.JsonValue

/-!
# Editing of canonical input

Source: crates/decodex-protocol/src/agent_prompt_draft.rs:23-276 (`PromptDraft`), 473-498
(`elements`, `element_range`). A method that takes `&mut self` gives its result and the draft as
it stands after it. Arithmetic on `usize` and the index operators panic where the source would.
`validate_native_input` and `fingerprint` belong to the prompt edits.
-/
namespace Decodex.Source.Core

open Decodex.Library

/-- A refusal with its text, or a panic. -/
inductive PromptFault where
  | refused (message : String)
  | panicked
  deriving DecidableEq, Repr

variable {F : Type}

/-- `PromptDraft(Vec<Value>)`. -/
structure PromptDraft (F : Type) where
  parts : List (Value F)

/-- `Range<usize>`. -/
structure ByteRange where
  start : Nat
  stop : Nat
  deriving DecidableEq, Repr

def ByteRange.pair (range : ByteRange) : Nat × Nat := (range.start, range.stop)

/-- `Range::len`. -/
def ByteRange.len (range : ByteRange) : Nat := range.stop - range.start

/-- `str::get` of a range, with what stands before and behind it. -/
def ByteRange.cut (range : ByteRange) (text : String) : Option (List Char × List Char × List Char) :=
  slice range.start range.stop text.toList

/-- `ok_or`. -/
def okOr {α : Type} (found : Option α) (message : String) : Except PromptFault α :=
  match found with
  | some value => .ok value
  | none => .error (.refused message)

/-- An index or a write that panics where there is nothing. -/
def orPanic {α : Type} (found : Option α) : Except PromptFault α :=
  match found with
  | some value => .ok value
  | none => .error .panicked

def refuseWhen (condition : Prop) [Decidable condition] (message : String) :
    Except PromptFault Unit :=
  if condition then .error (.refused message) else .ok ()

/-- A sum or a difference of `usize`. -/
def checkedShift (offset removed added : Nat) : Except PromptFault Nat :=
  if offset < removed ∨ 2 ^ 64 ≤ offset - removed + added then .error .panicked
  else .ok (offset - removed + added)

def kindOf (part : Value F) : Option String := (part.get "type").bind (·.asStr)

def textOf (part : Value F) : Option String := (part.get "text").bind (·.asStr)

def elements (part : Value F) : Except PromptFault (List (Value F)) :=
  match part.get "text_elements" with
  | none => .ok []
  | some (.array elements) => .ok elements
  | some _ => .error (.refused "Text markers are invalid")

/-- One end of a marker. -/
def elementOffset (element : Value F) (name : String) : Except PromptFault Nat :=
  okOr (((element.get "byteRange").bind (·.get name)).bind (·.asU64)) "Text marker offset is invalid"

def elementRange (element : Value F) : Except PromptFault ByteRange := do
  let start ← elementOffset element "start"
  let stop ← elementOffset element "end"
  refuseWhen (stop < start) "Text marker range is reversed"
  .ok ⟨start, stop⟩

/-- The check of one marker. -/
def validateElement (text : String) (element : Value F) : Except PromptFault Unit := do
  let range ← elementRange element
  refuseWhen ((range.cut text).isNone = true) "Text marker is outside a UTF-8 boundary"

def validateText (part : Value F) : Except PromptFault Unit := do
  let text ← okOr (textOf part) "Input text is missing"
  let markers ← elements part
  markers.forM (validateElement text)

def validatePart (part : Value F) : Except PromptFault Unit := do
  let kind ← okOr (kindOf part) "Input type is missing"
  if kind = "text" then validateText part else .ok ()

def PromptDraft.validate (draft : PromptDraft F) : Except PromptFault Unit := do
  refuseWhen (draft.parts.isEmpty = true) "Prompt has no input parts"
  draft.parts.forM validatePart

/-- `marker["byteRange"][name] = Value::from(offset)`. -/
def setOffset (marker : Value F) (name : String) (offset : Nat) : Except PromptFault (Value F) := do
  let range ← orPanic ((marker.member "byteRange").set name (.integer offset))
  orPanic (marker.set "byteRange" range)

/-- One round of the marker loop of `replace_text`. -/
def moveMarker (range : ByteRange) (added : Nat) (marker : Value F) :
    Except PromptFault (Value F) := do
  let old ← elementRange marker
  refuseWhen ((range.start < old.stop ∧ old.start < range.stop) ∨
      (range.stop ≤ range.start ∧ old.start < range.start ∧ range.start < old.stop))
    "Remove the bound marker explicitly before editing it"
  if range.stop ≤ old.start then do
    let start ← checkedShift old.start range.len added
    let stop ← checkedShift old.stop range.len added
    let marker ← setOffset marker "start" start
    setOffset marker "end" stop
  else .ok marker

/-- The markers of a part, moved where there are any. -/
def moveMarkers (range : ByteRange) (added : Nat) (part : Value F) : Except PromptFault (Value F) :=
  match part.get "text_elements" with
  | some (.array markers) => do
    let moved ← markers.mapM (moveMarker range added)
    orPanic (part.set "text_elements" (.array moved))
  | _ => .ok part

/-- `String::replace_range`. -/
def replaceRange (text : String) (range : ByteRange) (replacement : String) :
    Except PromptFault String :=
  match range.cut text with
  | some (before, _, behind) => .ok (String.ofList (before ++ (replacement.toList ++ behind)))
  | none => .error .panicked

/-- The part as `replace_text` leaves it. -/
def editedPart (part : Value F) (range : ByteRange) (replacement : String) :
    Except PromptFault (Value F) := do
  refuseWhen (kindOf part ≠ some "text") "Input part is not text"
  let text ← okOr (part.member "text").asStr "Input text is missing"
  refuseWhen ((range.cut text).isNone = true) "Edit is outside a UTF-8 boundary"
  let updated ← moveMarkers range (byteLength replacement.toList) part
  let text ← replaceRange text range replacement
  orPanic (updated.set "text" (.string text))

/-- The draft as `replace_text` leaves it where it succeeds. -/
def PromptDraft.withText (draft : PromptDraft F) (partIndex : Nat) (range : ByteRange)
    (replacement : String) : Except PromptFault (PromptDraft F) := do
  draft.validate
  let part ← okOr draft.parts[partIndex]? "Input part is missing"
  let updated ← editedPart part range replacement
  .ok ⟨draft.parts.set partIndex updated⟩

/-- A method on `&mut self` that assigns once, at its end. -/
def assign (draft : PromptDraft F) (updated : Except PromptFault (PromptDraft F)) :
    Except PromptFault Unit × PromptDraft F :=
  match updated with
  | .ok updated => (.ok (), updated)
  | .error fault => (.error fault, draft)

def PromptDraft.replaceText (draft : PromptDraft F) (partIndex : Nat) (range : ByteRange)
    (replacement : String) : Except PromptFault Unit × PromptDraft F :=
  assign draft (draft.withText partIndex range replacement)

/-- `remove_part`, on a local copy. -/
def PromptDraft.withoutPart (draft : PromptDraft F) (index : Nat) :
    Except PromptFault (PromptDraft F) := do
  refuseWhen (draft.parts.length ≤ index) "Input part is missing"
  refuseWhen (draft.parts.length = 1) "Keep at least one input part"
  .ok ⟨draft.parts.eraseIdx index⟩

/-- A selected marker: the part, its place among the markers there, and its range. -/
structure Selected where
  textIndex : Nat
  elementIndex : Nat
  range : ByteRange
  deriving DecidableEq, Repr

def Selected.identity (selected : Selected) : Nat × Nat :=
  (selected.textIndex, selected.elementIndex)

/-- One round of the loop over the markers of `remove_bound_part`. -/
def selectMarker (draft : PromptDraft F) (selected : List Selected) (marker : Nat × Nat) :
    Except PromptFault (List Selected) := do
  refuseWhen (marker ∈ selected.map (·.identity)) "Text marker was selected twice"
  let part ← okOr draft.parts[marker.1]? "Input part is missing"
  refuseWhen ((part.member "type").asStr ≠ some "text") "Selected marker does not belong to text"
  let markers ← elements part
  let element ← okOr markers[marker.2]? "Text marker is missing"
  let range ← elementRange element
  .ok (selected ++ [⟨marker.1, marker.2, range⟩])

/-- The order of `sort_by_key(|(_, range)| (range.start, range.end))`. -/
def ByteRange.Le (left right : ByteRange) : Prop :=
  left.start < right.start ∨ (left.start = right.start ∧ left.stop ≤ right.stop)

instance decidableByteRangeLe : DecidableRel ByteRange.Le :=
  fun _ _ => inferInstanceAs (Decidable (_ ∨ _))

/-- `windows(2)`: a range ends behind the start of the next one. -/
def overlapping : List ByteRange → Bool
  | first :: second :: rest => second.start < first.stop || overlapping (second :: rest)
  | _ => false

/-- The markers that are not selected. -/
def retainedElements (textIndex : Nat) (identities : List (Nat × Nat)) (original : List (Value F)) :
    List (Value F) :=
  (original.zipIdx.filter fun placed => decide ((textIndex, placed.2) ∉ identities)).map (·.1)

/-- One round of the loop over the texts of `remove_bound_part`. -/
def removeTargets (draft : PromptDraft F) (selected : List Selected) (updated : PromptDraft F)
    (textIndex : Nat) : Except PromptFault (PromptDraft F) := do
  let original ← orPanic draft.parts[textIndex]?
  let original ← elements original
  let part ← orPanic updated.parts[textIndex]?
  let part ← orPanic (part.set "text_elements"
    (.array (retainedElements textIndex (selected.map (·.identity)) original)))
  let ranges := ((selected.filter fun marker => marker.textIndex = textIndex).map (·.range)).insertionSort
    ByteRange.Le
  refuseWhen (overlapping ranges = true) "Selected text markers overlap"
  ranges.reverse.foldlM (fun updated range => updated.withText textIndex range "")
    ⟨updated.parts.set textIndex part⟩

/-- The keys of the `BTreeMap`, in their order. -/
def textIndices (selected : List Selected) : List Nat :=
  (selected.map (·.textIndex)).dedup.insertionSort (· ≤ ·)

/-- The draft as `remove_bound_part` leaves it where it succeeds. -/
def PromptDraft.withoutBoundPart (draft : PromptDraft F) (partIndex : Nat)
    (markers : List (Nat × Nat)) : Except PromptFault (PromptDraft F) := do
  draft.validate
  refuseWhen ((draft.parts[partIndex]?.all fun part =>
    decide ((part.member "type").asStr = some "text")) = true) "Select a non-text input to remove"
  let selected ← markers.foldlM (selectMarker draft) []
  let updated ← (textIndices selected).foldlM (removeTargets draft selected) draft
  updated.withoutPart partIndex

def PromptDraft.removeBoundPart (draft : PromptDraft F) (partIndex : Nat)
    (markers : List (Nat × Nat)) : Except PromptFault Unit × PromptDraft F :=
  assign draft (draft.withoutBoundPart partIndex markers)

end Decodex.Source.Core
