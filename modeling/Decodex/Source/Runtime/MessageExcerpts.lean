import Decodex.Library.CharBoundary

/-!
# Recent-message excerpts

Source: crates/decodex-runtime/src/agent_message_history.rs:18-21,96-129 (`Message`, `select`) and
crates/decodex-runtime/src/agent_message_history/excerpts.rs. A text is the list of its characters.
A subtraction, an index or a slice that panics yields nothing. Lengths are unbounded, for the texts
are in memory. Left out are the paging of turns and the making of messages from native items.
-/
namespace Decodex.Source.Runtime.MessageExcerpts

open Decodex.Library

abbrev Text := List Char

structure Message where
  user : Bool
  text : Text
  deriving DecidableEq, Repr

structure Exchange where
  user : Text := []
  assistant : Text := []
  deriving DecidableEq, Repr

def omittedHistory : Text := "[Earlier exchanges omitted]\n\n".toList

def excerptMarker : Text := "\n[... excerpted ...]\n".toList

def blankLine : Text := "\n\n".toList

/-- `.join("\n\n")`. -/
def joinedTexts (texts : List Text) : Text := blankLine.intercalate texts

/-- `*field = if field.is_empty() { … } else { … }`. -/
def prepend (text field : Text) : Text := if field.isEmpty then text else text ++ blankLine ++ field

def Exchange.add (current : Exchange) (message : Message) : Exchange :=
  if message.user then { current with user := prepend message.text current.user }
  else { current with assistant := prepend message.text current.assistant }

/-- What follows the loop. -/
def finish (exchanges : List Exchange) (current : Exchange) : List Exchange :=
  if !current.user.isEmpty || !current.assistant.isEmpty then (exchanges ++ [current]).reverse
  else exchanges.reverse

/-- The loop of `select`, with its variables. -/
def selectLoop (exchanges : List Exchange) (current : Exchange) (answered : Nat) :
    List Message → List Exchange
  | [] => finish exchanges current
  | message :: rest =>
    if !message.user && !current.user.isEmpty then
      let answered := answered + if current.assistant.isEmpty then 0 else 1
      if answered = 8 then finish (exchanges ++ [current]) {}
      else selectLoop (exchanges ++ [current]) (Exchange.add {} message) answered rest
    else selectLoop exchanges (current.add message) answered rest

/-- `select`: the messages are newest first. -/
def select (messages : List Message) : List Exchange := selectLoop [] {} 0 messages

/-- `left - right`. -/
def checkedSub (left right : Nat) : Option Nat := if right ≤ left then some (left - right) else none

/-- `excerpt`. -/
def excerpt (text : Text) (maxBytes : Nat) : Option Text :=
  if byteLength text ≤ maxBytes then some text
  else
    match checkedSub maxBytes (byteLength excerptMarker) with
    | none => (splitAtByte (floorBoundary text maxBytes) text).map (·.1)
    | some contentBytes => do
      let half ← checkedSub contentBytes (contentBytes / 2)
      let start ← checkedSub (byteLength text) half
      let head ← splitAtByte (floorBoundary text (contentBytes / 2)) text
      let tail ← splitAtByte (ceilBoundary start text) text
      some (head.1 ++ excerptMarker ++ tail.2)

/-- `format!("{label}: {text}")`. -/
def labelled (label text : Text) : Text := label ++ ": ".toList ++ text

/-- `Exchange::fields`. -/
def Exchange.fields (exchange : Exchange) : List (Text × Text) :=
  [(if exchange.assistant.isEmpty then "Pending user request".toList else "User".toList,
      exchange.user),
    ("Assistant".toList, exchange.assistant)].filter fun field => !field.2.isEmpty

def Exchange.block (exchange : Exchange) : Text :=
  joinedTexts (exchange.fields.map fun field => labelled field.1 field.2)

/-- The loop that drops the oldest exchanges; at most `left` more may go. -/
def dropOldest (maxBytes : Nat) (blocks : List Text) : Nat → Nat → Nat → Option (Nat × Nat)
  | 0, start, bytes => do
    let _ ← checkedSub maxBytes (byteLength omittedHistory)
    some (start, bytes)
  | left + 1, start, bytes => do
    let limit ← checkedSub maxBytes (byteLength omittedHistory)
    if limit < bytes then do
      let block ← blocks[start]?
      let bytes ← checkedSub bytes (byteLength block + 2)
      dropOldest maxBytes blocks left (start + 1) bytes
    else some (start, bytes)

/-- The loop over the fields, with the bytes that remain for their texts. -/
def excerptFields : Nat → List (Text × Text) → Option (List Text)
  | _, [] => some []
  | remaining, (label, text) :: rest => do
    let share := remaining / (rest.length + 1)
    let reserved := (rest.map fun field => min (byteLength field.2) share).sum
    let limit ← checkedSub remaining reserved
    let cut ← excerpt text limit
    let remaining ← checkedSub remaining (byteLength cut)
    let later ← excerptFields remaining rest
    some (labelled label cut :: later)

/-- The bytes of labels and of what stands between fields. -/
def overhead (fields : List (Text × Text)) : Option Nat := do
  let gaps ← checkedSub fields.length 1
  some ((fields.map fun field => byteLength field.1 + 2).sum + 2 * gaps)

/-- The last part of `render_budget`: every field is cut to its share. -/
def renderFields (budget : Nat) (fields : List (Text × Text)) : Option Text := do
  let overhead ← overhead fields
  let excerpts ← excerptFields (budget - overhead) fields
  some (joinedTexts excerpts)

/-- How many of the newest exchanges are never dropped. -/
def retained (exchanges : List Exchange) : Nat :=
  if (exchanges.getLast?.map (·.assistant.isEmpty)).getD false then 2 else 1

def renderFrom (exchanges : List Exchange) (maxBytes start bytes : Nat) : Option Text := do
  let omission := if 0 < start then omittedHistory else []
  let budget ← checkedSub maxBytes (byteLength omission)
  if bytes ≤ budget then
    some (omission ++ joinedTexts ((exchanges.map Exchange.block).drop start))
  else do
    let excerpts ← renderFields budget ((exchanges.drop start).flatMap Exchange.fields)
    some (omission ++ excerpts)

/-- `render_budget`. -/
def renderBudget (exchanges : List Exchange) (maxBytes : Nat) : Option Text :=
  if exchanges.isEmpty then some []
  else do
    let blocks := exchanges.map Exchange.block
    let gaps ← checkedSub blocks.length 1
    let bytes := (blocks.map byteLength).sum + 2 * gaps
    if bytes ≤ maxBytes then some (joinedTexts blocks)
    else do
      let oldestRetained := exchanges.length - retained exchanges
      let (start, bytes) ← dropOldest maxBytes blocks oldestRetained 0 bytes
      renderFrom exchanges maxBytes start bytes

example : (renderBudget (select [⟨true, "b".toList⟩, ⟨false, "a".toList⟩]) 128).map String.ofList =
    some "Assistant: a\n\nPending user request: b" := by
  decide +kernel

end Decodex.Source.Runtime.MessageExcerpts
