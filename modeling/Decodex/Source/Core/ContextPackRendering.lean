import Decodex.Library.Utf8
import Decodex.Source.Core.ContextPacks

/-!
# Rendering a Context Pack

Source: crates/decodex-core/src/conversation.rs:752-807 (`render_model_input`), 1338-1354
(the cursor readers). As in the verifier, the cursor is carried as the bytes behind it.
-/
namespace Decodex.Source.Core.ContextPacks

open Decodex.Library Decodex.Library.Utf8

/-- The text of represented bytes; a character cut off at their end is dropped. -/
def representedText (represented : List UInt8) : Except ConversationError String :=
  match fromUtf8 represented with
  | .ok text => .ok text
  | .error error =>
    if error.errorLen = none then
      match fromUtf8 (represented.take error.validUpTo) with
      | .ok text => .ok text
      | .error _ => .error .invalidContextPolicy
    else .error .invalidContextPolicy

/-- Append a text to the output, behind a blank line when both have content. -/
def pushText (output text : String) : String :=
  if output ≠ "" ∧ text ≠ "" then output ++ "\n\n" ++ text else output ++ text

/-- The frame loop of `render_model_input`; the result is what the cursor left behind and the
output. -/
def renderFrames : Nat → List ContextSourceManifest → List UInt8 → String →
    Except ConversationError (List UInt8 × String)
  | _, [], bytes, output => .ok (bytes, output)
  | position, source :: sources, bytes, output =>
    if source.includedByteLength = 0 then renderFrames (position + 1) sources bytes output
    else
      match readBigEndian 2 bytes with
      | none => .error .invalidContextPolicy
      | some (encodedPosition, bytes) =>
        match readBigEndian 4 bytes with
        | none => .error .invalidContextPolicy
        | some (length, bytes) =>
          if length > bytes.length then .error .invalidContextPolicy
          else if encodedPosition ≠ position ∨ length ≠ source.includedByteLength.toNat then
            .error .invalidContextPolicy
          else
            match representedText (bytes.take length) with
            | .error error => .error error
            | .ok text =>
              if text.toList.contains '\x00' then .error .invalidContextPolicy
              else renderFrames (position + 1) sources (bytes.drop length) (pushText output text)

/-- `ContextPack::render_model_input`. -/
def ContextPack.renderModelInput (digest : List UInt8 → BlobHash) (pack : ContextPack) :
    Except ConversationError String := do
  pack.verify digest
  let (rest, output) ← renderFrames 0 pack.sourceManifest (pack.bytes.drop encodedHeaderLength) ""
  if rest ≠ [] ∨ output = "" ∨ (utf8 output).length > pack.policy.maxBytes then
    .error .invalidContextPolicy
  else .ok output

end Decodex.Source.Core.ContextPacks
