import Decodex.Library.Bytes
import Decodex.Library.Terminated

/-!
# Codex home of a macOS process

`decodex-runtime/src/shared_auth_coordinator.rs:36,113-125,312-316,504-557,628-695`: the reader of
the `KERN_PROCARGS2` bytes of a process and the classification of its Codex home.
`fs::canonicalize` is a parameter, a path is its bytes, and two paths are equal when their
components are. The `sysctl` calls that fetch the bytes are left out: what they return, or that
they failed, is the argument of `readMacosProcessAuthEnvironment`.
-/
namespace Decodex.Source.Runtime.MacosProcess

open Decodex.Library

inductive MacosProcessField (α : Type) where
  | value (found : α) | unavailable | vanished
  deriving DecidableEq, Repr

inductive MacosCodexHomeRelation where
  | shared | isolated
  deriving DecidableEq, Repr

structure MacosProcessAuthEnvironment where
  codexHome : Option (List UInt8)
  home : Option (List UInt8)
  deriving DecidableEq, Repr

def maxProcessHomeBytes : Nat := 4 * 1024

def ascii (chars : List Char) : List UInt8 := chars.map fun char => char.val.toUInt8

def codexHomeLabel : List UInt8 := ascii [ 'C', 'O', 'D', 'E', 'X', '_', 'H', 'O', 'M', 'E', '=']

def homeLabel : List UInt8 := ascii [ 'H', 'O', 'M', 'E', '=']

def stripLabel (label entry : List UInt8) : Option (List UInt8) :=
  if label.isPrefixOf entry then some (entry.drop label.length) else none

def skipMacosProcessEntry (bytes : List UInt8) : Option (List UInt8) := skipEntry 0 bytes

def skipNulPadding (bytes : List UInt8) : List UInt8 := skipPadding 0 bytes

/-- The loop over the arguments. -/
def skipArguments (argc : Nat) (bytes : List UInt8) : Option (List UInt8) :=
  skipEntries 0 argc bytes

/-- The body of the environment loop. -/
def noteEntry (found : MacosProcessAuthEnvironment) (entry : List UInt8) :
    Option MacosProcessAuthEnvironment :=
  match stripLabel codexHomeLabel entry with
  | some value =>
    if found.codexHome.isSome || maxProcessHomeBytes < value.length then none
    else some { found with codexHome := some value }
  | none =>
    match stripLabel homeLabel entry with
    | some value =>
      if found.home.isSome || maxProcessHomeBytes < value.length then none
      else some { found with home := some value }
    | none => some found

/-- What follows the entry in front and its terminator. -/
def behindEntry (bytes : List UInt8) : List UInt8 := (bytes.dropWhile (· ≠ 0)).drop 1

theorem behindEntry_padding_lt (bytes : List UInt8) (more : bytes ≠ []) :
    (skipNulPadding (behindEntry bytes)).length < bytes.length := by
  have dropped : (skipNulPadding (behindEntry bytes)).length ≤ (behindEntry bytes).length :=
    (List.dropWhile_suffix _).length_le
  have rest : (bytes.dropWhile (· ≠ 0)).length ≤ bytes.length :=
    (List.dropWhile_suffix _).length_le
  have some := List.length_pos_of_ne_nil more
  unfold behindEntry at dropped
  rw [List.length_drop] at dropped
  unfold behindEntry
  omega

def readEntries (found : MacosProcessAuthEnvironment) (bytes : List UInt8) :
    Option MacosProcessAuthEnvironment :=
  if _more : bytes = [] then some found
  else
    let entry := bytes.takeWhile (· ≠ 0)
    if entry = [] then some found
    else
      (noteEntry found entry).bind fun found =>
        readEntries found (skipNulPadding (behindEntry bytes))
termination_by bytes.length
decreasing_by exact behindEntry_padding_lt bytes _more

/-- `c_int::from_ne_bytes`, little-endian on every macOS target; a negative count is refused. -/
def readArgc (bytes : List UInt8) : Option Nat :=
  if bytes.length < 4 then none
  else
    let argc := fromLittleEndian (bytes.take 4)
    if argc < 2 ^ 31 then some argc else none

def parseMacosProcessAuthEnvironment (bytes : List UInt8) : Option MacosProcessAuthEnvironment :=
  (readArgc bytes).bind fun argc =>
    if 4096 < argc then none
    else
      (skipMacosProcessEntry (bytes.drop 4)).bind fun remaining =>
        (skipArguments argc (skipNulPadding remaining)).bind fun remaining =>
          readEntries ⟨none, none⟩ remaining

def readMacosProcessAuthEnvironment (returned : MacosProcessField (List UInt8)) :
    MacosProcessField MacosProcessAuthEnvironment :=
  match returned with
  | .value bytes =>
    match parseMacosProcessAuthEnvironment bytes with
    | some found => .value found
    | none => .unavailable
  | .unavailable => .unavailable
  | .vanished => .vanished

def slash : UInt8 := 47

def dot : UInt8 := 46

def isAbsolute (path : List UInt8) : Bool := path.head? = some slash

/-- `Path::components`: the root, a leading `.` of a relative path, and the names. -/
def pathComponents (path : List UInt8) : Bool × Bool × List (List UInt8) :=
  let pieces := path.splitOn slash
  (isAbsolute path, !isAbsolute path && pieces.head? = some [dot],
    pieces.filter fun piece => piece ≠ [] ∧ piece ≠ [dot])

def samePath (left right : List UInt8) : Bool := pathComponents left = pathComponents right

/-- `Path::join` of a name that is not absolute. -/
def joinPath (path name : List UInt8) : List UInt8 :=
  if path = [] ∨ path.getLast? = some slash then path ++ name else path ++ slash :: name

def codexDirectory : List UInt8 := ascii [ '.', 'c', 'o', 'd', 'e', 'x']

variable (canonicalize : List UInt8 → Option (List UInt8))

def classifyMacosCodexHome (processCodexHome sharedCodexHome : List UInt8) :
    MacosProcessField MacosCodexHomeRelation :=
  if !isAbsolute processCodexHome || !isAbsolute sharedCodexHome ||
      maxProcessHomeBytes < processCodexHome.length ||
      maxProcessHomeBytes < sharedCodexHome.length then .unavailable
  else if samePath processCodexHome sharedCodexHome then .value .shared
  else
    match canonicalize processCodexHome, canonicalize sharedCodexHome with
    | some processCodexHome, some sharedCodexHome =>
      .value (if samePath processCodexHome sharedCodexHome then .shared else .isolated)
    | _, _ => .unavailable

/-- The home the process works in: its own variable first, else the one under `HOME`. -/
def processCodexHome (environment : MacosProcessAuthEnvironment) : Option (List UInt8) :=
  (environment.codexHome.filter fun value => !value.isEmpty).orElse fun _ =>
    (environment.home.filter fun value => !value.isEmpty).map fun home =>
      joinPath home codexDirectory

/-- The relation the values of an environment stand for. -/
def relationOf (environment : MacosProcessAuthEnvironment) (sharedCodexHome : List UInt8) :
    MacosProcessField MacosCodexHomeRelation :=
  match processCodexHome environment with
  | some home => classifyMacosCodexHome canonicalize home sharedCodexHome
  | none => .unavailable

def observeMacosCodexHome (returned : MacosProcessField (List UInt8))
    (sharedCodexHome : List UInt8) : MacosProcessField MacosCodexHomeRelation :=
  match readMacosProcessAuthEnvironment returned with
  | .value environment => relationOf canonicalize environment sharedCodexHome
  | .unavailable => .unavailable
  | .vanished => .vanished

end Decodex.Source.Runtime.MacosProcess
