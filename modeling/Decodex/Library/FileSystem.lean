import Mathlib.Data.List.Basic
import Mathlib.Data.List.Nodup
import Mathlib.Algebra.BigOperators.Group.Finset.Basic
import Mathlib.Algebra.Order.Ring.Nat
import Mathlib.Tactic.Common

/-!
# Names, inodes and link counts

A volume maps names to inodes. The link count of an inode is the number of names that map to
it, so it is never wrong; an inode without a name is lost. Names are of any type. Each call
is one atomic step and fails without effect. Nothing here names a particular program.
-/
namespace Decodex.Library

/-- The owner, the mode bits and the bytes of a regular file. -/
structure Inode where
  owner : Nat
  mode : Nat
  content : List UInt8
  deriving DecidableEq, Repr

/-- What `fstat` and a whole read say of a file. -/
structure FileStatus extends Inode where
  links : Nat
  deriving DecidableEq, Repr

/-- Why a call fails. -/
inductive Errno where
  | exists | missing
  deriving DecidableEq, Repr

/-- The names in the order of their creation, each with the number of its inode. -/
structure Volume (κ : Type) where
  entries : List (κ × Nat)
  inodes : List Inode
  distinct : (entries.map (·.1)).Nodup
  allocated : ∀ entry ∈ entries, entry.2 < inodes.length

namespace Volume

variable {κ : Type} [DecidableEq κ] {v after : Volume κ} {name other : κ} {number : Nat}

def empty : Volume κ := ⟨[], [], by simp, by simp⟩

def names (v : Volume κ) : List κ := v.entries.map (·.1)

def linkCount (v : Volume κ) (number : Nat) : Nat := v.entries.countP (·.2 == number)

def inode (v : Volume κ) (number : Nat) : Inode := v.inodes.getD number ⟨0, 0, []⟩

def status (v : Volume κ) (number : Nat) : FileStatus where
  toInode := v.inode number
  links := v.linkCount number

/-- The inode that opening a name reaches. -/
def lookup (v : Volume κ) (name : κ) : Option Nat :=
  (v.entries.find? fun entry => decide (entry.1 = name)).map (·.2)

def stat (v : Volume κ) (name : κ) : Option FileStatus := (v.lookup name).map v.status

/-- The bytes of all names together: a file counts once for each of its names. -/
def used (v : Volume κ) : Nat := (v.entries.map fun entry => (v.inode entry.2).content.length).sum

/-- No file has two names. -/
def Unshared (v : Volume κ) : Prop := (v.entries.map (·.2)).Nodup

/-- A new inode, without a name yet. -/
def allocate (v : Volume κ) (inode : Inode) : Volume κ where
  entries := v.entries
  inodes := v.inodes ++ [inode]
  distinct := v.distinct
  allocated := fun entry member => by
    rw [List.length_append]
    exact Nat.lt_add_right _ (v.allocated entry member)

/-- One more name for an inode. -/
def addName (v : Volume κ) (name : κ) (number : Nat) : Volume κ :=
  if fits : name ∉ v.names ∧ number < v.inodes.length then
    { entries := v.entries ++ [(name, number)]
      inodes := v.inodes
      distinct := by
        rw [List.map_append, List.nodup_append]
        refine ⟨v.distinct, by simp, fun first member last single same => ?_⟩
        simp only [List.map_cons, List.map_nil, List.mem_singleton] at single
        exact fits.1 (by rwa [← single, ← same])
      allocated := fun entry member => by
        rcases List.mem_append.mp member with member | member
        · exact v.allocated entry member
        · rw [List.mem_singleton.mp member]
          exact fits.2 }
  else v

def remove (v : Volume κ) (name : κ) : Volume κ where
  entries := v.entries.filter fun entry => !decide (entry.1 = name)
  inodes := v.inodes
  distinct := v.distinct.sublist (List.filter_sublist.map _)
  allocated := fun entry member => v.allocated entry (List.mem_of_mem_filter member)

/-- `openat` with `O_CREAT | O_EXCL`: a new empty file, and its inode. -/
def create (v : Volume κ) (name : κ) (owner mode : Nat) : Except Errno (Nat × Volume κ) :=
  if name ∈ v.names then .error .exists
  else .ok (v.inodes.length, (v.allocate ⟨owner, mode, []⟩).addName name v.inodes.length)

/-- `pwrite` at an offset within the file. -/
def pwrite (v : Volume κ) (number offset : Nat) (bytes : List UInt8) : Volume κ where
  entries := v.entries
  inodes := v.inodes.modify number fun inode =>
    { inode with
      content := inode.content.take offset ++ bytes ++ inode.content.drop (offset + bytes.length) }
  distinct := v.distinct
  allocated := fun entry member => by
    rw [List.length_modify]
    exact v.allocated entry member

/-- `linkat`: a second name for a file, never over an existing name. -/
def link (v : Volume κ) (name other : κ) : Except Errno (Volume κ) :=
  match v.lookup name with
  | none => .error .missing
  | some number => if other ∈ v.names then .error .exists else .ok (v.addName other number)

/-- `unlinkat`. -/
def unlink (v : Volume κ) (name : κ) : Except Errno (Volume κ) :=
  if name ∈ v.names then .ok (v.remove name) else .error .missing

/-- `renameat`: the file takes the place of the one that had the other name. Two names of one
file stay as they are. -/
def rename (v : Volume κ) (name other : κ) : Except Errno (Volume κ) :=
  match v.lookup name with
  | none => .error .missing
  | some number =>
    if v.lookup other = some number then .ok v
    else do
      let linked ← (v.remove other).link name other
      .ok (linked.remove name)

theorem lookup_eq_some : v.lookup name = some number ↔ (name, number) ∈ v.entries := by
  unfold lookup
  rw [Option.map_eq_some_iff]
  constructor
  · rintro ⟨entry, found, rfl⟩
    have named : entry.1 = name := by simpa using List.find?_some found
    rw [← named]
    exact List.mem_of_find?_eq_some found
  · intro member
    cases found : v.entries.find? fun entry => decide (entry.1 = name) with
    | none =>
      have := List.find?_eq_none.mp found _ member
      simp at this
    | some entry =>
      have named : entry.1 = name := by simpa using List.find?_some found
      have same := List.inj_on_of_nodup_map v.distinct (List.mem_of_find?_eq_some found) member named
      exact ⟨entry, rfl, by rw [same]⟩

theorem mem_names : name ∈ v.names ↔ ∃ number, v.lookup name = some number := by
  constructor
  · intro member
    obtain ⟨⟨held, number⟩, found, rfl⟩ := List.mem_map.mp member
    exact ⟨number, lookup_eq_some.mpr found⟩
  · rintro ⟨number, found⟩
    exact List.mem_map.mpr ⟨_, lookup_eq_some.mp found, rfl⟩

theorem lookup_eq_none : v.lookup name = none ↔ name ∉ v.names := by
  rw [mem_names, Option.eq_none_iff_forall_ne_some]
  simp

theorem lookup_lt (found : v.lookup name = some number) : number < v.inodes.length :=
  v.allocated _ (lookup_eq_some.mp found)

theorem stat_eq_some {found : FileStatus} :
    v.stat name = some found ↔ ∃ number, v.lookup name = some number ∧ v.status number = found := by
  unfold stat
  rw [Option.map_eq_some_iff]

theorem stat_eq_none : v.stat name = none ↔ name ∉ v.names := by
  unfold stat
  rw [Option.map_eq_none_iff, lookup_eq_none]

theorem addName_entries (absent : name ∉ v.names) (held : number < v.inodes.length) :
    (v.addName name number).entries = v.entries ++ [(name, number)] ∧
      (v.addName name number).inodes = v.inodes := by
  unfold addName
  rw [dif_pos ⟨absent, held⟩]
  exact ⟨rfl, rfl⟩

theorem lookup_addName (absent : name ∉ v.names) (held : number < v.inodes.length) :
    (v.addName name number).lookup other =
      if other = name then some number else v.lookup other := by
  apply Option.ext
  intro found
  rw [lookup_eq_some, (addName_entries absent held).1, List.mem_append, List.mem_singleton,
    Prod.mk.injEq, ← lookup_eq_some]
  split
  · rename_i same
    rw [same, lookup_eq_none.mpr absent]
    simp [eq_comm]
  · rename_i differs
    simp [differs]

theorem lookup_remove :
    (v.remove name).lookup other = if other = name then none else v.lookup other := by
  apply Option.ext
  intro found
  rw [lookup_eq_some]
  change _ ∈ v.entries.filter _ ↔ _
  rw [List.mem_filter, ← lookup_eq_some]
  split
  · rename_i same
    simp [same]
  · rename_i differs
    simp [differs]

/-- Removing a name takes one entry out. -/
theorem remove_perm (opened : v.lookup name = some number) :
    v.entries.Perm ((name, number) :: (v.remove name).entries) := by
  have nodup : v.entries.Nodup := List.Nodup.of_map _ v.distinct
  have held := lookup_eq_some.mp opened
  have rest : ∀ entry, entry ∈ (v.remove name).entries ↔ entry ∈ v.entries ∧ entry.1 ≠ name := by
    intro entry
    change entry ∈ v.entries.filter _ ↔ _
    simp [List.mem_filter]
  refine (List.perm_ext_iff_of_nodup nodup (List.nodup_cons.mpr ⟨?_, nodup.filter _⟩)).mpr ?_
  · intro member
    exact ((rest _).mp member).2 rfl
  · intro entry
    rw [List.mem_cons]
    refine Iff.trans ?_ (or_congr_right (rest entry)).symm
    constructor
    · intro member
      by_cases named : entry.1 = name
      · exact .inl (List.inj_on_of_nodup_map v.distinct member held named)
      · exact .inr ⟨member, named⟩
    · rintro (rfl | ⟨member, _⟩)
      · exact held
      · exact member

theorem remove_absent (absent : name ∉ v.names) : (v.remove name).entries = v.entries := by
  refine List.filter_eq_self.mpr fun entry member => ?_
  simp only [Bool.not_eq_true', decide_eq_false_iff_not]
  rintro rfl
  exact absent (List.mem_map.mpr ⟨entry, member, rfl⟩)

theorem linkCount_addName (absent : name ∉ v.names) (held : number < v.inodes.length)
    (counted : Nat) : (v.addName name number).linkCount counted =
      v.linkCount counted + if number = counted then 1 else 0 := by
  unfold linkCount
  rw [(addName_entries absent held).1, List.countP_append, List.countP_singleton]
  simp

theorem linkCount_remove (v : Volume κ) (name : κ) (counted : Nat) :
    (v.remove name).linkCount counted + (if v.lookup name = some counted then 1 else 0) =
      v.linkCount counted := by
  unfold linkCount
  cases opened : v.lookup name with
  | none => rw [remove_absent (lookup_eq_none.mp opened), if_neg nofun, Nat.add_zero]
  | some number =>
    rw [(remove_perm opened).countP_eq, List.countP_cons]
    simp

/-- The names of a volume without shared files have link count one. -/
theorem Unshared.linkCount (unshared : v.Unshared) (found : v.lookup name = some number) :
    v.linkCount number = 1 := by
  have member : number ∈ v.entries.map (·.2) := List.mem_map.mpr ⟨_, lookup_eq_some.mp found, rfl⟩
  have once := List.count_eq_one_of_mem unshared member
  rwa [List.count, List.countP_map] at once

/-- A volume on which every name has link count one has no shared file. -/
theorem unshared_of_links (single : ∀ name found, v.stat name = some found → found.links = 1) :
    v.Unshared := by
  unfold Unshared
  rw [List.nodup_iff_count_le_one]
  intro number
  by_cases member : number ∈ v.entries.map (·.2)
  · obtain ⟨⟨name, _⟩, held, rfl⟩ := List.mem_map.mp member
    have once := single name _ (stat_eq_some.mpr ⟨_, lookup_eq_some.mpr held, rfl⟩)
    rw [List.count, List.countP_map]
    exact Nat.le_of_eq once
  · rw [List.count_eq_zero.mpr member]
    exact Nat.zero_le 1

theorem Unshared.lookup_inj (unshared : v.Unshared) (left : v.lookup name = some number)
    (right : v.lookup other = some number) : name = other := by
  have same := List.inj_on_of_nodup_map unshared (lookup_eq_some.mp left)
    (lookup_eq_some.mp right) rfl
  exact congrArg Prod.fst same

/-- The length of a file; a missing one has none. -/
def size (v : Volume κ) (name : κ) : Nat := ((v.stat name).map (·.content.length)).getD 0

theorem size_of_stat {found : FileStatus} (named : v.stat name = some found) :
    v.size name = found.content.length := by
  unfold size
  rw [named]
  rfl

/-- The used bytes are those of any names that contain all names of the volume. -/
theorem used_eq_sum {places : List κ} (nodup : places.Nodup)
    (covers : ∀ name ∈ v.names, name ∈ places) : v.used = (places.map v.size).sum := by
  have own : v.used = (v.names.map v.size).sum := by
    unfold used names
    rw [List.map_map]
    congr 1
    refine List.map_congr_left fun entry member => ?_
    exact (size_of_stat (stat_eq_some.mpr ⟨_, lookup_eq_some.mpr member, rfl⟩)).symm
  have distinct : v.names.Nodup := v.distinct
  rw [own, ← List.sum_toFinset _ distinct, ← List.sum_toFinset _ nodup]
  refine Finset.sum_subset (fun name member => ?_) fun name _ absent => ?_
  · exact List.mem_toFinset.mpr (covers name (List.mem_toFinset.mp member))
  · unfold size
    rw [stat_eq_none.mpr fun member => absent (List.mem_toFinset.mpr member)]
    rfl

theorem addName_status (absent : name ∉ v.names) (held : number < v.inodes.length) (found : Nat) :
    (v.addName name number).status found =
      ⟨v.inode found, v.linkCount found + if number = found then 1 else 0⟩ := by
  unfold status
  rw [linkCount_addName absent held, inode, (addName_entries absent held).2]
  rfl

omit [DecidableEq κ] in
theorem allocate_status (new : Inode) {number : Nat} (held : number < v.inodes.length) :
    (v.allocate new).status number = v.status number := by
  have same : (v.allocate new).inode number = v.inode number := by
    unfold inode allocate
    rw [List.getD_eq_getElem?_getD, List.getElem?_append_left held, ← List.getD_eq_getElem?_getD]
  unfold status
  rw [same]
  rfl

theorem create_spec {owner mode : Nat} (created : v.create name owner mode = .ok (number, after)) :
    v.stat name = none ∧ after.lookup name = some number ∧
      ∀ other, after.stat other =
        if other = name then some ⟨⟨owner, mode, []⟩, 1⟩ else v.stat other := by
  unfold create at created
  split at created
  · cases created
  · rename_i missing
    cases created
    have absent : name ∉ (v.allocate ⟨owner, mode, []⟩).names := missing
    have held : v.inodes.length < (v.allocate ⟨owner, mode, []⟩).inodes.length := by
      simp [allocate]
    refine ⟨stat_eq_none.mpr missing, ?_, fun other => ?_⟩
    · rw [lookup_addName absent held, if_pos rfl]
    · unfold stat
      rw [lookup_addName absent held]
      split
      · have fresh : (v.allocate ⟨owner, mode, []⟩).linkCount v.inodes.length = 0 := by
          refine List.countP_eq_zero.mpr fun entry member => ?_
          have := v.allocated entry member
          simp only [beq_iff_eq]
          omega
        rw [Option.map_some, addName_status absent held, fresh]
        simp [allocate, inode]
      · change Option.map _ (v.lookup other) = _
        refine Option.map_congr fun found opened => ?_
        have bound := lookup_lt (v := v) opened
        have differs : v.inodes.length ≠ found := by omega
        rw [addName_status absent held, if_neg differs]
        exact allocate_status _ bound

theorem remove_stat (unshared : v.Unshared) :
    (v.remove name).stat other = if other = name then none else v.stat other := by
  unfold stat
  rw [lookup_remove]
  split
  · rfl
  · rename_i differs
    refine Option.map_congr fun found reached => ?_
    have apart : v.lookup name ≠ some found := by
      intro opened
      exact differs (unshared.lookup_inj reached opened)
    have counted := linkCount_remove v name found
    rw [if_neg apart, Nat.add_zero] at counted
    unfold status
    rw [counted]
    rfl

omit [DecidableEq κ] in
theorem pwrite_inode (held : number < v.inodes.length) (offset : Nat) (bytes : List UInt8) :
    (v.pwrite number offset bytes).inode number =
      { v.inode number with
        content := (v.inode number).content.take offset ++ bytes ++
          (v.inode number).content.drop (offset + bytes.length) } := by
  simp [inode, pwrite, List.getD_eq_getElem?_getD, held]

theorem pwrite_stat (unshared : v.Unshared) (opened : v.lookup name = some number) (offset : Nat)
    (bytes : List UInt8) (other : κ) : (v.pwrite number offset bytes).stat other =
      if other = name then some ((v.pwrite number offset bytes).status number)
      else v.stat other := by
  unfold stat
  change Option.map _ (v.lookup other) = _
  split
  · rename_i same
    rw [same, opened]
    rfl
  · rename_i differs
    refine Option.map_congr fun found reached => ?_
    have apart : number ≠ found := by
      rintro rfl
      exact differs (unshared.lookup_inj reached opened)
    have same : (v.pwrite number offset bytes).inode found = v.inode found := by
      simp [inode, pwrite, List.getD_eq_getElem?_getD, apart]
    unfold status
    rw [same]
    rfl

/-- A file that has got a second name counts two links under its first. -/
theorem link_stat (unshared : v.Unshared) (linked : v.link name other = .ok after) :
    ∃ found, after.stat name = some found ∧ found.links = 2 := by
  unfold link at linked
  split at linked
  · cases linked
  · rename_i number opened
    split at linked
    · cases linked
    · rename_i absent
      cases linked
      have held := lookup_lt opened
      refine ⟨_, stat_eq_some.mpr ⟨number, ?_, rfl⟩, ?_⟩
      · rw [lookup_addName absent held, opened]
        exact ite_self _
      · rw [addName_status absent held, if_pos rfl, unshared.linkCount opened]

theorem link_names (linked : v.link name other = .ok after) :
    other ∉ v.names ∧ after.names = v.names ++ [other] := by
  unfold link at linked
  split at linked
  · cases linked
  · rename_i number opened
    split at linked
    · cases linked
    · rename_i absent
      cases linked
      refine ⟨absent, ?_⟩
      unfold names
      rw [(addName_entries absent (lookup_lt opened)).1, List.map_append]
      rfl

/-- The second name takes over when the first is removed. -/
theorem link_remove_stat (linked : v.link name other = .ok after)
    (query : κ) : (after.remove name).stat query =
      if query = other then v.stat name else if query = name then none else v.stat query := by
  unfold link at linked
  split at linked
  · cases linked
  · rename_i number opened
    split at linked
    · cases linked
    · rename_i absent
      cases linked
      have held := lookup_lt opened
      have apart : name ≠ other := by
        rintro rfl
        rw [lookup_eq_none.mpr absent] at opened
        cases opened
      have first : (v.addName other number).lookup name = some number := by
        rw [lookup_addName absent held, if_neg apart, opened]
      have same (found : Nat) : ((v.addName other number).remove name).status found =
          v.status found := by
        have counted := linkCount_remove (v.addName other number) name found
        rw [first, linkCount_addName absent held] at counted
        have one : ((v.addName other number).remove name).linkCount found = v.linkCount found := by
          simp only [Option.some.injEq] at counted
          omega
        unfold status
        rw [one]
        unfold inode
        change FileStatus.mk ((v.addName other number).inodes.getD found _) _ = _
        rw [(addName_entries absent held).2]
      unfold stat
      rw [lookup_remove, lookup_addName absent held]
      split
      · rename_i removed
        rw [removed, if_neg apart]
        simp
      · split
        · rw [opened, Option.map_some, Option.map_some, same]
        · exact Option.map_congr fun found _ => same found

theorem rename_stat (unshared : v.Unshared) (apart : name ≠ other)
    (renamed : v.rename name other = .ok after) (query : κ) : after.stat query =
      if query = other then v.stat name else if query = name then none else v.stat query := by
  unfold rename at renamed
  split at renamed
  · cases renamed
  · rename_i number opened
    split at renamed
    · rename_i same
      exact absurd (unshared.lookup_inj opened same) apart
    · cases moved : (v.remove other).link name other with
      | error errno =>
        rw [moved] at renamed
        cases renamed
      | ok linked =>
        rw [moved] at renamed
        cases renamed
        rw [link_remove_stat moved, remove_stat unshared, remove_stat unshared, if_neg apart]
        split
        · rfl
        · rfl

theorem remove_used (opened : v.lookup name = some number) :
    (v.remove name).used + (v.inode number).content.length = v.used := by
  unfold used
  rw [((remove_perm opened).map _).sum_nat, List.map_cons, List.sum_cons, Nat.add_comm]
  rfl

theorem remove_used_le : (v.remove name).used ≤ v.used := by
  cases opened : v.lookup name with
  | none =>
    unfold used
    rw [remove_absent (lookup_eq_none.mp opened)]
    exact Nat.le_refl _
  | some number =>
    have := remove_used opened
    omega

theorem addName_used (absent : name ∉ v.names) (held : number < v.inodes.length) :
    (v.addName name number).used = v.used + (v.inode number).content.length := by
  obtain ⟨entries, inodes⟩ := addName_entries absent held
  unfold used inode
  rw [entries, inodes, List.map_append, List.sum_append]
  rfl

theorem create_used {owner mode : Nat} (created : v.create name owner mode = .ok (number, after)) :
    after.used = v.used := by
  unfold create at created
  split at created
  · cases created
  · rename_i missing
    cases created
    have absent : name ∉ (v.allocate ⟨owner, mode, []⟩).names := missing
    have held : v.inodes.length < (v.allocate ⟨owner, mode, []⟩).inodes.length := by
      simp [allocate]
    have same : (v.allocate ⟨owner, mode, []⟩).used = v.used := by
      unfold used
      congr 1
      refine List.map_congr_left fun entry member => ?_
      have := congrArg (·.content.length) (allocate_status ⟨owner, mode, []⟩ (v.allocated _ member))
      exact this
    rw [addName_used absent held, same]
    simp [allocate, inode]

theorem link_remove_used (linked : v.link name other = .ok after) :
    (after.remove name).used = v.used := by
  unfold link at linked
  split at linked
  · cases linked
  · rename_i number opened
    split at linked
    · cases linked
    · rename_i absent
      cases linked
      have held := lookup_lt opened
      have apart : name ≠ other := by
        rintro rfl
        rw [lookup_eq_none.mpr absent] at opened
        cases opened
      have first : (v.addName other number).lookup name = some number := by
        rw [lookup_addName absent held, if_neg apart, opened]
      have freed := remove_used first
      rw [addName_used absent held] at freed
      have same : (v.addName other number).inode number = v.inode number := by
        unfold inode
        rw [(addName_entries absent held).2]
      rw [same] at freed
      omega

theorem rename_used_le (renamed : v.rename name other = .ok after) : after.used ≤ v.used := by
  unfold rename at renamed
  split at renamed
  · cases renamed
  · split at renamed
    · cases renamed
      exact Nat.le_refl _
    · cases moved : (v.remove other).link name other with
      | error errno =>
        rw [moved] at renamed
        cases renamed
      | ok linked =>
        rw [moved] at renamed
        cases renamed
        rw [link_remove_used moved]
        exact remove_used_le

theorem pwrite_used (unshared : v.Unshared) (opened : v.lookup name = some number)
    (offset : Nat) (bytes : List UInt8) :
    (v.pwrite number offset bytes).used + (v.inode number).content.length =
      v.used + ((v.pwrite number offset bytes).inode number).content.length := by
  have first : (v.pwrite number offset bytes).lookup name = some number := opened
  have before := remove_used opened
  have after := remove_used first
  have rest : ((v.pwrite number offset bytes).remove name).used = (v.remove name).used := by
    unfold used
    congr 1
    refine List.map_congr_left fun entry member => ?_
    obtain ⟨member, differs⟩ := List.mem_filter.mp member
    have apart : number ≠ entry.2 := by
      intro same
      refine absurd (unshared.lookup_inj (lookup_eq_some.mpr member) (same ▸ opened)) ?_
      simpa using differs
    change ((v.pwrite number offset bytes).inode entry.2).content.length = _
    simp [inode, pwrite, remove, List.getD_eq_getElem?_getD, apart]
  change _ + _ = _ at after
  omega

end Volume

end Decodex.Library
