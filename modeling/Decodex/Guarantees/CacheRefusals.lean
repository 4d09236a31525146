import Mathlib.Data.Set.Function
import Decodex.Guarantees.CacheCrashes
import Decodex.Source.Gpui.ClientCachePublication

/-!
# A refused publication leaves the client cache usable

A publication that is refused before it evicts anything leaves the directory as it was. One that
is refused after it has evicted old generations in vain keeps the writer marker, so that the
cache cannot be opened any more.
-/
namespace Decodex.Guarantees.CacheRefusals

open Decodex.Library Decodex.Source.Core Decodex.Source.Gpui.ClientCache
open Decodex.Source.Gpui (WireText JsonCodec)
open Decodex.Guarantees.CacheCrashes (tableCodec tableCodec_roundTrips countableString
  countableWireText)

variable {host : ClientCacheHost} {limits : CacheLimits} {authority : CacheAuthority}
  {root : CacheRoot} {inputs : List ObjectInput} {resolutions : List UncertainResolution}

/-- The contents that a publication hashes: its inputs and the stored content objects. -/
def ContentUsed (root : CacheRoot) (inputs : List ObjectInput) (bytes : List UInt8) : Prop :=
  (∃ input ∈ inputs, input.bytes = bytes) ∨
  ∃ id directory digest, root.generations.lookup id = some directory ∧
    directory.objects.lookup digest = some bytes

/-- The cache opens as it did, and what it held is still there and verified. -/
structure StaysUsable (host : ClientCacheHost) (limits : CacheLimits) (authority : CacheAuthority)
    (allowSwitch : Bool) (before after : CacheRoot) : Prop where
  opens : openInner host limits authority allowSwitch after = .ok ()
  present : ∀ inventory, readInventory host limits before false = .ok inventory →
    ∃ later, readInventory host limits after false = .ok later ∧
      later.current = inventory.current ∧
      ∀ generation ∈ inventory.generations, generation ∈ later.generations

/-- The plan of the publication does not fit, even after the eviction of every generation besides
the current one, and there is such a generation. -/
def EvictsInVain (host : ClientCacheHost) (limits : CacheLimits) (authority : CacheAuthority)
    (inputs : List ObjectInput) (resolutions : List UncertainResolution) (root : CacheRoot) :
    Prop :=
  ∃ publication, preparePublication host limits authority inputs resolutions root =
    .ok publication ∧ Futile limits publication.inventory publication.peak

theorem planned_content {publication : Publication} {object : PlannedObject}
    (prepared : Prepared host limits authority inputs resolutions root publication)
    (listed : object ∈ publication.plan.objects) :
    ∃ content, ContentUsed root inputs content ∧ sha256Hex host content = object.record.sha256 ∧
      content.length = object.record.byteLength := by
  rcases prepared.planned.origin object listed with ⟨input, among, rfl⟩ |
    ⟨current, inherits, stored, _⟩
  · exact ⟨input.bytes, .inl ⟨input, among, rfl⟩, rfl, rfl⟩
  · obtain ⟨directory, placed, verified⟩ := prepared.inventoried.verified current
      (currentGeneration_eq_some inherits.1).1
    obtain ⟨_, content, found, length, digest⟩ := verified.stored stored
    exact ⟨content, .inr ⟨_, directory, _, placed, found⟩, digest, length⟩

theorem planned_consistent {publication : Publication}
    (collisionFree : Set.InjOn host.sha256 {bytes | ContentUsed root inputs bytes})
    (prepared : Prepared host limits authority inputs resolutions root publication) :
    Consistent publication.plan.objects := by
  intro object member other among same
  obtain ⟨content, used, digest, length⟩ := planned_content prepared member
  obtain ⟨content', used', digest', length'⟩ := planned_content prepared among
  have equal : content = content' := by
    apply collisionFree used used'
    apply BlobHash.toHex_injective
    exact digest.trans (same.trans digest'.symm)
  rw [← length, ← length', equal]

theorem openInner_unlocked {allowSwitch : Bool}
    (opened : openInner host limits authority allowSwitch root = .ok ()) :
    root.writerLock = false ∧ validateRootShape root false = .ok () := by
  unfold openInner at opened
  obtain ⟨_, shaped, _⟩ := bind_ok opened
  have free := shaped
  unfold validateRootShape at free
  rw [refuse_eq_ok] at free
  push Not at free
  cases lock : root.writerLock with
  | true => exact absurd rfl (free.2.2 lock)
  | false => exact ⟨rfl, shaped⟩

theorem openInner_locked {allowSwitch : Bool} (locked : root.writerLock = true) :
    openInner host limits authority allowSwitch root = .error .crashRemnant := by
  unfold openInner validateRootShape refuse
  rw [if_pos (.inr (.inr ⟨locked, rfl⟩))]
  rfl

/-- A refused publication has changed nothing, or its eviction was in vain. -/
theorem publishLocked_meets (limits : CacheLimits) (authority : CacheAuthority)
    (resolutions : List UncertainResolution) (codecs : host.RoundTrips)
    (collisionFree : Set.InjOn host.sha256 {bytes | ContentUsed root inputs bytes}) :
    Script.Meets (· = ⟨root, false⟩) (publishLocked host limits authority inputs resolutions)
      anywhere (fun error writing => isRefusal error = true →
        (writing = ⟨root, false⟩ ∧
          ¬EvictsInVain host limits authority inputs resolutions root) ∨
        (writing.persistentMutation = true ∧
          EvictsInVain host limits authority inputs resolutions root)) (fun _ _ => True) := by
  unfold publishLocked
  refine .bind (fun publication writing =>
    preparePublication host limits authority inputs resolutions root = .ok publication ∧
      writing = ⟨root, false⟩) (meets_look ?_ ?_) fun publication => .assuming fun prepared => ?_
  · rintro writing error rfl stopped _
    refine .inl ⟨rfl, ?_⟩
    rintro ⟨publication, prepared, _⟩
    have failed : preparePublication host limits authority inputs resolutions root = _ := stopped
    rw [prepared] at failed
    cases failed
  · rintro writing publication rfl prepared
    exact ⟨prepared, rfl⟩
  have facts := preparePublication_ok prepared
  have consistent := planned_consistent collisionFree facts
  refine .bind (fun _ writing => ∃ state, Evicted host limits root publication.inventory
    publication.peak state writing.root ∧ limits.contains state.2 = true)
    ((evictForPeak_meets facts.inventoried).weaken (fun _ start => start) ?_
      fun _ _ done => done) fun _ => .fixing ?_
  · intro error writing failed refusal
    rcases failed.2 refusal with ⟨same, possible⟩ | ⟨marked, futile⟩
    · refine .inl ⟨same, ?_⟩
      rintro ⟨other, again, futile⟩
      rw [prepared] at again
      cases again
      exact possible futile
    · exact .inr ⟨marked, publication, prepared, futile⟩
  · intro before evicted
    refine (Roomy.unrefused codecs ⟨facts, consistent, evicted⟩).weaken ?_ ?_ fun _ _ _ => trivial
    · rintro writing rfl
      rfl
    · intro error writing plain refusal
      rw [plain] at refusal
      cases refusal

/-- A refused publication leaves the cache usable exactly if it does not evict in vain. -/
theorem refused_publish_stays_usable_iff (host : ClientCacheHost) (codecs : host.RoundTrips)
    (limits : CacheLimits) (authority : CacheAuthority) (allowSwitch : Bool) (root : CacheRoot)
    (opened : openInner host limits authority allowSwitch root = .ok ())
    (inputs : List ObjectInput) (resolutions : List UncertainResolution)
    (collisionFree : Set.InjOn host.sha256 {bytes | ContentUsed root inputs bytes})
    (error : CacheError)
    (refused : (publish host limits authority inputs resolutions root).1 = .error error)
    (refusal : isRefusal error = true) :
    StaysUsable host limits authority allowSwitch root
        (publish host limits authority inputs resolutions root).2 ↔
      ¬EvictsInVain host limits authority inputs resolutions root := by
  obtain ⟨unlocked, shaped⟩ := openInner_unlocked opened
  have lockedFree : Set.InjOn host.sha256
      {bytes | ContentUsed { root with writerLock := true } inputs bytes} := collisionFree
  have ended := (publishLocked_meets limits authority resolutions codecs lockedFree
    ⟨{ root with writerLock := true }, false⟩ rfl).2
  unfold publish withWriter at refused ⊢
  rw [shaped] at refused ⊢
  dsimp only at refused ⊢
  cases result : (publishLocked host limits authority inputs resolutions
      ⟨{ root with writerLock := true }, false⟩).result with
  | ok inspection =>
    rw [result] at refused
    cases refused
  | error reason =>
    rw [result] at refused ended
    cases refused
    unfold EvictsInVain at ended
    rw [preparePublication_locked] at ended
    rcases ended refusal with ⟨same, possible⟩ | ⟨marked, futile⟩
    · have restored : ({ root with writerLock := false } : CacheRoot) = root := by
        rw [← unlocked]
      simp only [same, restored]
      refine ⟨fun _ => possible, fun _ => ⟨opened, ?_⟩⟩
      intro inventory read
      exact ⟨inventory, read, rfl, fun _ member => member⟩
    · simp only [marked]
      refine ⟨fun usable => ?_, fun possible => absurd futile possible⟩
      have opens := usable.opens
      rw [openInner_locked rfl] at opens
      cases opens

instance countableCacheAuthority : Countable CacheAuthority :=
  Function.Injective.countable (f := fun authority => (authority.serverId,
    authority.protocolMajor.toNat, authority.protocolMinor.toNat,
    authority.schemaGeneration.toNat)) fun left right same => by
    obtain ⟨_, _, _, _, _⟩ := left
    obtain ⟨_, _, _, _, _⟩ := right
    simpa [UInt16.toNat_inj, UInt64.toNat_inj] using same

instance countableObjectCertainty : Countable ObjectCertainty :=
  Function.Injective.countable (f := fun certainty => match certainty with
    | .authoritative => true
    | .uncertain => false) fun left right same => by
    cases left <;> cases right <;> simp_all

instance countableObjectRecord : Countable ObjectRecord :=
  Function.Injective.countable (f := fun record => (record.entityId, record.revision.toNat,
    record.sha256, record.byteLength, record.certainty)) fun left right same => by
    obtain ⟨_, _, _, _, _⟩ := left
    obtain ⟨_, _, _, _, _⟩ := right
    simpa [UInt64.toNat_inj] using same

instance countableManifest : Countable Manifest :=
  Function.Injective.countable (f := fun manifest => (manifest.version.toNat, manifest.sequence,
    manifest.authority, manifest.objects)) fun left right same => by
    obtain ⟨_, _, _, _⟩ := left
    obtain ⟨_, _, _, _⟩ := right
    simpa [UInt32.toNat_inj] using same

instance countableCurrentPointer : Countable CurrentPointer :=
  Function.Injective.countable (f := fun pointer => (pointer.version.toNat, pointer.generation,
    pointer.usage.bytes, pointer.usage.objects, pointer.usage.generations))
    fun left right same => by
    obtain ⟨_, _, ⟨_, _, _⟩⟩ := left
    obtain ⟨_, _, ⟨_, _, _⟩⟩ := right
    simpa [UInt32.toNat_inj] using same

def sampleAuthority : CacheAuthority where
  serverId := ⟨"server-a", by decide⟩
  protocolMajor := 1
  protocolMinor := 2
  schemaGeneration := 1
  positive := by decide

def sampleLimits : CacheLimits where
  maxBytes := 1024
  maxObjects := 32
  maxGenerations := 3
  positive := by decide
  bounded := by decide

/-- 600 bytes, which leave no room for a second generation. -/
def sampleInput : ObjectInput where
  entityId := ⟨"entity", by decide⟩
  revision := 1
  bytes := List.replicate 600 0
  certainty := .authoritative

/-- The SHA-256 of the 600 bytes. -/
def sampleInputDigest : String :=
  "bd50e12c55dda3ee443c1cb6d71c7bcf6351c4ec96f7bc8d6adec015d1192eea"

def emptyManifest (sequence : Nat) : Manifest := ⟨1, sequence, sampleAuthority, []⟩

def fullManifest : Manifest :=
  ⟨1, 3, sampleAuthority, [⟨"entity", 1, sampleInputDigest, 600, .authoritative⟩]⟩

def manifestText (sequence objects : String) : String :=
  "\x7b\"version\":1,\"sequence\":" ++ sequence ++ ",\"authority\":\x7b\"server_id\":" ++
  "\"server-a\",\"protocol_major\":1,\"protocol_minor\":2,\"schema_generation\":1\x7d," ++
  "\"objects\":[" ++ objects ++ "]\x7d"

def recordText : String :=
  "\x7b\"entity_id\":\"entity\",\"revision\":1,\"sha256\":\"" ++ sampleInputDigest ++
  "\",\"byte_length\":600,\"certainty\":\"authoritative\"\x7d"

def pointerText (generation : String) : String :=
  "\x7b\"version\":1,\"generation\":\"" ++ generation ++ "\"\x7d"

/-- The three manifests, their texts and the SHA-256 of each text. -/
def sampleManifests : List (Manifest × String × String) :=
  [(emptyManifest 1, manifestText "1" "",
      "4b8cffcb18096725fab710cc1fc757f4fe6dcab7cf254904e662d4cf1dba3c14"),
    (emptyManifest 2, manifestText "2" "",
      "f0ed5491644202146987219e902c2e6fa8b5cbedd08e2d9fab8e0e8a9bd5454a"),
    (fullManifest, manifestText "3" recordText,
      "e9a396d23ba707c0666d70aa525cdfb62c52e3c32a8155ce75fc194fb0695c77")]

theorem unlistedDigest_length : (List.replicate 32 (0 : UInt8)).length = 32 := rfl

/-- The SHA-256 of the manifests and of the 600 bytes. -/
def sampleHash (bytes : List UInt8) : BlobHash :=
  let digest := if bytes = sampleInput.bytes then some sampleInputDigest
    else (sampleManifests.find? fun row => utf8 row.2.1 = bytes).map (·.2.2)
  (digest.bind BlobHash.parse).getD ⟨List.replicate 32 0, unlistedDigest_length⟩

noncomputable def sampleClientHost : ClientCacheHost where
  sha256 := sampleHash
  manifestJson := tableCodec (sampleManifests.map fun row => (row.1, utf8 row.2.1))
  currentJson := tableCodec (sampleManifests.map fun row =>
    (⟨1, row.2.2, Usage.none⟩, utf8 (pointerText row.2.2)))

theorem sampleClientHost_roundTrips : sampleClientHost.RoundTrips :=
  ⟨tableCodec_roundTrips (by decide +kernel) (by decide +kernel) _,
    tableCodec_roundTrips (by decide +kernel) (by decide +kernel) _⟩

def emptyRoot : CacheRoot := ⟨∅, none, none, none, false⟩

/-- The cache after two publications without objects. -/
noncomputable def sampleRoot : CacheRoot :=
  (publish sampleClientHost sampleLimits sampleAuthority [] []
    (publish sampleClientHost sampleLimits sampleAuthority [] [] emptyRoot).2).2

/-- The outcome of the publication of the 600 bytes. -/
noncomputable def sampleRefusal : Except CacheError GenerationInspection × CacheRoot :=
  publish sampleClientHost sampleLimits sampleAuthority [sampleInput] [] sampleRoot

/-- The error of an outcome, for evaluation. -/
def failsWith {α : Type} (error : CacheError) : Except CacheError α → Bool
  | .error reason => reason = error
  | .ok _ => false

theorem failsWith_eq {α : Type} {error : CacheError} {outcome : Except CacheError α}
    (fails : failsWith error outcome = true) : outcome = .error error := by
  cases outcome with
  | ok value => cases fails
  | error reason => exact congrArg Except.error (of_decide_eq_true fails)

/-- The cache before and after the refusal, evaluated together. -/
theorem sampleRefusal_evaluated :
    (openInner sampleClientHost sampleLimits sampleAuthority false sampleRoot).toBool = true ∧
      sampleRoot.generations.entries.all (fun entry => entry.2.objects.entries.isEmpty) = true ∧
      failsWith .boundsExceeded sampleRefusal.1 = true ∧ sampleRefusal.2.writerLock = true := by
  decide +kernel

theorem sampleRoot_opens :
    openInner sampleClientHost sampleLimits sampleAuthority false sampleRoot = .ok () := by
  obtain ⟨opened, _⟩ := sampleRefusal_evaluated
  cases result : openInner sampleClientHost sampleLimits sampleAuthority false sampleRoot with
  | ok value => rfl
  | error error =>
    rw [result] at opened
    cases opened

theorem sampleRefusal_error : sampleRefusal.1 = .error .boundsExceeded := by
  obtain ⟨_, _, fails, _⟩ := sampleRefusal_evaluated
  exact failsWith_eq fails

/-- The directory holds no content object, so that only the input is hashed. -/
theorem sample_collisionFree :
    Set.InjOn sampleClientHost.sha256 {bytes | ContentUsed sampleRoot [sampleInput] bytes} := by
  obtain ⟨_, empty, _⟩ := sampleRefusal_evaluated
  have sole : ∀ bytes, ContentUsed sampleRoot [sampleInput] bytes → bytes = sampleInput.bytes := by
    rintro bytes (⟨input, member, rfl⟩ | ⟨id, directory, digest, placed, found⟩)
    · rw [List.mem_singleton.mp member]
    · have none := List.all_eq_true.mp empty _ (AList.mem_lookup_iff.mp placed)
      rw [List.isEmpty_iff] at none
      have listed := AList.mem_lookup_iff.mp found
      rw [none] at listed
      cases listed
  intro left leftUsed right rightUsed _
  exact (sole left leftUsed).trans (sole right rightUsed).symm

theorem vain_eviction_leaves_cache_unusable : ∃ host : ClientCacheHost, host.RoundTrips ∧
    ∃ limits authority root inputs, openInner host limits authority false root = .ok () ∧
      Set.InjOn host.sha256 {bytes | ContentUsed root inputs bytes} ∧
      (publish host limits authority inputs [] root).1 = .error .boundsExceeded ∧
      ¬StaysUsable host limits authority false root
        (publish host limits authority inputs [] root).2 := by
  refine ⟨sampleClientHost, sampleClientHost_roundTrips, sampleLimits, sampleAuthority, sampleRoot,
    [sampleInput], sampleRoot_opens, sample_collisionFree, sampleRefusal_error, ?_⟩
  intro usable
  have opens : openInner sampleClientHost sampleLimits sampleAuthority false sampleRefusal.2 = .ok () :=
    usable.opens
  obtain ⟨_, _, _, locked⟩ := sampleRefusal_evaluated
  rw [openInner_locked locked] at opens
  cases opens

theorem sample_refusal_evicts_in_vain :
    StaysUsable sampleClientHost sampleLimits sampleAuthority false sampleRoot
        (publish sampleClientHost sampleLimits sampleAuthority [sampleInput] [] sampleRoot).2 ↔
      ¬EvictsInVain sampleClientHost sampleLimits sampleAuthority [sampleInput] [] sampleRoot :=
  refused_publish_stays_usable_iff sampleClientHost sampleClientHost_roundTrips sampleLimits sampleAuthority
    false sampleRoot sampleRoot_opens [sampleInput] [] sample_collisionFree .boundsExceeded
    sampleRefusal_error rfl

end Decodex.Guarantees.CacheRefusals
