import Decodex.Library.Except
import Decodex.Source.Gpui.CacheDirectory

/-!
# History page cache: what a loadable directory holds

`Sound d index` says without the order of the checks what `load_validated_cache_state` accepts
with `index`: known names, private files with one link, a readable index, whole pages, the
bounds. Loading succeeds exactly on the sound directories.
-/
namespace Decodex.Source.Gpui

open Decodex.Library Decodex.Source.Core

variable {host : CacheHost} {d after : CacheDirectory} {index : CacheIndex}

/-- `pages` is the directory, so no file has its name. -/
def CacheDirectory.Tidy (d : CacheDirectory) : Prop :=
  (⟨.root, pagesDirectoryName⟩ : Place) ∉ d.files.names

theorem mem_names {shape : DirectoryShape} {name : String} : name ∈ d.names shape ↔
    (⟨shape, name⟩ : Place) ∈ d.files.names ∨
      (shape = .root ∧ d.pages.isSome ∧ name = pagesDirectoryName) := by
  unfold CacheDirectory.names
  rw [List.mem_append]
  refine or_congr ⟨?_, fun member => ?_⟩ ?_
  · intro member
    obtain ⟨⟨directory, _⟩, held, rfl⟩ := List.mem_map.mp member
    obtain ⟨held, same⟩ := List.mem_filter.mp held
    rw [← of_decide_eq_true same]
    exact held
  · exact List.mem_map.mpr ⟨_, List.mem_filter.mpr ⟨member, by simp⟩, rfl⟩
  · split
    · rename_i listed
      simp [listed]
    · rename_i hidden
      simp only [List.not_mem_nil, false_iff]
      rintro ⟨root, made, _⟩
      exact hidden ⟨root, made⟩

theorem names_nodup (tidy : d.Tidy) (shape : DirectoryShape) : (d.names shape).Nodup := by
  unfold CacheDirectory.names
  rw [List.nodup_append]
  refine ⟨?_, by split <;> simp, ?_⟩
  · refine List.Nodup.map_on ?_ (List.Nodup.filter _ d.files.distinct)
    rintro ⟨_, _⟩ left ⟨_, _⟩ right rfl
    have first := of_decide_eq_true (List.mem_filter.mp left).2
    have second := of_decide_eq_true (List.mem_filter.mp right).2
    dsimp only at first second
    rw [first, second]
  · rintro name member other listed rfl
    split at listed
    · rename_i root
      obtain ⟨⟨directory, _⟩, held, rfl⟩ := List.mem_map.mp member
      obtain ⟨held, same⟩ := List.mem_filter.mp held
      refine tidy ?_
      rw [← List.mem_singleton.mp listed, ← root.1, ← of_decide_eq_true same]
      exact held
    · cases listed

/-- The scan of a directory ends in a value when each name is known and none is too many. -/
theorem scanNames_ok {shape : DirectoryShape} {names : List String} (scanned result : List String)
    (fits : scanned.length ≤ maximumNames shape) :
    names.foldlM (fun names name =>
        if directoryNameIsKnown shape name = false then Except.error (⟨.unsafeShape⟩ : CacheFailure)
        else if names.length = maximumNames shape then .error ⟨.bounds⟩
        else .ok (names ++ [name])) scanned = .ok result ↔
      (∀ name ∈ names, directoryNameIsKnown shape name = true) ∧
        scanned.length + names.length ≤ maximumNames shape ∧ result = scanned ++ names := by
  induction names generalizing scanned with
  | nil =>
    rw [List.append_nil, List.length_nil, Nat.add_zero]
    change Except.ok scanned = .ok result ↔ _
    constructor
    · intro same
      cases same
      exact ⟨nofun, fits, rfl⟩
    · rintro ⟨_, _, rfl⟩
      rfl
  | cons name names ih =>
    rw [List.foldlM_cons]
    by_cases known : directoryNameIsKnown shape name = true
    · rw [if_neg (by simp [known])]
      by_cases full : scanned.length = maximumNames shape
      · rw [if_pos full, error_bind]
        simp only [reduceCtorEq, List.length_cons, false_iff, not_and]
        intro _ room
        omega
      · have room : (scanned ++ [name]).length ≤ maximumNames shape := by
          rw [List.length_append, List.length_singleton]
          omega
        have grown : (scanned ++ [name]).length + names.length =
            scanned.length + (name :: names).length := by
          simp only [List.length_append, List.length_cons, List.length_nil]
          omega
        rw [if_neg full, ok_bind, ih _ room, grown, List.append_assoc]
        simp [known]
    · rw [if_pos (by simpa using known), error_bind]
      simp [known]

theorem validatedDirectoryNames_ok {shape : DirectoryShape} {names : List String} :
    validatedDirectoryNames d shape = .ok names ↔
      (∀ name ∈ d.names shape, directoryNameIsKnown shape name = true) ∧
        (d.names shape).length ≤ maximumNames shape ∧
        names = (d.names shape).insertionSort fun left right => utf8 left ≤ utf8 right := by
  unfold validatedDirectoryNames
  constructor
  · intro validated
    obtain ⟨found, scanned, sorted⟩ := bind_ok validated
    obtain ⟨known, few, rfl⟩ := (scanNames_ok [] found (Nat.zero_le _)).mp scanned
    cases sorted
    exact ⟨known, by simpa using few, rfl⟩
  · rintro ⟨known, few, rfl⟩
    rw [(scanNames_ok [] _ (Nat.zero_le _)).mpr ⟨known, by simpa using few, rfl⟩]
    rfl

structure PrivateFile (host : CacheHost) (file : FileStatus) : Prop where
  owner : file.owner = host.effectiveUid
  mode : file.mode = privateFileMode
  links : file.links = 1

theorem validateRegularFile_ok {file : FileStatus} {maxLength : Option Nat} :
    validateRegularFile host file maxLength = .ok () ↔
      PrivateFile host file ∧ ∀ maximum ∈ maxLength, file.content.length ≤ maximum := by
  unfold validateRegularFile
  rw [refuse_eq_ok]
  simp only [not_or, not_not, Option.any_eq_true, decide_eq_true_eq, not_exists, not_and,
    Nat.not_lt]
  constructor
  · rintro ⟨owner, mode, links, short⟩
    exact ⟨⟨owner, mode, links⟩, short⟩
  · rintro ⟨⟨owner, mode, links⟩, short⟩
    exact ⟨owner, mode, links, short⟩

/-- The content that a page file of this name may have. -/
structure PageContent (host : CacheHost) (digest : String) (content : List UInt8)
    (page : ConversationHistoryPage host.Item) : Prop where
  named : isDigestName digest = true
  short : content.length ≤ maxPageBytes
  nonempty : content ≠ []
  hashed : sha256Hex host content = digest
  reads : host.pageJson.fromSlice content = some page
  canonical : host.pageJson.toVec page = content
  few : page.items.length ≤ maxPageItems

theorem pageBytesAndDigest_ok {page : ConversationHistoryPage host.Item}
    {result : List UInt8 × String} : pageBytesAndDigest host page = .ok result ↔
      page.items.length ≤ maxPageItems ∧ (host.pageJson.toVec page).length ≤ maxPageBytes ∧
        result = (host.pageJson.toVec page, sha256Hex host (host.pageJson.toVec page)) := by
  unfold pageBytesAndDigest
  dsimp only
  split
  · rename_i large
    simp only [reduceCtorEq, false_iff]
    omega
  · rename_i small
    rw [not_or, Nat.not_lt, Nat.not_lt] at small
    simp only [Except.ok.injEq, small, true_and]
    exact eq_comm

theorem readPageBytes_ok {digest : String} {content : List UInt8}
    {page : ConversationHistoryPage host.Item} {metadata : ValidatedPageFile} :
    readPageBytes host digest content = .ok (page, metadata) ↔
      content ≠ [] ∧ sha256Hex host content = digest ∧
        host.pageJson.fromSlice content = some page ∧ host.pageJson.toVec page = content ∧
        page.items.length ≤ maxPageItems ∧ content.length ≤ maxPageBytes ∧
        metadata = ⟨content.length, page.items.length⟩ := by
  unfold readPageBytes
  constructor
  · intro read
    obtain ⟨_, checked, read⟩ := bind_ok read
    rw [refuse_eq_ok, not_or, not_not] at checked
    split at read
    · cases read
    · rename_i parsed
      obtain ⟨⟨bytes, hash⟩, canonical, read⟩ := bind_ok read
      obtain ⟨few, short, same⟩ := pageBytesAndDigest_ok.mp (mapError_ok.mp canonical)
      cases same
      obtain ⟨_, agrees, read⟩ := bind_ok read
      rw [refuse_eq_ok, not_or, not_not, not_not] at agrees
      cases read
      rw [agrees.1] at short
      exact ⟨checked.1, checked.2, parsed, agrees.1, few, short, rfl⟩
  · rintro ⟨nonempty, hashed, parsed, canonical, few, short, rfl⟩
    have bytes : pageBytesAndDigest host page = .ok (content, digest) :=
      pageBytesAndDigest_ok.mpr ⟨few, by rwa [canonical], by rw [canonical, hashed]⟩
    rw [refuse_eq_ok.mpr (by simp [nonempty, hashed]), ok_bind, parsed]
    change ((pageBytesAndDigest host page).mapError _ >>= _) = _
    rw [mapError_ok.mpr bytes, ok_bind]
    simp [refuse]

theorem openFileAt_ok {place : Place} {file : FileStatus} :
    openFileAt d place = .ok file ↔ d.files.stat place = some file := by
  unfold openFileAt
  split
  · rename_i missing
    simp [missing]
  · rename_i found
    simp [found]

theorem readBounded_ok {file : FileStatus} {maximum : Nat} {content : List UInt8} :
    readBounded file maximum = .ok content ↔
      file.content.length ≤ maximum ∧ content = file.content := by
  unfold readBounded
  split
  · rename_i large
    simp only [reduceCtorEq, false_iff]
    omega
  · rename_i small
    simp only [Except.ok.injEq, Nat.not_lt.mp small, true_and]
    exact eq_comm

/-- The page file of a digest, as the loader reports it. -/
def HasPage (host : CacheHost) (d : CacheDirectory) (digest : String)
    (page : ConversationHistoryPage host.Item) (metadata : ValidatedPageFile) : Prop :=
  ∃ file, d.files.stat (pagePlace digest) = some file ∧ PrivateFile host file ∧
    PageContent host digest file.content page ∧
    metadata = ⟨file.content.length, page.items.length⟩

theorem readValidatedPage_ok {digest : String} {page : ConversationHistoryPage host.Item}
    {metadata : ValidatedPageFile} :
    readValidatedPage host d digest = .ok (page, metadata) ↔
      HasPage host d digest page metadata := by
  unfold readValidatedPage
  constructor
  · intro read
    obtain ⟨_, named, read⟩ := bind_ok read
    obtain ⟨file, opened, read⟩ := bind_ok read
    obtain ⟨_, checked, read⟩ := bind_ok read
    obtain ⟨content, bytes, read⟩ := bind_ok read
    rw [refuse_eq_ok, Bool.not_eq_false] at named
    obtain ⟨short, rfl⟩ := readBounded_ok.mp bytes
    obtain ⟨nonempty, hashed, parsed, canonical, few, _, rfl⟩ := readPageBytes_ok.mp read
    exact ⟨file, openFileAt_ok.mp opened, (validateRegularFile_ok.mp checked).1,
      ⟨named, short, nonempty, hashed, parsed, canonical, few⟩, rfl⟩
  · rintro ⟨file, found, isPrivate, content, rfl⟩
    rw [refuse_eq_ok.mpr (by simp [content.named]), ok_bind, openFileAt_ok.mpr found, ok_bind,
      validateRegularFile_ok.mpr ⟨isPrivate, by simp [content.short]⟩, ok_bind,
      readBounded_ok.mpr ⟨content.short, rfl⟩, ok_bind]
    exact readPageBytes_ok.mpr ⟨content.nonempty, content.hashed, content.reads,
      content.canonical, content.few, content.short, rfl⟩

theorem HasPage.unique {digest : String} {page other : ConversationHistoryPage host.Item}
    {left right : ValidatedPageFile} (first : HasPage host d digest page left)
    (second : HasPage host d digest other right) : page = other ∧ left = right := by
  obtain ⟨file, found, _, content, rfl⟩ := first
  obtain ⟨same, again, _, others, rfl⟩ := second
  rw [found] at again
  cases again
  have equal := content.reads.symm.trans others.reads
  cases equal
  exact ⟨rfl, rfl⟩

theorem HasPage.congr {digest : String} {page : ConversationHistoryPage host.Item}
    {metadata : ValidatedPageFile} (has : HasPage host d digest page metadata)
    (same : after.files.stat (pagePlace digest) = d.files.stat (pagePlace digest)) :
    HasPage host after digest page metadata := by
  obtain ⟨file, found, rest⟩ := has
  exact ⟨file, same.trans found, rest⟩

/-- What reading the index file yields. -/
def ReadsIndex (host : CacheHost) (index : CacheIndex) : Option FileStatus → Prop
  | none => index = .empty
  | some file => file.content.length ≤ maxIndexBytes ∧
      host.indexJson.fromSlice file.content = some index ∧ index.schemaId = cacheSchemaId ∧
      serializeIndex host index = .ok file.content

theorem readIndex_ok {size : Nat} {present : Bool} :
    readIndex host d = .ok (index, size, present) ↔
      ReadsIndex host index (d.files.stat indexPlace) ∧
        (∀ file, d.files.stat indexPlace = some file → PrivateFile host file) ∧
        size = d.files.size indexPlace ∧ present = (d.files.stat indexPlace).isSome := by
  unfold readIndex Volume.size
  cases found : d.files.stat indexPlace with
  | none =>
    simp only [Except.ok.injEq, Prod.mk.injEq, ReadsIndex, reduceCtorEq, false_implies,
      implies_true, Option.map_none, Option.getD_none, Option.isSome_none, true_and]
    constructor
    · rintro ⟨rfl, rfl, rfl⟩
      exact ⟨rfl, rfl, rfl⟩
    · rintro ⟨rfl, rfl, rfl⟩
      exact ⟨rfl, rfl, rfl⟩
  | some file =>
    simp only [ReadsIndex, Option.some.injEq, forall_eq', Option.map_some, Option.getD_some,
      Option.isSome_some]
    constructor
    · intro read
      obtain ⟨_, checked, read⟩ := bind_ok read
      obtain ⟨content, bytes, read⟩ := bind_ok read
      obtain ⟨short, rfl⟩ := readBounded_ok.mp bytes
      split at read
      · cases read
      · rename_i parsed
        obtain ⟨_, schema, read⟩ := bind_ok read
        obtain ⟨serialized, canonical, read⟩ := bind_ok read
        obtain ⟨_, agrees, read⟩ := bind_ok read
        rw [refuse_eq_ok, not_not] at schema agrees
        cases read
        subst agrees
        exact ⟨⟨short, parsed, schema, canonical⟩, (validateRegularFile_ok.mp checked).1, rfl, rfl⟩
    · rintro ⟨⟨short, parsed, schema, canonical⟩, isPrivate, rfl, rfl⟩
      rw [validateRegularFile_ok.mpr ⟨isPrivate, by simp [short]⟩, ok_bind,
        readBounded_ok.mpr ⟨short, rfl⟩, ok_bind, parsed]
      simp [schema, canonical, refuse]

/-- A validated index finds each of its pages with the counted items and bytes. -/
theorem validateIndex_pages {pageFiles : PageFiles}
    (valid : validateIndex index pageFiles = .ok ()) : ∀ entry ∈ index.entries, ∃ metadata,
      pageFiles.lookup entry.identity.pageSha256 = some metadata ∧
        metadata.itemCount = entry.itemCount.toNat ∧
        metadata.byteLength = entry.byteLength.toNat := by
  unfold validateIndex at valid
  obtain ⟨_, _, valid⟩ := bind_ok valid
  obtain ⟨_, _, valid⟩ := bind_ok valid
  obtain ⟨tally, looped, _⟩ := bind_ok valid
  refine foldlM_ok_each (fun before entry after step => ?_) looped
  unfold validateEntry at step
  obtain ⟨_, _, step⟩ := bind_ok step
  obtain ⟨_, _, step⟩ := bind_ok step
  obtain ⟨_, _, step⟩ := bind_ok step
  split at step
  · cases step
  · rename_i pageFile found
    obtain ⟨_, agrees, _⟩ := bind_ok step
    rw [refuse_eq_ok, not_or, not_not, not_not] at agrees
    exact ⟨pageFile, found, agrees⟩

theorem validateIndex_few {pageFiles : PageFiles}
    (valid : validateIndex index pageFiles = .ok ()) : index.entries.length ≤ maxCachePages := by
  unfold validateIndex at valid
  obtain ⟨_, _, valid⟩ := bind_ok valid
  obtain ⟨_, few, _⟩ := bind_ok valid
  rw [refuse_eq_ok] at few
  omega

/-- Validation looks only at the pages that the index references. -/
theorem validateIndex_congr {pageFiles others : PageFiles}
    (same : ∀ digest ∈ referencedDigests index, pageFiles.lookup digest = others.lookup digest) :
    validateIndex index pageFiles = validateIndex index others := by
  unfold validateIndex
  have looped : index.entries.foldlM (validateEntry pageFiles) {} =
      index.entries.foldlM (validateEntry others) {} := by
    refine foldlM_congr (fun entry member before => ?_) _
    unfold validateEntry
    rw [same entry.identity.pageSha256 (List.mem_map.mpr ⟨entry, member, rfl⟩)]
  rw [looped]

/-- The index passes validation against the page files of the directory. -/
def ValidIn (host : CacheHost) (d : CacheDirectory) (index : CacheIndex) : Prop :=
  ∃ pageFiles, validateIndex index pageFiles = .ok () ∧
    ∀ digest metadata, pageFiles.lookup digest = some metadata →
      digest ∈ referencedDigests index → ∃ page, HasPage host d digest page metadata

theorem ValidIn.congr (valid : ValidIn host d index)
    (same : ∀ digest ∈ referencedDigests index,
      after.files.stat (pagePlace digest) = d.files.stat (pagePlace digest)) :
    ValidIn host after index := by
  obtain ⟨pageFiles, validated, has⟩ := valid
  refine ⟨pageFiles, validated, fun digest metadata found referenced => ?_⟩
  obtain ⟨page, held⟩ := has digest metadata found referenced
  exact ⟨page, held.congr (same digest referenced)⟩

theorem pageStageName_not_digest : isDigestName pageStageName = false := by decide +kernel

theorem mem_of_lookup {α β : Type} [BEq α] [LawfulBEq α] {pairs : List (α × β)} {key : α}
    {value : β} (found : pairs.lookup key = some value) : (key, value) ∈ pairs := by
  induction pairs with
  | nil => cases found
  | cons first rest ih =>
    obtain ⟨held, stored⟩ := first
    rw [List.lookup_cons] at found
    split at found
    · rename_i same
      cases found
      rw [eq_of_beq same]
      exact List.mem_cons_self
    · exact List.mem_cons_of_mem _ (ih found)

theorem lookup_isSome_of_mem {α β : Type} [BEq α] [LawfulBEq α] {pairs : List (α × β)} {key : α}
    (member : key ∈ pairs.map (·.1)) : (pairs.lookup key).isSome = true := by
  induction pairs with
  | nil => cases member
  | cons first rest ih =>
    obtain ⟨held, stored⟩ := first
    rw [List.lookup_cons]
    split
    · rfl
    · rename_i differs
      rcases List.mem_cons.mp member with same | member
      · rw [same] at differs
        simp at differs
      · exact ih member

/-- The lengths of the listed page files together. -/
def pageBytesSum (d : CacheDirectory) (names : List String) : Nat :=
  ((names.filter fun name => decide (name ≠ pageStageName)).map
    fun name => d.files.size (pagePlace name)).sum

theorem HasPage.size {digest : String} {page : ConversationHistoryPage host.Item}
    {metadata : ValidatedPageFile} (has : HasPage host d digest page metadata) :
    d.files.size (pagePlace digest) = metadata.byteLength := by
  obtain ⟨file, found, _, _, rfl⟩ := has
  exact Volume.size_of_stat found

theorem loadPages_ok {names : List String} {physicalBytes total : Nat} {pageFiles : PageFiles}
    (loaded : loadPages host d names physicalBytes = .ok (pageFiles, total)) :
    pageFiles.map (·.1) = names.filter (fun name => decide (name ≠ pageStageName)) ∧
      (∀ file ∈ pageFiles, ∃ page, HasPage host d file.1 page file.2) ∧
      total = physicalBytes + pageBytesSum d names := by
  induction names generalizing physicalBytes pageFiles with
  | nil =>
    cases loaded
    exact ⟨rfl, nofun, rfl⟩
  | cons name names ih =>
    unfold loadPages at loaded
    split at loaded
    · rename_i stage
      obtain ⟨keys, has, sum⟩ := ih loaded
      rw [pageBytesSum, List.filter_cons_of_neg (by simp [stage])]
      exact ⟨keys, has, sum⟩
    · rename_i digest
      obtain ⟨⟨page, metadata⟩, read, loaded⟩ := bind_ok loaded
      obtain ⟨added, sum, loaded⟩ := bind_ok loaded
      obtain ⟨⟨rest, later⟩, more, loaded⟩ := bind_ok loaded
      cases loaded
      obtain ⟨keys, has, total⟩ := ih more
      have held := readValidatedPage_ok.mp read
      have same : added = physicalBytes + metadata.byteLength := by
        unfold checkedAdd at sum
        split at sum
        · cases sum
          rfl
        · cases sum
      rw [pageBytesSum, List.filter_cons_of_pos (by simp [digest]), List.map_cons, List.map_cons,
        List.sum_cons, keys, held.size]
      refine ⟨rfl, fun file member => ?_, ?_⟩
      · rcases List.mem_cons.mp member with rfl | member
        · exact ⟨page, held⟩
        · exact has file member
      · rw [total, same, Nat.add_assoc]
        rfl

theorem checkedAdd_ok {left right : Nat} (small : left + right < 2 ^ 64) :
    checkedAdd left right = .ok (left + right) := if_pos small

theorem loadPages_of_pages {names : List String} {physicalBytes : Nat}
    (held : ∀ name ∈ names, name ≠ pageStageName → ∃ page metadata,
      HasPage host d name page metadata)
    (small : physicalBytes + pageBytesSum d names < 2 ^ 64) :
    ∃ pageFiles, loadPages host d names physicalBytes =
      .ok (pageFiles, physicalBytes + pageBytesSum d names) := by
  induction names generalizing physicalBytes with
  | nil => exact ⟨[], rfl⟩
  | cons name names ih =>
    have rest : ∀ name ∈ names, name ≠ pageStageName → ∃ page metadata,
        HasPage host d name page metadata :=
      fun other member => held other (List.mem_cons_of_mem _ member)
    unfold loadPages
    by_cases stage : name = pageStageName
    · rw [if_pos stage]
      rw [pageBytesSum, List.filter_cons_of_neg (by simp [stage])] at small ⊢
      exact ih rest small
    · obtain ⟨page, metadata, has⟩ := held name (by simp) stage
      rw [pageBytesSum, List.filter_cons_of_pos (by simp [stage]), List.map_cons, List.sum_cons,
        has.size] at small ⊢
      change physicalBytes + (metadata.byteLength + pageBytesSum d names) < _ at small
      change ∃ pageFiles, _ = Except.ok
        (pageFiles, physicalBytes + (metadata.byteLength + pageBytesSum d names))
      obtain ⟨pageFiles, loaded⟩ := ih rest (by omega : physicalBytes + metadata.byteLength + _ < _)
      rw [if_neg stage, readValidatedPage_ok.mpr has, ok_bind]
      dsimp only
      rw [checkedAdd_ok (by omega), ok_bind, loaded, ok_bind, Nat.add_assoc]
      exact ⟨_, rfl⟩

/-- The content that a file at this place may have. -/
def FileFits (host : CacheHost) (place : Place) (content : List UInt8) : Prop :=
  match place.directory with
  | .root => (place.name = lockName ∧ content = []) ∨
      (place.name = indexName ∧ content.length ≤ maxIndexBytes) ∨
      (place.name = indexStageName ∧ content.length ≤ maxIndexBytes)
  | .pages => (place.name = pageStageName ∧ content.length ≤ maxPageBytes) ∨
      ∃ page, PageContent host place.name content page

/-- What loading accepts, with the index that it loads. -/
structure Sound (host : CacheHost) (d : CacheDirectory) (index : CacheIndex) : Prop where
  root : d.root = some ⟨host.effectiveUid, privateDirectoryMode⟩
  pages : d.pages = some ⟨host.effectiveUid, privateDirectoryMode⟩
  lock : lockPlace ∈ d.files.names
  files : ∀ place file, d.files.stat place = some file →
    PrivateFile host file ∧ FileFits host place file.content
  readsIndex : ReadsIndex host index (d.files.stat indexPlace)
  fewPages : (d.names .pages).length ≤ maxPhysicalPageNames
  bounded : d.files.used ≤ maxPhysicalBytes
  valid : ValidIn host d index

/-- What the loaded inventory says of the directory. -/
structure Inventoried (host : CacheHost) (d : CacheDirectory) (inventory : CacheInventory) :
    Prop where
  pageFiles : ∀ digest metadata, inventory.pageFiles.lookup digest = some metadata ↔
    ∃ page, HasPage host d digest page metadata
  digests : ∀ digest, digest ∈ inventory.pageFiles.map (·.1) ↔
    pagePlace digest ∈ d.files.names ∧ digest ≠ pageStageName
  physicalBytes : inventory.physicalBytes = d.files.used
  indexStagePresent : inventory.indexStagePresent = decide (indexStagePlace ∈ d.files.names)
  pageStagePresent : inventory.pageStagePresent = decide (pageStagePlace ∈ d.files.names)

theorem Sound.tidy (sound : Sound host d index) : d.Tidy := by
  intro member
  obtain ⟨number, opened⟩ := Volume.mem_names.mp member
  have fits := (sound.files _ _ (Volume.stat_eq_some.mpr ⟨number, opened, rfl⟩)).2
  unfold FileFits at fits
  revert fits
  simp only [pagesDirectoryName, lockName, indexName, indexStageName]
  rintro (⟨same, _⟩ | ⟨same, _⟩ | ⟨same, _⟩) <;> revert same <;> decide

/-- Every byte of a directory with known names is in the index, a stage or a page. -/
theorem used_eq_physical (tidy : d.Tidy)
    (known : ∀ shape, ∀ name ∈ d.names shape, directoryNameIsKnown shape name = true)
    (lock : d.files.size lockPlace = 0) {names : List String} (nodup : names.Nodup)
    (listed : ∀ name, name ∈ names ↔ name ∈ d.names .pages) :
    d.files.used = d.files.size indexPlace + d.files.size indexStagePlace +
      d.files.size pageStagePlace + pageBytesSum d names := by
  have apart : ((names.filter fun name => decide (name ≠ pageStageName)).map pagePlace).Nodup := by
    refine List.Nodup.map_on ?_ (nodup.filter _)
    rintro left _ right _ same
    exact congrArg Place.name same
  have outside : ∀ place : Place, place.directory = .root →
      place ∉ (names.filter fun name => decide (name ≠ pageStageName)).map pagePlace := by
    rintro place root member
    obtain ⟨name, _, rfl⟩ := List.mem_map.mp member
    cases root
  have distinct : (lockPlace :: indexPlace :: indexStagePlace :: pageStagePlace ::
      (names.filter fun name => decide (name ≠ pageStageName)).map pagePlace).Nodup := by
    rw [List.nodup_cons, List.nodup_cons, List.nodup_cons, List.nodup_cons]
    refine ⟨?_, ?_, ?_, ?_, apart⟩
    · simp only [List.mem_cons, not_or]
      exact ⟨by decide, by decide, by decide, outside _ rfl⟩
    · simp only [List.mem_cons, not_or]
      exact ⟨by decide, by decide, outside _ rfl⟩
    · simp only [List.mem_cons, not_or]
      exact ⟨by decide, outside _ rfl⟩
    · intro member
      obtain ⟨name, kept, same⟩ := List.mem_map.mp member
      have differs := (List.mem_filter.mp kept).2
      simp only [ne_eq, decide_eq_true_eq] at differs
      exact differs (congrArg Place.name same)
  rw [Volume.used_eq_sum distinct, List.map_cons, List.map_cons, List.map_cons, List.map_cons,
    List.sum_cons, List.sum_cons, List.sum_cons, List.sum_cons, lock, List.map_map]
  · change _ + (_ + (_ + (_ + pageBytesSum d names))) = _
    omega
  · rintro ⟨directory, name⟩ member
    have seen := known directory name (mem_names.mpr (.inl member))
    cases directory with
    | root =>
      simp only [directoryNameIsKnown, List.contains_eq_mem, List.mem_cons, List.not_mem_nil,
        or_false, decide_eq_true_eq] at seen
      rcases seen with rfl | rfl | rfl | rfl
      · exact List.mem_cons_self
      · exact List.mem_cons_of_mem _ List.mem_cons_self
      · exact List.mem_cons_of_mem _ (List.mem_cons_of_mem _ List.mem_cons_self)
      · exact absurd member tidy
    | pages =>
      iterate 3 apply List.mem_cons_of_mem
      by_cases stage : name = pageStageName
      · rw [stage]
        exact List.mem_cons_self
      · refine List.mem_cons_of_mem _ (List.mem_map.mpr ⟨name, List.mem_filter.mpr ⟨?_, ?_⟩, rfl⟩)
        · exact (listed name).mpr (mem_names.mpr (.inl member))
        · simpa using stage

theorem validateDirectory_ok {shape : DirectoryShape} : validateDirectory host d shape = .ok () ↔
    d.status shape = some ⟨host.effectiveUid, privateDirectoryMode⟩ := by
  unfold validateDirectory
  cases found : d.status shape with
  | none => simp
  | some status =>
    obtain ⟨owner, mode⟩ := status
    simp only [refuse_eq_ok, not_or, not_not, Option.some.injEq, DirectoryStatus.mk.injEq]

theorem validateLock_ok {maxLength : Option Nat} : validateLock host d maxLength = .ok () ↔
    ∃ file, d.files.stat lockPlace = some file ∧ PrivateFile host file ∧
      ∀ maximum ∈ maxLength, file.content.length ≤ maximum := by
  unfold validateLock
  constructor
  · intro validated
    obtain ⟨file, opened, checked⟩ := bind_ok validated
    exact ⟨file, openFileAt_ok.mp opened, validateRegularFile_ok.mp checked⟩
  · rintro ⟨file, found, checked⟩
    rw [openFileAt_ok.mpr found, ok_bind, validateRegularFile_ok.mpr checked]

theorem addStage_ok {present : Bool} {place : Place} {maximum physicalBytes total : Nat}
    (listed : present = decide (place ∈ d.files.names)) :
    addStage host d present place maximum physicalBytes = .ok total ↔
      (∀ file, d.files.stat place = some file →
        PrivateFile host file ∧ file.content.length ≤ maximum ∧
          physicalBytes + file.content.length < 2 ^ 64) ∧
        total = physicalBytes + d.files.size place := by
  unfold addStage
  subst listed
  by_cases member : place ∈ d.files.names
  · obtain ⟨number, opened⟩ := Volume.mem_names.mp member
    have found : d.files.stat place = some (d.files.status number) :=
      Volume.stat_eq_some.mpr ⟨number, opened, rfl⟩
    rw [if_pos (by simpa using member), Volume.size_of_stat found, found]
    simp only [Option.some.injEq, forall_eq']
    constructor
    · intro added
      obtain ⟨length, measured, added⟩ := bind_ok added
      unfold validatedFileLength at measured
      obtain ⟨file, opened, measured⟩ := bind_ok measured
      obtain ⟨_, checked, measured⟩ := bind_ok measured
      cases measured
      have same := openFileAt_ok.mp opened
      rw [found] at same
      cases same
      obtain ⟨isPrivate, short⟩ := validateRegularFile_ok.mp checked
      unfold checkedAdd at added
      split at added
      · rename_i small
        cases added
        exact ⟨⟨isPrivate, short _ rfl, small⟩, rfl⟩
      · cases added
    · rintro ⟨⟨isPrivate, short, small⟩, rfl⟩
      unfold validatedFileLength
      rw [openFileAt_ok.mpr found, ok_bind,
        validateRegularFile_ok.mpr ⟨isPrivate, by simp [short]⟩, ok_bind, ok_bind,
        checkedAdd_ok small]
  · have missing := Volume.stat_eq_none.mpr member
    rw [if_neg (by simpa using member), Volume.size, missing]
    simp only [Except.ok.injEq, reduceCtorEq, false_implies, implies_true, Option.map_none,
      Option.getD_none, Nat.add_zero, true_and]
    exact eq_comm

theorem listed_iff {shape : DirectoryShape} (name : String) {names : List String}
    (validated : validatedDirectoryNames d shape = .ok names)
    (file : shape = .root → name ≠ pagesDirectoryName) :
    name ∈ names ↔ (⟨shape, name⟩ : Place) ∈ d.files.names := by
  obtain ⟨_, _, rfl⟩ := validatedDirectoryNames_ok.mp validated
  rw [List.mem_insertionSort, mem_names, or_iff_left]
  rintro ⟨root, _, same⟩
  exact file root same

theorem loaded_sound {state : ValidatedCacheState} (tidy : d.Tidy)
    (loaded : loadValidatedCacheState host d = .ok state) :
    Sound host d state.index ∧ Inventoried host d state.inventory := by
  unfold loadValidatedCacheState at loaded
  obtain ⟨_, root, loaded⟩ := bind_ok loaded
  obtain ⟨_, pages, loaded⟩ := bind_ok loaded
  obtain ⟨_, locked, loaded⟩ := bind_ok loaded
  obtain ⟨rootNames, rootListed, loaded⟩ := bind_ok loaded
  obtain ⟨pageNames, pagesListed, loaded⟩ := bind_ok loaded
  obtain ⟨_, _, loaded⟩ := bind_ok loaded
  obtain ⟨⟨index, indexBytes, present⟩, read, loaded⟩ := bind_ok loaded
  obtain ⟨_, _, loaded⟩ := bind_ok loaded
  obtain ⟨withIndexStage, indexStage, loaded⟩ := bind_ok loaded
  obtain ⟨withPageStage, pageStage, loaded⟩ := bind_ok loaded
  obtain ⟨⟨pageFiles, physicalBytes⟩, loadedPages, loaded⟩ := bind_ok loaded
  obtain ⟨_, bounded, loaded⟩ := bind_ok loaded
  obtain ⟨_, valid, loaded⟩ := bind_ok loaded
  cases loaded
  have atStage := listed_iff indexStageName rootListed fun _ => by decide
  have atPageStage := listed_iff pageStageName pagesListed nofun
  obtain ⟨lockFile, lockFound, lockPrivate, lockEmpty⟩ := validateLock_ok.mp locked
  have lockContent : lockFile.content = [] := List.eq_nil_of_length_eq_zero
    (Nat.le_zero.mp (lockEmpty 0 rfl))
  obtain ⟨readsIndex, indexPrivate, rfl, rfl⟩ := readIndex_ok.mp read
  obtain ⟨indexStageFits, rfl⟩ := (addStage_ok (decide_eq_decide.mpr atStage)).mp indexStage
  obtain ⟨pageStageFits, rfl⟩ := (addStage_ok (decide_eq_decide.mpr atPageStage)).mp pageStage
  obtain ⟨keys, has, rfl⟩ := loadPages_ok loadedPages
  obtain ⟨rootKnown, _, _⟩ := validatedDirectoryNames_ok.mp rootListed
  obtain ⟨pagesKnown, fewPages, sorted⟩ := validatedDirectoryNames_ok.mp pagesListed
  have known : ∀ shape, ∀ name ∈ d.names shape, directoryNameIsKnown shape name = true := by
    intro shape
    cases shape with
    | root => exact rootKnown
    | pages => exact pagesKnown
  have nodup : pageNames.Nodup := by
    rw [sorted]
    exact (List.perm_insertionSort _ _).nodup_iff.mpr (names_nodup tidy .pages)
  have physical : d.files.used = d.files.size indexPlace + d.files.size indexStagePlace +
      d.files.size pageStagePlace + pageBytesSum d pageNames := by
    refine used_eq_physical tidy known ?_ nodup fun name => ?_
    · rw [Volume.size_of_stat lockFound, lockContent]
      rfl
    · rw [sorted, List.mem_insertionSort]
  have digests : ∀ digest, digest ∈ pageFiles.map (·.1) ↔
      pagePlace digest ∈ d.files.names ∧ digest ≠ pageStageName := by
    intro digest
    rw [keys, List.mem_filter, listed_iff _ pagesListed nofun]
    simp only [ne_eq, decide_eq_true_eq]
    rfl
  have lookups : ∀ digest metadata, pageFiles.lookup digest = some metadata ↔
      ∃ page, HasPage host d digest page metadata := by
    intro digest metadata
    constructor
    · intro found
      exact has _ (mem_of_lookup found)
    · rintro ⟨page, held⟩
      obtain ⟨file, found, _, content, _⟩ := id held
      have named : digest ∈ pageFiles.map (·.1) := by
        refine (digests digest).mpr ⟨?_, ?_⟩
        · obtain ⟨number, opened, _⟩ := Volume.stat_eq_some.mp found
          exact Volume.mem_names.mpr ⟨number, opened⟩
        · rintro rfl
          have named := content.named
          rw [pageStageName_not_digest] at named
          cases named
      obtain ⟨stored, found⟩ := Option.isSome_iff_exists.mp (lookup_isSome_of_mem named)
      obtain ⟨other, stored⟩ := has _ (mem_of_lookup found)
      rw [found, (held.unique stored).2]
  refine ⟨⟨validateDirectory_ok.mp root, validateDirectory_ok.mp pages, ?_, ?_, readsIndex,
    fewPages, ?_, pageFiles, valid, fun digest metadata found _ => (lookups _ _).mp found⟩,
    ⟨lookups, digests, physical.symm, decide_eq_decide.mpr atStage,
      decide_eq_decide.mpr atPageStage⟩⟩
  · obtain ⟨number, opened, _⟩ := Volume.stat_eq_some.mp lockFound
    exact Volume.mem_names.mpr ⟨number, opened⟩
  · rintro ⟨directory, name⟩ file found
    obtain ⟨number, opened, _⟩ := Volume.stat_eq_some.mp found
    have member := Volume.mem_names.mpr ⟨number, opened⟩
    have seen := known directory name (mem_names.mpr (.inl member))
    cases directory with
    | root =>
      simp only [directoryNameIsKnown, List.contains_eq_mem, List.mem_cons, List.not_mem_nil,
        or_false, decide_eq_true_eq] at seen
      rcases seen with rfl | rfl | rfl | rfl
      · have same := found.symm.trans lockFound
        cases same
        exact ⟨lockPrivate, .inl ⟨rfl, lockContent⟩⟩
      · have fits : ReadsIndex host index (some file) := found ▸ readsIndex
        exact ⟨indexPrivate file found, .inr (.inl ⟨rfl, fits.1⟩)⟩
      · obtain ⟨isPrivate, short, _⟩ := indexStageFits file found
        exact ⟨isPrivate, .inr (.inr ⟨rfl, short⟩)⟩
      · exact absurd member tidy
    | pages =>
      by_cases stage : name = pageStageName
      · subst stage
        obtain ⟨isPrivate, short, _⟩ := pageStageFits file found
        exact ⟨isPrivate, .inl ⟨rfl, short⟩⟩
      · obtain ⟨stored, named⟩ := Option.isSome_iff_exists.mp
          (lookup_isSome_of_mem ((digests name).mpr ⟨member, stage⟩))
        obtain ⟨page, other, again, isPrivate, content, _⟩ := has _ (mem_of_lookup named)
        have same := found.symm.trans again
        cases same
        exact ⟨isPrivate, .inr ⟨page, content⟩⟩
  · rw [refuse_eq_ok] at bounded
    rw [physical]
    exact Nat.not_lt.mp bounded

theorem loaded_valid {state : ValidatedCacheState}
    (loaded : loadValidatedCacheState host d = .ok state) :
    validateIndex state.index state.inventory.pageFiles = .ok () := by
  unfold loadValidatedCacheState at loaded
  obtain ⟨_, _, loaded⟩ := bind_ok loaded
  obtain ⟨_, _, loaded⟩ := bind_ok loaded
  obtain ⟨_, _, loaded⟩ := bind_ok loaded
  obtain ⟨_, _, loaded⟩ := bind_ok loaded
  obtain ⟨_, _, loaded⟩ := bind_ok loaded
  obtain ⟨_, _, loaded⟩ := bind_ok loaded
  obtain ⟨_, _, loaded⟩ := bind_ok loaded
  obtain ⟨_, _, loaded⟩ := bind_ok loaded
  obtain ⟨_, _, loaded⟩ := bind_ok loaded
  obtain ⟨_, _, loaded⟩ := bind_ok loaded
  obtain ⟨_, _, loaded⟩ := bind_ok loaded
  obtain ⟨_, _, loaded⟩ := bind_ok loaded
  obtain ⟨_, valid, loaded⟩ := bind_ok loaded
  cases loaded
  exact valid

theorem Sound.known (sound : Sound host d index) (shape : DirectoryShape) (name : String)
    (member : name ∈ d.names shape) : directoryNameIsKnown shape name = true := by
  rcases mem_names.mp member with held | ⟨rfl, _, rfl⟩
  · obtain ⟨number, opened⟩ := Volume.mem_names.mp held
    have fits := (sound.files _ _ (Volume.stat_eq_some.mpr ⟨number, opened, rfl⟩)).2
    cases shape with
    | root =>
      rcases fits with ⟨same, _⟩ | ⟨same, _⟩ | ⟨same, _⟩ <;>
        (rw [show name = _ from same]; decide)
    | pages =>
      rcases fits with ⟨same, _⟩ | ⟨page, content⟩
      · rw [show name = _ from same]
        decide
      · unfold directoryNameIsKnown
        rw [show isDigestName name = true from content.named, Bool.or_true]
  · decide

theorem Sound.namesValid (sound : Sound host d index) (shape : DirectoryShape) :
    ∃ names, validatedDirectoryNames d shape = .ok names := by
  refine ⟨_, validatedDirectoryNames_ok.mpr ⟨sound.known shape, ?_, rfl⟩⟩
  cases shape with
  | pages => exact sound.fewPages
  | root =>
    have known : d.names .root ⊆ [lockName, indexName, indexStageName, pagesDirectoryName] := by
      intro name member
      simpa [directoryNameIsKnown] using sound.known .root name member
    exact ((names_nodup sound.tidy .root).subperm known).length_le

theorem Sound.directory (sound : Sound host d index) (shape : DirectoryShape) :
    validateDirectory host d shape = .ok () := by
  refine validateDirectory_ok.mpr ?_
  cases shape with
  | root => exact sound.root
  | pages => exact sound.pages

theorem Sound.lockFile (sound : Sound host d index) : ∃ file, d.files.stat lockPlace = some file ∧
    PrivateFile host file ∧ file.content = [] := by
  obtain ⟨number, opened⟩ := Volume.mem_names.mp sound.lock
  have found : d.files.stat lockPlace = some (d.files.status number) :=
    Volume.stat_eq_some.mpr ⟨number, opened, rfl⟩
  obtain ⟨isPrivate, fits⟩ := sound.files _ _ found
  refine ⟨_, found, isPrivate, ?_⟩
  rcases fits with ⟨_, empty⟩ | ⟨same, _⟩ | ⟨same, _⟩
  · exact empty
  · exact absurd same (by decide)
  · exact absurd same (by decide)

theorem Sound.lockValid (sound : Sound host d index) (maxLength : Option Nat) :
    validateLock host d maxLength = .ok () := by
  obtain ⟨file, found, isPrivate, empty⟩ := sound.lockFile
  exact validateLock_ok.mpr ⟨file, found, isPrivate, by simp [empty]⟩

theorem Sound.load (sound : Sound host d index) :
    ∃ inventory, loadValidatedCacheState host d = .ok ⟨index, inventory⟩ := by
  obtain ⟨rootNames, rootListed⟩ := sound.namesValid .root
  obtain ⟨pageNames, pagesListed⟩ := sound.namesValid .pages
  obtain ⟨lockFile, lockFound, _, lockEmpty⟩ := sound.lockFile
  have atLock := listed_iff lockName rootListed fun _ => by decide
  have atIndex := listed_iff indexName rootListed fun _ => by decide
  have atStage := listed_iff indexStageName rootListed fun _ => by decide
  have atPageStage := listed_iff pageStageName pagesListed nofun
  have atPages : pagesDirectoryName ∈ rootNames := by
    obtain ⟨_, _, sorted⟩ := validatedDirectoryNames_ok.mp rootListed
    rw [sorted, List.mem_insertionSort, mem_names]
    exact .inr ⟨rfl, by simp [sound.pages], rfl⟩
  obtain ⟨_, _, sorted⟩ := validatedDirectoryNames_ok.mp pagesListed
  have nodup : pageNames.Nodup := by
    rw [sorted]
    exact (List.perm_insertionSort _ _).nodup_iff.mpr (names_nodup sound.tidy .pages)
  have physical : d.files.used = d.files.size indexPlace + d.files.size indexStagePlace +
      d.files.size pageStagePlace + pageBytesSum d pageNames := by
    refine used_eq_physical sound.tidy sound.known ?_ nodup fun name => ?_
    · rw [Volume.size_of_stat lockFound, lockEmpty]
      rfl
    · rw [sorted, List.mem_insertionSort]
  have bounded := sound.bounded
  have word : maxPhysicalBytes < 2 ^ 64 := by decide
  have read : readIndex host d =
      .ok (index, d.files.size indexPlace, (d.files.stat indexPlace).isSome) :=
    readIndex_ok.mpr ⟨sound.readsIndex, fun file found => (sound.files _ _ found).1, rfl, rfl⟩
  have indexStage : addStage host d (decide (indexStageName ∈ rootNames)) indexStagePlace
      maxIndexBytes (d.files.size indexPlace) =
        .ok (d.files.size indexPlace + d.files.size indexStagePlace) := by
    refine (addStage_ok (decide_eq_decide.mpr atStage)).mpr ⟨fun file found => ?_, rfl⟩
    obtain ⟨isPrivate, fits⟩ := sound.files _ _ found
    refine ⟨isPrivate, ?_, ?_⟩
    · rcases fits with ⟨same, _⟩ | ⟨same, _⟩ | ⟨_, short⟩
      · exact absurd same (by decide)
      · exact absurd same (by decide)
      · exact short
    · have size : d.files.size indexStagePlace = file.content.length := Volume.size_of_stat found
      omega
  have pageStage : addStage host d (decide (pageStageName ∈ pageNames)) pageStagePlace
      maxPageBytes (d.files.size indexPlace + d.files.size indexStagePlace) =
        .ok (d.files.size indexPlace + d.files.size indexStagePlace +
          d.files.size pageStagePlace) := by
    refine (addStage_ok (decide_eq_decide.mpr atPageStage)).mpr ⟨fun file found => ?_, rfl⟩
    obtain ⟨isPrivate, fits⟩ := sound.files _ _ found
    refine ⟨isPrivate, ?_, ?_⟩
    · rcases fits with ⟨_, short⟩ | ⟨page, content⟩
      · exact short
      · exact content.short
    · have size : d.files.size pageStagePlace = file.content.length := Volume.size_of_stat found
      omega
  have held : ∀ name ∈ pageNames, name ≠ pageStageName →
      ∃ page metadata, HasPage host d name page metadata := by
    intro name member other
    rw [sorted, List.mem_insertionSort] at member
    rcases mem_names.mp member with held | ⟨root, _⟩
    · obtain ⟨number, opened⟩ := Volume.mem_names.mp held
      have found : d.files.stat ⟨.pages, name⟩ = some (d.files.status number) :=
        Volume.stat_eq_some.mpr ⟨number, opened, rfl⟩
      obtain ⟨isPrivate, ⟨same, _⟩ | ⟨page, content⟩⟩ := sound.files _ _ found
      · exact absurd same other
      · exact ⟨page, _, _, found, isPrivate, content, rfl⟩
    · cases root
  have small : d.files.size indexPlace + d.files.size indexStagePlace +
      d.files.size pageStagePlace + pageBytesSum d pageNames < 2 ^ 64 := by
    omega
  obtain ⟨pageFiles, loadedPages⟩ := loadPages_of_pages held small
  have valid : validateIndex index pageFiles = .ok () := by
    obtain ⟨others, validated, has⟩ := sound.valid
    rw [← validated]
    refine validateIndex_congr fun digest referenced => ?_
    obtain ⟨entry, member, rfl⟩ := List.mem_map.mp referenced
    obtain ⟨metadata, found, _⟩ := validateIndex_pages validated entry member
    obtain ⟨page, held⟩ := has _ _ found referenced
    rw [found]
    obtain ⟨file, named, isPrivate, content, _⟩ := id held
    obtain ⟨keys, pages, _⟩ := loadPages_ok loadedPages
    have listed : entry.identity.pageSha256 ∈ pageFiles.map (·.1) := by
      rw [keys, List.mem_filter, listed_iff _ pagesListed nofun]
      refine ⟨?_, ?_⟩
      · obtain ⟨number, opened, _⟩ := Volume.stat_eq_some.mp named
        exact Volume.mem_names.mpr ⟨number, opened⟩
      · rw [decide_eq_true_eq]
        intro same
        have digest := content.named
        rw [same, pageStageName_not_digest] at digest
        cases digest
    obtain ⟨stored, again⟩ := Option.isSome_iff_exists.mp (lookup_isSome_of_mem listed)
    obtain ⟨other, stores⟩ := pages _ (mem_of_lookup again)
    rw [again, (held.unique stores).2]
  refine ⟨⟨pageFiles, d.files.size indexPlace + d.files.size indexStagePlace +
    d.files.size pageStagePlace + pageBytesSum d pageNames, decide (indexStageName ∈ rootNames),
    decide (pageStageName ∈ pageNames)⟩, ?_⟩
  unfold loadValidatedCacheState
  have names : refuse .integrity (lockName ∉ rootNames ∨ pagesDirectoryName ∉ rootNames) =
      .ok () := by
    rw [refuse_eq_ok, not_or, not_not, not_not]
    exact ⟨atLock.mpr sound.lock, atPages⟩
  have agrees : refuse .integrity
      (decide (indexName ∈ rootNames) ≠ (d.files.stat indexPlace).isSome) = .ok () := by
    rw [refuse_eq_ok, not_not]
    cases present : d.files.stat indexPlace with
    | none =>
      have missing := mt atIndex.mp (Volume.stat_eq_none.mp present)
      simp [missing]
    | some file =>
      obtain ⟨number, opened, _⟩ := Volume.stat_eq_some.mp present
      have listed := atIndex.mpr (Volume.mem_names.mpr ⟨number, opened⟩)
      simp [listed]
  rw [sound.directory .root, ok_bind, sound.directory .pages, ok_bind, sound.lockValid (some 0),
    ok_bind, rootListed, ok_bind, pagesListed, ok_bind, names, ok_bind, read, ok_bind]
  dsimp only
  rw [agrees, ok_bind, indexStage, ok_bind, pageStage, ok_bind, loadedPages, ok_bind]
  dsimp only
  rw [refuse_eq_ok.mpr (by omega), ok_bind, valid, ok_bind]

end Decodex.Source.Gpui
