import Decodex.Source.Gpui.CacheContents
import Decodex.Source.Gpui.PageCache

/-!
# History page cache: what each script leaves

One lemma for each call says how a sound directory changes, and one crash triple for each
script says what a process that stops in it leaves: a directory that is sound for the same
index, except after the hard link of a page, when the stage has two names.
-/
namespace Decodex.Source.Gpui

open Decodex.Library Decodex.Source.Core

variable {host : CacheHost} {d t : CacheDirectory} {index : CacheIndex}

theorem Sound.unshared (sound : Sound host d index) : d.files.Unshared :=
  Volume.unshared_of_links fun place file found => (sound.files place file found).1.links

/-- The files that the index needs. -/
def Needed (index : CacheIndex) (place : Place) : Prop :=
  place = lockPlace ∨ place = indexPlace ∨
    ∃ digest ∈ referencedDigests index, place = pagePlace digest

theorem pageNames_le {files : Volume Place} (extra : List String)
    (added : ∀ name, (⟨.pages, name⟩ : Place) ∈ files.names →
      name ∈ extra ∨ (⟨.pages, name⟩ : Place) ∈ d.files.names)
    (still : ({ d with files } : CacheDirectory).Tidy) :
    (({ d with files } : CacheDirectory).names .pages).length ≤
      extra.length + (d.names .pages).length := by
  rw [← List.length_append]
  refine ((names_nodup still .pages).subperm fun name member => ?_).length_le
  rcases mem_names.mp member with held | ⟨root, _⟩
  · rcases added name held with new | old
    · exact List.mem_append_left _ new
    · exact List.mem_append_right _ (mem_names.mpr (.inl old))
  · cases root

theorem stat_isSome {place : Place} : (d.files.stat place).isSome = true ↔ place ∈ d.files.names := by
  rw [← not_iff_not, ← Volume.stat_eq_none]
  simp

/-- Files may come and go beside those that the index needs. -/
theorem Sound.withFiles {files : Volume Place} (sound : Sound host d index)
    (fits : ∀ place file, files.stat place = some file → d.files.stat place = some file ∨
      (PrivateFile host file ∧ FileFits host place file.content))
    (kept : ∀ place, Needed index place → files.stat place = d.files.stat place)
    (few : (({ d with files } : CacheDirectory).names .pages).length ≤ maxPhysicalPageNames)
    (bounded : files.used ≤ maxPhysicalBytes) :
    Sound host { d with files } index where
  root := sound.root
  pages := sound.pages
  lock := by
    have held := stat_isSome.mpr sound.lock
    rw [← kept lockPlace (.inl rfl)] at held
    exact (stat_isSome (d := { d with files })).mp held
  files := fun place file found => by
    rcases fits place file found with old | new
    · exact sound.files place file old
    · exact new
  readsIndex := by
    have same := kept indexPlace (.inr (.inl rfl))
    change ReadsIndex host index (files.stat indexPlace)
    rw [same]
    exact sound.readsIndex
  fewPages := few
  bounded := bounded
  valid := sound.valid.congr fun digest referenced =>
    kept _ (.inr (.inr ⟨digest, referenced, rfl⟩))

/-- A removed file that the index does not need. -/
theorem Sound.remove (sound : Sound host d index) {place : Place} (spare : ¬Needed index place) :
    Sound host { d with files := d.files.remove place } index := by
  have stat (other : Place) : (d.files.remove place).stat other =
      if other = place then none else d.files.stat other := Volume.remove_stat sound.unshared
  have sub : ∀ other, other ∈ (d.files.remove place).names → other ∈ d.files.names := by
    intro other member
    have held := (stat_isSome (d := { d with files := d.files.remove place })).mpr member
    rw [show (({ d with files := d.files.remove place } : CacheDirectory).files.stat other) = _ from
      stat other] at held
    split at held
    · cases held
    · exact stat_isSome.mp held
  refine sound.withFiles (fun other file found => ?_) (fun other needed => ?_) ?_ ?_
  · rw [stat] at found
    split at found
    · cases found
    · exact .inl found
  · rw [stat, if_neg]
    rintro rfl
    exact spare needed
  · refine Nat.le_trans (pageNames_le [] (fun name member => ?_) ?_) ?_
    · exact .inr (sub _ member)
    · exact fun member => sound.tidy (sub _ member)
    · simpa using sound.fewPages
  · exact Nat.le_trans Volume.remove_used_le sound.bounded

theorem Sound.referenced (sound : Sound host d index) {digest : String}
    (member : digest ∈ referencedDigests index) :
    ∃ page metadata, HasPage host d digest page metadata := by
  obtain ⟨pageFiles, validated, has⟩ := sound.valid
  obtain ⟨entry, held, rfl⟩ := List.mem_map.mp member
  obtain ⟨metadata, found, _⟩ := validateIndex_pages validated entry held
  obtain ⟨page, exact⟩ := has _ _ found member
  exact ⟨page, metadata, exact⟩

def stagePlace : DirectoryShape → Place
  | .root => indexStagePlace
  | .pages => pageStagePlace

def stageMaximum : DirectoryShape → Nat
  | .root => maxIndexBytes
  | .pages => maxPageBytes

theorem Sound.stageSpare (sound : Sound host d index) (shape : DirectoryShape) :
    ¬Needed index (stagePlace shape) := by
  cases shape with
  | root =>
    rintro (same | same | ⟨digest, _, same⟩)
    · exact absurd same (by decide)
    · exact absurd same (by decide)
    · cases same
  | pages =>
    rintro (same | same | ⟨digest, member, same⟩)
    · exact absurd same (by decide)
    · exact absurd same (by decide)
    · obtain ⟨_, _, _, _, _, content, _⟩ := sound.referenced member
      have named := content.named
      rw [← show pageStageName = digest from congrArg Place.name same,
        pageStageName_not_digest] at named
      cases named

theorem stageFits {shape : DirectoryShape} {content : List UInt8}
    (short : content.length ≤ stageMaximum shape) : FileFits host (stagePlace shape) content := by
  cases shape with
  | root => exact .inr (.inr ⟨rfl, short⟩)
  | pages => exact .inl ⟨rfl, short⟩

/-- A stage that has been written so far, beside the files of `d`. -/
structure Writing (host : CacheHost) (d : CacheDirectory) (index : CacheIndex)
    (shape : DirectoryShape) (number : Nat) (written : List UInt8) (t : CacheDirectory) :
    Prop where
  sound : Sound host t index
  opened : t.files.lookup (stagePlace shape) = some number
  content : (t.files.inode number).content = written
  others : ∀ other, other ≠ stagePlace shape → t.files.stat other = d.files.stat other
  fresh : d.files.stat (stagePlace shape) = none
  used : t.files.used = d.files.used + written.length

theorem Writing.stat {shape : DirectoryShape} {number : Nat} {written : List UInt8}
    (writing : Writing host d index shape number written t) :
    ∃ file, t.files.stat (stagePlace shape) = some file ∧ PrivateFile host file ∧
      file.content = written := by
  have found : t.files.stat (stagePlace shape) = some (t.files.status number) :=
    Volume.stat_eq_some.mpr ⟨number, writing.opened, rfl⟩
  exact ⟨_, found, (writing.sound.files _ _ found).1, writing.content⟩

theorem Sound.create (sound : Sound host d index) {shape : DirectoryShape} {number : Nat}
    {files : Volume Place} (room : shape = .pages →
      (d.names .pages).length < maxPhysicalPageNames)
    (created : d.files.create (stagePlace shape) host.effectiveUid privateFileMode =
      .ok (number, files)) :
    Writing host d index shape number [] { d with files } := by
  obtain ⟨fresh, opened, stat⟩ := Volume.create_spec created
  have sub : ∀ other, other ∈ files.names → other = stagePlace shape ∨ other ∈ d.files.names := by
    intro other member
    have held := (stat_isSome (d := { d with files })).mpr member
    rw [show (({ d with files } : CacheDirectory).files.stat other) = _ from stat other] at held
    split at held
    · rename_i same
      exact .inl same
    · exact .inr (stat_isSome.mp held)
  have still : ({ d with files } : CacheDirectory).Tidy := by
    intro member
    rcases sub _ member with same | old
    · revert same
      cases shape <;> decide
    · exact sound.tidy old
  have content : (files.inode number).content = [] := by
    have found := stat (stagePlace shape)
    rw [if_pos rfl] at found
    obtain ⟨other, again, same⟩ := Volume.stat_eq_some.mp found
    rw [opened] at again
    cases again
    exact congrArg (·.content) same
  refine ⟨sound.withFiles (fun other file found => ?_) (fun other needed => ?_) ?_ ?_, opened,
    content, fun other differs => ?_, fresh, ?_⟩
  · rw [stat] at found
    split at found
    · rename_i same
      cases found
      rw [same]
      exact .inr ⟨⟨rfl, rfl, rfl⟩, stageFits (Nat.zero_le _)⟩
    · exact .inl found
  · rw [stat, if_neg]
    rintro rfl
    exact sound.stageSpare shape needed
  · cases shape with
    | root =>
      refine Nat.le_trans (pageNames_le [] (fun name member => ?_) still) ?_
      · rcases sub _ member with same | old
        · cases same
        · exact .inr old
      · simpa using sound.fewPages
    | pages =>
      have grown := pageNames_le [pageStageName] (fun name member => ?_) still
      · have := room rfl
        rw [List.length_singleton] at grown
        omega
      · rcases sub _ member with same | old
        · exact .inl (List.mem_singleton.mpr (congrArg Place.name same))
        · exact .inr old
  · rw [Volume.create_used created]
    exact sound.bounded
  · exact (stat other).trans (if_neg differs)
  · exact Volume.create_used created

/-- One more chunk at the end of a stage. -/
theorem Writing.append {shape : DirectoryShape} {number : Nat} {written chunk : List UInt8}
    (writing : Writing host d index shape number written t)
    (short : written.length + chunk.length ≤ stageMaximum shape)
    (room : d.files.used + (written.length + chunk.length) ≤ maxPhysicalBytes) :
    Writing host d index shape number (written ++ chunk)
      { t with files := t.files.pwrite number written.length chunk } := by
  have sound := writing.sound
  obtain ⟨file, found, isPrivate, _⟩ := writing.stat
  have stat := Volume.pwrite_stat sound.unshared writing.opened written.length chunk
  have content : (t.files.pwrite number written.length chunk).inode number =
      { t.files.inode number with content := written ++ chunk } := by
    rw [Volume.pwrite_inode (Volume.lookup_lt writing.opened), writing.content,
      List.take_length, List.drop_eq_nil_of_le (by omega), List.append_nil]
  have used := Volume.pwrite_used sound.unshared writing.opened written.length chunk
  rw [content, writing.content, writing.used, List.length_append] at used
  have total : (t.files.pwrite number written.length chunk).used =
      d.files.used + (written ++ chunk).length := by
    rw [List.length_append]
    omega
  refine ⟨sound.withFiles (fun other changed reached => ?_) (fun other needed => ?_) ?_ ?_,
    writing.opened, congrArg (·.content) content, fun other differs => ?_, writing.fresh, total⟩
  · rw [stat] at reached
    split at reached
    · rename_i same
      cases reached
      obtain ⟨again, reopened, status⟩ := Volume.stat_eq_some.mp found
      rw [writing.opened] at reopened
      cases reopened
      subst status
      rw [same]
      refine .inr ⟨⟨?_, ?_, isPrivate.links⟩, stageFits ?_⟩
      · exact (congrArg (·.owner) content).trans isPrivate.owner
      · exact (congrArg (·.mode) content).trans isPrivate.mode
      · rw [show (Volume.status _ number).content = _ from congrArg (·.content) content,
          List.length_append]
        exact short
    · exact .inl reached
  · rw [stat, if_neg]
    rintro rfl
    exact sound.stageSpare shape needed
  · exact sound.fewPages
  · rw [total, List.length_append]
    exact room
  · exact (stat other).trans ((if_neg differs).trans (writing.others other differs))

/-- A page that has its name while the stage still names it too. -/
structure Doubled (t : CacheDirectory) : Prop where
  tidy : t.Tidy
  stage : ∃ file, t.files.stat pageStagePlace = some file ∧ file.links = 2

/-- Sound for the index, whose pages are still those of `base`. -/
structure Steady (host : CacheHost) (base : CacheDirectory) (index : CacheIndex)
    (t : CacheDirectory) : Prop where
  sound : Sound host t index
  pages : ∀ digest ∈ referencedDigests index,
    t.files.stat (pagePlace digest) = base.files.stat (pagePlace digest)

/-- What a stop right after a call leaves. -/
def Crashed (host : CacheHost) (base : CacheDirectory) (index : CacheIndex) (call : Call)
    (t : CacheDirectory) : Prop :=
  if call = .link then Doubled t else Steady host base index t

/-- A script that fails leaves a steady directory. -/
def Failed (host : CacheHost) (base : CacheDirectory) (index : CacheIndex) (_ : CacheFailure)
    (t : CacheDirectory) : Prop := Steady host base index t

abbrev CrashTriple {α : Type} (host : CacheHost) (base : CacheDirectory) (index : CacheIndex)
    (pre : CacheDirectory → Prop) (script : CacheScript α) (post : α → CacheDirectory → Prop) :
    Prop :=
  script.Meets pre (Crashed host base index) (Failed host base index) post

/-- A script that keeps the index ends in a steady directory, with a value or without. -/
theorem CrashTriple.final {α : Type} {base : CacheDirectory} {pre : CacheDirectory → Prop}
    {script : CacheScript α}
    (meets : CrashTriple host base index pre script fun _ t => Steady host base index t)
    (start : pre d) : Steady host base index (script d).final := by
  obtain ⟨_, left⟩ := meets d start
  split at left <;> exact left

theorem Steady.self (sound : Sound host d index) : Steady host d index d := ⟨sound, fun _ _ => rfl⟩

theorem Steady.remove {base : CacheDirectory} {place : Place} (steady : Steady host base index t)
    (spare : ¬Needed index place) :
    Steady host base index { t with files := t.files.remove place } := by
  refine ⟨steady.sound.remove spare, fun digest referenced => ?_⟩
  rw [← steady.pages digest referenced]
  refine (Volume.remove_stat steady.sound.unshared).trans (if_neg ?_)
  rintro rfl
  exact spare (.inr (.inr ⟨digest, referenced, rfl⟩))

theorem Writing.steady {base : CacheDirectory} {shape : DirectoryShape} {number : Nat}
    {written : List UInt8} (steady : Steady host base index d)
    (writing : Writing host d index shape number written t) : Steady host base index t := by
  refine ⟨writing.sound, fun digest referenced => ?_⟩
  rw [← steady.pages digest referenced]
  refine writing.others _ fun same => ?_
  exact steady.sound.stageSpare shape (.inr (.inr ⟨digest, referenced, same.symm⟩))

variable {pre : CacheDirectory → Prop} {base : CacheDirectory} {kernel : Kernel}

theorem meets_reading {α : Type} {look : CacheDirectory → Except CacheFailure α}
    {post : α → CacheDirectory → Prop} (steady : ∀ t, pre t → Steady host base index t)
    (seen : ∀ t value, pre t → look t = .ok value → post value t) :
    CrashTriple host base index pre (reading look) post :=
  Script.Meets.observe (fun t _ start _ => steady t start) seen

theorem meets_check (steady : ∀ t, pre t → Steady host base index t) (edge : DurabilityEdge) :
    CrashTriple host base index pre (check kernel edge) fun _ => pre :=
  Script.Meets.observe (fun t _ start _ => steady t start) fun _ _ start _ => start

theorem meets_sync (steady : ∀ t, pre t → Steady host base index t) :
    CrashTriple host base index pre syncFile fun _ => pre := by
  refine Script.Meets.step (fun _ _ _ failed => by cases failed) fun t _ after start done => ?_
  cases done
  exact ⟨steady t start, start⟩

theorem meets_checkedSync (steady : ∀ t, pre t → Steady host base index t) (edge : DurabilityEdge) :
    CrashTriple host base index pre (do check kernel edge; syncFile) fun _ => pre :=
  .bind _ (meets_check steady edge) fun _ => meets_sync steady

theorem meets_syncChanged (steady : ∀ t, pre t → Steady host base index t) (changed : Bool) :
    CrashTriple host base index pre (syncChanged kernel changed) fun _ => pre := by
  unfold syncChanged
  exact .provided (fun _ => meets_checkedSync steady _) fun _ _ start => start

theorem meets_unlink {place : Place} {post : Unit → CacheDirectory → Prop}
    (steady : ∀ t, pre t → Steady host base index t) (spare : ∀ t, pre t → ¬Needed index place)
    (removed : ∀ t, pre t → post () { t with files := t.files.remove place }) :
    CrashTriple host base index pre (unlinkAt place) post := by
  refine Script.Meets.step (fun t _ start _ => steady t start) fun t _ after start done => ?_
  unfold Volume.unlink at done
  split at done
  · rename_i files unlinked
    split at unlinked
    · cases unlinked
      cases done
      exact ⟨(steady t start).remove (spare t start), removed t start⟩
    · cases unlinked
  · cases done

theorem meets_writeAll {shape : DirectoryShape} {number : Nat} {bytes : List UInt8}
    (steady : Steady host base index d) (short : bytes.length ≤ stageMaximum shape)
    (room : d.files.used + bytes.length ≤ maxPhysicalBytes) (writes : List Nat) (written rest : List UInt8)
    (whole : written ++ rest = bytes) :
    CrashTriple host base index (Writing host d index shape number written)
      (writeAll number writes written.length rest)
      fun _ => Writing host d index shape number bytes := by
  have total : written.length + rest.length = bytes.length := by
    rw [← whole, List.length_append]
  induction writes generalizing written rest with
  | nil =>
    cases rest with
    | nil =>
      rw [List.append_nil] at whole
      exact .ret fun t start => whole ▸ start
    | cons byte rest =>
      unfold writeAll writeAt
      refine Script.Meets.step (fun _ _ _ failed => by cases failed) fun t _ after start done => ?_
      cases done
      have appended := start.append (total ▸ short) (total ▸ room)
      rw [whole] at appended
      exact ⟨appended.steady steady, appended⟩
  | cons more writes ih =>
    cases rest with
    | nil =>
      rw [List.append_nil] at whole
      exact .ret fun t start => whole ▸ start
    | cons byte rest =>
      have chunk : ((byte :: rest).take (more + 1)).length ≤ (byte :: rest).length := by
        rw [List.length_take]
        exact Nat.min_le_right _ _
      have cut := congrArg List.length (List.take_append_drop (more + 1) (byte :: rest))
      rw [List.length_append] at cut
      refine .bind (fun _ => Writing host d index shape number
        (written ++ (byte :: rest).take (more + 1))) ?_ fun _ => ?_
      · unfold writeAt
        refine Script.Meets.step (fun _ _ _ failed => by cases failed) fun t _ after start done => ?_
        cases done
        have appended : Writing _ _ _ _ _ (written ++ (byte :: rest).take (more + 1)) _ :=
          start.append (by omega) (by omega)
        exact ⟨appended.steady steady, appended⟩
      · rw [← List.length_append]
        refine ih _ _ ?_ ?_
        · rw [List.append_assoc, List.take_append_drop, whole]
        · rw [List.length_append]
          omega

/-- A whole synced stage beside the files of `d`. -/
theorem meets_stageFile (shape : DirectoryShape) {bytes : List UInt8}
    (short : bytes.length ≤ stageMaximum shape)
    (room : d.files.used + bytes.length ≤ maxPhysicalBytes)
    (names : shape = .pages → (d.names .pages).length < maxPhysicalPageNames)
    (steady : Steady host base index d) (writes : List Nat) (edge : DurabilityEdge) :
    CrashTriple host base index (· = d) (stageFile host kernel (stagePlace shape) writes edge bytes)
      fun _ t => ∃ number, Writing host d index shape number bytes t := by
  have own : ∀ t, t = d → Steady host base index t := fun t same => same ▸ steady
  have writing : ∀ number t, Writing host d index shape number bytes t →
      Steady host base index t := fun _ _ held => held.steady steady
  unfold stageFile
  refine .bind (fun number => Writing host d index shape number []) ?_ fun number => ?_
  · unfold createNewFileAt
    refine .bind (fun number => Writing host d index shape number []) ?_ fun number => ?_
    · refine Script.Meets.step (fun t _ start _ => own t start) fun t number after start done => ?_
      subst start
      split at done
      · rename_i created
        cases done
        have held := steady.sound.create names created
        exact ⟨held.steady steady, held⟩
      · cases done
    · refine .bind _ (meets_reading (fun _ held => held.steady steady) fun _ _ held _ => held) fun _ => ?_
      exact .ret fun _ held => held
  · refine .bind _ (meets_writeAll steady short room writes [] bytes rfl) fun _ => ?_
    refine .bind _ (meets_reading (writing number) fun _ _ held _ => held) fun _ => ?_
    refine .bind _ (meets_check (writing number) edge) fun _ => ?_
    exact (meets_sync (writing number)).weaken (fun _ held => held) (fun _ _ held => held)
      fun _ _ held => ⟨number, held⟩

/-- One more page beside the files of `d`. -/
structure Published (host : CacheHost) (d : CacheDirectory) (index : CacheIndex) (digest : String)
    (bytes : List UInt8) (t : CacheDirectory) : Prop where
  sound : Sound host t index
  page : ∃ file, t.files.stat (pagePlace digest) = some file ∧ file.content = bytes
  others : ∀ other, other ≠ pagePlace digest → t.files.stat other = d.files.stat other
  used : t.files.used = d.files.used + bytes.length

theorem Published.steady {digest : String} {bytes : List UInt8} (steady : Steady host base index d)
    (absent : d.files.stat (pagePlace digest) = none)
    (published : Published host d index digest bytes t) : Steady host base index t := by
  refine ⟨published.sound, fun other referenced => ?_⟩
  rw [← steady.pages other referenced]
  refine published.others _ fun same => ?_
  obtain ⟨_, _, _, found, _⟩ := steady.sound.referenced referenced
  rw [same, absent] at found
  cases found

theorem Writing.doubled {number : Nat} {bytes : List UInt8} {digest : String} {files : Volume Place}
    (writing : Writing host d index .pages number bytes t)
    (linked : t.files.link pageStagePlace (pagePlace digest) = .ok files) :
    Doubled { t with files } := by
  refine ⟨fun member => ?_, Volume.link_stat writing.sound.unshared linked⟩
  change _ ∈ files.names at member
  rw [(Volume.link_names linked).2, List.mem_append, List.mem_singleton] at member
  rcases member with old | same
  · exact writing.sound.tidy old
  · cases same

/-- Removing the stage of a linked page leaves the page alone. -/
theorem Writing.published {number : Nat} {bytes : List UInt8} {digest : String}
    {files : Volume Place} {page : ConversationHistoryPage host.Item}
    (writing : Writing host d index .pages number bytes t)
    (linked : t.files.link pageStagePlace (pagePlace digest) = .ok files)
    (content : PageContent host digest bytes page) :
    Published host d index digest bytes { t with files := files.remove pageStagePlace } := by
  have sound := writing.sound
  have stat := Volume.link_remove_stat linked
  have absent := (Volume.link_names linked).1
  obtain ⟨file, found, isPrivate, held⟩ := writing.stat
  have others : ∀ other, other ≠ pagePlace digest →
      (files.remove pageStagePlace).stat other = d.files.stat other := by
    intro other differs
    rw [stat, if_neg differs]
    split
    · rename_i same
      rw [same]
      exact writing.fresh.symm
    · rename_i apart
      exact writing.others other apart
  have sub : ∀ other, other ∈ (files.remove pageStagePlace).names →
      other = pagePlace digest ∨ (other ≠ pageStagePlace ∧ other ∈ t.files.names) := by
    intro other member
    have listed := (stat_isSome
      (d := { t with files := files.remove pageStagePlace })).mpr member
    change ((files.remove pageStagePlace).stat other).isSome = true at listed
    rw [stat] at listed
    split at listed
    · rename_i same
      exact .inl same
    · split at listed
      · cases listed
      · rename_i apart
        exact .inr ⟨apart, stat_isSome.mp listed⟩
  have still : ({ t with files := files.remove pageStagePlace } : CacheDirectory).Tidy := by
    intro member
    rcases sub _ member with same | ⟨_, old⟩
    · cases same
    · exact sound.tidy old
  have used : (files.remove pageStagePlace).used = d.files.used + bytes.length := by
    rw [Volume.link_remove_used linked]
    exact writing.used
  refine ⟨sound.withFiles (fun other changed reached => ?_) (fun other needed => ?_) ?_ ?_,
    ⟨file, ?_, held⟩, others, used⟩
  · rw [stat] at reached
    split at reached
    · rename_i same
      refine .inr ?_
      rw [show stagePlace .pages = pageStagePlace from rfl, reached] at found
      cases found
      rw [same, held]
      exact ⟨isPrivate, .inr ⟨page, content⟩⟩
    · split at reached
      · cases reached
      · exact .inl reached
  · rw [stat, if_neg, if_neg]
    · rintro rfl
      exact sound.stageSpare .pages needed
    · rintro rfl
      rcases needed with same | same | ⟨other, member, same⟩
      · cases same
      · cases same
      · obtain ⟨_, _, _, has, _⟩ := sound.referenced member
        rw [← same] at has
        exact absent (stat_isSome.mp (by rw [has]; rfl))
  · have listed : pageStageName ∈ t.names .pages :=
      mem_names.mpr (.inl (stat_isSome.mp (Option.isSome_iff_exists.mpr ⟨file, found⟩)))
    have held : ({ t with files := files.remove pageStagePlace } : CacheDirectory).names .pages ⊆
        digest :: (t.names .pages).erase pageStageName := by
      intro name member
      rcases mem_names.mp member with named | ⟨root, _⟩
      · rcases sub _ named with same | ⟨apart, old⟩
        · rw [show name = digest from congrArg Place.name same]
          exact List.mem_cons_self
        · refine List.mem_cons_of_mem _ ((List.mem_erase_of_ne ?_).mpr (mem_names.mpr (.inl old)))
          rintro rfl
          exact apart rfl
      · cases root
    refine Nat.le_trans ((names_nodup still .pages).subperm held).length_le ?_
    rw [List.length_cons, List.length_erase_of_mem listed,
      Nat.sub_add_cancel (List.length_pos_of_mem listed)]
    exact sound.fewPages
  · rw [used, ← writing.used]
    exact sound.bounded
  · exact (stat _).trans ((if_pos rfl).trans found)

/-- The page has its second name; only the stage is left to remove. -/
def Linked (host : CacheHost) (d : CacheDirectory) (index : CacheIndex) (digest : String)
    (bytes : List UInt8) (created : Bool) (t : CacheDirectory) : Prop :=
  created = true ∧ ∃ number before files, Writing host d index .pages number bytes before ∧
    before.files.link pageStagePlace (pagePlace digest) = .ok files ∧
    t = { before with files }

theorem meets_linkCreateOnly {number : Nat} {digest : String} {bytes : List UInt8}
    (steady : Steady host base index d) (absent : pagePlace digest ∉ d.files.names)
    (digestName : isDigestName digest = true) :
    CrashTriple host base index (Writing host d index .pages number bytes)
      (linkCreateOnly pageStagePlace (pagePlace digest)) (Linked host d index digest bytes) := by
  have apart : pagePlace digest ≠ pageStagePlace := by
    intro same
    rw [show digest = pageStageName from congrArg Place.name same, pageStageName_not_digest]
      at digestName
    cases digestName
  unfold linkCreateOnly
  refine .bind (fun taken t => taken = false ∧ Writing host d index .pages number bytes t)
    (meets_reading (fun _ held => held.steady steady) fun t taken held seen => ?_) fun taken => ?_
  · cases seen
    refine ⟨decide_eq_false fun member => absent ?_, held⟩
    rw [← stat_isSome, ← held.others _ apart, stat_isSome]
    exact member
  · cases taken with
    | true => exact fun t start => absurd start.1 (by simp)
    | false =>
      refine Script.Meets.step (fun t _ start _ => start.2.steady steady) fun t _ after start done => ?_
      split at done
      · rename_i linked
        cases done
        exact ⟨start.2.doubled linked, rfl, number, t, _, start.2, linked, rfl⟩
      · cases done

theorem meets_publishPage {digest : String} {bytes : List UInt8}
    {page : ConversationHistoryPage host.Item} (steady : Steady host base index d)
    (absent : pagePlace digest ∉ d.files.names) (content : PageContent host digest bytes page)
    (room : d.files.used + bytes.length ≤ maxPhysicalBytes)
    (names : (d.names .pages).length < maxPhysicalPageNames) :
    CrashTriple host base index (· = d) (publishPage host kernel digest bytes)
      fun created t => created = true ∧ Published host d index digest bytes t := by
  have missing := Volume.stat_eq_none.mpr absent
  have own : ∀ created t, (created = true ∧ Published host d index digest bytes t) →
      Steady host base index t := fun _ _ held => held.2.steady steady missing
  unfold publishPage
  refine .bind _ (meets_stageFile .pages content.short room (fun _ => names) steady
    kernel.pageWrites .pageStageSync) fun _ => ?_
  refine .bind _ (meets_check (fun t held => held.choose_spec.steady steady) _) fun _ => ?_
  refine .bind (Linked host d index digest bytes) ?_ fun created => ?_
  · intro t start
    obtain ⟨number, writing⟩ := start
    exact meets_linkCreateOnly steady absent content.named t writing
  · refine .bind (fun _ t => created = true ∧ Published host d index digest bytes t) ?_ fun _ => ?_
    · refine Script.Meets.step (fun t error start failed => ?_) fun t _ after start done => ?_
      · obtain ⟨_, number, before, files, writing, linked, rfl⟩ := start
        have listed : pageStagePlace ∈ files.names := by
          obtain ⟨file, found, _⟩ := writing.stat
          rw [(Volume.link_names linked).2]
          exact List.mem_append_left _ (stat_isSome.mp (Option.isSome_iff_exists.mpr ⟨file, found⟩))
        unfold Volume.unlink at failed
        rw [if_pos listed] at failed
        cases failed
      · obtain ⟨made, number, before, files, writing, linked, rfl⟩ := start
        unfold Volume.unlink at done
        split at done
        · rename_i unlinked
          split at unlinked
          · cases unlinked
            cases done
            have published := writing.published linked content
            exact ⟨published.steady steady missing, made, published⟩
          · cases unlinked
        · cases done
    · refine .bind _ (meets_reading (own created) fun _ _ held _ => held) fun _ => ?_
      refine .bind _ (meets_check (own created) _) fun _ => ?_
      refine .bind _ (meets_sync (own created)) fun _ => ?_
      exact .ret fun _ held => held

theorem unreferenced_spare {state : ValidatedCacheState} {digest : String}
    (member : digest ∈ unreferencedPages state) : ¬Needed state.index (pagePlace digest) := by
  have unreferenced := (List.mem_filter.mp member).2
  rw [Bool.not_eq_true', decide_eq_false_iff_not] at unreferenced
  rintro (same | same | ⟨other, referenced, same⟩)
  · cases same
  · cases same
  · rw [← show digest = other from congrArg Place.name same] at referenced
    exact unreferenced referenced

theorem meets_unlinkStage (shape : DirectoryShape)
    (present : Bool) : CrashTriple host base index (Steady host base index)
      (Script.provided present (unlinkAt (stagePlace shape)))
      fun _ t => Steady host base index t := by
  refine .provided (fun _ => ?_) fun _ _ held => held
  exact meets_unlink (fun _ steady => steady) (fun _ steady => steady.sound.stageSpare shape)
    fun _ steady => steady.remove (steady.sound.stageSpare shape)

theorem meets_unlinkUnreferenced (state : ValidatedCacheState) :
    CrashTriple host base state.index (Steady host base state.index)
      ((unreferencedPages state).forM fun digest => unlinkAt (pagePlace digest))
      fun _ t => Steady host base state.index t :=
  .forM fun _ member => meets_unlink (fun _ steady => steady)
    (fun _ _ => unreferenced_spare member)
    fun _ steady => steady.remove (unreferenced_spare member)

/-- A directory whose loaded state references all of its pages. -/
structure Cleaned (host : CacheHost) (base : CacheDirectory) (index : CacheIndex)
    (cleaned : ValidatedCacheState) (t : CacheDirectory) : Prop where
  steady : Steady host base index t
  loaded : loadValidatedCacheState host t = .ok cleaned
  same : cleaned.index = index
  referenced : ∀ file ∈ cleaned.inventory.pageFiles, file.1 ∈ referencedDigests index

theorem meets_cleanKnownRemnants (state : ValidatedCacheState) :
    CrashTriple host base state.index (Steady host base state.index)
      (cleanKnownRemnants host kernel state)
      fun cleaned t => Cleaned host base state.index cleaned t ∧
        cleaned.inventory.indexStagePresent = false ∧
        cleaned.inventory.pageStagePresent = false := by
  have own : ∀ t, Steady host base state.index t → Steady host base state.index t :=
    fun _ steady => steady
  unfold cleanKnownRemnants
  refine .bind _ (meets_unlinkStage .root _) fun _ => ?_
  refine .bind _ (meets_unlinkStage .pages _) fun _ => ?_
  refine .bind _ (meets_unlinkUnreferenced state) fun _ => ?_
  refine .bind _ (meets_syncChanged own _) fun _ => ?_
  refine .bind _ (meets_syncChanged own _) fun _ => ?_
  refine .bind (fun cleaned t => loadValidatedCacheState host t = .ok cleaned ∧
    Steady host base state.index t) (meets_reading own fun t _ held loaded => ⟨loaded, held⟩)
    fun cleaned => ?_
  refine .bind (fun _ t => Cleaned host base state.index cleaned t ∧
    cleaned.inventory.indexStagePresent = false ∧ cleaned.inventory.pageStagePresent = false)
    (meets_reading (fun _ held => held.2) fun t _ held checked => ?_) fun _ => .ret fun _ held => held
  have agreed := refuse_eq_ok.mp checked
  simp only [not_or, not_not, not_exists, not_and, Bool.not_eq_true] at agreed
  obtain ⟨same, indexStage, pageStage, referenced⟩ := agreed
  exact ⟨⟨held.2, held.1, same, referenced⟩, indexStage, pageStage⟩

theorem lookup_insertPageFile {digest query : String} {file : ValidatedPageFile}
    {pageFiles : PageFiles} : (insertPageFile digest file pageFiles).lookup query =
      if query = digest then some file else pageFiles.lookup query := by
  unfold insertPageFile
  rw [List.lookup_cons]
  split
  · rename_i same
    rw [if_pos (beq_iff_eq.mp same)]
  · rename_i differs
    rw [if_neg (by simpa using differs)]
    induction pageFiles with
    | nil => rfl
    | cons first rest ih =>
      rw [List.lookup_cons]
      by_cases named : first.1 = digest
      · rw [List.filter_cons_of_neg (by simpa using named), ih, named]
        simp [differs]
      · rw [List.filter_cons_of_pos (by simpa using named), List.lookup_cons, ih]

/-- What a plan has checked. -/
structure Planned (host : CacheHost) (cache : HistoryPageCache) (state : ValidatedCacheState)
    (request : CacheRequest) (page : ConversationHistoryPage host.Item) (freshReceivedAt : Int64)
    (bytes : List UInt8) (digest : String) (candidate : CacheIndex) (indexBytes : List UInt8)
    (followingRecency : UInt64) (reinitialized pageExists : Bool) : Prop where
  evicted : ∃ base newRecency entry,
    candidateBase cache state.index = (base, newRecency, followingRecency, reinitialized) ∧
    newEntry request page.items.length bytes.length digest freshReceivedAt newRecency =
      .ok entry ∧
    evictToBounds host (withEntry base request entry) freshReceivedAt = .ok candidate
  entered : ∃ entry ∈ candidate.entries, entryMatchesRequest entry request = true ∧
    entry.identity.pageSha256 = digest ∧ entry.freshReceivedAtUnixSeconds = freshReceivedAt
  valid : validateIndex candidate (insertPageFile digest ⟨bytes.length, page.items.length⟩
    state.inventory.pageFiles) = .ok ()
  serialized : serializeIndex host candidate = .ok indexBytes
  present : pageExists = (state.inventory.pageFiles.lookup digest).isSome
  peak : state.inventory.physicalBytes + (if pageExists then 0 else bytes.length) +
    indexBytes.length ≤ maxPhysicalBytes

theorem checkedAdd_eq {left right sum : Nat} (added : checkedAdd left right = .ok sum) :
    sum = left + right := by
  unfold checkedAdd at added
  split at added
  · cases added
    rfl
  · cases added

theorem planPublication_ok {cache : HistoryPageCache} {state : ValidatedCacheState}
    {request : CacheRequest} {page : ConversationHistoryPage host.Item} {freshReceivedAt : Int64}
    {bytes : List UInt8} {digest : String} {candidate : CacheIndex} {indexBytes : List UInt8}
    {followingRecency : UInt64} {reinitialized pageExists : Bool}
    (planned : planPublication host cache state request page freshReceivedAt bytes digest =
      .ok (candidate, indexBytes, followingRecency, reinitialized, pageExists)) :
    Planned host cache state request page freshReceivedAt bytes digest candidate indexBytes
      followingRecency reinitialized pageExists := by
  unfold planPublication at planned
  cases based : candidateBase cache state.index with
  | mk base rest =>
    obtain ⟨newRecency, following, reinit⟩ := rest
    rw [based] at planned
    dsimp only at planned
    obtain ⟨entry, entered, planned⟩ := bind_ok planned
    obtain ⟨evicted, eviction, planned⟩ := bind_ok planned
    obtain ⟨_, found, planned⟩ := bind_ok planned
    obtain ⟨_, valid, planned⟩ := bind_ok planned
    obtain ⟨serialized, bytesOk, planned⟩ := bind_ok planned
    obtain ⟨afterPage, added, planned⟩ := bind_ok planned
    obtain ⟨publishPeak, _, planned⟩ := bind_ok planned
    obtain ⟨stagePeak, staged, planned⟩ := bind_ok planned
    obtain ⟨_, bounded, planned⟩ := bind_ok planned
    cases planned
    have room := (not_or.mp (refuse_eq_ok.mp bounded)).2
    have peak := checkedAdd_eq staged
    have listed := refuse_eq_ok.mp found
    simp only [not_forall, Classical.not_not, exists_prop] at listed
    refine ⟨⟨base, newRecency, entry, based, entered, eviction⟩, listed, valid, bytesOk, rfl, ?_⟩
    have after : afterPage = state.inventory.physicalBytes +
        if (state.inventory.pageFiles.lookup digest).isSome then 0 else bytes.length := by
      unfold addUnless at added
      split at added
      · rename_i present
        cases added
        rw [if_pos present, Nat.add_zero]
      · rename_i missing
        rw [if_neg missing]
        exact checkedAdd_eq added
    rw [← after, ← peak]
    exact Nat.not_lt.mp room

theorem isDigestName_sha256Hex (bytes : List UInt8) : isDigestName (sha256Hex host bytes) = true := by
  unfold isDigestName isSha256 sha256Hex
  rw [BlobHash.utf8_toHex_length, BlobHash.utf8_toHex, Bool.and_eq_true]
  refine ⟨rfl, List.all_eq_true.mpr fun byte member => ?_⟩
  obtain ⟨source, _, digit⟩ := List.mem_flatMap.mp member
  have lower : ∀ n < 256, ((hexPair (UInt8.ofNat n)).map fun c => c.val.toUInt8).all isLowerHex =
      true := by decide +kernel
  have all := lower source.toNat source.toNat_lt
  rw [UInt8.ofNat_toNat] at all
  exact List.all_eq_true.mp all byte digit

/-- The bytes of a page that may be published are a page file's content. -/
theorem pageContent_of_bytes (codecs : host.RoundTrips)
    {page : ConversationHistoryPage host.Item} (received : host.Received page) {bytes : List UInt8}
    {digest : String}
    (hashed : pageBytesAndDigest host page = .ok (bytes, digest)) :
    bytes = host.pageJson.toVec page ∧ PageContent host digest bytes page := by
  obtain ⟨few, short, same⟩ := pageBytesAndDigest_ok.mp hashed
  cases same
  exact ⟨rfl, isDigestName_sha256Hex _, short, codecs.page.nonempty page, rfl,
    codecs.page.reads page received, rfl, few⟩

theorem verifyPageTarget_ok (codecs : host.RoundTrips)
    {page : ConversationHistoryPage host.Item} (received : host.Received page) {digest : String}
    (verified : verifyPageTarget host d digest (host.pageJson.toVec page) = .ok ()) :
    HasPage host d digest page ⟨(host.pageJson.toVec page).length, page.items.length⟩ := by
  unfold verifyPageTarget at verified
  obtain ⟨⟨other, metadata⟩, read, verified⟩ := bind_ok verified
  have agrees := refuse_eq_ok.mp verified
  rw [not_or, not_not, not_not] at agrees
  have has := readValidatedPage_ok.mp read
  obtain ⟨file, _, _, content, rfl⟩ := id has
  have reads := content.reads
  rw [← content.canonical, agrees.1, codecs.page.reads page received] at reads
  cases reads
  rw [← agrees.2]
  exact has

/-- The page of a publication is in its place, beside the files of `d`. -/
structure Placed (host : CacheHost) (d : CacheDirectory) (index : CacheIndex) (digest : String)
    (page : ConversationHistoryPage host.Item) (grown : Nat) (t : CacheDirectory) : Prop where
  sound : Sound host t index
  page : HasPage host t digest page ⟨(host.pageJson.toVec page).length, page.items.length⟩
  others : ∀ other, other ≠ pagePlace digest → t.files.stat other = d.files.stat other
  used : t.files.used ≤ d.files.used + grown

theorem meets_placePage (codecs : host.RoundTrips) {digest : String}
    {page : ConversationHistoryPage host.Item} (received : host.Received page) (pageExists : Bool)
    (steady : Steady host base index d)
    (content : PageContent host digest (host.pageJson.toVec page) page)
    (absent : pageExists = false → pagePlace digest ∉ d.files.names)
    (room : d.files.used + (if pageExists then 0 else (host.pageJson.toVec page).length) ≤
      maxPhysicalBytes)
    (names : (d.names .pages).length < maxPhysicalPageNames) :
    CrashTriple host base index (· = d)
      (placePage host kernel digest (host.pageJson.toVec page) pageExists)
      fun _ t => Steady host base index t ∧ Placed host d index digest page
        (if pageExists then 0 else (host.pageJson.toVec page).length) t := by
  unfold placePage
  cases pageExists with
  | true =>
    refine .bind (fun _ t => Steady host base index t ∧ Placed host d index digest page 0 t)
      (meets_reading (fun _ same => same ▸ steady) fun t _ same verified => ?_)
      fun _ => .ret fun _ held => held
    subst same
    exact ⟨steady, steady.sound, verifyPageTarget_ok codecs received verified, fun _ _ => rfl, Nat.le_refl _⟩
  | false =>
    refine (meets_publishPage steady (absent rfl) content room names).weaken (fun _ same => same)
      (fun _ _ held => held) fun _ t held => ?_
    obtain ⟨_, published⟩ := held
    obtain ⟨file, found, same⟩ := published.page
    refine ⟨published.steady steady (Volume.stat_eq_none.mpr (absent rfl)), published.sound,
      ⟨file, found, (published.sound.files _ _ found).1, ?_, ?_⟩,
      published.others, Nat.le_of_eq published.used⟩
    · rw [same]
      exact content
    · rw [same]

theorem serializeIndex_ok {bytes : List UInt8} : serializeIndex host index = .ok bytes ↔
    bytes = host.indexJson.toVec index ∧ bytes ≠ [] ∧ bytes.length ≤ maxIndexBytes := by
  unfold serializeIndex
  dsimp only
  split
  · rename_i large
    rw [List.isEmpty_iff] at large
    simp only [reduceCtorEq, false_iff]
    rintro ⟨rfl, nonempty, short⟩
    rcases large with empty | long
    · exact nonempty empty
    · omega
  · rename_i small
    rw [not_or, List.isEmpty_iff, Nat.not_lt] at small
    constructor
    · intro same
      cases same
      exact ⟨rfl, small⟩
    · rintro ⟨rfl, _⟩
      rfl

/-- A cleaned directory has no more page names than the index has entries. -/
theorem Cleaned.fewPages {cleaned : ValidatedCacheState}
    (clean : Cleaned host base index cleaned d)
    (stage : cleaned.inventory.pageStagePresent = false) :
    (d.names .pages).length < maxPhysicalPageNames := by
  have tidy := clean.steady.sound.tidy
  obtain ⟨_, inventoried⟩ := loaded_sound tidy clean.loaded
  have missing : pageStagePlace ∉ d.files.names := by
    rw [inventoried.pageStagePresent] at stage
    simpa using stage
  have held : d.names .pages ⊆ referencedDigests index := by
    intro name member
    rcases mem_names.mp member with named | ⟨root, _⟩
    · have other : name ≠ pageStageName := by
        rintro rfl
        exact missing named
      obtain ⟨file, listed, rfl⟩ := List.mem_map.mp
        ((inventoried.digests name).mpr ⟨named, other⟩)
      exact clean.referenced file listed
    · cases root
  have few := ((names_nodup tidy .pages).subperm held).length_le
  obtain ⟨pageFiles, validated, _⟩ := clean.steady.sound.valid
  have entries := validateIndex_few validated
  unfold referencedDigests at few
  rw [List.length_map] at few
  exact Nat.lt_of_le_of_lt (Nat.le_trans few entries) (by decide)

/-- What a prepared publication leaves: its index staged and its pages in their places. -/
structure Prepared (host : CacheHost) (base : CacheDirectory) (cache : HistoryPageCache)
    (request : CacheRequest) (page : ConversationHistoryPage host.Item) (freshReceivedAt : Int64)
    (prepared : PreparedCachePublication) (t : CacheDirectory) : Prop where
  steady : Steady host base cache.index t
  staged : ∃ file, t.files.stat indexStagePlace = some file ∧
    serializeIndex host prepared.candidate = .ok file.content
  valid : ValidIn host t prepared.candidate
  planned : ∃ state digest indexBytes pageExists, state.index = cache.index ∧
    Planned host cache state request page freshReceivedAt (host.pageJson.toVec page) digest
      prepared.candidate indexBytes prepared.followingRecency prepared.reinitialized pageExists ∧
    HasPage host t digest page ⟨(host.pageJson.toVec page).length, page.items.length⟩

/-- The candidate is valid once the page of the publication is in its place. -/
theorem Planned.validIn {cache : HistoryPageCache} {state : ValidatedCacheState}
    {request : CacheRequest} {page : ConversationHistoryPage host.Item} {freshReceivedAt : Int64}
    {digest : String} {candidate : CacheIndex} {indexBytes : List UInt8} {grown : Nat}
    {followingRecency : UInt64} {reinitialized pageExists : Bool}
    (planned : Planned host cache state request page freshReceivedAt (host.pageJson.toVec page)
      digest candidate indexBytes followingRecency reinitialized pageExists)
    (inventoried : Inventoried host d state.inventory)
    (placed : Placed host d index digest page grown t) : ValidIn host t candidate := by
  refine ⟨_, planned.valid, fun query metadata found _ => ?_⟩
  rw [lookup_insertPageFile] at found
  split at found
  · rename_i same
    cases found
    exact ⟨page, same ▸ placed.page⟩
  · rename_i differs
    obtain ⟨other, has⟩ := (inventoried.pageFiles query metadata).mp found
    refine ⟨other, has.congr (placed.others _ fun same => differs ?_)⟩
    exact congrArg Place.name same

theorem meets_preparePublicationWithFaults (codecs : host.RoundTrips)
    {cache : HistoryPageCache} (request : CacheRequest)
    {page : ConversationHistoryPage host.Item} (received : host.Received page) (freshReceivedAt : Int64)
    {digest : String}
    (content : PageContent host digest (host.pageJson.toVec page) page) :
    CrashTriple host base cache.index (Steady host base cache.index)
      (preparePublicationWithFaults host kernel cache request page freshReceivedAt
        (host.pageJson.toVec page) digest)
      (Prepared host base cache request page freshReceivedAt) := by
  unfold preparePublicationWithFaults
  refine .bind (fun _ t => Steady host base cache.index t) (meets_reading (fun _ held => held)
    fun _ _ held _ => held) fun state => ?_
  refine .bind (fun _ t => state.index = cache.index ∧ Steady host base cache.index t)
    (meets_reading (fun _ held => held) fun t _ held checked => ?_) fun _ => ?_
  · exact ⟨Classical.not_not.mp (refuse_eq_ok.mp checked), held⟩
  refine .assuming fun same => ?_
  rw [← same]
  refine .bind _ (meets_cleanKnownRemnants state) fun cleaned => ?_
  refine .fixing fun d start => ?_
  obtain ⟨clean, _, pageStage⟩ := start
  have steady := clean.steady
  have names := clean.fewPages pageStage
  obtain ⟨_, inventoried⟩ := loaded_sound steady.sound.tidy clean.loaded
  refine .bind (fun plan t => t = d ∧ Planned host cache cleaned request page freshReceivedAt
    (host.pageJson.toVec page) digest plan.1 plan.2.1 plan.2.2.1 plan.2.2.2.1 plan.2.2.2.2)
    (meets_reading (fun _ same => same ▸ steady) fun t plan same planned =>
      ⟨same, planPublication_ok planned⟩) fun plan => ?_
  obtain ⟨candidate, indexBytes, followingRecency, reinitialized, pageExists⟩ := plan
  refine .fixing fun t start => ?_
  obtain ⟨rfl, planned⟩ := start
  dsimp only at planned
  have absent : pageExists = false → pagePlace digest ∉ t.files.names := by
    intro missing member
    rw [planned.present, ← Bool.not_eq_true] at missing
    refine missing (lookup_isSome_of_mem ((inventoried.digests digest).mpr ⟨member, ?_⟩))
    rintro rfl
    have named := content.named
    rw [pageStageName_not_digest] at named
    cases named
  obtain ⟨_, _, short⟩ := serializeIndex_ok.mp planned.serialized
  have peak := planned.peak
  rw [inventoried.physicalBytes] at peak
  refine .bind _ (meets_placePage codecs received pageExists steady content absent (by omega) names)
    fun createdPage => .fixing fun placed held => ?_
  obtain ⟨stays, held⟩ := held
  refine .bind _ (meets_stageFile .root short ?_ nofun stays _ _) fun _ => ?_
  · have := held.used
    omega
  · refine .ret fun s staged => ?_
    obtain ⟨number, writing⟩ := staged
    obtain ⟨file, found, _, bytes⟩ := writing.stat
    have unmoved : ∀ other, s.files.stat (pagePlace other) = placed.files.stat (pagePlace other) :=
      fun _ => writing.others _ nofun
    refine ⟨same ▸ writing.steady stays, ⟨file, found, ?_⟩, ?_, ?_⟩
    · rw [bytes]
      exact planned.serialized
    · exact (planned.validIn inventoried held).congr fun other _ => unmoved other
    · exact ⟨cleaned, digest, indexBytes, pageExists, clean.same.trans same, planned,
        held.page.congr (unmoved digest)⟩

end Decodex.Source.Gpui
