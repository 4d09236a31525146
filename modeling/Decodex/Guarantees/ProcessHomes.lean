import Decodex.Source.Runtime.MacosProcess

/-!
# What a process image says about its Codex home

An argument may be empty, and the reader skips an empty argument as padding: it then takes one
environment entry in its place for each. The values that are read are those behind the entries
taken that way.
-/
namespace Decodex.Guarantees.ProcessHomes

open Decodex.Library
open Decodex.Source.Runtime.MacosProcess

variable {entry value : List UInt8} {entries : List (List UInt8)}
  {found result : MacosProcessAuthEnvironment}

/-- The values of the `CODEX_HOME=` entries, in their order. -/
def codexHomes (entries : List (List UInt8)) : List (List UInt8) :=
  entries.filterMap (stripLabel codexHomeLabel)

/-- The values of the `HOME=` entries, in their order. -/
def homes (entries : List (List UInt8)) : List (List UInt8) :=
  entries.filterMap (stripLabel homeLabel)

/-- No variable twice, and no value over the bound. -/
def Readable (entries : List (List UInt8)) : Prop :=
  (codexHomes entries).length ≤ 1 ∧ (homes entries).length ≤ 1 ∧
    ∀ value ∈ codexHomes entries ++ homes entries, value.length ≤ maxProcessHomeBytes

theorem codexHomes_append (first second : List (List UInt8)) :
    codexHomes (first ++ second) = codexHomes first ++ codexHomes second :=
  List.filterMap_append

theorem homes_append (first second : List (List UInt8)) :
    homes (first ++ second) = homes first ++ homes second :=
  List.filterMap_append

theorem stripLabel_eq_some {label : List UInt8} :
    stripLabel label entry = some value ↔ entry = label ++ value := by
  unfold stripLabel
  constructor
  · intro stripped
    split at stripped
    · rename_i starts
      obtain ⟨rest, rfl⟩ := List.isPrefixOf_iff_prefix.mp starts
      simpa using stripped
    · cases stripped
  · rintro rfl
    rw [if_pos (List.isPrefixOf_iff_prefix.mpr (List.prefix_append _ _))]
    simp

/-- No entry is both. -/
theorem homeLabel_of_codexHomeLabel (codex : stripLabel codexHomeLabel entry = some value) :
    stripLabel homeLabel entry = none := by
  rw [stripLabel_eq_some] at codex
  subst codex
  rfl

/-- The state after an entry: its value, if it has one, behind those already found. -/
theorem noteEntry_eq_some :
    noteEntry found entry = some result ↔
      result.codexHome.toList = found.codexHome.toList ++ codexHomes [entry] ∧
      result.home.toList = found.home.toList ++ homes [entry] ∧
      ∀ value ∈ codexHomes [entry] ++ homes [entry], value.length ≤ maxProcessHomeBytes := by
  obtain ⟨codexHome, home⟩ := found
  obtain ⟨codexAfter, homeAfter⟩ := result

  unfold noteEntry codexHomes homes
  cases codex : stripLabel codexHomeLabel entry with
  | some value =>
    have other := homeLabel_of_codexHomeLabel codex
    cases codexHome <;> cases codexAfter <;> cases home <;> cases homeAfter <;>
      simp [codex, other] <;> grind
  | none =>
    cases own : stripLabel homeLabel entry with
    | some value =>
      cases codexHome <;> cases codexAfter <;> cases home <;> cases homeAfter <;>
        simp [codex, own] <;> grind
    | none =>
      cases codexHome <;> cases codexAfter <;> cases home <;> cases homeAfter <;>
        simp [codex, own] <;> grind

theorem exists_toList {values : List (List UInt8)} (short : values.length ≤ 1) :
    ∃ slot : Option (List UInt8), slot.toList = values := by
  cases values with
  | nil => exact ⟨none, rfl⟩
  | cons value rest =>
    have last : rest = [] := List.length_eq_zero_iff.mp (by simpa using short)
    exact ⟨some value, by rw [last]; rfl⟩

/-- All the entries, one after another. -/
def noteAll (found : MacosProcessAuthEnvironment) (entries : List (List UInt8)) :
    Option MacosProcessAuthEnvironment :=
  entries.foldlM noteEntry found

theorem noteAll_eq_some :
    noteAll found entries = some result ↔
      result.codexHome.toList = found.codexHome.toList ++ codexHomes entries ∧
      result.home.toList = found.home.toList ++ homes entries ∧
      ∀ value ∈ codexHomes entries ++ homes entries, value.length ≤ maxProcessHomeBytes := by
  induction entries generalizing found with
  | nil =>
    obtain ⟨codexHome, home⟩ := found
    obtain ⟨codexAfter, homeAfter⟩ := result
    cases codexHome <;> cases codexAfter <;> cases home <;> cases homeAfter <;>
      simp [noteAll, codexHomes, homes] <;> grind
  | cons first rest ih =>
    have codexes := codexHomes_append [first] rest
    have others := homes_append [first] rest
    rw [List.singleton_append] at codexes others
    unfold noteAll
    rw [List.foldlM_cons, codexes, others]
    constructor
    · intro ran
      obtain ⟨middle, noted, later⟩ := Option.bind_eq_some_iff.mp ran
      obtain ⟨codex, home, small⟩ := noteEntry_eq_some.mp noted
      obtain ⟨codexRest, homeRest, smallRest⟩ := ih.mp later
      rw [codex, List.append_assoc] at codexRest
      rw [home, List.append_assoc] at homeRest
      refine ⟨codexRest, homeRest, ?_⟩
      simp only [List.mem_append] at small smallRest ⊢
      grind
    · rintro ⟨codex, home, small⟩
      -- what is found after the first entry is the front of what is found in the end
      have codexShort : (found.codexHome.toList ++ codexHomes [first]).length ≤ 1 := by
        have whole := congrArg List.length codex
        have one : result.codexHome.toList.length ≤ 1 := by cases result.codexHome <;> simp
        simp only [List.length_append] at whole ⊢
        omega
      have homeShort : (found.home.toList ++ homes [first]).length ≤ 1 := by
        have whole := congrArg List.length home
        have one : result.home.toList.length ≤ 1 := by cases result.home <;> simp
        simp only [List.length_append] at whole ⊢
        omega
      obtain ⟨codexMiddle, codexIs⟩ := exists_toList codexShort
      obtain ⟨homeMiddle, homeIs⟩ := exists_toList homeShort
      simp only [List.mem_append] at small
      apply Option.bind_eq_some_iff.mpr
      refine ⟨⟨codexMiddle, homeMiddle⟩, noteEntry_eq_some.mpr ⟨codexIs, homeIs, ?_⟩,
        ih.mpr ⟨?_, ?_, ?_⟩⟩
      · simp only [List.mem_append]
        grind
      · rw [codexIs, codex, List.append_assoc]
      · rw [homeIs, home, List.append_assoc]
      · simp only [List.mem_append]
        grind

theorem behindEntry_entry {rest : List UInt8} (clear : 0 ∉ entry) :
    behindEntry (entry ++ 0 :: rest) = rest := by
  unfold behindEntry
  rw [List.dropWhile_append_of_pos]
  · simp
  · intro byte listed
    simpa using fun same : byte = 0 => clear (same ▸ listed)

/-- The loop sees the entries that are not empty. -/
theorem readEntries_terminated (clear : ∀ entry ∈ entries, 0 ∉ entry) :
    readEntries found (skipNulPadding (terminated 0 entries)) =
      noteAll found (inhabited entries) := by
  induction entries generalizing found with
  | nil => simp [skipNulPadding, skipPadding, readEntries, noteAll]
  | cons first rest ih =>
    have later := fun found => @ih found fun entry listed => clear entry (by simp [listed])
    by_cases empty : first = []
    · subst empty
      rw [terminated_cons, List.nil_append]
      have padding : skipNulPadding (0 :: terminated 0 rest) = skipNulPadding (terminated 0 rest) :=
        skipPadding_replicate 1 _
      rw [padding, later found]
      rfl
    · have here := clear first (by simp)
      have split : inhabited (first :: rest) = first :: inhabited rest := by
        simp [inhabited, empty]
      have taken := @takeWhile_entry _ 0 first (terminated 0 rest) _ here
      rw [terminated_cons, skipNulPadding, skipPadding_entry here empty, readEntries,
        dif_neg (by simp), split]
      simp only [taken, empty, if_false, behindEntry_entry here, later]
      rfl

/-- The bytes of a process: a path, arguments that may be empty, and environment entries that are
not, none of them with a terminator inside. -/
structure ProcessImage where
  path : List UInt8
  padding : Nat
  arguments : List (List UInt8)
  environment : List (List UInt8)
  path_clear : 0 ∉ path
  arguments_clear : ∀ argument ∈ arguments, 0 ∉ argument
  arguments_le : arguments.length ≤ 4096
  environment_clear : ∀ entry ∈ environment, 0 ∉ entry
  environment_inhabited : ∀ entry ∈ environment, entry ≠ []

namespace ProcessImage

variable (image : ProcessImage)

/-- The layout of `KERN_PROCARGS2`. -/
def layout : List UInt8 :=
  littleEndian 4 image.arguments.length ++ (image.path ++ 0 :: (List.replicate image.padding 0 ++
    (terminated 0 image.arguments ++ terminated 0 image.environment)))

def emptyArguments : Nat := (image.arguments.filter fun argument => argument.isEmpty).length

/-- The entries that are skipped in place of empty arguments. -/
def skippedEntries : List (List UInt8) := image.environment.take image.emptyArguments

def readableEntries : List (List UInt8) := image.environment.drop image.emptyArguments

end ProcessImage

variable {image : ProcessImage}

theorem emptyArguments_add_inhabited :
    image.emptyArguments + (inhabited image.arguments).length = image.arguments.length := by
  exact (List.length_eq_length_filter_add fun argument : List UInt8 => argument.isEmpty).symm

theorem readArgc_layout : readArgc image.layout = some image.arguments.length := by
  have bound := image.arguments_le
  have front : image.layout.take 4 = littleEndian 4 image.arguments.length := by
    unfold ProcessImage.layout
    exact List.take_left' (littleEndian_length 4 _)
  unfold readArgc
  rw [if_neg, front, fromLittleEndian_littleEndian 4 _ (by omega)]
  · exact if_pos (by omega)
  · unfold ProcessImage.layout
    simp

/-- Empty arguments are made up for by environment entries. -/
theorem parse_layout :
    parseMacosProcessAuthEnvironment image.layout =
      if image.emptyArguments ≤ image.environment.length then
        noteAll ⟨none, none⟩ image.readableEntries
      else none := by
  have rest : image.layout.drop 4 = image.path ++ 0 :: (List.replicate image.padding 0 ++
      terminated 0 (image.arguments ++ image.environment)) := by
    unfold ProcessImage.layout
    rw [terminated_append]
    exact List.drop_left' (littleEndian_length 4 _)
  have clear : ∀ entry ∈ image.arguments ++ image.environment, 0 ∉ entry := by
    intro entry listed
    rcases List.mem_append.mp listed with listed | listed
    · exact image.arguments_clear entry listed
    · exact image.environment_clear entry listed
  have kept : inhabited (image.arguments ++ image.environment) =
      inhabited image.arguments ++ image.environment := by
    rw [inhabited_append, inhabited_eq_self image.environment_inhabited]
  have count := @emptyArguments_add_inhabited image
  have skipped := skipEntries_terminated image.arguments.length clear
  unfold parseMacosProcessAuthEnvironment
  rw [readArgc_layout, Option.bind_some, if_neg (by have := image.arguments_le; omega), rest,
    skipMacosProcessEntry, skipEntry_entry image.path_clear, Option.bind_some, skipNulPadding,
    skipPadding_replicate, skipArguments]
  rw [kept, List.length_append] at skipped
  by_cases enough : image.emptyArguments ≤ image.environment.length
  · rw [if_pos (by omega)] at skipped
    obtain ⟨left, reached, entries, leftClear⟩ := skipped
    rw [reached, Option.bind_some, if_pos enough, ← skipNulPadding,
      readEntries_terminated leftClear, entries, List.drop_append, List.drop_eq_nil_of_le (by omega),
      List.nil_append]
    congr 2
    omega
  · rw [if_neg (by omega)] at skipped
    rw [skipped, if_neg enough]
    rfl

/-- The environment as the process itself sees it. -/
def trueEnvironment (image : ProcessImage) : MacosProcessAuthEnvironment :=
  ⟨(codexHomes image.environment).head?, (homes image.environment).head?⟩

/-- Either nothing is reported or exactly the values of the two variables. -/
def ReportsExactly (image : ProcessImage) : Prop :=
  ∀ found, parseMacosProcessAuthEnvironment image.layout = some found →
    found.codexHome.toList = codexHomes image.environment ∧
      found.home.toList = homes image.environment

/-- A process in the shared home is not classified as isolated. -/
def KeepsSharedHome (image : ProcessImage) : Prop :=
  ∀ canonicalize sharedCodexHome,
    relationOf canonicalize (trueEnvironment image) sharedCodexHome = .value .shared →
      observeMacosCodexHome canonicalize (.value image.layout) sharedCodexHome ≠ .value .isolated

/-- No entry that is skipped in place of an empty argument names a home. -/
def NoHomeSkipped (image : ProcessImage) : Prop :=
  codexHomes image.skippedEntries = [] ∧ homes image.skippedEntries = []

theorem parse_eq_some :
    parseMacosProcessAuthEnvironment image.layout = some found ↔
      image.emptyArguments ≤ image.environment.length ∧
      found.codexHome.toList = codexHomes image.readableEntries ∧
      found.home.toList = homes image.readableEntries ∧
      ∀ value ∈ codexHomes image.readableEntries ++ homes image.readableEntries,
        value.length ≤ maxProcessHomeBytes := by
  rw [parse_layout]
  by_cases enough : image.emptyArguments ≤ image.environment.length
  · rw [if_pos enough, noteAll_eq_some]
    simp [enough]
  · rw [if_neg enough]
    simp [enough]

theorem environment_split :
    image.skippedEntries ++ image.readableEntries = image.environment :=
  List.take_append_drop _ _

theorem codexHomes_environment :
    codexHomes image.environment =
      codexHomes image.skippedEntries ++ codexHomes image.readableEntries := by
  rw [← codexHomes_append, environment_split]

theorem homes_environment :
    homes image.environment = homes image.skippedEntries ++ homes image.readableEntries := by
  rw [← homes_append, environment_split]

theorem reportsExactly_iff :
    ReportsExactly image ↔
      (image.emptyArguments ≤ image.environment.length → Readable image.readableEntries →
        NoHomeSkipped image) := by
  unfold ReportsExactly NoHomeSkipped
  rw [codexHomes_environment, homes_environment]
  constructor
  · intro exact enough readable
    obtain ⟨codexShort, homeShort, small⟩ := readable
    obtain ⟨codexHome, codexIs⟩ := exists_toList codexShort
    obtain ⟨home, homeIs⟩ := exists_toList homeShort
    have parsed : parseMacosProcessAuthEnvironment image.layout = some ⟨codexHome, home⟩ :=
      parse_eq_some.mpr ⟨enough, codexIs, homeIs, small⟩
    obtain ⟨codex, other⟩ := exact _ parsed
    rw [codexIs] at codex
    rw [homeIs] at other
    exact ⟨List.self_eq_append_left.mp codex, List.self_eq_append_left.mp other⟩
  · intro none found parsed
    obtain ⟨enough, codex, home, small⟩ := parse_eq_some.mp parsed
    have readable : Readable image.readableEntries := by
      refine ⟨?_, ?_, small⟩
      · rw [← codex]
        cases found.codexHome <;> simp
      · rw [← home]
        cases found.home <;> simp
    obtain ⟨noCodex, noHome⟩ := none enough readable
    rw [noCodex, noHome]
    exact ⟨codex, home⟩

theorem observe_layout {canonicalize : List UInt8 → Option (List UInt8)}
    {sharedCodexHome : List UInt8} :
    observeMacosCodexHome canonicalize (.value image.layout) sharedCodexHome =
      match parseMacosProcessAuthEnvironment image.layout with
      | some found => relationOf canonicalize found sharedCodexHome
      | none => .unavailable := by
  unfold observeMacosCodexHome readMacosProcessAuthEnvironment
  dsimp only
  cases parseMacosProcessAuthEnvironment image.layout <;> rfl

theorem keepsSharedHome_of_reportsExactly (exactly : ReportsExactly image) :
    KeepsSharedHome image := by
  intro canonicalize sharedCodexHome shared
  rw [observe_layout]
  cases parsed : parseMacosProcessAuthEnvironment image.layout with
  | none => nofun
  | some found =>
    obtain ⟨codex, home⟩ := exactly found parsed
    have same : trueEnvironment image = found := by
      unfold trueEnvironment
      rw [← codex, ← home, Option.head?_toList, Option.head?_toList]
    rw [same] at shared
    simp [shared]

/-- What is read is what the environment says exactly when no home variable is skipped in place
of an empty argument, unless nothing is reported anyway. -/
theorem parsing_is_faithful_iff (image : ProcessImage) :
    ReportsExactly image ∧ KeepsSharedHome image ↔
      (image.emptyArguments ≤ image.environment.length → Readable image.readableEntries →
        NoHomeSkipped image) := by
  rw [← reportsExactly_iff]
  exact ⟨And.left, fun exactly => ⟨exactly, keepsSharedHome_of_reportsExactly exactly⟩⟩

/-- `codex ""` in the shared home. -/
def emptyArgumentImage : ProcessImage where
  path := ascii [ '/', 'c']
  padding := 3
  arguments := [ascii [ 'c'], []]
  environment := [codexHomeLabel ++ ascii [ '/', 's'], homeLabel ++ ascii [ '/', 'u']]
  path_clear := by decide
  arguments_clear := by decide
  arguments_le := by decide
  environment_clear := by decide
  environment_inhabited := by decide

/-- The skipped variable is the one that names the shared home: the process is taken for one
that works below its `HOME`. -/
theorem empty_argument_hides_home :
    parseMacosProcessAuthEnvironment emptyArgumentImage.layout =
        some ⟨none, some (ascii [ '/', 'u'])⟩ ∧
      relationOf some (trueEnvironment emptyArgumentImage) (ascii [ '/', 's']) = .value .shared ∧
      observeMacosCodexHome some (.value emptyArgumentImage.layout) (ascii [ '/', 's']) =
        .value .isolated ∧
      ¬ReportsExactly emptyArgumentImage ∧ ¬KeepsSharedHome emptyArgumentImage := by
  have parsed : parseMacosProcessAuthEnvironment emptyArgumentImage.layout =
      some ⟨none, some (ascii [ '/', 'u'])⟩ := by
    rw [parse_layout]
    decide
  have truth : relationOf some (trueEnvironment emptyArgumentImage) (ascii [ '/', 's']) =
      .value .shared := by decide
  have observed : observeMacosCodexHome some (.value emptyArgumentImage.layout)
      (ascii [ '/', 's']) = .value .isolated := by
    rw [observe_layout, parsed]
    decide
  refine ⟨parsed, truth, observed, fun exactly => ?_, fun keeps => keeps _ _ truth observed⟩
  have lost := (exactly _ parsed).1
  revert lost
  decide

end Decodex.Guarantees.ProcessHomes
