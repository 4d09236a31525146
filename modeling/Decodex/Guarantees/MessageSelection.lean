import Decodex.Library.Joined
import Decodex.Source.Runtime.MessageExcerpts

/-!
# Selected messages

`select` reads messages newest first and groups them: each exchange is some user messages and the
answers behind them. The groups, in order, are the newest messages in the order in which they were
written; at most eight of them are answered, and only the newest may be unanswered.
-/
namespace Decodex.Guarantees.MessageSelection

open Decodex.Library Decodex.Source.Runtime.MessageExcerpts

/-- The messages of an exchange, oldest first. -/
structure Group where
  users : List Message
  answers : List Message

def Group.messages (group : Group) : List Message := group.users ++ group.answers

def Group.exchange (group : Group) : Exchange :=
  ⟨joinedTexts (group.users.map (·.text)), joinedTexts (group.answers.map (·.text))⟩

def isAnswered (exchange : Exchange) : Bool := !exchange.assistant.isEmpty

/-- The newest messages, in groups that are oldest first. -/
structure Selection (messages : List Message) (exchanges : List Exchange)
    (kept dropped : List Message) (groups : List Group) : Prop where
  newest : messages = kept ++ dropped
  chronological : kept.reverse = groups.flatMap Group.messages
  rendered : exchanges = groups.map Group.exchange
  users : ∀ group ∈ groups, ∀ message ∈ group.users, message.user = true
  answers : ∀ group ∈ groups, ∀ message ∈ group.answers, message.user = false
  /-- The fields, one behind the other, are the messages that are kept. -/
  concatenated : joinedTexts ((exchanges.flatMap Exchange.fields).map (·.2)) =
    joinedTexts (kept.reverse.map (·.text))
  filled : ∀ exchange ∈ exchanges, exchange.fields ≠ []
  bounded : exchanges.countP isAnswered ≤ 8
  full : dropped = [] ∨ exchanges.countP isAnswered = 8
  pending : ∀ exchange ∈ exchanges.dropLast, exchange.assistant ≠ []

/-- The texts of its two fields. -/
def Group.texts (group : Group) : List (List Text) :=
  [group.users.map (·.text), group.answers.map (·.text)]

section Fields

variable {group : Group}

/-- The texts of a group are not empty. -/
def Group.Full (group : Group) : Prop :=
  (∀ message ∈ group.users, message.text ≠ []) ∧ ∀ message ∈ group.answers, message.text ≠ []

theorem joined_texts {messages : List Message} (full : ∀ message ∈ messages, message.text ≠ []) :
    joinedTexts (messages.map (·.text)) = [] ↔ messages = [] := by
  unfold joinedTexts
  rw [intercalate_eq_nil, List.map_eq_nil_iff]
  intro text member
  obtain ⟨message, listed, rfl⟩ := List.mem_map.mp member
  exact full message listed

/-- A message in front of the messages of a field. -/
theorem prepend_joined (message : Message) {messages : List Message}
    (full : ∀ message ∈ messages, message.text ≠ []) :
    prepend message.text (joinedTexts (messages.map (·.text))) =
      joinedTexts ((message :: messages).map (·.text)) := by
  unfold prepend
  by_cases none : messages = []
  · subst none
    simp [joinedTexts]
  · have some : joinedTexts (messages.map (·.text)) ≠ [] := mt (joined_texts full).mp none
    rw [if_neg (by simpa using some), List.map_cons]
    unfold joinedTexts
    rw [List.intercalate_cons_of_ne_nil (by simpa using none)]

theorem fields_texts (exchange : Exchange) :
    exchange.fields.map (·.2) =
      [exchange.user, exchange.assistant].filter fun text => !text.isEmpty := by
  obtain ⟨user, assistant⟩ := exchange
  cases user <;> cases assistant <;> rfl

theorem fields_exchange {group : Group} (full : group.Full)
    (filled : group.users ≠ [] ∨ group.answers ≠ []) : group.exchange.fields ≠ [] := by
  intro none
  have texts := fields_texts group.exchange
  rw [none, List.map_nil, eq_comm, List.filter_eq_nil_iff] at texts
  have users : group.exchange.user = [] := by simpa using texts group.exchange.user (by simp)
  have answers : group.exchange.assistant = [] := by
    simpa using texts group.exchange.assistant (by simp)
  rcases filled with some | some
  · exact some ((joined_texts full.1).mp users)
  · exact some ((joined_texts full.2).mp answers)

/-- The fields of groups hold the texts of their messages in order. -/
theorem joined_fields {groups : List Group} (full : ∀ group ∈ groups, group.Full) :
    joinedTexts (((groups.map Group.exchange).flatMap Exchange.fields).map (·.2)) =
      joinedTexts ((groups.flatMap Group.messages).map (·.text)) := by
  have fields : ((groups.map Group.exchange).flatMap Exchange.fields).map (·.2) =
      ((groups.flatMap Group.texts).map blankLine.intercalate).filter fun text => !text.isEmpty := by
    clear full
    induction groups with
    | nil => rfl
    | cons group rest ih =>
      rw [List.map_cons, List.flatMap_cons, List.map_append, ih, fields_texts, List.flatMap_cons,
        List.map_append, List.filter_append]
      rfl
  have texts : (groups.flatMap Group.messages).map (·.text) =
      (groups.flatMap Group.texts).flatten := by
    clear full fields
    induction groups with
    | nil => rfl
    | cons group rest ih =>
      rw [List.flatMap_cons, List.map_append, ih, List.flatMap_cons, List.flatten_append]
      simp [Group.messages, Group.texts]
  unfold joinedTexts
  rw [fields, texts, intercalate_flatten]
  intro part member text listed
  obtain ⟨group, grouped, member⟩ := List.mem_flatMap.mp member
  obtain ⟨users, answers⟩ := full group grouped
  simp only [Group.texts, List.mem_cons, List.not_mem_nil, or_false] at member
  rcases member with rfl | rfl
  · obtain ⟨message, asked, rfl⟩ := List.mem_map.mp listed
    exact users message asked
  · obtain ⟨message, answered, rfl⟩ := List.mem_map.mp listed
    exact answers message answered

end Fields

/-- What the loop has read, oldest message first: the group that it is in, then those behind it. -/
structure Progress (seen : List Message) (exchanges : List Exchange) (current : Exchange)
    (answered : Nat) (part : Group) (groups : List Group) : Prop where
  read : seen.reverse = part.messages ++ groups.flatMap Group.messages
  pushed : exchanges.reverse = groups.map Group.exchange
  current : current = part.exchange
  users : ∀ group ∈ part :: groups, ∀ message ∈ group.users, message.user = true
  answers : ∀ group ∈ part :: groups, ∀ message ∈ group.answers, message.user = false
  full : ∀ group ∈ part :: groups, group.Full
  asked : ∀ group ∈ groups, group.users ≠ []
  /-- Behind the newest group, each one has answers. -/
  opened : groups ≠ [] → part.answers ≠ []
  pending : ∀ group ∈ groups.dropLast, group.answers ≠ []
  counted : answered = groups.countP fun group => !group.answers.isEmpty
  few : answered < 8

theorem isAnswered_exchange {group : Group} (full : group.Full) :
    isAnswered group.exchange = !group.answers.isEmpty := by
  unfold isAnswered Group.exchange
  rw [Bool.eq_iff_iff]
  simpa using not_congr (joined_texts full.2)

theorem countP_isAnswered {groups : List Group} (full : ∀ group ∈ groups, group.Full) :
    (groups.map Group.exchange).countP isAnswered =
      groups.countP fun group => !group.answers.isEmpty := by
  rw [List.countP_map]
  apply List.countP_congr
  intro group member
  rw [Function.comp_apply, isAnswered_exchange (full group member)]

/-- A further message of the group that the loop is in. -/
theorem exchange_add {group : Group} (message : Message) (full : group.Full) :
    group.exchange.add message =
      Group.exchange (if message.user then ⟨message :: group.users, group.answers⟩
        else ⟨group.users, message :: group.answers⟩) := by
  unfold Exchange.add
  split
  · simp only [Group.exchange, prepend_joined message full.1]
  · simp only [Group.exchange, prepend_joined message full.2]

/-- Groups that hold what was kept, oldest first, are a selection. -/
theorem selection_of_groups {kept dropped : List Message} {groups : List Group}
    (read : kept.reverse = groups.flatMap Group.messages)
    (users : ∀ group ∈ groups, ∀ message ∈ group.users, message.user = true)
    (answers : ∀ group ∈ groups, ∀ message ∈ group.answers, message.user = false)
    (full : ∀ group ∈ groups, group.Full)
    (filled : ∀ group ∈ groups, group.users ≠ [] ∨ group.answers ≠ [])
    (pending : ∀ group ∈ groups.dropLast, group.answers ≠ [])
    (few : (groups.countP fun group => !group.answers.isEmpty) ≤ 8)
    (stopped : dropped = [] ∨ (groups.countP fun group => !group.answers.isEmpty) = 8) :
    Selection (kept ++ dropped) (groups.map Group.exchange) kept dropped groups where
  newest := rfl
  chronological := read
  rendered := rfl
  users := users
  answers := answers
  concatenated := by rw [joined_fields full, read]
  filled := by
    intro exchange member
    obtain ⟨group, listed, rfl⟩ := List.mem_map.mp member
    exact fields_exchange (full group listed) (filled group listed)
  bounded := by rwa [countP_isAnswered full]
  full := by rwa [countP_isAnswered full]
  pending := by
    intro exchange member
    rw [← List.map_dropLast] at member
    obtain ⟨group, listed, rfl⟩ := List.mem_map.mp member
    have answered := pending group listed
    exact mt (joined_texts (full group (List.dropLast_subset _ listed)).2).mp (by simpa using answered)

section Loop

variable {seen : List Message} {exchanges : List Exchange} {current : Exchange} {answered : Nat}
  {part : Group} {groups : List Group}

/-- The group that the loop is in, put before those behind it. -/
theorem Progress.pending_cons
    (progress : Progress seen exchanges current answered part groups) :
    ∀ group ∈ (part :: groups).dropLast, group.answers ≠ [] := by
  intro group member
  by_cases none : groups = []
  · subst none
    simp at member
  · rw [List.dropLast_cons_of_ne_nil none] at member
    rcases List.mem_cons.mp member with rfl | member
    · exact progress.opened none
    · exact progress.pending group member

theorem Progress.current_assistant
    (progress : Progress seen exchanges current answered part groups) :
    current.assistant.isEmpty = part.answers.isEmpty := by
  have answers := joined_texts (progress.full part (by simp)).2
  rw [progress.current, Bool.eq_iff_iff]
  simpa [Group.exchange] using answers

theorem Progress.current_user
    (progress : Progress seen exchanges current answered part groups) :
    current.user.isEmpty = part.users.isEmpty := by
  have users := joined_texts (progress.full part (by simp)).1
  rw [progress.current, Bool.eq_iff_iff]
  simpa [Group.exchange] using users

/-- No group is empty, so long as the one that the loop is in is not. -/
theorem Progress.filled_cons
    (progress : Progress seen exchanges current answered part groups)
    (filled : part.users ≠ [] ∨ part.answers ≠ []) :
    ∀ group ∈ part :: groups, group.users ≠ [] ∨ group.answers ≠ [] :=
  List.forall_mem_cons.mpr ⟨filled, fun group member => .inl (progress.asked group member)⟩

/-- The answered groups, with the one that the loop is in. -/
theorem Progress.counted_cons
    (progress : Progress seen exchanges current answered part groups) :
    ((part :: groups).countP fun group => !group.answers.isEmpty) =
      answered + if current.assistant.isEmpty then 0 else 1 := by
  rw [List.countP_cons, ← progress.counted, progress.current_assistant]
  cases part.answers.isEmpty <;> rfl

theorem Progress.pushed_cons
    (progress : Progress seen exchanges current answered part groups) :
    (exchanges ++ [current]).reverse = (part :: groups).map Group.exchange := by
  rw [List.reverse_append, progress.pushed, progress.current]
  rfl

/-- The loop reads a message into its group. -/
theorem Progress.add (progress : Progress seen exchanges current answered part groups)
    {message : Message} (filled : message.text ≠ [])
    (joins : message.user = true ∨ part.users = []) :
    Progress (seen ++ [message]) exchanges (current.add message) answered
      (if message.user then ⟨message :: part.users, part.answers⟩
        else ⟨part.users, message :: part.answers⟩) groups := by
  obtain ⟨read, pushed, same, users, answers, full, asked_before, opened, pending, counted, few⟩ :=
    progress
  have current : current.add message = Group.exchange
      (if message.user then ⟨message :: part.users, part.answers⟩
        else ⟨part.users, message :: part.answers⟩) := by
    rw [same, exchange_add message (full part (by simp))]
  have older : ∀ {fact : Group → Prop}, (∀ group ∈ part :: groups, fact group) →
      ∀ group ∈ groups, fact group := fun held group member =>
    held group (List.mem_cons_of_mem _ member)
  rw [List.forall_mem_cons] at users answers full
  cases asked : message.user with
  | true =>
    rw [asked] at current
    refine ⟨?_, pushed, current, ?_, ?_, ?_, asked_before, opened, pending, counted, few⟩
    · rw [List.reverse_append, read]
      rfl
    · rw [List.forall_mem_cons]
      exact ⟨List.forall_mem_cons.mpr ⟨asked, users.1⟩, users.2⟩
    · rw [List.forall_mem_cons]
      exact ⟨answers.1, answers.2⟩
    · rw [List.forall_mem_cons]
      exact ⟨⟨List.forall_mem_cons.mpr ⟨filled, full.1.1⟩, full.1.2⟩, full.2⟩
  | false =>
    rw [asked] at current
    have first : part.users = [] := by simpa [asked] using joins
    refine ⟨?_, pushed, current, ?_, ?_, ?_, asked_before, ?_, pending, counted, few⟩
    · rw [List.reverse_append, read]
      simp [Group.messages, first]
    · rw [List.forall_mem_cons]
      exact ⟨users.1, users.2⟩
    · rw [List.forall_mem_cons]
      exact ⟨List.forall_mem_cons.mpr ⟨asked, answers.1⟩, answers.2⟩
    · rw [List.forall_mem_cons]
      exact ⟨⟨full.1.1, List.forall_mem_cons.mpr ⟨filled, full.1.2⟩⟩, full.2⟩
    · intro some
      simp

/-- The loop leaves its group behind and reads a message into a new one. -/
theorem Progress.push (progress : Progress seen exchanges current answered part groups)
    {message : Message} (filled : message.text ≠ []) (answers : message.user = false)
    (asked : part.users ≠ [])
    (few : (answered + if current.assistant.isEmpty then 0 else 1) < 8) :
    Progress (seen ++ [message]) (exchanges ++ [current]) (Exchange.add {} message)
      (answered + if current.assistant.isEmpty then 0 else 1) ⟨[], [message]⟩
      (part :: groups) where
  read := by
    rw [List.reverse_append, progress.read]
    rfl
  pushed := progress.pushed_cons
  current := by
    have only := @exchange_add ⟨[], []⟩ message ⟨nofun, nofun⟩
    rw [answers] at only
    exact only
  users := List.forall_mem_cons.mpr ⟨nofun, progress.users⟩
  answers := List.forall_mem_cons.mpr ⟨by simpa using answers, progress.answers⟩
  full := List.forall_mem_cons.mpr ⟨⟨nofun, by simpa using filled⟩, progress.full⟩
  asked := List.forall_mem_cons.mpr ⟨asked, progress.asked⟩
  opened := by simp
  pending := progress.pending_cons
  counted := progress.counted_cons.symm
  few := few

theorem selectLoop_selects (progress : Progress seen exchanges current answered part groups)
    {messages : List Message} (full : ∀ message ∈ messages, message.text ≠ []) :
    ∃ kept dropped groups, Selection (seen ++ messages)
      (selectLoop exchanges current answered messages) kept dropped groups := by
  induction messages generalizing seen exchanges current answered part groups with
  | nil =>
    rw [selectLoop]
    unfold finish
    split
    · rename_i something
      simp only [progress.current_user, progress.current_assistant, Bool.or_eq_true,
        Bool.not_eq_true', List.isEmpty_eq_false_iff] at something
      rw [progress.pushed_cons]
      refine ⟨seen, [], part :: groups, selection_of_groups ?_ progress.users progress.answers
        progress.full (progress.filled_cons something) progress.pending_cons ?_ (.inl rfl)⟩
      · rw [progress.read]
        rfl
      · have few := progress.few
        rw [progress.counted_cons]
        split <;> omega
    · rename_i nothing
      simp only [progress.current_user, progress.current_assistant, Bool.or_eq_true,
        Bool.not_eq_true', not_or, Bool.not_eq_false, List.isEmpty_iff] at nothing
      have alone : groups = [] := by
        by_contra some
        exact progress.opened some nothing.2
      subst alone
      have read := progress.read
      rw [Group.messages, nothing.1, nothing.2] at read
      rw [progress.pushed]
      refine ⟨seen, [], [], selection_of_groups read ?_ ?_ ?_ ?_ ?_ ?_ (.inl rfl)⟩ <;> simp
  | cons message rest ih =>
    rw [List.forall_mem_cons] at full
    have filled := full.1
    rw [selectLoop]
    split
    · rename_i turned
      simp only [progress.current_user, Bool.and_eq_true, Bool.not_eq_true',
        List.isEmpty_eq_false_iff] at turned
      dsimp only
      by_cases eight : (answered + if current.assistant.isEmpty then 0 else 1) = 8
      · rw [if_pos eight]
        have finished : finish (exchanges ++ [current]) {} = (part :: groups).map Group.exchange :=
          progress.pushed_cons
        rw [finished]
        refine ⟨seen, message :: rest, part :: groups, selection_of_groups ?_ progress.users
          progress.answers progress.full (progress.filled_cons (.inl turned.2))
          progress.pending_cons ?_ (.inr ?_)⟩
        · rw [progress.read]
          rfl
        · rw [progress.counted_cons, eight]
        · rw [progress.counted_cons, eight]
      · rw [if_neg eight, List.append_cons]
        apply ih (progress.push filled turned.1 turned.2 ?_) full.2
        have few := progress.few
        have step : (if current.assistant.isEmpty then 0 else 1) ≤ 1 := by split <;> omega
        omega
    · rename_i same
      rw [List.append_cons]
      apply ih (progress.add filled ?_) full.2
      simpa [progress.current_user, or_iff_not_imp_left] using same

/-- What is selected is the newest messages, in groups. -/
theorem select_selects {messages : List Message}
    (full : ∀ message ∈ messages, message.text ≠ []) :
    ∃ kept dropped groups, Selection messages (select messages) kept dropped groups := by
  have start : Progress [] [] {} 0 ⟨[], []⟩ [] := by
    refine ⟨rfl, rfl, rfl, ?_, ?_, ?_, ?_, ?_, ?_, rfl, by decide⟩ <;> simp [Group.Full]
  exact selectLoop_selects start full

end Loop

end Decodex.Guarantees.MessageSelection
