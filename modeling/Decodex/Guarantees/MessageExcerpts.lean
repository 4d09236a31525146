import Decodex.Guarantees.MessageSelection

/-!
# Excerpts in a byte budget

`render_budget` over what `select` selects. The text fits the budget; it is the whole where that
fits, else the longest run of newest exchanges that fits behind the marker, and only where there is
none are fields cut. At most three fields are then left, which is why a field that is no longer
than an equal share of the bytes for texts is kept whole: the shares of later fields are
recomputed, and with more fields a long one could take what a later short one needs.
-/
namespace Decodex.Guarantees.MessageExcerpts

open Decodex.Library Decodex.Source.Runtime.MessageExcerpts
open Decodex.Guarantees.MessageSelection

/-- A beginning of a text, or a beginning, the marker and an end of it, with a part left out. -/
def IsExcerpt (text cut : Text) : Prop :=
  cut <+: text ∨ ∃ front middle back, text = front ++ middle ++ back ∧
    cut = front ++ excerptMarker ++ back

/-- A rendered field: a text no longer than its share is whole. -/
def Rendered (share : Nat) (field : Text × Text) (piece : Text) : Prop :=
  ∃ cut, piece = labelled field.1 cut ∧ IsExcerpt field.2 cut ∧
    (byteLength field.2 ≤ share → cut = field.2)

def omission (start : Nat) : Text := if 0 < start then omittedHistory else []

/-- The exchanges from one on, whole, behind the marker if any were dropped. -/
def whole (exchanges : List Exchange) (start : Nat) : Text :=
  omission start ++ joinedTexts ((exchanges.map Exchange.block).drop start)

/-- The last exchange from which on the newest one, or two, are kept. -/
def lastStart (exchanges : List Exchange) : Nat := exchanges.length - retained exchanges

def fieldsFrom (exchanges : List Exchange) (start : Nat) : List (Text × Text) :=
  (exchanges.drop start).flatMap Exchange.fields

/-- The bytes of a budget that are left for the texts of fields. -/
def textBytes (maxBytes start : Nat) (fields : List (Text × Text)) : Nat :=
  maxBytes - byteLength (omission start) -
    ((fields.map fun field => byteLength field.1 + 2).sum + 2 * (fields.length - 1))

/-- The newest exchanges from one on fit behind the marker. -/
def Fits (exchanges : List Exchange) (maxBytes start : Nat) : Prop :=
  0 < start ∧ start ≤ lastStart exchanges ∧ byteLength (whole exchanges start) ≤ maxBytes

/-- The text of a budget, from an exchange on. -/
structure Budgeted (exchanges : List Exchange) (maxBytes start : Nat) (text : Text) : Prop where
  bounded : byteLength text ≤ maxBytes
  plain : byteLength (whole exchanges 0) ≤ maxBytes → start = 0 ∧ text = whole exchanges 0
  newest : start ≤ lastStart exchanges
  marked : maxBytes < byteLength (whole exchanges 0) → (omittedHistory <+: text ↔ 0 < start)
  longest : maxBytes < byteLength (whole exchanges 0) →
    (∃ other, Fits exchanges maxBytes other) →
    Fits exchanges maxBytes start ∧ text = whole exchanges start ∧
      ∀ other, Fits exchanges maxBytes other → start ≤ other
  cut : maxBytes < byteLength (whole exchanges 0) →
    (¬∃ other, Fits exchanges maxBytes other) →
    ∃ pieces, text = omission start ++ joinedTexts pieces ∧
      List.Forall₂
        (Rendered (textBytes maxBytes start (fieldsFrom exchanges start) /
          (fieldsFrom exchanges start).length))
        (fieldsFrom exchanges start) pieces

theorem checkedSub_of_le {left right : Nat} (least : right ≤ left) :
    checkedSub left right = some (left - right) := if_pos least

theorem splitAtByte_of_boundary {chars : Text} {offset : Nat}
    (boundary : isCharBoundary chars offset = true) :
    ∃ front back, splitAtByte offset chars = some (front, back) ∧ front ++ back = chars ∧
      byteLength front = offset := by
  obtain ⟨⟨front, back⟩, split⟩ := Option.isSome_iff_exists.mp boundary
  obtain ⟨same, size⟩ := splitAtByte_eq_some.mp split
  exact ⟨front, back, split, same, size⟩

/-- A text that is too long keeps both ends around the marker. -/
theorem excerpt_ends {text : Text} {maxBytes : Nat} (room : byteLength excerptMarker ≤ maxBytes)
    (long : maxBytes < byteLength text) :
    ∃ cut, (do
        let half ← checkedSub (maxBytes - byteLength excerptMarker)
          ((maxBytes - byteLength excerptMarker) / 2)
        let start ← checkedSub (byteLength text) half
        let head ← splitAtByte
          (floorBoundary text ((maxBytes - byteLength excerptMarker) / 2)) text
        let tail ← splitAtByte (ceilBoundary start text) text
        some (head.1 ++ excerptMarker ++ tail.2)) = some cut ∧
      byteLength cut ≤ maxBytes ∧ IsExcerpt text cut ∧
      (byteLength text ≤ maxBytes → cut = text) := by
  generalize content : maxBytes - byteLength excerptMarker = contentBytes
  have short : contentBytes / 2 ≤ contentBytes := Nat.div_le_self _ _
  obtain ⟨front, behind, head, same, headSize⟩ :=
    splitAtByte_of_boundary (floorBoundary_boundary text (contentBytes / 2))
  obtain ⟨before, back, tail, sameTail, tailSize⟩ := splitAtByte_of_boundary
    (ceilBoundary_boundary (byteLength text - (contentBytes - contentBytes / 2)) text)
  have atMost := floorBoundary_le text (contentBytes / 2)
  have atLeast := @le_ceilBoundary (byteLength text - (contentBytes - contentBytes / 2)) text
    (Nat.sub_le _ _)
  have begins : front <+: before := by
    have left : front <+: text := ⟨behind, same⟩
    have right : before <+: text := ⟨back, sameTail⟩
    apply prefix_of_byteLength_le left right
    omega
  obtain ⟨middle, rfl⟩ := begins
  have total : byteLength text = byteLength (front ++ middle) + byteLength back := by
    rw [← sameTail, byteLength_append]
  refine ⟨front ++ excerptMarker ++ back, ?_, ?_, .inr ⟨front, middle, back, sameTail.symm, rfl⟩,
    fun fits => absurd fits (by omega)⟩
  · have inside : contentBytes - contentBytes / 2 ≤ byteLength text := by omega
    simp only [checkedSub_of_le short, checkedSub_of_le inside, head, tail, Option.bind_eq_bind,
      Option.bind_some]
  · rw [byteLength_append, byteLength_append]
    omega

/-- An excerpt is made, fits, and is whole where the text fits. -/
theorem excerpt_spec (text : Text) (maxBytes : Nat) :
    ∃ cut, excerpt text maxBytes = some cut ∧ byteLength cut ≤ maxBytes ∧ IsExcerpt text cut ∧
      (byteLength text ≤ maxBytes → cut = text) := by
  unfold excerpt
  split
  · rename_i fits
    exact ⟨text, rfl, fits, .inl (List.prefix_refl _), fun _ => rfl⟩
  · rename_i long
    split
    · obtain ⟨front, back, split, same, size⟩ :=
        splitAtByte_of_boundary (floorBoundary_boundary text maxBytes)
      rw [split]
      refine ⟨front, rfl, ?_, .inl ⟨back, same⟩, fun fits => absurd fits long⟩
      rw [size]
      exact floorBoundary_le _ _
    · rename_i contentBytes content
      unfold checkedSub at content
      split at content
      · rename_i room
        cases content
        exact excerpt_ends room (Nat.lt_of_not_le long)
      · cases content

/-- What the later fields are kept is there. -/
theorem reserved_le (remaining : Nat) (rest : List (Text × Text)) :
    (rest.map fun field => min (byteLength field.2) (remaining / (rest.length + 1))).sum ≤
      remaining := by
  have each : (rest.map fun field => min (byteLength field.2) (remaining / (rest.length + 1))).sum ≤
      rest.length * (remaining / (rest.length + 1)) := by
    generalize remaining / (rest.length + 1) = share
    induction rest with
    | nil => exact Nat.zero_le _
    | cons field rest ih =>
      rw [List.map_cons, List.sum_cons, List.length_cons, Nat.add_mul]
      omega
  have all : (rest.length + 1) * (remaining / (rest.length + 1)) ≤ remaining :=
    Nat.mul_div_le _ _
  rw [Nat.add_mul] at all
  omega

/-- How the first field is rendered, and what remains. -/
theorem excerptFields_cons {remaining : Nat} {field : Text × Text} {rest : List (Text × Text)}
    {pieces : List Text} :
    excerptFields remaining (field :: rest) = some pieces ↔
      ∃ cut later, excerpt field.2 (remaining -
          (rest.map fun field => min (byteLength field.2) (remaining / (rest.length + 1))).sum) =
            some cut ∧
        excerptFields (remaining - byteLength cut) rest = some later ∧
        pieces = labelled field.1 cut :: later := by
  have least := reserved_le remaining rest
  obtain ⟨made, cutting, bound, _⟩ := excerpt_spec field.2 (remaining -
    (rest.map fun field => min (byteLength field.2) (remaining / (rest.length + 1))).sum)
  have left : byteLength made ≤ remaining := by omega
  simp only [excerptFields, checkedSub_of_le least, cutting, checkedSub_of_le left,
    Option.bind_eq_bind, Option.bind_some, Option.bind_eq_some_iff, Option.some.injEq]
  constructor
  · rintro ⟨later, looped, rfl⟩
    exact ⟨made, later, rfl, looped, rfl⟩
  · rintro ⟨_, later, rfl, looped, rfl⟩
    exact ⟨later, looped, rfl⟩

/-- Every field is rendered, and the texts together fit what there is. -/
theorem excerptFields_bounded (remaining : Nat) (fields : List (Text × Text)) :
    ∃ pieces, excerptFields remaining fields = some pieces ∧ pieces.length = fields.length ∧
      (pieces.map byteLength).sum ≤
        remaining + (fields.map fun field => byteLength field.1 + 2).sum := by
  induction fields generalizing remaining with
  | nil => exact ⟨[], rfl, rfl, Nat.zero_le _⟩
  | cons field rest ih =>
    obtain ⟨cut, cutting, bound, _⟩ := excerpt_spec field.2 (remaining -
      (rest.map fun field => min (byteLength field.2) (remaining / (rest.length + 1))).sum)
    obtain ⟨later, made, length, total⟩ := ih (remaining - byteLength cut)
    refine ⟨labelled field.1 cut :: later, excerptFields_cons.mpr ⟨cut, later, cutting, made, rfl⟩,
      by rw [List.length_cons, length, List.length_cons], ?_⟩
    have size : byteLength (labelled field.1 cut) = byteLength field.1 + 2 + byteLength cut := by
      unfold labelled
      rw [byteLength_append, byteLength_append]
      rfl
    rw [List.map_cons, List.sum_cons, List.map_cons, List.sum_cons, size]
    omega

theorem excerpt_eq_some {text cut : Text} {maxBytes : Nat} (h : excerpt text maxBytes = some cut) :
    byteLength cut ≤ maxBytes ∧ byteLength cut ≤ byteLength text ∧ IsExcerpt text cut ∧
      (byteLength text ≤ maxBytes → cut = text) := by
  obtain ⟨made, same, bound, ends, fits⟩ := excerpt_spec text maxBytes
  rw [h] at same
  cases same
  refine ⟨bound, ?_, ends, fits⟩
  by_cases short : byteLength text ≤ maxBytes
  · rw [fits short]
  · omega

/-- Of at most three fields, each one that is no longer than an equal share is whole. -/
theorem excerptFields_fair {remaining : Nat} {fields : List (Text × Text)} {pieces : List Text}
    (few : fields.length ≤ 3) (h : excerptFields remaining fields = some pieces) :
    List.Forall₂ (Rendered (remaining / fields.length)) fields pieces := by
  match fields with
  | [] =>
    cases h
    exact .nil
  | [first] =>
    obtain ⟨cut, later, cutting, looped, rfl⟩ := excerptFields_cons.mp h
    cases looped
    obtain ⟨_, _, ends, fits⟩ := excerpt_eq_some cutting
    refine .cons ⟨cut, rfl, ends, fun short => fits ?_⟩ .nil
    simpa using short
  | [first, second] =>
    obtain ⟨cut, later, cutting, looped, rfl⟩ := excerptFields_cons.mp h
    obtain ⟨cut', later', cutting', looped', rfl⟩ := excerptFields_cons.mp looped
    cases looped'
    obtain ⟨bound, _, ends, fits⟩ := excerpt_eq_some cutting
    obtain ⟨_, _, ends', fits'⟩ := excerpt_eq_some cutting'
    simp only [List.map_cons, List.map_nil, List.sum_cons, List.sum_nil, List.length_cons,
      List.length_nil] at bound fits fits'
    refine .cons ⟨cut, rfl, ends, fun short => fits ?_⟩
      (.cons ⟨cut', rfl, ends', fun short => fits' ?_⟩ .nil)
    · simp only [List.length_cons, List.length_nil] at short
      omega
    · simp only [List.length_cons, List.length_nil] at short
      omega
  | [first, second, third] =>
    obtain ⟨cut, later, cutting, looped, rfl⟩ := excerptFields_cons.mp h
    obtain ⟨cut', later', cutting', looped', rfl⟩ := excerptFields_cons.mp looped
    obtain ⟨cut'', later'', cutting'', looped'', rfl⟩ := excerptFields_cons.mp looped'
    cases looped''
    obtain ⟨bound, _, ends, fits⟩ := excerpt_eq_some cutting
    obtain ⟨bound', whole', ends', fits'⟩ := excerpt_eq_some cutting'
    obtain ⟨_, _, ends'', fits''⟩ := excerpt_eq_some cutting''
    simp only [List.map_cons, List.map_nil, List.sum_cons, List.sum_nil, List.length_cons,
      List.length_nil] at bound bound' fits fits' fits''
    refine .cons ⟨cut, rfl, ends, fun short => fits ?_⟩
      (.cons ⟨cut', rfl, ends', fun short => fits' ?_⟩
        (.cons ⟨cut'', rfl, ends'', fun short => fits'' ?_⟩ .nil))
    · simp only [List.length_cons, List.length_nil] at short
      omega
    · simp only [List.length_cons, List.length_nil] at short
      omega
    · simp only [List.length_cons, List.length_nil] at short
      omega

theorem byteLength_joined (first : Text) (rest : List Text) :
    byteLength (joinedTexts (first :: rest)) =
      ((first :: rest).map byteLength).sum + 2 * rest.length :=
  byteLength_intercalate blankLine first rest

/-- A block that is dropped takes what stands behind it along. -/
theorem byteLength_joined_drop {blocks : List Text} {start : Nat}
    (inside : start + 1 < blocks.length) :
    byteLength (joinedTexts (blocks.drop start)) =
      byteLength blocks[start] + 2 + byteLength (joinedTexts (blocks.drop (start + 1))) := by
  rw [List.drop_eq_getElem_cons (Nat.lt_of_succ_lt inside), List.drop_eq_getElem_cons inside]
  unfold joinedTexts
  rw [List.intercalate_cons_cons, byteLength_append, byteLength_append]
  rfl

/-- The loop stops at the first block from which on the rest fits, or at the last it may reach. -/
theorem dropOldest_spec {maxBytes : Nat} {blocks : List Text}
    (room : byteLength omittedHistory ≤ maxBytes) {left start : Nat}
    (inside : start + left < blocks.length) :
    ∃ stop, dropOldest maxBytes blocks left start (byteLength (joinedTexts (blocks.drop start))) =
        some (stop, byteLength (joinedTexts (blocks.drop stop))) ∧
      start ≤ stop ∧ stop ≤ start + left ∧
      (∀ other, start ≤ other → other < stop →
        maxBytes - byteLength omittedHistory < byteLength (joinedTexts (blocks.drop other))) ∧
      (byteLength (joinedTexts (blocks.drop stop)) ≤ maxBytes - byteLength omittedHistory ∨
        stop = start + left) := by
  induction left generalizing start with
  | zero =>
    refine ⟨start, ?_, Nat.le_refl _, Nat.le_refl _, ?_, .inr rfl⟩
    · rw [dropOldest, checkedSub_of_le room]
      rfl
    · intro other after before
      omega
  | succ left ih =>
    rw [dropOldest, checkedSub_of_le room, Option.bind_eq_bind, Option.bind_some]
    split
    · rename_i long
      have next : start + 1 < blocks.length := by omega
      have size := byteLength_joined_drop next
      obtain ⟨stop, dropped, first, last, longer, done⟩ := @ih (start + 1) (by omega)
      refine ⟨stop, ?_, by omega, by omega, ?_, ?_⟩
      · rw [List.getElem?_eq_getElem (Nat.lt_of_succ_lt next), Option.bind_eq_bind,
          Option.bind_some, checkedSub_of_le (by omega), Option.bind_some, ← dropped]
        congr 1
        omega
      · intro other after before
        by_cases here : other = start
        · rw [here]
          exact long
        · exact longer other (by omega) before
      · rcases done with fits | stopped
        · exact .inl fits
        · exact .inr (by omega)
    · rename_i short
      refine ⟨start, rfl, Nat.le_refl _, Nat.le_add_right _ _, ?_, .inl (Nat.le_of_not_lt short)⟩
      intro other after before
      omega

/-- A label is short, and what it begins does not begin with the marker. -/
def IsLabel (label : Text) : Prop :=
  byteLength label ≤ 20 ∧ ∀ rest, ¬omittedHistory <+: label ++ rest

theorem omittedHistory_head : omittedHistory.head? = some '[' := by decide

theorem isLabel_of_head {label : Text} {first : Char} (short : byteLength label ≤ 20)
    (head : label.head? = some first) (other : first ≠ '[') : IsLabel label := by
  refine ⟨short, ?_⟩
  rintro rest ⟨behind, same⟩
  apply other
  have heads := congrArg List.head? same
  rw [List.head?_append, List.head?_append, omittedHistory_head, head] at heads
  exact (Option.some.inj heads).symm

theorem isLabel_pending : IsLabel "Pending user request".toList :=
  isLabel_of_head (by decide) (show _ = some 'P' by decide) (by decide)

theorem isLabel_user : IsLabel "User".toList :=
  isLabel_of_head (by decide) (show _ = some 'U' by decide) (by decide)

theorem isLabel_assistant : IsLabel "Assistant".toList :=
  isLabel_of_head (by decide) (show _ = some 'A' by decide) (by decide)

theorem fields_label (exchange : Exchange) : ∀ field ∈ exchange.fields, IsLabel field.1 := by
  intro field member
  have listed := List.mem_of_mem_filter member
  rcases List.mem_pair.mp listed with rfl | rfl
  · dsimp only
    split
    · exact isLabel_pending
    · exact isLabel_user
  · exact isLabel_assistant

theorem fields_length (exchange : Exchange) : exchange.fields.length ≤ 2 :=
  List.length_filter_le _ _

theorem fields_length_pending {exchange : Exchange} (pending : exchange.assistant = []) :
    exchange.fields.length ≤ 1 := by
  unfold Exchange.fields
  generalize (if exchange.assistant.isEmpty then "Pending user request".toList
    else "User".toList) = label
  rw [List.filter_cons, List.filter_cons_of_neg (by rw [pending]; exact Bool.noConfusion)]
  split
  · exact Nat.le_refl _
  · exact Nat.zero_le _

section Shape

variable {exchanges : List Exchange} (some : exchanges ≠ [])
  (filled : ∀ exchange ∈ exchanges, exchange.fields ≠ [])
include some

theorem lastStart_lt : lastStart exchanges < exchanges.length := by
  have positive := List.length_pos_iff.mpr some
  unfold lastStart retained
  split <;> omega

/-- At most three fields are left when no exchange may be dropped any more. -/
theorem fieldsFrom_lastStart : (fieldsFrom exchanges (lastStart exchanges)).length ≤ 3 := by
  obtain ⟨front, latest, rfl⟩ := (List.eq_nil_or_concat exchanges).resolve_left some
  rw [List.concat_eq_append] at *
  have newest := fields_length latest
  unfold fieldsFrom lastStart retained
  rw [List.getLast?_concat, Option.map_some, Option.getD_some]
  split
  · rename_i pending
    have short := fields_length_pending (List.isEmpty_iff.mp pending)
    rcases List.eq_nil_or_concat front with rfl | ⟨older, previous, rfl⟩
    · simpa using Nat.le_succ_of_le newest
    · have before := fields_length previous
      rw [List.concat_eq_append, List.append_assoc, List.drop_append_of_le_length (by simp),
        List.drop_eq_nil_of_le (by simp)]
      simp
      omega
  · have drop : (front ++ [latest]).drop ((front ++ [latest]).length - 1) = [latest] := by
      simp
    rw [drop]
    simp
    omega

omit some in
include filled in
theorem fieldsFrom_ne_nil {start : Nat} (inside : start < exchanges.length) :
    fieldsFrom exchanges start ≠ [] := by
  unfold fieldsFrom
  rw [List.drop_eq_getElem_cons inside, List.flatMap_cons]
  intro none
  exact filled _ (List.getElem_mem inside) (List.append_eq_nil_iff.mp none).1

end Shape

/-- The bytes of labels and separators. -/
def frames (fields : List (Text × Text)) : Nat :=
  (fields.map fun field => byteLength field.1 + 2).sum + 2 * (fields.length - 1)

theorem overhead_eq {fields : List (Text × Text)} (some_field : fields ≠ []) :
    overhead fields = some (frames fields) := by
  have positive := List.length_pos_iff.mpr some_field
  unfold overhead
  rw [checkedSub_of_le positive]
  rfl

theorem frames_le {fields : List (Text × Text)} (labels : ∀ field ∈ fields, IsLabel field.1)
    (few : fields.length ≤ 3) : frames fields ≤ 70 := by
  have each : (fields.map fun field => byteLength field.1 + 2).sum ≤ fields.length * 22 := by
    clear few
    induction fields with
    | nil => exact Nat.zero_le _
    | cons field rest ih =>
      rw [List.forall_mem_cons] at labels
      have short := labels.1.1
      have later := ih labels.2
      rw [List.map_cons, List.sum_cons, List.length_cons]
      omega
  unfold frames
  omega

/-- The fields that are left fit a budget that has room for their labels. -/
theorem renderFields_spec {budget : Nat} {fields : List (Text × Text)} (some_field : fields ≠ [])
    (few : fields.length ≤ 3) (room : frames fields ≤ budget) :
    ∃ pieces, renderFields budget fields = some (joinedTexts pieces) ∧
      byteLength (joinedTexts pieces) ≤ budget ∧
      List.Forall₂ (Rendered ((budget - frames fields) / fields.length)) fields pieces := by
  obtain ⟨pieces, made, length, total⟩ := excerptFields_bounded (budget - frames fields) fields
  refine ⟨pieces, ?_, ?_, excerptFields_fair few made⟩
  · unfold renderFields
    rw [overhead_eq some_field, Option.bind_eq_bind, Option.bind_some, made]
    rfl
  · cases pieces with
    | nil => exact Nat.zero_le _
    | cons first rest =>
      rw [byteLength_joined]
      rw [List.length_cons] at length
      unfold frames at total room
      omega

/-- A rendered field begins with its label, and so does what is joined behind it. -/
theorem joined_pieces_begin {share : Nat} {fields : List (Text × Text)} {pieces : List Text}
    (some_field : fields ≠ []) (labels : ∀ field ∈ fields, IsLabel field.1)
    (rendered : List.Forall₂ (Rendered share) fields pieces) :
    ¬omittedHistory <+: joinedTexts pieces := by
  cases rendered with
  | nil => exact absurd rfl some_field
  | @cons field piece fields pieces head rest =>
    obtain ⟨cut, rfl, _⟩ := head
    have label := (labels field (by simp)).2
    unfold joinedTexts labelled
    by_cases alone : pieces = []
    · rw [alone, List.intercalate_singleton, List.append_assoc]
      exact label _
    · rw [List.intercalate_cons_of_ne_nil alone]
      simp only [List.append_assoc]
      exact label _

theorem byteLength_whole (exchanges : List Exchange) (start : Nat) :
    byteLength (whole exchanges start) =
      byteLength (omission start) +
        byteLength (joinedTexts ((exchanges.map Exchange.block).drop start)) :=
  byteLength_append _ _

theorem omission_zero : omission 0 = [] := rfl

theorem omission_pos {start : Nat} (dropped : 0 < start) : omission start = omittedHistory :=
  if_pos dropped

theorem omission_le (start : Nat) : byteLength (omission start) ≤ 29 := by
  unfold omission
  split
  · decide
  · decide

/-- A run that fits behind the marker is not passed over. -/
theorem le_of_fits {exchanges : List Exchange} {maxBytes stop other : Nat}
    (longer : ∀ other, 0 ≤ other → other < stop → maxBytes - byteLength omittedHistory <
      byteLength (joinedTexts ((exchanges.map Exchange.block).drop other)))
    (fits : Fits exchanges maxBytes other) : stop ≤ other := by
  by_contra before
  have long := longer other (Nat.zero_le _) (by omega)
  obtain ⟨dropped, _, size⟩ := fits
  rw [byteLength_whole, omission_pos dropped] at size
  omega

section Budget

variable {exchanges : List Exchange} {maxBytes start : Nat}

/-- Exchanges that fit are rendered whole. -/
theorem renderFrom_whole (fits : byteLength (whole exchanges start) ≤ maxBytes) :
    renderFrom exchanges maxBytes start
      (byteLength (joinedTexts ((exchanges.map Exchange.block).drop start))) =
        some (whole exchanges start) := by
  rw [byteLength_whole] at fits
  unfold renderFrom
  change (checkedSub maxBytes (byteLength (omission start)) >>= _) = _
  rw [checkedSub_of_le (by omega), Option.bind_eq_bind, Option.bind_some, if_pos (by omega)]
  rfl

/-- Exchanges that do not fit have their fields cut. -/
theorem renderFrom_cut (enough : 128 ≤ maxBytes)
    (long : maxBytes < byteLength (whole exchanges start))
    (some_field : fieldsFrom exchanges start ≠ [])
    (few : (fieldsFrom exchanges start).length ≤ 3)
    (labels : ∀ field ∈ fieldsFrom exchanges start, IsLabel field.1) :
    ∃ pieces, renderFrom exchanges maxBytes start
        (byteLength (joinedTexts ((exchanges.map Exchange.block).drop start))) =
          some (omission start ++ joinedTexts pieces) ∧
      byteLength (omission start ++ joinedTexts pieces) ≤ maxBytes ∧
      List.Forall₂
        (Rendered (textBytes maxBytes start (fieldsFrom exchanges start) /
          (fieldsFrom exchanges start).length))
        (fieldsFrom exchanges start) pieces := by
  have marker := omission_le start
  have small := frames_le labels few
  rw [byteLength_whole] at long
  have room : frames (fieldsFrom exchanges start) ≤ maxBytes - byteLength (omission start) := by
    omega
  obtain ⟨pieces, made, size, rendered⟩ := renderFields_spec some_field few room
  refine ⟨pieces, ?_, ?_, rendered⟩
  · unfold renderFrom
    change (checkedSub maxBytes (byteLength (omission start)) >>= _) = _
    rw [checkedSub_of_le (by omega), Option.bind_eq_bind, Option.bind_some, if_neg (by omega)]
    unfold fieldsFrom at made
    rw [made]
    rfl
  · rw [byteLength_append]
    omega

theorem renderBudget_spec (enough : 128 ≤ maxBytes) (some_exchange : exchanges ≠ [])
    (filled : ∀ exchange ∈ exchanges, exchange.fields ≠ []) :
    ∃ start text, renderBudget exchanges maxBytes = some text ∧
      Budgeted exchanges maxBytes start text := by
  have last := lastStart_lt some_exchange
  have marker : byteLength omittedHistory = 29 := by decide
  have size : ((exchanges.map Exchange.block).map byteLength).sum +
      2 * ((exchanges.map Exchange.block).length - 1) =
        byteLength (joinedTexts ((exchanges.map Exchange.block).drop 0)) := by
    cases exchanges with
    | nil => exact absurd rfl some_exchange
    | cons first rest => exact (byteLength_joined _ _).symm
  have gaps : checkedSub (exchanges.map Exchange.block).length 1 =
      some ((exchanges.map Exchange.block).length - 1) :=
    checkedSub_of_le (by rw [List.length_map]; omega)
  have plain : byteLength (whole exchanges 0) =
      byteLength (joinedTexts ((exchanges.map Exchange.block).drop 0)) := by
    rw [byteLength_whole, omission_zero, byteLength_nil, Nat.zero_add]
  unfold renderBudget
  rw [if_neg (by simpa using some_exchange)]
  simp only [gaps, Option.bind_eq_bind, Option.bind_some, size]
  split
  · rename_i fits
    rw [← plain] at fits
    exact ⟨0, _, rfl, fits, fun _ => ⟨rfl, rfl⟩, Nat.zero_le _,
      fun long => absurd fits (by omega), fun long => absurd fits (by omega),
      fun long => absurd fits (by omega)⟩
  · rename_i long
    rw [← plain] at long
    have inside : 0 + lastStart exchanges < (exchanges.map Exchange.block).length := by
      rw [List.length_map]
      omega
    have room : byteLength omittedHistory ≤ maxBytes := by omega
    obtain ⟨stop, dropped, _, within, longer, done⟩ := dropOldest_spec room inside
    rw [Nat.zero_add] at within done
    unfold lastStart at dropped
    rw [dropped, Option.bind_some]
    by_cases fits : byteLength (whole exchanges stop) ≤ maxBytes
    · have dropping : 0 < stop := by
        apply Nat.pos_of_ne_zero
        rintro rfl
        exact long fits
      refine ⟨stop, whole exchanges stop, renderFrom_whole fits, fits, ?_, within, ?_, ?_, ?_⟩
      · intro short
        exact absurd short long
      · intro _
        refine ⟨fun _ => dropping, fun _ => ?_⟩
        unfold whole
        rw [omission_pos dropping]
        exact List.prefix_append _ _
      · intro _ _
        exact ⟨⟨dropping, within, fits⟩, rfl, fun other => le_of_fits longer⟩
      · intro _ none
        exact absurd ⟨stop, dropping, within, fits⟩ none
    · have stopped : stop = lastStart exchanges := by
        rcases done with short | stopped
        · have marker := omission_le stop
          rw [byteLength_whole] at fits
          omega
        · exact stopped
      have some_field := fieldsFrom_ne_nil filled (show stop < exchanges.length by omega)
      have few : (fieldsFrom exchanges stop).length ≤ 3 := by
        rw [stopped]
        exact fieldsFrom_lastStart some_exchange
      have labels : ∀ field ∈ fieldsFrom exchanges stop, IsLabel field.1 := by
        intro field member
        obtain ⟨exchange, _, member⟩ := List.mem_flatMap.mp member
        exact fields_label exchange field member
      obtain ⟨pieces, made, bounded, rendered⟩ :=
        renderFrom_cut enough (Nat.lt_of_not_le fits) some_field few labels
      refine ⟨stop, _, made, bounded, ?_, within, ?_, ?_, ?_⟩
      · intro short
        exact absurd short long
      · intro _
        constructor
        · intro begins
          by_contra kept
          rw [Nat.eq_zero_of_not_pos kept, omission_zero, List.nil_append] at begins
          exact joined_pieces_begin some_field labels rendered begins
        · intro dropping
          rw [omission_pos dropping]
          exact List.prefix_append _ _
      · rintro _ ⟨other, found⟩
        have before := le_of_fits longer found
        have same : other = stop := Nat.le_antisymm (by rw [stopped]; exact found.2.1) before
        rw [same] at found
        exact absurd found.2.2 fits
      · intro _ _
        exact ⟨pieces, rfl, rendered⟩

end Budget

/-- The messages that are selected are rendered in the budget, for every list of messages and
every budget of at least 128 bytes. -/
theorem excerpts_are_bounded_and_fair (messages : List Message)
    (full : ∀ message ∈ messages, message.text ≠ []) :
    (∃ kept dropped groups, Selection messages (select messages) kept dropped groups) ∧
      ∀ maxBytes, 128 ≤ maxBytes → select messages ≠ [] →
        ∃ start text, renderBudget (select messages) maxBytes = some text ∧
          Budgeted (select messages) maxBytes start text := by
  have selects := select_selects full
  refine ⟨selects, ?_⟩
  intro maxBytes enough some_exchange
  obtain ⟨kept, dropped, groups, selection⟩ := selects
  exact renderBudget_spec enough some_exchange selection.filled

/-- A long answer to the second of two questions, newest first. -/
def sampleMessages : List Message :=
  [⟨false, List.replicate 200 'x'⟩, ⟨true, "Which one?".toList⟩, ⟨false, "Yes.".toList⟩,
    ⟨true, "Is it?".toList⟩]

/-- The first exchange is dropped, and the long answer loses its middle. -/
def sampleExcerpts : List Char :=
  "[Earlier exchanges omitted]\n\nUser: Which one?\n\nAssistant: ".toList ++
    List.replicate 24 'x' ++ "\n[... excerpted ...]\n".toList ++ List.replicate 25 'x'

theorem sample_excerpts :
    (∃ kept dropped groups,
      Selection sampleMessages (select sampleMessages) kept dropped groups) ∧
      renderBudget (select sampleMessages) 128 = some sampleExcerpts ∧
        ∃ start, Budgeted (select sampleMessages) 128 start sampleExcerpts := by
  have full : ∀ message ∈ sampleMessages, message.text ≠ [] := by decide
  have rendered : renderBudget (select sampleMessages) 128 = some sampleExcerpts := by
    decide +kernel
  have claimed := excerpts_are_bounded_and_fair sampleMessages full
  obtain ⟨start, text, made, budgeted⟩ := claimed.2 128 (Nat.le_refl _) (by decide)
  rw [rendered] at made
  cases made
  exact ⟨claimed.1, rendered, start, budgeted⟩

end Decodex.Guarantees.MessageExcerpts
