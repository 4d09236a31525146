import Decodex.Library.Bytes

/-!
# Reading bytes as UTF-8

`fromUtf8` decodes a byte string or says how far it is a text and whether the bytes behind that
could still become a character (`str::from_utf8` and its `Utf8Error`). Cut at any byte, the
bytes of a text are a shorter text and the beginning of a character, and the error says so.
-/
namespace Decodex.Library.Utf8

/-- `Utf8Error`: how many bytes are a text, and the length of the sequence behind them that is
none; without a length the bytes ended too early. -/
structure Utf8Error where
  validUpTo : Nat
  errorLen : Option Nat
  deriving DecidableEq, Repr

/-- Bounds of a byte. -/
abbrev ByteRange := UInt8 × UInt8

def ByteRange.Holds (range : ByteRange) (byte : UInt8) : Prop := range.1 ≤ byte ∧ byte ≤ range.2

instance decidableHolds (range : ByteRange) (byte : UInt8) : Decidable (range.Holds byte) :=
  inferInstanceAs (Decidable (_ ∧ _))

/-- Any continuation byte. -/
def anyTail : ByteRange := (0x80, 0xBF)

/-- The ranges of the bytes a leading byte calls for. -/
def continuations (lead : UInt8) : Option (List ByteRange) :=
  if lead ≤ 0x7F then some []
  else if lead < 0xC2 then none
  else if lead ≤ 0xDF then some [anyTail]
  else if lead = 0xE0 then some [(0xA0, 0xBF), anyTail]
  else if lead = 0xED then some [(0x80, 0x9F), anyTail]
  else if lead ≤ 0xEF then some [anyTail, anyTail]
  else if lead = 0xF0 then some [(0x90, 0xBF), anyTail, anyTail]
  else if lead ≤ 0xF3 then some [anyTail, anyTail, anyTail]
  else if lead = 0xF4 then some [(0x80, 0x8F), anyTail, anyTail]
  else none

/-- The error of a byte string, from a state: the bytes that are a text, the bytes read of the
current character and the ranges of those it still calls for. -/
def scan : Nat → Nat → List ByteRange → List UInt8 → Utf8Error
  | validUpTo, _, _, [] => ⟨validUpTo, none⟩
  | validUpTo, seen, owed, byte :: rest =>
    match owed with
    | [] =>
      match continuations byte with
      | none => ⟨validUpTo, some 1⟩
      | some [] => scan (validUpTo + 1) 0 [] rest
      | some owed => scan validUpTo 1 owed rest
    | range :: owed =>
      if range.Holds byte then
        match owed with
        | [] => scan (validUpTo + seen + 1) 0 [] rest
        | owed => scan validUpTo (seen + 1) owed rest
      else ⟨validUpTo, some seen⟩

/-- `str::from_utf8`. -/
def fromUtf8 (bytes : List UInt8) : Except Utf8Error String :=
  match String.fromUTF8? bytes.toByteArray with
  | some text => .ok text
  | none => .error (scan 0 0 [] bytes)

def charBytes (chars : List Char) : List UInt8 := chars.flatMap String.utf8EncodeChar

theorem utf8_ofList (chars : List Char) : utf8 (String.ofList chars) = charBytes chars := by
  unfold utf8 charBytes
  rw [String.toUTF8_eq_toByteArray, String.toByteArray_ofList, List.utf8Encode,
    List.toList_data_toByteArray]

theorem utf8_eq_charBytes (text : String) : utf8 text = charBytes text.toList := by
  rw [← utf8_ofList, String.ofList_toList]

theorem charBytes_append (a b : List Char) : charBytes (a ++ b) = charBytes a ++ charBytes b :=
  List.flatMap_append

theorem charBytes_cons (c : Char) (chars : List Char) :
    charBytes (c :: chars) = String.utf8EncodeChar c ++ charBytes chars := List.flatMap_cons

theorem holds_ofNat {low high : UInt8} {value : Nat} (above : low.toNat ≤ value)
    (below : value ≤ high.toNat) : ByteRange.Holds (low, high) (UInt8.ofNat value) := by
  have bound := high.toNat_lt
  have small : (UInt8.ofNat value).toNat = value := by
    rw [UInt8.toNat_ofNat']
    omega
  unfold ByteRange.Holds
  rw [UInt8.le_iff_toNat_le, UInt8.le_iff_toNat_le, small]
  exact ⟨above, below⟩

theorem anyTail_holds (value : Nat) :
    ByteRange.Holds anyTail (UInt8.ofNat (value % 0x40 + 0x80)) :=
  holds_ofNat (Nat.le_add_left _ _) (by
    have := Nat.mod_lt value (show 0 < 0x40 by decide)
    change value % 0x40 + 0x80 ≤ 0xBF
    omega)

section Leads

/-! A leading byte that is given by its value. -/

variable {lead : Nat} (bound : lead < 256)
include bound

theorem toNat_lead : (UInt8.ofNat lead).toNat = lead := by
  rw [UInt8.toNat_ofNat']
  omega

theorem lead_le_iff {high : UInt8} : UInt8.ofNat lead ≤ high ↔ lead ≤ high.toNat := by
  rw [UInt8.le_iff_toNat_le, toNat_lead bound]

theorem lead_lt_iff {high : UInt8} : UInt8.ofNat lead < high ↔ lead < high.toNat := by
  rw [UInt8.lt_iff_toNat_lt, toNat_lead bound]

theorem lead_eq_iff {byte : UInt8} : UInt8.ofNat lead = byte ↔ lead = byte.toNat := by
  rw [← UInt8.toNat_inj, toNat_lead bound]

theorem continuations_ofNat : continuations (UInt8.ofNat lead) =
    if lead ≤ 0x7F then some []
    else if lead < 0xC2 then none
    else if lead ≤ 0xDF then some [anyTail]
    else if lead = 0xE0 then some [(0xA0, 0xBF), anyTail]
    else if lead = 0xED then some [(0x80, 0x9F), anyTail]
    else if lead ≤ 0xEF then some [anyTail, anyTail]
    else if lead = 0xF0 then some [(0x90, 0xBF), anyTail, anyTail]
    else if lead ≤ 0xF3 then some [anyTail, anyTail, anyTail]
    else if lead = 0xF4 then some [(0x80, 0x8F), anyTail, anyTail]
    else none := by
  simp only [continuations, lead_le_iff bound, lead_lt_iff bound, lead_eq_iff bound]
  rfl

end Leads

theorem continuations_none (lead : Nat) (bound : lead < 256) (single : lead ≤ 0x7F) :
    continuations (UInt8.ofNat lead) = some [] := by
  rw [continuations_ofNat bound, if_pos single]

theorem continuations_one (lead : Nat) (bound : lead < 256)
    (inside : 0xC2 ≤ lead ∧ lead ≤ 0xDF) :
    continuations (UInt8.ofNat lead) = some [anyTail] := by
  rw [continuations_ofNat bound, if_neg (by omega), if_neg (by omega), if_pos (by omega)]

theorem continuations_two (lead : Nat) (bound : lead < 256)
    (inside : 0xE1 ≤ lead ∧ lead ≤ 0xEF ∧ lead ≠ 0xED) :
    continuations (UInt8.ofNat lead) = some [anyTail, anyTail] := by
  rw [continuations_ofNat bound, if_neg (by omega), if_neg (by omega), if_neg (by omega),
    if_neg (by omega), if_neg (by omega), if_pos (by omega)]

theorem continuations_three (lead : Nat) (bound : lead < 256)
    (inside : 0xF1 ≤ lead ∧ lead ≤ 0xF3) :
    continuations (UInt8.ofNat lead) = some [anyTail, anyTail, anyTail] := by
  rw [continuations_ofNat bound, if_neg (by omega), if_neg (by omega), if_neg (by omega),
    if_neg (by omega), if_neg (by omega), if_neg (by omega), if_neg (by omega),
    if_pos (by omega)]

/-- The value of a character: below the surrogates or above them, and bounded. -/
theorem char_value (c : Char) :
    c.val.toNat < 0xD800 ∨ 0xDFFF < c.val.toNat ∧ c.val.toNat < 0x110000 := c.valid

/-- A leading byte calls for just the bytes that follow it. -/
theorem utf8EncodeChar_shape (c : Char) : ∃ lead tail owed,
    String.utf8EncodeChar c = lead :: tail ∧ continuations lead = some owed ∧
      List.Forall₂ ByteRange.Holds owed tail := by
  have valid := char_value c
  unfold String.utf8EncodeChar
  generalize c.val.toNat = value at valid ⊢
  dsimp only
  split
  · rename_i single
    exact ⟨_, _, _, rfl, continuations_none value (by omega) single, .nil⟩
  · split
    · have lead := continuations_one (value / 64 % 0x20 + 0xC0) (by omega) (by omega)
      exact ⟨_, _, _, rfl, lead, .cons (anyTail_holds value) .nil⟩
    · split
      · by_cases lowest : value / 4096 = 0
        · refine ⟨_, _, [(0xA0, 0xBF), anyTail], rfl, ?_, .cons ?_ (.cons (anyTail_holds value) .nil)⟩
          · rw [lowest]
            rfl
          · exact holds_ofNat (show 0xA0 ≤ value / 64 % 0x40 + 0x80 by omega)
              (show value / 64 % 0x40 + 0x80 ≤ 0xBF by omega)
        · by_cases surrogate : value / 4096 = 13
          · refine ⟨_, _, [(0x80, 0x9F), anyTail], rfl, ?_,
              .cons ?_ (.cons (anyTail_holds value) .nil)⟩
            · rw [surrogate]
              rfl
            · exact holds_ofNat (show 0x80 ≤ value / 64 % 0x40 + 0x80 by omega)
                (show value / 64 % 0x40 + 0x80 ≤ 0x9F by omega)
          · have lead := continuations_two (value / 4096 % 0x10 + 0xE0) (by omega) (by omega)
            exact ⟨_, _, _, rfl, lead,
              .cons (anyTail_holds (value / 64)) (.cons (anyTail_holds value) .nil)⟩
      · by_cases lowest : value / 262144 = 0
        · refine ⟨_, _, [(0x90, 0xBF), anyTail, anyTail], rfl, ?_,
            .cons ?_ (.cons (anyTail_holds (value / 64)) (.cons (anyTail_holds value) .nil))⟩
          · rw [lowest]
            rfl
          · exact holds_ofNat (show 0x90 ≤ value / 4096 % 0x40 + 0x80 by omega)
              (show value / 4096 % 0x40 + 0x80 ≤ 0xBF by omega)
        · by_cases highest : value / 262144 = 4
          · refine ⟨_, _, [(0x80, 0x8F), anyTail, anyTail], rfl, ?_,
              .cons ?_ (.cons (anyTail_holds (value / 64)) (.cons (anyTail_holds value) .nil))⟩
            · rw [highest]
              rfl
            · exact holds_ofNat (show 0x80 ≤ value / 4096 % 0x40 + 0x80 by omega)
                (show value / 4096 % 0x40 + 0x80 ≤ 0x8F by omega)
          · have lead := continuations_three (value / 262144 % 0x08 + 0xF0) (by omega) (by omega)
            exact ⟨_, _, _, rfl, lead, .cons (anyTail_holds (value / 4096))
              (.cons (anyTail_holds (value / 64)) (.cons (anyTail_holds value) .nil))⟩

theorem scan_nil (validUpTo seen : Nat) (owed : List ByteRange) :
    scan validUpTo seen owed [] = ⟨validUpTo, none⟩ := rfl

theorem scan_called (validUpTo seen : Nat) (lead : UInt8) (rest : List UInt8) :
    scan validUpTo seen [] (lead :: rest) =
      match continuations lead with
      | none => ⟨validUpTo, some 1⟩
      | some [] => scan (validUpTo + 1) 0 [] rest
      | some owed => scan validUpTo 1 owed rest := rfl

theorem scan_continuation {range : ByteRange} {byte : UInt8} (held : range.Holds byte)
    {owed : List ByteRange} (some : owed ≠ []) (validUpTo seen : Nat) (rest : List UInt8) :
    scan validUpTo seen (range :: owed) (byte :: rest) = scan validUpTo (seen + 1) owed rest := by
  cases owed with
  | nil => exact absurd rfl some
  | cons second owed => exact if_pos held

theorem scan_last {range : ByteRange} {byte : UInt8} (held : range.Holds byte)
    (validUpTo seen : Nat) (rest : List UInt8) :
    scan validUpTo seen [range] (byte :: rest) = scan (validUpTo + seen + 1) 0 [] rest :=
  if_pos held

theorem scan_lead {lead : UInt8} {owed : List ByteRange}
    (called : continuations lead = some owed) (some : owed ≠ []) (validUpTo seen : Nat)
    (rest : List UInt8) :
    scan validUpTo seen [] (lead :: rest) = scan validUpTo 1 owed rest := by
  cases owed with
  | nil => exact absurd rfl some
  | cons range owed => rw [scan_called, called]

theorem scan_single {lead : UInt8} (called : continuations lead = some []) (validUpTo seen : Nat)
    (rest : List UInt8) :
    scan validUpTo seen [] (lead :: rest) = scan (validUpTo + 1) 0 [] rest := by
  rw [scan_called, called]

/-- The bytes a character calls for take the scan behind it. -/
theorem scan_owed {owed : List ByteRange} {tail : List UInt8}
    (held : List.Forall₂ ByteRange.Holds owed tail) (some : owed ≠ []) (validUpTo seen : Nat)
    (rest : List UInt8) :
    scan validUpTo seen owed (tail ++ rest) = scan (validUpTo + seen + tail.length) 0 [] rest := by
  induction held generalizing seen with
  | nil => exact absurd rfl some
  | cons first others ih =>
    cases others with
    | nil => exact scan_last first validUpTo seen rest
    | cons second others =>
      rw [List.cons_append, scan_continuation first (List.cons_ne_nil _ _),
        ih (List.cons_ne_nil _ _)]
      congr 1
      simp only [List.length_cons]
      omega

/-- Before all of them are read the text ends where it did. -/
theorem scan_short {owed : List ByteRange} {tail : List UInt8}
    (held : List.Forall₂ ByteRange.Holds owed tail) (validUpTo seen : Nat) {stub : List UInt8}
    (begins : stub <+: tail) (short : stub.length < tail.length) :
    scan validUpTo seen owed stub = ⟨validUpTo, none⟩ := by
  induction held generalizing seen stub with
  | nil => exact absurd short (Nat.not_lt_zero _)
  | cons first others ih =>
    cases stub with
    | nil => exact scan_nil _ _ _
    | cons byte stub =>
      obtain ⟨rfl, inside⟩ := List.cons_prefix_cons.mp begins
      rw [List.length_cons, List.length_cons, Nat.add_lt_add_iff_right] at short
      cases others with
      | nil => exact absurd short (Nat.not_lt_zero _)
      | cons second others =>
        rw [scan_continuation first (List.cons_ne_nil _ _)]
        exact ih (seen + 1) inside short

theorem scan_char (c : Char) (validUpTo : Nat) (rest : List UInt8) :
    scan validUpTo 0 [] (String.utf8EncodeChar c ++ rest) =
      scan (validUpTo + (String.utf8EncodeChar c).length) 0 [] rest := by
  obtain ⟨lead, tail, owed, bytes, called, held⟩ := utf8EncodeChar_shape c
  rw [bytes, List.cons_append]
  cases held with
  | nil => exact scan_single called validUpTo 0 rest
  | cons first others =>
    rw [scan_lead called (List.cons_ne_nil _ _),
      scan_owed (.cons first others) (List.cons_ne_nil _ _), Nat.add_assoc, Nat.add_comm 1]
    rfl

theorem scan_beginning {c : Char} (validUpTo : Nat) {stub : List UInt8}
    (begins : stub <+: String.utf8EncodeChar c)
    (short : stub.length < (String.utf8EncodeChar c).length) :
    scan validUpTo 0 [] stub = ⟨validUpTo, none⟩ := by
  obtain ⟨lead, tail, owed, bytes, called, held⟩ := utf8EncodeChar_shape c
  rw [bytes] at begins short
  cases stub with
  | nil => exact scan_nil _ _ _
  | cons byte stub =>
    obtain ⟨rfl, inside⟩ := List.cons_prefix_cons.mp begins
    rw [List.length_cons, List.length_cons, Nat.add_lt_add_iff_right] at short
    cases held with
    | nil => exact absurd short (Nat.not_lt_zero _)
    | cons first others =>
      rw [scan_lead called (List.cons_ne_nil _ _)]
      exact scan_short (.cons first others) validUpTo 1 inside short

theorem scan_text (chars : List Char) (validUpTo : Nat) (rest : List UInt8) :
    scan validUpTo 0 [] (charBytes chars ++ rest) =
      scan (validUpTo + (charBytes chars).length) 0 [] rest := by
  induction chars generalizing validUpTo with
  | nil => rfl
  | cons c chars ih =>
    rw [charBytes_cons, List.append_assoc, scan_char, ih, List.length_append, Nat.add_assoc]

/-- The longest text the bytes begin with. -/
def LongestText (bytes : List UInt8) (text : String) : Prop :=
  utf8 text <+: bytes ∧ ∀ other, utf8 other <+: bytes → (utf8 other).length ≤ (utf8 text).length

/-- The beginning of a character, without its last byte. -/
def Beginning (stub : List UInt8) : Prop :=
  ∃ c, stub <+: String.utf8EncodeChar c ∧ stub.length < (String.utf8EncodeChar c).length

theorem beginning_nil : Beginning [] :=
  ⟨ 'a', List.nil_prefix, by decide⟩

/-- One text's bytes begin with another's only if its characters do. -/
theorem chars_prefix {l m : List Char} (begins : charBytes l <+: charBytes m) : l <+: m := by
  obtain ⟨rest, same⟩ := begins
  apply List.isPrefix_of_utf8Encode_append_eq_utf8Encode rest.toByteArray
  unfold charBytes at same
  rw [List.utf8Encode, List.utf8Encode, ← List.toByteArray_append, same]

/-- No character fits into the beginning of another one. -/
theorem Beginning.longest {stub : List UInt8} (beginning : Beginning stub) (chars : List Char) :
    LongestText (charBytes chars ++ stub) (String.ofList chars) := by
  obtain ⟨c, begins, short⟩ := beginning
  rw [LongestText, utf8_ofList]
  refine ⟨List.prefix_append _ _, fun other inside => ?_⟩
  rw [utf8_eq_charBytes] at inside ⊢
  by_contra longer
  have above : charBytes chars <+: charBytes other.toList :=
    List.prefix_of_prefix_length_le (List.prefix_append _ _) inside (by omega)
  obtain ⟨more, same⟩ := chars_prefix above
  rw [← same, charBytes_append] at inside longer
  have inside := (List.prefix_append_right_inj _).mp inside
  cases more with
  | nil => exact longer (by simp [charBytes])
  | cons d more =>
    rw [charBytes_cons] at inside
    have fits : String.utf8EncodeChar d <+: stub := (List.prefix_append _ _).trans inside
    have single : [d] <+: [c] := by
      apply chars_prefix
      simpa [charBytes] using fits.trans begins
    have equal : d = c := by simpa using single
    have := fits.length_le
    rw [equal] at this
    omega

/-- Cut anywhere, the bytes of a text are a text and the beginning of a character. -/
theorem cut_chars (chars : List Char) (length : Nat) : ∃ kept stub,
    kept <+: chars ∧ (charBytes chars).take length = charBytes kept ++ stub ∧ Beginning stub := by
  induction chars generalizing length with
  | nil => exact ⟨[], [], List.nil_prefix, by simp [charBytes], beginning_nil⟩
  | cons c chars ih =>
    rw [charBytes_cons, List.take_append]
    by_cases whole : (String.utf8EncodeChar c).length ≤ length
    · obtain ⟨kept, stub, inside, taken, beginning⟩ :=
        ih (length - (String.utf8EncodeChar c).length)
      refine ⟨c :: kept, stub, List.cons_prefix_cons.mpr ⟨rfl, inside⟩, ?_, beginning⟩
      rw [List.take_of_length_le whole, taken, charBytes_cons, List.append_assoc]
    · refine ⟨[], (String.utf8EncodeChar c).take length, List.nil_prefix, ?_, c,
        List.take_prefix _ _, ?_⟩
      · rw [Nat.sub_eq_zero_of_le (Nat.le_of_not_le whole)]
        simp [charBytes]
      · rw [List.length_take]
        omega

theorem fromUtf8_utf8 (text : String) : fromUtf8 (utf8 text) = .ok text := by
  have same : (utf8 text).toByteArray = text.toByteArray := by
    apply ByteArray.ext
    unfold utf8
    rw [List.data_toByteArray, Array.toArray_toList, String.toUTF8_eq_toByteArray]
  unfold fromUtf8 String.fromUTF8?
  rw [same, dif_pos text.isValidUTF8]
  rfl

theorem utf8_of_valid {bytes : List UInt8} (valid : bytes.toByteArray.IsValidUTF8) :
    ∃ text, utf8 text = bytes := by
  refine ⟨String.ofByteArray bytes.toByteArray valid, ?_⟩
  unfold utf8
  rw [String.toUTF8_eq_toByteArray, List.data_toByteArray]

/-- The error at the beginning of a character points behind the text in front of it. -/
theorem fromUtf8_cut (chars : List Char) {stub : List UInt8} (beginning : Beginning stub)
    (some : stub ≠ []) :
    fromUtf8 (charBytes chars ++ stub) = .error ⟨(charBytes chars).length, none⟩ := by
  have invalid : ¬ (charBytes chars ++ stub).toByteArray.IsValidUTF8 := by
    intro valid
    obtain ⟨text, bytes⟩ := utf8_of_valid valid
    have longest := (beginning.longest chars).2 text (bytes ▸ List.prefix_rfl)
    rw [bytes, utf8_ofList, List.length_append] at longest
    exact some (List.length_eq_zero_iff.mp (by omega))
  obtain ⟨c, begins, short⟩ := beginning
  unfold fromUtf8 String.fromUTF8?
  rw [dif_neg invalid, scan_text, scan_beginning _ begins short, Nat.zero_add]

end Decodex.Library.Utf8
