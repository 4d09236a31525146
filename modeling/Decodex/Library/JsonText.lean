import Mathlib.Data.List.Basic
import Mathlib.Tactic.Common

/-!
# JSON texts of strings and numbers

The texts that a compact JSON writer makes of strings and natural numbers, and their reading from
the front of a longer text. Nothing here names a particular writer of JSON.
-/
namespace Decodex.Library.JsonText

def quote : Char := '\x22'

def backslash : Char := '\x5c'

/-- What a character becomes between quotes. -/
def escape (c : Char) : List Char :=
  if c = quote ∨ c = backslash then [backslash, c]
  else if c.toNat < 32 then
    [backslash, 'u', '0', '0', (c.toNat / 16).digitChar, (c.toNat % 16).digitChar]
  else [c]

/-- A string between quotes. -/
def literal (text : List Char) : List Char := quote :: (text.flatMap escape ++ [quote])

/-- The value of a hexadecimal digit in lower case. -/
def hexValue (digit : Char) : Nat :=
  if digit.toNat < 97 then digit.toNat - 48 else digit.toNat - 87

def keep (c : Char) (read : Option (List Char × List Char)) : Option (List Char × List Char) :=
  read.map fun (text, rest) => (c :: text, rest)

/-- The string before the closing quote, and what follows the quote. -/
def readBody : List Char → Option (List Char × List Char)
  | [] => none
  | c :: rest =>
    if c = quote then some ([], rest)
    else if c = backslash then
      match rest with
      | [] => none
      | 'u' :: _ :: _ :: high :: low :: rest =>
        keep (Char.ofNat (16 * hexValue high + hexValue low)) (readBody rest)
      | escaped :: rest => keep escaped (readBody rest)
    else keep c (readBody rest)

theorem hexValue_digitChar {n : Nat} (small : n < 16) : hexValue n.digitChar = n := by
  revert n
  decide

theorem readBody_escape (c : Char) (rest : List Char) :
    readBody (escape c ++ rest) = keep c (readBody rest) := by
  unfold escape
  split
  · rename_i special
    rcases special with rfl | rfl <;> rfl
  · rename_i plain
    rw [not_or] at plain
    split
    · rename_i control
      have value : 16 * hexValue (c.toNat / 16).digitChar + hexValue (c.toNat % 16).digitChar =
          c.toNat := by
        rw [hexValue_digitChar (by omega), hexValue_digitChar (by omega)]
        omega
      change keep (Char.ofNat _) (readBody rest) = _
      rw [value, Char.ofNat_toNat]
    · rw [List.singleton_append, readBody.eq_def]
      dsimp only
      rw [if_neg plain.1, if_neg plain.2]

theorem readBody_literal (text rest : List Char) :
    readBody (text.flatMap escape ++ quote :: rest) = some (text, rest) := by
  induction text with
  | nil =>
    rw [List.flatMap_nil, List.nil_append, readBody.eq_def]
    rfl
  | cons c text ih =>
    rw [List.flatMap_cons, List.append_assoc, readBody_escape, ih]
    rfl

/-- The number at the front of a text, and what follows its digits. -/
def readNumber (text : List Char) : Nat × List Char :=
  (Nat.ofDigitChars 10 (text.takeWhile Char.isDigit) 0, text.dropWhile Char.isDigit)

theorem readNumber_toDigits (n : Nat) {c : Char} (stops : c.isDigit = false) (rest : List Char) :
    readNumber (Nat.toDigits 10 n ++ c :: rest) = (n, c :: rest) := by
  have digits : ∀ d ∈ Nat.toDigits 10 n, d.isDigit = true := fun d member =>
    Nat.isDigit_of_mem_toDigits (by decide) (by decide) member
  unfold readNumber
  rw [List.takeWhile_append_of_pos digits, List.dropWhile_append_of_pos digits,
    List.takeWhile_cons_of_neg (by simp [stops]), List.dropWhile_cons_of_neg (by simp [stops]),
    List.append_nil, Nat.ofDigitChars_ten_toDigits]

end Decodex.Library.JsonText
