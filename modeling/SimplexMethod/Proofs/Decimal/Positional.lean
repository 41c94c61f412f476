import Mathlib.Algebra.Field.Rat
import Mathlib.Data.List.TakeWhile
import Mathlib.Tactic.NormNum
import SimplexMethod.Decimal.Positional

/-!
# Reading positional decimals

The positional text of a decimal is read by taking its digits without the point as one whole number
and moving the point as many places to the left as digits stand behind it. This gives the value of
the decimal again, so two decimals with one text have one value.

## Main definitions

* `Decimal.value`: the number that a decimal stands for
* `Decimal.read`: the number that a text stands for

## Main results

* `Decimal.read_positional`: a decimal is read back from its text
-/

namespace SimplexMethod

namespace Decimal

/-- The number that a decimal stands for. -/
def value (d : Decimal) : Rat := d.digits * 10 ^ d.exponent

/-- Whether a character may stand in the text of a number without a sign. -/
def isNumberChar (char : Char) : Bool := char.isDigit || char == '.'

/-- The number that a text of digits, with or without a point, stands for. -/
def read (text : List Char) : Rat :=
  Nat.ofDigitChars 10 (text.filter (· ≠ '.')) 0 / 10 ^ (text.dropWhile (· ≠ '.')).tail.length

/-! ## Digits -/

theorem isDigit_of_mem_paddedDigits {n width : Nat} {char : Char}
    (member : char ∈ paddedDigits n width) : char.isDigit = true := by
  rcases List.mem_append.1 member with zero | digit
  · rw [List.eq_of_mem_replicate zero]
    rfl
  · exact Nat.isDigit_of_mem_toDigits (by decide) (by decide) digit

/-- Leading zeros do not change what the digits say. -/
theorem ofDigitChars_paddedDigits (n width : Nat) :
    Nat.ofDigitChars 10 (paddedDigits n width) 0 = n := by
  rw [paddedDigits, Nat.ofDigitChars_append, Nat.ofDigitChars_replicate_zero, Nat.mul_zero,
    Nat.ofDigitChars_ten_toDigits]

theorem le_length_paddedDigits (n width : Nat) : width ≤ (paddedDigits n width).length := by
  rw [paddedDigits, List.length_append, List.length_replicate]
  omega

/-- A digit is not the point. -/
theorem ne_point_of_isDigit {char : Char} (digit : char.isDigit = true) : char ≠ '.' := by
  rintro rfl
  cases digit

section Read

variable {whole places : List Char}

private theorem filter_digits {part : List Char} (digits : ∀ char ∈ part, char.isDigit = true) :
    part.filter (· ≠ '.') = part :=
  List.filter_eq_self.2 fun char member => decide_eq_true (ne_point_of_isDigit (digits char member))

/-- A text without a point is a whole number. -/
theorem read_of_digits (digits : ∀ char ∈ whole, char.isDigit = true) :
    read whole = Nat.ofDigitChars 10 whole 0 := by
  have rest : whole.dropWhile (· ≠ '.') = [] :=
    List.dropWhile_eq_nil_iff.2 fun char member =>
      decide_eq_true (ne_point_of_isDigit (digits char member))
  rw [read, filter_digits digits, rest, List.tail_nil, List.length_nil, pow_zero, div_one]

/-- The digits around a point are read as one number, which is then divided by a power of ten. -/
theorem read_of_point (whole_digits : ∀ char ∈ whole, char.isDigit = true)
    (place_digits : ∀ char ∈ places, char.isDigit = true) :
    read (whole ++ '.' :: places) =
      Nat.ofDigitChars 10 (whole ++ places) 0 / 10 ^ places.length := by
  have rest : (whole ++ '.' :: places).dropWhile (· ≠ '.') = '.' :: places := by
    rw [List.dropWhile_append_of_pos fun char member =>
      decide_eq_true (ne_point_of_isDigit (whole_digits char member))]
    simp
  rw [read, rest, List.filter_append, List.filter_cons_of_neg (by simp),
    filter_digits whole_digits, filter_digits place_digits, List.tail_cons]

end Read

/-! ## Texts -/

theorem isNumberChar_of_mem_positional {d : Decimal} {char : Char}
    (member : char ∈ d.positional.toList) : isNumberChar char = true := by
  have digit {c : Char} (digit : c.isDigit = true) : isNumberChar c = true := by
    rw [isNumberChar, digit, Bool.true_or]
  unfold positional at member
  split at member
  · rw [String.toList_ofList] at member
    rcases List.mem_append.1 member with written | zero
    · exact digit (Nat.isDigit_of_mem_toDigits (by decide) (by decide) written)
    · rw [List.eq_of_mem_replicate zero]
      rfl
  · rw [String.toList_ofList] at member
    rcases List.mem_append.1 member with whole | places
    · exact digit (isDigit_of_mem_paddedDigits (List.mem_of_mem_take whole))
    · rcases List.mem_cons.1 places with rfl | place
      · rfl
      · exact digit (isDigit_of_mem_paddedDigits (List.mem_of_mem_drop place))

/-- A decimal is read back from its text. -/
theorem read_positional (d : Decimal) : read d.positional.toList = d.value := by
  obtain ⟨digits, exponent⟩ := d
  cases exponent with
  | ofNat zeros =>
    have digit : ∀ char ∈ Nat.toDigits 10 digits ++ List.replicate zeros '0',
        char.isDigit = true := by
      intro char member
      rcases List.mem_append.1 member with written | zero
      · exact Nat.isDigit_of_mem_toDigits (by decide) (by decide) written
      · rw [List.eq_of_mem_replicate zero]
        rfl
    -- The zeros behind the digits multiply by a power of ten.
    rw [positional, String.toList_ofList, read_of_digits digit, Nat.ofDigitChars_append,
      Nat.ofDigitChars_ten_toDigits, Nat.ofDigitChars_replicate_zero, value]
    push_cast
    rw [Int.ofNat_eq_natCast, zpow_natCast, mul_comm]
  | negSucc places =>
    have width := le_length_paddedDigits digits (places + 1 + 1)
    have behind : ((paddedDigits digits (places + 1 + 1)).drop
        ((paddedDigits digits (places + 1 + 1)).length - (places + 1))).length = places + 1 := by
      rw [List.length_drop]
      omega
    rw [positional, String.toList_ofList, pointed, read_of_point, List.take_append_drop, behind,
      ofDigitChars_paddedDigits, value]
    · rw [zpow_negSucc, div_eq_mul_inv]
    · exact fun char member => isDigit_of_mem_paddedDigits (List.mem_of_mem_take member)
    · exact fun char member => isDigit_of_mem_paddedDigits (List.mem_of_mem_drop member)

end Decimal

end SimplexMethod
