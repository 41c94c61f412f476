/-!
# Positional decimals

A decimal is a whole number of units, the unit being a power of ten. Its positional text writes
every place down to the unit and uses no exponent.
-/

namespace SimplexMethod

/-- The number `digits * 10 ^ exponent`. -/
structure Decimal where
  digits : Nat
  exponent : Int
deriving DecidableEq

namespace Decimal

/-- The digits of `n` with leading zeros up to the length `width`. -/
def paddedDigits (n width : Nat) : List Char :=
  let written := Nat.toDigits 10 n
  List.replicate (width - written.length) '0' ++ written

/-- The digits of `n` with a point before the last `places` of them and a digit before the point. -/
def pointed (n places : Nat) : List Char :=
  let written := paddedDigits n (places + 1)
  written.take (written.length - places) ++ '.' :: written.drop (written.length - places)

/-- The positional text: zeros stand after the digits of a large number, and at least one digit
stands before the point of a number with decimal places. -/
def positional (d : Decimal) : String :=
  match d.exponent with
  | .ofNat zeros => String.ofList (Nat.toDigits 10 d.digits ++ List.replicate zeros '0')
  | .negSucc places => String.ofList (pointed d.digits (places + 1))

end Decimal

end SimplexMethod
