/-!
# Decimal text

Canonical decimal text of naturals and integers, and the two readings used: canonical decimals up
to a maximum, and signed decimals of a machine word.
-/

namespace IntervalRegex.Text

/-- Canonical decimal digits: no leading zero, `0` for zero. -/
def decimal (n : Nat) : List Char := Nat.toDigits 10 n

/-- Canonical decimal text of an integer: `-` for negatives and no other sign. -/
def signedDecimal : Int → List Char
  | .ofNat n => decimal n
  | .negSucc n => '-' :: decimal (n + 1)

/-- The value of a run of decimal digits. -/
def digitsValue (cs : List Char) : Nat := Nat.ofDigitChars 10 cs 0

theorem digitsValue_decimal (n : Nat) : digitsValue (decimal n) = n :=
  Nat.ofDigitChars_ten_toDigits

theorem decimal_of_lt {n : Nat} (h : n < 10) : decimal n = [n.digitChar] :=
  Nat.toDigits_of_lt_base h

theorem decimal_of_le {n : Nat} (h : 10 ≤ n) :
    decimal n = decimal (n / 10) ++ [(n % 10).digitChar] :=
  Nat.toDigits_of_base_le (by decide) h

/-- Reads a canonical decimal of at most three digits that is at most `max`. -/
def readDecimal (max : Nat) (cs : List Char) : Option Nat :=
  if cs ≠ [] ∧ cs.length ≤ 3 ∧ (cs.all Char.isDigit) ∧ (cs.length = 1 ∨ cs.head? ≠ some '0') then
    if digitsValue cs ≤ max then some (digitsValue cs) else none
  else
    none

/-- The least and the greatest signed integers of 64 bits. -/
def minInt64 : Int := -9223372036854775808

@[inherit_doc minInt64]
def maxInt64 : Int := 9223372036854775807

/-- Reads one or more digits; leading zeros are allowed. -/
def readDigits (cs : List Char) : Option Nat :=
  if cs ≠ [] ∧ cs.all Char.isDigit then some (digitsValue cs) else none

/-- Reads an optional sign and digits, whose value fits in 64 signed bits. -/
def readInt64 (cs : List Char) : Option Int :=
  let value : Option Int :=
    match cs with
    | '-' :: digits => (readDigits digits).map fun n => -(n : Int)
    | '+' :: digits => (readDigits digits).map fun n => (n : Int)
    | digits => (readDigits digits).map fun n => (n : Int)
  value.filter fun n => minInt64 ≤ n && n ≤ maxInt64

end IntervalRegex.Text
