import IntervalRegex.Fragment

/-!
# Intervals of integers

The interval from `min` to `max` becomes alternatives that match the canonical decimals of its
members and nothing else. It is cut by sign and by number of digits; numbers with the same number of
digits are split by their leading digit into a low edge, a block of whole leading digits and a high
edge, and each edge goes on one digit to the right.
-/

namespace IntervalRegex.NumberRange

open Fragment

/-- The digits from `lo` to `hi`, where `lo ≤ hi ≤ 9`. -/
def digitClass (lo hi : Nat) : Fragment :=
  if lo = hi then digit lo
  else if lo = 0 ∧ hi = 9 then anyDigit
  else if hi = lo + 1 then pair lo hi
  else digits lo hi

/-- Exactly `count` digits of any value. -/
def freeDigits (count : Nat) : Fragment := if count = 1 then anyDigit else anyDigits count

/-- The numbers from `lo` to `hi`, all written with `tail + 1` digits, leading zeros included. -/
def split : (tail : Nat) → (lo hi : Nat) → List Fragment
  | 0, lo, hi => [digitClass lo hi]
  | tail + 1, lo, hi =>
    let unit := Nat.pow 10 (tail + 1)
    let first := lo / unit
    let last := hi / unit
    if first = last then [seq (digit first) (oneOf (split tail (lo % unit) (hi % unit)))]
    else
      let lowWhole := lo % unit = 0
      let highWhole := hi % unit = unit - 1
      let lowEdge :=
        if lowWhole then [] else [seq (digit first) (oneOf (split tail (lo % unit) (unit - 1)))]
      let highEdge :=
        if highWhole then [] else [seq (digit last) (oneOf (split tail 0 (hi % unit)))]
      let blockStart := if lowWhole then first else first + 1
      let blockEnd := if highWhole then last + 1 else last
      let block :=
        if blockStart < blockEnd then
          [seq (digitClass blockStart (blockEnd - 1)) (freeDigits (tail + 1))]
        else []
      lowEdge ++ block ++ highEdge

/-- The least number with `tail + 1` digits. -/
def leastOfWidth (tail : Nat) : Nat := if tail = 0 then 0 else Nat.pow 10 tail

/-- The members of the interval that have exactly `tail + 1` digits. -/
def ofWidth (lo hi tail : Nat) : List Fragment :=
  let lo := max lo (leastOfWidth tail)
  let hi := min hi (Nat.pow 10 (tail + 1) - 1)
  if lo ≤ hi then split tail lo hi else []

/-- Alternatives for the naturals from `lo` to `hi`, by increasing number of digits. -/
def naturals (lo hi : Nat) : List Fragment :=
  (List.range (Text.decimal hi).length).flatMap (ofWidth lo hi)

/-- Alternatives for the integers from `min` to `max`, the negative ones first. -/
def pieces (min max : Int) : List Fragment :=
  if max < min then []
  else
    let negative :=
      if min < 0 then
        [seq minus (oneOf (naturals (if max < 0 then max.natAbs else 1) min.natAbs))]
      else []
    let nonnegative := if 0 ≤ max then naturals min.toNat max.toNat else []
    negative ++ nonnegative

/-- The pattern of an interval; an empty interval has the empty pattern. -/
def fragment (min max : Int) : Fragment := oneOf (pieces min max)

def pattern (min max : Int) : String := String.ofList (fragment min max).text

end IntervalRegex.NumberRange
