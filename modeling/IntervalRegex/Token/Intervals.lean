import IntervalRegex.Token.Pattern

/-!
# Intervals behind a token

The intervals of octets that become patterns of their own while a token is compiled, in order.
-/

namespace IntervalRegex

/-- The interval of a field that is fixed in part. -/
def Field.intervals (fixed : Nat) : Field → List (Nat × Nat)
  | .wildcard => []
  | .octet value => if fixed = 0 ∨ fixed = 8 then [] else [octetBlock value fixed]

/-- The intervals of a span: below the low octet, between the two, below the high one. -/
def spanIntervals (lowBinds highBinds : Bool) : List (Octet × Octet) → List (Nat × Nat)
  | [] => []
  | [(low, high)] =>
    let lo := if lowBinds then low.val else 0
    let hi := if highBinds then high.val else 255
    if hi < lo then [] else [(lo, hi)]
  | (low, high) :: next :: rest =>
    let lo := if lowBinds then low.val else 0
    let hi := if highBinds then high.val else 255
    if hi < lo then []
    else if lo = hi then spanIntervals lowBinds highBinds (next :: rest)
    else
      spanIntervals lowBinds false (next :: rest) ++
        (if lo + 1 < hi then [(lo + 1, hi - 1)] else []) ++
        spanIntervals false highBinds (next :: rest)

def Token.intervals : Token → List (Nat × Nat)
  | .block fields bits =>
    fields.toList.zipIdx.flatMap fun (field, index) => field.intervals (fixedBits bits index)
  | .range addresses =>
    spanIntervals true true (addresses.first.toList.zip addresses.last.toList)

end IntervalRegex
