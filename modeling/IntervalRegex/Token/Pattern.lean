import IntervalRegex.NumberRange
import IntervalRegex.Token.Reader

/-!
# Patterns of tokens

A token becomes a pattern over dotted quads. A block constrains each octet on its own; a range is
followed octet by octet, and a bound that an earlier octet has left behind no longer binds.
-/

namespace IntervalRegex

open Fragment

/-- Any octet. -/
def anyOctet : Fragment := NumberRange.fragment 0 255

/-- The least and the greatest octet that share their leading `fixed` bits with `octet`. -/
def octetBlock (octet : Octet) (fixed : Nat) : Nat × Nat :=
  let size := 1 <<< (8 - fixed)
  let base := octet.val / size * size
  (base, base + (size - 1))

/-- The octets that agree with the field on its leading `fixed` bits. -/
def Field.fragment (fixed : Nat) : Field → Fragment
  | .wildcard => anyOctet
  | .octet value =>
    if fixed = 0 then anyOctet
    else if fixed = 8 then number value.val
    else
      let bounds := octetBlock value fixed
      NumberRange.fragment bounds.1 bounds.2

/-- The quads between two of the same length, given place by place; `none` when they are out of
order. The flags say whether the lower and the upper bound still bind. -/
def spanFragment (lowBinds highBinds : Bool) : List (Octet × Octet) → Option Fragment
  | [] => none
  | [(low, high)] =>
    let lo := if lowBinds then low.val else 0
    let hi := if highBinds then high.val else 255
    if hi < lo then none else some (NumberRange.fragment lo hi)
  | (low, high) :: next :: rest =>
    let lo := if lowBinds then low.val else 0
    let hi := if highBinds then high.val else 255
    if hi < lo then none
    else if lo = hi then
      (spanFragment lowBinds highBinds (next :: rest)).map fun tail =>
        seq (number lo) (seq dot tail)
    else
      match spanFragment lowBinds false (next :: rest),
          spanFragment false highBinds (next :: rest) with
      | some lowTail, some highTail =>
        let free := dotSeparated ((next :: rest).map fun _ => anyOctet)
        let interior :=
          if lo + 1 < hi then
            [seq (NumberRange.fragment (lo + 1) (hi - 1)) (seq dot free)]
          else []
        some (oneOf ([seq (number lo) (seq dot lowTail)] ++ interior ++
          [seq (number hi) (seq dot highTail)]))
      | _, _ => none

namespace Token

def fragment : Token → Except PatternError Fragment
  | block fields bits =>
    .ok (dotSeparated (fields.toList.zipIdx.map fun (field, index) =>
      field.fragment (fixedBits bits index)))
  | range addresses =>
    match spanFragment true true (addresses.first.toList.zip addresses.last.toList) with
    | some fragment => .ok fragment
    | none => .error (.outOfOrder addresses.text)

/-- The pattern of a token. -/
def pattern (token : Token) : Except PatternError String :=
  token.fragment.map fun fragment => String.ofList fragment.text

/-- Reads a token and gives its fragment. -/
def compile (input : String) : Except PatternError Fragment := (read input).bind fragment

end Token

end IntervalRegex
