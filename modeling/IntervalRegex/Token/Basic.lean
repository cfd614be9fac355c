import IntervalRegex.Address.Range

/-!
# Address tokens

A token names a set of addresses: by four fields and the number of leading bits that count, or by the
first and the last address.
-/

namespace IntervalRegex

/-- One place of a quad that is matched: an octet, or `*` for any. -/
inductive Field
  | octet (value : Octet)
  | wildcard
deriving DecidableEq, Repr

/-- The octet of a field, where `*` counts as zero. -/
def Field.floor : Field → Octet
  | .octet value => value
  | .wildcard => Octet.ofNat 0

inductive Token
  | block (fields : Quad Field) (bits : Nat)
  | range (addresses : AddressRange)
deriving DecidableEq, Repr

/-- How many of the leading `bits` bits fall into the octet at `index`. -/
def fixedBits (bits index : Nat) : Nat := min (bits - 8 * index) 8

namespace Token

/-- The contiguous addresses the token covers. A wildcard that holds fixed bits breaks them up, and
there are no more than 32 bits. -/
def addresses : Token → Option AddressRange
  | range addresses => some addresses
  | block fields bits =>
    let broken := fields.toList.zipIdx.any fun (field, index) =>
      field == .wildcard && 0 < fixedBits bits index
    if broken then none else AddressRange.block (fields.map Field.floor) bits

end Token

end IntervalRegex
