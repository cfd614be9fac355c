import IntervalRegex.Address.Basic

/-!
# Address ranges

The addresses between two, both included. A range whose first address lies after its last one is
empty.
-/

namespace IntervalRegex

structure AddressRange where
  first : Address
  last : Address
deriving DecidableEq, Repr

namespace AddressRange

/-- The addresses that share their leading `bits` bits with `a`; there are 32 bits. -/
def block (a : Address) (bits : Nat) : Option AddressRange :=
  if bits ≤ 32 then
    let size := 1 <<< (32 - bits)
    let base := a.value / size * size
    some ⟨Address.ofValue base, Address.ofValue (base + (size - 1))⟩
  else
    none

def contains (r : AddressRange) (a : Address) : Bool :=
  r.first.value ≤ a.value && a.value ≤ r.last.value

def size (r : AddressRange) : Nat := r.last.value + 1 - r.first.value

def isEmpty (r : AddressRange) : Bool := r.size == 0

def chars (r : AddressRange) : List Char := r.first.chars ++ '-' :: r.last.chars

def text (r : AddressRange) : String := String.ofList r.chars

theorem contains_iff {r : AddressRange} {x : Address} :
    r.contains x = true ↔ r.first.value ≤ x.value ∧ x.value ≤ r.last.value := by
  rw [contains, Bool.and_eq_true, decide_eq_true_eq, decide_eq_true_eq]

theorem isEmpty_iff {r : AddressRange} : r.isEmpty = true ↔ r.last.value < r.first.value := by
  simp only [isEmpty, size, beq_iff_eq]
  omega

end AddressRange

end IntervalRegex
