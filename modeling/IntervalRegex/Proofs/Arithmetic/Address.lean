import IntervalRegex.Proofs.Address.Block
import IntervalRegex.Proofs.Arithmetic.Limits

/-!
# The arithmetic of addresses

A block of addresses is computed with a mask: the bits of the mask are kept in its first address and
set in its last one.
-/

namespace IntervalRegex.Arithmetic

/-! ### The computation -/

/-- The bits that a word of `width` bits lacks of all. -/
def complement (width n : Nat) : Nat := 2 ^ width - 1 - n

/-- The leading `bits` bits of 32, set. All 32 are never moved by 32. -/
def addressMask (bits : Nat) : Run Nat :=
  if bits = 0 then return 0
  else do
    let free ← word 8 (32 - bits)
    checked (.addressShift free) ((2 ^ 32 - 1) <<< free % 2 ^ 32)

def addressBlock (a : Address) (bits : Nat) : Run (Option AddressRange) :=
  if 32 < bits then return none
  else do
    let mask ← addressMask bits
    let network := a.value &&& mask
    let broadcast := network ||| complement 32 mask
    return some ⟨Address.ofValue network, Address.ofValue broadcast⟩

/-- The number of addresses, where the difference stops at zero. -/
def addressCount (r : AddressRange) : Run Nat := do
  return (← word 64 (r.last.value + 1)) - r.first.value

/-! ### Masks -/

theorem and_shiftLeft (n m free : Nat) : n &&& m <<< free = ((n >>> free) &&& m) <<< free := by
  apply Nat.eq_of_testBit_eq
  intro i
  by_cases hle : free ≤ i
  · simp [hle]
  · simp [hle]

theorem or_lowBits (n free : Nat) :
    n * 2 ^ free ||| (2 ^ free - 1) = n * 2 ^ free + (2 ^ free - 1) := by
  have hlt : 2 ^ free - 1 < 2 ^ free := Nat.sub_one_lt (Nat.two_pow_pos free).ne'
  rw [Nat.mul_comm, Nat.two_pow_add_eq_or_of_lt hlt]

theorem complement_lowBits (width free : Nat) :
    complement width (2 ^ free - 1) = 2 ^ width - 2 ^ free := by
  have hpos : 0 < 2 ^ free := by positivity
  rw [complement]
  omega

section Mask

variable {width free : Nat} (hfree : free ≤ width)

include hfree

/-- All bits, moved up by some, are those above the others. -/
theorem allBits_shiftLeft_mod :
    (2 ^ width - 1) <<< free % 2 ^ width = 2 ^ width - 2 ^ free := by
  have hle : 2 ^ free ≤ 2 ^ width := Nat.pow_le_pow_right (by decide) hfree
  have hpos : 0 < 2 ^ free := by positivity
  have hshift : (2 ^ width - 1) <<< free = (2 ^ width - 2 ^ free) + (2 ^ free - 1) * 2 ^ width := by
    rw [Nat.shiftLeft_eq, Nat.sub_mul, Nat.sub_mul, Nat.mul_comm, Nat.one_mul, Nat.one_mul]
    have hprod : 2 ^ width ≤ 2 ^ free * 2 ^ width := Nat.le_mul_of_pos_left _ hpos
    omega
  rw [hshift, Nat.add_mul_mod_self_right, Nat.mod_eq_of_lt (by omega)]

theorem complement_highBits : complement width (2 ^ width - 2 ^ free) = 2 ^ free - 1 := by
  have hle : 2 ^ free ≤ 2 ^ width := Nat.pow_le_pow_right (by decide) hfree
  rw [complement]
  omega

/-- A mask of the bits above some rounds down to their weight. -/
theorem and_highBits {n : Nat} (hn : n < 2 ^ width) :
    n &&& (2 ^ width - 2 ^ free) = n / 2 ^ free * 2 ^ free := by
  have hmask : 2 ^ width - 2 ^ free = (2 ^ (width - free) - 1) <<< free := by
    rw [Nat.shiftLeft_eq, Nat.sub_mul, ← pow_add, Nat.sub_add_cancel hfree, Nat.one_mul]
  have hshort : n / 2 ^ free < 2 ^ (width - free) := by
    rwa [Nat.div_lt_iff_lt_mul (by positivity), ← pow_add, Nat.sub_add_cancel hfree]
  calc n &&& (2 ^ width - 2 ^ free)
      = ((n >>> free) &&& (2 ^ (width - free) - 1)) <<< free := by rw [hmask, and_shiftLeft]
    _ = (n / 2 ^ free % 2 ^ (width - free)) * 2 ^ free := by
        rw [Nat.and_two_pow_sub_one_eq_mod, Nat.shiftRight_eq_div_pow, Nat.shiftLeft_eq]
    _ = n / 2 ^ free * 2 ^ free := by rw [Nat.mod_eq_of_lt hshort]

end Mask

/-! ### Addresses -/

theorem addressMask_eq_ok {bits : Nat} (hbits : bits ≤ 32) :
    addressMask bits = .ok (2 ^ 32 - 2 ^ (32 - bits)) := by
  unfold addressMask
  split
  · next hzero =>
    rw [hzero]
    rfl
  · next hne =>
    have hfree : word 8 (32 - bits) = .ok (32 - bits) := word_eq_ok (by omega) (by omega)
    have hshift : (Step.addressShift ↑(32 - bits)).Within :=
      ⟨Int.natCast_nonneg (32 - bits), by omega⟩
    rw [hfree, ok_bind, checked_eq_ok _ hshift, allBits_shiftLeft_mod (Nat.sub_le 32 bits)]

/-- **Blocks.** The mask is moved by fewer than 32 bits. -/
theorem addressBlock_eq_ok (a : Address) (bits : Nat) :
    addressBlock a bits = .ok (AddressRange.block a bits) := by
  rw [addressBlock, AddressRange.block]
  by_cases hmany : 32 < bits
  · rw [if_pos hmany, if_neg (Nat.not_le.mpr hmany), pure_eq_ok]
  · have hbits : bits ≤ 32 := Nat.not_lt.mp hmany
    rw [if_neg hmany, if_pos hbits, addressMask_eq_ok hbits, ok_bind,
      and_highBits (Nat.sub_le 32 bits) a.value_lt, complement_highBits (Nat.sub_le 32 bits)]
    simp only [or_lowBits, pure_eq_ok, Nat.one_shiftLeft]

theorem addressCount_eq_ok (r : AddressRange) : addressCount r = .ok r.size := by
  have hlast : word 64 (r.last.value + 1) = .ok (r.last.value + 1) :=
    word_eq_ok (by omega) (Nat.lt_of_le_of_lt r.last.value_lt (by decide))
  rw [addressCount, hlast, ok_bind, pure_eq_ok, AddressRange.size]

end IntervalRegex.Arithmetic
