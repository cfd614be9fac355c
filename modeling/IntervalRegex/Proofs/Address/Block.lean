import IntervalRegex.Address.Range
import Mathlib.Algebra.Order.Ring.Nat
import Mathlib.Tactic.Positivity

/-!
# Blocks of addresses

The words of a fixed width that share their first bits are the numbers with one quotient by a power
of two, which makes them an interval that begins at a multiple of its length. For addresses this is
the block of a number of bits. Sharing bits is an equivalence, and sharing more of them is finer, so
two blocks meet only where the one with more bits lies inside the other.
-/

namespace IntervalRegex

/-! ### Leading bits -/

theorem div_two_pow_eq_iff {a b k : Nat} :
    a / 2 ^ k = b / 2 ^ k ↔ ∀ i, k ≤ i → a.testBit i = b.testBit i := by
  constructor
  · intro h i hi
    rw [← Nat.sub_add_cancel hi, Nat.testBit_add, Nat.testBit_add, h]
  · intro h
    apply Nat.eq_of_testBit_eq
    intro i
    rw [Nat.testBit_div_two_pow, Nat.testBit_div_two_pow]
    exact h (i + k) (Nat.le_add_left k i)

/-! Bits are counted from the leading one of a word of a fixed width. The words that share their
first `fixed` bits make a block. -/

section Word

variable (width : Nat) {a b : Nat} (ha : a < 2 ^ width)

include ha

theorem leading_eq_iff (hb : b < 2 ^ width) {fixed : Nat} (hfixed : fixed ≤ width) :
    a / 2 ^ (width - fixed) = b / 2 ^ (width - fixed) ↔
      ∀ r < fixed, a.testBit (width - 1 - r) = b.testBit (width - 1 - r) := by
  rw [div_two_pow_eq_iff]
  constructor
  · intro h r hr
    exact h (width - 1 - r) (by omega)
  · intro h i hi
    by_cases hlt : i < width
    · have hbit := h (width - 1 - i) (by omega)
      rwa [Nat.sub_sub_self (by omega)] at hbit
    · have hpow : 2 ^ width ≤ 2 ^ i := Nat.pow_le_pow_right (by decide) (Nat.not_lt.mp hlt)
      rw [Nat.testBit_lt_two_pow (Nat.lt_of_lt_of_le ha hpow),
        Nat.testBit_lt_two_pow (Nat.lt_of_lt_of_le hb hpow)]

theorem block_last_lt (fixed : Nat) :
    a / 2 ^ (width - fixed) * 2 ^ (width - fixed) + (2 ^ (width - fixed) - 1) < 2 ^ width := by
  have hsize : 0 < 2 ^ (width - fixed) := by positivity
  obtain ⟨count, hcount⟩ : 2 ^ (width - fixed) ∣ 2 ^ width :=
    Nat.pow_dvd_pow 2 (Nat.sub_le width fixed)
  have hdiv : a / 2 ^ (width - fixed) < count := by
    rw [Nat.div_lt_iff_lt_mul hsize, Nat.mul_comm, ← hcount]
    exact ha
  have hblock : (a / 2 ^ (width - fixed) + 1) * 2 ^ (width - fixed) ≤
      count * 2 ^ (width - fixed) := Nat.mul_le_mul_right _ hdiv
  rw [Nat.succ_mul, Nat.mul_comm count, ← hcount] at hblock
  omega

end Word

theorem mem_block_iff {size : Nat} (hsize : 0 < size) (a n : Nat) :
    a / size * size ≤ n ∧ n ≤ a / size * size + (size - 1) ↔ n / size = a / size := by
  rw [Nat.div_eq_iff hsize]
  omega

/-! ### Addresses with the same first bits -/

namespace Address

/-- The addresses have the same first `bits` of their 32 bits. -/
def SharesBits (bits : Nat) (a b : Address) : Prop :=
  ∀ j < bits, a.value.testBit (31 - j) = b.value.testBit (31 - j)

instance (bits : Nat) (a b : Address) : Decidable (SharesBits bits a b) :=
  inferInstanceAs (Decidable (∀ j < bits, a.value.testBit (31 - j) = b.value.testBit (31 - j)))

variable {a b c : Address} {bits : Nat}

theorem SharesBits.symm (h : SharesBits bits a b) : SharesBits bits b a :=
  fun j hj => (h j hj).symm

theorem SharesBits.trans (hab : SharesBits bits a b) (hbc : SharesBits bits b c) :
    SharesBits bits a c := fun j hj => (hab j hj).trans (hbc j hj)

theorem SharesBits.mono {more : Nat} (hle : bits ≤ more) (h : SharesBits more a b) :
    SharesBits bits a b := fun j hj => h j (Nat.lt_of_lt_of_le hj hle)

theorem sharesBits_iff (hbits : bits ≤ 32) :
    SharesBits bits a b ↔ a.value / 2 ^ (32 - bits) = b.value / 2 ^ (32 - bits) :=
  (leading_eq_iff 32 a.value_lt b.value_lt hbits).symm

end Address

/-! ### The range of a block -/

namespace AddressRange

open Address

variable {a : Address} {bits : Nat} {r : AddressRange}

theorem block_eq_none_iff : block a bits = none ↔ 32 < bits := by
  rw [block, ite_eq_right_iff, ← Nat.not_le]
  simp

/-- A block is known by its two ends. -/
theorem block_eq_some_iff :
    block a bits = some r ↔ bits ≤ 32 ∧
      r.first.value = a.value / 2 ^ (32 - bits) * 2 ^ (32 - bits) ∧
      r.last.value = r.first.value + (2 ^ (32 - bits) - 1) := by
  have hlast := block_last_lt 32 a.value_lt bits
  obtain ⟨first, last⟩ := r
  rw [block, Nat.one_shiftLeft, Option.ite_none_right_eq_some, Option.some.injEq, mk.injEq]
  dsimp only
  apply and_congr_right
  intro hbits
  constructor
  · intro hends
    obtain ⟨rfl, rfl⟩ := hends
    rw [value_ofValue (by omega), value_ofValue hlast]
    exact ⟨rfl, rfl⟩
  · intro hends
    obtain ⟨hfirst, hlast⟩ := hends
    rw [← hfirst, ← hlast, ofValue_value, ofValue_value]
    exact ⟨rfl, rfl⟩

theorem exists_block (a : Address) (hbits : bits ≤ 32) : ∃ r, block a bits = some r :=
  Option.ne_none_iff_exists'.mp (block_eq_none_iff.not.mpr (Nat.not_lt.mpr hbits))

section Ends

variable (h : block a bits = some r)

include h

/-- The addresses of a block are those that have its leading bits. -/
theorem contains_block_iff (x : Address) :
    r.contains x = true ↔ ∀ j < bits, x.value.testBit (31 - j) = a.value.testBit (31 - j) := by
  obtain ⟨hbits, hfirst, hlast⟩ := block_eq_some_iff.mp h
  rw [contains_iff, hlast, hfirst, mem_block_iff (by positivity),
    leading_eq_iff 32 x.value_lt a.value_lt hbits]

theorem size_block : r.size = 2 ^ (32 - bits) := by
  obtain ⟨-, -, hlast⟩ := block_eq_some_iff.mp h
  have hsize : 0 < 2 ^ (32 - bits) := by positivity
  rw [size, hlast]
  omega

theorem dvd_first_block : 2 ^ (32 - bits) ∣ r.first.value := by
  obtain ⟨-, hfirst, -⟩ := block_eq_some_iff.mp h
  rw [hfirst]
  exact Nat.dvd_mul_left _ _

/-- Each address of a block has it as its own. -/
theorem block_eq_of_contains {x : Address} (hx : r.contains x = true) : block x bits = some r := by
  obtain ⟨hbits, hfirst, hlast⟩ := block_eq_some_iff.mp h
  have hshares : SharesBits bits x a := (contains_block_iff h x).mp hx
  rw [block_eq_some_iff, (sharesBits_iff hbits).mp hshares]
  exact ⟨hbits, hfirst, hlast⟩

/-- Blocks that share the bits of the wider one are nested, and others have no address in common. -/
theorem block_nested {b : Address} {more : Nat} {s : AddressRange} (hle : bits ≤ more)
    (hs : block b more = some s) :
    (SharesBits bits b a → ∀ x, s.contains x = true → r.contains x = true) ∧
      (¬ SharesBits bits b a → ∀ x, ¬ (s.contains x = true ∧ r.contains x = true)) := by
  have hmono : ∀ x, s.contains x = true → SharesBits bits x b := fun x hx =>
    SharesBits.mono hle ((contains_block_iff hs x).mp hx)
  refine ⟨?_, ?_⟩
  · intro hshares x hx
    exact (contains_block_iff h x).mpr ((hmono x hx).trans hshares)
  · intro hapart x hboth
    obtain ⟨hx, hxr⟩ := hboth
    have hxa : SharesBits bits x a := (contains_block_iff h x).mp hxr
    exact hapart ((hmono x hx).symm.trans hxa)

end Ends

/-- **Network blocks.** There is a block for each number of bits up to 32 and for no greater one. It
begins at a multiple of its size, holds the addresses with the same leading bits, and is the block
of each of them. A block of as many bits or more, of any address, lies inside it or apart from
it. -/
theorem blocks_nest (a : Address) (bits : Nat) :
    (32 < bits → block a bits = none) ∧
      (bits ≤ 32 → ∃ r, block a bits = some r ∧ 2 ^ (32 - bits) ∣ r.first.value ∧
        r.size = 2 ^ (32 - bits) ∧
        (∀ x, r.contains x = true ↔ x.SharesBits bits a) ∧
        (∀ x, r.contains x = true → block x bits = some r) ∧
        ∀ b more, bits ≤ more → more ≤ 32 → ∃ s, block b more = some s ∧
          ((∀ x, ¬ (s.contains x = true ∧ r.contains x = true)) ∨
            ∀ x, s.contains x = true → r.contains x = true)) := by
  refine ⟨block_eq_none_iff.mpr, ?_⟩
  intro hbits
  obtain ⟨r, hr⟩ := exists_block a hbits
  refine ⟨r, hr, dvd_first_block hr, size_block hr, contains_block_iff hr,
    fun _ => block_eq_of_contains hr, ?_⟩
  intro b more hle hmore
  obtain ⟨s, hs⟩ := exists_block b hmore
  obtain ⟨hinside, hapart⟩ := block_nested hr hle hs
  refine ⟨s, hs, ?_⟩
  by_cases hshares : SharesBits bits b a
  · exact .inr (hinside hshares)
  · exact .inl (hapart hshares)

/-- The last block of 64 addresses ends with the last address of all. -/
theorem blocks_nest_last :
    block ⟨255, 255, 255, 200⟩ 26 = some ⟨⟨255, 255, 255, 192⟩, ⟨255, 255, 255, 255⟩⟩ ∧
      size ⟨⟨255, 255, 255, 192⟩, ⟨255, 255, 255, 255⟩⟩ = 64 ∧
      block ⟨255, 255, 255, 255⟩ 26 = some ⟨⟨255, 255, 255, 192⟩, ⟨255, 255, 255, 255⟩⟩ ∧
      ∃ s, block ⟨255, 255, 255, 254⟩ 31 = some s ∧
        ((∀ x, ¬ (s.contains x = true ∧
            contains ⟨⟨255, 255, 255, 192⟩, ⟨255, 255, 255, 255⟩⟩ x = true)) ∨
          ∀ x, s.contains x = true →
            contains ⟨⟨255, 255, 255, 192⟩, ⟨255, 255, 255, 255⟩⟩ x = true) := by
  obtain ⟨r, hr, -, hsize, -, hsame, hnest⟩ := (blocks_nest ⟨255, 255, 255, 200⟩ 26).2 (by decide)
  obtain rfl : r = ⟨⟨255, 255, 255, 192⟩, ⟨255, 255, 255, 255⟩⟩ :=
    Option.some.inj (hr.symm.trans (by decide))
  exact ⟨hr, hsize, hsame _ (by decide), hnest _ 31 (by decide) (by decide)⟩

end AddressRange

end IntervalRegex
