import IntervalRegex.Text.Decimal
import Mathlib.Algebra.Order.Ring.Nat

/-!
# Arithmetic within limits

A run computes with exact integers and stops at the first step that leaves its limits: a value that
its machine word or the bound of the step does not hold, a division by zero, a shift by too many
bits, or a split of numbers that its caller must not ask for. A run that ends with an answer has
therefore computed it as machine words do, with and without checks for overflow.
-/

namespace IntervalRegex.Arithmetic

open Text

inductive Step
  /-- A signed value of 128 bits. -/
  | wide (value : Int)
  /-- A signed value of 64 bits. -/
  | long (value : Int)
  /-- An unsigned value of `width` bits. -/
  | word (width : Nat) (value : Int)
  /-- A quotient or a remainder. -/
  | divide (divisor : Int)
  /-- A shift of an octet inside a block. -/
  | octetShift (amount : Int)
  /-- A shift of 32 bits. -/
  | addressShift (amount : Int)
  /-- The numbers from `min` to `max`, written with `digits` digits of which the leading one has
  weight `unit`, are split. -/
  | split (digits : Nat) (unit min max : Int)
deriving DecidableEq, Repr

/-- The limits of a step. Those of the wide values are far below 128 bits. -/
def Step.Within : Step → Prop
  | wide value => value.natAbs ≤ 10 ^ 20
  | long value => minInt64 ≤ value ∧ value ≤ maxInt64
  | word width value => 0 ≤ value ∧ value < 2 ^ width
  | divide divisor => divisor ≠ 0
  | octetShift amount => 1 ≤ amount ∧ amount ≤ 7
  | addressShift amount => 0 ≤ amount ∧ amount < 32
  | split digits unit min max =>
    1 ≤ digits ∧ unit = 10 ^ (digits - 1) ∧ 0 ≤ min ∧ min ≤ max ∧ max < 10 * unit

instance (step : Step) : Decidable step.Within :=
  match step with
  | .wide value => inferInstanceAs (Decidable (value.natAbs ≤ 10 ^ 20))
  | .long value => inferInstanceAs (Decidable (minInt64 ≤ value ∧ value ≤ maxInt64))
  | .word width value => inferInstanceAs (Decidable (0 ≤ value ∧ value < 2 ^ width))
  | .divide divisor => inferInstanceAs (Decidable (divisor ≠ 0))
  | .octetShift amount => inferInstanceAs (Decidable (1 ≤ amount ∧ amount ≤ 7))
  | .addressShift amount => inferInstanceAs (Decidable (0 ≤ amount ∧ amount < 32))
  | .split digits unit min max => inferInstanceAs (Decidable
      (1 ≤ digits ∧ unit = 10 ^ (digits - 1) ∧ 0 ≤ min ∧ min ≤ max ∧ max < 10 * unit))

/-- A computation that stops at the first step outside its limits. -/
abbrev Run := Except Step

variable {α β : Type}

@[simp]
theorem ok_bind (a : α) (f : α → Run β) : ((.ok a : Run α) >>= f) = f a := rfl

@[simp]
theorem pure_eq_ok (a : α) : (pure a : Run α) = .ok a := rfl

theorem mapM_eq_ok {f : α → Run β} {g : α → β} {xs : List α} (h : ∀ x ∈ xs, f x = .ok (g x)) :
    xs.mapM f = .ok (xs.map g) := by
  induction xs with
  | nil => rfl
  | cons x xs ih =>
    rw [List.forall_mem_cons] at h
    rw [List.mapM_cons, h.1, ok_bind, ih h.2, ok_bind, pure_eq_ok, List.map_cons]

/-- Goes on with a value that a step within its limits gives. -/
def checked (step : Step) (value : α) : Run α := if step.Within then .ok value else .error step

/-- A run gets past a step exactly within the limits of the step. -/
theorem checked_eq_ok_iff {step : Step} {value result : α} :
    checked step value = .ok result ↔ step.Within ∧ value = result := by
  unfold checked
  split
  · next h => simp [h]
  · next h => simp [h]

theorem checked_eq_ok (step : Step) (h : step.Within) (value : α) :
    checked step value = .ok value := checked_eq_ok_iff.mpr ⟨h, rfl⟩

def wide (value : Int) : Run Int := checked (.wide value) value

def long (value : Int) : Run Int := checked (.long value) value

def word (width : Nat) (value : Int) : Run Nat := checked (.word width value) value.toNat

/-- The quotient rounded towards zero. -/
def quotient (value divisor : Int) : Run Int := do
  checked (.divide divisor) ()
  wide (value.tdiv divisor)

/-- The remainder of that quotient. -/
def remainder (value divisor : Int) : Run Int := do
  checked (.divide divisor) ()
  wide (value.tmod divisor)

theorem wide_eq_ok {value : Int} (h : value.natAbs ≤ 10 ^ 20) : wide value = .ok value :=
  checked_eq_ok (.wide value) h value

theorem wide_eq_natCast {n : Nat} {value : Int} (hvalue : value = n) (hn : n ≤ 10 ^ 20) :
    wide value = .ok ↑n := by
  subst hvalue
  exact wide_eq_ok hn

theorem long_eq_ok {value : Int} (hmin : minInt64 ≤ value) (hmax : value ≤ maxInt64) :
    long value = .ok value := checked_eq_ok (.long value) ⟨hmin, hmax⟩ value

theorem word_eq_ok {width n : Nat} {value : Int} (hvalue : value = n) (hn : n < 2 ^ width) :
    word width value = .ok n := by
  subst hvalue
  have hlt : (n : Int) < 2 ^ width := by exact_mod_cast hn
  exact checked_eq_ok (.word width n) ⟨Int.natCast_nonneg n, hlt⟩ _

section Division

variable {value divisor : Nat} (hdivisor : divisor ≠ 0) (hvalue : value ≤ 10 ^ 20)

include hdivisor

theorem checked_divide (a : α) : checked (.divide divisor) a = .ok a :=
  checked_eq_ok (.divide divisor) (Int.natCast_ne_zero.mpr hdivisor) a

include hvalue

theorem quotient_eq_ok : quotient value divisor = .ok ↑(value / divisor) := by
  have hle : value / divisor ≤ 10 ^ 20 := Nat.le_trans (Nat.div_le_self value divisor) hvalue
  rw [quotient, checked_divide hdivisor, ok_bind]
  exact wide_eq_natCast rfl hle

theorem remainder_eq_ok : remainder value divisor = .ok ↑(value % divisor) := by
  have hle : value % divisor ≤ 10 ^ 20 := Nat.le_trans (Nat.mod_le value divisor) hvalue
  rw [remainder, checked_divide hdivisor, ok_bind]
  exact wide_eq_natCast rfl hle

end Division

end IntervalRegex.Arithmetic
