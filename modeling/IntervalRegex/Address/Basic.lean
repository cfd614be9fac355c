import IntervalRegex.Text.Decimal

/-!
# Addresses

An address is four octets, written as decimals with dots between them. Its value is the number whose
base 256 digits the octets are, the first octet leading.
-/

namespace IntervalRegex

abbrev Octet := Fin 256

/-- The octet with a value, which is taken modulo 256. -/
def Octet.ofNat (n : Nat) : Octet := ⟨n % 256, Nat.mod_lt n (by decide)⟩

/-- Four places of a dotted quad. -/
structure Quad (α : Type) where
  first : α
  second : α
  third : α
  fourth : α
deriving DecidableEq, Repr

namespace Quad

variable {α β : Type}

def toList (q : Quad α) : List α := [q.first, q.second, q.third, q.fourth]

def map (f : α → β) (q : Quad α) : Quad β := ⟨f q.first, f q.second, f q.third, f q.fourth⟩

/-- The first four members, or `fill` where there are fewer. -/
def ofListD (fill : α) (xs : List α) : Quad α :=
  ⟨xs.getD 0 fill, xs.getD 1 fill, xs.getD 2 fill, xs.getD 3 fill⟩

end Quad

abbrev Address := Quad Octet

namespace Address

def value (a : Address) : Nat :=
  256 * (256 * (256 * a.first.val + a.second.val) + a.third.val) + a.fourth.val

/-- The address with a value of 32 bits; higher bits are dropped. -/
def ofValue (n : Nat) : Address :=
  ⟨Octet.ofNat (n / 16777216), Octet.ofNat (n / 65536), Octet.ofNat (n / 256), Octet.ofNat n⟩

def chars (a : Address) : List Char :=
  ['.'].intercalate (a.toList.map fun octet => Text.decimal octet.val)

def text (a : Address) : String := String.ofList a.chars

theorem value_lt (a : Address) : a.value < 4294967296 := by
  have h₁ := a.first.isLt
  have h₂ := a.second.isLt
  have h₃ := a.third.isLt
  have h₄ := a.fourth.isLt
  simp only [value]
  omega

theorem value_ofValue {n : Nat} (h : n < 4294967296) : (ofValue n).value = n := by
  simp only [value, ofValue, Octet.ofNat]
  omega

theorem ofValue_value (a : Address) : ofValue a.value = a := by
  obtain ⟨⟨a, ha⟩, ⟨b, hb⟩, ⟨c, hc⟩, ⟨d, hd⟩⟩ := a
  simp only [value, ofValue, Octet.ofNat, Quad.mk.injEq, Fin.mk.injEq]
  omega

end Address

end IntervalRegex
