import IntervalRegex.Proofs.Address.Block
import IntervalRegex.Proofs.Token.Octets

/-!
# Exactness of address blocks

The octets that share their leading bits with a given one are an interval, so each place of a block
is a number range. Place by place this is one comparison of bits: the bits of an address, counted
from the first one, are the bits of its octets.
-/

namespace IntervalRegex

open Fragment Text

/-! ### Blocks of octets -/

theorem mem_octetBlock_iff (octet : Octet) (fixed n : Nat) :
    (octetBlock octet fixed).1 ≤ n ∧ n ≤ (octetBlock octet fixed).2 ↔
      n / 2 ^ (8 - fixed) = octet.val / 2 ^ (8 - fixed) := by
  rw [octetBlock, Nat.one_shiftLeft]
  exact mem_block_iff (by positivity) octet.val n

theorem octetBlock_le (octet : Octet) (fixed : Nat) :
    (octetBlock octet fixed).1 ≤ (octetBlock octet fixed).2 := Nat.le_add_right _ _

theorem octetBlock_lt (octet : Octet) (fixed : Nat) : (octetBlock octet fixed).2 < 256 := by
  rw [octetBlock, Nat.one_shiftLeft]
  exact block_last_lt 8 octet.isLt fixed

/-! ### Places -/

/-- The octet has the leading `fixed` bits of the field. -/
def Field.Agrees (fixed : Nat) (field : Field) (octet : Octet) : Prop :=
  ∀ value, field = .octet value →
    ∀ r < fixed, octet.val.testBit (7 - r) = value.val.testBit (7 - r)

theorem Field.agrees_octet_iff {fixed : Nat} (hfixed : fixed ≤ 8) {value octet : Octet} :
    (Field.octet value).Agrees fixed octet ↔
      octet.val / 2 ^ (8 - fixed) = value.val / 2 ^ (8 - fixed) := by
  rw [leading_eq_iff 8 octet.isLt value.isLt hfixed]
  constructor
  · intro h
    exact h value rfl
  · intro h value' hvalue
    obtain rfl := Field.octet.inj hvalue
    exact h

theorem Field.fragment_closed (field : Field) (fixed : Nat) : (field.fragment fixed).Closed := by
  unfold Field.fragment
  split
  · exact anyOctet_closed
  · next value =>
    split
    · exact anyOctet_closed
    · split
      · exact number_closed value.val
      · have hlt := octetBlock_lt value fixed
        exact NumberRange.fragment_naturals_closed (octetBlock_le value fixed) (by omega)

theorem mem_lang_octetBlock_iff (value : Octet) (fixed : Nat) {text : List Char} :
    text ∈ (NumberRange.fragment (octetBlock value fixed).1 (octetBlock value fixed).2).lang ↔
      ∃ octet : Octet, text = decimal octet.val ∧
        octet.val / 2 ^ (8 - fixed) = value.val / 2 ^ (8 - fixed) := by
  have hlt := octetBlock_lt value fixed
  rw [NumberRange.lang_fragment_naturals (octetBlock_le value fixed) (by omega),
    mem_between_octets_iff hlt]
  apply exists_congr
  intro octet
  rw [← mem_octetBlock_iff, Nat.lt_succ_iff]

/-- A place matches the octets that agree with its field, whichever form its pattern takes. -/
theorem Field.mem_lang_fragment_iff (field : Field) {fixed : Nat} (hfixed : fixed ≤ 8)
    {text : List Char} :
    text ∈ (field.fragment fixed).lang ↔
      ∃ octet : Octet, text = decimal octet.val ∧ field.Agrees fixed octet := by
  cases field with
  | wildcard =>
    have hagrees : ∀ octet, Field.wildcard.Agrees fixed octet := by
      intro octet value hvalue
      cases hvalue
    simp only [Field.fragment, mem_lang_anyOctet_iff, hagrees, and_true]
  | octet value =>
    simp only [Field.fragment, Field.agrees_octet_iff hfixed]
    split
    · next hzero =>
      have hagrees : ∀ octet : Octet,
          octet.val / 2 ^ (8 - fixed) = value.val / 2 ^ (8 - fixed) := by
        intro octet
        subst hzero
        exact (Nat.div_eq_of_lt octet.isLt).trans (Nat.div_eq_of_lt value.isLt).symm
      simp only [mem_lang_anyOctet_iff, hagrees, and_true]
    · split
      · next hall =>
        rw [lang_number, hall, Nat.sub_self, pow_zero]
        simp only [Nat.div_one]
        constructor
        · intro htext
          exact ⟨value, htext, rfl⟩
        · intro htext
          obtain ⟨octet, rfl, hvalue⟩ := htext
          rw [hvalue]
          rfl
      · exact mem_lang_octetBlock_iff value fixed

/-! ### Bits of an address -/

theorem testBit_last {rest octet j : Nat} (h : octet < 256) (hj : j < 8) :
    (256 * rest + octet).testBit j = octet.testBit j := by
  rw [Nat.testBit_two_pow_mul_add rest (i := 8) h, if_pos hj]

theorem testBit_before {rest octet : Nat} (h : octet < 256) (j : Nat) :
    (256 * rest + octet).testBit (j + 8) = rest.testBit j := by
  rw [Nat.testBit_two_pow_mul_add rest (i := 8) h, if_neg (by omega), Nat.add_sub_cancel]

theorem Address.testBit_value {a : Address} {i r : Nat} {octet : Octet}
    (hoctet : a.toList[i]? = some octet) (hr : r < 8) :
    a.value.testBit (31 - (8 * i + r)) = octet.val.testBit (7 - r) := by
  obtain ⟨first, second, third, fourth⟩ := a
  match i with
  | 0 =>
    cases hoctet
    have hplace : 31 - (8 * 0 + r) = 7 - r + 8 + 8 + 8 := by omega
    rw [Address.value, hplace, testBit_before fourth.isLt, testBit_before third.isLt,
      testBit_before second.isLt]
  | 1 =>
    cases hoctet
    have hplace : 31 - (8 * 1 + r) = 7 - r + 8 + 8 := by omega
    rw [Address.value, hplace, testBit_before fourth.isLt, testBit_before third.isLt,
      testBit_last second.isLt (by omega)]
  | 2 =>
    cases hoctet
    have hplace : 31 - (8 * 2 + r) = 7 - r + 8 := by omega
    rw [Address.value, hplace, testBit_before fourth.isLt, testBit_last third.isLt (by omega)]
  | 3 =>
    cases hoctet
    have hplace : 31 - (8 * 3 + r) = 7 - r := by omega
    rw [Address.value, hplace, testBit_last fourth.isLt (by omega)]
  | i + 4 => cases hoctet

theorem lt_fixedBits_iff {bits i r : Nat} : r < fixedBits bits i ↔ 8 * i + r < bits ∧ r < 8 := by
  unfold fixedBits
  omega

/-- The four places, each with its index. -/
theorem Quad.forall_getElem?_iff {α β : Type} {p : Quad α} {q : Quad β} {P : Nat → α → β → Prop} :
    (∀ i a b, p.toList[i]? = some a → q.toList[i]? = some b → P i a b) ↔
      P 0 p.first q.first ∧ P 1 p.second q.second ∧ P 2 p.third q.third ∧
        P 3 p.fourth q.fourth := by
  constructor
  · intro h
    exact ⟨h 0 _ _ rfl rfl, h 1 _ _ rfl rfl, h 2 _ _ rfl rfl, h 3 _ _ rfl rfl⟩
  · intro h i a b ha hb
    obtain ⟨hfirst, hsecond, hthird, hfourth⟩ := h
    match i with
    | 0 => cases ha; cases hb; exact hfirst
    | 1 => cases ha; cases hb; exact hsecond
    | 2 => cases ha; cases hb; exact hthird
    | 3 => cases ha; cases hb; exact hfourth
    | i + 4 => cases ha

theorem fixedBits_le (bits i : Nat) : fixedBits bits i ≤ 8 := Nat.min_le_right _ _

/-- Every octet agrees with its field on the bits that count there. -/
def BlockAgrees (bits : Nat) (fields : Quad Field) (x : Address) : Prop :=
  ∀ (i : Nat) (field : Field) (octet : Octet), fields.toList[i]? = some field →
    x.toList[i]? = some octet → field.Agrees (fixedBits bits i) octet

theorem blockAgrees_iff (bits : Nat) (fields : Quad Field) (x : Address) :
    BlockAgrees bits fields x ↔
      ∀ j < min bits 32, ∀ value, fields.toList[j / 8]? = some (.octet value) →
        x.value.testBit (31 - j) = value.val.testBit (7 - j % 8) := by
  constructor
  · intro h j hj value hvalue
    have hplace : j / 8 < x.toList.length := by
      have hlength : x.toList.length = 4 := rfl
      omega
    have hoctet := List.getElem?_eq_getElem hplace
    have hfixed : j % 8 < fixedBits bits (j / 8) := lt_fixedBits_iff.mpr (by omega)
    have hbit := h (j / 8) _ _ hvalue hoctet value rfl (j % 8) hfixed
    rwa [← Address.testBit_value hoctet (by omega), Nat.div_add_mod] at hbit
  · intro h i field octet hfield hoctet value hvalue r hr
    subst hvalue
    obtain ⟨hbits, hr⟩ := lt_fixedBits_iff.mp hr
    have hplace : i < 4 := (List.getElem?_eq_some_iff.mp hfield).1
    have hdiv : (8 * i + r) / 8 = i := by omega
    have hmod : (8 * i + r) % 8 = r := by omega
    have hbit := h (8 * i + r) (by omega) value (by rw [hdiv, hfield])
    rwa [Address.testBit_value hoctet hr, hmod] at hbit

/-! ### The pattern of a block -/

/-- The places of a block, each with the number of its bits that count. -/
def blockFragments (fields : Quad Field) (bits : Nat) : List Fragment :=
  fields.toList.zipIdx.map fun (field, index) => field.fragment (fixedBits bits index)

theorem blockFragments_closed (fields : Quad Field) (bits : Nat) :
    ∀ f ∈ blockFragments fields bits, f.Closed := by
  intro f hf
  obtain ⟨⟨field, index⟩, -, rfl⟩ := List.mem_map.mp hf
  exact field.fragment_closed (fixedBits bits index)

theorem mem_lang_blockFragments_iff (fields : Quad Field) (bits : Nat) {text : List Char} :
    text ∈ (dotSeparated (blockFragments fields bits)).lang ↔
      ∃ x : Address, text = x.chars ∧ BlockAgrees bits fields x := by
  have hfields : blockFragments fields bits = [fields.first.fragment (fixedBits bits 0),
    fields.second.fragment (fixedBits bits 1), fields.third.fragment (fixedBits bits 2),
    fields.fourth.fragment (fixedBits bits 3)] := rfl
  rw [hfields, mem_lang_dotSeparated_iff]
  simp only [List.forall₂_cons_left_iff, List.forall₂_nil_left_iff,
    Field.mem_lang_fragment_iff _ (fixedBits_le bits _), BlockAgrees, Quad.forall_getElem?_iff]
  constructor
  · intro htext
    obtain ⟨-, ⟨-, -, ⟨first, rfl, hfirst⟩, ⟨-, -, ⟨second, rfl, hsecond⟩, ⟨-, -,
      ⟨third, rfl, hthird⟩, ⟨-, -, ⟨fourth, rfl, hfourth⟩, rfl, rfl⟩, rfl⟩, rfl⟩, rfl⟩,
      rfl⟩ := htext
    exact ⟨⟨first, second, third, fourth⟩, rfl, hfirst, hsecond, hthird, hfourth⟩
  · intro htext
    obtain ⟨⟨first, second, third, fourth⟩, rfl, hfirst, hsecond, hthird, hfourth⟩ := htext
    exact ⟨_, ⟨_, _, ⟨first, rfl, hfirst⟩, ⟨_, _, ⟨second, rfl, hsecond⟩, ⟨_, _,
      ⟨third, rfl, hthird⟩, ⟨_, _, ⟨fourth, rfl, hfourth⟩, rfl, rfl⟩, rfl⟩, rfl⟩, rfl⟩, rfl⟩

namespace Token

theorem fragment_block (fields : Quad Field) (bits : Nat) :
    (block fields bits).fragment = .ok (dotSeparated (blockFragments fields bits)) := rfl

/-- **Block exactness.** A block compiles whatever its fields and its number of bits. The matcher
accepts the texts of the addresses that have, among the first `bits` bits, those of the octets that
are given. -/
theorem block_accepts_iff (fields : Quad Field) (bits : Nat) :
    ∃ p m, (block fields bits).pattern = .ok p ∧ Matcher.compile .ascii p = .ok m ∧
      ∀ input : String, m.accepts input = true ↔ ∃ x : Address, input = x.text ∧
        ∀ j < min bits 32, ∀ value, fields.toList[j / 8]? = some (.octet value) →
          x.value.testBit (31 - j) = value.val.testBit (7 - j % 8) := by
  have hclosed := dotSeparated_closed (blockFragments_closed fields bits)
  obtain ⟨m, hcompile, haccepts⟩ := exists_compile hclosed.1
  refine ⟨_, m, rfl, hcompile, ?_⟩
  intro input
  rw [haccepts, mem_lang_blockFragments_iff]
  apply exists_congr
  intro x
  rw [blockAgrees_iff, Address.text, ← String.toList_inj, String.toList_ofList]

end Token

end IntervalRegex
