import IntervalRegex.Text.Decimal
import Mathlib.Algebra.Order.Ring.Nat
import Mathlib.Tactic.Positivity
import Mathlib.Tactic.Ring

/-!
# Decimals

A number written with a given number of digits, leading zeros included. The canonical decimal of a
number is the one of its own width, and it is the only text that is read as the number.
-/

namespace IntervalRegex.Text

/-- The last `width` digits of a number. -/
def padded : (width : Nat) → Nat → List Char
  | 0, _ => []
  | width + 1, n => (n / 10 ^ width % 10).digitChar :: padded width n

/-- Digits in front do not matter. -/
theorem padded_add {width high : Nat} (h : width ≤ high) (d n : Nat) :
    padded width (d * 10 ^ high + n) = padded width n := by
  induction width with
  | zero => rfl
  | succ width ih =>
    obtain ⟨k, rfl⟩ := Nat.exists_eq_add_of_le h
    have hpow : d * 10 ^ (width + 1 + k) + n = n + 10 * (d * 10 ^ k) * 10 ^ width := by ring
    have hdigit : (d * 10 ^ (width + 1 + k) + n) / 10 ^ width % 10 = n / 10 ^ width % 10 := by
      rw [hpow, Nat.add_mul_div_right _ _ (by positivity), Nat.add_mul_mod_self_left]
    rw [padded, padded, hdigit, ih (Nat.le_of_succ_le h)]

/-- The leading digit in front of the others. -/
theorem padded_cons {width d n : Nat} (hd : d < 10) (hn : n < 10 ^ width) :
    padded (width + 1) (d * 10 ^ width + n) = d.digitChar :: padded width n := by
  have hdigit : (d * 10 ^ width + n) / 10 ^ width = d := by
    rw [Nat.add_comm, Nat.add_mul_div_right _ _ (by positivity), Nat.div_eq_of_lt hn,
      Nat.zero_add]
  rw [padded, padded_add (Nat.le_refl width), hdigit, Nat.mod_eq_of_lt hd]

theorem padded_one {n : Nat} (h : n < 10) : padded 1 n = [n.digitChar] := by
  rw [padded, padded, pow_zero, Nat.div_one, Nat.mod_eq_of_lt h]

theorem padded_append (width n : Nat) :
    padded (width + 1) n = padded width (n / 10) ++ [(n % 10).digitChar] := by
  induction width with
  | zero => simp [padded]
  | succ width ih =>
    rw [padded, ih, padded, List.cons_append, Nat.div_div_eq_div_mul, ← pow_succ']

theorem decimal_eq_padded {width n : Nat} (hlo : width = 0 ∨ 10 ^ width ≤ n)
    (hhi : n < 10 ^ (width + 1)) : decimal n = padded (width + 1) n := by
  induction width generalizing n with
  | zero =>
    rw [zero_add, pow_one] at hhi
    rw [decimal_of_lt hhi, padded_one hhi]
  | succ width ih =>
    have hlo : 10 ^ (width + 1) ≤ n := hlo.resolve_left (Nat.succ_ne_zero width)
    have hdiv : 10 ^ width ≤ n / 10 := by
      rw [Nat.le_div_iff_mul_le (by decide), ← pow_succ]
      exact hlo
    have hlt : n / 10 < 10 ^ (width + 1) := by
      rw [Nat.div_lt_iff_lt_mul (by decide), ← pow_succ]
      exact hhi
    have hten : 10 ≤ n := le_trans (Nat.le_self_pow (Nat.succ_ne_zero width) 10) hlo
    rw [decimal_of_le hten, ih (.inr hdiv) hlt, ← padded_append]

/-- A negative integer is a hyphen before the decimal of its magnitude. -/
theorem signedDecimal_of_neg {n : Int} (h : n < 0) :
    signedDecimal n = '-' :: decimal n.natAbs := by
  cases n with
  | ofNat n => exact absurd h (Int.not_lt.mpr (Int.natCast_nonneg n))
  | negSucc n => rfl

theorem signedDecimal_of_nonneg {n : Int} (h : 0 ≤ n) : signedDecimal n = decimal n.natAbs := by
  cases n with
  | ofNat n => rfl
  | negSucc n => exact absurd (Int.negSucc_lt_zero n) (Int.not_lt.mpr h)

theorem toString_eq_signedDecimal (n : Int) : toString n = String.ofList (signedDecimal n) := by
  rw [Int.toString_eq_repr, Int.repr_eq_if]
  split
  · next h =>
    rw [signedDecimal_of_nonneg h, Nat.repr_eq_ofList_toDigits, decimal]
    congr 2
    omega
  · next h =>
    have hneg : n < 0 := by omega
    have habs : (-n).toNat = n.natAbs := by omega
    rw [signedDecimal_of_neg hneg, Nat.repr_eq_ofList_toDigits, habs, decimal,
      ← String.toList_inj]
    simp

theorem toList_toString (n : Nat) : (toString n).toList = decimal n := by
  rw [Nat.toString_eq_ofList_toDigits, String.toList_ofList]
  rfl

/-! ### Reading -/

theorem decimal_ne_nil (n : Nat) : decimal n ≠ [] := Nat.toDigits_ne_nil

theorem isDigit_of_mem_decimal {n : Nat} {c : Char} (h : c ∈ decimal n) : c.isDigit = true :=
  Nat.isDigit_of_mem_toDigits (by decide) (by decide) h

theorem not_mem_decimal {c : Char} (h : c.isDigit = false) (n : Nat) : c ∉ decimal n := by
  intro hmem
  rw [isDigit_of_mem_decimal hmem] at h
  cases h

/-- Zero alone is written with a zero in front. -/
theorem head?_decimal_ne {n : Nat} (h : n ≠ 0) : (decimal n).head? ≠ some '0' := by
  induction n using Nat.strongRecOn with
  | ind n ih =>
    rcases Nat.lt_or_ge n 10 with hlt | hle
    · rw [decimal_of_lt hlt, List.head?_cons, ne_eq, Option.some.injEq, Nat.digitChar_eq_zero]
      exact h
    · rw [decimal_of_le hle, List.head?_append_of_ne_nil _ (decimal_ne_nil _)]
      exact ih (n / 10) (by omega) (by omega)

theorem digitsValue_concat (cs : List Char) (c : Char) :
    digitsValue (cs ++ [c]) = 10 * digitsValue cs + (c.toNat - 48) := by
  rw [digitsValue, Nat.ofDigitChars_append, Nat.ofDigitChars_cons, Nat.ofDigitChars_nil]
  rfl

theorem digitsValue_padded {width n : Nat} (h : n < 10 ^ width) :
    digitsValue (padded width n) = n := by
  induction width generalizing n with
  | zero =>
    rw [pow_zero, Nat.lt_one_iff] at h
    rw [h]
    rfl
  | succ width ih =>
    have hdiv : n / 10 < 10 ^ width := by
      rw [Nat.div_lt_iff_lt_mul (by decide), ← pow_succ]
      exact h
    have hdigit := Nat.toNat_digitChar_sub_48_of_lt_ten (Nat.mod_lt n (by decide))
    rw [padded_append, digitsValue_concat, ih hdiv, hdigit]
    omega

theorem padded_injective {width m n : Nat} (hm : m < 10 ^ width) (hn : n < 10 ^ width)
    (h : padded width m = padded width n) : m = n := by
  rw [← digitsValue_padded hm, h, digitsValue_padded hn]

theorem decimal_injective {m n : Nat} (h : decimal m = decimal n) : m = n := by
  rw [← digitsValue_decimal m, h, digitsValue_decimal]

theorem digitChar_toNat_sub {c : Char} (h : c.isDigit = true) :
    (c.toNat - 48).digitChar = c := by
  have hbounds : 48 ≤ c.toNat ∧ c.toNat ≤ 57 := Char.isDigit_iff_toNat.mp h
  rw [← Char.toNat_inj, Nat.toNat_digitChar_of_lt_ten (by omega)]
  omega

/-- Digits without a zero in front are the decimal of their value. The induction takes the last
digit off. -/
theorem decimal_digitsValue {cs : List Char} (hne : cs ≠ []) (hdigits : ∀ c ∈ cs, c.isDigit = true)
    (hhead : cs.length = 1 ∨ cs.head? ≠ some '0') : decimal (digitsValue cs) = cs := by
  induction cs using List.reverseRecOn with
  | nil => exact absurd rfl hne
  | append_singleton cs c ih =>
    rw [List.forall_mem_append, List.forall_mem_singleton] at hdigits
    have hc := digitChar_toNat_sub hdigits.2
    have hbounds : 48 ≤ c.toNat ∧ c.toNat ≤ 57 := Char.isDigit_iff_toNat.mp hdigits.2
    have hlt : c.toNat - 48 < 10 := by omega
    rw [digitsValue_concat]
    by_cases hnil : cs = []
    · subst hnil
      rw [decimal_of_lt (by simpa [digitsValue] using hlt)]
      simpa [digitsValue] using hc
    · have hcs : cs.head? ≠ some '0' := by
        rw [List.head?_append_of_ne_nil _ hnil] at hhead
        have hlength : (cs ++ [c]).length ≠ 1 := by simpa using hnil
        exact hhead.resolve_left hlength
      have hdecimal := ih hnil hdigits.1 (.inr hcs)
      have hpos : digitsValue cs ≠ 0 := by
        intro hzero
        rw [hzero] at hdecimal
        rw [← hdecimal] at hcs
        exact hcs rfl
      have hdiv : (10 * digitsValue cs + (c.toNat - 48)) / 10 = digitsValue cs := by omega
      have hmod : (10 * digitsValue cs + (c.toNat - 48)) % 10 = c.toNat - 48 := by omega
      rw [decimal_of_le (by omega), hdiv, hmod, hdecimal, hc]

/-- **Canonical decimals.** A number of at most three digits is read from its decimal and from no
other text. -/
theorem readDecimal_eq_some_iff {max n : Nat} (hmax : max < 1000) {cs : List Char} :
    readDecimal max cs = some n ↔ n ≤ max ∧ cs = decimal n := by
  unfold readDecimal
  constructor
  · intro hread
    split at hread
    · next hcanonical =>
      obtain ⟨hne, -, hdigits, hhead⟩ := hcanonical
      split at hread
      · next hle =>
        obtain rfl := Option.some.inj hread
        exact ⟨hle, (decimal_digitsValue hne (List.all_eq_true.mp hdigits) hhead).symm⟩
      · cases hread
    · cases hread
  · intro hread
    obtain ⟨hle, rfl⟩ := hread
    have hlength : (decimal n).length ≤ 3 :=
      (Nat.length_toDigits_le_iff (by decide) (by decide)).mpr (by omega)
    have hhead : (decimal n).length = 1 ∨ (decimal n).head? ≠ some '0' := by
      by_cases hzero : n = 0
      · exact .inl (by rw [hzero]; rfl)
      · exact .inr (head?_decimal_ne hzero)
    have hdigits : (decimal n).all Char.isDigit = true :=
      List.all_eq_true.mpr fun c hc => isDigit_of_mem_decimal hc
    rw [if_pos ⟨decimal_ne_nil n, hlength, hdigits, hhead⟩, digitsValue_decimal, if_pos hle]

/-! ### Signed numbers -/

theorem signedDecimal_ne_nil (n : Int) : signedDecimal n ≠ [] := by
  cases n with
  | ofNat n => exact decimal_ne_nil n
  | negSucc n => exact List.cons_ne_nil _ _

theorem mem_signedDecimal {n : Int} {c : Char} (h : c ∈ signedDecimal n) :
    c = '-' ∨ c.isDigit = true := by
  cases n with
  | ofNat n => exact .inr (isDigit_of_mem_decimal h)
  | negSucc n => exact (List.mem_cons.mp h).imp_right isDigit_of_mem_decimal

theorem signedDecimal_injective {m n : Int} (h : signedDecimal m = signedDecimal n) : m = n := by
  have hhyphen : ∀ k l : Nat, decimal k ≠ '-' :: decimal l := fun k l heq =>
    not_mem_decimal rfl k (heq ▸ List.mem_cons_self)
  cases m with
  | ofNat m =>
    cases n with
    | ofNat n => rw [decimal_injective h]
    | negSucc n => exact absurd h (hhyphen m (n + 1))
  | negSucc m =>
    cases n with
    | ofNat n => exact absurd h.symm (hhyphen n (m + 1))
    | negSucc n => rw [Nat.succ.inj (decimal_injective (List.cons.inj h).2)]

def IsDigits (cs : List Char) : Prop := cs ≠ [] ∧ ∀ c ∈ cs, c.isDigit = true

/-- Digits, leading zeros included, behind at most one sign, and the integer they write. -/
inductive Signed : List Char → Int → Prop
  | unsigned {digits : List Char} (h : IsDigits digits) : Signed digits (digitsValue digits)
  | plus {digits : List Char} (h : IsDigits digits) : Signed ('+' :: digits) (digitsValue digits)
  | minus {digits : List Char} (h : IsDigits digits) : Signed ('-' :: digits) (-digitsValue digits)

def IsInt64 (n : Int) : Prop := minInt64 ≤ n ∧ n ≤ maxInt64

theorem readDigits_eq_some_iff {cs : List Char} {n : Nat} :
    readDigits cs = some n ↔ IsDigits cs ∧ digitsValue cs = n := by
  simp [readDigits, IsDigits, Option.ite_none_right_eq_some]

theorem map_readDigits_eq_some_iff {cs : List Char} {f : Int → Int} {n : Int} :
    (readDigits cs >>= fun value => pure (value : Int)).map f = some n ↔
      IsDigits cs ∧ f (digitsValue cs) = n := by
  simp [Option.bind_eq_some_iff, readDigits_eq_some_iff, and_assoc]

theorem IsDigits.not_sign {c : Char} (hc : c.isDigit = false) {cs : List Char} :
    ¬ IsDigits (c :: cs) := by
  intro h
  have hdigit := h.2 c List.mem_cons_self
  rw [hc] at hdigit
  cases hdigit

/-- **Signed decimals.** A text is read exactly if it writes an integer of 64 bits, and as that
integer. -/
theorem readInt64_eq_some_iff {cs : List Char} {n : Int} :
    readInt64 cs = some n ↔ Signed cs n ∧ IsInt64 n := by
  simp only [readInt64, Option.filter_eq_some_iff, Bool.and_eq_true, decide_eq_true_eq, IsInt64]
  apply and_congr_left
  intro _
  constructor
  · intro hvalue
    split at hvalue
    · obtain ⟨hdigits, rfl⟩ := map_readDigits_eq_some_iff.mp hvalue
      exact .minus hdigits
    · obtain ⟨hdigits, rfl⟩ := map_readDigits_eq_some_iff.mp hvalue
      exact .plus hdigits
    · obtain ⟨hdigits, rfl⟩ := map_readDigits_eq_some_iff.mp hvalue
      exact .unsigned hdigits
  · intro hsigned
    cases hsigned with
    | minus hdigits => exact (map_readDigits_eq_some_iff (f := fun n => -n)).mpr ⟨hdigits, rfl⟩
    | plus hdigits => exact (map_readDigits_eq_some_iff (f := fun n => n)).mpr ⟨hdigits, rfl⟩
    | unsigned hdigits =>
      split
      · exact absurd hdigits (IsDigits.not_sign rfl)
      · exact absurd hdigits (IsDigits.not_sign rfl)
      · exact map_readDigits_eq_some_iff.mpr ⟨hdigits, rfl⟩

theorem signed_signedDecimal (n : Int) : Signed (signedDecimal n) n := by
  have hdigits : ∀ n : Nat, IsDigits (decimal n) := fun n =>
    ⟨decimal_ne_nil n, fun _ hc => isDigit_of_mem_decimal hc⟩
  cases n with
  | ofNat n =>
    have hsigned := Signed.unsigned (hdigits n)
    rwa [digitsValue_decimal] at hsigned
  | negSucc n =>
    have hsigned := Signed.minus (hdigits (n + 1))
    rwa [digitsValue_decimal] at hsigned

theorem readInt64_signedDecimal {n : Int} (h : IsInt64 n) :
    readInt64 (signedDecimal n) = some n :=
  readInt64_eq_some_iff.mpr ⟨signed_signedDecimal n, h⟩

theorem isInt64_toInt (n : Int64) : IsInt64 n.toInt := ⟨n.le_toInt, Int.le_of_lt_add_one n.toInt_lt⟩

end IntervalRegex.Text
