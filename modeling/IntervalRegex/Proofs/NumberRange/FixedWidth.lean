import IntervalRegex.Proofs.NumberRange

/-!
# Splits of a fixed width

All numbers of a split are written with the same number of digits, zeros in front included. What its
alternatives stand for does not depend on how many digits these are. A pattern can say so only as
long as it can count the digits of a block, and that it does with a number of 32 bits.
-/

namespace IntervalRegex

namespace Text

theorem length_padded (width n : Nat) : (padded width n).length = width := by
  induction width with
  | zero => rfl
  | succ width ih => rw [padded, List.length_cons, ih]

/-- With at least one digit, the last digits of a number that has no others are its decimal behind
zeros. -/
theorem padded_eq_leftpad {width n : Nat} (h : n < 10 ^ (width + 1)) :
    padded (width + 1) n = (decimal n).leftpad (width + 1) '0' := by
  induction width with
  | zero =>
    rw [zero_add, pow_one] at h
    rw [padded_one h, decimal_of_lt h]
    rfl
  | succ width ih =>
    by_cases hlt : n < 10 ^ (width + 1)
    · have hcons := padded_cons (Nat.zero_lt_succ 9) hlt
      rw [Nat.zero_mul, Nat.zero_add] at hcons
      have hlength : (decimal n).length ≤ width + 1 :=
        (Nat.length_toDigits_le_iff (by decide) (Nat.succ_pos width)).mpr hlt
      rw [hcons, ih hlt, List.leftpad, List.leftpad, Nat.succ_sub hlength, List.replicate_succ]
      rfl
    · rw [decimal_eq_padded (.inr (Nat.not_lt.mp hlt)) h, List.leftpad, length_padded, Nat.sub_self]
      rfl

end Text

namespace NumberRange

open Fragment Text

theorem between_padded_succ {tail lo hi : Nat} (hhi : hi < 10 ^ (tail + 1)) {word : List Char} :
    word ∈ between (padded (tail + 1)) lo (hi + 1) ↔
      ∃ n, lo ≤ n ∧ n ≤ hi ∧ word = (decimal n).leftpad (tail + 1) '0' := by
  rw [mem_between_iff]
  apply exists_congr
  intro n
  rw [Nat.lt_succ_iff]
  apply and_congr_right
  intro _
  apply and_congr_right
  intro hn
  rw [padded_eq_leftpad (Nat.lt_of_le_of_lt hn hhi)]

/-- **Fixed width.** For numbers of any number of digits, the alternatives between two of them stand
for the decimals of the numbers from one to the other, filled up with zeros. There is at least one
alternative. The pattern of their choice, whose counts are numbers of 32 bits, compiles, and the
matcher accepts these texts and no others. -/
theorem fixed_width_accepts_iff {digits lo hi : Nat} (hdigits : 1 ≤ digits) (hle : lo ≤ hi)
    (hhi : hi < 10 * 10 ^ (digits - 1)) :
    split (digits - 1) lo hi ≠ [] ∧
      (∀ word, word ∈ (oneOf (split (digits - 1) lo hi)).lang ↔
        ∃ n, lo ≤ n ∧ n ≤ hi ∧ word = (decimal n).leftpad digits '0') ∧
      (digits ≤ 1 <<< 32 → ∃ m,
        Matcher.compile .ascii
          (String.ofList (alternate ((split (digits - 1) lo hi).map Fragment.text))) = .ok m ∧
        ∀ input : String, m.accepts input = true ↔
          ∃ n, lo ≤ n ∧ n ≤ hi ∧ input = String.ofList ((decimal n).leftpad digits '0')) := by
  obtain ⟨tail, rfl⟩ := Nat.exists_eq_add_of_le' hdigits
  rw [Nat.add_sub_cancel] at hhi ⊢
  rw [← pow_succ'] at hhi
  have hfills := fills_split hle hhi
  have hlt : lo < hi + 1 := Nat.lt_succ_of_le hle
  have hlang : ∀ word, word ∈ (oneOf (split tail lo hi)).lang ↔
      ∃ n, lo ≤ n ∧ n ≤ hi ∧ word = (decimal n).leftpad (tail + 1) '0' := by
    intro word
    rw [hfills.lang_oneOf hlt, between_padded_succ hhi]
  refine ⟨hfills.ne_nil hlt, hlang, ?_⟩
  intro htail
  obtain ⟨m, hcompile, haccepts⟩ := exists_compile (oneOf_closed (split_closed hle hhi htail)).1
  refine ⟨m, ?_, ?_⟩
  · rw [← text_oneOf]
    exact hcompile
  · intro input
    rw [haccepts, hlang]
    apply exists_congr
    intro n
    rw [← String.toList_inj, String.toList_ofList]

/-- Two edges, the lower of them with a zero in front, and a block on each side between them. -/
theorem fixed_width_accepts_iff_edges :
    1 ≤ 3 ∧ 7 ≤ 120 ∧ 120 < 10 * 10 ^ (3 - 1) ∧ 3 ≤ 1 <<< 32 ∧
      ∃ m, Matcher.compile .ascii "(?:0(?:0[7-9]|[1-9]\\d)|1(?:[01]\\d|20))" = .ok m ∧
        ∀ input : String, m.accepts input = true ↔
          ∃ n, 7 ≤ n ∧ n ≤ 120 ∧ input = String.ofList ((decimal n).leftpad 3 '0') := by
  have hdigits : 1 ≤ 3 := by decide
  have hle : 7 ≤ 120 := by decide
  have hhi : 120 < 10 * 10 ^ (3 - 1) := by decide
  have htext : String.ofList (alternate ((split (3 - 1) 7 120).map Fragment.text)) =
      "(?:0(?:0[7-9]|[1-9]\\d)|1(?:[01]\\d|20))" := by
    decide +kernel
  have hwidth : 3 ≤ 1 <<< 32 := by decide
  obtain ⟨-, -, hmatcher⟩ := fixed_width_accepts_iff hdigits hle hhi
  rw [htext] at hmatcher
  exact ⟨hdigits, hle, hhi, hwidth, hmatcher hwidth⟩

end NumberRange

end IntervalRegex
