import IntervalRegex.Proofs.NumberRange

/-!
# Intervals of one value

Where both bounds are the same number they agree in every digit, so that no edge and no block comes
up: each split leaves one digit in front of one alternative. The digits come out one by one, inner
zeros among them, and the pattern of the interval is the decimal of its member.
-/

namespace IntervalRegex.NumberRange

open Fragment Text

/-- The leading digit is the same in both bounds. The rests are written with all their digits, and
that keeps the zeros in front of them. -/
theorem text_split_self {tail n : Nat} (h : n < 10 ^ (tail + 1)) :
    (oneOf (split tail n n)).text = padded (tail + 1) n := by
  induction tail generalizing n with
  | zero =>
    rw [zero_add, pow_one] at h
    rw [split, oneOf, digitClass, if_pos rfl, text, padded_one h]
  | succ tail ih =>
    have hunit : 0 < 10 ^ (tail + 1) := by positivity
    have hfirst : n / 10 ^ (tail + 1) < 10 := by
      rw [Nat.div_lt_iff_lt_mul hunit, ← pow_succ']
      exact h
    have hrest := Nat.mod_lt n hunit
    calc (oneOf (split (tail + 1) n n)).text
        = (n / 10 ^ (tail + 1)).digitChar ::
            (oneOf (split tail (n % 10 ^ (tail + 1)) (n % 10 ^ (tail + 1)))).text := by
          rw [split, if_pos rfl]
          rfl
      _ = (n / 10 ^ (tail + 1)).digitChar :: padded (tail + 1) (n % 10 ^ (tail + 1)) := by
          rw [ih hrest]
      _ = padded (tail + 1 + 1) n := by rw [← padded_cons hfirst hrest, Nat.div_add_mod']

/-- Only the width of the number itself has a member. -/
theorem naturals_self (n : Nat) :
    ∃ tail, leastOfWidth tail ≤ n ∧ n < 10 ^ (tail + 1) ∧ naturals n n = split tail n n := by
  obtain ⟨tail, hlength, hleast, hlt⟩ := exists_width n
  have hlo : max n (leastOfWidth tail) = n := max_eq_left hleast
  have hhi : min n (Nat.pow 10 (tail + 1) - 1) = n := min_eq_left (Nat.le_sub_one_of_lt hlt)
  refine ⟨tail, hleast, hlt, ?_⟩
  calc naturals n n
      = (List.range tail).flatMap (ofWidth n n) ++ ofWidth n n tail := by
        rw [naturals, hlength, List.range_succ, List.flatMap_append, List.flatMap_singleton]
    _ = ofWidth n n tail := by rw [widths_eq_nil hleast, List.nil_append]
    _ = split tail n n := by rw [ofWidth, hlo, hhi, if_pos (Nat.le_refl n)]

theorem text_naturals_self (n : Nat) : (oneOf (naturals n n)).text = decimal n := by
  obtain ⟨tail, hleast, hlt, hnaturals⟩ := naturals_self n
  rw [hnaturals, text_split_self hlt, decimal_eq_padded_of_le hleast hlt]

theorem text_fragment_self (v : Int) : (fragment v v).text = signedDecimal v := by
  rw [fragment, pieces, if_neg (Int.lt_irrefl v)]
  rcases Int.lt_or_le v 0 with hneg | hnonneg
  · rw [if_pos hneg, if_pos hneg, if_neg (Int.not_le.mpr hneg), List.append_nil, oneOf, text,
      text_naturals_self, signedDecimal_of_neg hneg]
    rfl
  · have habs : v.toNat = v.natAbs := by omega
    rw [if_neg (Int.not_lt.mpr hnonneg), if_pos hnonneg, List.nil_append, text_naturals_self,
      signedDecimal_of_nonneg hnonneg, habs]

/-- **Single values.** The pattern of an interval with one member, of any size and either sign, is
the decimal of the member. There is nothing in it but digits and the hyphen of a negative one. -/
theorem pattern_self (v : Int) :
    pattern v v = toString v ∧ ∀ c ∈ (pattern v v).toList, c = '-' ∨ c.isDigit = true := by
  refine ⟨?_, ?_⟩
  · rw [pattern, text_fragment_self, toString_eq_signedDecimal]
  · intro c hc
    rw [pattern, String.toList_ofList, text_fragment_self] at hc
    rcases Int.lt_or_le v 0 with hneg | hnonneg
    · rw [signedDecimal_of_neg hneg] at hc
      exact (List.mem_cons.mp hc).imp_right isDigit_of_mem_decimal
    · rw [signedDecimal_of_nonneg hnonneg] at hc
      exact .inr (isDigit_of_mem_decimal hc)

end IntervalRegex.NumberRange
