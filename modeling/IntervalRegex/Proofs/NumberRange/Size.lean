import IntervalRegex.Proofs.NumberRange

/-!
# The size of number ranges

The bars in the pattern of an interval are counted. Each split of a width can leave two edges, but an
edge is bounded on one side only, and so is what is left of it one digit further on: it gives one
more alternative for each digit. A width between the first and the last one is a single alternative.
So the bars grow with the digits and not with the number of edges.
-/

namespace IntervalRegex

namespace Fragment

open Text

/-- The bars in the text. -/
def barCount : Fragment → Nat
  | seq first second => first.barCount + second.barCount
  | bar left right => left.barCount + right.barCount + 1
  | group body => body.barCount
  | nothing | digit _ | minus | dot | anyDigit | anyDigits _ | pair _ _ | digits _ _ => 0

theorem digitChar_ne_bar (n : Nat) : n.digitChar ≠ '|' := Nat.digitChar_ne '|' (by decide)

theorem count_bar_decimal (n : Nat) : (decimal n).count '|' = 0 :=
  List.count_eq_zero.mpr (not_mem_decimal rfl n)

theorem count_bar_text (f : Fragment) : f.text.count '|' = f.barCount := by
  induction f with
  | nothing | minus | dot | anyDigit => rfl
  | digit | pair | digits => simp [text, barCount, digitChar_ne_bar]
  | anyDigits count => simp [text, barCount, count_bar_decimal]
  | seq first second ih₁ ih₂ => rw [text, List.count_append, ih₁, ih₂, barCount]
  | bar left right ih₁ ih₂ =>
    rw [text, List.count_append, List.count_cons_self, ih₁, ih₂, barCount, Nat.add_assoc]
  | group body ih =>
    have hopen : "(?:".toList.count '|' = 0 := by decide
    have hclose : [')'].count '|' = 0 := by decide
    rw [text, List.count_append, List.count_append, hopen, hclose, ih, barCount, Nat.zero_add,
      Nat.add_zero]

/-- The bars of alternatives when each has one in front; a choice goes without the first. -/
def weight (fragments : List Fragment) : Nat := (fragments.map fun f => f.barCount + 1).sum

theorem weight_nil : weight [] = 0 := rfl

theorem weight_singleton (f : Fragment) : weight [f] = f.barCount + 1 := rfl

theorem weight_append (fragments more : List Fragment) :
    weight (fragments ++ more) = weight fragments + weight more := by
  rw [weight, List.map_append, List.sum_append, weight, weight]

theorem barCount_bars (first : Fragment) (rest : List Fragment) :
    (bars first rest).barCount + 1 = weight (first :: rest) := by
  induction rest generalizing first with
  | nil => rfl
  | cons second rest ih =>
    have hrest := ih second
    simp only [bars, barCount, weight, List.map_cons, List.sum_cons] at hrest ⊢
    omega

theorem barCount_oneOf (fragments : List Fragment) :
    (oneOf fragments).barCount = weight fragments - 1 := by
  match fragments with
  | [] => rfl
  | [f] => rfl
  | first :: second :: rest =>
    have hbars := barCount_bars first (second :: rest)
    rw [oneOf, barCount]
    omega

end Fragment

namespace NumberRange

open Fragment Text

theorem barCount_digitClass (lo hi : Nat) : (digitClass lo hi).barCount = 0 := by
  unfold digitClass
  split_ifs <;> rfl

theorem barCount_freeDigits (count : Nat) : (freeDigits count).barCount = 0 := by
  unfold freeDigits
  split_ifs <;> rfl

/-! ### One width

Alternatives with a digit in front are one alternative, with the bars of their choice. -/

section Split

variable {tail lo hi m n : Nat}

theorem weight_edge_le {d : Nat} {fragments : List Fragment} (h : weight fragments ≤ n + 1) :
    weight [seq (digit d) (oneOf fragments)] ≤ n + 1 := by
  rw [weight_singleton, barCount, barCount_oneOf, barCount]
  omega

theorem weight_block_le (first stop count : Nat) :
    weight (if first < stop then [seq (digitClass first (stop - 1)) (freeDigits count)] else [])
      ≤ 1 := by
  split_ifs
  · rw [weight_singleton, barCount, barCount_digitClass, barCount_freeDigits]
  · exact Nat.zero_le 1

theorem weight_split_same_le (heq : lo / 10 ^ (tail + 1) = hi / 10 ^ (tail + 1))
    (h : weight (split tail (lo % 10 ^ (tail + 1)) (hi % 10 ^ (tail + 1))) ≤ n + 1) :
    weight (split (tail + 1) lo hi) ≤ n + 1 := by
  rw [split, Nat.pow_eq, if_pos heq]
  exact weight_edge_le h

/-- A bound that is the first or the last number behind its leading digit leaves no edge. -/
theorem weight_split_apart_le (hne : lo / 10 ^ (tail + 1) ≠ hi / 10 ^ (tail + 1))
    (hlow : weight (split tail (lo % 10 ^ (tail + 1)) (10 ^ (tail + 1) - 1)) ≤ m + 1)
    (hhigh : weight (split tail 0 (hi % 10 ^ (tail + 1))) ≤ n + 1) :
    weight (split (tail + 1) lo hi) ≤
      (if lo % 10 ^ (tail + 1) = 0 then 0 else m + 1) + 1 +
        (if hi % 10 ^ (tail + 1) = 10 ^ (tail + 1) - 1 then 0 else n + 1) := by
  rw [split, Nat.pow_eq, if_neg hne, weight_append, weight_append]
  apply Nat.add_le_add
  · apply Nat.add_le_add _ (weight_block_le _ _ _)
    split_ifs
    · exact Nat.le_refl 0
    · exact weight_edge_le hlow
  · split_ifs
    · exact Nat.le_refl 0
    · exact weight_edge_le hhigh

end Split

theorem last_eq (tail : Nat) :
    10 ^ (tail + 1 + 1) - 1 = 10 ^ (tail + 1) - 1 + 10 ^ (tail + 1) * 9 := by
  have hunit : 0 < 10 ^ (tail + 1) := by positivity
  rw [pow_succ]
  omega

theorem last_mod (tail : Nat) :
    (10 ^ (tail + 1 + 1) - 1) % 10 ^ (tail + 1) = 10 ^ (tail + 1) - 1 := by
  have hunit : 0 < 10 ^ (tail + 1) := by positivity
  rw [last_eq, Nat.add_mul_mod_self_left, Nat.mod_eq_of_lt (by omega)]

theorem last_div (tail : Nat) : (10 ^ (tail + 1 + 1) - 1) / 10 ^ (tail + 1) = 9 := by
  have hunit : 0 < 10 ^ (tail + 1) := by positivity
  rw [last_eq, Nat.add_mul_div_left _ _ hunit, Nat.div_eq_of_lt (by omega)]

/-- From a number on to the last of the width: the upper bound never leaves an edge. -/
theorem weight_split_last_le (tail lo : Nat) :
    weight (split tail lo (10 ^ (tail + 1) - 1)) ≤ tail + 1 := by
  induction tail generalizing lo with
  | zero => rw [split, weight_singleton, barCount_digitClass]
  | succ tail ih =>
    have hlow := ih (lo % 10 ^ (tail + 1))
    rw [← last_mod tail] at hlow
    by_cases heq : lo / 10 ^ (tail + 1) = (10 ^ (tail + 1 + 1) - 1) / 10 ^ (tail + 1)
    · exact Nat.le_succ_of_le (weight_split_same_le heq hlow)
    · rw [last_mod] at hlow
      have hsplit := weight_split_apart_le heq hlow (Nat.le_succ _)
      rw [if_pos (last_mod tail)] at hsplit
      refine Nat.le_trans hsplit ?_
      split_ifs <;> omega

/-- From a number on that has zeros behind its leading digit: there is no low edge. -/
theorem weight_split_aligned_le {tail lo hi : Nat} (hmod : lo % 10 ^ (tail + 1) = 0)
    (h : weight (split tail 0 (hi % 10 ^ (tail + 1))) ≤ tail + 1) :
    weight (split (tail + 1) lo hi) ≤ tail + 1 + 1 := by
  by_cases heq : lo / 10 ^ (tail + 1) = hi / 10 ^ (tail + 1)
  · rw [← hmod] at h
    exact Nat.le_succ_of_le (weight_split_same_le heq h)
  · have hsplit := weight_split_apart_le heq (Nat.le_succ _) h
    rw [if_pos hmod] at hsplit
    refine Nat.le_trans hsplit ?_
    split_ifs <;> omega

/-- From the first number on: the lower bound never leaves an edge. -/
theorem weight_split_zero_le (tail hi : Nat) : weight (split tail 0 hi) ≤ tail + 1 := by
  induction tail generalizing hi with
  | zero => rw [split, weight_singleton, barCount_digitClass]
  | succ tail ih => exact weight_split_aligned_le (Nat.zero_mod _) (ih _)

/-- Two edges at most are split off, and each of them is bounded on one side. -/
theorem weight_split_le (tail lo hi : Nat) : weight (split tail lo hi) ≤ 2 * tail + 1 := by
  induction tail generalizing lo hi with
  | zero => rw [split, weight_singleton, barCount_digitClass]
  | succ tail ih =>
    by_cases heq : lo / 10 ^ (tail + 1) = hi / 10 ^ (tail + 1)
    · have hsplit := weight_split_same_le heq (ih (lo % 10 ^ (tail + 1)) (hi % 10 ^ (tail + 1)))
      omega
    · have hsplit := weight_split_apart_le heq (weight_split_last_le tail _)
        (weight_split_zero_le tail _)
      refine Nat.le_trans hsplit ?_
      split_ifs <;> omega

/-! ### All widths -/

section Widths

variable {lo hi tail count : Nat}

/-- From the least number of a width on, which has no digits behind the first but zeros. -/
theorem weight_split_least_le (tail hi : Nat) :
    weight (split tail (leastOfWidth tail) hi) ≤ tail + 1 := by
  cases tail with
  | zero => rw [split, weight_singleton, barCount_digitClass]
  | succ tail =>
    rw [leastOfWidth_succ]
    exact weight_split_aligned_le (Nat.mod_self _) (weight_split_zero_le tail _)

/-- A whole width is a single block. -/
theorem weight_split_whole_le (tail : Nat) :
    weight (split tail (leastOfWidth tail) (10 ^ (tail + 1) - 1)) ≤ 1 := by
  cases tail with
  | zero => rw [split, weight_singleton, barCount_digitClass]
  | succ tail =>
    have hunit : 0 < 10 ^ (tail + 1) := by positivity
    have hmod : 10 ^ (tail + 1) % 10 ^ (tail + 1) = 0 := Nat.mod_self _
    have hne : 10 ^ (tail + 1) / 10 ^ (tail + 1) ≠
        (10 ^ (tail + 1 + 1) - 1) / 10 ^ (tail + 1) := by
      rw [last_div, Nat.div_self hunit]
      decide
    have hsplit := weight_split_apart_le hne (Nat.le_succ _) (Nat.le_succ _)
    rwa [if_pos hmod, if_pos (last_mod tail)] at hsplit

theorem weight_ofWidth_le (h : lo ≤ leastOfWidth tail) :
    weight (ofWidth lo hi tail) ≤ tail + 1 := by
  rw [ofWidth, max_eq_right h]
  split_ifs
  · exact weight_split_least_le tail _
  · exact Nat.zero_le _

/-- A width that the upper bound leaves behind. -/
theorem weight_ofWidth_below (h : 10 ^ (tail + 1) ≤ hi) :
    weight (ofWidth lo hi tail) ≤ if lo ≤ leastOfWidth tail then 1 else tail + 1 := by
  have hlast : min hi (Nat.pow 10 (tail + 1) - 1) = 10 ^ (tail + 1) - 1 := by
    rw [Nat.pow_eq]
    omega
  rw [ofWidth, hlast]
  split_ifs with hsome hleast hleast
  · rw [max_eq_right hleast]
    exact weight_split_whole_le tail
  · exact weight_split_last_le tail _
  · exact Nat.zero_le _
  · exact Nat.zero_le _

/-- Below the last width, the first one with members has an alternative for each digit at most, and
every further one has a single alternative. -/
theorem weight_widths_le (h : 10 ^ count ≤ hi ∨ count = 0) :
    weight ((List.range count).flatMap (ofWidth lo hi)) ≤ count := by
  induction count with
  | zero => exact Nat.le_refl 0
  | succ count ih =>
    have hhi : 10 ^ (count + 1) ≤ hi := h.resolve_right (Nat.succ_ne_zero count)
    have hpow : 10 ^ count ≤ 10 ^ (count + 1) := Nat.pow_le_pow_right (by decide) (Nat.le_succ _)
    have hwidths := ih (.inl (Nat.le_trans hpow hhi))
    have hwidth : weight (ofWidth lo hi count) ≤ if lo ≤ leastOfWidth count then 1 else count + 1 :=
      weight_ofWidth_below hhi
    rw [List.range_succ, List.flatMap_append, List.flatMap_singleton, weight_append]
    split_ifs at hwidth with hleast
    · omega
    · rw [widths_eq_nil (by omega), weight_nil]
      omega

end Widths

/-- The naturals from `lo` to `hi` take at most two alternatives for each digit of `hi`, less one. -/
theorem weight_naturals_le (lo hi : Nat) :
    weight (naturals lo hi) ≤ 2 * (decimal hi).length - 1 := by
  obtain ⟨tail, htail, hleast, -⟩ := exists_width hi
  have hhi : 10 ^ tail ≤ hi ∨ tail = 0 := by
    rwa [leastOfWidth_le_iff] at hleast
  have hwidths : weight ((List.range tail).flatMap (ofWidth lo hi)) ≤ tail := weight_widths_le hhi
  rw [naturals, htail, List.range_succ, List.flatMap_append, List.flatMap_singleton, weight_append]
  by_cases hleast : lo ≤ leastOfWidth tail
  · have hwidth : weight (ofWidth lo hi tail) ≤ tail + 1 := weight_ofWidth_le hleast
    omega
  · have hwidth : weight (ofWidth lo hi tail) ≤ 2 * tail + 1 := by
      rw [ofWidth]
      split_ifs
      · exact weight_split_le tail _ _
      · exact Nat.zero_le _
    rw [widths_eq_nil (by omega), weight_nil]
    omega

/-! ### Both signs -/

theorem weight_negative_le (lo hi : Nat) :
    weight [seq minus (oneOf (naturals lo hi))] ≤ 2 * (decimal hi).length - 1 := by
  have hnaturals := weight_naturals_le lo hi
  have hlength : 0 < (decimal hi).length := Nat.length_toDigits_pos
  rw [weight_singleton, barCount, barCount_oneOf, barCount]
  omega

theorem weight_pieces_le (min max : Int) :
    weight (pieces min max) ≤
      (if min < 0 then 2 * (decimal min.natAbs).length - 1 else 0) +
        (if 0 ≤ max then 2 * (decimal max.natAbs).length - 1 else 0) := by
  rw [pieces]
  by_cases hempty : max < min
  · rw [if_pos hempty]
    exact Nat.zero_le _
  · rw [if_neg hempty, weight_append]
    apply Nat.add_le_add
    · by_cases hneg : min < 0
      · rw [if_pos hneg, if_pos hneg]
        exact weight_negative_le _ _
      · rw [if_neg hneg, if_neg hneg, weight_nil]
    · by_cases hnonneg : 0 ≤ max
      · have habs : max.toNat = max.natAbs := by omega
        rw [if_pos hnonneg, if_pos hnonneg, ← habs]
        exact weight_naturals_le _ _
      · rw [if_neg hnonneg, if_neg hnonneg, weight_nil]

theorem count_bar_pattern (min max : Int) :
    (pattern min max).toList.count '|' = weight (pieces min max) - 1 := by
  rw [pattern, String.toList_ofList, count_bar_text, fragment, barCount_oneOf]

/-- **Linear size.** An interval of one sign has at most two bars in its pattern for each digit of
the bound that is farther from zero, less two, and an interval of both signs at most two for each
digit of both bounds, less three. -/
theorem count_bar_pattern_le (min max : Int) :
    (0 ≤ min → (pattern min max).toList.count '|' ≤ 2 * (decimal max.natAbs).length - 2) ∧
      (max < 0 → (pattern min max).toList.count '|' ≤ 2 * (decimal min.natAbs).length - 2) ∧
      (min < 0 → 0 ≤ max → (pattern min max).toList.count '|' ≤
        2 * (decimal min.natAbs).length + 2 * (decimal max.natAbs).length - 3) := by
  have hmin : 0 < (decimal min.natAbs).length := Nat.length_toDigits_pos
  have hmax : 0 < (decimal max.natAbs).length := Nat.length_toDigits_pos
  have hweight := weight_pieces_le min max
  rw [count_bar_pattern]
  refine ⟨?_, ?_, ?_⟩
  · intro hnonneg
    rw [if_neg (Int.not_lt.mpr hnonneg)] at hweight
    split_ifs at hweight <;> omega
  · intro hneg
    rw [if_neg (Int.not_le.mpr hneg)] at hweight
    split_ifs at hweight <;> omega
  · intro hneg hnonneg
    rw [if_pos hneg, if_pos hnonneg] at hweight
    omega

/-- A range of each sign, and the widest one of 64 bits. -/
theorem count_bar_pattern_le_signs :
    (pattern 4 255).toList.count '|' ≤ 2 * (decimal 255).length - 2 ∧
      (pattern (-987) (-3)).toList.count '|' ≤ 2 * (decimal 987).length - 2 ∧
      (pattern minInt64 maxInt64).toList.count '|' ≤
        2 * (decimal minInt64.natAbs).length + 2 * (decimal maxInt64.natAbs).length - 3 :=
  ⟨(count_bar_pattern_le 4 255).1 (by decide), (count_bar_pattern_le (-987) (-3)).2.1 (by decide),
    (count_bar_pattern_le minInt64 maxInt64).2.2 (by decide) (by decide)⟩

/-- The bound is reached: the first width is partial, and the last one has an edge for each digit. -/
example : (pattern 4 255).toList.count '|' = 4 := by decide +kernel

end NumberRange

end IntervalRegex
