import IntervalRegex.Proofs.Fragment.Unambiguous
import IntervalRegex.Proofs.NumberRange

/-!
# Number ranges match in one way

The fixed-width splits that are made for an interval are given by their bounds: first those of each
width of the magnitudes, then those behind one more digit. A split tiles the numbers between its
bounds, so its alternatives exclude each other whatever the bounds are. The same holds for all widths
together, and the sign keeps the negative members apart from the others.
-/

namespace IntervalRegex.NumberRange

open Fragment Text

/-! ### The splits that are made -/

/-- The magnitudes of the negative members and of the others, each from the least to the greatest. -/
inductive Magnitudes (min max : Int) : (lo hi : Nat) → Prop
  | negative (h : min < 0) : Magnitudes min max (if max < 0 then max.natAbs else 1) min.natAbs
  | nonnegative (h : 0 ≤ max) : Magnitudes min max min.toNat max.toNat

/-- The bounds behind the leading digit of a split: behind the one that both bounds share, or behind
the lower and the upper one where these are not left to the block. -/
inductive SplitStep (tail lo hi : Nat) : (lo' hi' : Nat) → Prop
  | same (heq : lo / 10 ^ (tail + 1) = hi / 10 ^ (tail + 1)) :
    SplitStep tail lo hi (lo % 10 ^ (tail + 1)) (hi % 10 ^ (tail + 1))
  | low (hne : lo / 10 ^ (tail + 1) ≠ hi / 10 ^ (tail + 1)) (hrest : lo % 10 ^ (tail + 1) ≠ 0) :
    SplitStep tail lo hi (lo % 10 ^ (tail + 1)) (10 ^ (tail + 1) - 1)
  | high (hne : lo / 10 ^ (tail + 1) ≠ hi / 10 ^ (tail + 1))
    (hrest : hi % 10 ^ (tail + 1) ≠ 10 ^ (tail + 1) - 1) :
    SplitStep tail lo hi 0 (hi % 10 ^ (tail + 1))

/-- The splits for an interval, each with the number of digits behind the leading one and the
bounds. -/
inductive Splits (min max : Int) : (tail lo hi : Nat) → Prop
  | width {lo hi tail : Nat} (h : Magnitudes min max lo hi) (htail : tail < (decimal hi).length)
    (hsome : Max.max lo (leastOfWidth tail) ≤ Min.min hi (10 ^ (tail + 1) - 1)) :
    Splits min max tail (Max.max lo (leastOfWidth tail)) (Min.min hi (10 ^ (tail + 1) - 1))
  | step {tail lo hi lo' hi' : Nat} (h : Splits min max (tail + 1) lo hi)
    (hstep : SplitStep tail lo hi lo' hi') : Splits min max tail lo' hi'

theorem SplitStep.bounds {tail lo hi lo' hi' : Nat} (h : SplitStep tail lo hi lo' hi')
    (hle : lo ≤ hi) : lo' ≤ hi' ∧ hi' < 10 ^ (tail + 1) := by
  have hunit : 0 < 10 ^ (tail + 1) := by positivity
  have hloRest := Nat.mod_lt lo hunit
  have hhiRest := Nat.mod_lt hi hunit
  cases h with
  | same heq =>
    have hlo := Nat.div_add_mod' lo (10 ^ (tail + 1))
    have hhi := Nat.div_add_mod' hi (10 ^ (tail + 1))
    rw [heq] at hlo
    omega
  | low | high => omega

theorem Splits.bounds {min max : Int} {tail lo hi : Nat} (h : Splits min max tail lo hi) :
    lo ≤ hi ∧ hi < 10 ^ (tail + 1) := by
  induction h with
  | @width lo hi tail _ _ hsome =>
    have hpos : 0 < 10 ^ (tail + 1) := by positivity
    omega
  | step _ hstep ih => exact hstep.bounds ih.1

/-- An alternative of a split is an edge, behind which the next split is made, or the block. -/
theorem mem_split_succ {tail lo hi : Nat} {f : Fragment} (h : f ∈ split (tail + 1) lo hi) :
    (∃ d lo' hi', SplitStep tail lo hi lo' hi' ∧ f = seq (digit d) (oneOf (split tail lo' hi'))) ∨
      ∃ first last, first ≤ last ∧ f = seq (digitClass first last) (freeDigits (tail + 1)) := by
  simp only [split, Nat.pow_eq] at h
  split at h
  · next heq => exact .inl ⟨_, _, _, .same heq, List.mem_singleton.mp h⟩
  · next hne =>
    simp only [List.mem_append, or_assoc] at h
    rcases h with hlow | hblock | hhigh
    · obtain ⟨hrest, hf⟩ := List.mem_ite_nil_left.mp hlow
      exact .inl ⟨_, _, _, .low hne hrest, List.mem_singleton.mp hf⟩
    · obtain ⟨hlt, hf⟩ := List.mem_ite_nil_right.mp hblock
      exact .inr ⟨_, _, Nat.le_sub_one_of_lt hlt, List.mem_singleton.mp hf⟩
    · obtain ⟨hrest, hf⟩ := List.mem_ite_nil_left.mp hhigh
      exact .inl ⟨_, _, _, .high hne hrest, List.mem_singleton.mp hf⟩

/-! ### One width -/

theorem digitClass_unambiguous (lo hi : Nat) : (digitClass lo hi).Unambiguous := by
  unfold digitClass
  split_ifs <;> trivial

theorem freeDigits_unambiguous (count : Nat) : (freeDigits count).Unambiguous := by
  unfold freeDigits
  split_ifs <;> trivial

section Split

variable {tail lo hi : Nat} (hle : lo ≤ hi) (hhi : hi < 10 ^ (tail + 1)) (htail : tail < 1 <<< 32)

include hle hhi htail

theorem split_exclusive : Exclusive (split tail lo hi) := by
  apply (tiles_split hle hhi htail).exclusive
  intro m n hm hn
  exact padded_injective (by omega) (by omega)

theorem split_unambiguous : ∀ f ∈ split tail lo hi, f.Unambiguous := by
  induction tail generalizing lo hi with
  | zero =>
    intro f hf
    obtain rfl := List.mem_singleton.mp hf
    exact digitClass_unambiguous lo hi
  | succ tail ih =>
    intro f hf
    have htail := Nat.lt_of_succ_lt htail
    rcases mem_split_succ hf with ⟨d, lo', hi', hstep, rfl⟩ | ⟨first, last, hclass, rfl⟩
    · obtain ⟨hle', hhi'⟩ := hstep.bounds hle
      have hexclusive := split_exclusive hle' hhi' htail
      refine ⟨trivial, hexclusive.oneOf_unambiguous (ih hle' hhi' htail), ?_⟩
      rw [lang, oneDigit_self]
      exact cutsOnce_singleton _ _
    · refine ⟨digitClass_unambiguous first last, freeDigits_unambiguous (tail + 1), ?_⟩
      rw [lang_digitClass hclass]
      apply cutsOnce_of_length 1
      intro word hword
      obtain ⟨n, -, -, rfl⟩ := hword
      rfl

end Split

theorem Splits.exclusivePatterns {min max : Int} {tail lo hi : Nat}
    (h : Splits min max tail lo hi) (hmin : (decimal min.natAbs).length ≤ 1 <<< 32)
    (hmax : (decimal max.natAbs).length ≤ 1 <<< 32) : ExclusivePatterns (split tail lo hi) := by
  have htail : tail < 1 <<< 32 := by
    induction h with
    | width hmagnitudes htail =>
      cases hmagnitudes with
      | negative => exact Nat.lt_of_lt_of_le htail hmin
      | nonnegative hnonneg =>
        have habs : max.toNat = max.natAbs := by omega
        rw [habs] at htail
        exact Nat.lt_of_lt_of_le htail hmax
    | step _ _ ih => exact Nat.lt_of_succ_lt ih
  obtain ⟨hle, hhi⟩ := h.bounds
  have hclosed := (tiles_split hle hhi htail).closed
  exact (split_exclusive hle hhi htail).patterns fun f hf => (hclosed f hf).1

/-! ### All widths -/

section Naturals

variable {lo hi : Nat} (hle : lo ≤ hi) (hwidth : (decimal hi).length ≤ 1 <<< 32)

include hle hwidth

theorem naturals_exclusive : Exclusive (naturals lo hi) :=
  (tiles_naturals hle hwidth).exclusive fun _ _ _ _ => decimal_injective

omit hle in
theorem naturals_unambiguous : ∀ f ∈ naturals lo hi, f.Unambiguous := by
  intro f hf
  obtain ⟨tail, htail, hf⟩ := List.mem_flatMap.mp hf
  have hcount := Nat.lt_of_lt_of_le (List.mem_range.mp htail) hwidth
  have hpos : 0 < 10 ^ (tail + 1) := by positivity
  simp only [ofWidth, Nat.pow_eq] at hf
  split at hf
  · next hsome => exact split_unambiguous hsome (by omega) hcount f hf
  · cases hf

end Naturals

/-! ### Both signs -/

theorem signedDecimal_ne {m n : Int} (hm : m < 0) (hn : 0 ≤ n) :
    signedDecimal m ≠ signedDecimal n := by
  rw [signedDecimal_of_neg hm, signedDecimal_of_nonneg hn]
  intro heq
  exact not_mem_decimal rfl n.natAbs (heq ▸ List.mem_cons_self)

section Pieces

variable {min max : Int} (hle : min ≤ max) (hmin : (decimal min.natAbs).length ≤ 1 <<< 32)
  (hmax : (decimal max.natAbs).length ≤ 1 <<< 32)

include hle hmin hmax

theorem pieces_exclusive : Exclusive (pieces min max) := by
  rw [pieces, if_neg (Int.not_lt.mpr hle)]
  have hnegative : Exclusive (if min < 0 then
      [seq minus (oneOf (naturals (if max < 0 then max.natAbs else 1) min.natAbs))] else []) := by
    by_cases hneg : min < 0
    · rw [if_pos hneg]
      have hminus : minus.Closed := ⟨trivial, rfl⟩
      have htiles := tiles_magnitudes hle hneg hmin
      exact exclusive_singleton (seq_closed hminus (oneOf_closed htiles.closed)).1
    · rw [if_neg hneg]
      exact exclusive_nil
  have hnonnegative : Exclusive (if 0 ≤ max then naturals min.toNat max.toNat else []) := by
    by_cases hnonneg : 0 ≤ max
    · rw [if_pos hnonneg]
      have habs : max.toNat = max.natAbs := by omega
      exact naturals_exclusive (Int.toNat_le_toNat hle) (by rwa [habs])
    · rw [if_neg hnonneg]
      exact exclusive_nil
  apply Exclusive.append hnegative hnonnegative
  intro f hf g hg text htext hother
  obtain ⟨hneg, hf⟩ := List.mem_ite_nil_right.mp hf
  obtain ⟨hnonneg, hg⟩ := List.mem_ite_nil_right.mp hg
  rw [List.mem_singleton.mp hf, mem_lang_negative_iff hle hneg hmin] at htext
  obtain ⟨m, -, -, hm, rfl⟩ := htext
  obtain ⟨n, -, -, hn, heq⟩ :=
    (exists_mem_lang_naturals_iff hle hnonneg hmax).mp ⟨g, hg, hother⟩
  exact signedDecimal_ne hm hn heq

theorem pieces_exclusivePatterns : ExclusivePatterns (pieces min max) :=
  (pieces_exclusive hle hmin hmax).patterns fun f hf => (pieces_closed hle hmin hmax f hf).1

theorem pieces_unambiguous : ∀ f ∈ pieces min max, f.Unambiguous := by
  rw [pieces, if_neg (Int.not_lt.mpr hle)]
  intro f hf
  rcases List.mem_append.mp hf with hf | hf
  · split at hf
    · next hneg =>
      rw [List.mem_singleton] at hf
      subst hf
      have hexclusive : Exclusive (naturals (if max < 0 then max.natAbs else 1) min.natAbs) := by
        apply naturals_exclusive _ hmin
        split <;> omega
      refine ⟨trivial, hexclusive.oneOf_unambiguous (naturals_unambiguous hmin), ?_⟩
      exact cutsOnce_singleton ['-'] _
    · cases hf
  · split at hf
    · next hnonneg =>
      have habs : max.toNat = max.natAbs := by omega
      exact naturals_unambiguous (by rwa [habs]) f hf
    · cases hf

theorem fragment_unambiguous : (fragment min max).Unambiguous :=
  (pieces_exclusive hle hmin hmax).oneOf_unambiguous (pieces_unambiguous hle hmin hmax)

end Pieces

theorem fragment_naturals_unambiguous {lo hi : Nat} (hle : lo ≤ hi) (hhi : hi < 10 ^ 19) :
    (fragment lo hi).Unambiguous :=
  fragment_unambiguous (Int.ofNat_le.mpr hle) (length_decimal_le (by omega))
    (length_decimal_le (by omega))

end IntervalRegex.NumberRange
