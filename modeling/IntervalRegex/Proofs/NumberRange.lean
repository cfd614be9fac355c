import IntervalRegex.Proofs.Fragment.Reading
import IntervalRegex.Proofs.Fragment.Tiling
import IntervalRegex.Proofs.Text.Decimal

/-!
# Exactness of number ranges

The alternatives that an interval is cut into tile it: first with a fixed number of digits, where a
low edge, a block of whole leading digits and a high edge follow each other, then over all numbers
of digits. The fragment of an interval of integers therefore stands for the decimals of its members.
-/

namespace IntervalRegex.NumberRange

open Fragment Text

/-! ### One digit in front of others -/

theorem lang_digitClass {lo hi : Nat} (h : lo ≤ hi) : (digitClass lo hi).lang = oneDigit lo hi := by
  unfold digitClass
  split
  · next heq => rw [← heq, lang]
  · split
    · next hall => rw [hall.1, hall.2, lang]
    · split
      · next hnext =>
        subst hnext
        ext text
        rw [lang, Language.mem_add, oneDigit_self, oneDigit_self, mem_oneDigit_iff]
        constructor
        · intro htext
          rcases htext with rfl | rfl
          · exact ⟨lo, Nat.le_refl lo, Nat.le_succ lo, rfl⟩
          · exact ⟨lo + 1, Nat.le_succ lo, Nat.le_refl (lo + 1), rfl⟩
        · intro htext
          obtain ⟨n, hlo, hhi, rfl⟩ := htext
          obtain rfl | rfl : n = lo ∨ n = lo + 1 := by omega
          · exact .inl rfl
          · exact .inr rfl
      · rw [lang]

theorem digitClass_closed {lo hi : Nat} (h : lo ≤ hi) (hhi : hi < 10) :
    (digitClass lo hi).Closed := by
  unfold digitClass
  split
  · exact ⟨Nat.lt_of_le_of_lt h hhi, rfl⟩
  · split
    · exact ⟨trivial, rfl⟩
    · split
      · exact ⟨⟨by omega, hhi⟩, rfl⟩
      · exact ⟨⟨by omega, hhi⟩, rfl⟩

theorem lang_freeDigits (count : Nat) : (freeDigits count).lang = oneDigit 0 9 ^ count := by
  unfold freeDigits
  split
  · next heq => rw [heq, lang, pow_one]
  · rw [lang]

theorem freeDigits_closed {count : Nat} (h : count ≠ 0) (hcount : count < 1 <<< 32) :
    (freeDigits count).Closed := by
  unfold freeDigits
  split
  · exact ⟨trivial, rfl⟩
  · exact ⟨⟨by omega, hcount⟩, rfl⟩

theorem leads_padded (width : Nat) :
    Leads (fun d => [d.digitChar]) (padded width) (padded (width + 1)) 10 (10 ^ width) :=
  fun _ _ hd hn => padded_cons hd hn

theorem oneDigit_eq_between (lo hi : Nat) :
    oneDigit lo hi = between (fun d => [d.digitChar]) lo (hi + 1) := by
  ext text
  simp only [mem_oneDigit_iff, mem_between_iff, Nat.lt_succ_iff]

theorem oneDigit_pow (width : Nat) :
    oneDigit 0 9 ^ width = between (padded width) 0 (10 ^ width) := by
  induction width with
  | zero =>
    ext text
    rw [pow_zero, pow_zero, Language.mem_one, mem_between_iff]
    constructor
    · rintro rfl
      exact ⟨0, Nat.le_refl 0, Nat.one_pos, rfl⟩
    · intro htext
      obtain ⟨n, -, -, rfl⟩ := htext
      rfl
  | succ width ih =>
    rw [pow_succ', ih, oneDigit_eq_between,
      (leads_padded width).between_mul_all (by positivity) (Nat.le_refl 10), zero_mul, pow_succ']

/-! ### Numbers with as many digits -/

theorem fills_edge {width d lo hi : Nat} {fragments : List Fragment} (hd : d < 10) (hlt : lo < hi)
    (hhi : hi ≤ 10 ^ width) (h : Fills (padded width) lo hi fragments) :
    Fills (padded (width + 1)) (d * 10 ^ width + lo) (d * 10 ^ width + hi)
      [seq (digit d) (oneOf fragments)] := by
  apply fills_singleton
  · omega
  · rw [lang, lang, oneDigit_self, h.lang_oneOf hlt, (leads_padded width).mul_between hd hhi]

theorem fills_block (width first stop : Nat) (hle : first ≤ stop) (hstop : stop ≤ 10) :
    Fills (padded (width + 1)) (first * 10 ^ width) (stop * 10 ^ width)
      (if first < stop then [seq (digitClass first (stop - 1)) (freeDigits width)] else []) := by
  split
  · next hlt =>
    have hlast : first ≤ stop - 1 := by omega
    apply fills_singleton
    · exact Nat.mul_lt_mul_of_pos_right hlt (by positivity)
    · rw [lang, lang_digitClass hlast, lang_freeDigits, oneDigit_pow, oneDigit_eq_between,
        Nat.sub_add_cancel (by omega),
        (leads_padded width).between_mul_all (by positivity) hstop]
  · next hge =>
    rw [Nat.le_antisymm hle (Nat.not_lt.mp hge), Fills]

/-! An edge keeps its digit in front of an interval of the digits to the right, which `hsplit` says
are filled. An edge that would be the whole block of its digit is left to the block. -/

section Edges

variable {tail d rest : Nat} (hd : d < 10) (hrest : rest < 10 ^ (tail + 1))
  (hsplit : ∀ {lo hi : Nat}, lo ≤ hi → hi < 10 ^ (tail + 1) →
    Fills (padded (tail + 1)) lo (hi + 1) (split tail lo hi))

include hd hrest hsplit

theorem fills_lowEdge :
    Fills (padded (tail + 1 + 1)) (d * 10 ^ (tail + 1) + rest)
      ((if rest = 0 then d else d + 1) * 10 ^ (tail + 1))
      (if rest = 0 then []
        else [seq (digit d) (oneOf (split tail rest (10 ^ (tail + 1) - 1)))]) := by
  split
  · next hzero => rw [hzero, add_zero, Fills]
  · have hunit : 0 < 10 ^ (tail + 1) := by positivity
    have hsucc : (d + 1) * 10 ^ (tail + 1) = d * 10 ^ (tail + 1) + (10 ^ (tail + 1) - 1 + 1) := by
      rw [Nat.sub_add_cancel hunit, Nat.succ_mul]
    rw [hsucc]
    exact fills_edge hd (by omega) (by omega) (hsplit (by omega) (by omega))

theorem fills_highEdge :
    Fills (padded (tail + 1 + 1))
      ((if rest = 10 ^ (tail + 1) - 1 then d + 1 else d) * 10 ^ (tail + 1))
      (d * 10 ^ (tail + 1) + rest + 1)
      (if rest = 10 ^ (tail + 1) - 1 then [] else [seq (digit d) (oneOf (split tail 0 rest))]) := by
  split
  · rw [Nat.succ_mul, Fills]
    omega
  · exact fills_edge hd (Nat.succ_pos rest) hrest (hsplit (Nat.zero_le rest) hrest)

end Edges

/-- **Fixed width.** The alternatives fill the interval, by induction on the number of digits: the
two edges are the cases of one digit less, and between them stands the block. -/
theorem fills_split {tail lo hi : Nat} (hle : lo ≤ hi) (hhi : hi < 10 ^ (tail + 1)) :
    Fills (padded (tail + 1)) lo (hi + 1) (split tail lo hi) := by
  induction tail generalizing lo hi with
  | zero =>
    rw [zero_add, pow_one] at hhi
    apply fills_singleton (Nat.lt_succ_of_le hle)
    rw [lang_digitClass hle, oneDigit_eq_between]
    apply between_congr
    intro n _ hn
    exact (padded_one (by omega)).symm
  | succ tail hsplit =>
    have hunit : 0 < 10 ^ (tail + 1) := by positivity
    have hlast : hi / 10 ^ (tail + 1) < 10 := by
      rw [Nat.div_lt_iff_lt_mul hunit, ← pow_succ']
      exact hhi
    have hfirst : lo / 10 ^ (tail + 1) ≤ hi / 10 ^ (tail + 1) := Nat.div_le_div_right hle
    have hlo := Nat.div_add_mod' lo (10 ^ (tail + 1))
    have hhi := Nat.div_add_mod' hi (10 ^ (tail + 1))
    have hloRest := Nat.mod_lt lo hunit
    have hhiRest := Nat.mod_lt hi hunit
    -- from here on a bound is its leading digit and the rest
    simp only [split, Nat.pow_eq]
    generalize lo / 10 ^ (tail + 1) = first at *
    generalize hi / 10 ^ (tail + 1) = last at *
    generalize lo % 10 ^ (tail + 1) = loRest at *
    generalize hi % 10 ^ (tail + 1) = hiRest at *
    subst hlo hhi
    split
    · next heq =>
      subst heq
      have hrest : loRest ≤ hiRest := by omega
      exact fills_edge hlast (Nat.lt_succ_of_le hrest) hhiRest (hsplit hrest hhiRest)
    · next hne =>
      have hlow := fills_lowEdge (Nat.lt_of_le_of_lt hfirst hlast) hloRest hsplit
      have hhigh := fills_highEdge hlast hhiRest hsplit
      have hblock := fills_block (tail + 1) (if loRest = 0 then first else first + 1)
        (if hiRest = 10 ^ (tail + 1) - 1 then last + 1 else last)
        (by split <;> split <;> omega) (by split <;> omega)
      exact (hlow.append hblock).append hhigh

theorem block_closed {width stop : Nat} (first : Nat) (hstop : stop ≤ 10) (hwidth : width ≠ 0)
    (hcount : width < 1 <<< 32) :
    ∀ f ∈ if first < stop then [seq (digitClass first (stop - 1)) (freeDigits width)] else [],
      f.Closed := by
  intro f hf
  obtain ⟨hlt, hf⟩ := List.mem_ite_nil_right.mp hf
  rw [List.mem_singleton.mp hf]
  exact seq_closed (digitClass_closed (Nat.le_sub_one_of_lt hlt) (by omega))
    (freeDigits_closed hwidth hcount)

/-- The digits behind a block are as many as a repetition can count. -/
theorem split_closed {tail lo hi : Nat} (hle : lo ≤ hi) (hhi : hi < 10 ^ (tail + 1))
    (htail : tail < 1 <<< 32) : ∀ f ∈ split tail lo hi, f.Closed := by
  induction tail generalizing lo hi with
  | zero =>
    rw [zero_add, pow_one] at hhi
    exact List.forall_mem_singleton.mpr (digitClass_closed hle hhi)
  | succ tail ih =>
    have hunit : 0 < 10 ^ (tail + 1) := by positivity
    have hlast : hi / 10 ^ (tail + 1) < 10 := by
      rw [Nat.div_lt_iff_lt_mul hunit, ← pow_succ']
      exact hhi
    have hfirst : lo / 10 ^ (tail + 1) ≤ hi / 10 ^ (tail + 1) := Nat.div_le_div_right hle
    have hlo := Nat.div_add_mod' lo (10 ^ (tail + 1))
    have hhi := Nat.div_add_mod' hi (10 ^ (tail + 1))
    have hloRest := Nat.mod_lt lo hunit
    have hhiRest := Nat.mod_lt hi hunit
    have hedge : ∀ {d lo hi : Nat}, d < 10 → lo ≤ hi → hi < 10 ^ (tail + 1) →
        ∀ f ∈ [seq (digit d) (oneOf (split tail lo hi))], f.Closed := fun hd hle hhi =>
      List.forall_mem_singleton.mpr
        (seq_closed ⟨hd, rfl⟩ (oneOf_closed (ih hle hhi (Nat.lt_of_succ_lt htail))))
    have hnil : ∀ f ∈ ([] : List Fragment), f.Closed := fun _ hf => nomatch hf
    simp only [split, Nat.pow_eq]
    split
    · next heq =>
      rw [heq] at hlo hfirst
      exact hedge (by omega) (by omega) hhiRest
    · rw [List.forall_mem_append, List.forall_mem_append]
      refine ⟨⟨?_, ?_⟩, ?_⟩
      · split
        · exact hnil
        · exact hedge (by omega) (by omega) (by omega)
      · exact block_closed _ (by split <;> omega) (Nat.succ_ne_zero tail) htail
      · split
        · exact hnil
        · exact hedge hlast (Nat.zero_le _) hhiRest

theorem tiles_split {tail lo hi : Nat} (hle : lo ≤ hi) (hhi : hi < 10 ^ (tail + 1))
    (htail : tail < 1 <<< 32) : Tiles (padded (tail + 1)) lo (hi + 1) (split tail lo hi) :=
  tiles_iff.mpr ⟨split_closed hle hhi htail, fills_split hle hhi⟩

/-! ### All numbers of digits -/

theorem leastOfWidth_succ (tail : Nat) : leastOfWidth (tail + 1) = 10 ^ (tail + 1) := rfl

theorem leastOfWidth_le (tail : Nat) : leastOfWidth tail ≤ 10 ^ (tail + 1) := by
  unfold leastOfWidth
  split
  · exact Nat.zero_le _
  · exact Nat.pow_le_pow_right (by decide) (Nat.le_succ tail)

theorem leastOfWidth_le_iff {tail n : Nat} : leastOfWidth tail ≤ n ↔ 10 ^ tail ≤ n ∨ tail = 0 := by
  unfold leastOfWidth
  split
  · next hzero => exact iff_of_true (Nat.zero_le n) (.inr hzero)
  · next hne => exact (or_iff_left hne).symm

/-- Every number has a width of its own, the length of its decimal. -/
theorem exists_width (n : Nat) :
    ∃ tail, (decimal n).length = tail + 1 ∧ leastOfWidth tail ≤ n ∧ n < 10 ^ (tail + 1) := by
  have hlength : 0 < (decimal n).length := Nat.length_toDigits_pos
  obtain ⟨tail, htail⟩ := Nat.exists_eq_add_one_of_ne_zero (Nat.ne_of_gt hlength)
  refine ⟨tail, htail, ?_, ?_⟩
  · rw [leastOfWidth_le_iff]
    by_contra hboth
    obtain ⟨hlt, hne⟩ := not_or.mp hboth
    have hshort : (decimal n).length ≤ tail :=
      (Nat.length_toDigits_le_iff (by decide) (by omega)).mpr (Nat.not_le.mp hlt)
    omega
  · exact (Nat.length_toDigits_le_iff (by decide) (by omega)).mp (Nat.le_of_eq htail)

theorem decimal_eq_padded_of_le {tail n : Nat} (hlo : leastOfWidth tail ≤ n)
    (hhi : n < 10 ^ (tail + 1)) : decimal n = padded (tail + 1) n :=
  decimal_eq_padded (leastOfWidth_le_iff.mp hlo).symm hhi

theorem ofWidth_of_le {lo hi tail : Nat} (h : 10 ^ (tail + 1) ≤ lo) : ofWidth lo hi tail = [] := by
  have hpos : 0 < 10 ^ (tail + 1) := by positivity
  rw [ofWidth, Nat.pow_eq]
  exact if_neg (by omega)

/-- The widths below the one of the lower bound have no members. -/
theorem widths_eq_nil {lo hi count : Nat} (h : leastOfWidth count ≤ lo) :
    (List.range count).flatMap (ofWidth lo hi) = [] := by
  rw [List.flatMap_eq_nil_iff]
  intro tail htail
  obtain ⟨k, rfl⟩ := Nat.exists_eq_add_of_lt (List.mem_range.mp htail)
  apply ofWidth_of_le
  refine Nat.le_trans (Nat.pow_le_pow_right (by decide) ?_) h
  omega

/-- The members with `tail + 1` digits begin where those with fewer end. -/
theorem tiles_ofWidth {lo hi tail : Nat} (hle : lo ≤ hi) (htail : tail < 1 <<< 32) :
    Tiles decimal (max lo (min (hi + 1) (leastOfWidth tail)))
      (max lo (min (hi + 1) (leastOfWidth (tail + 1)))) (ofWidth lo hi tail) := by
  have hleast := leastOfWidth_le tail
  have hpos : 0 < 10 ^ (tail + 1) := by positivity
  simp only [ofWidth, Nat.pow_eq, leastOfWidth_succ]
  split
  · next hsome =>
    have hstart : max lo (min (hi + 1) (leastOfWidth tail)) = max lo (leastOfWidth tail) := by
      omega
    have hstop : max lo (min (hi + 1) (10 ^ (tail + 1))) =
        min hi (10 ^ (tail + 1) - 1) + 1 := by
      omega
    rw [hstart, hstop]
    apply (tiles_split hsome (by omega) htail).congr
    intro n hlo hhi
    exact (decimal_eq_padded_of_le (by omega) (by omega)).symm
  · rw [Tiles]
    omega

theorem tiles_naturals {lo hi : Nat} (hle : lo ≤ hi) (hwidth : (decimal hi).length ≤ 1 <<< 32) :
    Tiles decimal lo (hi + 1) (naturals lo hi) := by
  have hwidths : ∀ count, count ≤ 1 <<< 32 →
      Tiles decimal lo (max lo (min (hi + 1) (leastOfWidth count)))
        ((List.range count).flatMap (ofWidth lo hi)) := by
    intro count hcount
    induction count with
    | zero =>
      rw [List.range_zero, List.flatMap_nil, Tiles, leastOfWidth, if_pos rfl]
      omega
    | succ count ih =>
      rw [List.range_succ, List.flatMap_append, List.flatMap_singleton]
      exact (ih (Nat.le_of_succ_le hcount)).append (tiles_ofWidth hle hcount)
  have hhi : hi < leastOfWidth (decimal hi).length := by
    obtain ⟨tail, hlength, -, hlt⟩ := exists_width hi
    rwa [hlength, leastOfWidth_succ]
  have hstop : max lo (min (hi + 1) (leastOfWidth (decimal hi).length)) = hi + 1 := by omega
  rw [← hstop]
  exact hwidths (decimal hi).length hwidth

/-! ### Both signs -/

/-- The magnitudes of the negative members. -/
theorem tiles_magnitudes {min max : Int} (hle : min ≤ max) (hneg : min < 0)
    (hwidth : (decimal min.natAbs).length ≤ 1 <<< 32) :
    Tiles decimal (if max < 0 then max.natAbs else 1) (min.natAbs + 1)
      (naturals (if max < 0 then max.natAbs else 1) min.natAbs) := by
  apply tiles_naturals _ hwidth
  split <;> omega

theorem mem_lang_negative_iff {min max : Int} (hle : min ≤ max) (hneg : min < 0)
    (hwidth : (decimal min.natAbs).length ≤ 1 <<< 32) {text : List Char} :
    text ∈ (seq minus
        (oneOf (naturals (if max < 0 then max.natAbs else 1) min.natAbs))).lang ↔
      ∃ n, min ≤ n ∧ n ≤ max ∧ n < 0 ∧ text = signedDecimal n := by
  have htiles := tiles_magnitudes hle hneg hwidth
  have hlang := htiles.lang_oneOf (by split <;> omega)
  rw [mem_lang_seq_iff, hlang]
  constructor
  · intro htext
    obtain ⟨-, rfl, -, ⟨n, hlo, hhi, rfl⟩, rfl⟩ := htext
    have hmax : -(n : Int) ≤ max ∧ -(n : Int) < 0 := by
      split at hlo <;> omega
    refine ⟨-n, by omega, hmax.1, hmax.2, ?_⟩
    rw [signedDecimal_of_neg hmax.2, Int.natAbs_neg, Int.natAbs_natCast]
    rfl
  · intro htext
    obtain ⟨n, hmin, hmax, hn, rfl⟩ := htext
    rw [signedDecimal_of_neg hn]
    refine ⟨['-'], rfl, _, ⟨n.natAbs, ?_, by omega, rfl⟩, rfl⟩
    split <;> omega

theorem tiles_nonnegative {min max : Int} (hle : min ≤ max) (hmax : 0 ≤ max)
    (hwidth : (decimal max.natAbs).length ≤ 1 <<< 32) :
    Tiles decimal min.toNat (max.toNat + 1) (naturals min.toNat max.toNat) := by
  have habs : max.toNat = max.natAbs := by omega
  apply tiles_naturals (Int.toNat_le_toNat hle)
  rwa [habs]

theorem exists_mem_lang_naturals_iff {min max : Int} (hle : min ≤ max) (hmax : 0 ≤ max)
    (hwidth : (decimal max.natAbs).length ≤ 1 <<< 32) {text : List Char} :
    (∃ f ∈ naturals min.toNat max.toNat, text ∈ f.lang) ↔
      ∃ n, min ≤ n ∧ n ≤ max ∧ 0 ≤ n ∧ text = signedDecimal n := by
  rw [(tiles_nonnegative hle hmax hwidth).exists_mem_lang_iff]
  constructor
  · intro htext
    obtain ⟨n, hlo, hhi, rfl⟩ := htext
    exact ⟨n, by omega, by omega, Int.natCast_nonneg n, rfl⟩
  · intro htext
    obtain ⟨n, hmin, hmax, hn, rfl⟩ := htext
    exact ⟨n.natAbs, by omega, by omega, signedDecimal_of_nonneg hn⟩

section Pieces

variable {min max : Int} (hle : min ≤ max) (hmin : (decimal min.natAbs).length ≤ 1 <<< 32)
  (hmax : (decimal max.natAbs).length ≤ 1 <<< 32)

include hle hmin hmax

theorem exists_mem_lang_pieces_iff {text : List Char} :
    (∃ f ∈ pieces min max, text ∈ f.lang) ↔ ∃ n, min ≤ n ∧ n ≤ max ∧ text = signedDecimal n := by
  have hsign : (∃ n, min ≤ n ∧ n ≤ max ∧ text = signedDecimal n) ↔
      (∃ n, min ≤ n ∧ n ≤ max ∧ n < 0 ∧ text = signedDecimal n) ∨
        ∃ n, min ≤ n ∧ n ≤ max ∧ 0 ≤ n ∧ text = signedDecimal n := by
    rw [← exists_or]
    apply exists_congr
    intro n
    have hn := lt_or_ge n 0
    tauto
  rw [hsign, pieces, if_neg (Int.not_lt.mpr hle)]
  simp only [List.mem_append, or_and_right, exists_or]
  apply or_congr
  · split
    · next hneg =>
      rw [← mem_lang_negative_iff hle hneg hmin]
      simp only [List.mem_singleton, exists_eq_left]
    · constructor
      · intro htext
        obtain ⟨f, hf, -⟩ := htext
        cases hf
      · intro htext
        obtain ⟨n, hn, -, hneg, -⟩ := htext
        omega
  · split
    · next hnonneg => exact exists_mem_lang_naturals_iff hle hnonneg hmax
    · constructor
      · intro htext
        obtain ⟨f, hf, -⟩ := htext
        cases hf
      · intro htext
        obtain ⟨n, -, hn, hnonneg, -⟩ := htext
        omega

theorem pieces_closed : ∀ f ∈ pieces min max, f.Closed := by
  rw [pieces, if_neg (Int.not_lt.mpr hle)]
  intro f hf
  rcases List.mem_append.mp hf with hf | hf
  · split at hf
    · next hneg =>
      rw [List.mem_singleton] at hf
      subst hf
      exact seq_closed ⟨trivial, rfl⟩ (oneOf_closed (tiles_magnitudes hle hneg hmin).closed)
    · cases hf
  · split at hf
    · next hnonneg => exact (tiles_nonnegative hle hnonneg hmax).closed f hf
    · cases hf

theorem mem_lang_fragment_iff {text : List Char} :
    text ∈ (fragment min max).lang ↔ ∃ n, min ≤ n ∧ n ≤ max ∧ text = signedDecimal n := by
  have hne : pieces min max ≠ [] := by
    obtain ⟨f, hf, -⟩ := (exists_mem_lang_pieces_iff hle hmin hmax).mpr
      ⟨min, Int.le_refl min, hle, rfl⟩
    exact List.ne_nil_of_mem hf
  rw [fragment, mem_lang_oneOf_iff hne, exists_mem_lang_pieces_iff hle hmin hmax]

theorem fragment_closed : (fragment min max).Closed := oneOf_closed (pieces_closed hle hmin hmax)

end Pieces

theorem length_decimal_le {n : Nat} (h : n < 10 ^ 19) : (decimal n).length ≤ 1 <<< 32 := by
  have hwidth : (decimal n).length ≤ 19 :=
    (Nat.length_toDigits_le_iff (by decide) (by decide)).mpr h
  omega

section Naturals

variable {lo hi : Nat} (hle : lo ≤ hi) (hhi : hi < 10 ^ 19)

include hle hhi

theorem lang_fragment_naturals : (fragment lo hi).lang = between decimal lo (hi + 1) := by
  ext text
  rw [mem_lang_fragment_iff (Int.ofNat_le.mpr hle) (length_decimal_le (by omega))
    (length_decimal_le (by omega)), mem_between_iff]
  constructor
  · intro htext
    obtain ⟨n, hmin, hmax, rfl⟩ := htext
    exact ⟨n.natAbs, by omega, by omega, signedDecimal_of_nonneg (by omega)⟩
  · intro htext
    obtain ⟨n, hmin, hmax, rfl⟩ := htext
    exact ⟨n, by omega, by omega, rfl⟩

theorem fragment_naturals_closed : (fragment lo hi).Closed :=
  fragment_closed (Int.ofNat_le.mpr hle) (length_decimal_le (by omega))
    (length_decimal_le (by omega))

end Naturals

/-! ### The matcher of an interval -/

theorem fragment_of_lt {min max : Int} (h : max < min) : fragment min max = nothing := by
  rw [fragment, pieces, if_pos h]
  rfl

/-- **Range exactness.** For all integers of 64 bits the pattern compiles. The matcher accepts the
decimals of the members and, where there is none, the empty text. -/
theorem ofInterval_accepts_iff (min max : Int64) :
    ∃ m, Matcher.ofInterval min.toInt max.toInt = .ok m ∧ ∀ input : String,
      m.accepts input = true ↔
        (∃ n : Int, min.toInt ≤ n ∧ n ≤ max.toInt ∧ input = toString n) ∨
          (max.toInt < min.toInt ∧ input = "") := by
  have hmin : (decimal min.toInt.natAbs).length ≤ 1 <<< 32 := by
    have hlo := min.le_toInt
    have hhi := min.toInt_lt
    exact length_decimal_le (by omega)
  have hmax : (decimal max.toInt.natAbs).length ≤ 1 <<< 32 := by
    have hlo := max.le_toInt
    have hhi := max.toInt_lt
    exact length_decimal_le (by omega)
  rcases Int.lt_or_le max.toInt min.toInt with hlt | hle
  · obtain ⟨m, hcompile, haccepts⟩ := exists_compile (f := nothing) trivial
    refine ⟨m, ?_, ?_⟩
    · rw [Matcher.ofInterval, pattern, fragment_of_lt hlt]
      exact hcompile
    · intro input
      rw [haccepts, lang, Language.mem_one, String.toList_eq_nil_iff]
      constructor
      · intro hinput
        exact .inr ⟨hlt, hinput⟩
      · intro htext
        rcases htext with ⟨n, hlo, hhi, -⟩ | ⟨-, hinput⟩
        · omega
        · exact hinput
  · obtain ⟨m, hcompile, haccepts⟩ := exists_compile (fragment_closed hle hmin hmax).1
    refine ⟨m, hcompile, ?_⟩
    intro input
    rw [haccepts, mem_lang_fragment_iff hle hmin hmax]
    constructor
    · intro htext
      obtain ⟨n, hlo, hhi, hinput⟩ := htext
      refine .inl ⟨n, hlo, hhi, ?_⟩
      rw [toString_eq_signedDecimal, ← hinput, String.ofList_toList]
    · intro htext
      rcases htext with ⟨n, hlo, hhi, rfl⟩ | ⟨hlt, -⟩
      · refine ⟨n, hlo, hhi, ?_⟩
        rw [toString_eq_signedDecimal, String.toList_ofList]
      · omega

end IntervalRegex.NumberRange
