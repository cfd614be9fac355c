import IntervalRegex.Proofs.Arithmetic.Limits
import IntervalRegex.Proofs.NumberRange

/-!
# The arithmetic of intervals

The alternatives of an interval are computed step by step: one width after the other with a unit
that grows tenfold, and inside a width by quotients and remainders.
-/

namespace IntervalRegex.Arithmetic

open Text

/-! ### The computation -/

/-- The text of the digits from `min` to `max`, both brought between 0 and 9. -/
def digitClass (min max : Int) : Run (List Char) := do
  let min := Max.max min 0
  let max := Min.min max 9
  if max < min then return []
  else if min = max then return signedDecimal min
  else if min = 0 ∧ max = 9 then return ['\\', 'd']
  else if (← wide (max - min)) = 1 then
    return '[' :: (signedDecimal min ++ signedDecimal max ++ [']'])
  else return '[' :: (signedDecimal min ++ '-' :: (signedDecimal max ++ [']']))

section Split

variable (digits : Nat) (shorter : Int → Int → Run (List (List Char))) (unit : Int)

/-- A digit in front of numbers that are one digit shorter. -/
def edge (digit min max : Int) : Run (List Char) := do
  let _ ← word 32 (digits - 1)
  return signedDecimal digit ++ alternate (← shorter min max)

/-- The edge of the lower bound, and the first leading digit behind it. -/
def lowEdge (min first : Int) : Run (List (List Char) × Int) := do
  if min = (← wide (first * unit)) then return ([], first)
  else
    let text ← edge digits shorter first (← remainder min unit) (← wide (unit - 1))
    return ([text], ← wide (first + 1))

/-- The edge of the upper bound, and the last leading digit before it. -/
def highEdge (max last : Int) : Run (List (List Char) × Int) := do
  if (← wide (max + 1)) = (← wide ((← wide (last + 1)) * unit)) then return ([], last)
  else
    let text ← edge digits shorter last 0 (← remainder max unit)
    return ([text], ← wide (last - 1))

/-- Whole leading digits with any digits behind them. -/
def block (first last : Int) : Run (List (List Char)) := do
  if last < first then return []
  else
    let front ← digitClass first last
    if digits ≤ 2 then return [front ++ ['\\', 'd']]
    else return [front ++ (['\\', 'd', '{'] ++ decimal (← word 32 (digits - 1)) ++ ['}'])]

end Split

/-- The numbers from `min` to `max`, written with `digits` digits of which the leading one has
weight `unit`. -/
def split : (digits : Nat) → (unit min max : Int) → Run (List (List Char))
  | 0, unit, min, max => .error (.split 0 unit min max)
  | digits + 1, unit, min, max => do
    checked (.split (digits + 1) unit min max) ()
    if unit = 1 then return [← digitClass min max]
    else
      let shorter := split digits (← quotient unit 10)
      let first ← quotient min unit
      let last ← quotient max unit
      if first = last then
        return [← edge (digits + 1) shorter first (← remainder min unit) (← remainder max unit)]
      else
        let (low, first) ← lowEdge (digits + 1) shorter unit min first
        let (high, last) ← highEdge (digits + 1) shorter unit max last
        return low ++ (← block (digits + 1) first last) ++ high

/-- The numbers below `next` that are left, and the least number that is left behind them. -/
def width (max : Int) (digits : Nat) (unit next min : Int) : Run (Int × List (List Char)) := do
  if min < next then
    return (next, ← split digits unit min (Min.min max (← wide (next - 1))))
  else return (min, [])

/-- The numbers up to `max` that have `digits` digits or more, where `unit` is the least of them.
They begin at `min`. -/
def widths (max : Int) (digits : Nat) (unit min : Int) (fragments : List (List Char)) :
    Run (List (List Char)) :=
  if max < min then return fragments
  else do
    let next ← wide (unit * 10)
    let (start, more) ← width max digits unit next min
    if digits + 1 < 2 ^ 32 then widths max (digits + 1) next start (fragments ++ more)
    else .error (.word 32 ↑(digits + 1))
-- the number of digits is a word, which is what the recursion ends with at the latest
termination_by 2 ^ 32 - digits

/-- The numbers from `min` to `max`, none of them negative. -/
def naturals (min max : Int) (fragments : List (List Char)) : Run (List (List Char)) := do
  if min < 10 ∧ min ≤ max then
    widths max 2 10 10 (fragments ++ [← digitClass min max])
  else widths max 2 10 min fragments

/-- The integers from `min` to `max`. -/
def pieces (min max : Int) : Run (List (List Char)) :=
  if max < min then return []
  else if min < 0 then do
    let magnitudes ← pieces (Max.max (← wide (-max)) 1) (← wide (-min))
    naturals 0 max ['-' :: alternate magnitudes]
  else naturals min max []
termination_by if min < 0 then 1 else 0
decreasing_by simp_all

/-- The text of an interval with bounds of 64 bits. -/
def interval (min max : Int) : Run (List Char) := do
  return alternate (← pieces (← wide min) (← wide max))

/-! ### One digit -/

open Fragment

theorem signedDecimal_of_lt {n : Nat} (h : n < 10) : signedDecimal n = [n.digitChar] :=
  decimal_of_lt h

theorem digitClass_eq_ok {lo hi : Nat} (hlo : lo < 10) (hle : lo ≤ hi) :
    digitClass lo hi = .ok (NumberRange.digitClass lo (min hi 9)).text := by
  have hmin : max (lo : Int) 0 = lo := max_eq_left (Int.natCast_nonneg lo)
  have hmax : min (hi : Int) 9 = ↑(min hi 9) := by omega
  have hhi : min hi 9 < 10 := by omega
  have hle : lo ≤ min hi 9 := by omega
  rw [digitClass, hmin, hmax, NumberRange.digitClass]
  generalize min hi 9 = hi at *
  rw [if_neg (by omega), signedDecimal_of_lt hlo, signedDecimal_of_lt hhi]
  by_cases heq : lo = hi
  · rw [if_pos (by omega), if_pos heq]
    rfl
  · rw [if_neg (by omega), if_neg heq]
    by_cases hall : lo = 0 ∧ hi = 9
    · rw [if_pos (by omega), if_pos hall]
      rfl
    · have hgap : wide (hi - lo) = .ok (hi - lo) := wide_eq_ok (by omega)
      rw [if_neg (by omega), if_neg hall, hgap, ok_bind]
      by_cases hnext : hi = lo + 1
      · rw [if_pos (by omega), if_pos hnext]
        rfl
      · rw [if_neg (by omega), if_neg hnext]
        rfl

/-! ### One width -/

section Edges

variable {tail unit : Nat} {shorter : Int → Int → Run (List (List Char))}
  (hdigits : tail + 1 < 2 ^ 32) (hunit : 0 < unit) (hlimit : 10 * unit ≤ 10 ^ 20)
  (hshorter : ∀ {lo hi : Nat}, lo ≤ hi → hi < unit →
    shorter lo hi = .ok ((NumberRange.split tail lo hi).map Fragment.text))

include hdigits

theorem word_digits : word 32 (↑(tail + 1 + 1) - 1) = .ok (tail + 1) :=
  word_eq_ok (by omega) hdigits

theorem block_eq_ok {first stop : Nat} (hstop : stop ≤ 10) :
    block (tail + 1 + 1) first (stop - 1) = .ok ((if first < stop then
      [seq (NumberRange.digitClass first (stop - 1)) (NumberRange.freeDigits (tail + 1))]
        else []).map Fragment.text) := by
  by_cases hlt : first < stop
  · have hlast : (stop : Int) - 1 = ↑(stop - 1) := by omega
    have hmin : min (stop - 1) 9 = stop - 1 := by omega
    rw [block, hlast, if_neg (by omega), if_pos hlt, digitClass_eq_ok (by omega) (by omega), hmin,
      ok_bind, NumberRange.freeDigits]
    by_cases hone : tail + 1 = 1
    · rw [if_pos (by omega), if_pos hone]
      rfl
    · rw [if_neg (by omega), if_neg hone, word_digits hdigits]
      rfl
  · rw [block, if_pos (by omega), if_neg hlt]
    rfl

include hshorter

theorem edge_eq_ok {d lo hi : Nat} (hd : d < 10) (hle : lo ≤ hi) (hhi : hi < unit) :
    edge (tail + 1 + 1) shorter d lo hi =
      .ok (seq (digit d) (oneOf (NumberRange.split tail lo hi))).text := by
  rw [edge, word_digits hdigits, ok_bind, hshorter hle hhi, ok_bind, signedDecimal_of_lt hd,
    ← text_oneOf]
  rfl

include hunit hlimit

omit hdigits hshorter in
theorem remainder_of_lt {d rest : Nat} (hd : d < 10) (hrest : rest < unit) :
    remainder ↑(d * unit + rest) unit = .ok ↑rest := by
  have hle : d * unit ≤ 9 * unit := Nat.mul_le_mul_right unit (Nat.le_of_lt_succ hd)
  rw [remainder_eq_ok (Nat.ne_of_gt hunit) (by omega), Nat.add_comm, Nat.add_mul_mod_self_right,
    Nat.mod_eq_of_lt hrest]

theorem lowEdge_eq_ok {first rest : Nat} (hfirst : first < 10) (hrest : rest < unit) :
    lowEdge (tail + 1 + 1) shorter unit ↑(first * unit + rest) first =
      .ok ((if rest = 0 then []
        else [seq (digit first) (oneOf (NumberRange.split tail rest (unit - 1)))]).map
          Fragment.text, ↑(if rest = 0 then first else first + 1)) := by
  have hle : first * unit ≤ 9 * unit := Nat.mul_le_mul_right unit (Nat.le_of_lt_succ hfirst)
  have hstart : wide (first * unit) = .ok ↑(first * unit) :=
    wide_eq_natCast (Nat.cast_mul first unit).symm (by omega)
  have hlast : wide (unit - 1) = .ok ↑(unit - 1) := wide_eq_natCast (by omega) (by omega)
  have hnext : wide (first + 1) = .ok ↑(first + 1) := wide_eq_natCast (by omega) (by omega)
  rw [lowEdge, hstart, ok_bind]
  by_cases hzero : rest = 0
  · rw [if_pos (by omega), if_pos hzero, if_pos hzero]
    rfl
  · rw [if_neg (by omega), if_neg hzero, if_neg hzero, remainder_of_lt hunit hlimit hfirst hrest,
      ok_bind, hlast, ok_bind, edge_eq_ok hdigits hshorter hfirst (by omega) (by omega), ok_bind,
      hnext]
    rfl

theorem highEdge_eq_ok {last rest : Nat} (hlast : last < 10) (hrest : rest < unit) :
    highEdge (tail + 1 + 1) shorter unit ↑(last * unit + rest) last =
      .ok ((if rest = unit - 1 then []
        else [seq (digit last) (oneOf (NumberRange.split tail 0 rest))]).map Fragment.text,
          ↑(if rest = unit - 1 then last + 1 else last) - 1) := by
  have hle : last * unit ≤ 9 * unit := Nat.mul_le_mul_right unit (Nat.le_of_lt_succ hlast)
  have hend : wide (↑(last * unit + rest) + 1) = .ok ↑(last * unit + rest + 1) :=
    wide_eq_natCast (by omega) (by omega)
  have hnext : wide (last + 1) = .ok ↑(last + 1) := wide_eq_natCast (by omega) (by omega)
  have hstop : wide (↑(last + 1) * unit) = .ok ↑(last * unit + unit) :=
    wide_eq_natCast (by rw [← Nat.succ_mul, Nat.cast_mul]) (by omega)
  rw [highEdge, hend, ok_bind, hnext, ok_bind, hstop, ok_bind]
  by_cases hwhole : rest = unit - 1
  · rw [if_pos (by omega), if_pos hwhole, if_pos hwhole, Nat.cast_succ, add_sub_cancel_right]
    rfl
  · have hprev : wide (last - 1) = .ok (last - 1) := wide_eq_ok (by omega)
    rw [if_neg (by omega), if_neg hwhole, if_neg hwhole, remainder_of_lt hunit hlimit hlast hrest,
      ok_bind, ← Nat.cast_zero, edge_eq_ok hdigits hshorter hlast (Nat.zero_le rest) (by omega),
      ok_bind, hprev]
    rfl

end Edges

/-- What a split is made for: bounds in order, of as many digits as the unit says. -/
theorem split_within {tail unit lo hi : Nat} (hunit : unit = 10 ^ tail) (hle : lo ≤ hi)
    (hhi : hi < 10 * unit) : (Step.split (tail + 1) unit lo hi).Within := by
  refine ⟨Nat.le_add_left 1 tail, ?_, Int.natCast_nonneg lo, by omega, by omega⟩
  rw [hunit, Nat.add_sub_cancel]
  exact Nat.cast_pow 10 tail

/-- **One width.** No step of a split leaves its limits, by induction on the number of digits. -/
theorem split_eq_ok {tail unit lo hi : Nat} (htail : tail < 20) (hunit : unit = 10 ^ tail)
    (hle : lo ≤ hi) (hhi : hi < 10 * unit) :
    split (tail + 1) unit lo hi = .ok ((NumberRange.split tail lo hi).map Fragment.text) := by
  induction tail generalizing unit lo hi with
  | zero =>
    have hmin : min hi 9 = hi := by omega
    rw [split, checked_eq_ok _ (split_within hunit hle hhi), ok_bind, if_pos (by omega),
      digitClass_eq_ok (by omega) hle, hmin]
    rfl
  | succ tail ih =>
    have hpos : 0 < unit := by
      rw [hunit]
      positivity
    have hlimit : 10 * unit ≤ 10 ^ 20 := by
      rw [hunit, ← pow_succ']
      exact Nat.pow_le_pow_right (by decide) htail
    obtain ⟨next, hnext⟩ : ∃ next, next = 10 ^ tail := ⟨_, rfl⟩
    have htenfold : unit = 10 * next := by rw [hunit, hnext, pow_succ']
    have hquotient : quotient unit 10 = .ok next := by
      rw [← Nat.cast_ofNat, quotient_eq_ok (by decide) (by omega), htenfold,
        Nat.mul_div_cancel_left next (by decide)]
    have hshorter : ∀ {lo hi : Nat}, lo ≤ hi → hi < unit →
        split (tail + 1) next lo hi = .ok ((NumberRange.split tail lo hi).map Fragment.text) :=
      fun hle hhi => ih (by omega) hnext hle (by omega)
    have hlast : hi / unit < 10 := (Nat.div_lt_iff_lt_mul hpos).mpr hhi
    have hfirst : lo / unit ≤ hi / unit := Nat.div_le_div_right hle
    rw [split, checked_eq_ok _ (split_within hunit hle hhi), ok_bind, if_neg (by omega), hquotient,
      ok_bind, quotient_eq_ok (Nat.ne_of_gt hpos) (by omega), ok_bind,
      quotient_eq_ok (Nat.ne_of_gt hpos) (by omega), ok_bind]
    have hlo := Nat.div_add_mod' lo unit
    have hhi := Nat.div_add_mod' hi unit
    have hloRest := Nat.mod_lt lo hpos
    have hhiRest := Nat.mod_lt hi hpos
    -- from here on a bound is its leading digit and the rest
    simp only [NumberRange.split, Nat.pow_eq, ← hunit]
    generalize lo / unit = first at *
    generalize hi / unit = last at *
    generalize lo % unit = loRest at *
    generalize hi % unit = hiRest at *
    subst hlo hhi
    by_cases heq : first = last
    · subst heq
      rw [if_pos rfl, if_pos rfl, remainder_of_lt hpos hlimit hlast hloRest, ok_bind,
        remainder_of_lt hpos hlimit hlast hhiRest, ok_bind,
        edge_eq_ok (by omega) hshorter hlast (by omega) hhiRest]
      rfl
    · rw [if_neg (by omega), if_neg heq,
        lowEdge_eq_ok (by omega) hpos hlimit hshorter (by omega) hloRest, ok_bind,
        highEdge_eq_ok (by omega) hpos hlimit hshorter hlast hhiRest, ok_bind,
        block_eq_ok (by omega) (by split <;> omega), ok_bind]
      simp only [List.map_append, pure_eq_ok]

/-! ### All numbers of digits -/

theorem ofWidth_zero (lo hi : Nat) : NumberRange.ofWidth lo hi 0 =
    if lo < 10 ∧ lo ≤ hi then [NumberRange.digitClass lo (min hi 9)] else [] := by
  have hleast : max lo (NumberRange.leastOfWidth 0) = lo := Nat.max_eq_left (Nat.zero_le lo)
  have hgreatest : min hi (Nat.pow 10 (0 + 1) - 1) = min hi 9 := rfl
  have hiff : lo ≤ min hi 9 ↔ lo < 10 ∧ lo ≤ hi := by omega
  simp only [NumberRange.ofWidth, NumberRange.split, hleast, hgreatest, hiff]

section Width

variable {lo hi tail unit : Nat} (htail : 1 ≤ tail) (hunit : unit = 10 ^ tail)

include htail hunit

theorem length_decimal_le_iff : (decimal hi).length ≤ tail ↔ hi < unit := by
  rw [hunit]
  exact Nat.length_toDigits_le_iff (by decide) htail

variable (hle : lo ≤ hi) (hhi : hi < 10 ^ 19)

include hle hhi

/-- One width leaves the numbers that begin with the next one. -/
theorem width_eq_ok {next : Nat} (hnext : next = 10 ^ (tail + 1)) (hunitLe : unit ≤ hi) :
    width hi (tail + 1) unit next ↑(max lo unit) =
      .ok (↑(max lo next), (NumberRange.ofWidth lo hi tail).map Fragment.text) := by
  have htenfold : next = 10 * unit := by rw [hunit, hnext, pow_succ']
  have hpos : 0 < unit := by
    rw [hunit]
    positivity
  have htailLt : tail < 19 := by
    apply (Nat.pow_lt_pow_iff_right (a := 10) (by decide)).mp
    rw [← hunit]
    exact Nat.lt_of_le_of_lt hunitLe hhi
  by_cases hlo : lo < next
  · have hleast : NumberRange.leastOfWidth tail = unit := by
      rw [NumberRange.leastOfWidth, if_neg (by omega), Nat.pow_eq, hunit]
    have hof : NumberRange.ofWidth lo hi tail =
        NumberRange.split tail (max lo unit) (min hi (next - 1)) := by
      simp only [NumberRange.ofWidth, hleast, Nat.pow_eq, ← hnext]
      exact if_pos (by omega)
    have hlast : wide (next - 1) = .ok ↑(next - 1) := wide_eq_natCast (by omega) (by omega)
    have hmin : min (hi : Int) ↑(next - 1) = ↑(min hi (next - 1)) := by omega
    have hmax : max lo next = next := by omega
    rw [width, if_pos (by omega), hlast, ok_bind, hmin,
      split_eq_ok (by omega) hunit (by omega) (by omega), ok_bind, hof, hmax, pure_eq_ok]
  · have hof : NumberRange.ofWidth lo hi tail = [] :=
      NumberRange.ofWidth_of_le (hnext ▸ Nat.not_lt.mp hlo)
    have hmax : max lo unit = max lo next := by omega
    rw [width, if_neg (by omega), hof, hmax, pure_eq_ok, List.map_nil]

/-- **All widths.** No step leaves its limits while the unit grows to the width of the upper bound,
by induction on the number of widths to come. -/
theorem widths_eq_ok {count : Nat} (hlength : (decimal hi).length = tail + count)
    (fragments : List (List Char)) :
    widths hi (tail + 1) unit ↑(max lo unit) fragments = .ok (fragments ++
      ((List.range' tail count).flatMap (NumberRange.ofWidth lo hi)).map Fragment.text) := by
  induction count generalizing tail unit fragments with
  | zero =>
    have hlt : hi < unit := (length_decimal_le_iff htail hunit).mp (Nat.le_of_eq hlength)
    rw [widths, if_pos (by omega), List.range'_zero, List.flatMap_nil, List.map_nil,
      List.append_nil, pure_eq_ok]
  | succ count ih =>
    have hwidth : (decimal hi).length ≤ tail ↔ hi < unit := length_decimal_le_iff htail hunit
    have hwidthMax : (decimal hi).length ≤ 19 := (length_decimal_le_iff (by decide) rfl).mpr hhi
    have hunitLe : unit ≤ hi := by omega
    obtain ⟨next, hnext⟩ : ∃ next, next = 10 ^ (tail + 1) := ⟨_, rfl⟩
    have htenfold : next = 10 * unit := by rw [hunit, hnext, pow_succ']
    have hwide : wide (unit * 10) = .ok next := wide_eq_natCast (by omega) (by omega)
    rw [widths, if_neg (by omega), hwide, ok_bind,
      width_eq_ok htail hunit hle hhi hnext hunitLe, ok_bind]
    dsimp only
    rw [if_pos (by omega), ih (by omega) hnext (by omega), List.range'_succ, List.flatMap_cons,
      List.map_append, List.append_assoc]

end Width

theorem naturals_eq_ok {lo hi : Nat} (hle : lo ≤ hi) (hhi : hi < 10 ^ 19)
    (fragments : List (List Char)) : naturals lo hi fragments =
      .ok (fragments ++ (NumberRange.naturals lo hi).map Fragment.text) := by
  obtain ⟨count, hlength, -, -⟩ := NumberRange.exists_width hi
  have hwidths := widths_eq_ok (Nat.le_refl 1) (pow_one 10).symm hle hhi
    (hlength.trans (Nat.add_comm count 1))
  rw [naturals, NumberRange.naturals, hlength, List.range_eq_range', List.range'_succ,
    List.flatMap_cons, List.map_append, ← List.append_assoc, ofWidth_zero]
  by_cases hsmall : lo < 10 ∧ lo ≤ hi
  · have hmax : max lo 10 = 10 := by omega
    rw [if_pos (by omega), if_pos hsmall, digitClass_eq_ok hsmall.1 hle, ok_bind]
    rw [hmax] at hwidths
    exact hwidths _
  · have hmax : max lo 10 = lo := by omega
    rw [if_neg (by omega), if_neg hsmall, List.map_nil, List.append_nil]
    rw [hmax] at hwidths
    exact hwidths _

/-! ### Integers -/

theorem naturals_of_neg {max : Int} (hmax : max < 0) (fragments : List (List Char)) :
    naturals 0 max fragments = .ok fragments := by
  rw [naturals, if_neg (by omega), widths, if_pos hmax, pure_eq_ok]

theorem pieces_natCast {lo hi : Nat} (hle : lo ≤ hi) (hhi : hi < 10 ^ 19) :
    pieces lo hi = .ok ((NumberRange.naturals lo hi).map Fragment.text) := by
  rw [pieces, if_neg (by omega), if_neg (by omega), naturals_eq_ok hle hhi, List.nil_append]

theorem pieces_eq_ok {min max : Int} (hmin : min.natAbs < 10 ^ 19) (hmax : max.natAbs < 10 ^ 19) :
    pieces min max = .ok ((NumberRange.pieces min max).map Fragment.text) := by
  by_cases hempty : max < min
  · rw [pieces, if_pos hempty, NumberRange.pieces, if_pos hempty]
    rfl
  by_cases hneg : min < 0
  · have hflip : wide (-max) = .ok (-max) := wide_eq_ok (by omega)
    have hflipMin : wide (-min) = .ok ↑min.natAbs := wide_eq_natCast (by omega) (by omega)
    have hleast : Max.max (-max) 1 = ↑(if max < 0 then max.natAbs else 1) := by
      split <;> omega
    have hle : (if max < 0 then max.natAbs else 1) ≤ min.natAbs := by
      split <;> omega
    rw [pieces, if_neg hempty, if_pos hneg, hflip, ok_bind, hflipMin, ok_bind, hleast,
      pieces_natCast hle hmin, ok_bind, ← text_oneOf]
    simp only [NumberRange.pieces, if_neg hempty, if_pos hneg, List.map_append]
    by_cases hall : max < 0
    · rw [naturals_of_neg hall, if_neg (Int.not_le.mpr hall)]
      rfl
    · obtain ⟨hi, rfl⟩ := Int.eq_ofNat_of_zero_le (Int.not_lt.mp hall)
      have hzero : min.toNat = 0 := by omega
      rw [if_pos (Int.natCast_nonneg hi), hzero, Int.toNat_natCast]
      exact naturals_eq_ok (Nat.zero_le hi) hmax _
  · obtain ⟨lo, rfl⟩ := Int.eq_ofNat_of_zero_le (Int.not_lt.mp hneg)
    obtain ⟨hi, rfl⟩ := Int.eq_ofNat_of_zero_le (show 0 ≤ max by omega)
    simp only [NumberRange.pieces, if_neg hempty, if_neg hneg, if_pos (Int.natCast_nonneg hi),
      List.nil_append, Int.toNat_natCast]
    exact pieces_natCast (by omega) hmax

/-- **Intervals.** No step leaves its limits between any bounds, the least and the greatest of 64
bits included: the magnitude of the least one is computed in 128 bits. -/
theorem interval_eq_ok {min max : Int} (hmin : IsInt64 min) (hmax : IsInt64 max) :
    interval min max = .ok (NumberRange.fragment min max).text := by
  obtain ⟨hminLe, hminGe⟩ := hmin
  obtain ⟨hmaxLe, hmaxGe⟩ := hmax
  unfold minInt64 maxInt64 at *
  rw [interval, wide_eq_ok (by omega), ok_bind, wide_eq_ok (by omega), ok_bind,
    pieces_eq_ok (by omega) (by omega), ok_bind, pure_eq_ok,
    NumberRange.fragment, text_oneOf]

end IntervalRegex.Arithmetic
