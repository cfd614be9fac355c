import IntervalRegex.Proofs.Arithmetic.Address
import IntervalRegex.Proofs.Arithmetic.NumberRange
import IntervalRegex.Proofs.Token.Block
import IntervalRegex.Proofs.Token.Range

/-!
# The arithmetic of tokens

The octets of a block are computed with masks of eight bits. A range is followed with the octets
that are left of its two bounds; where a bound no longer binds, they are replaced by the least or the
greatest ones.
-/

namespace IntervalRegex.Arithmetic

open Text

/-! ### The computation -/

/-- How many of the leading `bits` bits fall into the octet at `index`; the difference stops at
zero. -/
def octetBits (bits index : Nat) : Run Nat := do
  return min (bits - (← word 8 (8 * index))) 8

/-- The text of the octets that share their leading `fixed` bits with `octet`. -/
def octetInterval (octet : Octet) (fixed : Nat) : Run (List Char) := do
  let free ← word 8 (8 - fixed)
  let power ← word 8 (← checked (.octetShift free) (1 <<< free : Nat))
  let mask ← word 8 (power - 1)
  let base ← word 8 ↑(octet.val &&& complement 8 mask)
  let last ← word 8 ↑(base ||| mask)
  interval base last

/-- The text of a place of which `fixed` bits count. -/
def place (fixed : Nat) : Field → Run (List Char)
  | .wildcard => return anyOctet.text
  | .octet value =>
    if fixed = 0 then return anyOctet.text
    else if fixed = 8 then return decimal value.val
    else octetInterval value fixed

def places (fields : Quad Field) (bits : Nat) : Run (List Char) := do
  return dotted (← fields.toList.zipIdx.mapM fun (field, index) => do
    place (← octetBits bits index) field)

/-- An octet and those behind it. -/
def behind (octet : Nat) (rest : List Char) : List Char := decimal octet ++ '\\' :: '.' :: rest

/-- The octets between two, and any octets behind them. -/
def interior (low high : Nat) (free : List Char) : Run (List (List Char)) := do
  if 1 < (← word 8 (high - low)) then
    let first ← interval (← long (low + 1)) (← long (high - 1))
    return [first ++ '\\' :: '.' :: free]
  else return []

/-- The text of the quads from `start` to `last`, which have the same length. -/
def span : (start last : List Nat) → Run (Option (List Char))
  | low :: start, high :: last =>
    if high < low then return none
    else do
      let rest ← word 64 ((low :: start).length - 1)
      if rest = 0 then return some (← interval low high)
      else if low = high then return (← span start last).map (behind low)
      else
        match ← span start (start.map fun _ => 255) with
        | none => return none
        | some lowTail =>
          let between ← interior low high (dotted (start.map fun _ => anyOctet.text))
          match ← span (start.map fun _ => 0) last with
          | none => return none
          | some highTail =>
            return some (alternate ([behind low lowTail] ++ between ++ [behind high highTail]))
  | _, _ => return none
termination_by start => start.length
decreasing_by all_goals simp

def token : Token → Run (Except PatternError String)
  | .block fields bits => do return .ok (String.ofList (← places fields bits))
  | .range addresses => do
    match ← span (addresses.first.toList.map Fin.val) (addresses.last.toList.map Fin.val) with
    | some text => return .ok (String.ofList text)
    | none => return .error (.outOfOrder addresses.text)

/-! ### Blocks -/

open Fragment

theorem octetBits_eq_ok (bits : Nat) {index : Nat} (hindex : index < 32) :
    octetBits bits index = .ok (fixedBits bits index) := by
  have hstart : word 8 (8 * index) = .ok (8 * index) := word_eq_ok (by omega) (by omega)
  rw [octetBits, hstart, ok_bind, pure_eq_ok, fixedBits]

theorem isInt64_natCast {n : Nat} (hn : n < 256) : IsInt64 n := by
  unfold IsInt64 minInt64 maxInt64
  omega

theorem octetInterval_eq_ok (octet : Octet) {fixed : Nat} (hpos : 0 < fixed) (hlt : fixed < 8) :
    octetInterval octet fixed = .ok
      (NumberRange.fragment (octetBlock octet fixed).1 (octetBlock octet fixed).2).text := by
  obtain ⟨free, hfree⟩ : ∃ free, free = 8 - fixed := ⟨_, rfl⟩
  have hle : free ≤ 8 := by omega
  have hpowPos : 0 < 2 ^ free := by positivity
  have hpow : 2 ^ free < 2 ^ 8 := Nat.pow_lt_pow_right (by decide) (by omega)
  have hshift : (Step.octetShift free).Within := ⟨by omega, by omega⟩
  have hlast := octetBlock_lt octet fixed
  have hbase := octetBlock_le octet fixed
  have hfreeWord : word 8 (8 - fixed) = .ok free := word_eq_ok (by omega) (by omega)
  have hmask : word 8 (((2 ^ free : Nat) : Int) - 1) = .ok (2 ^ free - 1) :=
    word_eq_ok (by omega) (by omega)
  have hblock : octetBlock octet fixed = (octet.val / 2 ^ free * 2 ^ free,
      octet.val / 2 ^ free * 2 ^ free + (2 ^ free - 1)) := by
    rw [octetBlock, Nat.one_shiftLeft, hfree]
  rw [hblock] at hlast hbase ⊢
  rw [octetInterval, hfreeWord, ok_bind, checked_eq_ok _ hshift, ok_bind, Nat.one_shiftLeft,
    word_eq_ok rfl hpow, ok_bind, hmask, ok_bind, complement_lowBits, and_highBits hle octet.isLt,
    word_eq_ok rfl (Nat.lt_of_le_of_lt hbase hlast), ok_bind, or_lowBits,
    word_eq_ok rfl hlast, ok_bind]
  exact interval_eq_ok (isInt64_natCast (Nat.lt_of_le_of_lt hbase hlast)) (isInt64_natCast hlast)

theorem place_eq_ok (field : Field) {fixed : Nat} (hfixed : fixed ≤ 8) :
    place fixed field = .ok (field.fragment fixed).text := by
  cases field with
  | wildcard => rfl
  | octet value =>
    rw [place, Field.fragment]
    split
    · rfl
    · split
      · rw [text_number]
        rfl
      · exact octetInterval_eq_ok value (by omega) (by omega)

theorem places_eq_ok (fields : Quad Field) (bits : Nat) :
    places fields bits = .ok (dotSeparated (blockFragments fields bits)).text := by
  have hplaces : fields.toList.zipIdx.mapM (fun (field, index) => do
      place (← octetBits bits index) field) = .ok ((blockFragments fields bits).map text) := by
    rw [blockFragments, List.map_map]
    apply mapM_eq_ok
    intro entry hentry
    obtain ⟨field, index⟩ := entry
    have hindex : index < 4 := List.snd_lt_of_mem_zipIdx hentry
    dsimp only
    rw [octetBits_eq_ok bits (by omega), ok_bind, place_eq_ok field (fixedBits_le bits index)]
    rfl
  rw [places, hplaces, ok_bind, pure_eq_ok, text_dotSeparated]

/-! ### Ranges -/

theorem interior_eq_ok {low high : Nat} (hle : low ≤ high) (hhigh : high < 256) (free : Fragment) :
    interior low high free.text = .ok ((if low + 1 < high then
      [seq (NumberRange.fragment (low + 1) (high - 1)) (seq dot free)] else []).map text) := by
  have hgap : word 8 (high - low) = .ok (high - low) := word_eq_ok (by omega) (by omega)
  rw [interior, hgap, ok_bind]
  by_cases hroom : low + 1 < high
  · have hfirst : IsInt64 (low + 1) := isInt64_natCast (n := low + 1) (by omega)
    have hlast : IsInt64 (high - 1) := by
      rw [← Nat.cast_pred (by omega)]
      exact isInt64_natCast (by omega)
    rw [if_pos (by omega), if_pos hroom, long_eq_ok hfirst.1 hfirst.2, ok_bind,
      long_eq_ok hlast.1 hlast.2, ok_bind, interval_eq_ok hfirst hlast]
    rfl
  · rw [if_neg (by omega), if_neg hroom]
    rfl

theorem text_behind (octet : Nat) (tail : Fragment) :
    (seq (number octet) (seq dot tail)).text = behind octet tail.text := by
  rw [text, text_number]
  rfl

section Places

variable {lowBinds highBinds : Bool} {pair : Octet × Octet} {pairs : List (Octet × Octet)}

/-! A bound that no longer binds has its octets replaced. -/

theorem map_lowest :
    (pairs.map (lowOctet lowBinds)).map (fun _ => 0) = pairs.map (lowOctet false) := List.map_map

theorem map_greatest :
    (pairs.map (lowOctet lowBinds)).map (fun _ => 255) = pairs.map (highOctet false) := List.map_map

theorem dotted_anyOctet : dotted ((pairs.map (lowOctet lowBinds)).map fun _ => anyOctet.text) =
    (dotSeparated (pairs.map fun _ => anyOctet)).text := by
  rw [text_dotSeparated, List.map_map, List.map_map]
  rfl

variable {low high : Nat} (hlow : lowOctet lowBinds pair = low)
  (hhigh : highOctet highBinds pair = high)

include hlow hhigh

theorem span_of_lt (hlt : high < low) :
    span ((pair :: pairs).map (lowOctet lowBinds)) ((pair :: pairs).map (highOctet highBinds)) =
      .ok none := by
  rw [List.map_cons, hlow, List.map_cons, hhigh, span, if_pos hlt, pure_eq_ok]

omit hlow hhigh in
theorem word_rest (hlength : pairs.length < 2 ^ 64) :
    word 64 ((low :: pairs.map (lowOctet lowBinds)).length - 1) = .ok pairs.length := by
  rw [List.length_cons, List.length_map]
  exact word_eq_ok (by omega) hlength

theorem span_singleton (hle : low ≤ high) :
    span ([pair].map (lowOctet lowBinds)) ([pair].map (highOctet highBinds)) =
      .ok (some (NumberRange.fragment low high).text) := by
  have hlength : ([] : List (Octet × Octet)).length < 2 ^ 64 := by decide
  have hlowLt : low < 256 := hlow ▸ lowOctet_lt lowBinds pair
  have hhighLt : high < 256 := hhigh ▸ highOctet_lt highBinds pair
  rw [List.map_cons, hlow, List.map_cons, hhigh, span, if_neg (Nat.not_lt.mpr hle),
    word_rest hlength, ok_bind, if_pos List.length_nil,
    interval_eq_ok (isInt64_natCast hlowLt) (isInt64_natCast hhighLt), ok_bind, pure_eq_ok]

variable (hlength : pairs.length < 2 ^ 64) (hpairs : pairs ≠ [])

include hlength hpairs

theorem span_same {tail : Option Fragment} (heq : low = high)
    (htail : span (pairs.map (lowOctet lowBinds)) (pairs.map (highOctet highBinds)) =
      .ok (tail.map text)) :
    span ((pair :: pairs).map (lowOctet lowBinds)) ((pair :: pairs).map (highOctet highBinds)) =
      .ok ((tail.map fun tail => seq (number low) (seq dot tail)).map text) := by
  rw [List.map_cons, hlow, List.map_cons, hhigh, span, if_neg (Nat.not_lt.mpr (Nat.le_of_eq heq)),
    word_rest hlength, ok_bind, if_neg (mt List.length_eq_zero_iff.mp hpairs), if_pos heq, htail,
    ok_bind, pure_eq_ok, Option.map_map, Option.map_map]
  simp only [Function.comp_def, text_behind]

theorem span_apart {lowTail highTail : Option Fragment} (hlt : low < high)
    (hlowTail : span (pairs.map (lowOctet lowBinds)) (pairs.map (highOctet false)) =
      .ok (lowTail.map text))
    (hhighTail : span (pairs.map (lowOctet false)) (pairs.map (highOctet highBinds)) =
      .ok (highTail.map text)) :
    span ((pair :: pairs).map (lowOctet lowBinds)) ((pair :: pairs).map (highOctet highBinds)) =
      .ok ((lowTail.bind fun lowTail => highTail.map fun highTail =>
        oneOf ([seq (number low) (seq dot lowTail)] ++
          (if low + 1 < high then
            [seq (NumberRange.fragment (low + 1) (high - 1))
              (seq dot (dotSeparated (pairs.map fun _ => anyOctet)))]
          else []) ++
          [seq (number high) (seq dot highTail)])).map text) := by
  have hhighLt : high < 256 := hhigh ▸ highOctet_lt highBinds pair
  rw [List.map_cons, hlow, List.map_cons, hhigh, span, if_neg (Nat.lt_asymm hlt),
    word_rest hlength, ok_bind, if_neg (mt List.length_eq_zero_iff.mp hpairs),
    if_neg (Nat.ne_of_lt hlt), map_greatest, hlowTail, ok_bind]
  cases lowTail with
  | none => rfl
  | some lowTail =>
    rw [Option.map_some]
    dsimp only
    rw [dotted_anyOctet, interior_eq_ok (Nat.le_of_lt hlt) hhighLt, ok_bind, map_lowest, hhighTail,
      ok_bind]
    cases highTail with
    | none => rfl
    | some highTail =>
      rw [Option.map_some, Option.bind_some, Option.map_some, Option.map_some, text_oneOf,
        List.map_append, List.map_append, List.map_singleton, List.map_singleton, text_behind,
        text_behind]
      rfl

end Places

/-- **Spans.** Neither an octet nor the number of octets goes below zero, by induction along the
octets. -/
theorem span_eq_ok (lowBinds highBinds : Bool) (pairs : List (Octet × Octet)) :
    pairs.length ≤ 2 ^ 64 →
      span (pairs.map (lowOctet lowBinds)) (pairs.map (highOctet highBinds)) =
        .ok ((spanFragment lowBinds highBinds pairs).map Fragment.text) := by
  fun_induction spanFragment lowBinds highBinds pairs with
  | case1 =>
    intro _
    simp [span]
  | case2 lowBinds highBinds low high lo hi hlt | case4 lowBinds highBinds low high _ _ lo hi hlt =>
    intro _
    exact span_of_lt rfl rfl hlt
  | case3 lowBinds highBinds low high lo hi hge =>
    intro _
    have hlo : lowOctet lowBinds (low, high) = lo := rfl
    have hhi : highOctet highBinds (low, high) = hi := rfl
    exact span_singleton hlo hhi (Nat.not_lt.mp hge)
  | case5 lowBinds highBinds low high next rest lo hi hge heq ih =>
    intro hlength
    exact span_same rfl rfl hlength (List.cons_ne_nil next rest) heq (ih (Nat.le_of_lt hlength))
  | case6 lowBinds highBinds low high next rest lo hi hge hne lowTail highTail hhighTail hlowTail
      free interior ihLow ihHigh =>
    intro hlength
    have hlo : lowOctet lowBinds (low, high) = lo := rfl
    have hhi : highOctet highBinds (low, high) = hi := rfl
    have hspan := span_apart hlo hhi hlength (List.cons_ne_nil next rest) (by omega)
      (ihLow (Nat.le_of_lt hlength)) (ihHigh (Nat.le_of_lt hlength))
    rwa [hlowTail, hhighTail] at hspan
  | case7 lowBinds highBinds low high next rest lo hi hge hne hnone ihLow ihHigh =>
    intro hlength
    have hlo : lowOctet lowBinds (low, high) = lo := rfl
    have hhi : highOctet highBinds (low, high) = hi := rfl
    rw [span_apart hlo hhi hlength (List.cons_ne_nil next rest) (by omega)
      (ihLow (Nat.le_of_lt hlength)) (ihHigh (Nat.le_of_lt hlength))]
    cases hlowTail : spanFragment lowBinds false (next :: rest) with
    | none => rfl
    | some lowTail =>
      cases hhighTail : spanFragment false highBinds (next :: rest) with
      | none => rfl
      | some highTail => exact absurd hhighTail (hnone lowTail highTail hlowTail)

/-! ### Tokens -/

/-- **Tokens.** Blocks of any number of bits and ranges in any order are computed within limits. -/
theorem token_eq_ok (t : Token) : token t = .ok t.pattern := by
  cases t with
  | block fields bits =>
    rw [token, places_eq_ok, ok_bind]
    rfl
  | range addresses =>
    have hlow : addresses.first.toList.map Fin.val =
        (addresses.first.toList.zip addresses.last.toList).map (lowOctet true) := rfl
    have hhigh : addresses.last.toList.map Fin.val =
        (addresses.first.toList.zip addresses.last.toList).map (highOctet true) := rfl
    have hlength : (addresses.first.toList.zip addresses.last.toList).length ≤ 2 ^ 64 :=
      show 4 ≤ 2 ^ 64 by decide
    rw [token, hlow, hhigh, span_eq_ok true true _ hlength, ok_bind, Token.pattern, Token.fragment]
    cases spanFragment true true (addresses.first.toList.zip addresses.last.toList) with
    | none => rfl
    | some f => rfl

/-- **Arithmetic within limits.** Every run gives its result: between any bounds of 64 bits, for any
token, and for the block or the number of addresses of any address, prefix or pair of addresses. Its
words hold their values, its shifts and divisions are defined, and it splits no numbers but those
that a split is made for. -/
theorem runs_within_limits :
    (∀ min max : Int64, (interval min.toInt max.toInt).map String.ofList =
        .ok (NumberRange.pattern min.toInt max.toInt)) ∧
      (∀ t : Token, token t = .ok t.pattern) ∧
      (∀ (a : Address) (bits : Nat), addressBlock a bits = .ok (AddressRange.block a bits)) ∧
      ∀ r : AddressRange, addressCount r = .ok r.size := by
  refine ⟨?_, token_eq_ok, addressBlock_eq_ok, addressCount_eq_ok⟩
  intro min max
  rw [interval_eq_ok (isInt64_toInt min) (isInt64_toInt max)]
  rfl

end IntervalRegex.Arithmetic
