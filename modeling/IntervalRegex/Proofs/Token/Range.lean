import IntervalRegex.Proofs.Token.Octets

/-!
# Exactness of address ranges

A range is followed octet by octet. Comparing octets from the first one on is comparing values, so a
range is in order if its leading octets are, or if they are the same and what comes after them is.
The branches for the low octet, for the octets between and for the high octet tile the values from
one bound to the other.
-/

namespace IntervalRegex

open Fragment Text

/-! ### Bounds -/

/-- The number with the given octets, the first one leading. -/
def octetsValue : List Nat → Nat
  | [] => 0
  | octet :: rest => octet * 256 ^ rest.length + octetsValue rest

theorem octetsValue_lt {octets : List Nat} (h : ∀ octet ∈ octets, octet < 256) :
    octetsValue octets < 256 ^ octets.length := by
  induction octets with
  | nil => exact Nat.one_pos
  | cons octet rest ih =>
    rw [List.forall_mem_cons] at h
    have hrest := ih h.2
    have hblock : (octet + 1) * 256 ^ rest.length ≤ 256 * 256 ^ rest.length :=
      Nat.mul_le_mul_right _ h.1
    rw [Nat.succ_mul] at hblock
    rw [octetsValue, List.length_cons, pow_succ']
    omega

def lowOctet (binds : Bool) (pair : Octet × Octet) : Nat := if binds then pair.1.val else 0

def highOctet (binds : Bool) (pair : Octet × Octet) : Nat := if binds then pair.2.val else 255

/-- The least value of a span. -/
def lowest (binds : Bool) (pairs : List (Octet × Octet)) : Nat :=
  octetsValue (pairs.map (lowOctet binds))

/-- The greatest value of a span. -/
def highest (binds : Bool) (pairs : List (Octet × Octet)) : Nat :=
  octetsValue (pairs.map (highOctet binds))

section Bounds

variable (binds : Bool) (pair : Octet × Octet) (pairs : List (Octet × Octet))

theorem lowOctet_lt : lowOctet binds pair < 256 := by
  unfold lowOctet
  split
  · exact pair.1.isLt
  · decide

theorem highOctet_lt : highOctet binds pair < 256 := by
  unfold highOctet
  split
  · exact pair.2.isLt
  · decide

theorem lowest_cons :
    lowest binds (pair :: pairs) =
      lowOctet binds pair * 256 ^ pairs.length + lowest binds pairs := by
  rw [lowest, List.map_cons, octetsValue, List.length_map, lowest]

theorem highest_cons :
    highest binds (pair :: pairs) =
      highOctet binds pair * 256 ^ pairs.length + highest binds pairs := by
  rw [highest, List.map_cons, octetsValue, List.length_map, highest]

theorem lowest_lt : lowest binds pairs < 256 ^ pairs.length := by
  rw [← List.length_map (f := lowOctet binds)]
  apply octetsValue_lt
  intro octet hmem
  obtain ⟨pair, -, rfl⟩ := List.mem_map.mp hmem
  exact lowOctet_lt binds pair

theorem highest_lt : highest binds pairs < 256 ^ pairs.length := by
  rw [← List.length_map (f := highOctet binds)]
  apply octetsValue_lt
  intro octet hmem
  obtain ⟨pair, -, rfl⟩ := List.mem_map.mp hmem
  exact highOctet_lt binds pair

theorem lowest_false : lowest false pairs = 0 := by
  induction pairs with
  | nil => rfl
  | cons pair pairs ih => rw [lowest_cons, ih, lowOctet, if_neg Bool.false_ne_true, Nat.zero_mul]

theorem highest_false : highest false pairs + 1 = 256 ^ pairs.length := by
  induction pairs with
  | nil => rfl
  | cons pair pairs ih =>
    rw [highest_cons, highOctet, if_neg Bool.false_ne_true, List.length_cons, pow_succ', ← ih]
    omega

end Bounds

/-- Places are compared from the leading one on. -/
theorem mul_add_le_mul_add_iff {size a b v w : Nat} (hv : v < size) (hw : w < size) :
    a * size + v ≤ b * size + w ↔ a < b ∨ a = b ∧ v ≤ w := by
  rcases Nat.lt_trichotomy a b with hlt | rfl | hgt
  · have hblock : (a + 1) * size ≤ b * size := Nat.mul_le_mul_right size hlt
    rw [Nat.succ_mul] at hblock
    omega
  · omega
  · have hblock : (b + 1) * size ≤ a * size := Nat.mul_le_mul_right size hgt
    rw [Nat.succ_mul] at hblock
    omega

theorem lowest_le_highest_cons_iff {lowBinds highBinds : Bool} {pair : Octet × Octet}
    {pairs : List (Octet × Octet)} :
    lowest lowBinds (pair :: pairs) ≤ highest highBinds (pair :: pairs) ↔
      lowOctet lowBinds pair < highOctet highBinds pair ∨
        lowOctet lowBinds pair = highOctet highBinds pair ∧
          lowest lowBinds pairs ≤ highest highBinds pairs := by
  rw [lowest_cons, highest_cons]
  exact mul_add_le_mul_add_iff (lowest_lt lowBinds pairs) (highest_lt highBinds pairs)

/-! ### Branches -/

theorem tiles_octet {lo hi : Nat} (hle : lo ≤ hi) (hhi : hi < 256) :
    Tiles (dottedOctets 1) lo (hi + 1) [NumberRange.fragment lo hi] := by
  apply tiles_singleton (NumberRange.fragment_naturals_closed hle (by omega))
    (Nat.lt_succ_of_le hle)
  rw [NumberRange.lang_fragment_naturals hle (by omega)]
  apply between_congr
  intro n _ hn
  rw [dottedOctets, Nat.mod_eq_of_lt (by omega)]

/-- One octet in front. -/
theorem tiles_number {count d lo hi : Nat} {tail : Fragment} (hd : d < 256)
    (hhi : hi ≤ 256 ^ (count + 1)) (h : Tiles (dottedOctets (count + 1)) lo hi [tail]) :
    Tiles (dottedOctets (count + 2)) (d * 256 ^ (count + 1) + lo) (d * 256 ^ (count + 1) + hi)
      [seq (number d) (seq dot tail)] := by
  have hlt := h.lt
  apply tiles_singleton
  · exact seq_dot_closed (number_closed d) (h.closed tail (List.mem_singleton_self tail))
  · omega
  · rw [lang_number_seq_dot, h.lang, (leads_dottedOctets count).mul_between hd hhi]

/-- Whole octets in front. -/
theorem tiles_whole {count lo hi : Nat} {free : Fragment} (hle : lo ≤ hi) (hhi : hi < 256)
    (hfree : Tiles (dottedOctets (count + 1)) 0 (256 ^ (count + 1)) [free]) :
    Tiles (dottedOctets (count + 2)) (lo * 256 ^ (count + 1)) ((hi + 1) * 256 ^ (count + 1))
      [seq (NumberRange.fragment lo hi) (seq dot free)] := by
  have hsize : 0 < 256 ^ (count + 1) := by positivity
  have hlang := NumberRange.lang_fragment_naturals hle (by omega)
  apply tiles_singleton
  · exact seq_dot_closed (NumberRange.fragment_naturals_closed hle (by omega))
      (hfree.closed free (List.mem_singleton_self free))
  · exact Nat.mul_lt_mul_of_pos_right (Nat.lt_succ_of_le hle) hsize
  · rw [lang_seq_dot hlang, hfree.lang, (leads_dottedOctets count).between_mul_all hsize hhi]

theorem tiles_free (pair : Octet × Octet) (pairs : List (Octet × Octet)) :
    Tiles (dottedOctets (pairs.length + 1)) 0 (256 ^ (pairs.length + 1))
      [dotSeparated ((pair :: pairs).map fun _ => anyOctet)] := by
  induction pairs generalizing pair with
  | nil => exact tiles_octet (Nat.zero_le 255) (by decide)
  | cons next pairs ih =>
    have htiles := tiles_whole (Nat.zero_le 255) (by decide) (ih next)
    rw [Nat.zero_mul, ← pow_succ'] at htiles
    exact htiles

/-- The three branches: the low octet with what is not below the bound behind it, the octets between
with anything, and the high octet with what is not above the bound. -/
theorem tiles_branches {count lo hi lowRest highStop : Nat} {lowTail highTail free : Fragment}
    (hlt : lo < hi) (hhi : hi < 256) (hstop : highStop ≤ 256 ^ (count + 1))
    (hlow : Tiles (dottedOctets (count + 1)) lowRest (256 ^ (count + 1)) [lowTail])
    (hhigh : Tiles (dottedOctets (count + 1)) 0 highStop [highTail])
    (hfree : Tiles (dottedOctets (count + 1)) 0 (256 ^ (count + 1)) [free]) :
    Tiles (dottedOctets (count + 2)) (lo * 256 ^ (count + 1) + lowRest)
      (hi * 256 ^ (count + 1) + highStop)
      ([seq (number lo) (seq dot lowTail)] ++
        (if lo + 1 < hi then [seq (NumberRange.fragment (lo + 1) (hi - 1)) (seq dot free)]
          else []) ++
        [seq (number hi) (seq dot highTail)]) := by
  have hlowEdge := tiles_number (Nat.lt_trans hlt hhi) (Nat.le_refl _) hlow
  have hhighEdge := tiles_number hhi hstop hhigh
  have hinterior : Tiles (dottedOctets (count + 2)) ((lo + 1) * 256 ^ (count + 1))
      (hi * 256 ^ (count + 1))
      (if lo + 1 < hi then [seq (NumberRange.fragment (lo + 1) (hi - 1)) (seq dot free)]
        else []) := by
    split
    · next hsome =>
      have hwhole := tiles_whole (Nat.le_sub_one_of_lt hsome) (by omega) hfree
      have hpred : ((hi - 1 : Nat) : Int) = (hi : Int) - 1 := by omega
      rw [Nat.sub_add_cancel (by omega), hpred] at hwhole
      exact hwhole
    · next hnone =>
      obtain rfl : hi = lo + 1 := by omega
      rfl
  rw [← Nat.succ_mul] at hlowEdge
  exact (hlowEdge.append hinterior).append hhighEdge

/-- Behind the low octet the upper bound no longer binds, behind the high one the lower bound. -/
theorem tiles_spanBranches {lowBinds highBinds : Bool} {pair next : Octet × Octet}
    {rest : List (Octet × Octet)} {lo hi : Nat} {lowTail highTail : Fragment}
    (hlo : lowOctet lowBinds pair = lo) (hhi : highOctet highBinds pair = hi) (hlt : lo < hi)
    (hlow : Tiles (dottedOctets (rest.length + 1)) (lowest lowBinds (next :: rest))
      (highest false (next :: rest) + 1) [lowTail])
    (hhigh : Tiles (dottedOctets (rest.length + 1)) (lowest false (next :: rest))
      (highest highBinds (next :: rest) + 1) [highTail]) :
    Tiles (dottedOctets (rest.length + 2)) (lowest lowBinds (pair :: next :: rest))
      (highest highBinds (pair :: next :: rest) + 1)
      ([seq (number lo) (seq dot lowTail)] ++
        (if lo + 1 < hi then
          [seq (NumberRange.fragment (lo + 1) (hi - 1))
            (seq dot (dotSeparated ((next :: rest).map fun _ => anyOctet)))]
          else []) ++
        [seq (number hi) (seq dot highTail)]) := by
  have hoctet : hi < 256 := hhi ▸ highOctet_lt highBinds pair
  rw [highest_false] at hlow
  rw [lowest_false] at hhigh
  rw [lowest_cons, highest_cons, hlo, hhi]
  exact tiles_branches hlt hoctet (highest_lt highBinds (next :: rest)) hlow hhigh
    (tiles_free next rest)

/-- **Spans.** The fragment of a span stands for the numbers from its lower bound to its upper one,
by induction along the octets. -/
theorem tiles_spanFragment (lowBinds highBinds : Bool) (pairs : List (Octet × Octet)) :
    ∀ f, spanFragment lowBinds highBinds pairs = some f →
      Tiles (dottedOctets pairs.length) (lowest lowBinds pairs) (highest highBinds pairs + 1)
        [f] := by
  fun_induction spanFragment lowBinds highBinds pairs with
  | case1 | case2 | case4 | case7 =>
    intro f hf
    cases hf
  | case3 lowBinds highBinds low high lo hi hge =>
    intro f hf
    obtain rfl := Option.some.inj hf
    have hhi : hi < 256 := highOctet_lt highBinds (low, high)
    have hlow : lowest lowBinds [(low, high)] = lo := by
      rw [lowest_cons, List.length_nil, pow_zero, Nat.mul_one]
      rfl
    have hhigh : highest highBinds [(low, high)] = hi := by
      rw [highest_cons, List.length_nil, pow_zero, Nat.mul_one]
      rfl
    rw [hlow, hhigh]
    exact tiles_octet (Nat.not_lt.mp hge) hhi
  | case5 lowBinds highBinds low high next rest lo hi hge heq ih =>
    intro f hf
    obtain ⟨tail, htail, rfl⟩ := Option.map_eq_some_iff.mp hf
    have hlo : lowOctet lowBinds (low, high) = lo := rfl
    have hhi : highOctet highBinds (low, high) = lo := heq.symm
    have hoctet : lo < 256 := lowOctet_lt lowBinds (low, high)
    have hstop := highest_lt highBinds (next :: rest)
    rw [lowest_cons, highest_cons, hlo, hhi]
    exact tiles_number hoctet hstop (ih tail htail)
  | case6 lowBinds highBinds low high next rest lo hi hge hne lowTail highTail hhighTail hlowTail
      free interior ihLow ihHigh =>
    intro f hf
    obtain rfl := Option.some.inj hf
    have hlo : lowOctet lowBinds (low, high) = lo := rfl
    have hhi : highOctet highBinds (low, high) = hi := rfl
    have hlt : lo < hi := by omega
    have htiles := tiles_spanBranches hlo hhi hlt (ihLow lowTail hlowTail)
      (ihHigh highTail hhighTail)
    have hle : lowest lowBinds ((low, high) :: next :: rest) ≤
        highest highBinds ((low, high) :: next :: rest) := by
      rw [lowest_le_highest_cons_iff, hlo, hhi]
      exact .inl hlt
    exact htiles.oneOf (Nat.lt_succ_of_le hle)

/-- A span in order has a fragment. Below a first octet that leaves room, neither tail can be out of
order, as one of its bounds no longer binds. -/
theorem exists_spanFragment (lowBinds highBinds : Bool) (pairs : List (Octet × Octet)) :
    pairs ≠ [] → lowest lowBinds pairs ≤ highest highBinds pairs →
      ∃ f, spanFragment lowBinds highBinds pairs = some f := by
  fun_induction spanFragment lowBinds highBinds pairs with
  | case1 =>
    intro hne
    exact absurd rfl hne
  | case2 lowBinds highBinds low high lo hi hlt | case4 lowBinds highBinds low high _ _ lo hi hlt =>
    intro _ hle
    have hlo : lowOctet lowBinds (low, high) = lo := rfl
    have hhi : highOctet highBinds (low, high) = hi := rfl
    rw [lowest_le_highest_cons_iff, hlo, hhi] at hle
    omega
  | case3 | case6 =>
    intro _ _
    exact ⟨_, rfl⟩
  | case5 lowBinds highBinds low high next rest lo hi hge heq ih =>
    intro _ hle
    have hlo : lowOctet lowBinds (low, high) = lo := rfl
    have hhi : highOctet highBinds (low, high) = lo := heq.symm
    rw [lowest_le_highest_cons_iff, hlo, hhi] at hle
    have hrest := hle.resolve_left (Nat.lt_irrefl lo)
    obtain ⟨tail, htail⟩ := ih (List.cons_ne_nil next rest) hrest.2
    rw [htail]
    exact ⟨_, rfl⟩
  | case7 lowBinds highBinds low high next rest lo hi hge hne hnone ihLow ihHigh =>
    intro _ hle
    have hlow : lowest lowBinds (next :: rest) ≤ highest false (next :: rest) := by
      have hbound := lowest_lt lowBinds (next :: rest)
      rw [← highest_false] at hbound
      exact Nat.le_of_lt_succ hbound
    have hhigh : lowest false (next :: rest) ≤ highest highBinds (next :: rest) := by
      rw [lowest_false]
      exact Nat.zero_le _
    obtain ⟨lowTail, hlowTail⟩ := ihLow (List.cons_ne_nil next rest) hlow
    obtain ⟨highTail, hhighTail⟩ := ihHigh (List.cons_ne_nil next rest) hhigh
    exact absurd hhighTail (hnone lowTail highTail hlowTail)

/-! ### The pattern of a range -/

theorem lowest_zip (a b : Address) : lowest true (a.toList.zip b.toList) = a.value := by
  simp only [lowest, Quad.toList, List.zip_cons_cons, List.zip_nil_left, List.map_cons,
    List.map_nil, octetsValue, List.length_cons, List.length_nil, lowOctet, if_true, Address.value]
  ring

theorem highest_zip (a b : Address) : highest true (a.toList.zip b.toList) = b.value := by
  simp only [highest, Quad.toList, List.zip_cons_cons, List.zip_nil_left, List.map_cons,
    List.map_nil, octetsValue, List.length_cons, List.length_nil, highOctet, if_true,
    Address.value]
  ring

namespace Token

theorem fragment_range_of_le {r : AddressRange} (h : r.first.value ≤ r.last.value) :
    ∃ f, (range r).fragment = .ok f ∧ f.Closed ∧
      f.lang = between (dottedOctets 4) r.first.value (r.last.value + 1) := by
  have hle : lowest true (r.first.toList.zip r.last.toList) ≤
      highest true (r.first.toList.zip r.last.toList) := by
    rwa [lowest_zip, highest_zip]
  have hne : r.first.toList.zip r.last.toList ≠ [] := List.cons_ne_nil _ _
  obtain ⟨f, hf⟩ := exists_spanFragment true true _ hne hle
  have htiles := tiles_spanFragment true true _ f hf
  rw [lowest_zip, highest_zip] at htiles
  refine ⟨f, ?_, htiles.closed f (List.mem_singleton_self f), htiles.lang⟩
  rw [fragment, hf]

theorem fragment_range_of_lt {r : AddressRange} (h : r.last.value < r.first.value) :
    (range r).fragment = .error (.outOfOrder r.text) := by
  cases hspan : spanFragment true true (r.first.toList.zip r.last.toList) with
  | none => rw [fragment, hspan]
  | some f =>
    have hle := (tiles_spanFragment true true _ f hspan).lt
    rw [lowest_zip, highest_zip] at hle
    omega

/-- **Range exactness.** The pattern of a range is refused exactly if the range is out of order,
that is, empty. Otherwise it compiles, and the matcher accepts the texts of the addresses between
the bounds. -/
theorem range_accepts_iff (r : AddressRange) :
    ((range r).pattern = .error (.outOfOrder r.text) ↔ r.last.value < r.first.value) ∧
      (r.isEmpty = true ↔ r.last.value < r.first.value) ∧
      (r.first.value ≤ r.last.value → ∃ p m, (range r).pattern = .ok p ∧
        Matcher.compile .ascii p = .ok m ∧ ∀ input : String, m.accepts input = true ↔
          ∃ x : Address, input = x.text ∧ r.first.value ≤ x.value ∧ x.value ≤ r.last.value) := by
  refine ⟨?_, AddressRange.isEmpty_iff, ?_⟩
  · constructor
    · intro herror
      by_contra hle
      obtain ⟨f, hf, -⟩ := fragment_range_of_le (Nat.not_lt.mp hle)
      rw [pattern, hf] at herror
      cases herror
    · intro hlt
      rw [pattern, fragment_range_of_lt hlt]
      rfl
  · intro hle
    obtain ⟨f, hf, hclosed, hlang⟩ := fragment_range_of_le hle
    obtain ⟨m, hcompile, haccepts⟩ := exists_compile hclosed.1
    refine ⟨_, m, ?_, hcompile, ?_⟩
    · rw [pattern, hf]
      rfl
    · intro input
      rw [haccepts, hlang, mem_between_dottedOctets_iff r.last.value_lt]
      simp only [Nat.lt_succ_iff]

end Token

end IntervalRegex
