import IntervalRegex.Proofs.NumberRange.Single
import IntervalRegex.Proofs.Token.Network

/-!
# Blocks within the last octet

From 24 bits on, a block leaves open nothing but its last octet or a part of it. Its first and its
last address then share three octets, which the pattern of the block and the pattern of the range
both write out, and in the last place both come down to the same interval. A single address is the
case where this interval has one value.
-/

namespace IntervalRegex

open Fragment Text

/-! ### Dots in patterns -/

namespace Text

/-- Each dot with a backslash in front. -/
def escapeDots (cs : List Char) : List Char :=
  cs.flatMap fun c => if c = '.' then ['\\', '.'] else [c]

theorem escapeDots_append (cs more : List Char) :
    escapeDots (cs ++ more) = escapeDots cs ++ escapeDots more := List.flatMap_append

theorem escapeDots_of_not_mem {cs : List Char} (h : '.' ∉ cs) : escapeDots cs = cs := by
  induction cs with
  | nil => rfl
  | cons c cs ih =>
    rw [List.mem_cons, not_or] at h
    rw [escapeDots, List.flatMap_cons, if_neg (Ne.symm h.1), ← escapeDots, ih h.2]
    rfl

end Text

/-- What stands between the dots has none itself. -/
theorem dotted_eq_escapeDots {texts : List (List Char)} (h : ∀ text ∈ texts, '.' ∉ text) :
    dotted texts = escapeDots (['.'].intercalate texts) := by
  induction texts with
  | nil => rfl
  | cons first rest ih =>
    rw [List.forall_mem_cons] at h
    cases rest with
    | nil =>
      rw [dotted, List.intercalate_singleton, List.intercalate_singleton,
        escapeDots_of_not_mem h.1]
    | cons next rest =>
      rw [dotted] at ih ⊢
      rw [List.intercalate_cons_cons, List.intercalate_cons_cons, escapeDots_append,
        escapeDots_append, escapeDots_of_not_mem h.1, ih h.2]
      rfl

theorem escapeDots_chars (a : Address) :
    escapeDots a.chars = dotted (a.toList.map fun octet => decimal octet.val) := by
  rw [Address.chars, dotted_eq_escapeDots]
  intro text htext
  obtain ⟨octet, -, rfl⟩ := List.mem_map.mp htext
  exact not_mem_decimal rfl octet.val

/-! ### The last octet -/

theorem octetBlock_zero (value : Octet) : octetBlock value 0 = (0, 255) := by
  rw [octetBlock, Nat.one_shiftLeft, Nat.div_eq_of_lt value.isLt]

theorem octetBlock_all (value : Octet) : octetBlock value 8 = (value.val, value.val) := by
  rw [octetBlock, Nat.one_shiftLeft, Nat.sub_self, pow_zero, Nat.div_one, Nat.mul_one,
    Nat.add_zero]

/-- The pattern of an octet is that of the interval of octets with its leading bits, whether no bit
counts, some or all of them. -/
theorem Field.text_fragment_octet (value : Octet) (fixed : Nat) :
    ((Field.octet value).fragment fixed).text =
      (NumberRange.fragment (octetBlock value fixed).1 (octetBlock value fixed).2).text := by
  rw [Field.fragment]
  split
  · next hzero =>
    rw [hzero, octetBlock_zero]
    rfl
  · split
    · next hall =>
      rw [hall, octetBlock_all, text_number, NumberRange.text_fragment_self]
      rfl
    · rfl

/-- The interval of all octets. -/
example : anyOctet.text = "(?:\\d|[1-9]\\d|1\\d\x7b2\x7d|2(?:[0-4]\\d|5[0-5]))".toList := by
  decide +kernel

theorem div_mul_add {size base : Nat} (hsize : 0 < size) (h : size ∣ base) (n : Nat) :
    (base + n) / size * size = base + n / size * size := by
  obtain ⟨count, rfl⟩ := h
  rw [Nat.mul_add_div hsize, Nat.add_mul, Nat.mul_comm count]

/-- The block of an address keeps three octets, and behind them is the block of the last one. -/
theorem AddressRange.block_last (a : Address) {bits : Nat} (hlo : 24 ≤ bits) (hhi : bits ≤ 32) :
    ∃ lo hi : Octet, lo.val ≤ hi.val ∧ octetBlock a.fourth (bits - 24) = (lo.val, hi.val) ∧
      block a bits = some ⟨{ a with fourth := lo }, { a with fourth := hi }⟩ := by
  have hle := octetBlock_le a.fourth (bits - 24)
  have hlt := octetBlock_lt a.fourth (bits - 24)
  have hfree : 8 - (bits - 24) = 32 - bits := by omega
  have hsize : 0 < 2 ^ (32 - bits) := by positivity
  have hdvd : 2 ^ (32 - bits) ∣ 256 := Nat.pow_dvd_pow 2 (Nat.sub_le_sub_left hlo 32)
  refine ⟨⟨_, Nat.lt_of_le_of_lt hle hlt⟩, ⟨_, hlt⟩, hle, rfl, ?_⟩
  rw [block_eq_some_iff]
  simp only [octetBlock, Nat.one_shiftLeft, hfree, Address.value]
  refine ⟨hhi, ?_, (Nat.add_assoc _ _ _).symm⟩
  -- the octets in front are a multiple of the size
  rw [div_mul_add hsize (hdvd.mul_right _)]

/-! ### Three octets in front -/

theorem spanFragment_same (octet : Octet) (next : Octet × Octet) (rest : List (Octet × Octet)) :
    spanFragment true true ((octet, octet) :: next :: rest) =
      (spanFragment true true (next :: rest)).map fun tail =>
        seq (number octet.val) (seq dot tail) := by
  simp only [spanFragment, if_true, Nat.lt_irrefl, if_false]

theorem spanFragment_last {lo hi : Octet} (hle : lo.val ≤ hi.val) :
    spanFragment true true [(lo, hi)] = some (NumberRange.fragment lo.val hi.val) := by
  simp only [spanFragment, if_true, if_neg (Nat.not_lt.mpr hle)]

namespace Token

theorem fragment_range_last {first second third lo hi : Octet} (hle : lo.val ≤ hi.val) :
    (range ⟨⟨first, second, third, lo⟩, ⟨first, second, third, hi⟩⟩).fragment =
      .ok (dotSeparated [number first.val, number second.val, number third.val,
        NumberRange.fragment lo.val hi.val]) := by
  simp only [fragment, Quad.toList, List.zip_cons_cons, List.zip_nil_left, spanFragment_same,
    spanFragment_last hle, Option.map_some]
  rfl

theorem fragment_block_last (a : Address) {bits : Nat} (hlo : 24 ≤ bits) (hhi : bits ≤ 32) :
    (block (a.map .octet) bits).fragment =
      .ok (dotSeparated [number a.first.val, number a.second.val, number a.third.val,
        (Field.octet a.fourth).fragment (bits - 24)]) := by
  have hall : ∀ i < 3, fixedBits bits i = 8 := by
    intro i hi
    rw [fixedBits]
    omega
  have hlast : fixedBits bits 3 = bits - 24 := by
    rw [fixedBits]
    omega
  rw [fragment_block, blockFragments_octets, hall 0 (by decide), hall 1 (by decide),
    hall 2 (by decide), hlast]
  rfl

/-- A token whose pattern has the same three places in front and the same text in the last one has
the same pattern. -/
theorem pattern_eq_of_last {token other : Token} {first second third f g : Fragment}
    (htoken : token.fragment = .ok (dotSeparated [first, second, third, f]))
    (hother : other.fragment = .ok (dotSeparated [first, second, third, g]))
    (htext : f.text = g.text) : token.pattern = other.pattern := by
  rw [pattern, pattern, htoken, hother, Except.map, Except.map, text_dotSeparated,
    text_dotSeparated]
  simp only [List.map_cons, htext]

theorem pattern_block_eq_pattern_range (a : Address) {bits : Nat} (hlo : 24 ≤ bits)
    (hhi : bits ≤ 32) :
    ∃ r, AddressRange.block a bits = some r ∧
      (block (a.map .octet) bits).pattern = (range r).pattern := by
  obtain ⟨lo, hi, hle, hoctets, hr⟩ := AddressRange.block_last a hlo hhi
  have htext := Field.text_fragment_octet a.fourth (bits - 24)
  rw [hoctets] at htext
  exact ⟨_, hr, pattern_eq_of_last (fragment_block_last a hlo hhi) (fragment_range_last hle) htext⟩

theorem pattern_block_single (a : Address) :
    (block (a.map .octet) 32).pattern = .ok (String.ofList (escapeDots a.chars)) := by
  have hlast : ((Field.octet a.fourth).fragment (32 - 24)).text = decimal a.fourth.val :=
    text_number a.fourth.val
  rw [pattern, fragment_block_last a (by decide) (by decide), Except.map, text_dotSeparated,
    escapeDots_chars]
  simp only [List.map_cons, List.map_nil, text_number, hlast]
  rfl

theorem pattern_range_single (a : Address) :
    (range ⟨a, a⟩).pattern = .ok (String.ofList (escapeDots a.chars)) := by
  have htext := Field.text_fragment_octet a.fourth 8
  rw [octetBlock_all] at htext
  rw [← pattern_block_single]
  exact (pattern_eq_of_last (fragment_block_last a (by decide) (by decide))
    (fragment_range_last (Nat.le_refl _)) htext).symm

theorem read_single_range (a : Address) :
    read (a.text ++ "-" ++ a.text) = .ok (range ⟨a, a⟩) := by
  have htext : a.text ++ "-" ++ a.text = AddressRange.text ⟨a, a⟩ := by
    rw [← String.toList_inj]
    simp [AddressRange.text, AddressRange.chars, Address.text]
  rw [htext, read_text_range]

/-- **Same text.** From 24 bits on, an address with a number of bits behind it has, character by
character, the pattern of the range of its block. An address by itself, with all bits and as a range
of one has its own text for a pattern, with each dot escaped. -/
theorem block_range_same_text (a : Address) :
    (∀ bits, 24 ≤ bits → bits ≤ 32 → ∃ r p, AddressRange.block a bits = some r ∧
      (read (a.text ++ "/" ++ toString bits)).bind pattern = .ok p ∧
        (read r.text).bind pattern = .ok p) ∧
      ∀ input ∈ [a.text, a.text ++ "/32", a.text ++ "-" ++ a.text],
        (read input).bind pattern = .ok (String.ofList (escapeDots a.text.toList)) := by
  refine ⟨?_, ?_⟩
  · intro bits hlo hhi
    obtain ⟨r, hr, hsame⟩ := pattern_block_eq_pattern_range a hlo hhi
    rw [read_address_bits a ⟨by omega, hhi⟩]
    refine ⟨r, _, hr, rfl, ?_⟩
    rw [read_text_range, Except.bind, ← hsame]
    rfl
  · have hall : a.text ++ "/32" = a.text ++ "/" ++ toString 32 := by
      rw [String.append_assoc]
      rfl
    rw [Address.text, String.toList_ofList, ← Address.text, List.forall_mem_cons,
      List.forall_mem_cons, List.forall_mem_singleton, hall, read_address,
      read_address_bits a (by decide), read_single_range]
    exact ⟨pattern_block_single a, pattern_block_single a, pattern_range_single a⟩

/-- A quarter of the last octets, and one address. -/
theorem block_range_same_text_quarter :
    (∃ p, (read "192.168.7.77/26").bind pattern = .ok p ∧
        (read "192.168.7.64-192.168.7.127").bind pattern = .ok p) ∧
      (read "192.168.7.77").bind pattern = .ok "192\\.168\\.7\\.77" := by
  have hblock : Address.text ⟨192, 168, 7, 77⟩ ++ "/" ++ toString 26 = "192.168.7.77/26" := by
    decide +kernel
  have hrange : AddressRange.text ⟨⟨192, 168, 7, 64⟩, ⟨192, 168, 7, 127⟩⟩ =
      "192.168.7.64-192.168.7.127" := by
    decide +kernel
  have hsingle : Address.text ⟨192, 168, 7, 77⟩ = "192.168.7.77" := by decide +kernel
  have hdots : String.ofList (escapeDots "192.168.7.77".toList) = "192\\.168\\.7\\.77" := by
    decide +kernel
  obtain ⟨hbits, htexts⟩ := block_range_same_text ⟨192, 168, 7, 77⟩
  obtain ⟨r, p, hr, hp, hrp⟩ := hbits 26 (by decide) (by decide)
  obtain rfl : r = ⟨⟨192, 168, 7, 64⟩, ⟨192, 168, 7, 127⟩⟩ :=
    Option.some.inj (hr.symm.trans (by decide))
  have hpattern := htexts _ List.mem_cons_self
  rw [hblock] at hp
  rw [hrange] at hrp
  rw [hsingle, hdots] at hpattern
  exact ⟨⟨p, hp, hrp⟩, hpattern⟩

end Token

end IntervalRegex
