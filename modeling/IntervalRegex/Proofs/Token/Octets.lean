import IntervalRegex.Proofs.NumberRange
import IntervalRegex.Token.Pattern

/-!
# Dotted octets

The last octets of a number, written with dots between them: the notation of addresses has base 256
and the octet in front of the others is followed by a dot. An address is the four octets of its
value.
-/

namespace IntervalRegex

open Fragment Text

/-- The last `count` octets of a number. -/
def dottedOctets : (count : Nat) → Nat → List Char
  | 0, _ => []
  | 1, n => decimal (n % 256)
  | count + 2, n => decimal (n / 256 ^ (count + 1) % 256) ++ '.' :: dottedOctets (count + 1) n

/-- Octets in front do not matter. -/
theorem dottedOctets_add {count high : Nat} (h : count ≤ high) (d n : Nat) :
    dottedOctets count (d * 256 ^ high + n) = dottedOctets count n := by
  obtain ⟨k, rfl⟩ := Nat.exists_eq_add_of_le h
  fun_induction dottedOctets count n generalizing k with
  | case1 => rfl
  | case2 n =>
    have hpow : d * 256 ^ (1 + k) + n = n + 256 * (d * 256 ^ k) := by ring
    rw [dottedOctets, hpow, Nat.add_mul_mod_self_left]
  | case3 count n ih =>
    have hpow : d * 256 ^ (count + 2 + k) + n = n + 256 * (d * 256 ^ k) * 256 ^ (count + 1) := by
      ring
    have hoctet : (d * 256 ^ (count + 2 + k) + n) / 256 ^ (count + 1) % 256 =
        n / 256 ^ (count + 1) % 256 := by
      rw [hpow, Nat.add_mul_div_right _ _ (by positivity), Nat.add_mul_mod_self_left]
    have hrest : count + 2 + k = count + 1 + (k + 1) := by omega
    rw [dottedOctets, hoctet, hrest, ih (k + 1) (by omega)]

theorem leads_dottedOctets (count : Nat) :
    Leads (fun d => decimal d ++ ['.']) (dottedOctets (count + 1)) (dottedOctets (count + 2)) 256
      (256 ^ (count + 1)) := by
  intro d n hd hn
  have hoctet : (d * 256 ^ (count + 1) + n) / 256 ^ (count + 1) = d := by
    rw [Nat.add_comm, Nat.add_mul_div_right _ _ (by positivity), Nat.div_eq_of_lt hn,
      Nat.zero_add]
  rw [dottedOctets, dottedOctets_add (Nat.le_refl (count + 1)), hoctet, Nat.mod_eq_of_lt hd,
    List.append_assoc]
  rfl

/-- The octets that are written are all that is known of a number. -/
theorem mod_eq_of_dottedOctets_eq {count m n : Nat} (h : dottedOctets count m = dottedOctets count n) :
    m % 256 ^ count = n % 256 ^ count := by
  fun_induction dottedOctets count m with
  | case1 => simp only [pow_zero, Nat.mod_one]
  | case2 m => exact decimal_injective h
  | case3 count m ih =>
    have hdot : ∀ k, '.' ∉ decimal k := not_mem_decimal rfl
    have hcut := cut_eq_some_iff.mpr ⟨h, hdot _⟩
    rw [cut_eq_some_iff.mpr ⟨rfl, hdot _⟩, Option.some.injEq, Prod.mk.injEq] at hcut
    have hmod : ∀ k, k % 256 ^ (count + 2) =
        k % 256 ^ (count + 1) + 256 ^ (count + 1) * (k / 256 ^ (count + 1) % 256) :=
      fun k => Nat.mod_pow_succ
    rw [hmod, hmod, decimal_injective hcut.1, ih hcut.2]

theorem dottedOctets_injective {count m n : Nat} (hm : m < 256 ^ count) (hn : n < 256 ^ count)
    (h : dottedOctets count m = dottedOctets count n) : m = n := by
  rw [← Nat.mod_eq_of_lt hm, mod_eq_of_dottedOctets_eq h, Nat.mod_eq_of_lt hn]

theorem Address.chars_eq_dottedOctets (a : Address) : a.chars = dottedOctets 4 a.value := by
  obtain ⟨⟨a, ha⟩, ⟨b, hb⟩, ⟨c, hc⟩, ⟨d, hd⟩⟩ := a
  have hfirst : (256 * (256 * (256 * a + b) + c) + d) / 256 ^ 3 % 256 = a := by omega
  have hsecond : (256 * (256 * (256 * a + b) + c) + d) / 256 ^ 2 % 256 = b := by omega
  have hthird : (256 * (256 * (256 * a + b) + c) + d) / 256 ^ 1 % 256 = c := by omega
  have hfourth : (256 * (256 * (256 * a + b) + c) + d) % 256 = d := by omega
  simp only [dottedOctets, Address.value, hfirst, hsecond, hthird, hfourth]
  simp [Address.chars, Quad.toList, List.intercalate]

theorem mem_between_dottedOctets_iff {lo hi : Nat} (hhi : hi ≤ 4294967296) {input : String} :
    input.toList ∈ between (dottedOctets 4) lo hi ↔
      ∃ x : Address, input = x.text ∧ lo ≤ x.value ∧ x.value < hi := by
  rw [mem_between_iff]
  constructor
  · intro hinput
    obtain ⟨n, hlo, hn, hword⟩ := hinput
    have hvalue := Address.value_ofValue (Nat.lt_of_lt_of_le hn hhi)
    refine ⟨Address.ofValue n, ?_, by omega, by omega⟩
    rw [Address.text, Address.chars_eq_dottedOctets, hvalue, ← hword, String.ofList_toList]
  · intro hinput
    obtain ⟨x, rfl, hlo, hx⟩ := hinput
    refine ⟨x.value, hlo, hx, ?_⟩
    rw [Address.text, String.toList_ofList, Address.chars_eq_dottedOctets]

theorem mem_between_octets_iff {lo hi : Nat} (hhi : hi ≤ 256) {text : List Char} :
    text ∈ between decimal lo hi ↔
      ∃ octet : Octet, text = decimal octet.val ∧ lo ≤ octet.val ∧ octet.val < hi := by
  rw [mem_between_iff]
  constructor
  · intro htext
    obtain ⟨n, hlo, hn, rfl⟩ := htext
    exact ⟨⟨n, Nat.lt_of_lt_of_le hn hhi⟩, rfl, hlo, hn⟩
  · intro htext
    obtain ⟨octet, rfl, hlo, hoctet⟩ := htext
    exact ⟨octet.val, hlo, hoctet, rfl⟩

/-! ### Fragments -/

theorem lang_anyOctet : anyOctet.lang = between decimal 0 256 :=
  NumberRange.lang_fragment_naturals (Nat.zero_le 255) (by decide)

theorem anyOctet_closed : anyOctet.Closed :=
  NumberRange.fragment_naturals_closed (Nat.zero_le 255) (by decide)

theorem mem_lang_anyOctet_iff {text : List Char} :
    text ∈ anyOctet.lang ↔ ∃ octet : Octet, text = decimal octet.val := by
  rw [lang_anyOctet, mem_between_octets_iff (Nat.le_refl 256)]
  apply exists_congr
  intro octet
  exact and_iff_left ⟨Nat.zero_le _, octet.isLt⟩

theorem seq_dot_closed {first rest : Fragment} (hfirst : first.Closed) (hrest : rest.Closed) :
    (seq first (seq dot rest)).Closed := seq_closed hfirst (seq_closed ⟨trivial, rfl⟩ hrest)

/-- Octets between two in front of others, with the dot that belongs to them. -/
theorem lang_seq_dot {first rest : Fragment} {lo hi : Nat}
    (h : first.lang = between decimal lo hi) :
    (seq first (seq dot rest)).lang = between (fun d => decimal d ++ ['.']) lo hi * rest.lang := by
  rw [lang, lang, lang, h, ← mul_assoc, between_mul_singleton]

theorem lang_number_seq_dot (d : Nat) (rest : Fragment) :
    (seq (number d) (seq dot rest)).lang = {decimal d ++ ['.']} * rest.lang := by
  have hnumber : (number d).lang = between decimal d (d + 1) := by rw [lang_number, between_self]
  rw [lang_seq_dot hnumber, between_self]

end IntervalRegex
