import IntervalRegex.Proofs.NumberRange.Choice
import IntervalRegex.Proofs.NumberRange.Unambiguous
import IntervalRegex.Proofs.Token.Range

/-!
# Address ranges match in one way

The branches of a span stand for intervals of values that follow each other, so they exclude each
other at every octet. An octet ends at the dot behind it, which leaves one way to cut a text. With the
ranges of numbers this gives that no two alternatives of a generated pattern overlap.
-/

namespace IntervalRegex

open Fragment Text

/-! ### Octets with a dot behind them -/

namespace Fragment

theorem dot_not_mem_of_mem_between {lo hi : Nat} {word : List Char}
    (h : word ∈ between decimal lo hi) : '.' ∉ word := by
  obtain ⟨n, -, -, rfl⟩ := h
  exact not_mem_decimal rfl n

theorem seq_dot_unambiguous {first rest : Fragment} {lo hi : Nat} (hfirst : first.Unambiguous)
    (hrest : rest.Unambiguous) (hlang : first.lang = between decimal lo hi) :
    (seq first (seq dot rest)).Unambiguous := by
  refine ⟨hfirst, ⟨trivial, hrest, cutsOnce_singleton ['.'] _⟩, ?_⟩
  rw [hlang]
  apply cutsOnce_of_separator fun _ => dot_not_mem_of_mem_between
  intro text htext
  obtain ⟨-, rfl, v, -, rfl⟩ := mem_lang_seq_iff.mp htext
  exact ⟨v, rfl⟩

theorem number_unambiguous (n : Nat) : (number n).Unambiguous := by
  fun_induction number n with
  | case1 => trivial
  | case2 n _ ih =>
    refine ⟨ih, trivial, ?_⟩
    rw [lang_number]
    exact cutsOnce_singleton _ _

theorem number_seq_dot_unambiguous (d : Nat) {rest : Fragment} (hrest : rest.Unambiguous) :
    (seq (number d) (seq dot rest)).Unambiguous := by
  have hnumber : (number d).lang = between decimal d (d + 1) := by rw [lang_number, between_self]
  exact seq_dot_unambiguous (number_unambiguous d) hrest hnumber

theorem octets_seq_dot_unambiguous {lo hi : Nat} (hle : lo ≤ hi) (hhi : hi < 256) {rest : Fragment}
    (hrest : rest.Unambiguous) :
    (seq (NumberRange.fragment lo hi) (seq dot rest)).Unambiguous :=
  seq_dot_unambiguous (NumberRange.fragment_naturals_unambiguous hle (by omega)) hrest
    (NumberRange.lang_fragment_naturals hle (by omega))

theorem free_unambiguous (pair : Octet × Octet) (pairs : List (Octet × Octet)) :
    (dotSeparated ((pair :: pairs).map fun _ => anyOctet)).Unambiguous := by
  induction pairs generalizing pair with
  | nil => exact NumberRange.fragment_naturals_unambiguous (Nat.zero_le 255) (by decide)
  | cons next pairs ih => exact octets_seq_dot_unambiguous (Nat.zero_le 255) (by decide) (ih next)

end Fragment

/-! ### Spans -/

/-- By induction along the octets: the branches of one octet tile the values of the span. -/
theorem spanFragment_unambiguous (lowBinds highBinds : Bool) (pairs : List (Octet × Octet)) :
    ∀ f, spanFragment lowBinds highBinds pairs = some f → f.Unambiguous := by
  fun_induction spanFragment lowBinds highBinds pairs with
  | case1 | case2 | case4 | case7 =>
    intro f hf
    cases hf
  | case3 lowBinds highBinds low high lo hi hge =>
    intro f hf
    obtain rfl := Option.some.inj hf
    have hhi : hi < 256 := highOctet_lt highBinds (low, high)
    exact NumberRange.fragment_naturals_unambiguous (Nat.not_lt.mp hge) (by omega)
  | case5 lowBinds highBinds low high next rest lo hi hge heq ih =>
    intro f hf
    obtain ⟨tail, htail, rfl⟩ := Option.map_eq_some_iff.mp hf
    exact number_seq_dot_unambiguous lo (ih tail htail)
  | case6 lowBinds highBinds low high next rest lo hi hge hne lowTail highTail hhighTail hlowTail
      free interior ihLow ihHigh =>
    intro f hf
    obtain rfl := Option.some.inj hf
    have hlo : lowOctet lowBinds (low, high) = lo := rfl
    have hhi : highOctet highBinds (low, high) = hi := rfl
    have hoctet : hi < 256 := highOctet_lt highBinds (low, high)
    have htiles := tiles_spanBranches hlo hhi (by omega)
      (tiles_spanFragment _ _ _ lowTail hlowTail) (tiles_spanFragment _ _ _ highTail hhighTail)
    have hbound := highest_lt highBinds ((low, high) :: next :: rest)
    have hexclusive := htiles.exclusive fun m n hm hn =>
      dottedOctets_injective (Nat.lt_of_lt_of_le hm hbound) (Nat.lt_of_lt_of_le hn hbound)
    apply hexclusive.oneOf_unambiguous
    rw [List.forall_mem_append, List.forall_mem_append, List.forall_mem_singleton,
      List.forall_mem_singleton]
    refine ⟨⟨number_seq_dot_unambiguous lo (ihLow lowTail hlowTail), ?_⟩,
      number_seq_dot_unambiguous hi (ihHigh highTail hhighTail)⟩
    intro f hf
    obtain ⟨hsome, hf⟩ := List.mem_ite_nil_right.mp hf
    obtain rfl := List.mem_singleton.mp hf
    have hpred : (hi : Int) - 1 = ((hi - 1 : Nat) : Int) := by omega
    rw [hpred]
    exact octets_seq_dot_unambiguous (Nat.le_sub_one_of_lt hsome) (by omega)
      (free_unambiguous next rest)

theorem Token.fragment_range_eq_ok_iff {r : AddressRange} {f : Fragment} :
    (Token.range r).fragment = .ok f ↔
      spanFragment true true (r.first.toList.zip r.last.toList) = some f := by
  rw [Token.fragment]
  cases spanFragment true true (r.first.toList.zip r.last.toList) with
  | none => simp
  | some g => simp

theorem spanFragment_exclusive {lowBinds highBinds : Bool} {pairs : List (Octet × Octet)}
    {f : Fragment} (h : spanFragment lowBinds highBinds pairs = some f) :
    oneOf f.alternatives = f ∧ ExclusivePatterns f.alternatives := by
  have hclosed : f.Closed :=
    (tiles_spanFragment lowBinds highBinds pairs f h).closed f (List.mem_singleton_self f)
  have honce := spanFragment_unambiguous lowBinds highBinds pairs f h
  exact ⟨oneOf_alternatives hclosed.1, honce.exclusive_alternatives hclosed.1⟩

/-- **No alternatives overlap.** For an interval of 64-bit integers that is in order, the
alternatives of both signs and all widths exclude each other, and so do those of every split that is
made on the way. So do the branches of a span at every octet, and a range of addresses that is in
order is such a span. In both patterns the alternatives of each group exclude each other, and an
accepted text is matched in one way: one alternative is taken in each group that is passed. -/
theorem alternatives_never_overlap :
    (∀ min max : Int64, min.toInt ≤ max.toInt →
      ExclusivePatterns (NumberRange.pieces min.toInt max.toInt) ∧
        (∀ tail lo hi, NumberRange.Splits min.toInt max.toInt tail lo hi →
          ExclusivePatterns (NumberRange.split tail lo hi)) ∧
        (NumberRange.fragment min.toInt max.toInt).MatchesOnce) ∧
      (∀ lowBinds highBinds pairs f, spanFragment lowBinds highBinds pairs = some f →
        oneOf f.alternatives = f ∧ ExclusivePatterns f.alternatives) ∧
      ∀ r : AddressRange, r.first.value ≤ r.last.value →
        ∃ f, spanFragment true true (r.first.toList.zip r.last.toList) = some f ∧
          (Token.range r).fragment = .ok f ∧ f.MatchesOnce := by
  refine ⟨?_, fun _ _ _ _ => spanFragment_exclusive, ?_⟩
  · intro min max hle
    have hmin := NumberRange.length_decimal_toInt_le min
    have hmax := NumberRange.length_decimal_toInt_le max
    refine ⟨NumberRange.pieces_exclusivePatterns hle hmin hmax, ?_, ?_⟩
    · intro tail lo hi hsplit
      exact hsplit.exclusivePatterns hmin hmax
    · exact (NumberRange.fragment_unambiguous hle hmin hmax).matchesOnce
        (NumberRange.fragment_closed hle hmin hmax)
  · intro r hle
    obtain ⟨f, hf, hclosed, -⟩ := Token.fragment_range_of_le hle
    have hspan := Token.fragment_range_eq_ok_iff.mp hf
    have honce := spanFragment_unambiguous true true _ f hspan
    exact ⟨f, hspan, hf, honce.matchesOnce hclosed⟩

/-- Both signs and two widths, and a span of three branches in its third octet. -/
theorem alternatives_never_overlap_span :
    ExclusivePatterns (NumberRange.pieces (-11) 17) ∧
      ∃ f, (Token.range ⟨⟨10, 0, 0, 254⟩, ⟨10, 0, 2, 1⟩⟩).fragment = .ok f ∧ f.MatchesOnce ∧
        ExclusivePatterns f.alternatives := by
  obtain ⟨hinterval, hspan, hrange⟩ := alternatives_never_overlap
  obtain ⟨f, hf, hfragment, honce⟩ := hrange ⟨⟨10, 0, 0, 254⟩, ⟨10, 0, 2, 1⟩⟩ (by decide)
  exact ⟨(hinterval (-11) 17 (by decide)).1, f, hfragment, honce, (hspan true true _ f hf).2⟩

/-- The branches of the third octet, and inside them the fourth octet where it is free. -/
example : ((Token.range ⟨⟨10, 0, 0, 254⟩, ⟨10, 0, 2, 1⟩⟩).fragment.map fun f =>
    f.groups.map (List.map fun g => String.ofList g.text)) =
      .ok [["0\\.25[45]", "1\\.(?:\\d|[1-9]\\d|1\\d{2}|2(?:[0-4]\\d|5[0-5]))", "2\\.[01]"],
        ["\\d", "[1-9]\\d", "1\\d{2}", "2(?:[0-4]\\d|5[0-5])"], ["[0-4]\\d", "5[0-5]"]] := by
  decide +kernel

end IntervalRegex
