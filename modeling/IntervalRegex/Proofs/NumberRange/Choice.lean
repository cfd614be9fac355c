import IntervalRegex.Proofs.NumberRange

/-!
# Several intervals side by side

The patterns of several intervals, joined as alternatives, accept the members of all of them. An
empty interval has the empty pattern, which is no neutral alternative: it stands for the empty text,
so the choice accepts that too as soon as one of the intervals is empty.
-/

namespace IntervalRegex.NumberRange

open Fragment Text

/-- The patterns of intervals, each given by its bounds, as alternatives. -/
def choice (intervals : List (Int64 × Int64)) : String :=
  String.ofList (alternate (intervals.map fun (min, max) =>
    (pattern min.toInt max.toInt).toList))

def fragments (intervals : List (Int64 × Int64)) : List Fragment :=
  intervals.map fun (min, max) => fragment min.toInt max.toInt

theorem choice_eq_text (intervals : List (Int64 × Int64)) :
    choice intervals = String.ofList (oneOf (fragments intervals)).text := by
  rw [choice, text_oneOf, fragments, List.map_map]
  simp only [pattern, String.toList_ofList]
  rfl

theorem length_decimal_toInt_le (n : Int64) : (decimal n.toInt.natAbs).length ≤ 1 <<< 32 := by
  have hlo := n.le_toInt
  have hhi := n.toInt_lt
  exact length_decimal_le (by omega)

theorem fragment_toInt_closed (min max : Int64) : (fragment min.toInt max.toInt).Closed := by
  rcases Int.lt_or_le max.toInt min.toInt with hlt | hle
  · rw [fragment_of_lt hlt]
    exact ⟨trivial, rfl⟩
  · exact fragment_closed hle (length_decimal_toInt_le min) (length_decimal_toInt_le max)

theorem mem_lang_fragment_toInt_iff (min max : Int64) {text : List Char} :
    text ∈ (fragment min.toInt max.toInt).lang ↔
      (∃ n, min.toInt ≤ n ∧ n ≤ max.toInt ∧ text = signedDecimal n) ∨
        max.toInt < min.toInt ∧ text = [] := by
  rcases Int.lt_or_le max.toInt min.toInt with hlt | hle
  · rw [fragment_of_lt hlt, lang, Language.mem_one]
    constructor
    · exact fun htext => .inr ⟨hlt, htext⟩
    · intro htext
      rcases htext with ⟨n, hlo, hhi, -⟩ | ⟨-, htext⟩
      · omega
      · exact htext
  · rw [mem_lang_fragment_iff hle (length_decimal_toInt_le min) (length_decimal_toInt_le max)]
    constructor
    · exact .inl
    · intro htext
      rcases htext with hmember | ⟨hlt, -⟩
      · exact hmember
      · omega

theorem fragments_closed (intervals : List (Int64 × Int64)) :
    ∀ f ∈ fragments intervals, f.Closed := by
  intro f hf
  obtain ⟨⟨min, max⟩, -, rfl⟩ := List.mem_map.mp hf
  exact fragment_toInt_closed min max

/-- Without any interval there is the empty alternative only. -/
theorem mem_lang_choice_iff (intervals : List (Int64 × Int64)) {text : List Char} :
    text ∈ (oneOf (fragments intervals)).lang ↔
      (∃ interval ∈ intervals, ∃ n, interval.1.toInt ≤ n ∧ n ≤ interval.2.toInt ∧
        text = signedDecimal n) ∨
      text = [] ∧ (intervals = [] ∨
        ∃ interval ∈ intervals, interval.2.toInt < interval.1.toInt) := by
  by_cases hnil : intervals = []
  · subst hnil
    simp [fragments, oneOf, lang, Language.mem_one]
  · have hne : fragments intervals ≠ [] := by simpa [fragments] using hnil
    rw [mem_lang_oneOf_iff hne]
    simp only [fragments, List.mem_map, exists_exists_and_eq_and, mem_lang_fragment_toInt_iff]
    constructor
    · intro htext
      obtain ⟨interval, hmem, hmember | ⟨hempty, rfl⟩⟩ := htext
      · exact .inl ⟨interval, hmem, hmember⟩
      · exact .inr ⟨rfl, .inr ⟨interval, hmem, hempty⟩⟩
    · intro htext
      rcases htext with ⟨interval, hmem, hmember⟩ | ⟨rfl, hempty⟩
      · exact ⟨interval, hmem, .inl hmember⟩
      · obtain ⟨interval, hmem, hlt⟩ := hempty.resolve_left hnil
        exact ⟨interval, hmem, .inr ⟨hlt, rfl⟩⟩

/-- **Intervals side by side.** The choice compiles whatever the intervals are. The matcher accepts
the decimals of their members, and the empty text exactly if one of the intervals is empty or there
is none. -/
theorem choice_accepts_iff (intervals : List (Int64 × Int64)) :
    ∃ m, Matcher.compile .ascii (choice intervals) = .ok m ∧ ∀ input : String,
      m.accepts input = true ↔
        (∃ interval ∈ intervals, ∃ n : Int, interval.1.toInt ≤ n ∧ n ≤ interval.2.toInt ∧
          input = toString n) ∨
        input = "" ∧ (intervals = [] ∨
          ∃ interval ∈ intervals, interval.2.toInt < interval.1.toInt) := by
  obtain ⟨m, hcompile, haccepts⟩ := exists_compile (oneOf_closed (fragments_closed intervals)).1
  rw [← choice_eq_text] at hcompile
  refine ⟨m, hcompile, ?_⟩
  intro input
  rw [haccepts, mem_lang_choice_iff, String.toList_eq_nil_iff]
  simp only [toString_eq_signedDecimal, ← String.toList_inj, String.toList_ofList]

/-- Beside the interval from 5 to 5 the empty one from 10 to 0 lets the empty text in. -/
theorem choice_empty_not_neutral :
    (Matcher.compile .ascii (choice [(5, 5)])).map (fun m => m.accepts "") = .ok false ∧
      (Matcher.compile .ascii (choice [(10, 0), (5, 5)])).map (fun m => m.accepts "") =
        .ok true := by
  decide +kernel

end IntervalRegex.NumberRange
