import IntervalRegex.Fragment
import IntervalRegex.Regex.CharSet
import Mathlib.Computability.Language

/-!
# The language of a fragment

What a fragment stands for, read off the tree and not off its text, and the fragments whose text can
be read back: a class names different digits in order, a repetition has a count that can be written,
and alternatives stand in groups.
-/

namespace IntervalRegex.Fragment

/-- The texts of one digit between two, both included. -/
def oneDigit (lo hi : Nat) : Language Char := {word | ∃ n, lo ≤ n ∧ n ≤ hi ∧ word = [n.digitChar]}

def lang : Fragment → Language Char
  | nothing => 1
  | digit value => oneDigit value value
  | minus => {['-']}
  | dot => {['.']}
  | anyDigit => oneDigit 0 9
  | anyDigits count => oneDigit 0 9 ^ count
  | pair first second => oneDigit first first + oneDigit second second
  | digits first last => oneDigit first last
  | seq first second => first.lang * second.lang
  | bar left right => left.lang + right.lang
  | group body => body.lang

/-- The texts of one character that a dialect counts as a digit. -/
def digitIn (d : Dialect) : Language Char :=
  {word | ∃ c, Shorthand.digit.mem d c = true ∧ word = [c]}

/-- What a fragment stands for in a dialect: only `\d` depends on it. -/
def langIn (d : Dialect) : Fragment → Language Char
  | anyDigit => digitIn d
  | anyDigits count => digitIn d ^ count
  | seq first second => first.langIn d * second.langIn d
  | bar left right => left.langIn d + right.langIn d
  | group body => body.langIn d
  | fragment => fragment.lang

/-- Alternatives that stand in no group yet. -/
def isBar : Fragment → Bool
  | bar _ _ => true
  | _ => false

/-- Only groups hold alternatives, so that whatever stands beside a fragment leaves it whole. -/
def WellFormed : Fragment → Prop
  | nothing | minus | dot | anyDigit => True
  | digit value => value < 10
  | anyDigits count => 2 ≤ count ∧ count < 1 <<< 32
  | pair first second | digits first second => first < second ∧ second < 10
  | seq first second =>
    (first.WellFormed ∧ first.isBar = false) ∧ second.WellFormed ∧ second.isBar = false
  | bar left right => (left.WellFormed ∧ left.isBar = false) ∧ right.WellFormed
  | group body => body.WellFormed ∧ body.isBar = true

/-- A fragment that may stand beside any other. -/
def Closed (f : Fragment) : Prop := f.WellFormed ∧ f.isBar = false

theorem mem_oneDigit_iff {lo hi : Nat} {word : List Char} :
    word ∈ oneDigit lo hi ↔ ∃ n, lo ≤ n ∧ n ≤ hi ∧ word = [n.digitChar] := Iff.rfl

theorem oneDigit_self (value : Nat) : oneDigit value value = {[value.digitChar]} := by
  ext word
  rw [mem_oneDigit_iff]
  constructor
  · intro hword
    obtain ⟨n, hlo, hhi, rfl⟩ := hword
    obtain rfl := Nat.le_antisymm hhi hlo
    rfl
  · intro hword
    exact ⟨value, Nat.le_refl value, Nat.le_refl value, hword⟩

/-- The digits in order are the characters in order. -/
theorem exists_digitChar_iff {lo hi : Nat} (hhi : hi < 10) {c : Char} :
    (∃ n, lo ≤ n ∧ n ≤ hi ∧ c = n.digitChar) ↔ 48 + lo ≤ c.toNat ∧ c.toNat ≤ 48 + hi := by
  constructor
  · intro hword
    obtain ⟨n, hlo, hle, rfl⟩ := hword
    rw [Nat.toNat_digitChar_of_lt_ten (by omega)]
    omega
  · intro hc
    obtain ⟨hlo, hle⟩ := hc
    refine ⟨c.toNat - 48, by omega, by omega, ?_⟩
    rw [← Char.toNat_inj, Nat.toNat_digitChar_of_lt_ten (by omega)]
    omega

theorem isDigit_iff {c : Char} : c.isDigit = true ↔ ∃ n, 0 ≤ n ∧ n ≤ 9 ∧ c = n.digitChar := by
  rw [exists_digitChar_iff (by decide)]
  simp only [Char.isDigit, Char.toNat, Bool.and_eq_true, decide_eq_true_eq, ge_iff_le,
    UInt32.le_iff_toNat_le]
  rfl

theorem isDigit_digitChar {n : Nat} (h : n < 10) : n.digitChar.isDigit = true :=
  isDigit_iff.mpr ⟨n, Nat.zero_le n, Nat.le_of_lt_succ h, rfl⟩

theorem digitIn_ascii : digitIn .ascii = oneDigit 0 9 := by
  ext word
  constructor
  · intro hword
    obtain ⟨c, hc, rfl⟩ := hword
    obtain ⟨n, hlo, hhi, rfl⟩ := isDigit_iff.mp hc
    exact ⟨n, hlo, hhi, rfl⟩
  · intro hword
    obtain ⟨n, hlo, hhi, rfl⟩ := hword
    exact ⟨n.digitChar, isDigit_iff.mpr ⟨n, hlo, hhi, rfl⟩, rfl⟩

theorem langIn_ascii (f : Fragment) : f.langIn .ascii = f.lang := by
  induction f with
  | nothing | digit | minus | dot | pair | digits => rfl
  | anyDigit | anyDigits => rw [langIn, digitIn_ascii, lang]
  | seq first second ih₁ ih₂ => rw [langIn, ih₁, ih₂, lang]
  | bar left right ih₁ ih₂ => rw [langIn, ih₁, ih₂, lang]
  | group body ih => rw [langIn, ih, lang]

/-! ### Combinations -/

theorem bars_wellFormed {first : Fragment} {rest : List Fragment} (hfirst : first.Closed)
    (hrest : ∀ f ∈ rest, f.Closed) : (bars first rest).WellFormed := by
  induction rest generalizing first with
  | nil => exact hfirst.1
  | cons second rest ih =>
    rw [List.forall_mem_cons] at hrest
    exact ⟨hfirst, ih hrest.1 hrest.2⟩

theorem oneOf_closed {fragments : List Fragment} (h : ∀ f ∈ fragments, f.Closed) :
    (oneOf fragments).Closed := by
  match fragments with
  | [] => exact ⟨trivial, rfl⟩
  | [f] => exact h f (List.mem_singleton_self f)
  | first :: second :: rest =>
    rw [List.forall_mem_cons] at h
    exact ⟨⟨bars_wellFormed h.1 h.2, rfl⟩, rfl⟩

theorem seq_closed {first second : Fragment} (hfirst : first.Closed) (hsecond : second.Closed) :
    (seq first second).Closed := ⟨⟨hfirst, hsecond⟩, rfl⟩

theorem dotSeparated_closed {fragments : List Fragment} (h : ∀ f ∈ fragments, f.Closed) :
    (dotSeparated fragments).Closed := by
  fun_induction dotSeparated fragments with
  | case1 => exact ⟨trivial, rfl⟩
  | case2 f => exact h f (List.mem_singleton_self f)
  | case3 first second rest ih =>
    rw [List.forall_mem_cons] at h
    exact seq_closed h.1 (seq_closed ⟨trivial, rfl⟩ (ih h.2))

theorem number_closed (n : Nat) : (number n).Closed := by
  fun_induction number n with
  | case1 n hn => exact ⟨hn, rfl⟩
  | case2 n hn ih => exact seq_closed ih ⟨Nat.mod_lt n (by decide), rfl⟩

theorem mem_langIn_bars_iff {d : Dialect} {first : Fragment} {rest : List Fragment}
    {word : List Char} :
    word ∈ (bars first rest).langIn d ↔ ∃ f ∈ first :: rest, word ∈ f.langIn d := by
  induction rest generalizing first with
  | nil => simp [bars]
  | cons second rest ih =>
    simp only [bars, langIn, Language.mem_add, ih, List.exists_mem_cons_iff]

/-- A choice matches what one of its members matches. -/
theorem mem_langIn_oneOf_iff {d : Dialect} {fragments : List Fragment} (hne : fragments ≠ [])
    {word : List Char} :
    word ∈ (oneOf fragments).langIn d ↔ ∃ f ∈ fragments, word ∈ f.langIn d := by
  match fragments, hne with
  | [f], _ => simp [oneOf]
  | first :: second :: rest, _ => rw [oneOf, langIn, mem_langIn_bars_iff]

theorem mem_lang_oneOf_iff {fragments : List Fragment} (hne : fragments ≠ []) {word : List Char} :
    word ∈ (oneOf fragments).lang ↔ ∃ f ∈ fragments, word ∈ f.lang := by
  rw [← langIn_ascii, mem_langIn_oneOf_iff hne]
  simp only [langIn_ascii]

theorem mem_lang_seq_iff {first second : Fragment} {word : List Char} :
    word ∈ (seq first second).lang ↔ ∃ u ∈ first.lang, ∃ v ∈ second.lang, u ++ v = word := by
  rw [lang, Language.mem_mul]

/-- Each place is matched by its fragment, and dots stand between the places. -/
theorem mem_lang_dotSeparated_iff {fragments : List Fragment} {text : List Char} :
    text ∈ (dotSeparated fragments).lang ↔ ∃ words : List (List Char),
      List.Forall₂ (fun f word => word ∈ f.lang) fragments words ∧
        text = ['.'].intercalate words := by
  fun_induction dotSeparated fragments generalizing text with
  | case1 =>
    simp only [List.forall₂_nil_left_iff, exists_eq_left, lang, Language.mem_one]
    rfl
  | case2 f =>
    simp only [List.forall₂_cons_left_iff, List.forall₂_nil_left_iff]
    constructor
    · intro htext
      exact ⟨[text], ⟨text, [], htext, rfl, rfl⟩, by simp [List.intercalate]⟩
    · intro htext
      obtain ⟨-, ⟨word, -, hword, rfl, rfl⟩, rfl⟩ := htext
      simpa [List.intercalate] using hword
  | case3 first second rest ih =>
    rw [mem_lang_seq_iff]
    constructor
    · intro htext
      obtain ⟨word, hword, tail, htail, rfl⟩ := htext
      obtain ⟨-, rfl, more, hmore, rfl⟩ := mem_lang_seq_iff.mp htail
      obtain ⟨words, hwords, rfl⟩ := ih.mp hmore
      refine ⟨word :: words, .cons hword hwords, ?_⟩
      cases hwords
      simp [List.intercalate]
    · intro htext
      obtain ⟨words, hwords, rfl⟩ := htext
      obtain ⟨word, words, hword, hrest, rfl⟩ := List.forall₂_cons_left_iff.mp hwords
      refine ⟨word, hword, '.' :: ['.'].intercalate words, ?_, ?_⟩
      · exact mem_lang_seq_iff.mpr ⟨['.'], rfl, _, ih.mpr ⟨words, hrest, rfl⟩, rfl⟩
      · cases hrest
        simp [List.intercalate]

theorem lang_number (n : Nat) : (number n).lang = {Text.decimal n} := by
  fun_induction number n with
  | case1 n hn => rw [lang, oneDigit_self, Text.decimal_of_lt hn]
  | case2 n hn ih =>
    ext word
    rw [mem_lang_seq_iff, ih, lang, oneDigit_self, Text.decimal_of_le (Nat.not_lt.mp hn)]
    constructor
    · intro hword
      obtain ⟨u, rfl, v, rfl, rfl⟩ := hword
      rfl
    · intro hword
      exact ⟨_, rfl, _, rfl, hword.symm⟩

end IntervalRegex.Fragment
