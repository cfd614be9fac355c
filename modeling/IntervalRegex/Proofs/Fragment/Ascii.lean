import IntervalRegex.Proofs.Fragment.Language

/-!
# Fragments over ASCII

Only `\d` tells the dialects apart, and only outside ASCII. So a fragment stands for the same ASCII
words in both dialects, and in the one of ASCII for no others.
-/

namespace IntervalRegex

def Text.IsAscii (text : List Char) : Prop := ∀ c ∈ text, c.toNat < 128

instance (text : List Char) : Decidable (Text.IsAscii text) :=
  List.decidableBAll (fun c : Char => c.toNat < 128) text

namespace Fragment

open Text

/-- The words of ASCII in a language. -/
def asciiPart (L : Language Char) : Language Char := {word | word ∈ L ∧ IsAscii word}

theorem mem_asciiPart_iff {L : Language Char} {word : List Char} :
    word ∈ asciiPart L ↔ word ∈ L ∧ IsAscii word := Iff.rfl

theorem asciiPart_eq_self {L : Language Char} (h : ∀ word ∈ L, IsAscii word) : asciiPart L = L := by
  ext word
  exact and_iff_left_of_imp (h word)

/-! ### Combinations -/

theorem asciiPart_one : asciiPart 1 = 1 := by
  apply asciiPart_eq_self
  rintro word rfl
  exact List.forall_mem_nil _

theorem asciiPart_add (L M : Language Char) : asciiPart (L + M) = asciiPart L + asciiPart M := by
  ext word
  exact or_and_right

theorem asciiPart_mul (L M : Language Char) : asciiPart (L * M) = asciiPart L * asciiPart M := by
  ext word
  constructor
  · intro hword
    obtain ⟨⟨u, hu, v, hv, rfl⟩, hascii⟩ := hword
    obtain ⟨huAscii, hvAscii⟩ := List.forall_mem_append.mp hascii
    exact ⟨u, ⟨hu, huAscii⟩, v, ⟨hv, hvAscii⟩, rfl⟩
  · intro hword
    obtain ⟨u, ⟨hu, huAscii⟩, v, ⟨hv, hvAscii⟩, rfl⟩ := hword
    exact ⟨⟨u, hu, v, hv, rfl⟩, List.forall_mem_append.mpr ⟨huAscii, hvAscii⟩⟩

theorem asciiPart_pow (L : Language Char) (count : Nat) :
    asciiPart (L ^ count) = asciiPart L ^ count := by
  induction count with
  | zero => rw [pow_zero, pow_zero, asciiPart_one]
  | succ count ih => rw [pow_succ, pow_succ, asciiPart_mul, ih]

/-! ### Digits -/

theorem toNat_lt_of_isDigit {c : Char} (h : c.isDigit = true) : c.toNat < 128 := by
  have hbounds : 48 ≤ c.toNat ∧ c.toNat ≤ 57 := Char.isDigit_iff_toNat.mp h
  omega

theorem mem_digit_iff {d : Dialect} {c : Char} (hc : c.toNat < 128) :
    Shorthand.digit.mem d c = true ↔ c.isDigit = true := by
  cases d with
  | ascii => rfl
  | unicode => rw [Shorthand.mem, isDecimalDigit, if_pos hc]

theorem asciiPart_digitIn (d : Dialect) : asciiPart (digitIn d) = oneDigit 0 9 := by
  rw [← digitIn_ascii]
  ext word
  constructor
  · intro hword
    obtain ⟨⟨c, hdigit, rfl⟩, hascii⟩ := hword
    have hc : c.toNat < 128 := hascii c (List.mem_singleton_self c)
    exact ⟨c, (mem_digit_iff hc).mp hdigit, rfl⟩
  · intro hword
    obtain ⟨c, hdigit, rfl⟩ := hword
    have hc := toNat_lt_of_isDigit hdigit
    exact ⟨⟨c, (mem_digit_iff hc).mpr hdigit, rfl⟩, List.forall_mem_singleton.mpr hc⟩

theorem asciiPart_oneDigit (lo : Nat) {hi : Nat} (hhi : hi < 10) :
    asciiPart (oneDigit lo hi) = oneDigit lo hi := by
  apply asciiPart_eq_self
  intro word hword
  obtain ⟨n, -, hn, rfl⟩ := hword
  have hdigit : n.digitChar.isDigit = true := isDigit_digitChar (Nat.lt_of_le_of_lt hn hhi)
  exact List.forall_mem_singleton.mpr (toNat_lt_of_isDigit hdigit)

theorem asciiPart_singleton {c : Char} (h : c.toNat < 128) :
    asciiPart ({[c]} : Language Char) = {[c]} := by
  apply asciiPart_eq_self
  rintro word rfl
  exact List.forall_mem_singleton.mpr h

/-- **ASCII words.** What a fragment stands for within ASCII does not depend on the dialect, and it
is all that the fragment stands for in the dialect of ASCII. -/
theorem asciiPart_langIn {f : Fragment} (h : f.WellFormed) (d : Dialect) :
    asciiPart (f.langIn d) = f.lang := by
  induction f with
  | nothing => exact asciiPart_one
  | digit value => exact asciiPart_oneDigit value h
  | minus | dot => exact asciiPart_singleton (by decide)
  | anyDigit => exact asciiPart_digitIn d
  | anyDigits count => rw [langIn, asciiPart_pow, asciiPart_digitIn, lang]
  | pair first second =>
    calc asciiPart ((pair first second).langIn d)
        = asciiPart (oneDigit first first) + asciiPart (oneDigit second second) :=
          asciiPart_add _ _
      _ = oneDigit first first + oneDigit second second := by
          rw [asciiPart_oneDigit first (Nat.lt_trans h.1 h.2), asciiPart_oneDigit second h.2]
  | digits first last => exact asciiPart_oneDigit first h.2
  | seq first second ihFirst ihSecond =>
    rw [langIn, asciiPart_mul, ihFirst h.1.1, ihSecond h.2.1, lang]
  | bar left right ihLeft ihRight =>
    rw [langIn, asciiPart_add, ihLeft h.1.1, ihRight h.2, lang]
  | group body ih => exact ih h.1

end Fragment

end IntervalRegex
