import IntervalRegex.Regex.CharSet
import IntervalRegex.Regex.Fault

/-!
# Escapes and classes

Reading what follows a backslash, and what stands between brackets. Each reader returns what it read
and the characters it left. The escapes of word boundaries and of classes by property, such as `\b`
and `\p`, are unknown here.
-/

namespace IntervalRegex.Regex

inductive Escape
  | char (c : Char)
  /-- Two hexadecimal digits above `7F`. -/
  | byte (c : Char)
  | shorthand (kind : Shorthand) (negated : Bool)
  | textStart
  | textEnd
deriving DecidableEq, Repr

def hexDigit? (c : Char) : Option Nat :=
  if c.isDigit then some (c.toNat - '0'.toNat)
  else if 'a' ≤ c ∧ c ≤ 'f' then some (c.toNat - 'a'.toNat + 10)
  else if 'A' ≤ c ∧ c ≤ 'F' then some (c.toNat - 'A'.toNat + 10)
  else none

/-- The character with a code point, which must not be a surrogate. -/
def scalar (n : Nat) : Except Fault Char :=
  if n.isValidChar then .ok (Char.ofNat n) else .error .invalidHex

/-- Exactly `count` hexadecimal digits. -/
def readHex : (count value : Nat) → List Char → Except Fault (Nat × List Char)
  | 0, value, cs => .ok (value, cs)
  | _ + 1, _, [] => .error .unfinishedEscape
  | count + 1, value, c :: cs =>
    match hexDigit? c with
    | some digit => readHex count (16 * value + digit) cs
    | none => .error .invalidHexDigit

/-- Hexadecimal digits up to a closing brace. -/
def readBracedHex : (value : Nat) → List Char → Except Fault (Nat × List Char)
  | _, [] => .error .unfinishedEscape
  | value, '}' :: cs => .ok (value, cs)
  | value, c :: cs =>
    match hexDigit? c with
    | some digit => readBracedHex (16 * value + digit) cs
    | none => .error .invalidHexDigit

/-- What follows `x`, `u` or `U`: digits in braces, or exactly `count` of them. -/
def readCode (count : Nat) : List Char → Except Fault (Escape × List Char)
  | '{' :: '}' :: _ => .error .emptyHex
  | '{' :: cs => do
    let (value, rest) ← readBracedHex 0 cs
    return (.char (← scalar value), rest)
  | cs => do
    let (value, rest) ← readHex count 0 cs
    let c ← scalar value
    return (if count = 2 ∧ 128 ≤ value then .byte c else .char c, rest)

/-- Punctuation and controls of ASCII stand for themselves after a backslash. -/
def isEscapable (c : Char) : Bool :=
  c.toNat < 128 && !c.isAlphanum && c != '<' && c != '>'

/-- What follows a backslash. -/
def readEscape : List Char → Except Fault (Escape × List Char)
  | [] => .error .unfinishedEscape
  | 'd' :: cs => .ok (.shorthand .digit false, cs)
  | 'D' :: cs => .ok (.shorthand .digit true, cs)
  | 's' :: cs => .ok (.shorthand .blank false, cs)
  | 'S' :: cs => .ok (.shorthand .blank true, cs)
  | 'w' :: cs => .ok (.shorthand .word false, cs)
  | 'W' :: cs => .ok (.shorthand .word true, cs)
  | 'a' :: cs => .ok (.char '\x07', cs)
  | 'f' :: cs => .ok (.char '\x0c', cs)
  | 't' :: cs => .ok (.char '\t', cs)
  | 'n' :: cs => .ok (.char '\n', cs)
  | 'r' :: cs => .ok (.char '\r', cs)
  | 'v' :: cs => .ok (.char '\x0b', cs)
  | 'A' :: cs => .ok (.textStart, cs)
  | 'z' :: cs => .ok (.textEnd, cs)
  | 'x' :: cs => readCode 2 cs
  | 'u' :: cs => readCode 4 cs
  | 'U' :: cs => readCode 8 cs
  | c :: cs =>
    if c.isDigit then .error .backreference
    else if isEscapable c then .ok (.char c, cs)
    else .error .unknownEscape

/-- One end of a range, or a member of a class on its own. -/
def readMember : List Char → Except Fault (Escape × List Char)
  | [] => .error .unclosedClass
  | '\\' :: cs => readEscape cs
  | c :: cs => .ok (.char c, cs)

def Escape.item : Escape → Except Fault ClassItem
  | char c | byte c => .ok (.single c)
  | shorthand kind negated => .ok (.shorthand kind negated)
  | textStart | textEnd => .error .escapeOutsideClass

def rangeItem : Escape → Escape → Except Fault ClassItem
  | .char first, .char last | .char first, .byte last
  | .byte first, .char last | .byte first, .byte last =>
    if first ≤ last then .ok (.range first last) else .error .rangeOutOfOrder
  | _, _ => .error .rangeWithoutCharacters

/-- A member, or a range of two; a hyphen before the closing bracket or another hyphen makes no
range. -/
def readItem (cs : List Char) : Except Fault (ClassItem × List Char) := do
  let (first, rest) ← readMember cs
  match rest with
  | [] => .error .unclosedClass
  | ['-'] => .error .unclosedClass
  | '-' :: c :: more =>
    if c = ']' ∨ c = '-' then return (← first.item, rest)
    else
      let (last, rest) ← readMember (c :: more)
      return (← rangeItem first last, rest)
  | _ => return (← first.item, rest)

theorem readHex_length {count value : Nat} {cs : List Char} {v : Nat} {rest : List Char}
    (h : readHex count value cs = .ok (v, rest)) : rest.length ≤ cs.length := by
  fun_induction readHex count value cs with
  | case1 => simp_all
  | case2 => simp at h
  | case3 _ _ _ _ _ _ ih => have := ih h; simp; omega
  | case4 => simp at h

theorem readBracedHex_length {value : Nat} {cs : List Char} {v : Nat} {rest : List Char}
    (h : readBracedHex value cs = .ok (v, rest)) : rest.length ≤ cs.length := by
  fun_induction readBracedHex value cs with
  | case1 => simp at h
  | case2 => simp_all
  | case3 _ _ _ _ _ _ ih => have := ih h; simp; omega
  | case4 => simp at h

theorem readCode_length {count : Nat} {cs : List Char} {e : Escape} {rest : List Char}
    (h : readCode count cs = .ok (e, rest)) : rest.length ≤ cs.length := by
  unfold readCode at h
  split at h
  · simp at h
  · simp only [bind_eq_ok, pure_eq_ok, Prod.mk.injEq] at h
    obtain ⟨⟨value, rest'⟩, hread, c, -, -, rfl⟩ := h
    have := readBracedHex_length hread
    simp
    omega
  · simp only [bind_eq_ok, pure_eq_ok, Prod.mk.injEq] at h
    obtain ⟨⟨value, rest'⟩, hread, c, -, -, rfl⟩ := h
    exact readHex_length hread

theorem readEscape_length {cs : List Char} {e : Escape} {rest : List Char}
    (h : readEscape cs = .ok (e, rest)) : rest.length < cs.length := by
  unfold readEscape at h
  split at h
  case h_16 | h_17 | h_18 => exact Nat.lt_succ_of_le (readCode_length h)
  case h_19 =>
    split at h
    · simp at h
    · split at h <;> simp_all
  all_goals simp_all

theorem readMember_length {cs : List Char} {e : Escape} {rest : List Char}
    (h : readMember cs = .ok (e, rest)) : rest.length < cs.length := by
  unfold readMember at h
  split at h
  · simp at h
  · have := readEscape_length h
    simp
    omega
  · simp_all

theorem readItem_length {cs : List Char} {item : ClassItem} {rest : List Char}
    (h : readItem cs = .ok (item, rest)) : rest.length < cs.length := by
  unfold readItem at h
  obtain ⟨⟨first, more⟩, hfirst, h⟩ := bind_eq_ok.mp h
  have hmore := readMember_length hfirst
  dsimp only at h
  split at h
  · simp at h
  · simp at h
  · split at h
    · simp only [bind_eq_ok, pure_eq_ok, Prod.mk.injEq] at h
      obtain ⟨-, -, -, rfl⟩ := h
      exact hmore
    · simp only [bind_eq_ok, pure_eq_ok, Prod.mk.injEq] at h
      obtain ⟨⟨last, rest'⟩, hlast, -, -, -, rfl⟩ := h
      have := readMember_length hlast
      simp only [List.length_cons] at this hmore ⊢
      omega
  · simp only [bind_eq_ok, pure_eq_ok, Prod.mk.injEq] at h
    obtain ⟨-, -, -, rfl⟩ := h
    exact hmore

end IntervalRegex.Regex
