import IntervalRegex.Regex.Basic
import IntervalRegex.Regex.Escape
import IntervalRegex.Text.Decimal

/-!
# Lexemes

The text of a regular expression is cut into lexemes: whole atoms, the two ends of a group, the bar
between branches, and repetition counts. Each lexeme reads at least one character. Classes inside
classes, set operations and flags have no lexemes: each of them is a fault.
-/

namespace IntervalRegex.Regex

inductive Lexeme
  | atom (regex : Regex)
  /-- The start of a group, with its name if it has one. -/
  | opening (name : Option (List Char))
  | closing
  | bar
  | count (min : Nat) (max : Option Nat)
deriving DecidableEq, Repr

def Escape.atom : Escape → Regex
  | .char c => .char (.single c)
  | .byte c => .char (.byte c)
  | .shorthand kind negated => .char (.shorthand kind negated)
  | .textStart => .start
  | .textEnd => .finish

/-- The members of a class up to its closing bracket. -/
def readItems (cs : List Char) : Except Fault (List ClassItem × List Char) :=
  match cs with
  | ']' :: rest => .ok ([], rest)
  | '[' :: _ => .error .nestedClass
  | '&' :: '&' :: _ | '-' :: '-' :: _ | '~' :: '~' :: _ => .error .setOperation
  | cs =>
    match h : readItem cs with
    | .error fault => .error fault
    | .ok (item, rest) =>
      have := readItem_length h
      match readItems rest with
      | .error fault => .error fault
      | .ok (items, rest) => .ok (item :: items, rest)
termination_by cs.length

/-- What follows an opening bracket. Hyphens in front are literal, and so is a closing bracket that
would leave the class empty. -/
def readClass (cs : List Char) : Except Fault (CharSet × List Char) :=
  let negated := cs.head? = some '^'
  let body := if negated then cs.tail else cs
  let hyphens := (body.takeWhile (· = '-')).map ClassItem.single
  match hyphens, body.dropWhile (· = '-') with
  | [], ']' :: cs => do
    let (items, rest) ← readItems cs
    return (.oneOf negated (.single ']' :: items), rest)
  | hyphens, cs => do
    let (items, rest) ← readItems cs
    return (.oneOf negated (hyphens ++ items), rest)

def isNameChar (first : Bool) (c : Char) : Bool :=
  c == '_' || if first then Text.isAlphabetic c
    else Text.isAlphanumeric c || c == '.' || c == '[' || c == ']'

/-- A group name up to its closing angle bracket. -/
def readGroupName (cs : List Char) : Except Fault (Lexeme × List Char) :=
  match cs.takeWhile (· ≠ '>'), cs.dropWhile (· ≠ '>') with
  | [], [] => .error .unclosedGroupName
  | [], _ => .error .emptyGroupName
  | c :: name, rest =>
    if !(isNameChar true c && name.all (isNameChar false)) then .error .invalidGroupName
    else
      match rest with
      | [] => .error .unclosedGroupName
      | _ :: rest => .ok (.opening (some (c :: name)), rest)

/-- What follows an opening parenthesis. -/
def readGroup : List Char → Except Fault (Lexeme × List Char)
  | '?' :: ':' :: cs => .ok (.opening none, cs)
  | '?' :: '=' :: _ | '?' :: '!' :: _ | '?' :: '<' :: '=' :: _ | '?' :: '<' :: '!' :: _ =>
    .error .lookAround
  | '?' :: '<' :: cs | '?' :: 'P' :: '<' :: cs => readGroupName cs
  | '?' :: _ => .error .unknownFlag
  | cs => .ok (.opening none, cs)

/-- A question mark after a repetition only changes which match is preferred. -/
def dropLazy : List Char → List Char
  | '?' :: cs => cs
  | cs => cs

/-- A number of a repetition count, with blank characters on both sides; it has 32 bits. -/
def readCountNumber (cs : List Char) : Except Fault (Nat × List Char) :=
  let cs := cs.dropWhile Text.isBlank
  let digits := cs.takeWhile Char.isDigit
  let rest := (cs.dropWhile Char.isDigit).dropWhile Text.isBlank
  if digits = [] then .error .countWithoutNumber
  else if Text.digitsValue digits < 1 <<< 32 then .ok (Text.digitsValue digits, rest)
  else .error .countTooLarge

/-- What follows an opening brace: one number, or two with a comma between, the second of which may
be left out. -/
def readCount (cs : List Char) : Except Fault (Lexeme × List Char) := do
  let (min, rest) ← readCountNumber cs
  match rest with
  | '}' :: rest => return (.count min (some min), dropLazy rest)
  | ',' :: '}' :: rest => return (.count min none, dropLazy rest)
  | ',' :: rest =>
    let (max, rest) ← readCountNumber rest
    match rest with
    | '}' :: rest =>
      if min ≤ max then .ok (.count min (some max), dropLazy rest) else .error .countOutOfOrder
    | _ => .error .unclosedCount
  | _ => .error .unclosedCount

/-- The lexeme that begins with `c`, and what follows it. -/
def Lexeme.read (c : Char) (cs : List Char) : Except Fault (Lexeme × List Char) :=
  match c with
  | '\\' => do
    let (escape, rest) ← readEscape cs
    return (.atom escape.atom, rest)
  | '[' => do
    let (set, rest) ← readClass cs
    return (.atom (.char set), rest)
  | '(' => readGroup cs
  | ')' => .ok (.closing, cs)
  | '|' => .ok (.bar, cs)
  | '*' => .ok (.count 0 none, dropLazy cs)
  | '+' => .ok (.count 1 none, dropLazy cs)
  | '?' => .ok (.count 0 (some 1), dropLazy cs)
  | '{' => readCount cs
  | '.' => .ok (.atom (.char .any), cs)
  | '^' => .ok (.atom .start, cs)
  | '$' => .ok (.atom .finish, cs)
  | c => .ok (.atom (.char (.single c)), cs)

theorem dropLazy_length (cs : List Char) : (dropLazy cs).length ≤ cs.length := by
  unfold dropLazy
  split <;> simp

theorem dropWhile_length (p : Char → Bool) (cs : List Char) :
    (cs.dropWhile p).length ≤ cs.length :=
  (List.dropWhile_sublist p).length_le

theorem readItems_length {cs : List Char} {items : List ClassItem} {rest : List Char}
    (h : readItems cs = .ok (items, rest)) : rest.length ≤ cs.length := by
  fun_induction readItems cs generalizing items with
  | case1 => simp_all
  | case2 | case3 | case4 | case5 | case6 => simp at h
  | case7 => simp_all
  | case8 cs _ _ _ _ _ item rest' hitem _ items' rest'' hitems ih =>
    simp only [Except.ok.injEq, Prod.mk.injEq] at h
    obtain ⟨-, rfl⟩ := h
    have := ih hitems
    have := readItem_length hitem
    omega

theorem readClass_length {cs : List Char} {set : CharSet} {rest : List Char}
    (h : readClass cs = .ok (set, rest)) : rest.length ≤ cs.length := by
  have hbody : (if cs.head? = some '^' then cs.tail else cs).length ≤ cs.length := by
    split <;> simp
  have hhyphens := dropWhile_length (· = '-') (if cs.head? = some '^' then cs.tail else cs)
  unfold readClass at h
  dsimp only at h
  split at h
  · next heq =>
    simp only [bind_eq_ok, pure_eq_ok, Prod.mk.injEq] at h
    obtain ⟨⟨items, rest'⟩, hitems, -, rfl⟩ := h
    have := readItems_length hitems
    simp only [heq, List.length_cons] at hhyphens
    dsimp only
    omega
  · simp only [bind_eq_ok, pure_eq_ok, Prod.mk.injEq] at h
    obtain ⟨⟨items, rest'⟩, hitems, -, rfl⟩ := h
    have := readItems_length hitems
    dsimp only
    omega

theorem readGroupName_length {cs : List Char} {lexeme : Lexeme} {rest : List Char}
    (h : readGroupName cs = .ok (lexeme, rest)) : rest.length ≤ cs.length := by
  have hdrop := dropWhile_length (· ≠ '>') cs
  unfold readGroupName at h
  split at h
  · simp at h
  · simp at h
  · next heq =>
    split at h
    · simp at h
    · split at h
      · simp at h
      · simp_all
        omega

theorem readGroup_length {cs : List Char} {lexeme : Lexeme} {rest : List Char}
    (h : readGroup cs = .ok (lexeme, rest)) : rest.length ≤ cs.length := by
  unfold readGroup at h
  split at h
  case h_1 =>
    simp only [Except.ok.injEq, Prod.mk.injEq] at h
    simp [← h.2]
    omega
  case h_6 | h_7 =>
    have := readGroupName_length h
    simp
    omega
  all_goals simp_all

theorem readCountNumber_length {cs : List Char} {n : Nat} {rest : List Char}
    (h : readCountNumber cs = .ok (n, rest)) : rest.length ≤ cs.length := by
  have h₁ := dropWhile_length Text.isBlank cs
  have h₂ := dropWhile_length Char.isDigit (cs.dropWhile Text.isBlank)
  have h₃ := dropWhile_length Text.isBlank ((cs.dropWhile Text.isBlank).dropWhile Char.isDigit)
  unfold readCountNumber at h
  dsimp only at h
  split at h
  · simp at h
  · split at h
    · simp only [Except.ok.injEq, Prod.mk.injEq] at h
      rw [← h.2]
      omega
    · simp at h

theorem readCount_length {cs : List Char} {lexeme : Lexeme} {rest : List Char}
    (h : readCount cs = .ok (lexeme, rest)) : rest.length ≤ cs.length := by
  unfold readCount at h
  obtain ⟨⟨min, rest₁⟩, hmin, h⟩ := bind_eq_ok.mp h
  have hrest₁ := readCountNumber_length hmin
  dsimp only at h
  split at h
  · next rest₂ =>
    simp only [pure_eq_ok, Prod.mk.injEq] at h
    have := dropLazy_length rest₂
    simp only [List.length_cons] at hrest₁
    rw [← h.2]
    omega
  · next rest₂ =>
    simp only [pure_eq_ok, Prod.mk.injEq] at h
    have := dropLazy_length rest₂
    simp only [List.length_cons] at hrest₁
    rw [← h.2]
    omega
  · obtain ⟨⟨max, rest₂⟩, hmax, h⟩ := bind_eq_ok.mp h
    have hrest₂ := readCountNumber_length hmax
    dsimp only at h
    split at h
    · next rest₃ =>
      split at h
      · simp only [Except.ok.injEq, Prod.mk.injEq] at h
        have := dropLazy_length rest₃
        simp only [List.length_cons] at hrest₁ hrest₂
        rw [← h.2]
        omega
      · simp at h
    · simp at h
  · simp at h

theorem Lexeme.read_length {c : Char} {cs : List Char} {lexeme : Lexeme} {rest : List Char}
    (h : Lexeme.read c cs = .ok (lexeme, rest)) : rest.length ≤ cs.length := by
  unfold Lexeme.read at h
  split at h
  case h_1 =>
    simp only [bind_eq_ok, pure_eq_ok, Prod.mk.injEq] at h
    obtain ⟨⟨escape, rest'⟩, hread, -, rfl⟩ := h
    exact Nat.le_of_lt (readEscape_length hread)
  case h_2 =>
    simp only [bind_eq_ok, pure_eq_ok, Prod.mk.injEq] at h
    obtain ⟨⟨set, rest'⟩, hread, -, rfl⟩ := h
    exact readClass_length hread
  case h_3 => exact readGroup_length h
  case h_9 => exact readCount_length h
  case h_6 | h_7 | h_8 =>
    simp only [Except.ok.injEq, Prod.mk.injEq] at h
    exact h.2 ▸ dropLazy_length cs
  all_goals
    simp only [Except.ok.injEq, Prod.mk.injEq] at h
    exact Nat.le_of_eq (congrArg List.length h.2.symm)

end IntervalRegex.Regex
