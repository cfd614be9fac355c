import IntervalRegex.Text.Emoji
import IntervalRegex.Text.Width

/-!
# Terminal columns

The columns a text takes on a terminal. Control sequences take none. Elsewhere the columns of a
character depend on what stands behind it, so that a text is measured from its end.
-/

namespace IntervalRegex.Text

/-- What a character means to the one in front of it. -/
inductive Following
  | other
  | lineFeed
  | textSelector
  | emojiSelector
  | emoji
  | modifier
  /-- A joiner in front of an emoji. -/
  | joiner
  /-- An emoji selector in front of such a joiner. -/
  | joinedSelector
  | alef
  /-- A Khmer letter that can be written below another one. -/
  | subscript
deriving DecidableEq, Repr

def isAlef (c : Char) : Bool :=
  covers [(0x622, 0x623), (0x625, 0x625), (0x627, 0x627), (0x671, 0x673), (0x675, 0x675),
    (0x773, 0x774), (0x870, 0x882)] c

def isLam (c : Char) : Bool :=
  covers [(0x644, 0x644), (0x6B5, 0x6B8), (0x76A, 0x76A), (0x8A6, 0x8A6), (0x8C7, 0x8C7)] c

def isSubscriptLetter (c : Char) : Bool :=
  covers [(0x1780, 0x1782), (0x1784, 0x1787), (0x1789, 0x178C), (0x178E, 0x1793), (0x1795, 0x1798),
    (0x179B, 0x179D), (0x17A0, 0x17A0), (0x17A2, 0x17A2), (0x17A7, 0x17A7), (0x17AB, 0x17AC),
    (0x17AF, 0x17AF)] c

def Following.ofChar (c : Char) : Following :=
  if c = '\n' then lineFeed
  else if c = Text.textSelector then textSelector
  else if c = Text.emojiSelector then emojiSelector
  else if isEmojiModifier c then modifier
  else if isEmoji c then emoji
  else if isAlef c then alef
  else if isSubscriptLetter c then subscript
  else other

/-- Whether the character joins the letters on both sides of it. -/
def isTransparent (c : Char) : Bool := width c == 0 && c != '\u200c' && c != '\u200d'

/-- Puts a character in front of a text: the columns of both, and what the character means. -/
def addInFront (c : Char) : Nat × Following → Nat × Following
  | (columns, next) =>
    let alone := (width c + columns, Following.ofChar c)
    match next with
    | .other => alone
    | .lineFeed => if c = '\r' then (columns, .other) else alone
    | .textSelector => if takesTextSelector c then (columns + 1, .other) else alone
    | .emojiSelector => if takesEmojiSelector c then (columns + 2, .emoji) else alone
    | .emoji => if c = emojiJoiner then (columns, .joiner) else alone
    | .modifier =>
      if covers modifierBases c then (columns, .emoji)
      else if c = emojiJoiner then (columns, .joiner)
      else alone
    | .joiner =>
      if c = emojiSelector then (columns, .joinedSelector)
      else if isEmojiModifier c then (columns, .modifier)
      else if isEmoji c then (columns, .emoji)
      else alone
    | .joinedSelector => if takesEmojiSelector c then (columns, .emoji) else alone
    | .alef =>
      if isLam c then (columns, .other) else if isTransparent c then (columns, .alef) else alone
    | .subscript => if c = '\u17d2' then (columns - 1, .other) else alone

/-- The columns of a text without control sequences. -/
def plainColumns (cs : List Char) : Nat := (cs.foldr addInFront (0, .other)).1

def startsControl (c : Char) : Bool := c == '\x1b' || c == '\u009b'

/-- Whether the character, not a digit, can end a control sequence. -/
def endsControl (c : Char) : Bool :=
  ('A' ≤ c && c ≤ 'P') || c == 'R' || c == 'Z' || c == 'c' || ('f' ≤ c && c ≤ 'n') || c == 'q' ||
    c == 'r' || c == 'y' || c == '=' || c == '>' || c == '<'

/-- What follows the longest end of a control sequence: groups of at most four digits with semicolons
between them, and one more character, which can be a digit. `best` follows the longest end so far,
and `digits` is the number of digits in the last group. -/
def afterParameters (digits : Nat) (best : Option (List Char)) : List Char → Option (List Char)
  | [] => best
  | c :: cs =>
    if c.isDigit then if digits = 4 then some cs else afterParameters (digits + 1) (some cs) cs
    else if c = ';' then afterParameters 0 best cs
    else if endsControl c then some cs
    else best

/-- What follows a control sequence, given what follows its first character. A parenthesis and one of
three digits are a whole sequence. -/
def afterControl? (cs : List Char) : Option (List Char) :=
  match cs with
  | '(' :: '0' :: rest | '(' :: '1' :: rest | '(' :: '2' :: rest
  | ')' :: '0' :: rest | ')' :: '1' :: rest | ')' :: '2' :: rest => some rest
  | cs => afterParameters 0 none (cs.dropWhile fun c => "[()#;?".toList.contains c)

theorem afterParameters_length {digits : Nat} {best : Option (List Char)} {cs rest : List Char}
    (h : afterParameters digits best cs = some rest) :
    rest.length ≤ cs.length ∨ best = some rest := by
  fun_induction afterParameters digits best cs with
  | case1 => exact .inr h
  | case2 => simp_all
  | case3 _ _ _ cs _ _ ih =>
    rcases ih h with hle | heq
    · exact .inl (Nat.le_succ_of_le hle)
    · simp_all
  | case4 _ _ _ _ ih => exact (ih h).imp_left Nat.le_succ_of_le
  | case5 => simp_all
  | case6 => exact .inr h

theorem afterControl?_length {cs rest : List Char} (h : afterControl? cs = some rest) :
    rest.length ≤ cs.length := by
  unfold afterControl? at h
  split at h
  case h_7 =>
    rcases afterParameters_length h with hle | heq
    · exact Nat.le_trans hle (List.dropWhile_sublist _).length_le
    · simp at heq
  all_goals
    simp only [Option.some.injEq] at h
    simp only [h, List.length_cons]
    omega

/-- The stretches of a text between its control sequences. -/
def stretches (cs : List Char) : List (List Char) :=
  match cs with
  | [] => [[]]
  | c :: cs =>
    match h : if startsControl c then afterControl? cs else none with
    | some rest =>
      have : rest.length ≤ cs.length := by
        split at h
        · exact afterControl?_length h
        · simp at h
      [] :: stretches rest
    | none => (stretches cs).modifyHead (c :: ·)
termination_by cs.length

/-- The columns of a text on a terminal. -/
def columns (cs : List Char) : Nat :=
  (stretches cs).foldl (fun total stretch => total + plainColumns stretch) 0

end IntervalRegex.Text
