import IntervalRegex.Regex.Lexeme

/-!
# Reading an expression

A text is a regular expression when it is cut into lexemes whose groups close in order. The lexemes
are taken one by one on a stack of open groups.

Expressions are made of characters and their escapes, `.`, the shorthands `\d`, `\s`, `\w` and their
negations, classes of characters and ranges, the two ends of the text, groups with or without a name,
branches, and repetitions, lazy ones included. The syntax stops there. Word boundaries, classes by
property such as `\p{L}`, classes inside classes such as `[[a]]` or `[[:alpha:]]`, set operations on
classes and flags are beyond it: a text with one of these is no expression here, and is refused like
any other that is none. Expressions have no limit in size.
-/

namespace IntervalRegex.Regex

/-- The part of a group read so far: its finished branches and the atoms of the current branch, each
list with the last one first. -/
structure Frame where
  branches : List Regex
  atoms : List Regex
deriving DecidableEq, Repr

namespace Frame

def empty : Frame := ⟨[], []⟩

/-- The current branch. -/
def branch (frame : Frame) : Regex := frame.atoms.foldl (fun regex atom => .seq atom regex) .empty

/-- The whole group, with the current branch as the last one. -/
def regex (frame : Frame) : Regex :=
  frame.branches.foldl (fun regex branch => .alt branch regex) frame.branch

def addAtom (frame : Frame) (atom : Regex) : Frame := { frame with atoms := atom :: frame.atoms }

def addBar (frame : Frame) : Frame := ⟨frame.branch :: frame.branches, []⟩

end Frame

/-- The group being read, the groups around it from the inside out, and the names already given. -/
structure Groups where
  inner : Frame
  outer : List Frame
  names : List (List Char)
deriving DecidableEq, Repr

namespace Groups

def empty : Groups := ⟨.empty, [], []⟩

def add (groups : Groups) : Lexeme → Except Fault Groups
  | .atom regex => .ok { groups with inner := groups.inner.addAtom regex }
  | .bar => .ok { groups with inner := groups.inner.addBar }
  | .count min max =>
    match groups.inner.atoms with
    | [] => .error .nothingToRepeat
    | atom :: atoms =>
      .ok { groups with inner := { groups.inner with atoms := .times atom min max :: atoms } }
  | .opening none => .ok { groups with inner := .empty, outer := groups.inner :: groups.outer }
  | .opening (some name) =>
    if name ∈ groups.names then .error .duplicateGroupName
    else .ok ⟨.empty, groups.inner :: groups.outer, name :: groups.names⟩
  | .closing =>
    match groups.outer with
    | [] => .error .unopenedGroup
    | frame :: outer =>
      .ok { groups with inner := frame.addAtom groups.inner.regex, outer := outer }

/-- Takes lexemes in order; a fault comes with the column of the lexeme that brings it. -/
def addAll (groups : Groups) (column : Nat) :
    List (Lexeme × Nat) → Except (Fault × Nat) Groups
  | [] => .ok groups
  | (lexeme, width) :: lexemes =>
    match groups.add lexeme with
    | .error fault => .error (fault, column)
    | .ok groups => groups.addAll (column + width) lexemes

end Groups

/-- The lexemes of a text with their widths in characters, up to the first that cannot be read. -/
def scan : List Char → List (Lexeme × Nat) × Option Fault
  | [] => ([], none)
  | c :: cs =>
    match h : Lexeme.read c cs with
    | .error fault => ([], some fault)
    | .ok (lexeme, rest) =>
      have : rest.length ≤ cs.length := Lexeme.read_length h
      let (lexemes, fault) := scan rest
      ((lexeme, cs.length + 1 - rest.length) :: lexemes, fault)
termination_by cs => cs.length

/-- The columns of the groups that are open after the lexemes, the innermost first. -/
def openColumns (column : Nat) (opened : List Nat) : List (Lexeme × Nat) → List Nat
  | [] => opened
  | (.opening _, width) :: lexemes => openColumns (column + width) (column :: opened) lexemes
  | (.closing, width) :: lexemes => openColumns (column + width) opened.tail lexemes
  | (_, width) :: lexemes => openColumns (column + width) opened lexemes

/-- Reads a whole text. A fault comes with its column; the first one in the text is reported, and a
group that never closes comes last. -/
def read (cs : List Char) : Except (Fault × Nat) Regex := do
  let (lexemes, fault) := scan cs
  let groups ← Groups.empty.addAll 0 lexemes
  match fault, groups.outer with
  | some fault, _ => .error (fault, lexemes.foldl (fun column lexeme => column + lexeme.2) 0)
  | none, [] => .ok groups.inner.regex
  | none, _ :: _ => .error (.unclosedGroup, (openColumns 0 [] lexemes).headD 0)

end IntervalRegex.Regex
