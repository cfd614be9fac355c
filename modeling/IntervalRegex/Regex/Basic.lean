import IntervalRegex.Regex.CharSet

/-!
# Regular expressions

The expressions and what it means for one to match a stretch of a text. A match is a pair of
positions, because `^` and `$` look at where they stand.
-/

namespace IntervalRegex

inductive Regex
  | empty
  | char (set : CharSet)
  /-- Only at the start of the text. -/
  | start
  /-- Only at the end of the text. -/
  | finish
  | seq (first second : Regex)
  | alt (left right : Regex)
  /-- At least `min` and, if there is a maximum, at most that many repetitions. -/
  | times (body : Regex) (min : Nat) (max : Option Nat)
deriving DecidableEq, Repr

namespace Regex

/-- `Steps R n i j`: some chain of `n` steps of `R` leads from `i` to `j`. -/
def Steps (R : Nat → Nat → Prop) : Nat → Nat → Nat → Prop
  | 0, i, j => i = j
  | n + 1, i, j => ∃ k, R i k ∧ Steps R n k j

/-- `r.Matches d s i j`: in the text `s`, the expression can match from position `i` to `j`. -/
def Matches (d : Dialect) (s : List Char) : Regex → Nat → Nat → Prop
  | empty, i, j => i = j
  | char set, i, j => j = i + 1 ∧ ∃ c, s[i]? = some c ∧ set.mem d c = true
  | start, i, j => i = j ∧ i = 0
  | finish, i, j => i = j ∧ i = s.length
  | seq first second, i, j => ∃ k, first.Matches d s i k ∧ second.Matches d s k j
  | alt left right, i, j => left.Matches d s i j ∨ right.Matches d s i j
  | times body min max, i, j =>
    ∃ n, min ≤ n ∧ (∀ m, max = some m → n ≤ m) ∧ Steps (body.Matches d s) n i j

/-- The text contains a match. -/
def Accepts (d : Dialect) (s : List Char) (r : Regex) : Prop :=
  ∃ i j, i ≤ s.length ∧ r.Matches d s i j

/-- Whether every character set of the expression is allowed in the dialect. -/
def fits (d : Dialect) : Regex → Bool
  | char set => set.fits d
  | seq first second => first.fits d && second.fits d
  | alt left right => left.fits d && right.fits d
  | times body _ _ => body.fits d
  | empty | start | finish => true

theorem Matches.le {d : Dialect} {s : List Char} {r : Regex} {i j : Nat}
    (h : r.Matches d s i j) : i ≤ j := by
  induction r generalizing i j with
  | empty | start | finish => simp_all [Matches]
  | char set => simp only [Matches] at h; omega
  | seq first second ih₁ ih₂ =>
    obtain ⟨k, hk₁, hk₂⟩ := h
    exact Nat.le_trans (ih₁ hk₁) (ih₂ hk₂)
  | alt left right ih₁ ih₂ => exact h.elim ih₁ ih₂
  | times body min max ih =>
    obtain ⟨n, -, -, hn⟩ := h
    clear min max
    induction n generalizing i with
    | zero => exact Nat.le_of_eq hn
    | succ n ihn =>
      obtain ⟨k, hk, hrest⟩ := hn
      exact Nat.le_trans (ih hk) (ihn hrest)

end Regex

end IntervalRegex
