import IntervalRegex.Address.Range

/-!
# Walking a range from both ends
-/

namespace IntervalRegex

/-- The addresses still to come are those with a value from `front` to `back`, both included, unless
the cursor is `spent`. The last of them cannot be taken by moving an end past it, for the address
beside it may not exist. -/
structure Cursor where
  front : UInt32
  back : UInt32
  spent : Bool
deriving DecidableEq, Repr

namespace Cursor

def ofRange (r : AddressRange) : Cursor :=
  ⟨UInt32.ofNat r.first.value, UInt32.ofNat r.last.value, false⟩

def remaining (c : Cursor) : Nat :=
  if c.spent then 0 else c.back.toNat + 1 - c.front.toNat

/-- The addresses still to come, in ascending order. -/
def toList (c : Cursor) : List Address :=
  (List.range' c.front.toNat c.remaining).map Address.ofValue

/-- Skips `n` addresses at the front and takes the next one; with too few left nothing remains. -/
def nth (c : Cursor) (n : Nat) : Option Address × Cursor :=
  if n + 1 < c.remaining then
    (some (Address.ofValue (c.front.toNat + n)), { c with front := c.front + UInt32.ofNat (n + 1) })
  else if n + 1 = c.remaining then
    (some (Address.ofValue c.back.toNat), { c with spent := true })
  else
    (none, { c with spent := true })

/-- Skips `n` addresses at the back and takes the next one; with too few left nothing remains. -/
def nthBack (c : Cursor) (n : Nat) : Option Address × Cursor :=
  if n + 1 < c.remaining then
    (some (Address.ofValue (c.back.toNat - n)), { c with back := c.back - UInt32.ofNat (n + 1) })
  else if n + 1 = c.remaining then
    (some (Address.ofValue c.front.toNat), { c with spent := true })
  else
    (none, { c with spent := true })

def next (c : Cursor) : Option Address × Cursor := c.nth 0

def nextBack (c : Cursor) : Option Address × Cursor := c.nthBack 0

/-- The last address still to come. -/
def last? (c : Cursor) : Option Address := c.nextBack.1

/-- At most `n` addresses from the front. -/
def take (c : Cursor) (n : Nat) : List Address :=
  (List.range' c.front.toNat (min n c.remaining)).map Address.ofValue

end Cursor

end IntervalRegex
