import IntervalRegex.Address.Cursor
import Mathlib.Data.List.DropRight
import Mathlib.Data.List.Sort

/-!
# Walking a range is taking from a list

A cursor stands for the list of the addresses still to come. A call on the cursor answers as the
same call on the list, and leaves the cursor of what the call leaves of the list, so that any calls
in turn do. What the calls at the front pass, what is left and what the calls at the back pass are
then the stretches of one ascending list.
-/

namespace IntervalRegex

/-- A call that takes an address at one end of what is left. -/
inductive Call
  | next
  | nextBack
  /-- Skips `n` addresses before it takes one. -/
  | nth (n : Nat)
  | nthBack (n : Nat)
deriving DecidableEq, Repr

namespace Call

variable {α σ : Type}

def onCursor : Call → Cursor → Option Address × Cursor
  | next, c => c.next
  | nextBack, c => c.nextBack
  | nth n, c => c.nth n
  | nthBack n, c => c.nthBack n

def onList : Call → List α → Option α × List α
  | next, xs => (xs.head?, xs.tail)
  | nextBack, xs => (xs.getLast?, xs.dropLast)
  | nth n, xs => (xs[n]?, xs.drop (n + 1))
  | nthBack n, xs => (xs.reverse[n]?, xs.rdrop (n + 1))

/-- The answers to calls that are made in turn, and what is left then. -/
def run (answer : Call → σ → Option α × σ) : List Call → σ → List (Option α) × σ
  | [], s => ([], s)
  | call :: calls, s =>
    let (first, s) := answer call s
    let (rest, s) := run answer calls s
    (first :: rest, s)

theorem run_cons (answer : Call → σ → Option α × σ) (call : Call) (calls : List Call) (s : σ) :
    run answer (call :: calls) s =
      ((answer call s).1 :: (run answer calls (answer call s).2).1,
        (run answer calls (answer call s).2).2) :=
  rfl

end Call

/-! ### The order of addresses -/

namespace Address

/-- The octets are compared one by one, the first of them leading. -/
def Precedes (a b : Address) : Prop :=
  List.Lex (fun x y : Octet => x.val < y.val) a.toList b.toList

theorem precedes_iff {a b : Address} : a.Precedes b ↔ a.value < b.value := by
  obtain ⟨⟨a₁, ha₁⟩, ⟨a₂, ha₂⟩, ⟨a₃, ha₃⟩, ⟨a₄, ha₄⟩⟩ := a
  obtain ⟨⟨b₁, hb₁⟩, ⟨b₂, hb₂⟩, ⟨b₃, hb₃⟩, ⟨b₄, hb₄⟩⟩ := b
  simp only [Precedes, Quad.toList, List.cons_lex_cons_iff, List.not_lex_nil, Fin.mk.injEq, value,
    and_false, or_false]
  omega

end Address

/-! ### One call -/

namespace Cursor

variable {c : Cursor} {n : Nat}

theorem length_toList (c : Cursor) : c.toList.length = c.remaining := by
  rw [toList, List.length_map, List.length_range']

theorem toList_eq_nil_iff : c.toList = [] ↔ c.remaining = 0 := by
  rw [← List.length_eq_zero_iff, length_toList]

theorem toList_spent (c : Cursor) : { c with spent := true }.toList = [] := toList_eq_nil_iff.mpr rfl

/-- Until nothing remains, the addresses to come reach from one end to the other. -/
theorem front_add_remaining (h : n < c.remaining) :
    c.spent = false ∧ c.front.toNat + c.remaining = c.back.toNat + 1 := by
  unfold remaining at h ⊢
  split at h
  · exact absurd h (Nat.not_lt_zero n)
  · next unspent => exact ⟨Bool.eq_false_iff.mpr unspent, by rw [if_neg unspent]; omega⟩

theorem getElem?_toList (h : n < c.remaining) :
    c.toList[n]? = some (Address.ofValue (c.front.toNat + n)) := by
  rw [toList, List.getElem?_map, List.getElem?_range' h, Nat.one_mul]
  rfl

theorem getElem?_reverse_toList (h : n < c.remaining) :
    c.toList.reverse[n]? = some (Address.ofValue (c.back.toNat - n)) := by
  have hspan := (front_add_remaining h).2
  have hplace : c.remaining - 1 - n < c.remaining := by omega
  have hvalue : c.front.toNat + (c.remaining - 1 - n) = c.back.toNat - n := by omega
  rw [List.getElem?_reverse (by rwa [length_toList]), length_toList, getElem?_toList hplace, hvalue]

/-- Moving the front inwards drops addresses of the list; it stays short of the back, so that the
sum of words does not wrap. -/
theorem toList_front (h : n < c.remaining) :
    { c with front := c.front + UInt32.ofNat n }.toList = c.toList.drop n := by
  obtain ⟨unspent, hspan⟩ := front_add_remaining h
  have hback := c.back.toNat_lt
  have hfront : (c.front + UInt32.ofNat n).toNat = c.front.toNat + n := by
    rw [UInt32.toNat_add, UInt32.toNat_ofNat']
    omega
  have hleft : { c with front := c.front + UInt32.ofNat n }.remaining = c.remaining - n := by
    simp only [remaining, unspent, Bool.false_eq_true, if_false, hfront]
    omega
  rw [toList, hleft, hfront, toList, ← List.map_drop, List.drop_range', Nat.mul_one]

theorem toList_back (h : n < c.remaining) :
    { c with back := c.back - UInt32.ofNat n }.toList = c.toList.rdrop n := by
  obtain ⟨unspent, hspan⟩ := front_add_remaining h
  have hword : (UInt32.ofNat n).toNat = n := by
    have hback := c.back.toNat_lt
    rw [UInt32.toNat_ofNat']
    omega
  have hback : (c.back - UInt32.ofNat n).toNat = c.back.toNat - n := by
    rw [UInt32.toNat_sub_of_le _ _ (UInt32.le_iff_toNat_le.mpr (by omega)), hword]
  have hleft : { c with back := c.back - UInt32.ofNat n }.remaining = c.remaining - n := by
    simp only [remaining, unspent, Bool.false_eq_true, if_false, hback]
    omega
  have hsplit : List.range' c.front.toNat c.remaining =
      List.range' c.front.toNat (c.remaining - n) ++
        List.range' (c.front.toNat + (c.remaining - n)) n := by
    rw [List.range'_append_1, Nat.sub_add_cancel (Nat.le_of_lt h)]
  rw [List.rdrop, length_toList, toList, hleft, toList, ← List.map_take, hsplit,
    List.take_left' List.length_range']

theorem nth_eq (c : Cursor) (n : Nat) :
    (c.nth n).1 = c.toList[n]? ∧ (c.nth n).2.toList = c.toList.drop (n + 1) := by
  have hlength := length_toList c
  rcases Nat.lt_trichotomy (n + 1) c.remaining with inner | last | short
  · rw [nth, if_pos inner]
    exact ⟨(getElem?_toList (Nat.lt_of_succ_lt inner)).symm, toList_front inner⟩
  · have hn : n < c.remaining := by omega
    have hvalue : c.front.toNat + n = c.back.toNat := by
      have hspan := (front_add_remaining hn).2
      omega
    rw [nth, if_neg (by omega), if_pos last, getElem?_toList hn, hvalue,
      List.drop_eq_nil_of_le (by omega)]
    exact ⟨rfl, toList_spent c⟩
  · rw [nth, if_neg (by omega), if_neg (by omega), List.getElem?_eq_none (by omega),
      List.drop_eq_nil_of_le (by omega)]
    exact ⟨rfl, toList_spent c⟩

theorem nthBack_eq (c : Cursor) (n : Nat) :
    (c.nthBack n).1 = c.toList.reverse[n]? ∧
      (c.nthBack n).2.toList = c.toList.rdrop (n + 1) := by
  have hlength := length_toList c
  have hreverse : c.toList.reverse.length = c.remaining := by rw [List.length_reverse, hlength]
  have hnil (h : c.remaining ≤ n + 1) : c.toList.rdrop (n + 1) = [] := by
    rw [List.rdrop, Nat.sub_eq_zero_of_le (by omega), List.take_zero]
  rcases Nat.lt_trichotomy (n + 1) c.remaining with inner | last | short
  · rw [nthBack, if_pos inner]
    exact ⟨(getElem?_reverse_toList (Nat.lt_of_succ_lt inner)).symm, toList_back inner⟩
  · have hn : n < c.remaining := by omega
    have hvalue : c.back.toNat - n = c.front.toNat := by
      have hspan := (front_add_remaining hn).2
      omega
    rw [nthBack, if_neg (by omega), if_pos last, getElem?_reverse_toList hn, hvalue,
      hnil (by omega)]
    exact ⟨rfl, toList_spent c⟩
  · rw [nthBack, if_neg (by omega), if_neg (by omega), List.getElem?_eq_none (by omega),
      hnil (by omega)]
    exact ⟨rfl, toList_spent c⟩

end Cursor

/-! ### Calls in turn -/

namespace Call

variable {α : Type} {c : Cursor}

/-- **A call on a cursor is the call on its list.** -/
theorem onCursor_eq (call : Call) (c : Cursor) :
    (call.onCursor c).1 = (call.onList c.toList).1 ∧
      (call.onCursor c).2.toList = (call.onList c.toList).2 := by
  cases call with
  | next =>
    have hnth := c.nth_eq 0
    rw [← List.head?_eq_getElem?, List.drop_one] at hnth
    exact hnth
  | nextBack =>
    have hnth := c.nthBack_eq 0
    rw [← List.head?_eq_getElem?, List.head?_reverse, List.rdrop, ← List.dropLast_eq_take] at hnth
    exact hnth
  | nth n => exact c.nth_eq n
  | nthBack n => exact c.nthBack_eq n

theorem run_onCursor (calls : List Call) (c : Cursor) :
    (run onCursor calls c).1 = (run onList calls c.toList).1 ∧
      (run onCursor calls c).2.toList = (run onList calls c.toList).2 := by
  induction calls generalizing c with
  | nil => exact ⟨rfl, rfl⟩
  | cons call calls ih =>
    obtain ⟨hanswer, hleft⟩ := onCursor_eq call c
    obtain ⟨hanswers, hlast⟩ := ih (call.onCursor c).2
    rw [hleft] at hanswers hlast
    rw [run_cons, run_cons]
    exact ⟨congrArg₂ List.cons hanswer hanswers, hlast⟩

/-! ### What calls pass -/

def atFront : Call → Bool
  | next | nth _ => true
  | nextBack | nthBack _ => false

def skips : Call → Nat
  | next | nextBack => 0
  | nth n | nthBack n => n

/-- What a call yields or skips, in the order in which it comes to it. -/
def passed (call : Call) (xs : List α) : List α :=
  (if call.atFront then xs else xs.reverse).take (call.skips + 1)

/-- What the calls at one end yield or skip. -/
def passedAt (front : Bool) : List Call → List α → List α
  | [], _ => []
  | call :: calls, xs =>
    (if call.atFront = front then call.passed xs else []) ++
      passedAt front calls (call.onList xs).2

/-- What the calls at one end yield, by the answers to all of them. -/
def yieldedAt (front : Bool) : List Call → List (Option α) → List α
  | call :: calls, answer :: answers =>
    (if call.atFront = front then answer.toList else []) ++ yieldedAt front calls answers
  | _, _ => []

theorem onList_front {call : Call} (h : call.atFront = true) (xs : List α) :
    call.onList xs = (xs[call.skips]?, xs.drop (call.skips + 1)) := by
  cases call with
  | next => rw [onList, skips, List.head?_eq_getElem?, List.drop_one]
  | nth n => rfl
  | nextBack | nthBack n => cases h

theorem onList_back {call : Call} (h : call.atFront = false) (xs : List α) :
    call.onList xs = (xs.reverse[call.skips]?, (xs.reverse.drop (call.skips + 1)).reverse) := by
  cases call with
  | nextBack =>
    rw [onList, skips, ← List.head?_reverse, List.head?_eq_getElem?, List.drop_one,
      List.tail_reverse, List.reverse_reverse]
  | nthBack n => rw [onList, skips, List.rdrop_eq_reverse_drop_reverse]
  | next | nth n => cases h

/-- A call answers with the last address that it passes, unless it passes too few. -/
theorem answer_sublist (call : Call) (xs : List α) :
    (call.onList xs).1.toList.Sublist (call.passed xs) := by
  have hplace (ys : List α) (n : Nat) : ys[n]?.toList.Sublist (ys.take (n + 1)) := by
    rw [List.take_add_one]
    exact List.sublist_append_right _ _
  cases h : call.atFront with
  | true => rw [onList_front h, passed, if_pos h]; exact hplace _ _
  | false => rw [onList_back h, passed, if_neg (by rw [h]; decide)]; exact hplace _ _

theorem yieldedAt_sublist (front : Bool) (calls : List Call) (xs : List α) :
    (yieldedAt front calls (run onList calls xs).1).Sublist (passedAt front calls xs) := by
  induction calls generalizing xs with
  | nil => exact List.Sublist.slnil
  | cons call calls ih =>
    rw [run_cons, yieldedAt, passedAt]
    refine List.Sublist.append ?_ (ih _)
    split
    · exact answer_sublist call xs
    · exact List.Sublist.slnil

/-- **The calls cut the list in three.** The calls at the front pass a leading stretch in its order,
those at the back a closing stretch against its order, and what is between is left. -/
theorem passed_append_left (calls : List Call) (xs : List α) :
    passedAt true calls xs ++ (run onList calls xs).2 ++ (passedAt false calls xs).reverse = xs := by
  induction calls generalizing xs with
  | nil => exact List.append_nil xs
  | cons call calls ih =>
    have hrest := ih (call.onList xs).2
    rw [run_cons, passedAt, passedAt]
    cases h : call.atFront with
    | true =>
      have hsplit : call.passed xs ++ (call.onList xs).2 = xs := by
        rw [passed, if_pos h, onList_front h, List.take_append_drop]
      rw [if_pos rfl, if_neg (by decide), List.nil_append, List.append_assoc, List.append_assoc,
        ← List.append_assoc (passedAt true _ _), hrest, hsplit]
    | false =>
      have hsplit : (call.onList xs).2 ++ (call.passed xs).reverse = xs := by
        rw [passed, if_neg (by rw [h]; decide), onList_back h, ← List.reverse_append,
          List.take_append_drop, List.reverse_reverse]
      rw [if_neg (by decide), if_pos rfl, List.nil_append, List.reverse_append,
        ← List.append_assoc, hrest, hsplit]

/-! ### When nothing is left -/

theorem left_of_none {call : Call} {xs : List α} (h : (call.onList xs).1 = none) :
    (call.onList xs).2 = [] := by
  cases hfront : call.atFront with
  | true =>
    rw [onList_front hfront] at h ⊢
    exact List.drop_eq_nil_of_le (Nat.le_succ_of_le (List.getElem?_eq_none_iff.mp h))
  | false =>
    rw [onList_back hfront] at h ⊢
    rw [List.drop_eq_nil_of_le (Nat.le_succ_of_le (List.getElem?_eq_none_iff.mp h))]
    rfl

theorem run_nil (calls : List Call) : ∀ answer ∈ (run onList calls ([] : List α)).1, answer = none := by
  induction calls with
  | nil => exact fun answer h => absurd h List.not_mem_nil
  | cons call calls ih =>
    have hcall : call.onList ([] : List α) = (none, []) := by
      cases call <;> simp [onList]
    rw [run_cons, hcall]
    exact List.forall_mem_cons.mpr ⟨rfl, ih⟩

theorem none_after_none (calls : List Call) (xs : List α) :
    (run onList calls xs).1.Pairwise fun earlier later => earlier = none → later = none := by
  induction calls generalizing xs with
  | nil => exact List.Pairwise.nil
  | cons call calls ih =>
    rw [run_cons]
    refine List.Pairwise.cons (fun later hlater hnone => ?_) (ih _)
    rw [left_of_none hnone] at hlater
    exact run_nil calls later hlater

/-- Calls on a cursor have given `answers` and left the cursor `c`, as calls do that take from the
two ends of an ascending list. -/
structure TakesFrom (xs : List Address) (calls : List Call) (answers : List (Option Address))
    (c : Cursor) : Prop where
  answers_eq : answers = (run onList calls xs).1
  left_eq : c.toList = (run onList calls xs).2
  /-- An address is passed at the front, is left or is passed at the back, and only once. -/
  passed_or_left : xs = passedAt true calls xs ++ c.toList ++ (passedAt false calls xs).reverse
  yielded_of_passed (front : Bool) :
    (yieldedAt front calls answers).Sublist (passedAt front calls xs)
  /-- What is yielded at the front ascends, what is yielded at the back descends, and the one lies
  below the other. -/
  ascending : (yieldedAt true calls answers ++ (yieldedAt false calls answers).reverse).Pairwise
    Address.Precedes
  none_after_none : answers.Pairwise fun earlier later => earlier = none → later = none
  none_of_nothing_left : c.toList = [] → ∀ more : List Call, ∀ answer ∈ (run onCursor more c).1,
    answer = none

theorem takesFrom_toList (hsorted : c.toList.Pairwise Address.Precedes)
    (calls : List Call) :
    TakesFrom c.toList calls (run onCursor calls c).1 (run onCursor calls c).2 := by
  obtain ⟨hanswers, hleft⟩ := run_onCursor calls c
  have hyielded (front : Bool) : (yieldedAt front calls (run onCursor calls c).1).Sublist
      (passedAt front calls c.toList) := hanswers ▸ yieldedAt_sublist front calls c.toList
  have hpassed := passed_append_left calls c.toList
  have hbetween : (passedAt true calls c.toList ++ (passedAt false calls c.toList).reverse).Sublist
      c.toList := by
    have h := (List.sublist_append_left (passedAt true calls c.toList)
      (run onList calls c.toList).2).append_right (passedAt false calls c.toList).reverse
    rwa [hpassed] at h
  refine ⟨hanswers, hleft, ?_, hyielded, ?_, ?_, fun hnil more answer hanswer => ?_⟩
  · rw [hleft, hpassed]
  · exact hsorted.sublist (((hyielded true).append (hyielded false).reverse).trans hbetween)
  · rw [hanswers]
    exact none_after_none calls c.toList
  · rw [(run_onCursor more _).1, hnil] at hanswer
    exact run_nil more answer hanswer

end Call

/-! ### The addresses of a range -/

namespace AddressRange

variable {r : AddressRange} {xs ys : List Address}

/-- The addresses of a range, in ascending order and each once. -/
structure Lists (r : AddressRange) (xs : List Address) : Prop where
  ascending : xs.Pairwise Address.Precedes
  mem_iff (a : Address) : a ∈ xs ↔ r.contains a = true

theorem Lists.unique (hxs : r.Lists xs) (hys : r.Lists ys) : ys = xs := by
  have hvalues {zs : List Address} (h : r.Lists zs) : zs.Pairwise fun a b => a.value < b.value :=
    h.ascending.imp Address.precedes_iff.mp
  have : Std.Irrefl fun a b : Address => a.value < b.value := ⟨fun a => Nat.lt_irrefl a.value⟩
  have : Std.Antisymm fun a b : Address => a.value < b.value :=
    ⟨fun a b h h' => absurd h' (Nat.lt_asymm h)⟩
  exact (hvalues hys).eq_of_mem_iff (hvalues hxs) fun a => (hys.mem_iff a).trans (hxs.mem_iff a).symm

theorem toList_ofRange (r : AddressRange) :
    (Cursor.ofRange r).toList = (List.range' r.first.value r.size).map Address.ofValue := by
  have hfirst := UInt32.toNat_ofNat_of_lt' r.first.value_lt
  have hlast := UInt32.toNat_ofNat_of_lt' r.last.value_lt
  rw [Cursor.toList, Cursor.remaining, Cursor.ofRange, if_neg Bool.false_ne_true, hfirst, hlast, size]

theorem lists_toList (r : AddressRange) : r.Lists (Cursor.ofRange r).toList := by
  have hvalue {n : Nat} (h : n ∈ List.range' r.first.value r.size) :
      (Address.ofValue n).value = n := by
    have hlast := r.last.value_lt
    rw [List.mem_range'_1, size] at h
    exact Address.value_ofValue (by omega)
  rw [toList_ofRange]
  constructor
  · refine List.pairwise_map.mpr (List.Pairwise.imp_of_mem (fun ha hb hlt => ?_)
      (List.pairwise_lt_range' 1))
    rw [Address.precedes_iff, hvalue ha, hvalue hb]
    exact hlt
  · intro a
    rw [List.mem_map, contains_iff]
    constructor
    · rintro ⟨n, hn, rfl⟩
      rw [hvalue hn]
      rw [List.mem_range'_1, size] at hn
      omega
    · intro h
      refine ⟨a.value, ?_, Address.ofValue_value a⟩
      rw [List.mem_range'_1, size]
      omega

/-- **A walk along a range takes from both ends of the list of its addresses.** There is one such
list; it is as long as the range is large, and empty exactly if the range is out of order. -/
theorem calls_take_from_addresses (r : AddressRange) :
    ∃ xs : List Address, r.Lists xs ∧ (∀ ys, r.Lists ys → ys = xs) ∧
      xs.length = r.size ∧
      (r.isEmpty = true ↔ xs = []) ∧
      (r.isEmpty = true ↔ r.last.Precedes r.first) ∧
      ∀ calls : List Call, Call.TakesFrom xs calls
        (Call.run Call.onCursor calls (Cursor.ofRange r)).1
        (Call.run Call.onCursor calls (Cursor.ofRange r)).2 := by
  have hlists := lists_toList r
  have hlength : (Cursor.ofRange r).toList.length = r.size := by
    rw [toList_ofRange, List.length_map, List.length_range']
  refine ⟨(Cursor.ofRange r).toList, hlists, fun ys => hlists.unique, hlength, ?_, ?_,
    Call.takesFrom_toList hlists.ascending⟩
  · rw [← List.length_eq_zero_iff, hlength, isEmpty, beq_iff_eq]
  · rw [isEmpty_iff, Address.precedes_iff]

-- the two greatest addresses, where one more would wrap
example : (Call.run Call.onCursor [.next, .nth 0, .next]
    (Cursor.ofRange ⟨Address.ofValue 4294967294, Address.ofValue 4294967295⟩)).1 =
      [some (Address.ofValue 4294967294), some (Address.ofValue 4294967295), none] := by
  decide

end AddressRange
end IntervalRegex
