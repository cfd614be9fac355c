import IntervalRegex.Command.Arguments
import IntervalRegex.Proofs.Text.Decimal

/-!
# Flags around the bounds of an interval

Behind `range` stand two bounds, and flags may stand before, between and after them. A hyphen begins
flags and negative bounds alike, and the digits tell them apart. Flags only change what is given and
bounds only add to the values, so the flags count together wherever they stand, and the bounds are
read back as they were written.
-/

namespace IntervalRegex.Arguments

open Text

/-! ### Flags -/

/-- A flag as it is written: letters side by side behind one hyphen, or a word. -/
inductive Flag
  /-- One letter and `more` of them beside it. -/
  | letters (more : Nat)
  | quiet
  | anchored
deriving DecidableEq, Repr

def Flag.text : Flag → String
  | letters more => String.ofList ('-' :: List.replicate (more + 1) 'q')
  | quiet => "--quiet"
  | anchored => "--anchored"

/-- How often a flag asks for less output. -/
def Flag.count : Flag → Nat
  | letters more => more + 1
  | quiet => 1
  | anchored => 0

/-- What is given once a flag is added. -/
def Given.addFlag (given : Given) : Flag → Except ArgumentError Given
  | .anchored => given.add .anchored
  | flag => .ok { given with quiet := some (min 255 (given.quiet.getD 0 + flag.count)) }

def Given.addFlags (given : Given) (flags : List Flag) : Except ArgumentError Given :=
  flags.foldlM Given.addFlag given

/-- How often flags ask for less output together. -/
def quietCount (flags : List Flag) : Nat := (flags.map Flag.count).sum

theorem Flag.text_ne (flag : Flag) : flag.text ≠ "--" := by
  cases flag with
  | letters more =>
    rw [text, ne_eq, ← String.toList_inj, String.toList_ofList, List.replicate_succ]
    simp
  | quiet | anchored => decide

theorem Flag.isValue_text (flag : Flag) (count : Nat) :
    isValue (some .range) count flag.text.toList = false := by
  cases flag with
  | letters more =>
    rw [text, String.toList_ofList, List.replicate_succ]
    simp [isValue, looksNumeric, looksNumeric.go]
  | quiet | anchored => rfl

theorem Flag.switches_letters (more : Nat) :
    switches (some .range) (letters more).text.toList = List.replicate (more + 1) (.ok .quiet) := by
  rw [text, String.toList_ofList, List.replicate_succ]
  simp [switches, Switch.ofLetter, List.replicate_succ]

/-! ### One argument -/

section Arguments

variable {v : Values} (h : ∀ value ∈ v.values, isInt64 value = true)

include h

theorem settle_of_int64 : v.settle .range = .ok { v with pending := false } := by
  have hlast : v.values.head?.all isInt64 = true := by
    cases hvalues : v.values with
    | nil => rfl
    | cons value values => exact h value (hvalues ▸ List.mem_cons_self)
  rw [Values.settle, hlast]
  simp

theorem addSwitches_cons (switch : Switch) (rest : List (Except ArgumentError Switch)) :
    v.addSwitches .range (.ok switch :: rest) =
      (v.given.add switch).bind fun given =>
        Values.addSwitches .range { v with given := given, pending := false } rest := by
  rw [Values.addSwitches, settle_of_int64 h]
  rfl

theorem addSwitches_letters (more : Nat) :
    v.addSwitches .range (List.replicate (more + 1) (.ok .quiet)) =
      .ok { v with
        given := { v.given with quiet := some (min 255 (v.given.quiet.getD 0 + (more + 1))) }
        pending := false } := by
  induction more generalizing v with
  | zero =>
    rw [List.replicate_succ, addSwitches_cons h]
    rfl
  | succ more ih =>
    let once : Given := { v.given with quiet := some (min 255 (v.given.quiet.getD 0 + 1)) }
    have hquiet : min 255 (min 255 (v.given.quiet.getD 0 + 1) + (more + 1)) =
        min 255 (v.given.quiet.getD 0 + (more + 1 + 1)) := by
      omega
    calc v.addSwitches .range (List.replicate (more + 1 + 1) (.ok .quiet))
        = Values.addSwitches .range ⟨once, v.values, false⟩
            (List.replicate (more + 1) (.ok .quiet)) := by
          rw [List.replicate_succ, addSwitches_cons h]
          rfl
      _ = _ := by rw [ih (v := ⟨once, v.values, false⟩) h, Option.getD_some, hquiet]

/-- A flag changes what is given. -/
theorem addSwitches_flag (flag : Flag) :
    v.addSwitches .range (switches (some .range) flag.text.toList) =
      (v.given.addFlag flag).map fun given => { v with given := given, pending := false } := by
  cases flag with
  | letters more =>
    rw [Flag.switches_letters]
    exact addSwitches_letters h more
  | quiet =>
    have hswitches : switches (some .range) Flag.quiet.text.toList = [.ok .quiet] := by decide
    rw [hswitches, addSwitches_cons h]
    rfl
  | anchored =>
    have hswitches : switches (some .range) Flag.anchored.text.toList = [.ok .anchored] := by decide
    rw [hswitches, addSwitches_cons h]
    rfl

theorem readValues_flag (flag : Flag) (args : List String) :
    readValues .range false v (flag.text :: args) =
      (v.given.addFlag flag).bind fun given =>
        readValues .range false { v with given := given, pending := false } args := by
  rw [readValues, if_neg flag.text_ne, flag.isValue_text, addSwitches_flag h]
  cases v.given.addFlag flag <;> rfl

omit h in
/-- A number is no flag, not even with a hyphen in front. -/
theorem isValue_signedDecimal (n : Int) {count : Nat} (hcount : count < 2) :
    isValue (some .range) count (signedDecimal n) = true := by
  have hgo : ∀ (first : Bool) (cs : List Char), (∀ c ∈ cs, c.isDigit = true) →
      looksNumeric.go false false first cs = true := by
    intro first cs hcs
    induction cs generalizing first with
    | nil => rfl
    | cons c cs ih =>
      rw [List.forall_mem_cons] at hcs
      rw [looksNumeric.go, if_pos hcs.1, ih false hcs.2]
  cases n with
  | ofNat n =>
    obtain ⟨c, cs, hdecimal⟩ := List.exists_cons_of_ne_nil (decimal_ne_nil n)
    have hc : c ≠ '-' := by
      rintro rfl
      exact not_mem_decimal rfl n (hdecimal ▸ List.mem_cons_self)
    rw [signedDecimal, hdecimal]
    simp [isValue, hc]
  | negSucc n =>
    obtain ⟨c, cs, hdecimal⟩ := List.exists_cons_of_ne_nil (decimal_ne_nil (n + 1))
    have hc : c ≠ '-' := by
      rintro rfl
      exact not_mem_decimal rfl (n + 1) (hdecimal ▸ List.mem_cons_self)
    have hnumeric : looksNumeric (c :: cs) = true :=
      hgo true _ fun _ hmem => isDigit_of_mem_decimal (hdecimal ▸ hmem)
    rw [signedDecimal, hdecimal]
    simp [isValue, hc, hcount, hnumeric]

omit h in
theorem isInt64_toString (n : Int64) : isInt64 (toString n.toInt) = true := by
  rw [isInt64, toString_eq_signedDecimal, String.toList_ofList,
    readInt64_signedDecimal (isInt64_toInt n)]
  rfl

/-- A bound is added to the values. -/
theorem readValues_bound (hroom : v.values.length < 2) (n : Int64) (args : List String) :
    readValues .range false v (toString n.toInt :: args) =
      readValues .range false ⟨v.given, toString n.toInt :: v.values, true⟩ args := by
  have hends : toString n.toInt ≠ "--" := by
    intro heq
    have hint := isInt64_toString n
    rw [heq] at hint
    exact absurd hint (by decide)
  have hvalue : isValue (some .range) v.values.length (toString n.toInt).toList = true := by
    rw [toString_eq_signedDecimal, String.toList_ofList]
    exact isValue_signedDecimal n.toInt hroom
  have hadd : v.addValue .range (toString n.toInt) =
      .ok ⟨v.given, toString n.toInt :: v.values, true⟩ := by
    have hhas : Verb.range.hasRoom v.values.length = true := decide_eq_true hroom
    rw [Values.addValue, if_pos hhas, settle_of_int64 h]
    rfl
  rw [readValues, if_neg hends, if_pos hvalue, hadd]
  rfl

/-! ### Arguments in a row -/

theorem readValues_flags (flags : List Flag) (args : List String) :
    readValues .range false v (flags.map Flag.text ++ args) =
      (v.given.addFlags flags).bind fun given =>
        readValues .range false ⟨given, v.values, v.pending && flags.isEmpty⟩ args := by
  induction flags generalizing v with
  | nil =>
    rw [List.isEmpty_nil, Bool.and_true]
    rfl
  | cons flag flags ih =>
    rw [List.map_cons, List.cons_append, readValues_flag h, Given.addFlags, List.foldlM_cons]
    cases v.given.addFlag flag with
    | error fault => rfl
    | ok given =>
      rw [List.isEmpty_cons, Bool.and_false]
      exact (ih (v := ⟨given, v.values, false⟩) h).trans (by rw [Bool.false_and]; rfl)

end Arguments

theorem addFlags_append (given : Given) (flags more : List Flag) :
    given.addFlags (flags ++ more) =
      (given.addFlags flags).bind fun given => given.addFlags more := List.foldlM_append

/-- The bounds stay in their order, and the flags around them come together. -/
theorem readValues_bounds (min max : Int64) (before between after : List Flag) :
    readValues .range false ⟨.none, [], false⟩
      (before.map Flag.text ++ toString min.toInt ::
        (between.map Flag.text ++ toString max.toInt :: after.map Flag.text)) =
      (Given.none.addFlags (before ++ between ++ after)).map fun given =>
        ⟨given, [toString max.toInt, toString min.toInt], false⟩ := by
  have hnone : ∀ value ∈ ([] : List String), isInt64 value = true := fun _ hmem => nomatch hmem
  have hmin : ∀ value ∈ [toString min.toInt], isInt64 value = true :=
    List.forall_mem_singleton.mpr (isInt64_toString min)
  have hboth : ∀ value ∈ [toString max.toInt, toString min.toInt], isInt64 value = true :=
    List.forall_mem_cons.mpr ⟨isInt64_toString max, hmin⟩
  rw [addFlags_append, addFlags_append, readValues_flags hnone]
  cases Given.none.addFlags before with
  | error fault => rfl
  | ok given =>
    simp only [Except.bind]
    rw [readValues_bound (v := ⟨given, [], _⟩) hnone Nat.zero_lt_two, readValues_flags hmin]
    cases given.addFlags between with
    | error fault => rfl
    | ok given =>
      simp only [Except.bind]
      rw [readValues_bound (v := ⟨given, [_], _⟩) hmin Nat.one_lt_two,
        ← List.append_nil (after.map Flag.text), readValues_flags hboth]
      cases given.addFlags after with
      | error fault => rfl
      | ok given => exact settle_of_int64 hboth

/-! ### What flags count for -/

theorem addFlag_of_ne {flag : Flag} (h : flag ≠ .anchored) (given : Given) :
    given.addFlag flag =
      .ok { given with quiet := some (min 255 (given.quiet.getD 0 + flag.count)) } := by
  cases flag with
  | letters | quiet => rfl
  | anchored => exact absurd rfl h

section Count

variable (given : Given) {flags : List Flag}

/-- The count stops at 255 with the first flag that reaches it. -/
theorem exists_addFlags {n : Nat} (hquiet : given.quiet.getD 0 = min 255 n)
    (hcount : flags.count .anchored + given.anchored.toNat ≤ 1) :
    ∃ last, given.addFlags flags = .ok last ∧
      last.quiet.getD 0 = min 255 (n + quietCount flags) ∧
      last.anchored = (flags.contains .anchored || given.anchored) := by
  induction flags generalizing given n with
  | nil => exact ⟨given, rfl, hquiet, rfl⟩
  | cons flag flags ih =>
    rw [Given.addFlags, List.foldlM_cons]
    by_cases hflag : flag = .anchored
    · subst hflag
      rw [List.count_cons_self] at hcount
      have hgiven : given.anchored = false := Bool.toNat_eq_zero.mp (by omega)
      have honce : flags.count .anchored + true.toNat ≤ 1 := by
        rw [Bool.toNat_true]
        omega
      obtain ⟨last, hlast, hlastQuiet, hlastAnchored⟩ :=
        ih { given with anchored := true } hquiet honce
      refine ⟨last, ?_, ?_, ?_⟩
      · rw [Given.addFlag, Given.add, hgiven]
        exact hlast
      · rw [hlastQuiet, quietCount, quietCount, List.map_cons, List.sum_cons, Flag.count,
          Nat.zero_add]
      · rw [hlastAnchored, List.contains_cons]
        simp
    · rw [List.count_cons_of_ne hflag] at hcount
      have hadd : (some (min 255 (given.quiet.getD 0 + flag.count))).getD 0 =
          min 255 (n + flag.count) := by
        rw [Option.getD_some, hquiet]
        omega
      obtain ⟨last, hlast, hlastQuiet, hlastAnchored⟩ := ih { given with
        quiet := some (min 255 (given.quiet.getD 0 + flag.count)) } hadd hcount
      refine ⟨last, ?_, ?_, ?_⟩
      · rw [addFlag_of_ne hflag]
        exact hlast
      · rw [hlastQuiet, quietCount, quietCount, List.map_cons, List.sum_cons, Nat.add_assoc]
      · rw [hlastAnchored, List.contains_cons, beq_false_of_ne (Ne.symm hflag), Bool.false_or]

/-- A word that may be given once is refused where it stands again. -/
theorem addFlags_repeated (hcount : 1 < flags.count .anchored + given.anchored.toNat) :
    given.addFlags flags = .error .repeated := by
  induction flags generalizing given with
  | nil =>
    have hone := given.anchored.toNat_le
    rw [List.count_nil] at hcount
    omega
  | cons flag flags ih =>
    rw [Given.addFlags, List.foldlM_cons]
    by_cases hflag : flag = .anchored
    · subst hflag
      rw [List.count_cons_self] at hcount
      rw [Given.addFlag, Given.add]
      split
      · rfl
      · next hgiven =>
        apply ih { given with anchored := true }
        rw [Bool.toNat_true]
        rw [Bool.not_eq_true] at hgiven
        rw [hgiven, Bool.toNat_false] at hcount
        omega
    · rw [List.count_cons_of_ne hflag] at hcount
      rw [addFlag_of_ne hflag]
      exact ih _ hcount

end Count

/-! ### The command -/

theorem read_range_eq (args : List String) :
    read ("range" :: args) = (readValues .range false ⟨.none, [], false⟩ args).bind fun v =>
      (command .range v.values.reverse).map fun command => ⟨command, Given.none.options v.given⟩ :=
  rfl

theorem command_bounds (min max : Int64) :
    command .range [toString min.toInt, toString max.toInt] =
      .ok (.range min.toInt max.toInt) := by
  have hread : ∀ n : Int64, readInt64 (toString n.toInt).toList = some n.toInt := by
    intro n
    rw [toString_eq_signedDecimal, String.toList_ofList]
    exact readInt64_signedDecimal (isInt64_toInt n)
  rw [command, hread, hread]

/-- **Bounds among flags.** For all integers of 64 bits, written one after the other behind `range`
with any flags before, between and after them, the command has these bounds. The letters and words
that ask for less output count together, up to 255, and patterns are anchored if that was asked for
once. Asking twice is refused. -/
theorem bounds_read_among_flags (min max : Int64) (before between after : List Flag) :
    read ("range" :: (before.map Flag.text ++ toString min.toInt ::
      (between.map Flag.text ++ toString max.toInt :: after.map Flag.text))) =
      if (before ++ between ++ after).count .anchored ≤ 1 then
        .ok ⟨.range min.toInt max.toInt, ⟨Nat.min 255 (quietCount (before ++ between ++ after)),
          (before ++ between ++ after).contains .anchored⟩⟩
      else .error .repeated := by
  rw [read_range_eq, readValues_bounds]
  generalize before ++ between ++ after = flags
  split
  · next hcount =>
    obtain ⟨given, hgiven, hquiet, hanchored⟩ :=
      exists_addFlags .none (n := 0) rfl hcount
    rw [Nat.zero_add] at hquiet
    have hoptions : Given.none.options given =
        ⟨Nat.min 255 (quietCount flags), flags.contains .anchored⟩ := by
      rw [Given.options, hanchored, Given.none, Option.or_none, hquiet, Bool.or_false,
        Bool.or_false]
    rw [hgiven, ← hoptions]
    change (command .range [toString min.toInt, toString max.toInt]).map _ = _
    rw [command_bounds]
    rfl
  · next hcount =>
    rw [addFlags_repeated .none (Nat.not_le.mp hcount)]
    rfl

/-- Every word behind the command begins with a hyphen. -/
example : read ["range", "-qq", "-11", "--anchored", "-3", "-q"] =
    .ok ⟨.range (-11) (-3), ⟨3, true⟩⟩ := by decide +kernel

end IntervalRegex.Arguments
