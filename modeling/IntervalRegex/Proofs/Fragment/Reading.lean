import IntervalRegex.Proofs.Fragment.Language
import IntervalRegex.Proofs.Matcher
import IntervalRegex.Proofs.Regex.Language
import IntervalRegex.Proofs.Text.Decimal

/-!
# Reading a fragment back

The text of a well-formed fragment is a regular expression, and the expression denotes the language
of the fragment. The text is cut into the lexemes of the tree, and the lexemes extend the frame that
is being read constructor by constructor.
-/

namespace IntervalRegex.Fragment

open Regex

def digitSet : Regex := .char (.shorthand .digit false)

/-- The lexemes of the text, with their widths. -/
def lexemes : Fragment → List (Lexeme × Nat)
  | nothing => []
  | digit value => [(.atom (.char (.single value.digitChar)), 1)]
  | minus => [(.atom (.char (.single '-')), 1)]
  | dot => [(.atom (.char (.single '.')), 2)]
  | anyDigit => [(.atom digitSet, 2)]
  | anyDigits count =>
    [(.atom digitSet, 2), (.count count (some count), (Text.decimal count).length + 2)]
  | pair first second =>
    [(.atom (.char (.oneOf false [.single first.digitChar, .single second.digitChar])), 4)]
  | digits first last =>
    [(.atom (.char (.oneOf false [.range first.digitChar last.digitChar])), 5)]
  | seq first second => first.lexemes ++ second.lexemes
  | bar left right => left.lexemes ++ (.bar, 1) :: right.lexemes
  | group body => (.opening none, 3) :: (body.lexemes ++ [(.closing, 1)])

theorem digitChar_ne {n : Nat} (h : n < 10) {c : Char} (hc : c.isDigit = false) :
    n.digitChar ≠ c := by
  rintro rfl
  rw [Nat.isDigit_digitChar, decide_eq_false_iff_not] at hc
  exact hc h

theorem read_digitChar {n : Nat} (h : n < 10) (cs : List Char) :
    Lexeme.read n.digitChar cs = .ok (.atom (.char (.single n.digitChar)), cs) := by
  rw [Lexeme.read] <;> exact digitChar_ne h (by decide)

theorem readMember_digitChar {n : Nat} (h : n < 10) (cs : List Char) :
    readMember (n.digitChar :: cs) = .ok (.char n.digitChar, cs) := by
  rw [readMember]
  exact digitChar_ne h (by decide)

theorem readItem_digitChar {n : Nat} (h : n < 10) {c : Char} (hc : c ≠ '-') (cs : List Char) :
    readItem (n.digitChar :: c :: cs) = .ok (.single n.digitChar, c :: cs) := by
  rw [readItem, readMember_digitChar h]
  simp [bind, Except.bind, pure, Except.pure, Escape.item, hc]

theorem readItem_range {m n : Nat} (hmn : m ≤ n) (hn : n < 10) (cs : List Char) :
    readItem (m.digitChar :: '-' :: n.digitChar :: cs) =
      .ok (.range m.digitChar n.digitChar, cs) := by
  have hle : m.digitChar ≤ n.digitChar := by
    rw [Char.le_def, UInt32.le_iff_toNat_le]
    have hm := Nat.toNat_digitChar_of_lt_ten (Nat.lt_of_le_of_lt hmn hn)
    have hn' := Nat.toNat_digitChar_of_lt_ten hn
    simp only [Char.toNat] at hm hn'
    omega
  have hclose := digitChar_ne hn (c := ']') (by decide)
  have hhyphen := digitChar_ne hn (c := '-') (by decide)
  rw [readItem, readMember_digitChar (Nat.lt_of_le_of_lt hmn hn)]
  simp [bind, Except.bind, pure, Except.pure, rangeItem, readMember_digitChar hn, hclose, hhyphen,
    hle]

theorem readItems_digitChar {n : Nat} (h : n < 10) {cs rest rest' : List Char} {item : ClassItem}
    {items : List ClassItem} (hitem : readItem (n.digitChar :: cs) = .ok (item, rest))
    (hitems : readItems rest = .ok (items, rest')) :
    readItems (n.digitChar :: cs) = .ok (item :: items, rest') := by
  rw [readItems]
  · split
    · next hfault => rw [hitem] at hfault; cases hfault
    · next hread =>
      rw [hitem, Except.ok.injEq, Prod.mk.injEq] at hread
      obtain ⟨rfl, rfl⟩ := hread
      rw [hitems]
  all_goals
    intro tail heq
    rw [List.cons.injEq] at heq
    exact digitChar_ne h (by decide) heq.1

/-- A class that begins with a digit holds its items and nothing else. -/
theorem readClass_digitChar {n : Nat} (h : n < 10) {cs : List Char} {items : List ClassItem}
    (hitems : readItems (n.digitChar :: cs) = .ok (items, [])) :
    readClass (n.digitChar :: cs) = .ok (.oneOf false items, []) := by
  have hcaret := digitChar_ne h (c := '^') (by decide)
  have hhyphen := digitChar_ne h (c := '-') (by decide)
  have hclose := digitChar_ne h (c := ']') (by decide)
  simp [readClass, hcaret, hhyphen, hclose, hitems, bind, Except.bind, pure, Except.pure]

theorem readItems_close : readItems [']'] = .ok ([], []) := by
  rw [readItems]

theorem readClass_pair {m n : Nat} (hm : m < 10) (hn : n < 10) :
    readClass [m.digitChar, n.digitChar, ']'] =
      .ok (.oneOf false [.single m.digitChar, .single n.digitChar], []) := by
  apply readClass_digitChar hm
  apply readItems_digitChar hm (readItem_digitChar hm (digitChar_ne hn (by decide)) [']'])
  exact readItems_digitChar hn (readItem_digitChar hn (by decide) []) readItems_close

theorem readClass_digits {m n : Nat} (hmn : m ≤ n) (hn : n < 10) :
    readClass [m.digitChar, '-', n.digitChar, ']'] =
      .ok (.oneOf false [.range m.digitChar n.digitChar], []) := by
  have hm := Nat.lt_of_le_of_lt hmn hn
  apply readClass_digitChar hm
  exact readItems_digitChar hm (readItem_range hmn hn [']']) readItems_close

theorem not_isBlank_of_isDigit {c : Char} (h : c.isDigit = true) : ¬ Text.isBlank c = true := by
  have hbounds : 48 ≤ c.toNat ∧ c.toNat ≤ 57 := Char.isDigit_iff_toNat.mp h
  simp only [Text.isBlank, Bool.or_eq_true, Bool.and_eq_true, decide_eq_true_eq, beq_iff_eq]
  omega

theorem readCount_decimal {count : Nat} (h : count < 1 <<< 32) :
    readCount (Text.decimal count ++ ['}']) = .ok (.count count (some count), []) := by
  have hdigits : ∀ c ∈ Text.decimal count, c.isDigit = true :=
    fun c hc => Text.isDigit_of_mem_decimal hc
  have hne := Text.decimal_ne_nil count
  have htake : (Text.decimal count ++ ['}']).takeWhile Char.isDigit = Text.decimal count := by
    rw [List.takeWhile_append_of_pos hdigits]
    exact List.append_nil _
  have hdrop : (Text.decimal count ++ ['}']).dropWhile Char.isDigit = ['}'] := by
    rw [List.dropWhile_append_of_pos hdigits]
    rfl
  have hblank : (Text.decimal count ++ ['}']).dropWhile Text.isBlank =
      Text.decimal count ++ ['}'] := by
    obtain ⟨c, cs, hcs⟩ := List.exists_cons_of_ne_nil hne
    have hc := hdigits c (hcs ▸ List.mem_cons_self)
    rw [hcs, List.cons_append, List.dropWhile_cons_of_neg (not_isBlank_of_isDigit hc)]
  have hnumber : readCountNumber (Text.decimal count ++ ['}']) = .ok (count, ['}']) := by
    unfold readCountNumber
    dsimp only
    rw [hblank, htake, hdrop, if_neg hne, Text.digitsValue_decimal, if_pos h]
    rfl
  rw [readCount, hnumber]
  rfl

theorem head?_text_ne {f : Fragment} (h : f.WellFormed) : f.text.head? ≠ some '?' := by
  induction f with
  | nothing | minus | dot | anyDigit | anyDigits | pair | digits | group => simp [text]
  | digit value =>
    rw [text, List.head?_cons, ne_eq, Option.some.injEq]
    exact digitChar_ne h (by decide)
  | seq first second ih₁ ih₂ =>
    obtain ⟨⟨hfirst, -⟩, hsecond, -⟩ := h
    rw [text, List.head?_append]
    cases hhead : first.text.head? with
    | none => exact ih₂ hsecond
    | some c =>
      rw [Option.some_or, ← hhead]
      exact ih₁ hfirst
  | bar left right ih₁ ih₂ =>
    rw [text, List.head?_append]
    cases hhead : left.text.head? with
    | none => simp
    | some c =>
      rw [Option.some_or, ← hhead]
      exact ih₁ h.1.1

theorem scan_text {f : Fragment} (h : f.WellFormed) : scan f.text = (f.lexemes, none) := by
  induction f with
  | nothing => rw [text, scan, lexemes]
  | digit value =>
    rw [text, scan_cons _ (read_digitChar h []), scan]
    rfl
  | minus =>
    rw [text, scan_cons (.atom (.char (.single '-'))) rfl, scan]
    rfl
  | dot =>
    rw [text, scan_cons (.atom (.char (.single '.'))) rfl, scan]
    rfl
  | anyDigit =>
    rw [text, scan_cons (.atom digitSet) rfl, scan]
    rfl
  | anyDigits count =>
    have hread : Lexeme.read '{' (Text.decimal count ++ ['}']) =
        .ok (.count count (some count), []) := readCount_decimal h.2
    have htext : (anyDigits count).text =
        '\\' :: 'd' :: '{' :: (Text.decimal count ++ ['}']) := rfl
    rw [htext, scan_cons (.atom digitSet) rfl, scan_cons _ hread, scan]
    simp [lexemes]
  | pair first second =>
    have hread : Lexeme.read '[' [first.digitChar, second.digitChar, ']'] = .ok
        (.atom (.char (.oneOf false [.single first.digitChar, .single second.digitChar])), []) :=
      bind_eq_ok.mpr ⟨_, readClass_pair (Nat.lt_trans h.1 h.2) h.2, rfl⟩
    rw [text, scan_cons _ hread, scan]
    rfl
  | digits first last =>
    have hread : Lexeme.read '[' [first.digitChar, '-', last.digitChar, ']'] = .ok
        (.atom (.char (.oneOf false [.range first.digitChar last.digitChar])), []) :=
      bind_eq_ok.mpr ⟨_, readClass_digits (Nat.le_of_lt h.1) h.2, rfl⟩
    rw [text, scan_cons _ hread, scan]
    rfl
  | seq first second ih₁ ih₂ =>
    obtain ⟨⟨hfirst, -⟩, hsecond, -⟩ := h
    have hscan : (scan first.text).2 = none := by rw [ih₁ hfirst]
    rw [text, scan_append (head?_text_ne hsecond) hscan, ih₁ hfirst, ih₂ hsecond, lexemes]
  | bar left right ih₁ ih₂ =>
    obtain ⟨⟨hleft, -⟩, hright⟩ := h
    have hscan : (scan left.text).2 = none := by rw [ih₁ hleft]
    have hbar : scan ('|' :: right.text) = ((.bar, 1) :: right.lexemes, none) := by
      rw [scan_cons .bar rfl, ih₂ hright]
      simp
    rw [text, scan_append (by simp) hscan, ih₁ hleft, hbar, lexemes]
  | group body ih =>
    obtain ⟨hbody, -⟩ := h
    have hscan : (scan body.text).2 = none := by rw [ih hbody]
    have hclose : scan [')'] = ([(.closing, 1)], none) := by
      rw [scan_cons .closing rfl, scan]
      rfl
    have hgroup : (group body).text = '(' :: '?' :: ':' :: (body.text ++ [')']) := rfl
    rw [hgroup, scan_cons (.opening none) rfl, scan_append (by simp) hscan, ih hbody,
      hclose, lexemes]
    simp

/-! ### The expression that is read -/

/-- What reading the fragment makes of the frame that is being read. -/
def extend : Fragment → Frame → Frame
  | nothing, frame => frame
  | digit value, frame => frame.addAtom (.char (.single value.digitChar))
  | minus, frame => frame.addAtom (.char (.single '-'))
  | dot, frame => frame.addAtom (.char (.single '.'))
  | anyDigit, frame => frame.addAtom digitSet
  | anyDigits count, frame => frame.addAtom (.times digitSet count (some count))
  | pair first second, frame =>
    frame.addAtom (.char (.oneOf false [.single first.digitChar, .single second.digitChar]))
  | digits first last, frame =>
    frame.addAtom (.char (.oneOf false [.range first.digitChar last.digitChar]))
  | seq first second, frame => second.extend (first.extend frame)
  | bar left right, frame => right.extend (left.extend frame).addBar
  | group body, frame => frame.addAtom (body.extend .empty).regex

/-- The expression that the text is read as. -/
def regex (f : Fragment) : Regex := (f.extend .empty).regex

theorem addAll_lexemes (f : Fragment) (groups : Groups) (column : Nat) :
    groups.addAll column f.lexemes = .ok { groups with inner := f.extend groups.inner } := by
  induction f generalizing groups column with
  | nothing | digit | minus | dot | anyDigit | anyDigits | pair | digits => rfl
  | seq first second ih₁ ih₂ =>
    obtain ⟨start, hstart⟩ := Groups.addAll_append (ih₁ groups column) second.lexemes
    rw [lexemes, hstart, ih₂]
    rfl
  | bar left right ih₁ ih₂ =>
    obtain ⟨start, hstart⟩ :=
      Groups.addAll_append (ih₁ groups column) ((.bar, 1) :: right.lexemes)
    rw [lexemes, hstart, Groups.addAll, Groups.add]
    exact ih₂ _ _
  | group body ih =>
    obtain ⟨start, hstart⟩ := Groups.addAll_append
      (ih ⟨.empty, groups.inner :: groups.outer, groups.names⟩ (column + 3)) [(.closing, 1)]
    rw [lexemes, Groups.addAll, Groups.add]
    exact hstart

/-- **Reading back.** The text of a well-formed fragment is an expression by itself. -/
theorem read_text {f : Fragment} (h : f.WellFormed) : Regex.read f.text = .ok f.regex := by
  rw [read_eq_ok_iff, scan_text h]
  exact ⟨rfl, _, addAll_lexemes f .empty 0, rfl, rfl⟩

/-! ### What it matches -/

variable {d : Dialect}

theorem denotes_set {set : CharSet} {L : Language Char}
    (h : ∀ word, word ∈ L ↔ ∃ c, set.mem d c = true ∧ word = [c]) :
    Denotes d (.char set) L := by
  have hlang : L = {word | ∃ c, set.mem d c = true ∧ word = [c]} := Language.ext h
  rw [hlang]
  exact denotes_char set

theorem denotes_single (c : Char) : Denotes d (.char (.single c)) {[c]} := by
  apply denotes_set
  intro word
  constructor
  · intro hword
    exact ⟨c, beq_self_eq_true c, hword⟩
  · intro hword
    obtain ⟨x, hx, rfl⟩ := hword
    rw [beq_iff_eq.mp hx]
    rfl

theorem denotes_digitSet : Denotes d digitSet (digitIn d) := by
  apply denotes_set
  intro word
  simp only [CharSet.mem, Bool.bne_false]
  rfl

theorem denotes_pair (m n : Nat) :
    Denotes d (.char (.oneOf false [.single m.digitChar, .single n.digitChar]))
      (oneDigit m m + oneDigit n n) := by
  apply denotes_set
  intro word
  rw [oneDigit_self, oneDigit_self, Language.mem_add]
  constructor
  · intro hword
    rcases hword with rfl | rfl
    · exact ⟨m.digitChar, by simp [CharSet.mem, ClassItem.mem], rfl⟩
    · exact ⟨n.digitChar, by simp [CharSet.mem, ClassItem.mem], rfl⟩
  · intro hword
    obtain ⟨c, hc, rfl⟩ := hword
    simp only [CharSet.mem, ClassItem.mem, List.any_cons, List.any_nil, Bool.or_false,
      bne_iff_ne, ne_eq, Bool.not_eq_false, Bool.or_eq_true, beq_iff_eq] at hc
    rcases hc with rfl | rfl
    · exact .inl rfl
    · exact .inr rfl

theorem denotes_digits {m n : Nat} (hm : m < 10) (hn : n < 10) :
    Denotes d (.char (.oneOf false [.range m.digitChar n.digitChar])) (oneDigit m n) := by
  have hmem : ∀ c, (CharSet.oneOf false [.range m.digitChar n.digitChar]).mem d c = true ↔
      ∃ k, m ≤ k ∧ k ≤ n ∧ c = k.digitChar := by
    intro c
    have htoNat := Nat.toNat_digitChar_of_lt_ten hm
    have htoNat' := Nat.toNat_digitChar_of_lt_ten hn
    rw [exists_digitChar_iff hn, ← htoNat, ← htoNat']
    simp [CharSet.mem, ClassItem.mem, Char.le_def, UInt32.le_iff_toNat_le]
  apply denotes_set
  intro word
  constructor
  · intro hword
    obtain ⟨k, hlo, hhi, rfl⟩ := hword
    exact ⟨k.digitChar, (hmem _).mpr ⟨k, hlo, hhi, rfl⟩, rfl⟩
  · intro hword
    obtain ⟨c, hc, rfl⟩ := hword
    obtain ⟨k, hlo, hhi, rfl⟩ := (hmem c).mp hc
    exact ⟨k, hlo, hhi, rfl⟩

/-- Reading the fragment goes on with the current branch. -/
def Continues (d : Dialect) (f : Fragment) : Prop :=
  ∀ (frame : Frame) (before current : Language Char), frame.Denotes d before current →
    (f.extend frame).Denotes d before (current * f.langIn d)

/-- Reading the fragment at the start of a branch adds its alternatives to the branches. -/
def Branches (d : Dialect) (f : Fragment) : Prop :=
  ∀ (frame : Frame) (before : Language Char), frame.Denotes d before 1 →
    ∃ before' current, (f.extend frame).Denotes d before' current ∧
      before' + current = before + f.langIn d

theorem Continues.branches {f : Fragment} (h : f.Continues d) : f.Branches d := by
  intro frame before hframe
  refine ⟨before, 1 * f.langIn d, h frame before 1 hframe, ?_⟩
  rw [one_mul]

theorem Branches.regex {f : Fragment} (h : f.Branches d) : f.regex.Denotes d (f.langIn d) := by
  obtain ⟨before, current, hframe, hlang⟩ := h .empty 0 Frame.denotes_empty
  rw [zero_add] at hlang
  rw [← hlang]
  exact hframe.regex

theorem continues_of_denotes {f : Fragment} {r : Regex}
    (hextend : ∀ frame, f.extend frame = frame.addAtom r) (h : r.Denotes d (f.langIn d)) :
    f.Continues d := by
  intro frame before current hframe
  rw [hextend]
  exact hframe.addAtom h

theorem continues_and_branches {f : Fragment} (h : f.WellFormed) :
    (f.isBar = false → f.Continues d) ∧ f.Branches d := by
  have both : ∀ {f : Fragment}, f.Continues d → (f.isBar = false → f.Continues d) ∧ f.Branches d :=
    fun hf => ⟨fun _ => hf, hf.branches⟩
  induction f with
  | nothing =>
    apply both
    intro frame before current hframe
    have hlang : nothing.langIn d = 1 := rfl
    rw [hlang, mul_one]
    exact hframe
  | digit value =>
    apply both (continues_of_denotes (fun _ => rfl) _)
    have hlang : (digit value).langIn d = {[value.digitChar]} := oneDigit_self value
    rw [hlang]
    exact denotes_single value.digitChar
  | minus => exact both (continues_of_denotes (fun _ => rfl) (denotes_single '-'))
  | dot => exact both (continues_of_denotes (fun _ => rfl) (denotes_single '.'))
  | anyDigit => exact both (continues_of_denotes (fun _ => rfl) denotes_digitSet)
  | anyDigits count =>
    exact both (continues_of_denotes (fun _ => rfl) (denotes_digitSet.times count))
  | pair first second =>
    exact both (continues_of_denotes (fun _ => rfl) (denotes_pair first second))
  | digits first last =>
    exact both (continues_of_denotes (fun _ => rfl)
      (denotes_digits (Nat.lt_trans h.1 h.2) h.2))
  | seq first second ih₁ ih₂ =>
    obtain ⟨⟨hfirst, hfirstBar⟩, hsecond, hsecondBar⟩ := h
    apply both
    intro frame before current hframe
    rw [langIn, ← mul_assoc]
    exact (ih₂ hsecond).1 hsecondBar _ _ _ ((ih₁ hfirst).1 hfirstBar _ _ _ hframe)
  | bar left right ih₁ ih₂ =>
    obtain ⟨⟨hleft, hleftBar⟩, hright⟩ := h
    refine ⟨fun hbar => Bool.noConfusion hbar, ?_⟩
    intro frame before hframe
    have hbar := ((ih₁ hleft).1 hleftBar frame before 1 hframe).addBar
    obtain ⟨before', current, hlast, hlang⟩ := (ih₂ hright).2 _ _ hbar
    refine ⟨before', current, hlast, ?_⟩
    rw [hlang, one_mul, langIn, add_assoc]
  | group body ih =>
    exact both (continues_of_denotes (fun _ => rfl) (ih h.1).2.regex)

theorem regex_denotes_in {f : Fragment} (h : f.WellFormed) :
    f.regex.Denotes d (f.langIn d) :=
  (continues_and_branches h).2.regex

theorem regex_denotes {f : Fragment} (h : f.WellFormed) : f.regex.Denotes .ascii f.lang := by
  rw [← langIn_ascii]
  exact regex_denotes_in h

/-! ### That the dialect allows it -/

theorem fits_extend {f : Fragment} (h : f.WellFormed) {frame : Frame} (hframe : frame.Fits .ascii) :
    (f.extend frame).Fits .ascii := by
  have hascii : ∀ {n : Nat}, n < 10 → n.digitChar.toNat < 128 := by
    intro n hn
    rw [Nat.toNat_digitChar_of_lt_ten hn]
    omega
  induction f generalizing frame with
  | nothing => exact hframe
  | digit | minus | dot | anyDigit | anyDigits => exact hframe.addAtom rfl
  | pair first second | digits first second =>
    apply hframe.addAtom
    simp [fits, CharSet.fits, ClassItem.isAscii, ClassItem.isNegated, hascii h.2,
      hascii (Nat.lt_trans h.1 h.2)]
  | seq first second ih₁ ih₂ => exact ih₂ h.2.1 (ih₁ h.1.1 hframe)
  | bar left right ih₁ ih₂ => exact ih₂ h.2 (ih₁ h.1.1 hframe).addBar
  | group body ih => exact hframe.addAtom (ih h.1 Frame.fits_empty).regex

theorem fits_regex {f : Fragment} (h : f.WellFormed) : f.regex.fits .ascii = true :=
  (fits_extend h Frame.fits_empty).regex

/-- **The matcher of a fragment.** The pattern of a well-formed fragment compiles, and the matcher
accepts the words of its language. -/
theorem exists_compile {f : Fragment} (h : f.WellFormed) :
    ∃ m, Matcher.compile .ascii (String.ofList f.text) = .ok m ∧
      ∀ input : String, m.accepts input = true ↔ input.toList ∈ f.lang := by
  have hread : Regex.read (String.ofList f.text).toList = .ok f.regex := by
    rw [String.toList_ofList]
    exact read_text h
  refine ⟨_, Matcher.compile_eq_ok hread (fits_regex h), ?_⟩
  intro input
  rw [Matcher.accepts_anchored_iff]
  exact (regex_denotes h).matches_iff

end IntervalRegex.Fragment
