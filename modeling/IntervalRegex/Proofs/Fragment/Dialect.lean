import IntervalRegex.Proofs.Fragment.Reading

/-!
# The minimal dialect

The texts that a few rules derive: digits, a hyphen, an escaped dot, digits of any value, classes of
digits, and groups of alternatives, side by side. A derived text has no bar outside groups and
leaves none open. Whatever stands next to it therefore leaves it whole: side by side texts match the
product of their languages, and the branches of a group match the union.
-/

namespace IntervalRegex

open Fragment Text

/-- The texts of the minimal dialect: any number of pieces side by side, also none. -/
inductive Derivable : List Char → Prop
  | nothing : Derivable []
  | digit {n : Nat} (h : n < 10) : Derivable [n.digitChar]
  | minus : Derivable ['-']
  | dot : Derivable ['\\', '.']
  | anyDigit : Derivable ['\\', 'd']
  /-- A count that a repetition can have, of which the least is two. -/
  | anyDigits {count : Nat} (htwo : 2 ≤ count) (hbits : count < 1 <<< 32) :
    Derivable (['\\', 'd', '{'] ++ decimal count ++ ['}'])
  | pair {m n : Nat} (hlt : m < n) (hn : n < 10) : Derivable ['[', m.digitChar, n.digitChar, ']']
  | digits {m n : Nat} (hlt : m < n) (hn : n < 10) :
    Derivable ['[', m.digitChar, '-', n.digitChar, ']']
  | append {p q : List Char} (hp : Derivable p) (hq : Derivable q) : Derivable (p ++ q)
  | group {branches : List (List Char)} (htwo : 2 ≤ branches.length)
    (h : ∀ branch ∈ branches, Derivable branch) :
    Derivable ("(?:".toList ++ ['|'].intercalate branches ++ [')'])

/-! ### Bars and groups

No text of the dialect escapes a parenthesis or a bar, or has one in a class, so that counting the
characters counts the groups. -/

/-- The number of open groups behind one more character: a bar outside groups has none, and neither
has the end of a group that is not open. -/
def openStep : Nat → Char → Option Nat
  | depth, '(' => some (depth + 1)
  | 0, ')' | 0, '|' => none
  | depth + 1, ')' => some depth
  | depth, _ => some depth

/-- The number of open groups behind a text that begins inside `depth` of them. -/
def openAfter (depth : Nat) (text : List Char) : Option Nat := text.foldlM openStep depth

theorem openAfter_append (depth : Nat) (p q : List Char) :
    openAfter depth (p ++ q) = (openAfter depth p).bind fun depth => openAfter depth q :=
  List.foldlM_append

/-- The characters that open and close groups and part alternatives. -/
def isMark (c : Char) : Bool := c == '(' || c == ')' || c == '|'

theorem isMark_of_isDigit {c : Char} (h : c.isDigit = true) : isMark c = false := by
  rw [Bool.eq_false_iff]
  intro hmark
  simp only [isMark, Bool.or_eq_true, beq_iff_eq] at hmark
  rcases hmark with (rfl | rfl) | rfl <;> cases h

theorem openStep_of_not_mark {c : Char} (h : isMark c = false) (depth : Nat) :
    openStep depth c = some depth := by
  unfold openStep
  split
  case h_5 => rfl
  all_goals cases h

theorem openAfter_of_no_mark {text : List Char} (h : ∀ c ∈ text, isMark c = false) (depth : Nat) :
    openAfter depth text = some depth := by
  induction text with
  | nil => rfl
  | cons c text ih =>
    rw [List.forall_mem_cons] at h
    rw [openAfter, List.foldlM_cons, openStep_of_not_mark h.1]
    exact ih h.2

theorem openAfter_intercalate {branches : List (List Char)} {depth : Nat}
    (h : ∀ branch ∈ branches, openAfter (depth + 1) branch = some (depth + 1)) :
    openAfter (depth + 1) (['|'].intercalate branches) = some (depth + 1) := by
  induction branches with
  | nil => rfl
  | cons first rest ih =>
    rw [List.forall_mem_cons] at h
    cases rest with
    | nil => simpa [List.intercalate] using h.1
    | cons second rest =>
      have htext : ['|'].intercalate (first :: second :: rest) =
          first ++ (['|'] ++ ['|'].intercalate (second :: rest)) := by simp [List.intercalate]
      have hbar : openAfter (depth + 1) ['|'] = some (depth + 1) := rfl
      rw [htext, openAfter_append, h.1, Option.bind_some, openAfter_append, hbar, Option.bind_some]
      exact ih h.2

/-- Behind a derived text the groups are open that were open in front of it, and none of them was
closed on the way. -/
theorem Derivable.openAfter_eq {text : List Char} (h : Derivable text) (depth : Nat) :
    openAfter depth text = some depth := by
  induction h generalizing depth with
  | nothing | minus | dot | anyDigit => rfl
  | digit => exact openAfter_of_no_mark (by simp [isMark]) depth
  | @anyDigits count =>
    have hdigits : ∀ c ∈ decimal count, isMark c = false :=
      fun c hc => isMark_of_isDigit (isDigit_of_mem_decimal hc)
    have hleft : openAfter depth ['\\', 'd', '{'] = some depth := rfl
    rw [openAfter_append, openAfter_append, hleft, Option.bind_some,
      openAfter_of_no_mark hdigits, Option.bind_some]
    rfl
  | pair | digits => exact openAfter_of_no_mark (by simp [isMark]) depth
  | append _ _ ih₁ ih₂ => rw [openAfter_append, ih₁, Option.bind_some, ih₂]
  | @group branches _ _ ih =>
    have hopen : openAfter depth "(?:".toList = some (depth + 1) := rfl
    have hbranches := openAfter_intercalate fun branch hbranch => ih branch hbranch (depth + 1)
    have hclose : openAfter (depth + 1) [')'] = some depth := rfl
    rw [openAfter_append, openAfter_append, hopen, Option.bind_some, hbranches, Option.bind_some,
      hclose]

/-! ### Derived texts as fragments -/

theorem alternate_of_two_le {texts : List (List Char)} (h : 2 ≤ texts.length) :
    alternate texts = "(?:".toList ++ ['|'].intercalate texts ++ [')'] := by
  match texts, h with
  | _ :: _ :: _, _ => rfl

theorem derivable_alternate {branches : List (List Char)}
    (h : ∀ branch ∈ branches, Derivable branch) : Derivable (alternate branches) := by
  match branches with
  | [] => exact .nothing
  | [branch] => exact h branch (List.mem_singleton_self branch)
  | first :: second :: rest => exact .group (by simp) h

theorem exists_fragments {texts : List (List Char)}
    (h : ∀ text ∈ texts, ∃ f : Fragment, f.Closed ∧ f.text = text) :
    ∃ fragments : List Fragment, (∀ f ∈ fragments, f.Closed) ∧ fragments.map text = texts := by
  induction texts with
  | nil => exact ⟨[], by simp, rfl⟩
  | cons first texts ih =>
    rw [List.forall_mem_cons] at h
    obtain ⟨⟨f, hf, rfl⟩, hrest⟩ := h
    obtain ⟨fragments, hclosed, rfl⟩ := ih hrest
    exact ⟨f :: fragments, List.forall_mem_cons.mpr ⟨hf, hclosed⟩, rfl⟩

theorem Derivable.exists_fragment {text : List Char} (h : Derivable text) :
    ∃ f : Fragment, f.Closed ∧ f.text = text := by
  induction h with
  | nothing => exact ⟨.nothing, ⟨trivial, rfl⟩, rfl⟩
  | digit hn => exact ⟨.digit _, ⟨hn, rfl⟩, rfl⟩
  | minus => exact ⟨.minus, ⟨trivial, rfl⟩, rfl⟩
  | dot => exact ⟨.dot, ⟨trivial, rfl⟩, rfl⟩
  | anyDigit => exact ⟨.anyDigit, ⟨trivial, rfl⟩, rfl⟩
  | anyDigits htwo hbits => exact ⟨.anyDigits _, ⟨⟨htwo, hbits⟩, rfl⟩, rfl⟩
  | pair hlt hn => exact ⟨.pair _ _, ⟨⟨hlt, hn⟩, rfl⟩, rfl⟩
  | digits hlt hn => exact ⟨.digits _ _, ⟨⟨hlt, hn⟩, rfl⟩, rfl⟩
  | append _ _ ih₁ ih₂ =>
    obtain ⟨f, hf, rfl⟩ := ih₁
    obtain ⟨g, hg, rfl⟩ := ih₂
    exact ⟨.seq f g, seq_closed hf hg, rfl⟩
  | @group branches htwo _ ih =>
    obtain ⟨fragments, hclosed, rfl⟩ := exists_fragments ih
    refine ⟨oneOf fragments, oneOf_closed hclosed, ?_⟩
    rw [text_oneOf, alternate_of_two_le htwo]

/-- Alternatives that are in no group yet have at least two branches. -/
theorem derivable_of_wellFormed {f : Fragment} (h : f.WellFormed) :
    (f.isBar = false → Derivable f.text) ∧
      (f.isBar = true → ∃ branches : List (List Char), 2 ≤ branches.length ∧
        (∀ branch ∈ branches, Derivable branch) ∧ f.text = ['|'].intercalate branches) := by
  induction f with
  | nothing => exact ⟨fun _ => .nothing, fun hbar => Bool.noConfusion hbar⟩
  | digit => exact ⟨fun _ => .digit h, fun hbar => Bool.noConfusion hbar⟩
  | minus => exact ⟨fun _ => .minus, fun hbar => Bool.noConfusion hbar⟩
  | dot => exact ⟨fun _ => .dot, fun hbar => Bool.noConfusion hbar⟩
  | anyDigit => exact ⟨fun _ => .anyDigit, fun hbar => Bool.noConfusion hbar⟩
  | anyDigits => exact ⟨fun _ => .anyDigits h.1 h.2, fun hbar => Bool.noConfusion hbar⟩
  | pair => exact ⟨fun _ => .pair h.1 h.2, fun hbar => Bool.noConfusion hbar⟩
  | digits => exact ⟨fun _ => .digits h.1 h.2, fun hbar => Bool.noConfusion hbar⟩
  | seq first second ih₁ ih₂ =>
    obtain ⟨⟨hfirst, hfirstBar⟩, hsecond, hsecondBar⟩ := h
    refine ⟨fun _ => ?_, fun hbar => Bool.noConfusion hbar⟩
    exact .append ((ih₁ hfirst).1 hfirstBar) ((ih₂ hsecond).1 hsecondBar)
  | bar left right ih₁ ih₂ =>
    obtain ⟨⟨hleft, hleftBar⟩, hright⟩ := h
    refine ⟨fun hbar => Bool.noConfusion hbar, fun _ => ?_⟩
    have hleftText := (ih₁ hleft).1 hleftBar
    cases hrightBar : right.isBar with
    | false =>
      have hrightText := (ih₂ hright).1 hrightBar
      refine ⟨[left.text, right.text], Nat.le_refl 2, by simp [hleftText, hrightText], ?_⟩
      simp [text, List.intercalate]
    | true =>
      obtain ⟨branches, htwo, hbranches, htext⟩ := (ih₂ hright).2 hrightBar
      refine ⟨left.text :: branches, ?_, List.forall_mem_cons.mpr ⟨hleftText, hbranches⟩, ?_⟩
      · exact Nat.le_succ_of_le htwo
      · have hpos := Nat.lt_of_lt_of_le Nat.zero_lt_two htwo
        obtain ⟨first, rest, rfl⟩ := List.exists_cons_of_length_pos hpos
        simp [text, htext, List.intercalate]
  | group body ih =>
    refine ⟨fun _ => ?_, fun hbar => Bool.noConfusion hbar⟩
    obtain ⟨branches, htwo, hbranches, htext⟩ := (ih h.1).2 h.2
    rw [text, htext]
    exact .group htwo hbranches

theorem Fragment.Closed.derivable {f : Fragment} (h : f.Closed) : Derivable f.text :=
  (derivable_of_wellFormed h.1).1 h.2

/-! ### The alphabet -/

/-- The characters of which derived texts are made. -/
def alphabet : List Char := "0123456789-\\.d\x7b\x7d[](?:|)".toList

theorem digitChar_mem_alphabet {n : Nat} (h : n < 10) : n.digitChar ∈ alphabet := by
  have hdigits : ∀ k < 10, Nat.digitChar k ∈ alphabet := by decide
  exact hdigits n h

theorem decimal_subset_alphabet (n : Nat) : decimal n ⊆ alphabet := by
  intro c hc
  obtain ⟨k, -, hk, rfl⟩ := isDigit_iff.mp (isDigit_of_mem_decimal hc)
  exact digitChar_mem_alphabet (Nat.lt_succ_of_le hk)

theorem Fragment.text_subset_alphabet {f : Fragment} (h : f.WellFormed) : f.text ⊆ alphabet := by
  induction f with
  | nothing => exact List.nil_subset _
  | digit => exact List.cons_subset.mpr ⟨digitChar_mem_alphabet h, List.nil_subset _⟩
  | minus | dot | anyDigit => decide
  | anyDigits count =>
    rw [text, List.append_subset, List.append_subset]
    exact ⟨⟨by decide, decimal_subset_alphabet count⟩, by decide⟩
  | pair first second =>
    have hfirst := digitChar_mem_alphabet (Nat.lt_trans h.1 h.2)
    have hsecond := digitChar_mem_alphabet h.2
    simp only [text, List.cons_subset]
    exact ⟨by decide, hfirst, hsecond, by decide, List.nil_subset _⟩
  | digits first last =>
    have hfirst := digitChar_mem_alphabet (Nat.lt_trans h.1 h.2)
    have hlast := digitChar_mem_alphabet h.2
    simp only [text, List.cons_subset]
    exact ⟨by decide, hfirst, by decide, hlast, by decide, List.nil_subset _⟩
  | seq first second ihFirst ihSecond =>
    exact List.append_subset.mpr ⟨ihFirst h.1.1, ihSecond h.2.1⟩
  | bar left right ihLeft ihRight =>
    rw [text, List.append_subset, List.cons_subset]
    exact ⟨ihLeft h.1.1, by decide, ihRight h.2⟩
  | group body ih =>
    rw [text, List.append_subset, List.append_subset]
    exact ⟨⟨by decide, ih h.1⟩, by decide⟩

theorem Derivable.subset_alphabet {text : List Char} (h : Derivable text) : text ⊆ alphabet := by
  obtain ⟨f, hf, rfl⟩ := h.exists_fragment
  exact f.text_subset_alphabet hf.1

/-! ### What a text matches by itself -/

namespace Regex

/-- Whether a text is an expression, and one that the dialect allows. -/
def IsExpression (d : Dialect) (pattern : List Char) : Prop :=
  ∃ r, read pattern = .ok r ∧ r.fits d = true

/-- The texts that a pattern matches from start to end. -/
def language (d : Dialect) (pattern : List Char) : Language Char :=
  {word | ∃ r, read pattern = .ok r ∧ r.Matches d word 0 word.length}

theorem fits_unicode (r : Regex) : r.fits .unicode = true := by
  induction r with
  | empty | char | start | finish => rfl
  | seq first second ih₁ ih₂ => rw [fits, ih₁, ih₂]; rfl
  | alt left right ih₁ ih₂ => rw [fits, ih₁, ih₂]; rfl
  | times body min max ih => exact ih

variable {d : Dialect}

theorem isExpression_text {f : Fragment} (h : f.WellFormed) : IsExpression d f.text := by
  cases d with
  | ascii => exact ⟨f.regex, read_text h, fits_regex h⟩
  | unicode => exact ⟨f.regex, read_text h, fits_unicode f.regex⟩

theorem mem_language_iff {p word : List Char} {r : Regex} (h : read p = .ok r) :
    word ∈ language d p ↔ r.Matches d word 0 word.length := by
  constructor
  · intro hword
    obtain ⟨r', hread, hmatch⟩ := hword
    rw [h] at hread
    cases hread
    exact hmatch
  · exact fun hmatch => ⟨r, h, hmatch⟩

theorem language_text {f : Fragment} (h : f.WellFormed) : language d f.text = f.langIn d := by
  ext word
  rw [mem_language_iff (read_text h), (regex_denotes_in h).matches_iff]

theorem language_dot : language d ['\\', '.'] = {['.']} :=
  language_text (f := dot) trivial

theorem IsExpression.exists_compile {p : List Char} (h : IsExpression d p) :
    ∃ m, Matcher.compile d (String.ofList p) = .ok m ∧
      ∀ input : String, m.accepts input = true ↔ input.toList ∈ language d p := by
  obtain ⟨r, hread, hfits⟩ := h
  have hpattern : read (String.ofList p).toList = .ok r := by rw [String.toList_ofList, hread]
  refine ⟨_, Matcher.compile_eq_ok hpattern hfits, ?_⟩
  intro input
  rw [Matcher.accepts_anchored_iff, mem_language_iff hread]

end Regex

namespace Derivable

variable {d : Dialect} {p q : List Char}

theorem isExpression (hp : Derivable p) : Regex.IsExpression d p := by
  obtain ⟨f, hf, rfl⟩ := hp.exists_fragment
  exact Regex.isExpression_text hf.1

/-- **Side by side.** Two derived texts match the product of their languages. -/
theorem language_append (hp : Derivable p) (hq : Derivable q) :
    Regex.language d (p ++ q) = Regex.language d p * Regex.language d q := by
  obtain ⟨f, hf, rfl⟩ := hp.exists_fragment
  obtain ⟨g, hg, rfl⟩ := hq.exists_fragment
  calc Regex.language d (f.text ++ g.text)
      = (seq f g).langIn d := Regex.language_text (seq_closed hf hg).1
    _ = f.langIn d * g.langIn d := rfl
    _ = Regex.language d f.text * Regex.language d g.text := by
        rw [Regex.language_text hf.1, Regex.language_text hg.1]

/-- **Alternatives.** A choice of derived texts matches the union of their languages. -/
theorem mem_language_alternate_iff {branches : List (List Char)} (hne : branches ≠ [])
    (h : ∀ branch ∈ branches, Derivable branch) {word : List Char} :
    word ∈ Regex.language d (alternate branches) ↔
      ∃ branch ∈ branches, word ∈ Regex.language d branch := by
  obtain ⟨fragments, hclosed, rfl⟩ :=
    exists_fragments fun branch hbranch => (h branch hbranch).exists_fragment
  have hfragments : fragments ≠ [] := by simpa using hne
  rw [← text_oneOf, Regex.language_text (oneOf_closed hclosed).1, mem_langIn_oneOf_iff hfragments]
  simp only [List.mem_map, exists_exists_and_eq_and]
  refine exists_congr fun f => and_congr_right fun hf => ?_
  rw [Regex.language_text (hclosed f hf).1]

end Derivable

/-- A pattern that keeps its language wherever it stands among derived texts. -/
structure SelfContained (d : Dialect) (p : List Char) : Prop where
  /-- No bar stands outside groups, and every group is closed. -/
  closed : openAfter 0 p = some 0
  compiles : ∃ m, Matcher.compile d (String.ofList p) = .ok m ∧
    ∀ input : String, m.accepts input = true ↔ input.toList ∈ Regex.language d p
  append : ∀ q, Derivable q → Regex.IsExpression d (p ++ q) ∧
    Regex.language d (p ++ q) = Regex.language d p * Regex.language d q
  beforeDot : Regex.IsExpression d (p ++ ['\\', '.']) ∧
    Regex.language d (p ++ ['\\', '.']) = Regex.language d p * {['.']}
  afterDot : Regex.IsExpression d (['\\', '.'] ++ p) ∧
    Regex.language d (['\\', '.'] ++ p) = {['.']} * Regex.language d p
  branch : ∀ before after, (∀ other ∈ before ++ after, Derivable other) →
    Regex.IsExpression d (alternate (before ++ p :: after)) ∧
      ∀ word, word ∈ Regex.language d (alternate (before ++ p :: after)) ↔
        word ∈ Regex.language d p ∨ ∃ other ∈ before ++ after, word ∈ Regex.language d other

theorem Derivable.selfContained {p : List Char} (hp : Derivable p) (d : Dialect) :
    SelfContained d p where
  closed := hp.openAfter_eq 0
  compiles := hp.isExpression.exists_compile
  append q hq := ⟨(hp.append hq).isExpression, hp.language_append hq⟩
  beforeDot := ⟨(hp.append .dot).isExpression, by rw [hp.language_append .dot, Regex.language_dot]⟩
  afterDot := by
    have hdot := Derivable.dot
    exact ⟨(hdot.append hp).isExpression, by rw [hdot.language_append hp, Regex.language_dot]⟩
  branch before after h := by
    have hall : ∀ branch ∈ before ++ p :: after, Derivable branch := by
      intro branch hbranch
      rw [List.mem_append, List.mem_cons] at hbranch
      rcases hbranch with hbefore | rfl | hafter
      · exact h branch (List.mem_append_left after hbefore)
      · exact hp
      · exact h branch (List.mem_append_right before hafter)
    refine ⟨(derivable_alternate hall).isExpression, fun word => ?_⟩
    rw [mem_language_alternate_iff (by simp) hall]
    simp only [List.mem_append, List.mem_cons, or_and_right, exists_or, exists_eq_left]
    exact or_left_comm

end IntervalRegex
