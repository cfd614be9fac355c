import IntervalRegex.Proofs.Fragment.Reading
import IntervalRegex.Proofs.Fragment.Tiling

/-!
# Fragments that match a text in one way

A parse tells how a fragment comes to match a text: what each atom takes, and which side of each bar
is taken. There is one parse for each text of the language if both sides of every bar are apart and
if a text behind another always begins at the same place. Alternatives that tile an interval are
apart, as long as different numbers are written differently.
-/

namespace IntervalRegex.Fragment

/-! ### Parses -/

/-- How a text is matched. -/
inductive Parse
  /-- The text is taken at once. -/
  | atom (text : List Char)
  | seq (first second : Parse)
  /-- The branch before a bar is taken. -/
  | left (branch : Parse)
  /-- A branch behind a bar is taken. -/
  | right (branch : Parse)
deriving DecidableEq, Repr

/-- Fragments that are not put together from others. -/
def isAtom : Fragment → Bool
  | seq _ _ | bar _ _ | group _ => false
  | _ => true

/-- `f.Parses parse text`: the fragment matches the text as the parse tells. -/
inductive Parses : Fragment → Parse → List Char → Prop
  | atom {f : Fragment} {text : List Char} (hatom : f.isAtom = true) (h : text ∈ f.lang) :
    Parses f (.atom text) text
  | seq {first second : Fragment} {p q : Parse} {u v : List Char} (hfirst : Parses first p u)
    (hsecond : Parses second q v) : Parses (seq first second) (.seq p q) (u ++ v)
  | left {first rest : Fragment} {p : Parse} {text : List Char} (h : Parses first p text) :
    Parses (bar first rest) (.left p) text
  | right {first rest : Fragment} {p : Parse} {text : List Char} (h : Parses rest p text) :
    Parses (bar first rest) (.right p) text
  | group {body : Fragment} {p : Parse} {text : List Char} (h : Parses body p text) :
    Parses (group body) p text

theorem Parses.mem_lang {f : Fragment} {p : Parse} {text : List Char} (h : f.Parses p text) :
    text ∈ f.lang := by
  induction h with
  | atom _ htext => exact htext
  | seq _ _ ihFirst ihSecond => exact mem_lang_seq_iff.mpr ⟨_, ihFirst, _, ihSecond, rfl⟩
  | left _ ih => exact .inl ih
  | right _ ih => exact .inr ih
  | group _ ih => exact ih

theorem exists_parse {f : Fragment} {text : List Char} (h : text ∈ f.lang) :
    ∃ p, f.Parses p text := by
  induction f generalizing text with
  | nothing | digit | minus | dot | anyDigit | anyDigits | pair | digits => exact ⟨_, .atom rfl h⟩
  | seq first second ihFirst ihSecond =>
    obtain ⟨u, hu, v, hv, rfl⟩ := mem_lang_seq_iff.mp h
    obtain ⟨p, hp⟩ := ihFirst hu
    obtain ⟨q, hq⟩ := ihSecond hv
    exact ⟨_, .seq hp hq⟩
  | bar left right ihLeft ihRight =>
    rcases h with hleft | hright
    · obtain ⟨p, hp⟩ := ihLeft hleft
      exact ⟨_, .left hp⟩
    · obtain ⟨p, hp⟩ := ihRight hright
      exact ⟨_, .right hp⟩
  | group body ih =>
    obtain ⟨p, hp⟩ := ih h
    exact ⟨_, .group hp⟩

theorem exists_parse_iff {f : Fragment} {text : List Char} :
    (∃ p, f.Parses p text) ↔ text ∈ f.lang := by
  constructor
  · intro hparse
    obtain ⟨p, hp⟩ := hparse
    exact hp.mem_lang
  · exact exists_parse

/-! ### One parse for each text -/

/-- No text is in both languages. -/
def Apart (L M : Language Char) : Prop := ∀ text ∈ L, text ∉ M

/-- A text has one place at most where a word of the first language ends and one of the second
begins. -/
def CutsOnce (L M : Language Char) : Prop :=
  ∀ u ∈ L, ∀ u' ∈ L, ∀ v ∈ M, ∀ v' ∈ M, u ++ v = u' ++ v' → u = u'

/-- The sides of every bar are apart, and every sequence has one place to be cut. -/
def Unambiguous : Fragment → Prop
  | seq first second =>
    first.Unambiguous ∧ second.Unambiguous ∧ CutsOnce first.lang second.lang
  | bar left right => left.Unambiguous ∧ right.Unambiguous ∧ Apart left.lang right.lang
  | group body => body.Unambiguous
  | nothing | digit _ | minus | dot | anyDigit | anyDigits _ | pair _ _ | digits _ _ => True

theorem Unambiguous.parse_unique {f : Fragment} (h : f.Unambiguous) {p q : Parse}
    {text : List Char} (hp : f.Parses p text) (hq : f.Parses q text) : p = q := by
  induction hp generalizing q with
  | atom hatom =>
    cases hq with
    | atom => rfl
    | seq | left | right | group => cases hatom
  | @seq first second p p' u v hfirst hsecond ihFirst ihSecond =>
    obtain ⟨hfirstOnce, hsecondOnce, hcut⟩ := h
    generalize htext : u ++ v = text at hq
    cases hq with
    | atom hatom => cases hatom
    | @seq _ _ q q' u' v' hfirst' hsecond' =>
      obtain rfl := hcut u hfirst.mem_lang u' hfirst'.mem_lang v hsecond.mem_lang v'
        hsecond'.mem_lang htext
      obtain rfl := List.append_cancel_left htext
      rw [ihFirst hfirstOnce hfirst', ihSecond hsecondOnce hsecond']
  | left hfirst ih =>
    obtain ⟨honce, -, hapart⟩ := h
    cases hq with
    | atom hatom => cases hatom
    | left hfirst' => rw [ih honce hfirst']
    | right hrest => exact absurd hrest.mem_lang (hapart _ hfirst.mem_lang)
  | right hrest ih =>
    obtain ⟨-, honce, hapart⟩ := h
    cases hq with
    | atom hatom => cases hatom
    | left hfirst => exact absurd hrest.mem_lang (hapart _ hfirst.mem_lang)
    | right hrest' => rw [ih honce hrest']
  | group hbody ih =>
    cases hq with
    | atom hatom => cases hatom
    | group hbody' => exact ih h hbody'

theorem Unambiguous.existsUnique_parse {f : Fragment} (h : f.Unambiguous) {text : List Char}
    (htext : text ∈ f.lang) : ∃! p, f.Parses p text := by
  obtain ⟨p, hp⟩ := exists_parse htext
  exact ⟨p, hp, fun q hq => h.parse_unique hq hp⟩

theorem cutsOnce_of_length {L M : Language Char} (length : Nat)
    (h : ∀ u ∈ L, u.length = length) : CutsOnce L M := by
  intro u hu u' hu' v _ v' _ htext
  exact List.append_inj_left htext ((h u hu).trans (h u' hu').symm)

theorem cutsOnce_singleton (word : List Char) (M : Language Char) : CutsOnce {word} M := by
  apply cutsOnce_of_length word.length
  rintro u rfl
  rfl

/-- A character that ends the words in front of it, as it is in none of them. -/
theorem cutsOnce_of_separator {L M : Language Char} {c : Char} (hL : ∀ u ∈ L, c ∉ u)
    (hM : ∀ v ∈ M, ∃ rest, v = c :: rest) : CutsOnce L M := by
  intro u hu u' hu' v hv v' hv' htext
  obtain ⟨rest, rfl⟩ := hM v hv
  obtain ⟨rest', rfl⟩ := hM v' hv'
  have hcut := Text.cut_eq_some_iff.mpr ⟨htext, hL u' hu'⟩
  rw [Text.cut_eq_some_iff.mpr ⟨rfl, hL u hu⟩] at hcut
  cases hcut
  rfl

/-! ### Alternatives -/

/-- Each alternative matches some text, and no two of them match the same one. -/
structure Exclusive (fragments : List Fragment) : Prop where
  inhabited : ∀ f ∈ fragments, ∃ text, text ∈ f.lang
  apart : fragments.Pairwise fun f g => Apart f.lang g.lang

theorem exclusive_nil : Exclusive [] := ⟨List.forall_mem_nil _, .nil⟩

theorem Exclusive.append {fragments more : List Fragment} (h : Exclusive fragments)
    (hmore : Exclusive more) (hapart : ∀ f ∈ fragments, ∀ g ∈ more, Apart f.lang g.lang) :
    Exclusive (fragments ++ more) where
  inhabited := List.forall_mem_append.mpr ⟨h.inhabited, hmore.inhabited⟩
  apart := List.pairwise_append.mpr ⟨h.apart, hmore.apart, hapart⟩

theorem bars_unambiguous {first : Fragment} {rest : List Fragment}
    (h : ∀ f ∈ first :: rest, f.Unambiguous)
    (hapart : (first :: rest).Pairwise fun f g => Apart f.lang g.lang) :
    (bars first rest).Unambiguous := by
  induction rest generalizing first with
  | nil => exact h first (List.mem_singleton_self first)
  | cons second rest ih =>
    rw [List.forall_mem_cons] at h
    rw [List.pairwise_cons] at hapart
    refine ⟨h.1, ih h.2 hapart.2, ?_⟩
    intro text hfirst hrest
    rw [← langIn_ascii, mem_langIn_bars_iff] at hrest
    obtain ⟨f, hf, hrest⟩ := hrest
    rw [langIn_ascii] at hrest
    exact hapart.1 f hf text hfirst hrest

theorem Exclusive.oneOf_unambiguous {fragments : List Fragment} (hexclusive : Exclusive fragments)
    (h : ∀ f ∈ fragments, f.Unambiguous) : (oneOf fragments).Unambiguous := by
  match fragments with
  | [] => trivial
  | [f] => exact h f (List.mem_singleton_self f)
  | _ :: _ :: _ => exact bars_unambiguous h hexclusive.apart

/-- Alternatives that tile an interval are exclusive if the notation tells numbers apart. -/
theorem Tiles.exclusive {word : Nat → List Char} {lo hi : Nat} {fragments : List Fragment}
    (h : Tiles word lo hi fragments)
    (hword : ∀ m n, m < hi → n < hi → word m = word n → m = n) : Exclusive fragments := by
  induction fragments generalizing lo with
  | nil => exact exclusive_nil
  | cons f fragments ih =>
    obtain ⟨-, mid, hlt, hlang, hrest⟩ := h
    have hmid := hrest.le
    have hexclusive := ih hrest
    constructor
    · rw [List.forall_mem_cons]
      refine ⟨⟨word lo, ?_⟩, hexclusive.inhabited⟩
      rw [hlang]
      exact ⟨lo, Nat.le_refl lo, hlt, rfl⟩
    · rw [List.pairwise_cons]
      refine ⟨?_, hexclusive.apart⟩
      intro g hg text hf htext
      rw [hlang] at hf
      obtain ⟨m, -, hm, rfl⟩ := hf
      obtain ⟨n, hlo, hn, hword'⟩ := hrest.exists_mem_lang_iff.mp ⟨g, hg, htext⟩
      have heq := hword m n (Nat.lt_of_lt_of_le hm hmid) hn hword'
      omega

/-- The text of the fragment is a pattern by which the input is accepted. -/
def Accepts (f : Fragment) (input : String) : Prop :=
  ∃ m, Matcher.compile .ascii (String.ofList f.text) = .ok m ∧ m.accepts input = true

theorem accepts_iff {f : Fragment} (h : f.WellFormed) {input : String} :
    f.Accepts input ↔ input.toList ∈ f.lang := by
  obtain ⟨m, hcompile, haccepts⟩ := exists_compile h
  rw [Accepts, hcompile, ← haccepts]
  simp only [Except.ok.injEq, exists_eq_left']

/-- The same of the texts: as patterns of their own, no two of them accept the same input. -/
structure ExclusivePatterns (fragments : List Fragment) : Prop where
  inhabited : ∀ f ∈ fragments, ∃ input, f.Accepts input
  apart : fragments.Pairwise fun f g => ∀ input, f.Accepts input → ¬g.Accepts input

theorem Exclusive.patterns {fragments : List Fragment} (h : Exclusive fragments)
    (hfragments : ∀ f ∈ fragments, f.WellFormed) : ExclusivePatterns fragments where
  inhabited := by
    intro f hf
    obtain ⟨text, htext⟩ := h.inhabited f hf
    refine ⟨String.ofList text, (accepts_iff (hfragments f hf)).mpr ?_⟩
    rwa [String.toList_ofList]
  apart := by
    apply h.apart.imp_of_mem
    intro f g hf hg hapart input haccepts
    rw [accepts_iff (hfragments g hg)]
    exact hapart _ ((accepts_iff (hfragments f hf)).mp haccepts)

/-! ### Groups -/

/-- The alternatives that bars part, outside groups. -/
def branches : Fragment → List Fragment
  | bar left right => left :: right.branches
  | f => [f]

/-- What a choice is made from; anything but a group is its own only alternative. -/
def alternatives : Fragment → List Fragment
  | group body => body.branches
  | f => [f]

/-- The alternatives of every group, those of groups inside others included. -/
def groups : Fragment → List (List Fragment)
  | seq first second => first.groups ++ second.groups
  | bar left right => left.groups ++ right.groups
  | group body => body.branches :: body.groups
  | nothing | digit _ | minus | dot | anyDigit | anyDigits _ | pair _ _ | digits _ _ => []

theorem exists_branches (f : Fragment) :
    ∃ first rest, f.branches = first :: rest ∧ bars first rest = f := by
  induction f with
  | bar left right _ ih =>
    obtain ⟨second, rest, hbranches, hbars⟩ := ih
    exact ⟨left, second :: rest, by rw [branches, hbranches], by rw [bars, hbars]⟩
  | nothing | digit | minus | dot | anyDigit | anyDigits | pair | digits | seq | group =>
    exact ⟨_, [], rfl, rfl⟩

theorem oneOf_alternatives {f : Fragment} (h : f.WellFormed) : oneOf f.alternatives = f := by
  cases f with
  | group body =>
    cases body with
    | bar left right =>
      obtain ⟨second, rest, hbranches, hbars⟩ := exists_branches right
      rw [alternatives, branches, hbranches, oneOf, bars, hbars]
    | nothing | digit | minus | dot | anyDigit | anyDigits | pair | digits | seq | group =>
      cases h.2
  | nothing | digit | minus | dot | anyDigit | anyDigits | pair | digits | seq | bar => rfl

theorem exists_mem_pow {L : Language Char} (h : ∃ word, word ∈ L) (count : Nat) :
    ∃ word, word ∈ L ^ count := by
  obtain ⟨word, hword⟩ := h
  induction count with
  | zero => exact ⟨[], rfl⟩
  | succ count ih =>
    obtain ⟨words, hwords⟩ := ih
    exact ⟨words ++ word, Language.append_mem_mul hwords hword⟩

theorem exists_mem_oneDigit {lo hi : Nat} (h : lo ≤ hi) : ∃ word, word ∈ oneDigit lo hi :=
  ⟨[lo.digitChar], lo, Nat.le_refl lo, h, rfl⟩

theorem WellFormed.inhabited {f : Fragment} (h : f.WellFormed) : ∃ text, text ∈ f.lang := by
  induction f with
  | nothing => exact ⟨[], rfl⟩
  | digit value => exact exists_mem_oneDigit (Nat.le_refl value)
  | minus => exact ⟨['-'], rfl⟩
  | dot => exact ⟨['.'], rfl⟩
  | anyDigit => exact exists_mem_oneDigit (Nat.zero_le 9)
  | anyDigits count => exact exists_mem_pow (exists_mem_oneDigit (Nat.zero_le 9)) count
  | pair first second =>
    obtain ⟨text, htext⟩ := exists_mem_oneDigit (Nat.le_refl first)
    exact ⟨text, .inl htext⟩
  | digits first last => exact exists_mem_oneDigit (Nat.le_of_lt h.1)
  | seq first second ihFirst ihSecond =>
    obtain ⟨u, hu⟩ := ihFirst h.1.1
    obtain ⟨v, hv⟩ := ihSecond h.2.1
    exact ⟨u ++ v, mem_lang_seq_iff.mpr ⟨u, hu, v, hv, rfl⟩⟩
  | bar left right ihLeft =>
    obtain ⟨text, htext⟩ := ihLeft h.1.1
    exact ⟨text, .inl htext⟩
  | group body ih => exact ih h.1

theorem mem_lang_of_mem_branches {f g : Fragment} (hg : g ∈ f.branches) {text : List Char}
    (htext : text ∈ g.lang) : text ∈ f.lang := by
  induction f with
  | bar left right _ ih =>
    rcases List.mem_cons.mp hg with rfl | hg
    · exact .inl htext
    · exact .inr (ih hg)
  | nothing | digit | minus | dot | anyDigit | anyDigits | pair | digits | seq | group =>
    obtain rfl := List.mem_singleton.mp hg
    exact htext

theorem WellFormed.branches {f : Fragment} (h : f.WellFormed) :
    ∀ g ∈ f.branches, g.WellFormed := by
  induction f with
  | bar left right _ ih => exact List.forall_mem_cons.mpr ⟨h.1.1, ih h.2⟩
  | nothing | digit | minus | dot | anyDigit | anyDigits | pair | digits | seq | group =>
    exact List.forall_mem_singleton.mpr h

theorem exclusive_singleton {f : Fragment} (h : f.WellFormed) : Exclusive [f] :=
  ⟨List.forall_mem_singleton.mpr h.inhabited, List.pairwise_singleton _ f⟩

theorem Unambiguous.exclusive_branches {f : Fragment} (hf : f.WellFormed) (h : f.Unambiguous) :
    Exclusive f.branches := by
  induction f with
  | bar left right _ ih =>
    obtain ⟨-, hright, hapart⟩ := h
    have hexclusive := ih hf.2 hright
    constructor
    · exact List.forall_mem_cons.mpr ⟨hf.1.1.inhabited, hexclusive.inhabited⟩
    · rw [branches, List.pairwise_cons]
      refine ⟨?_, hexclusive.apart⟩
      intro g hg text hleft htext
      exact hapart text hleft (mem_lang_of_mem_branches hg htext)
  | nothing | digit | minus | dot | anyDigit | anyDigits | pair | digits | seq | group =>
    exact exclusive_singleton hf

theorem Unambiguous.exclusive_alternatives {f : Fragment} (hf : f.WellFormed)
    (h : f.Unambiguous) : ExclusivePatterns f.alternatives := by
  cases f with
  | group body => exact (Unambiguous.exclusive_branches hf.1 h).patterns hf.1.branches
  | nothing | digit | minus | dot | anyDigit | anyDigits | pair | digits | seq | bar =>
    exact (exclusive_singleton hf).patterns (List.forall_mem_singleton.mpr hf)

theorem Unambiguous.exclusive_groups {f : Fragment} (hf : f.WellFormed) (h : f.Unambiguous) :
    ∀ alternatives ∈ f.groups, ExclusivePatterns alternatives := by
  induction f with
  | nothing | digit | minus | dot | anyDigit | anyDigits | pair | digits =>
    exact List.forall_mem_nil _
  | seq first second ihFirst ihSecond =>
    exact List.forall_mem_append.mpr ⟨ihFirst hf.1.1 h.1, ihSecond hf.2.1 h.2.1⟩
  | bar left right ihLeft ihRight =>
    exact List.forall_mem_append.mpr ⟨ihLeft hf.1.1 h.1, ihRight hf.2 h.2.1⟩
  | group body ih =>
    exact List.forall_mem_cons.mpr ⟨exclusive_alternatives hf h, ih hf.1 h⟩

/-- Whatever stands in a group excludes what else stands there, and a text is accepted exactly if it
has a parse, which is the only one. -/
structure MatchesOnce (f : Fragment) : Prop where
  exclusive : ∀ alternatives ∈ f.groups, ExclusivePatterns alternatives
  parse : ∃ m, Matcher.compile .ascii (String.ofList f.text) = .ok m ∧ ∀ input : String,
    (m.accepts input = true ↔ ∃ p, f.Parses p input.toList) ∧
      (m.accepts input = true → ∃! p, f.Parses p input.toList)

theorem Unambiguous.matchesOnce {f : Fragment} (hf : f.Closed) (h : f.Unambiguous) :
    f.MatchesOnce where
  exclusive := h.exclusive_groups hf.1
  parse := by
    obtain ⟨m, hcompile, haccepts⟩ := exists_compile hf.1
    refine ⟨m, hcompile, fun input => ?_⟩
    rw [haccepts, exists_parse_iff]
    exact ⟨Iff.rfl, h.existsUnique_parse⟩

end IntervalRegex.Fragment
