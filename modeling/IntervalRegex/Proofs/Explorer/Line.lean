import IntervalRegex.Proofs.Explorer.Request
import Mathlib.Data.List.Forall2

/-!
# Lines up to case and blank characters

Neither the case of a verb nor the blank characters around it and around its argument bear on the
answer to a line. A line that begins with no verb is put to the test as a whole, just as if `match`
stood in front of it, provided that a matcher is installed.
-/

namespace IntervalRegex.Explorer

open Text

/-! ### Verbs in some case -/

theorem toNat_toLower (c : Char) :
    c.toLower.toNat = if 65 ≤ c.toNat ∧ c.toNat ≤ 90 then c.toNat + 32 else c.toNat := by
  have hshift : ('a'.val - 'A'.val : UInt32).toNat = 32 := rfl
  unfold Char.toLower
  split
  · next h =>
    have hcapital : 65 ≤ c.toNat ∧ c.toNat ≤ 90 := h
    have hsum : (c.val + ('a'.val - 'A'.val)).toNat = (c.toNat + 32) % 2 ^ 32 := by
      rw [UInt32.toNat_add, hshift, Char.toNat]
    rw [if_pos hcapital, Char.toNat, hsum]
    omega
  · next h => exact (if_neg h).symm

theorem toNat_toUpper (c : Char) :
    c.toUpper.toNat = if 97 ≤ c.toNat ∧ c.toNat ≤ 122 then c.toNat - 32 else c.toNat := by
  have hshift : ('A'.val - 'a'.val : UInt32).toNat = 2 ^ 32 - 32 := rfl
  unfold Char.toUpper
  split
  · next h =>
    have hsmall : 97 ≤ c.toNat ∧ c.toNat ≤ 122 := h
    have hsum : (c.val + ('A'.val - 'a'.val)).toNat = (c.toNat + (2 ^ 32 - 32)) % 2 ^ 32 := by
      rw [UInt32.toNat_add, hshift, Char.toNat]
    rw [if_pos hsmall, Char.toNat, hsum]
    omega
  · next h => exact (if_neg h).symm

theorem toLower_eq_iff {c letter : Char} (h : letter.isLower = true) :
    c.toLower = letter ↔ c = letter ∨ c = letter.toUpper := by
  have hsmall : 97 ≤ letter.toNat ∧ letter.toNat ≤ 122 := by
    obtain ⟨hlo, hhi⟩ := Bool.and_eq_true_iff.mp h
    exact ⟨of_decide_eq_true hlo, of_decide_eq_true hhi⟩
  simp only [← Char.toNat_inj, toNat_toLower, toNat_toUpper, if_pos hsmall]
  split <;> omega

/-- The letters of the verb, each as it is or as a capital. -/
def InSomeCase (verb : String) (word : List Char) : Prop :=
  List.Forall₂ (fun c letter => c = letter ∨ c = letter.toUpper) word verb.toList

theorem forall₂_some_case_iff {letters word : List Char}
    (h : ∀ letter ∈ letters, letter.isLower = true) :
    List.Forall₂ (fun c letter => c = letter ∨ c = letter.toUpper) word letters ↔
      word.map Char.toLower = letters := by
  induction letters generalizing word with
  | nil => rw [List.forall₂_nil_right_iff, List.map_eq_nil_iff]
  | cons letter letters ih =>
    rw [List.forall_mem_cons] at h
    rw [List.forall₂_cons_right_iff, List.map_eq_cons_iff]
    simp only [ih h.2, toLower_eq_iff h.1]
    constructor
    · rintro ⟨c, word, hc, hword, rfl⟩
      exact ⟨c, word, rfl, hc, hword⟩
    · rintro ⟨c, word, rfl, hc, hword⟩
      exact ⟨c, word, hc, hword, rfl⟩

section Verbs

variable {verb : String} {word : List Char}

theorem isLower_of_mem_verb (hverb : verb ∈ verbs) :
    ∀ letter ∈ verb.toList, letter.isLower = true := by
  have hall : verb.toList.all Char.isLower = true := by
    revert verb
    decide
  exact List.all_eq_true.mp hall

theorem not_isBlank_toUpper (hverb : verb ∈ verbs) :
    ∀ letter ∈ verb.toList, isBlank letter.toUpper = false := by
  have hall : (verb.toList.map Char.toUpper).all (fun c => !isBlank c) = true := by
    revert verb
    decide
  exact List.forall_mem_map.mp (not_isBlank_of_all hall)

theorem inSomeCase_iff (hverb : verb ∈ verbs) :
    InSomeCase verb word ↔ String.ofList (word.map Char.toLower) = verb := by
  rw [InSomeCase, forall₂_some_case_iff (isLower_of_mem_verb hverb), ← String.toList_inj,
    String.toList_ofList]

theorem InSomeCase.isWord (hverb : verb ∈ verbs) (h : InSomeCase verb word) : IsWord word := by
  have hlower := isLower_of_mem_verb hverb
  obtain ⟨hne, hletters⟩ := isWord_verb hverb
  have hmap : word.map Char.toLower = verb.toList := (forall₂_some_case_iff hlower).mp h
  refine ⟨?_, ?_⟩
  · rintro rfl
    exact hne hmap.symm
  · intro c hc
    have hletter : c.toLower ∈ verb.toList := hmap ▸ List.mem_map_of_mem hc
    rcases (toLower_eq_iff (hlower _ hletter)).mp rfl with hcase | hcase
    · rw [hcase]
      exact hletters _ hletter
    · rw [hcase]
      exact not_isBlank_toUpper hverb _ hletter

end Verbs

/-! ### Lines -/

/-- The verb in some case, behind any blank characters, and then the end of the line or an argument.
Blank characters stand in front of the argument and may stand behind it. -/
inductive Spells (verb : String) : (argument line : List Char) → Prop
  | alone {front word : List Char} (hfront : ∀ c ∈ front, isBlank c = true)
    (hword : InSomeCase verb word) : Spells verb [] (front ++ word)
  | argument {front word gap argument back : List Char} (hfront : ∀ c ∈ front, isBlank c = true)
    (hword : InSomeCase verb word) (hne : gap ≠ []) (hgap : ∀ c ∈ gap, isBlank c = true)
    (hback : ∀ c ∈ back, isBlank c = true) :
    Spells verb argument (front ++ (word ++ (gap ++ (argument ++ back))))

/-- The first word of the line. -/
def BeginsWith (word : List Char) (line : String) : Prop :=
  ∃ front rest, line.toList = front ++ (word ++ rest) ∧ (∀ c ∈ front, isBlank c = true) ∧
    IsWord word ∧ EndsWord rest

section Lines

variable {verb line line' : String} {word argument : List Char}

theorem Spells.hasVerb (hverb : verb ∈ verbs) (h : Spells verb argument line.toList) :
    HasVerb verb line (trim argument) := by
  generalize htext : line.toList = text at h
  cases h with
  | alone hfront hword =>
    rw [← List.append_nil (_ ++ _), List.append_assoc] at htext
    have hline := hasVerb_of_word htext hfront (hword.isWord hverb) nofun
    rwa [(inSomeCase_iff hverb).mp hword] at hline
  | argument hfront hword hne hgap hback =>
    have hline := hasVerb_of_word htext hfront (hword.isWord hverb) (endsWord_append hne hgap _)
    rwa [(inSomeCase_iff hverb).mp hword, trim_margins hgap hback] at hline

theorem read_congr (hverb : verb ∈ verbs) (h : HasVerb verb line argument)
    (h' : HasVerb verb line' argument) : Request.read line = Request.read line' := by
  simp only [verbs, List.mem_cons, List.not_mem_nil, or_false] at hverb
  rcases hverb with rfl | rfl | rfl | rfl
  · rw [Request.read_of_says (.interval h), Request.read_of_says (.interval h')]
  · rw [Request.read_of_says (.list h), Request.read_of_says (.list h')]
  · rw [Request.read_of_says (.regex h), Request.read_of_says (.regex h')]
  · rw [Request.read_of_says (.test h), Request.read_of_says (.test h')]

theorem isBare_of_beginsWith (h : BeginsWith word line)
    (hno : ∀ verb ∈ verbs, ¬ InSomeCase verb word) : IsBare line := by
  obtain ⟨front, rest, hline, hfront, hword, hrest⟩ := h
  refine ⟨?_, ?_⟩
  · rw [hline, trim_blanks_append hfront, trim_word_append hword.1 hword.2]
    exact List.append_ne_nil_of_left_ne_nil hword.1 _
  · intro verb hverb argument hargument
    obtain ⟨hlower, -⟩ := (hasVerb_of_word hline hfront hword hrest).unique hargument
    exact hno verb hverb ((inSomeCase_iff hverb).mpr hlower)

theorem execute_bare (h : IsBare line) (options : Options) (m : Matcher) :
    execute options (some m) line = execute options (some m) ("match " ++ line) := by
  have hmatch : HasVerb "match" ("match " ++ line) (trim line.toList) :=
    hasVerb_append (by decide) line
  rw [execute, execute, Request.read_of_says (.bare h), Request.read_of_says (.test hmatch)]
  rfl

end Lines

/-- **Lines up to case and blank characters.** A line that begins with a verb in any case is answered
as the verb in lower case, one space and the trimmed argument are. A line that begins with another
word is answered as if `match` stood in front of it; without a matcher it is answered with the usage
text, and nothing changes. -/
theorem execute_up_to_case_and_blanks (options : Options) (session : Session) :
    (∀ verb ∈ verbs, ∀ (argument : List Char) (line : String),
      Spells verb argument line.toList →
        execute options session line =
          execute options session (verb ++ " " ++ String.ofList (trim argument))) ∧
    ∀ (word : List Char) (line : String), BeginsWith word line →
      (∀ verb ∈ verbs, ¬ InSomeCase verb word) →
        match session with
        | some _ =>
          execute options session line = execute options session ("match " ++ line)
        | none =>
          execute options session line = ⟨[Message.print usage], .ok .usage, session⟩ := by
  refine ⟨?_, ?_⟩
  · intro verb hverb argument line hline
    have hcanonical := hasVerb_append hverb (String.ofList (trim argument))
    rw [String.toList_ofList, trim_trim] at hcanonical
    rw [execute, execute, read_congr hverb (hline.hasVerb hverb) hcanonical]
  · intro word line hword hno
    have hbare := isBare_of_beginsWith hword hno
    cases session with
    | some m => exact execute_bare hbare options m
    | none =>
      dsimp only
      rw [execute, Request.read_of_says (.bare hbare)]
      rfl

/-- A capital of another script is no letter of a verb, and neither is a verb part of a longer word. -/
example : Request.read "\u2003Range\u00a01 5 " = .interval "1 5".toList ∧
    Request.read "CİDR 10/8" = .bare "CİDR 10/8".toList ∧
    Request.read "matches 5" = .bare "matches 5".toList := by
  decide

end IntervalRegex.Explorer
