import IntervalRegex.Explorer
import IntervalRegex.Proofs.Text.Blank

/-!
# Lines of the explorer

A line is read by its first word, which is compared in lower case. Every line is exactly one of the
requests.
-/

namespace IntervalRegex.Explorer

open Text

/-- The first word of the line is the verb in some ASCII case, and the argument is all that follows
it but for blank characters at both ends. -/
def HasVerb (verb line : String) (argument : List Char) : Prop :=
  ∃ word rest, trim line.toList = word ++ rest ∧ (∀ c ∈ word, isBlank c = false) ∧
    EndsWord rest ∧ String.ofList (word.map Char.toLower) = verb ∧ argument = trim rest

def verbs : List String := ["range", "cidr", "pattern", "match"]

/-- The line is not blank, and no verb stands at its start. -/
def IsBare (line : String) : Prop :=
  trim line.toList ≠ [] ∧ ∀ verb ∈ verbs, ∀ argument, ¬ HasVerb verb line argument

inductive Request.Says (line : String) : Request → Prop
  | interval {argument : List Char} (h : HasVerb "range" line argument) :
    Says line (.interval argument)
  | list {argument : List Char} (h : HasVerb "cidr" line argument) : Says line (.list argument)
  | regex {argument : List Char} (h : HasVerb "pattern" line argument) : Says line (.regex argument)
  | test {input : List Char} (h : HasVerb "match" line input) : Says line (.test input)
  | bare (h : IsBare line) : Says line (.bare (trim line.toList))
  | blank (h : trim line.toList = []) : Says line .blank

def lowerWord (line : String) : String :=
  String.ofList ((firstWord (trim line.toList)).1.map Char.toLower)

theorem hasVerb_iff {verb line : String} {argument : List Char} :
    HasVerb verb line argument ↔
      lowerWord line = verb ∧ argument = trim (firstWord (trim line.toList)).2 := by
  constructor
  · intro hverb
    obtain ⟨word, rest, hline, hword, hrest, hlower, rfl⟩ := hverb
    rw [lowerWord, hline, firstWord_append hword hrest, hrest.trim_tail]
    exact ⟨hlower, rfl⟩
  · intro hline
    obtain ⟨hlower, rfl⟩ := hline
    have hrest := endsWord_dropWhile (trim line.toList)
    exact ⟨_, _, List.takeWhile_append_dropWhile.symm,
      fun c hc => not_isBlank_of_mem_takeWhile hc, hrest, hlower, hrest.trim_tail⟩

theorem hasVerb_of_word {line : String} {front word rest : List Char}
    (hline : line.toList = front ++ (word ++ rest)) (hfront : ∀ c ∈ front, isBlank c = true)
    (hword : IsWord word) (hrest : EndsWord rest) :
    HasVerb (String.ofList (word.map Char.toLower)) line (trim rest) := by
  refine ⟨word, rest.rdropWhile isBlank, ?_, hword.2,
    hrest.of_prefix (List.rdropWhile_prefix isBlank rest), rfl, (trim_rdropWhile rest).symm⟩
  rw [hline, trim_blanks_append hfront, trim_word_append hword.1 hword.2]

theorem isWord_verb {verb : String} (hverb : verb ∈ verbs) : IsWord verb.toList := by
  have hall : verb.toList ≠ [] ∧ verb.toList.all (fun c => !isBlank c) = true := by
    revert verb
    decide
  exact ⟨hall.1, not_isBlank_of_all hall.2⟩

/-- A verb and a blank character in front of any text. -/
theorem hasVerb_append {verb : String} (hverb : verb ∈ verbs) (argument : String) :
    HasVerb verb (verb ++ " " ++ argument) (trim argument.toList) := by
  have hlower : String.ofList (verb.toList.map Char.toLower) = verb := by
    revert verb
    decide
  have hline : (verb ++ " " ++ argument).toList =
      [] ++ (verb.toList ++ ' ' :: argument.toList) := by
    rw [String.toList_append, String.toList_append, List.append_assoc]
    rfl
  have hrest : EndsWord (' ' :: argument.toList) := by
    intro c hc
    cases hc
    rfl
  have hread := hasVerb_of_word hline (List.forall_mem_nil _) (isWord_verb hverb) hrest
  rwa [hlower, trim_cons_of_isBlank rfl] at hread

theorem HasVerb.subset {verb line : String} {argument : List Char}
    (h : HasVerb verb line argument) : argument ⊆ line.toList := by
  obtain ⟨word, rest, hline, -, -, -, rfl⟩ := h
  intro c hc
  apply mem_of_mem_trim
  rw [hline]
  exact List.mem_append_right word (mem_of_mem_trim hc)

theorem HasVerb.unique {verb verb' line : String} {argument argument' : List Char}
    (h : HasVerb verb line argument) (h' : HasVerb verb' line argument') :
    verb = verb' ∧ argument = argument' := by
  obtain ⟨hverb, hargument⟩ := hasVerb_iff.mp h
  obtain ⟨hverb', hargument'⟩ := hasVerb_iff.mp h'
  exact ⟨hverb.symm.trans hverb', hargument.trans hargument'.symm⟩

theorem lowerWord_eq_empty_iff {line : String} : lowerWord line = "" ↔ trim line.toList = [] := by
  cases htrim : trim line.toList with
  | nil => simp [lowerWord, htrim, firstWord]
  | cons c cs =>
    have hc : isBlank c = false := isBlank_of_head?_trim (by rw [htrim]; rfl)
    simp [lowerWord, htrim, firstWord, hc]

theorem isBare_of_lowerWord {line : String} (hne : lowerWord line ≠ "")
    (hverb : lowerWord line ∉ verbs) : IsBare line := by
  refine ⟨fun h => hne (lowerWord_eq_empty_iff.mpr h), ?_⟩
  intro verb hmem argument h
  obtain ⟨hword, -⟩ := hasVerb_iff.mp h
  rw [hword] at hverb
  exact hverb hmem

theorem Request.says_read (line : String) : Says line (read line) := by
  have hverb : ∀ verb, lowerWord line = verb →
      HasVerb verb line (trim (firstWord (trim line.toList)).2) :=
    fun verb h => hasVerb_iff.mpr ⟨h, rfl⟩
  unfold read
  simp only
  split
  · next h => exact .interval (hverb _ h)
  · next h => exact .list (hverb _ h)
  · next h => exact .regex (hverb _ h)
  · next h => exact .test (hverb _ h)
  · next h => exact .blank (lowerWord_eq_empty_iff.mp h)
  · next hrange hlist hregex htest hblank =>
    refine .bare (isBare_of_lowerWord hblank ?_)
    simpa [verbs] using ⟨hrange, hlist, hregex, htest⟩

theorem Request.read_of_says {line : String} {request : Request} (h : Says line request) :
    read line = request := by
  cases h with
  | interval h | list h | regex h | test h =>
    obtain ⟨hword, hargument⟩ := hasVerb_iff.mp h
    unfold lowerWord at hword
    simp [read, hword, hargument]
  | bare h =>
    -- any other reading of the line would need a verb, or no first word
    have hread := says_read line
    generalize read line = request at hread
    cases hread with
    | interval hverb | list hverb | regex hverb | test hverb =>
      exact absurd hverb (h.2 _ (by decide) _)
    | bare => rfl
    | blank hblank => exact absurd hblank h.1
  | blank h =>
    have hword := lowerWord_eq_empty_iff.mpr h
    unfold lowerWord at hword
    simp [read, hword]

end IntervalRegex.Explorer
