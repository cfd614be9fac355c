import IntervalRegex.Command.Program
import IntervalRegex.Proofs.Explorer.Session
import Mathlib.Data.List.TakeWhile

/-!
# Input of the explorer

Without lines of its own the explorer answers those of its input. It answers them as it answers
the same lines given as arguments, up to a lone dot; what stands behind the dot is never looked at.
A line that is not UTF-8 ends the session with a failure once the lines before it are answered.
-/

namespace IntervalRegex.Explorer

/-! ### Lines -/

/-- A line feed ends a line, alone or with a carriage return in front. The last line needs none. -/
inductive Lines : List UInt8 → List (List UInt8) → Prop
  | done : Lines [] []
  | last {line : List UInt8} (hne : line ≠ []) (hfeed : 10 ∉ line) : Lines line [line]
  | feed {line rest : List UInt8} {lines : List (List UInt8)} (hfeed : 10 ∉ line)
    (hreturn : line.getLast? ≠ some 13) (h : Lines rest lines) :
    Lines (line ++ 10 :: rest) (line :: lines)
  | returnFeed {line rest : List UInt8} {lines : List (List UInt8)} (hfeed : 10 ∉ line)
    (h : Lines rest lines) : Lines (line ++ 13 :: 10 :: rest) (line :: lines)

def withoutReturn (line : List UInt8) : List UInt8 :=
  if line.getLast? = some 13 then line.dropLast else line

theorem withoutReturn_of_ne {line : List UInt8} (h : line.getLast? ≠ some 13) :
    withoutReturn line = line := if_neg h

theorem withoutReturn_concat (line : List UInt8) : withoutReturn (line ++ [13]) = line := by
  rw [withoutReturn, List.getLast?_concat, if_pos rfl, List.dropLast_concat]

/-- What stands before a line feed are whole lines. -/
theorem inputLines_append (front rest : List UInt8) :
    inputLines (front ++ 10 :: rest) =
      (front.splitOn 10).map withoutReturn ++ inputLines rest := by
  have hne := List.splitOn_ne_nil 10 rest
  have hlast : (front.splitOn 10 ++ rest.splitOn 10).getLast? = (rest.splitOn 10).getLast? := by
    rw [List.getLast?_append, List.getLast?_eq_some_getLast hne]
    rfl
  unfold inputLines
  dsimp only
  rw [List.splitOn_append_cons_self, List.dropLast_append_of_ne_nil hne, hlast, List.map_append]
  split
  · rfl
  · rfl
  · rw [List.append_assoc]
    rfl

theorem inputLines_line {line : List UInt8} (hfeed : 10 ∉ line) (rest : List UInt8) :
    inputLines (line ++ 10 :: rest) = withoutReturn line :: inputLines rest := by
  rw [inputLines_append, List.splitOn_eq_singleton hfeed]
  rfl

theorem inputLines_last {line : List UInt8} (hne : line ≠ []) (hfeed : 10 ∉ line) :
    inputLines line = [line] := by
  unfold inputLines
  rw [List.splitOn_eq_singleton hfeed]
  simp

theorem lines_inputLines (bytes : List UInt8) : Lines bytes (inputLines bytes) := by
  induction hlength : bytes.length using Nat.strongRecOn generalizing bytes with
  | ind length ih =>
    by_cases hfeed : 10 ∈ bytes
    · obtain ⟨line, rest, rfl, hline⟩ := List.eq_append_cons_of_mem hfeed
      have hrest := ih rest.length (by simp at hlength; omega) rest rfl
      rw [inputLines_line hline]
      by_cases hreturn : line.getLast? = some 13
      · obtain ⟨front, rfl⟩ := List.getLast?_eq_some_iff.mp hreturn
        rw [withoutReturn_concat, List.append_assoc]
        exact .returnFeed (fun hmem => hline (List.mem_append_left _ hmem)) hrest
      · rw [withoutReturn_of_ne hreturn]
        exact .feed hline hreturn hrest
    · by_cases hne : bytes = []
      · subst hne
        exact .done
      · rw [inputLines_last hne hfeed]
        exact .last hne hfeed

theorem inputLines_eq_iff {bytes : List UInt8} {lines : List (List UInt8)} :
    inputLines bytes = lines ↔ Lines bytes lines := by
  constructor
  · rintro rfl
    exact lines_inputLines bytes
  · intro hlines
    induction hlines with
    | done => rfl
    | last hne hfeed => exact inputLines_last hne hfeed
    | feed hfeed hreturn _ ih => rw [inputLines_line hfeed, withoutReturn_of_ne hreturn, ih]
    | @returnFeed line rest lines hfeed _ ih =>
      have hline : 10 ∉ line ++ [13] := by simp [hfeed]
      have htext : line ++ 13 :: 10 :: rest = (line ++ [13]) ++ 10 :: rest := by simp
      rw [htext, inputLines_line hline, withoutReturn_concat, ih]

/-! ### Texts -/

/-- The bytes of a text. -/
def utf8 (text : String) : List UInt8 := text.toUTF8.data.toList

theorem fromUTF8?_eq_some_iff {bytes : List UInt8} {text : String} :
    String.fromUTF8? ⟨bytes.toArray⟩ = some text ↔ bytes = utf8 text := by
  unfold String.fromUTF8?
  constructor
  · intro h
    split at h
    · obtain rfl := Option.some.inj h
      rfl
    · cases h
  · rintro rfl
    exact dif_pos text.isValidUTF8

/-- A dot once blank characters are trimmed. -/
def IsLoneDot (line : List UInt8) : Prop :=
  ∃ text, line = utf8 text ∧ Text.trim text.toList = ['.']

instance (line : List UInt8) : Decidable (IsLoneDot line) :=
  decidable_of_iff (∃ text ∈ String.fromUTF8? ⟨line.toArray⟩, Text.trim text.toList = ['.']) (by
    simp only [Option.mem_def, fromUTF8?_eq_some_iff, IsLoneDot])

/-- The lines that are answered. -/
def beforeDot (lines : List (List UInt8)) : List (List UInt8) :=
  lines.takeWhile fun line => ¬ IsLoneDot line

theorem utf8_injective : Function.Injective utf8 := by
  intro text text' h
  have hread : String.fromUTF8? ⟨(utf8 text).toArray⟩ = some text :=
    fromUTF8?_eq_some_iff.mpr rfl
  exact Option.some.inj (hread.symm.trans (fromUTF8?_eq_some_iff.mpr h))

theorem isLoneDot_utf8_iff {text : String} :
    IsLoneDot (utf8 text) ↔ Text.trim text.toList = ['.'] := by
  constructor
  · intro hdot
    obtain ⟨text', hbytes, htrim⟩ := hdot
    rwa [utf8_injective hbytes]
  · exact fun htrim => ⟨text, rfl, htrim⟩

section Answers

variable {options : Options} {session : Session} {text : String} {texts : List String}
  {line : List UInt8} {lines : List (List UInt8)}

theorem runInput_text (h : ¬ IsLoneDot (utf8 text)) :
    runInput options session (utf8 text :: lines) =
      ⟨(execute options session text).allEvents ++
        (runInput options (execute options session text).session lines).events,
        (runInput options (execute options session text).session lines).result⟩ := by
  rw [isLoneDot_utf8_iff] at h
  rw [runInput, fromUTF8?_eq_some_iff.mpr rfl]
  exact if_neg h

theorem runInput_notText (h : ∀ text, line ≠ utf8 text) :
    runInput options session (line :: lines) = ⟨[], .error .input⟩ := by
  rw [runInput]
  split
  · rfl
  · next text htext => exact absurd (fromUTF8?_eq_some_iff.mp htext) (h text)

theorem runInput_loneDot (h : IsLoneDot line) :
    runInput options session (line :: lines) = ⟨[], .ok ()⟩ := by
  obtain ⟨text, rfl, htrim⟩ := h
  rw [runInput, fromUTF8?_eq_some_iff.mpr rfl]
  exact if_pos htrim

/-- What stands behind a lone dot is not looked at. -/
theorem runInput_beforeDot :
    runInput options session lines = runInput options session (beforeDot lines) := by
  induction lines generalizing session with
  | nil => rfl
  | cons line lines ih =>
    by_cases hdot : IsLoneDot line
    · rw [runInput_loneDot hdot, beforeDot, List.takeWhile_cons_of_neg (by simpa using hdot)]
      rfl
    · have hfront : beforeDot (line :: lines) = line :: beforeDot lines :=
        List.takeWhile_cons_of_pos (by simpa using hdot)
      rw [hfront]
      by_cases htext : ∃ text, line = utf8 text
      · obtain ⟨text, rfl⟩ := htext
        rw [runInput_text hdot, runInput_text hdot, ih]
      · have hnone : ∀ text, line ≠ utf8 text := not_exists.mp htext
        rw [runInput_notText hnone, runInput_notText hnone]

/-- Lines that are texts are answered as these texts, and what follows in the session they leave. -/
theorem runInput_texts (h : ∀ text ∈ texts, ¬ IsLoneDot (utf8 text)) :
    runInput options session (texts.map utf8 ++ lines) =
      ⟨runLines options session texts ++
        (runInput options (sessionAfter options session texts) lines).events,
        (runInput options (sessionAfter options session texts) lines).result⟩ := by
  induction texts generalizing session with
  | nil => rfl
  | cons text texts ih =>
    rw [List.forall_mem_cons] at h
    rw [List.map_cons, List.cons_append, runInput_text h.1, ih h.2, runLines, sessionAfter_cons,
      List.append_assoc]

theorem not_isLoneDot_of_mem_beforeDot (h : line ∈ beforeDot lines) : ¬ IsLoneDot line := by
  simpa using List.mem_takeWhile_imp h

theorem runInput_eq_ok (h : beforeDot lines = texts.map utf8) :
    runInput options session lines = ⟨runLines options session texts, .ok ()⟩ := by
  have hdots : ∀ text ∈ texts, ¬ IsLoneDot (utf8 text) := by
    intro text htext
    exact not_isLoneDot_of_mem_beforeDot (h ▸ List.mem_map_of_mem htext)
  rw [runInput_beforeDot, h, ← List.append_nil (texts.map utf8), runInput_texts hdots, runInput,
    List.append_nil]

theorem runInput_eq_error {after : List (List UInt8)}
    (h : beforeDot lines = texts.map utf8 ++ line :: after) (hline : ∀ text, line ≠ utf8 text) :
    runInput options session lines = ⟨runLines options session texts, .error .input⟩ := by
  have hdots : ∀ text ∈ texts, ¬ IsLoneDot (utf8 text) := by
    intro text htext
    exact not_isLoneDot_of_mem_beforeDot (h ▸ List.mem_append_left _ (List.mem_map_of_mem htext))
  rw [runInput_beforeDot, h, runInput_texts hdots, runInput_notText hline, List.append_nil]

/-- The first line that is no text, if there is one. -/
theorem exists_first_notText (h : ∃ line ∈ lines, ∀ text, line ≠ utf8 text) :
    ∃ (texts : List String) (line : List UInt8) (after : List (List UInt8)),
      lines = texts.map utf8 ++ line :: after ∧ ∀ text, line ≠ utf8 text := by
  induction lines with
  | nil =>
    obtain ⟨line, hmem, -⟩ := h
    cases hmem
  | cons line lines ih =>
    by_cases htext : ∃ text, line = utf8 text
    · obtain ⟨text, rfl⟩ := htext
      rw [List.exists_mem_cons_iff] at h
      obtain ⟨texts, bad, after, rfl, hbad⟩ := ih (h.resolve_left fun hne => hne text rfl)
      exact ⟨text :: texts, bad, after, rfl, hbad⟩
    · exact ⟨[], line, lines, rfl, not_exists.mp htext⟩

theorem beforeDot_append (h : ∃ line ∈ lines, IsLoneDot line) (more : List (List UInt8)) :
    beforeDot (lines ++ more) = beforeDot lines := by
  induction lines with
  | nil =>
    obtain ⟨line, hmem, -⟩ := h
    cases hmem
  | cons line lines ih =>
    rw [beforeDot, beforeDot, List.cons_append, List.takeWhile_cons, List.takeWhile_cons]
    by_cases hdot : IsLoneDot line
    · simp [hdot]
    · rw [List.exists_mem_cons_iff] at h
      have hrest := ih (h.resolve_left hdot)
      simp only [hdot, not_false_eq_true, decide_true, if_true]
      exact congrArg (line :: ·) hrest

end Answers

/-! ### The program -/

section Results

variable {setting : Option String} {color : Bool} {options : Options} {lines : List String}
  {input : List UInt8} {events : List Event}

theorem output_append (filter : Filter) (first second : List Event) :
    filter.output color (first ++ second) =
      filter.output color first ++ filter.output color second := by
  simp [Filter.output]

/-- The title that stands over a session. -/
def sessionTitle (setting : Option String) (color : Bool) (options : Options) : String :=
  (Filter.ofSetting setting).output color
    (Message.header (Program.title (.explore [])) options)

theorem result_of_explore_ok (h : Program.explore lines input options = ⟨events, .ok ()⟩) :
    Program.result setting color ⟨.explore lines, options⟩ input =
      ⟨0, sessionTitle setting color options ++ (Filter.ofSetting setting).output color events,
        ""⟩ := by
  rw [sessionTitle, ← output_append, Program.result, Program.run]
  simp only [h]
  rfl

theorem result_of_explore_error {failure : Failure}
    (h : Program.explore lines input options = ⟨events, .error failure⟩) :
    Program.result setting color ⟨.explore lines, options⟩ input =
      ⟨1, sessionTitle setting color options ++ (Filter.ofSetting setting).output color events,
        failure.report⟩ := by
  rw [sessionTitle, ← output_append, Program.result, Program.run]
  simp only [h]
  rfl

theorem explore_lines (hne : lines ≠ []) :
    Program.explore lines input options = ⟨runLines options none lines, .ok ()⟩ := by
  rw [Program.explore, if_neg (by simpa using hne)]

theorem explore_input :
    Program.explore [] input options =
      ⟨Message.print usage :: (runInput options none (inputLines input)).events,
        (runInput options none (inputLines input)).result⟩ := rfl

theorem output_usage (filter : Filter) :
    filter.output color (Message.print usage :: events) =
      filter.output color [Message.print usage] ++ filter.output color events :=
  output_append filter [Message.print usage] events

/-- Only the lines before a lone dot count. -/
theorem result_congr {input' : List UInt8}
    (h : beforeDot (inputLines input) = beforeDot (inputLines input')) :
    Program.result setting color ⟨.explore [], options⟩ input =
      Program.result setting color ⟨.explore [], options⟩ input' := by
  have hexplore : Program.explore [] input options = Program.explore [] input' options := by
    rw [explore_input, explore_input, runInput_beforeDot, h, ← runInput_beforeDot]
  simp only [Program.result, Program.run, hexplore]

end Results

/-- **Input as lines.** The lines before a lone dot are answered as they would be if they were given
as arguments, behind the usage text, and the program succeeds. If one of them is no text, those
before it are answered and the program fails. No byte behind a lone dot and its line feed
matters. -/
theorem result_input (setting : Option String) (color : Bool) (options : Options)
    (input : List UInt8) :
    let shown := (Filter.ofSetting setting).output color
    let result := Program.result setting color ⟨.explore [], options⟩
    let title := sessionTitle setting color options
    let help := shown [Message.print usage]
    let front := beforeDot (inputLines input)
    (∀ lines, inputLines input = lines ↔ Lines input lines) ∧
    (∀ texts : List String, front = texts.map utf8 →
      result input = ⟨0, title ++ help ++ shown (runLines options none texts), ""⟩) ∧
    (∀ texts : List String, texts ≠ [] → ∀ other,
      Program.result setting color ⟨.explore texts, options⟩ other =
        ⟨0, title ++ shown (runLines options none texts), ""⟩) ∧
    ((∃ line ∈ front, ∀ text, line ≠ utf8 text) →
      ∃ (texts : List String) (line : List UInt8) (after : List (List UInt8)),
        front = texts.map utf8 ++ line :: after ∧ (∀ text, line ≠ utf8 text) ∧
        result input =
          ⟨1, title ++ help ++ shown (runLines options none texts), Failure.input.report⟩) ∧
    ((∃ line ∈ inputLines (input ++ [10]), IsLoneDot line) →
      ∀ rest, result (input ++ 10 :: rest) = result (input ++ [10])) := by
  intro shown result title help front
  refine ⟨fun lines => inputLines_eq_iff, ?_, ?_, ?_, ?_⟩
  · intro texts htexts
    have hexplore : Program.explore [] input options =
        ⟨Message.print usage :: runLines options none texts, .ok ()⟩ := by
      rw [explore_input, runInput_eq_ok htexts]
    have hresult : result input = _ := result_of_explore_ok hexplore
    rw [output_usage, ← String.append_assoc] at hresult
    exact hresult
  · intro texts hne other
    exact result_of_explore_ok (explore_lines hne)
  · intro hbad
    obtain ⟨texts, line, after, hfront, hline⟩ := exists_first_notText hbad
    have hexplore : Program.explore [] input options =
        ⟨Message.print usage :: runLines options none texts, .error .input⟩ := by
      rw [explore_input, runInput_eq_error hfront hline]
    have hresult : result input = _ := result_of_explore_error hexplore
    rw [output_usage, ← String.append_assoc] at hresult
    exact ⟨texts, line, after, hfront, hline, hresult⟩
  · intro hdot rest
    apply result_congr
    have hmore := inputLines_append input rest
    have hnone := inputLines_append input []
    rw [show inputLines [] = [] from rfl, List.append_nil] at hnone
    rw [hmore, ← hnone, beforeDot_append hdot]

end IntervalRegex.Explorer
