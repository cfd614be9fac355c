import IntervalRegex.Console.Message
import IntervalRegex.Proofs.Fragment.Dialect
import IntervalRegex.Proofs.NumberRange.Choice
import IntervalRegex.Proofs.TokenList

/-!
# Generated patterns

The patterns of intervals, of tokens and of lists are texts of the minimal dialect. They can stand
side by side, next to dots and in groups without a change of what they match.
-/

namespace IntervalRegex

/-- The patterns that intervals, tokens and lists have. -/
inductive Generated : String → Prop
  | interval (min max : Int64) : Generated (NumberRange.pattern min.toInt max.toInt)
  | token {token : Token} {p : String} (h : token.pattern = .ok p) : Generated p
  /-- The token is read from a text. -/
  | tokenText {input p : String} (h : (Token.read input).bind Token.pattern = .ok p) : Generated p
  | list {list p : String} (h : TokenList.pattern list = .ok p) : Generated p

/-- What is shown of a derived text is made of its alphabet and the anchors. -/
theorem Derivable.shown_subset {p : String} (h : Derivable p.toList) (options : Options) :
    (options.shown p).toList ⊆ '^' :: '$' :: alphabet := by
  have htext : p.toList ⊆ '^' :: '$' :: alphabet := fun c hc =>
    List.mem_cons_of_mem _ (List.mem_cons_of_mem _ (h.subset_alphabet hc))
  unfold Options.shown
  split
  · rw [anchor, String.toList_append, String.toList_append, List.append_subset, List.append_subset]
    exact ⟨⟨by decide, htext⟩, by decide⟩
  · exact htext

theorem derivable_of_map_text {ε : Type} {result : Except ε Fragment} {p : String}
    (hresult : ∀ f, result = .ok f → f.Closed)
    (h : (result.map fun f => String.ofList f.text) = .ok p) : Derivable p.toList := by
  cases result with
  | error e => cases h
  | ok f =>
    cases h
    rw [String.toList_ofList]
    exact (hresult f rfl).derivable

theorem Generated.derivable {p : String} (h : Generated p) : Derivable p.toList := by
  cases h with
  | interval min max =>
    rw [NumberRange.pattern, String.toList_ofList]
    exact (NumberRange.fragment_toInt_closed min max).derivable
  | token h => exact derivable_of_map_text (fun _ => Token.fragment_closed) h
  | tokenText h =>
    rw [Token.read_bind_pattern] at h
    exact derivable_of_map_text (fun _ => Token.compile_closed) h
  | list h => exact derivable_of_map_text (fun _ => TokenList.fragment_closed) h

theorem Generated.exists_compile {p : String} (h : Generated p) (d : Dialect) :
    ∃ m, Matcher.compile d p = .ok m := by
  obtain ⟨m, hm, -⟩ := (h.derivable.isExpression (d := d)).exists_compile
  rw [String.ofList_toList] at hm
  exact ⟨m, hm⟩

/-- **Generated patterns stand for themselves.** Each one is a text of the minimal dialect, and in
both dialects of matchers it keeps its language among such texts, so among generated patterns. -/
theorem generated_selfContained {p : String} (hp : Generated p) :
    Derivable p.toList ∧ ∀ d : Dialect, SelfContained d p.toList :=
  ⟨hp.derivable, hp.derivable.selfContained⟩

/-- A choice of a block with a wildcard and a range that shares two octets, behind itself. -/
theorem generated_selfContained_list :
    ∃ p, TokenList.pattern "10.1.2.*/20, 1.2.3.250-1.2.5.14" = .ok p ∧
      openAfter 0 p.toList = some 0 ∧
      Regex.language .unicode (p.toList ++ p.toList) =
        Regex.language .unicode p.toList * Regex.language .unicode p.toList := by
  have hok : (TokenList.pattern "10.1.2.*/20, 1.2.3.250-1.2.5.14").isOk = true := by
    decide +kernel
  cases hpattern : TokenList.pattern "10.1.2.*/20, 1.2.3.250-1.2.5.14" with
  | error e =>
    rw [hpattern] at hok
    cases hok
  | ok p =>
    obtain ⟨hderivable, hself⟩ := generated_selfContained (.list hpattern)
    exact ⟨p, rfl, (hself .unicode).closed, ((hself .unicode).append _ hderivable).2⟩

end IntervalRegex
