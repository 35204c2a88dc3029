import GraphGateway.Proofs.CommandLine.Explanation
import Mathlib.Data.List.TakeWhile

/-!
# Which tokens are refused, and why

Tokens are refused for three reasons: there are none or one of them is blank, their number is even,
or the wildcard stands alone. The first counts before the second, whatever the number of tokens, and
the third counts for queries only, not for patterns. Main statement: each reason is found exactly
where it holds, all other tokens compile to the query that their steps spell and that an explanation
shows, white space at the ends of tokens makes no difference, and the limit shows at the end of the
text alone.
-/

namespace GraphGateway

/-!
## Padding
-/

namespace Text

/-- A text with white space more at its ends. -/
def Pads (text padded : String) : Prop :=
  ∃ before after, isBlankText before = true ∧ isBlankText after = true ∧
    padded = before ++ text ++ after

/-- White space at the ends of characters is trimmed. -/
theorem trimChars_append {before after : List Char} (text : List Char)
    (hbefore : ∀ c ∈ before, isBlank c = true) (hafter : ∀ c ∈ after, isBlank c = true) :
    trimChars (before ++ text ++ after) = trimChars text := by
  have hstart : (before ++ text ++ after).dropWhile isBlank = (text ++ after).dropWhile isBlank := by
    rw [List.append_assoc, List.dropWhile_append_of_pos hbefore]
  rw [trimChars, trimChars, hstart, List.dropWhile_append]
  -- Behind a blank text, what follows is already dropped at the start.
  split
  next hblank =>
    have hend : after.dropWhile isBlank = [] := List.dropWhile_eq_nil_iff.mpr hafter
    rw [List.isEmpty_iff.mp hblank, hend]
  next =>
    rw [List.reverse_append, List.dropWhile_append_of_pos]
    intro c hc
    exact hafter c (List.mem_reverse.mp hc)

/-- A text is trimmed alike whatever white space stands at its ends. -/
theorem Pads.trim_eq {text padded : String} (h : Pads text padded) : trim padded = trim text := by
  obtain ⟨before, after, hbefore, hafter, rfl⟩ := h
  rw [trim, trim, String.toList_append, String.toList_append, trimChars_append]
  · exact List.all_eq_true.mp hbefore
  · exact List.all_eq_true.mp hafter

/-- Texts are trimmed alike whatever white space stands at their ends. -/
theorem map_trim_eq_of_pads {texts padded : List String} (h : List.Forall₂ Pads texts padded) :
    padded.map trim = texts.map trim := by
  induction h with
  | nil => rfl
  | cons hpads _ ih => rw [List.map_cons, List.map_cons, hpads.trim_eq, ih]

end Text

/-!
## Patterns
-/

/-- There are no tokens, or one of them is blank. -/
def BlankTokens (tokens : List String) : Prop :=
  tokens = [] ∨ ∃ token ∈ tokens, Text.trim token = ""

/-- The only token is the wildcard. -/
def LoneWildcard (tokens : List String) : Prop := tokens.map Text.trim = [Selector.wildcard]

/-- The lone wildcard is one token, and not blank. -/
theorem LoneWildcard.not_blank {tokens : List String} (h : LoneWildcard tokens) :
    tokens.length = 1 ∧ ¬BlankTokens tokens := by
  obtain ⟨token, rfl, htrim⟩ := List.map_eq_singleton_iff.mp h
  refine ⟨rfl, ?_⟩
  rintro (hnone | ⟨other, hother, hblank⟩)
  · cases hnone
  · rw [List.mem_singleton.mp hother, htrim] at hblank
    exact absurd hblank (by decide)

namespace Selector

/-- A token is refused just where it is blank. -/
theorem parse_eq_error_iff {token : String} {error : Error} :
    parse token = .error error ↔ Text.trim token = "" ∧ error = .emptyPattern := by
  unfold parse
  by_cases hblank : Text.trim token = ""
  · simp only [String.isEmpty_iff, hblank, if_true, true_and, Except.error.injEq]
    exact eq_comm
  · simp only [String.isEmpty_iff, hblank, if_false, false_and, iff_false]
    split <;> nofun

/-- Tokens are refused just where one of them is blank. -/
theorem mapM_parse_eq_error_iff {tokens : List String} {error : Error} :
    tokens.mapM parse = .error error ↔
      (∃ token ∈ tokens, Text.trim token = "") ∧ error = .emptyPattern := by
  induction tokens with
  | nil => simp [pure, Except.pure]
  | cons token rest ih =>
    rw [List.mapM_cons, bind_eq_error_iff, parse_eq_error_iff, List.exists_mem_cons_iff]
    constructor
    · rintro (⟨hblank, rfl⟩ | ⟨selector, -, hothers⟩)
      · exact ⟨Or.inl hblank, rfl⟩
      · rcases bind_eq_error_iff.mp hothers with hrest | ⟨selectors, -, hdone⟩
        · obtain ⟨hblank, rfl⟩ := ih.mp hrest
          exact ⟨Or.inr hblank, rfl⟩
        · cases hdone
    · rintro ⟨hblank, rfl⟩
      -- All blank tokens are refused alike, so it does not matter which of them comes first.
      cases hfirst : parse token with
      | error found => exact Or.inl ⟨(parse_eq_error_iff.mp hfirst).1, rfl⟩
      | ok selector =>
        have hvisible := (parse_eq_ok_iff.mp hfirst).1
        have hrest := ih.mpr ⟨hblank.resolve_left hvisible, rfl⟩
        exact Or.inr ⟨selector, rfl, bind_eq_error_iff.mpr (Or.inl hrest)⟩

end Selector

namespace Pattern

/-- Tokens are refused as a pattern just where one of them is blank or there are none, or else where
their number is even. -/
theorem parse_eq_error_iff {tokens : List String} {error : Error} :
    parse tokens = .error error ↔
      (BlankTokens tokens ∧ error = .emptyPattern) ∨
      (¬BlankTokens tokens ∧ tokens.length % 2 = 0 ∧
        error = .unsupportedPattern (.evenLength tokens.length)) := by
  rw [parse, bind_eq_error_iff, Selector.mapM_parse_eq_error_iff]
  constructor
  · rintro (⟨hblank, rfl⟩ | ⟨selectors, hselectors, hcheck⟩)
    · exact Or.inl ⟨Or.inr hblank, rfl⟩
    · obtain ⟨hvisible, rfl⟩ := Selector.mapM_parse_eq_ok_iff.mp hselectors
      rw [List.isEmpty_map] at hcheck
      split at hcheck
      next hempty =>
        cases hcheck
        exact Or.inl ⟨Or.inl (List.isEmpty_iff.mp hempty), rfl⟩
      next hsome =>
        have hfull : ¬BlankTokens tokens := by
          rintro (rfl | ⟨token, htoken, hblank⟩)
          · exact hsome rfl
          · exact hvisible token htoken hblank
        split at hcheck
        next => cases hcheck
        next heven =>
          rw [List.length_map] at heven hcheck
          cases hcheck
          exact Or.inr ⟨hfull, Nat.mod_two_ne_one.mp heven, rfl⟩
  · rintro (⟨rfl | hblank, rfl⟩ | ⟨hfull, heven, rfl⟩)
    · exact Or.inr ⟨[], rfl, rfl⟩
    · exact Or.inl ⟨hblank, rfl⟩
    · obtain ⟨hsome, hvisible⟩ := not_or.mp hfull
      have hselectors := Selector.mapM_parse_eq_ok_iff.mpr
        ⟨fun token htoken hblank => hvisible ⟨token, htoken, hblank⟩, rfl⟩
      refine Or.inr ⟨_, hselectors, ?_⟩
      rw [if_neg, dif_neg, List.length_map]
      · rw [List.length_map]
        omega
      · rw [List.isEmpty_map, List.isEmpty_iff]
        exact hsome

/-- A pattern has no query just where it is the lone wildcard. -/
theorem compile_eq_error_iff {pattern : Pattern} {limit : Int64} {error : Error} :
    pattern.compile limit = .error error ↔
      pattern.selectors = [.any] ∧ error = .unsupportedPattern .loneWildcard := by
  unfold compile
  split
  next hselectors => simp [hselectors, eq_comm]
  next label hselectors => simp [hselectors]
  next hany hlabeled => exact iff_of_false nofun fun h => hany h.1

/-- Tokens are a pattern just where none of them is blank and their number is odd. -/
theorem exists_parse_eq_ok_iff {tokens : List String} :
    (∃ pattern, parse tokens = .ok pattern) ↔ ¬BlankTokens tokens ∧ tokens.length % 2 = 1 := by
  constructor
  · rintro ⟨pattern, hparse⟩
    obtain ⟨hvisible, hselectors⟩ := parse_eq_ok_iff.mp hparse
    have hodd := pattern.odd
    rw [← hselectors, List.length_map] at hodd
    refine ⟨?_, hodd⟩
    rintro (rfl | ⟨token, htoken, hblank⟩)
    · cases hodd
    · exact hvisible token htoken hblank
  · rintro ⟨hfull, hodd⟩
    rw [← List.length_map] at hodd
    exact ⟨⟨_, hodd⟩, parse_eq_ok_iff.mpr
      ⟨fun token htoken hblank => hfull (Or.inr ⟨token, htoken, hblank⟩), rfl⟩⟩

/-- A pattern has one step for each token. -/
theorem size_of_parse {tokens : List String} {pattern : Pattern} (h : parse tokens = .ok pattern) :
    pattern.size = tokens.length := by
  rw [size, ← (parse_eq_ok_iff.mp h).2, List.length_map]

/-- A pattern is the lone wildcard just where its tokens are. -/
theorem selectors_eq_any_iff {tokens : List String} {pattern : Pattern}
    (h : parse tokens = .ok pattern) : pattern.selectors = [.any] ↔ LoneWildcard tokens := by
  rw [← (parse_eq_ok_iff.mp h).2, LoneWildcard]
  simp only [List.map_eq_singleton_iff, Selector.ofTrimmed_eq_any_iff]

/-- A pattern says what its tokens say: its steps are the trimmed tokens, for nodes and edges in
turn, of which the first and the last are nodes, and they are shown in rows with their positions,
roles and fragments. -/
structure Reads (pattern : Pattern) (tokens : List String) : Prop where
  steps_eq : pattern.steps = tokens.mapIdx fun i token =>
    (if i % 2 = 0 then .node else .edge, .ofTrimmed (Text.trim token))
  first_eq : pattern.steps.head?.map Prod.fst = some .node
  last_eq : pattern.steps.getLast?.map Prod.fst = some .node
  rows_eq : CommandLine.stepRows pattern = tokens.mapIdx fun i token =>
    let kind : StepKind := if i % 2 = 0 then .node else .edge
    (i, Text.trim token, kind.name, kind.fragment (.ofTrimmed (Text.trim token)))

/-- A pattern says what the tokens say that it is read from. -/
theorem reads_of_parse {tokens : List String} {pattern : Pattern} (h : parse tokens = .ok pattern) :
    pattern.Reads tokens := by
  have hodd := (exists_parse_eq_ok_iff.mp ⟨pattern, h⟩).2
  have hsteps := steps_of_parse h
  cases tokens with
  | nil => cases hodd
  | cons token rest =>
    have hlast : ((token :: rest).length - 1) % 2 = 0 := by omega
    refine ⟨hsteps, ?_, ?_, ?_⟩
    · rw [hsteps, List.head?_mapIdx]
      rfl
    · rw [hsteps, List.getLast?_mapIdx, List.getLast?_cons, hlast]
      rfl
    · rw [CommandLine.stepRows, hsteps]
      apply List.ext_getElem?
      intro i
      simp only [List.getElem?_map, List.getElem?_zipIdx, List.getElem?_mapIdx, Option.map_map,
        Function.comp_def, Nat.zero_add, Selector.token_ofTrimmed]

/-- Tokens with the same trimmed texts are the same pattern, or are refused alike. -/
theorem parse_congr {tokens others : List String}
    (h : others.map Text.trim = tokens.map Text.trim) : parse others = parse tokens := by
  have hread (tokens : List String) : tokens.mapM Selector.parse =
      (tokens.map Text.trim).mapM fun trimmed =>
        if trimmed.isEmpty then .error .emptyPattern
        else if trimmed = Selector.wildcard then .ok .any
        else .ok (.labeled trimmed) := by
    rw [List.mapM_map]
    rfl
  rw [parse, hread, h, ← hread, parse]

end Pattern

/-!
## Queries
-/

namespace PathQuery

/-- Tokens compile to a query just where they are a pattern that does. -/
theorem ofTokens_eq_ok_iff {tokens : List String} {limit : Int64} {query : PathQuery} :
    ofTokens tokens limit = .ok query ↔
      ∃ pattern, Pattern.parse tokens = .ok pattern ∧ pattern.compile limit = .ok query :=
  bind_eq_ok_iff

/-- Tokens are refused just where one of them is blank or there are none, or else where their number
is even, or where the wildcard stands alone. -/
theorem ofTokens_eq_error_iff {tokens : List String} {limit : Int64} {error : Error} :
    ofTokens tokens limit = .error error ↔
      (BlankTokens tokens ∧ error = .emptyPattern) ∨
      (¬BlankTokens tokens ∧ tokens.length % 2 = 0 ∧
        error = .unsupportedPattern (.evenLength tokens.length)) ∨
      (LoneWildcard tokens ∧ error = .unsupportedPattern .loneWildcard) := by
  have hlone : (∃ pattern, Pattern.parse tokens = .ok pattern ∧
      pattern.compile limit = .error error) ↔
        LoneWildcard tokens ∧ error = .unsupportedPattern .loneWildcard := by
    constructor
    · rintro ⟨pattern, hparse, hcompile⟩
      rwa [Pattern.compile_eq_error_iff, Pattern.selectors_eq_any_iff hparse] at hcompile
    · rintro ⟨hlone, rfl⟩
      obtain ⟨hlength, hfull⟩ := hlone.not_blank
      obtain ⟨pattern, hparse⟩ := Pattern.exists_parse_eq_ok_iff.mpr ⟨hfull, by rw [hlength]⟩
      refine ⟨pattern, hparse, ?_⟩
      rw [Pattern.compile_eq_error_iff, Pattern.selectors_eq_any_iff hparse]
      exact ⟨hlone, rfl⟩
  rw [ofTokens, bind_eq_error_iff, Pattern.parse_eq_error_iff, hlone, or_assoc]

/-- Tokens compile to a query just where they are not refused. -/
theorem exists_ofTokens_eq_ok_iff {tokens : List String} {limit : Int64} :
    (∃ query, ofTokens tokens limit = .ok query) ↔
      ¬BlankTokens tokens ∧ tokens.length % 2 = 1 ∧ ¬LoneWildcard tokens := by
  constructor
  · rintro ⟨query, hquery⟩
    obtain ⟨pattern, hparse, hcompile⟩ := ofTokens_eq_ok_iff.mp hquery
    obtain ⟨hfull, hodd⟩ := Pattern.exists_parse_eq_ok_iff.mp ⟨pattern, hparse⟩
    refine ⟨hfull, hodd, ?_⟩
    intro hlone
    have hrefused : ofTokens tokens limit = .error (.unsupportedPattern .loneWildcard) :=
      ofTokens_eq_error_iff.mpr (Or.inr (Or.inr ⟨hlone, rfl⟩))
    rw [hquery] at hrefused
    cases hrefused
  · rintro ⟨hfull, hodd, hlone⟩
    cases hread : ofTokens tokens limit with
    | ok query => exact ⟨query, rfl⟩
    | error error =>
      rcases ofTokens_eq_error_iff.mp hread with ⟨hblank, -⟩ | ⟨-, heven, -⟩ | ⟨hwildcard, -⟩
      · exact absurd hblank hfull
      · omega
      · exact absurd hwildcard hlone

/-- Tokens are refused as an unsupported pattern just where none of them is blank and either their
number is even or the wildcard stands alone. -/
theorem ofTokens_eq_unsupported_iff {tokens : List String} {limit : Int64} {fault : PatternFault} :
    ofTokens tokens limit = .error (.unsupportedPattern fault) ↔
      ¬BlankTokens tokens ∧
        ((tokens.length % 2 = 0 ∧ fault = .evenLength tokens.length) ∨
          (LoneWildcard tokens ∧ fault = .loneWildcard)) := by
  rw [ofTokens_eq_error_iff]
  constructor
  · rintro (⟨-, herror⟩ | ⟨hfull, heven, herror⟩ | ⟨hlone, herror⟩)
    · cases herror
    · cases herror
      exact ⟨hfull, Or.inl ⟨heven, rfl⟩⟩
    · cases herror
      exact ⟨hlone.not_blank.2, Or.inr ⟨hlone, rfl⟩⟩
  · rintro ⟨hfull, ⟨heven, rfl⟩ | ⟨hlone, rfl⟩⟩
    · exact Or.inr (Or.inl ⟨hfull, heven, rfl⟩)
    · exact Or.inr (Or.inr ⟨hlone, rfl⟩)

/-- Tokens are a pattern just where they compile to a query or are the lone wildcard. -/
theorem exists_parse_iff_exists_ofTokens {tokens : List String} {limit : Int64} :
    (∃ pattern, Pattern.parse tokens = .ok pattern) ↔
      (∃ query, ofTokens tokens limit = .ok query) ∨ LoneWildcard tokens := by
  rw [Pattern.exists_parse_eq_ok_iff, exists_ofTokens_eq_ok_iff]
  by_cases hlone : LoneWildcard tokens
  · obtain ⟨hlength, hfull⟩ := hlone.not_blank
    simp [hlone, hlength, hfull]
  · simp [hlone]

/-- A query counts the steps of its tokens, has the limit, and asks for nodes just where there is one
token. -/
structure Counts (query : PathQuery) (tokens : List String) (limit : Int64) : Prop where
  nodeSteps_eq : query.nodeSteps = (tokens.length + 1) / 2
  edgeSteps_eq : query.edgeSteps = (tokens.length - 1) / 2
  limit_eq : query.limit = limit
  shape_eq_iff : query.shape = .nodes ↔ tokens.length = 1
  column_eq_iff : query.column = "n" ↔ tokens.length = 1

/-- A query counts the steps of the tokens that it is compiled from. -/
theorem counts_of_ofTokens {tokens : List String} {limit : Int64} {query : PathQuery}
    (h : ofTokens tokens limit = .ok query) : query.Counts tokens limit := by
  obtain ⟨pattern, hparse, hcompile⟩ := ofTokens_eq_ok_iff.mp h
  have hlength := Pattern.size_of_parse hparse
  rcases Pattern.compile_eq_ok_iff.mp hcompile with ⟨label, hlabel, rfl⟩ | ⟨hsize, rfl⟩
  · have hone : tokens.length = 1 := by
      rw [← hlength, Pattern.size, hlabel, List.length_singleton]
    constructor <;> simp [ofLabel, column, QueryShape.column, hone]
  · have hodd : pattern.size % 2 = 1 := pattern.odd
    constructor
    · rw [← hlength]
      rfl
    · change pattern.size / 2 = _
      omega
    · rfl
    · have hshape : (ofSteps pattern limit).shape = .paths := rfl
      rw [hshape]
      exact iff_of_false (by decide) (by omega)
    · have hcolumn : (ofSteps pattern limit).column = "p" := rfl
      rw [hcolumn]
      exact iff_of_false (by decide) (by omega)

/-- The text of a query of several steps is made of their fragments, as they are shown in rows. -/
theorem text_of_ofTokens {tokens : List String} {limit : Int64} {query : PathQuery}
    {pattern : Pattern} (h : ofTokens tokens limit = .ok query)
    (hparse : Pattern.parse tokens = .ok pattern) (hsteps : 1 < tokens.length) :
    query.text = "MATCH p=" ++
      String.join ((CommandLine.stepRows pattern).map fun (_, _, _, fragment) => fragment) ++
      " RETURN p LIMIT " ++ toString limit.toInt := by
  obtain ⟨found, hfound, hcompile⟩ := ofTokens_eq_ok_iff.mp h
  cases hparse.symm.trans hfound
  rcases Pattern.compile_eq_ok_iff.mp hcompile with ⟨label, hlabel, -⟩ | ⟨-, rfl⟩
  · have hone : pattern.size = 1 := by rw [Pattern.size, hlabel, List.length_singleton]
    rw [Pattern.size_of_parse hparse] at hone
    omega
  · have hrows : ((CommandLine.stepRows pattern).map fun (_, _, _, fragment) => fragment) =
        pattern.steps.map fun step => step.1.fragment step.2 := by
      apply List.ext_getElem?
      intro i
      simp only [CommandLine.stepRows, List.getElem?_map, List.getElem?_zipIdx, Option.map_map,
        Function.comp_def]
    have hsplit : " RETURN p LIMIT " = " RETURN p" ++ " LIMIT " := rfl
    rw [hrows, ofSteps, limitText, hsplit]
    simp only [String.append_assoc]

/-- What a query is apart from its limit: the text in front of the limit, the shape of the rows and
the numbers of steps. -/
structure Body where
  text : String
  shape : QueryShape
  nodeSteps : Nat
  edgeSteps : Nat

/-- A query with a limit. -/
def Body.limited (body : Body) (limit : Int64) : PathQuery where
  text := body.text ++ limitText limit
  limit := limit
  shape := body.shape
  nodeSteps := body.nodeSteps
  edgeSteps := body.edgeSteps

/-- What a pattern compiles to is known up to the limit. -/
theorem exists_body_of_compile (pattern : Pattern) :
    ∃ outcome : Except Error Body,
      ∀ limit, pattern.compile limit = outcome.map (·.limited limit) := by
  obtain ⟨selectors, hodd⟩ := pattern
  match selectors, hodd with
  | [.any], _ => exact ⟨.error (.unsupportedPattern .loneWildcard), fun _ => rfl⟩
  | [.labeled label], _ =>
    exact ⟨.ok ⟨"MATCH (n:" ++ Identifier.quote label ++ ") RETURN n", .nodes, 1, 0⟩, fun _ => rfl⟩
  | first :: second :: rest, hodd =>
    let pattern : Pattern := ⟨first :: second :: rest, hodd⟩
    let text := String.join (pattern.steps.map fun step => step.1.fragment step.2)
    have hsize : 3 ≤ pattern.size := by
      change (first :: second :: rest).length % 2 = 1 at hodd
      change 3 ≤ (first :: second :: rest).length
      rw [List.length_cons, List.length_cons] at hodd ⊢
      omega
    exact ⟨.ok ⟨"MATCH p=" ++ text ++ " RETURN p", .paths, pattern.nodeSteps, pattern.edgeSteps⟩,
      fun _ => Pattern.compile_eq_ok_iff.mpr (Or.inr ⟨hsize, rfl⟩)⟩

/-- What tokens compile to is known up to the limit. -/
theorem exists_body_of_ofTokens (tokens : List String) :
    ∃ outcome : Except Error Body,
      ∀ limit, ofTokens tokens limit = outcome.map (·.limited limit) := by
  cases hparse : Pattern.parse tokens with
  | error error =>
    refine ⟨.error error, fun limit => ?_⟩
    rw [ofTokens, hparse]
    rfl
  | ok pattern =>
    obtain ⟨outcome, houtcome⟩ := exists_body_of_compile pattern
    refine ⟨outcome, fun limit => ?_⟩
    rw [ofTokens, hparse, ← houtcome]
    rfl

/-- Tokens with the same trimmed texts compile to the same query, or are refused alike. -/
theorem ofTokens_congr {tokens others : List String} (limit : Int64)
    (h : others.map Text.trim = tokens.map Text.trim) :
    ofTokens others limit = ofTokens tokens limit := by
  rw [ofTokens, Pattern.parse_congr h, ofTokens]

/-- Tokens are refused as an empty pattern just where there are none or one of them is blank, however
many there are; else as an unsupported one just where their number is even or the wildcard stands
alone; and else they compile to a query that counts their steps and asks for nodes just where there
is one token. As a pattern the lone wildcard is accepted too. The steps of a pattern are shown as
nodes and edges in turn, the last one a node, in rows that each format of an explanation tells, and
the text of a query of several steps is made of the fragments in these rows. White space at the ends
of tokens makes no difference, and what tokens compile to is known up to the limit, which is a field
of the query and the end of its text. -/
theorem ofTokens_accepts_or_refuses (tokens : List String) (limit : Int64) :
    (ofTokens tokens limit = .error .emptyPattern ↔ BlankTokens tokens) ∧
    (∀ fault, ofTokens tokens limit = .error (.unsupportedPattern fault) ↔
      ¬BlankTokens tokens ∧
        ((tokens.length % 2 = 0 ∧ fault = .evenLength tokens.length) ∨
          (LoneWildcard tokens ∧ fault = .loneWildcard))) ∧
    ((∃ query, ofTokens tokens limit = .ok query) ↔
      ¬BlankTokens tokens ∧ ¬(tokens.length % 2 = 0 ∨ LoneWildcard tokens)) ∧
    (∀ query, ofTokens tokens limit = .ok query → query.Counts tokens limit) ∧
    ((∃ pattern, Pattern.parse tokens = .ok pattern) ↔
      (∃ query, ofTokens tokens limit = .ok query) ∨ LoneWildcard tokens) ∧
    (∀ pattern, Pattern.parse tokens = .ok pattern →
      (∀ format settings, (CommandLine.Command.explain tokens).run format settings =
        CommandLine.printSteps format pattern) ∧
      (∀ settings, CommandLine.Tells
        (fun format => (CommandLine.Command.explain tokens).run format settings)
        (CommandLine.stepRows pattern)) ∧
      pattern.Reads tokens ∧
      ∀ query, ofTokens tokens limit = .ok query → 1 < tokens.length →
        query.text = "MATCH p=" ++
          String.join ((CommandLine.stepRows pattern).map fun (_, _, _, fragment) => fragment) ++
          " RETURN p LIMIT " ++ toString limit.toInt) ∧
    (∀ padded, List.Forall₂ Text.Pads tokens padded →
      ofTokens padded limit = ofTokens tokens limit ∧
      Pattern.parse padded = Pattern.parse tokens) ∧
    ∃ outcome : Except Error Body,
      ∀ limit, ofTokens tokens limit = outcome.map (·.limited limit) := by
  refine ⟨?_, fun fault => ofTokens_eq_unsupported_iff, ?_, fun query => counts_of_ofTokens,
    exists_parse_iff_exists_ofTokens,
    fun pattern hparse => ⟨?_, ?_, Pattern.reads_of_parse hparse, ?_⟩,
    fun padded hpads => ?_, exists_body_of_ofTokens tokens⟩
  · rw [ofTokens_eq_error_iff]
    simp
  · rw [exists_ofTokens_eq_ok_iff, not_or, Nat.mod_two_not_eq_zero]
  · intro format settings
    rw [CommandLine.Command.run, hparse]
  · intro settings
    simp only [CommandLine.Command.run, hparse]
    exact CommandLine.tells_printSteps pattern
  · intro query hquery hsteps
    exact text_of_ofTokens hquery hparse hsteps
  · have htrim := Text.map_trim_eq_of_pads hpads
    exact ⟨ofTokens_congr limit htrim, Pattern.parse_congr htrim⟩

/-- An em space, a line break and a space at the ends of tokens leave the query as it is. -/
theorem ofTokens_accepts_or_refuses_padded :
    List.Forall₂ Text.Pads ["Person", "KNOWS", "*"] ["\u2003Person", "KNOWS\n", " * "] ∧
      ofTokens ["\u2003Person", "KNOWS\n", " * "] 7 =
        .ok {
          text := "MATCH p=(:Person)-[:KNOWS]->() RETURN p LIMIT 7"
          limit := 7
          shape := .paths
          nodeSteps := 2
          edgeSteps := 1 } := by
  have hpads : List.Forall₂ Text.Pads ["Person", "KNOWS", "*"]
      ["\u2003Person", "KNOWS\n", " * "] :=
    .cons ⟨"\u2003", "", rfl, rfl, rfl⟩ <| .cons ⟨"", "\n", rfl, rfl, rfl⟩ <|
      .cons ⟨" ", " ", rfl, rfl, rfl⟩ .nil
  obtain ⟨-, -, -, -, -, -, hpadded, -⟩ := ofTokens_accepts_or_refuses ["Person", "KNOWS", "*"] 7
  exact ⟨hpads, (hpadded _ hpads).1⟩

end PathQuery

end GraphGateway
