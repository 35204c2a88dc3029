import GraphGateway.Proofs.Identifier.Quoting
import GraphGateway.Proofs.Pattern.Compile
import GraphGateway.Proofs.Pattern.Reader

/-!
# Path queries can be read back

The text of a path query says what its tokens and its limit say, and nothing else. Every compiled
query is written in the grammar of path queries, so that reading it gives back the limit and the
trimmed tokens, one step for each, whatever characters stand in the labels.
-/

namespace GraphGateway

/-- A whole number is written in decimal digits. -/
theorem decimalSpelling_toString (n : Int) : DecimalSpelling n (toString n).toList := by
  have hdigits (m : Nat) : (Nat.toDigits 10 m).all Char.isDigit = true :=
    List.all_eq_true.mpr fun _ hc => Nat.isDigit_of_mem_toDigits (by decide) (by decide) hc
  rw [Int.toString_eq_repr, Int.repr_eq_if]
  split
  next hn =>
    obtain ⟨m, rfl⟩ := Int.eq_ofNat_of_zero_le hn
    have hspelling := DecimalSpelling.natural Nat.toDigits_ne_nil (hdigits m)
    rwa [Nat.ofDigitChars_ten_toDigits, ← Nat.toList_repr] at hspelling
  next hn =>
    obtain ⟨m, hm⟩ := Int.eq_ofNat_of_zero_le (show 0 ≤ -n by omega)
    have hspelling := DecimalSpelling.negative Nat.toDigits_ne_nil (hdigits m)
    rw [Nat.ofDigitChars_ten_toDigits, ← hm, Int.neg_neg] at hspelling
    rwa [hm, Int.toNat_natCast, String.toList_append, Nat.toList_repr]

/-- The fragment of a step is written in the grammar of steps. -/
theorem StepKind.spelling_fragment (kind : StepKind) (selector : Selector) :
    kind.Spelling selector (kind.fragment selector).toList := by
  cases selector with
  | any => cases kind <;> exact .bare
  | labeled label =>
    have hlabel : kind.Spelling (.labeled label) _ := .labeled (Identifier.spelling_quote label)
    cases kind <;>
      simpa only [fragment, opening, closing, Selector.nodeStep, Selector.edgeStep,
        String.toList_append, List.append_assoc] using hlabel

namespace Pattern

/-- The fragments of steps that end on a node, one behind the other, are written in the grammar. -/
theorem spelling_stepsFrom (kind : StepKind) (selectors : List Selector)
    (h : selectors.length % 2 = 1 ↔ kind = .node) :
    Spelling kind (stepsFrom kind selectors)
      ((stepsFrom kind selectors).flatMap fun step => (step.1.fragment step.2).toList) := by
  induction selectors generalizing kind with
  | nil =>
    cases kind with
    | node => simp at h
    | edge => exact .ended
  | cons selector selectors ih =>
    refine .step (StepKind.spelling_fragment kind selector) (ih kind.next ?_)
    rw [List.length_cons] at h
    cases kind <;> simp [StepKind.next] at h ⊢ <;> omega

/-- Steps alternate between their first kind and the other one, and keep their selectors. -/
theorem stepsFrom_eq_mapIdx (kind : StepKind) (selectors : List Selector) :
    stepsFrom kind selectors =
      selectors.mapIdx fun i selector => (if i % 2 = 0 then kind else kind.next, selector) := by
  induction selectors generalizing kind with
  | nil => rfl
  | cons selector selectors ih =>
    rw [stepsFrom, List.mapIdx_cons, ih]
    congr 1
    refine congrArg (List.mapIdx · selectors) (funext fun i => funext fun selector => ?_)
    rcases Nat.mod_two_eq_zero_or_one i with hi | hi
    · simp [hi, Nat.add_mod]
    · cases kind <;> simp [hi, Nat.add_mod, StepKind.next]

/-- The steps of a pattern carry the trimmed tokens, for nodes and edges in turn. -/
theorem steps_of_parse {tokens : List String} {pattern : Pattern} (h : parse tokens = .ok pattern) :
    pattern.steps = tokens.mapIdx fun i token =>
      (if i % 2 = 0 then .node else .edge, .ofTrimmed (Text.trim token)) := by
  rw [steps, stepsFrom_eq_mapIdx, ← (parse_eq_ok_iff.mp h).2]
  apply List.ext_getElem?
  intro i
  simp only [List.getElem?_mapIdx, List.getElem?_map, Option.map_map, Function.comp_def,
    StepKind.next]

/-- Of alternating steps, half are of the first kind, and the odd one as well. -/
theorem countP_stepsFrom (kind : StepKind) (selectors : List Selector) :
    (stepsFrom kind selectors).countP (fun step => step.1 = kind) = (selectors.length + 1) / 2 ∧
      (stepsFrom kind selectors).countP (fun step => step.1 = kind.next) =
        selectors.length / 2 := by
  induction selectors generalizing kind with
  | nil => exact ⟨rfl, rfl⟩
  | cons selector selectors ih =>
    obtain ⟨hfirst, hsecond⟩ := ih kind.next
    have hnext : kind.next.next = kind := by cases kind <;> rfl
    have hne : kind ≠ kind.next := by cases kind <;> nofun
    rw [hnext] at hsecond
    rw [stepsFrom, List.countP_cons, List.countP_cons, hfirst, hsecond, List.length_cons]
    simp only [decide_true, if_true, hne, decide_false]
    constructor
    · omega
    · simp

/-- A compiled query is written in the grammar and says the steps of the pattern and the limit. -/
theorem spelling_of_compile {pattern : Pattern} {limit : Int64} {query : PathQuery}
    (h : pattern.compile limit = .ok query) :
    PathReading.Spelling ⟨pattern.steps, limit.toInt⟩ query.text.toList := by
  have hlimit := decimalSpelling_toString limit.toInt
  rcases compile_eq_ok_iff.mp h with ⟨label, hlabel, rfl⟩ | ⟨hsize, rfl⟩
  · have hspelling := PathReading.Spelling.nodes (Identifier.spelling_quote label) hlimit
    have hsplit : ") RETURN n LIMIT ".toList = ") RETURN n".toList ++ " LIMIT ".toList := rfl
    rw [hsplit] at hspelling
    simpa only [steps, hlabel, stepsFrom, PathQuery.ofLabel, PathQuery.limitText,
      String.toList_append, List.append_assoc] using hspelling
  · have hsteps := spelling_stepsFrom .node pattern.selectors (by simp [pattern.odd])
    have hlength : 3 ≤ (stepsFrom .node pattern.selectors).length := by
      rwa [stepsFrom_eq_mapIdx, List.length_mapIdx]
    have hspelling := PathReading.Spelling.paths hsteps hlength hlimit
    have hsplit : " RETURN p LIMIT ".toList = " RETURN p".toList ++ " LIMIT ".toList := rfl
    rw [hsplit] at hspelling
    simpa only [steps, PathQuery.ofSteps, PathQuery.limitText, String.toList_append,
      String.toList_join, List.flatMap_map, List.append_assoc] using hspelling

/-- A compiled query counts the steps of the pattern. -/
theorem counts_of_compile {pattern : Pattern} {limit : Int64} {query : PathQuery}
    (h : pattern.compile limit = .ok query) :
    pattern.steps.countP (fun step => step.1 = .node) = query.nodeSteps ∧
      pattern.steps.countP (fun step => step.1 = .edge) = query.edgeSteps := by
  have hcounts := countP_stepsFrom .node pattern.selectors
  rcases compile_eq_ok_iff.mp h with ⟨label, hlabel, rfl⟩ | ⟨-, rfl⟩
  · rw [hlabel, List.length_singleton] at hcounts
    rw [steps, hlabel]
    exact hcounts
  · exact hcounts

end Pattern

/-- What tokens and a limit ask for: one step for each token, nodes and edges in turn, with the
trimmed token or the wildcard. -/
def PathReading.ofTokens (tokens : List String) (limit : Int64) : PathReading where
  steps := tokens.mapIdx fun i token =>
    (if i % 2 = 0 then .node else .edge, Selector.ofTrimmed (Text.trim token))
  limit := limit.toInt

/-- The steps that are asked for carry the trimmed tokens. -/
theorem PathReading.map_token_ofTokens (tokens : List String) (limit : Int64) :
    (ofTokens tokens limit).steps.map (fun step => step.2.token) = tokens.map Text.trim := by
  apply List.ext_getElem?
  intro i
  simp only [ofTokens, List.getElem?_map, List.getElem?_mapIdx, Option.map_map, Function.comp_def,
    Selector.token_ofTrimmed]

/-- The steps that are asked for take anything just where they carry the wildcard. -/
theorem PathReading.eq_any_iff_of_mem_ofTokens {tokens : List String} {limit : Int64}
    {step : StepKind × Selector} (h : step ∈ (ofTokens tokens limit).steps) :
    step.2 = .any ↔ step.2.token = Selector.wildcard := by
  obtain ⟨i, hi, rfl⟩ := List.mem_mapIdx.mp h
  rw [Selector.token_ofTrimmed]
  exact Selector.ofTrimmed_eq_any_iff

namespace PathQuery

/-- Tokens compile through a pattern whose steps are what they ask for. -/
theorem exists_pattern_of_ofTokens {tokens : List String} {limit : Int64} {query : PathQuery}
    (h : ofTokens tokens limit = .ok query) :
    ∃ pattern : Pattern, pattern.steps = (PathReading.ofTokens tokens limit).steps ∧
      pattern.selectors = (tokens.map Text.trim).map Selector.ofTrimmed ∧
      pattern.compile limit = .ok query := by
  obtain ⟨pattern, hparse, hcompile⟩ := bind_eq_ok_iff.mp h
  have hselectors := (Pattern.parse_eq_ok_iff.mp hparse).2
  refine ⟨pattern, Pattern.steps_of_parse hparse, ?_, hcompile⟩
  rw [← hselectors, List.map_map]
  rfl

/-- The text of a query is a way to write what its tokens and its limit ask for. -/
theorem spelling_of_ofTokens {tokens : List String} {limit : Int64} {query : PathQuery}
    (h : ofTokens tokens limit = .ok query) :
    (PathReading.ofTokens tokens limit).Spelling query.text.toList := by
  obtain ⟨pattern, hsteps, -, hcompile⟩ := exists_pattern_of_ofTokens h
  have hspelling := Pattern.spelling_of_compile hcompile
  rwa [hsteps] at hspelling

/-- White space at the ends of tokens makes no difference to a query. -/
theorem eq_of_map_trim_eq {tokens tokens' : List String} {limit : Int64} {query query' : PathQuery}
    (h : ofTokens tokens limit = .ok query) (h' : ofTokens tokens' limit = .ok query')
    (htokens : tokens.map Text.trim = tokens'.map Text.trim) : query = query' := by
  obtain ⟨⟨selectors, hodd⟩, -, hselectors, hcompile⟩ := exists_pattern_of_ofTokens h
  obtain ⟨⟨selectors', hodd'⟩, -, hselectors', hcompile'⟩ := exists_pattern_of_ofTokens h'
  obtain rfl : selectors = selectors' := by
    rw [show selectors = _ from hselectors, htokens, ← hselectors']
  exact Except.ok.inj (hcompile.symm.trans hcompile')

/-- The text of a query determines the trimmed tokens and the limit, and is determined by them. -/
theorem text_eq_iff {tokens tokens' : List String} {limit limit' : Int64}
    {query query' : PathQuery} (h : ofTokens tokens limit = .ok query)
    (h' : ofTokens tokens' limit' = .ok query') :
    query.text = query'.text ↔
      limit = limit' ∧ tokens.map Text.trim = tokens'.map Text.trim := by
  constructor
  · intro htext
    have hread := PathReading.ofText_eq_some_iff.mpr (spelling_of_ofTokens h)
    have hread' := PathReading.ofText_eq_some_iff.mpr (spelling_of_ofTokens h')
    rw [← htext] at hread'
    have hreading := Option.some.inj (hread.symm.trans hread')
    refine ⟨Int64.toInt.inj (congrArg PathReading.limit hreading), ?_⟩
    rw [← PathReading.map_token_ofTokens tokens limit, hreading, PathReading.map_token_ofTokens]
  · rintro ⟨rfl, htokens⟩
    rw [eq_of_map_trim_eq h h' htokens]

/-- The text of a query is read as what its tokens and its limit ask for, whatever characters stand
in the tokens: as one step for each token, in order, with the trimmed token or the wildcard, and
nothing else can be read in it. There are as many steps of each kind as the query counts, and two
texts are the same exactly if the limits and the trimmed tokens are. -/
theorem ofText_text_of_ofTokens {tokens : List String} {limit : Int64} {query : PathQuery}
    (h : ofTokens tokens limit = .ok query) :
    PathReading.ofText query.text = some (PathReading.ofTokens tokens limit) ∧
      (∀ reading : PathReading, reading.Spelling query.text.toList →
        reading = PathReading.ofTokens tokens limit) ∧
      (PathReading.ofTokens tokens limit).steps.map (fun step => step.2.token) =
        tokens.map Text.trim ∧
      (∀ step ∈ (PathReading.ofTokens tokens limit).steps,
        step.2 = .any ↔ step.2.token = Selector.wildcard) ∧
      (PathReading.ofTokens tokens limit).steps.countP (fun step => step.1 = .node) =
        query.nodeSteps ∧
      (PathReading.ofTokens tokens limit).steps.countP (fun step => step.1 = .edge) =
        query.edgeSteps ∧
      ∀ (tokens' : List String) (limit' : Int64) (query' : PathQuery),
        ofTokens tokens' limit' = .ok query' →
          (query.text = query'.text ↔
            limit = limit' ∧ tokens.map Text.trim = tokens'.map Text.trim) := by
  have hread := PathReading.ofText_eq_some_iff.mpr (spelling_of_ofTokens h)
  obtain ⟨pattern, hsteps, -, hcompile⟩ := exists_pattern_of_ofTokens h
  obtain ⟨hnodes, hedges⟩ := Pattern.counts_of_compile hcompile
  rw [hsteps] at hnodes hedges
  refine ⟨hread, ?_, PathReading.map_token_ofTokens tokens limit,
    fun _ => PathReading.eq_any_iff_of_mem_ofTokens, hnodes, hedges, ?_⟩
  · intro reading hreading
    have hother := PathReading.ofText_eq_some_iff.mpr hreading
    exact Option.some.inj (hother.symm.trans hread)
  · intro tokens' limit' query' h'
    exact text_eq_iff h h'

/-- Labels that look like the end of their steps, and like further steps, are read as labels. -/
theorem ofText_text_of_labels_like_steps :
    ofTokens [" a`)-->( ", "]->(", "*"] (-5) =
        .ok {
          text := "MATCH p=(:`a``)-->(`)-[:`]->(`]->() RETURN p LIMIT -5"
          limit := -5
          shape := .paths
          nodeSteps := 2
          edgeSteps := 1 } ∧
      PathReading.ofText "MATCH p=(:`a``)-->(`)-[:`]->(`]->() RETURN p LIMIT -5" =
        some ⟨[(.node, .labeled "a`)-->("), (.edge, .labeled "]->("), (.node, .any)], -5⟩ := by
  have hquery : ofTokens [" a`)-->( ", "]->(", "*"] (-5) = .ok _ := rfl
  exact ⟨hquery, (ofText_text_of_ofTokens hquery).1⟩

end PathQuery

end GraphGateway
