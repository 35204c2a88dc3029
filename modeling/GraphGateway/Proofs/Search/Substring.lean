import GraphGateway.Proofs.Search.Expression
import GraphGateway.Proofs.SortedMap
import GraphGateway.Statement.Search

/-!
# Searches look for a text as it stands

A search passes its term as a regular expression. Main statement: whatever the term is, that is an
expression in which only the two wildcards around the term are operators, and it matches just the
texts that hold the term, trimmed and in lowercase, as one of their parts.
-/

namespace GraphGateway.Statement

/-- The characters that are escaped are the operators. -/
theorem contains_patternOperators_iff {c : Char} :
    patternOperators.contains c = true ↔ c ∈ Regex.operators := by
  have hoperators : patternOperators = Regex.operators := by decide
  rw [hoperators, List.contains_iff_mem]

/-- Escaped characters are read as themselves, one by one. -/
theorem readMarks_literalPattern_append (chars rest : List Char) :
    Regex.readMarks (literalPattern chars ++ rest) =
      (Regex.readMarks rest).map (chars.map (fun c => .atom (.literal c)) ++ ·) := by
  induction chars with
  | nil => simp [literalPattern]
  | cons c chars ih =>
    have hread : Regex.readMarks (literalPattern (c :: chars) ++ rest) =
        (Regex.readMarks (literalPattern chars ++ rest)).map (.atom (.literal c) :: ·) := by
      rw [literalPattern]
      split
      next h => exact Regex.readMarks_escaped (contains_patternOperators_iff.mp h) _
      next h =>
        exact Regex.readMarks_cons_of_notMem (fun hc => h (contains_patternOperators_iff.mpr hc)) _
    rw [hread, ih, Option.map_map]
    rfl

/-- The expression of a search reads as the term, character by character, between two wildcards. -/
theorem read_searchPattern (term : String) :
    Regex.read (searchPattern term).toList =
      some (.repeated .any ::
        ((Text.lower (Text.trim term)).toList.map (fun c => .once (.literal c)) ++
          [.repeated .any])) := by
  have hstart : "(?s).*".toList = ['(', '?', 's', ')', '.', '*'] := rfl
  have hend : Regex.readMarks ".*".toList = some [.atom .any, .star] := rfl
  have hwildcard (rest : List Char) : Regex.readMarks ('.' :: '*' :: rest) =
      (Regex.readMarks rest).map (.atom .any :: .star :: ·) := by
    cases hrest : Regex.readMarks rest <;> simp [Regex.readMarks, Regex.bareMark?, hrest]
  rw [searchPattern, String.toList_append, String.toList_append, hstart, String.toList_ofList]
  simp only [List.cons_append, List.nil_append, Regex.read]
  rw [hwildcard, readMarks_literalPattern_append, hend]
  simp only [Option.map_some, Option.bind_some, Regex.readFactors]
  rw [Regex.readFactors_literals (by simp)]
  rfl

/-- The expression of a search matches just the texts that hold the term, trimmed and in lowercase,
side by side. -/
theorem matches_searchPattern_iff {term text : String} :
    Regex.Matches (searchPattern term) text ↔
      (Text.lower (Text.trim term)).toList <:+: text.toList := by
  rw [Regex.Matches, read_searchPattern, ← Regex.mem_language_literals_anywhere_iff]
  simp only [Option.some.injEq, exists_eq_left']

/-- Whatever the term of a search is, the parameter that its statement refers to is an expression in
which the characters of the term, trimmed and in lowercase, stand for themselves one by one between
two wildcards, so that it matches just the texts that hold them side by side. -/
theorem searchNodes_looks_for_literal_term (term : String) (fields : List String)
    (label? : Option String) (amount : Int64) :
    let needle := (Text.lower (Text.trim term)).toList
    ∃ pattern, (searchNodes term fields label? amount).params.get? "pattern" =
        some (.text pattern) ∧
      Regex.read pattern.toList = some (.repeated .any ::
        (needle.map (fun c => .once (.literal c)) ++ [.repeated .any])) ∧
      ∀ text : String, Regex.Matches pattern text ↔ needle <:+: text.toList := by
  intro needle
  refine ⟨searchPattern term, ?_, read_searchPattern term, fun text => matches_searchPattern_iff⟩
  rw [searchNodes, given, SortedMap.get?_insert, if_pos rfl]

end GraphGateway.Statement
