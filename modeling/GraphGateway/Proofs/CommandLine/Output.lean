import GraphGateway.Proofs.CommandLine.Csv
import GraphGateway.Proofs.Pattern.Acceptance

/-!
# Reading what commands print

What the commands for patterns print as comma-separated values, as a reader finds it. Main
statement: an explanation is read as one record for each token, a compiled query as one record, each
behind a header, whatever the tokens hold.
-/

namespace GraphGateway

/-- The name of a shape does not end in a carriage return. -/
theorem QueryShape.getLast?_name (shape : QueryShape) :
    shape.name.toList.getLast? ≠ some '\r' := by
  cases shape <;> decide

namespace CommandLine

open Csv (Keeps)

/-- What is told of a token at a position: the position, the trimmed token, its role and its
fragment. -/
def explanation (position : Nat) (token : String) : List String :=
  let kind : StepKind := if position % 2 = 0 then .node else .edge
  [toString position, Text.trim token, kind.name, kind.fragment (.ofTrimmed (Text.trim token))]

/-- The rows of a pattern have the cells in which its tokens are explained. -/
theorem map_rowCells_of_parse {tokens : List String} {pattern : Pattern}
    (h : Pattern.parse tokens = .ok pattern) :
    (stepRows pattern).map rowCells = tokens.mapIdx explanation := by
  rw [(Pattern.reads_of_parse h).rows_eq]
  apply List.ext_getElem?
  intro i
  rw [List.getElem?_map, List.getElem?_mapIdx, List.getElem?_mapIdx, Option.map_map]
  rfl

/-- The records of a query keep their cells. -/
theorem keeps_queryRecords (query : PathQuery) : ∀ cells ∈ queryRecords query, Keeps cells := by
  simp only [queryRecords, List.forall_mem_cons]
  exact ⟨.cons (.cons (.last fun _ => by decide)),
    .cons (.cons (.last fun _ => query.shape.getLast?_name)), List.forall_mem_nil _⟩

/-- Steps that are printed are read as the tokens are explained. -/
theorem read_printSteps {tokens : List String} {pattern : Pattern}
    (h : Pattern.parse tokens = .ok pattern) :
    Csv.read (printSteps .csv pattern).output =
      some (["position", "token", "role", "fragment"] :: tokens.mapIdx explanation) := by
  rw [(tells_printSteps pattern).csv, map_rowCells_of_parse h]

/-- What commands print as comma-separated values is read back. Tokens that are a pattern are
explained in one record each, behind a header. Tokens that compile under a limit give one record
behind a header, with the text of the query, the limit and the shape. -/
theorem Command.read_csv_output (settings : Settings) (tokens : List String) :
    (∀ pattern, Pattern.parse tokens = .ok pattern →
      ∃ output, (Command.explain tokens).run .csv settings = { output := output } ∧
        Csv.read output =
          some (["position", "token", "role", "fragment"] :: tokens.mapIdx explanation)) ∧
    ∀ limit? query, PathQuery.ofTokens tokens (limit?.getD settings.defaultLimit) = .ok query →
      ∃ output, (Command.compile tokens limit?).run .csv settings = { output := output } ∧
        Csv.read output = some [["query", "limit", "shape"],
          [query.text, toString (limit?.getD settings.defaultLimit).toInt, query.shape.name]] := by
  refine ⟨fun pattern hparse => ?_, fun limit? query hquery => ?_⟩
  · refine ⟨(printSteps .csv pattern).output, ?_, read_printSteps hparse⟩
    rw [Command.run, hparse]
    rfl
  · refine ⟨(printQuery .csv query).output, ?_, ?_⟩
    · rw [Command.run, hquery]
      rfl
    · rw [← (PathQuery.counts_of_ofTokens hquery).limit_eq]
      exact Csv.read_render (keeps_queryRecords query)

/-- Tokens with commas, quotes and line ends in them. -/
theorem Command.read_csv_output_awkward_tokens :
    let tokens := [" Big, \"Inc\"\r", "a\r\nb", "c\rd"]
    let pattern : Pattern := ⟨[.labeled "Big, \"Inc\"", .labeled "a\r\nb", .labeled "c\rd"], rfl⟩
    let text := "MATCH p=(:`Big, \"Inc\"`)-[:`a\r\nb`]->(:`c\rd`) RETURN p LIMIT -5"
    let query : PathQuery := ⟨text, -5, .paths, 2, 1⟩
    (Pattern.parse tokens = .ok pattern ∧
      ∃ output, (Command.explain tokens).run .csv {} = { output := output } ∧
        Csv.read output = some [["position", "token", "role", "fragment"],
          ["0", "Big, \"Inc\"", "node", "(:`Big, \"Inc\"`)"],
          ["1", "a\r\nb", "edge", "-[:`a\r\nb`]->"],
          ["2", "c\rd", "node", "(:`c\rd`)"]]) ∧
      PathQuery.ofTokens tokens (-5) = .ok query ∧
      ∃ output, (Command.compile tokens (some (-5))).run .csv {} = { output := output } ∧
        Csv.read output = some [["query", "limit", "shape"], [text, "-5", "paths"]] := by
  intro tokens pattern text query
  have hparse : Pattern.parse tokens = .ok pattern := by rfl
  have hquery : PathQuery.ofTokens tokens (-5) = .ok query := by rfl
  obtain ⟨hexplain, hcompile⟩ := read_csv_output {} tokens
  exact ⟨⟨hparse, hexplain pattern hparse⟩, hquery, hcompile (some (-5)) query hquery⟩

end CommandLine

end GraphGateway
