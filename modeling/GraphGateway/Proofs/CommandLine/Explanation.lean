import GraphGateway.CommandLine.Run
import GraphGateway.Proofs.CommandLine.Csv
import GraphGateway.Proofs.Json.Members
import GraphGateway.Proofs.Pattern.RoundTrip

/-!
# What an explanation prints

The steps of a pattern are printed in rows: comma-separated values with a header, an array of JSON
objects, or a table with the numbers of steps below it. Main statement: each format tells the same
rows, whatever stands in them.
-/

namespace GraphGateway

/-- No step of a query ends in a carriage return. -/
theorem StepKind.getLast?_fragment (kind : StepKind) (selector : Selector) :
    (kind.fragment selector).toList.getLast? ≠ some '\r' := by
  cases kind <;> cases selector <;>
    simp [fragment, Selector.nodeStep, Selector.edgeStep, List.getLast?_cons, List.getLast?_append]

namespace CommandLine

/-- The cells in which a row stands: its position, its token, its role and its fragment. -/
def rowCells : Nat × String × String × String → List String
  | (position, token, role, fragment) => [toString position, token, role, fragment]

/-- The members of the object in which a row stands. -/
def rowMembers : Nat × String × String × String → List (String × Json)
  | (position, token, role, fragment) =>
    [("position", .integer position), ("token", .string token), ("role", .string role),
      ("fragment", .string fragment)]

/-- The row that a JSON object tells. -/
def rowOfJson? (item : Json) : Option (Nat × String × String × String) := do
  let position ← item.member? "position" >>= Json.natural?
  let token ← item.member? "token" >>= Json.text?
  let role ← item.member? "role" >>= Json.text?
  let fragment ← item.member? "fragment" >>= Json.text?
  return (position, token, role, fragment)

/-- What is printed in each format tells rows: their records behind a header, an array of their
objects, or a table of their cells with the numbers of node and edge steps below it. -/
structure Tells (printed : Format → Outcome) (rows : List (Nat × String × String × String)) :
    Prop where
  succeeds : ∀ format, (printed format).exitCode = 0 ∧ (printed format).errors = ""
  csv : Csv.read (printed .csv).output =
    some (["position", "token", "role", "fragment"] :: rows.map rowCells)
  json : ∃ document, (printed .json).output = Json.pretty document ++ "\n" ∧
    (document.items? >>= List.mapM rowOfJson?) = some rows
  table : (printed .table).output =
    Grid.render ⟨["#", "Token", "Role", "Fragment"], rows.map rowCells⟩ ++
      toString ((rows.length + 1) / 2) ++ " node step(s), " ++ toString (rows.length / 2) ++
        " edge step(s)\n"

/-- The cells of the steps of a pattern are those of its rows. -/
theorem stepCells_eq (pattern : Pattern) : stepCells pattern = (stepRows pattern).map rowCells := rfl

/-- A row is read back from its object. -/
theorem rowOfJson?_ofMembers (row : Nat × String × String × String) :
    rowOfJson? (.ofMembers (rowMembers row)) = some row := by
  have hkeys : (rowMembers row).map (·.1) = ["position", "token", "role", "fragment"] := rfl
  have hmember (key : String) :
      (Json.ofMembers (rowMembers row)).member? key = lookupEntry key (rowMembers row) :=
    Json.member?_ofMembers (by rw [hkeys]; decide) key
  simp only [rowOfJson?, hmember]
  rfl

/-- The rows of a pattern are read back from its steps as JSON. -/
theorem rows_of_stepsJson (pattern : Pattern) :
    ((stepsJson pattern).items? >>= List.mapM rowOfJson?) = some (stepRows pattern) :=
  Json.mapM_map_eq_some fun row _ => rowOfJson?_ofMembers row

/-- The rows of a pattern keep their cells as comma-separated values. -/
theorem keeps_rowCells {pattern : Pattern} {cells : List String}
    (h : cells ∈ (stepRows pattern).map rowCells) : Csv.Keeps cells := by
  obtain ⟨row, hrow, rfl⟩ := List.mem_map.mp h
  obtain ⟨⟨⟨kind, selector⟩, position⟩, -, rfl⟩ := List.mem_map.mp hrow
  exact .cons (.cons (.cons (.last fun _ => kind.getLast?_fragment selector)))

/-- A pattern has one row for each step. -/
theorem length_stepRows (pattern : Pattern) : (stepRows pattern).length = pattern.size := by
  rw [stepRows, List.length_map, List.length_zipIdx, Pattern.steps, Pattern.stepsFrom_eq_mapIdx,
    List.length_mapIdx, Pattern.size]

/-- Printed steps tell the rows of their pattern. -/
theorem tells_printSteps (pattern : Pattern) :
    Tells (fun format => printSteps format pattern) (stepRows pattern) where
  succeeds format := by cases format <;> exact ⟨rfl, rfl⟩
  csv := by
    have hheader : Csv.Keeps ["position", "token", "role", "fragment"] :=
      .cons (.cons (.cons (.last fun _ => by decide)))
    simp only [printSteps, stepCells_eq]
    exact Csv.read_render (List.forall_mem_cons.mpr ⟨hheader, fun _ => keeps_rowCells⟩)
  json := ⟨stepsJson pattern, rfl, rows_of_stepsJson pattern⟩
  table := by
    simp only [printSteps, stepCells_eq, length_stepRows, Pattern.nodeSteps, Pattern.edgeSteps]

end CommandLine

end GraphGateway
