import GraphGateway.Store.Piece
import Mathlib.Data.List.Forall2
import Mathlib.Logic.Relation

/-!
# Leaves of an answer

The cells in a column of an answer may be lists of lists, to any depth. Only their leaves count,
which are no lists themselves, in the order in which a walk meets them, depth first and row by row.
Main statement: the pieces in a column are those of its leaves, unless a plain value stands among
them; then the first one is told. So an answer is read part by part, other columns make no
difference, and neither does the way in which leaves are nested.
-/

namespace GraphGateway

namespace Cell

/-!
## Leaves of a cell
-/

mutual

/-- What is no list in a cell, depth first. -/
def leaves : Cell → List Cell
  | .list items => leavesOfAll items
  | .null => [.null]
  | .datum value => [.datum value]
  | .node n => [.node n]
  | .relationship r => [.relationship r]
  | .path hops => [.path hops]

/-- What is no list in the cells of a list, one after the other. -/
def leavesOfAll : List Cell → List Cell
  | [] => []
  | cell :: rest => leaves cell ++ leavesOfAll rest

end

/-- The leaves of two lists, one behind the other, are those of the first and then of the second. -/
theorem leavesOfAll_append (before after : List Cell) :
    leavesOfAll (before ++ after) = leavesOfAll before ++ leavesOfAll after := by
  induction before with
  | nil => rfl
  | cons cell rest ih =>
    rw [List.cons_append, leavesOfAll, ih, leavesOfAll, List.append_assoc]

/-- A cell stands in another: it is that cell, or it stands in an item of that list. -/
inductive Within : Cell → Cell → Prop where
  | self (cell : Cell) : Within cell cell
  | item {found cell : Cell} {items : List Cell} (hmem : cell ∈ items)
      (hwithin : Within found cell) : Within found (.list items)

/-- What stands in a list is the list itself or stands in an item. -/
theorem within_list_iff {found : Cell} {items : List Cell} :
    found.Within (.list items) ↔ found = .list items ∨ ∃ cell ∈ items, found.Within cell := by
  constructor
  · intro h
    cases h with
    | self => exact Or.inl rfl
    | item hmem hwithin => exact Or.inr ⟨_, hmem, hwithin⟩
  · rintro (rfl | ⟨cell, hmem, hwithin⟩)
    · exact .self _
    · exact .item hmem hwithin

/-- In a cell that is no list stands only the cell itself. -/
theorem within_iff_eq {found cell : Cell} (hleaf : cell.list? = none) :
    found.Within cell ↔ found = cell := by
  constructor
  · intro h
    cases h with
    | self => rfl
    | item => cases hleaf
  · rintro rfl
    exact .self _

mutual

/-- A plain value is a leaf of a cell just where it stands in the cell, at any depth. -/
theorem datum_mem_leaves_iff {value : Datum} :
    ∀ cell : Cell, .datum value ∈ cell.leaves ↔ (Cell.datum value).Within cell
  | .list items => by
    rw [leaves, datum_mem_leavesOfAll_iff items, within_list_iff]
    simp
  | .null | .datum _ | .node _ | .relationship _ | .path _ => by
    rw [leaves, List.mem_singleton, within_iff_eq rfl]

/-- A plain value is a leaf of some cells just where it stands in one of them. -/
theorem datum_mem_leavesOfAll_iff {value : Datum} :
    ∀ items : List Cell,
      .datum value ∈ leavesOfAll items ↔ ∃ cell ∈ items, (Cell.datum value).Within cell
  | [] => by simp [leavesOfAll]
  | cell :: rest => by
    rw [leavesOfAll, List.mem_append, datum_mem_leaves_iff cell, datum_mem_leavesOfAll_iff rest]
    simp

end

/-!
## Flattening
-/

/-- One list has the items of a nested list in its place: of a list that it holds, or deeper. -/
inductive Flattens : Cell → Cell → Prop where
  | item (before items after : List Cell) :
      Flattens (.list (before ++ .list items :: after)) (.list (before ++ items ++ after))
  | within (before after : List Cell) {cell other : Cell} (h : Flattens cell other) :
      Flattens (.list (before ++ cell :: after)) (.list (before ++ other :: after))

/-- Flattening a nested list leaves the leaves as they are. -/
theorem Flattens.leaves_eq {cell other : Cell} (h : Flattens cell other) :
    cell.leaves = other.leaves := by
  induction h with
  | item before items after =>
    simp only [leaves, leavesOfAll_append, leavesOfAll, List.append_assoc]
  | within before after h ih =>
    simp only [leaves, leavesOfAll_append, leavesOfAll, ih]

/-- Flattening any number of nested lists leaves the leaves as they are. -/
theorem leaves_eq_of_reflTransGen {cell other : Cell}
    (h : Relation.ReflTransGen Flattens cell other) : cell.leaves = other.leaves := by
  induction h with
  | refl => rfl
  | tail _ hstep ih => exact ih.trans hstep.leaves_eq

open Relation in
mutual

/-- A list becomes the list of its leaves by flattening nested lists one by one. -/
theorem reflTransGen_leaves : ∀ (cell : Cell) (before after : List Cell),
    ReflTransGen Flattens (.list (before ++ cell :: after)) (.list (before ++ cell.leaves ++ after))
  | .list items, before, after => by
    refine .head (.item before items after) ?_
    rw [leaves]
    exact reflTransGen_leavesOfAll items before after
  | .null, _, _ | .datum _, _, _ | .node _, _, _ | .relationship _, _, _ | .path _, _, _ => by
    rw [leaves, List.append_assoc, List.singleton_append]

/-- Some items of a list become their leaves by flattening nested lists one by one. -/
theorem reflTransGen_leavesOfAll : ∀ items before after : List Cell,
    ReflTransGen Flattens (.list (before ++ items ++ after))
      (.list (before ++ leavesOfAll items ++ after))
  | [], before, after => by
    rw [leavesOfAll]
  | cell :: rest, before, after => by
    -- The leaves of the first item then stand in front of the others.
    have hcell := reflTransGen_leaves cell before (rest ++ after)
    have hrest := reflTransGen_leavesOfAll rest (before ++ cell.leaves) after
    rw [List.append_assoc (before ++ cell.leaves) rest after] at hrest
    rw [leavesOfAll]
    simpa only [List.append_assoc, List.cons_append] using hcell.trans hrest

end

/-- The cell with its leaves as the only items; what is no list stays as it is. -/
def flat : Cell → Cell
  | .list items => .list (leavesOfAll items)
  | .null => .null
  | .datum value => .datum value
  | .node n => .node n
  | .relationship r => .relationship r
  | .path hops => .path hops

/-- A cell is flattened down to its leaves one nested list at a time. -/
theorem reflTransGen_flat (cell : Cell) : Relation.ReflTransGen Flattens cell cell.flat := by
  cases cell with
  | list items =>
    rw [flat]
    simpa using reflTransGen_leavesOfAll items [] []
  | null => exact .refl
  | datum _ => exact .refl
  | node _ => exact .refl
  | relationship _ => exact .refl
  | path _ => exact .refl

/-!
## Pieces of leaves
-/

/-- The pieces of a leaf: one for a node or a relationship, and one for each hop of a path. -/
def elements : Cell → List Piece
  | .node n => [.node n]
  | .relationship r => [.relationship r]
  | .path hops => hops.map .hop
  | .null => []
  | .datum _ => []
  | .list _ => []

/-- The plain value that has no place among graph elements. A plain null is absent. -/
def misplaced? : Cell → Option Datum
  | .datum value => if value.isNull then none else some value
  | _ => none

/-- A cell is misplaced just where it holds a plain value that is not null. -/
theorem misplaced?_eq_some_iff {cell : Cell} {value : Datum} :
    cell.misplaced? = some value ↔ cell = .datum value ∧ value.isNull = false := by
  cases cell with
  | datum found =>
    simp only [misplaced?, Option.ite_none_left_eq_some, Option.some.injEq, Cell.datum.injEq,
      Bool.not_eq_true]
    constructor
    · rintro ⟨hnull, rfl⟩
      exact ⟨rfl, hnull⟩
    · rintro ⟨rfl, hnull⟩
      exact ⟨hnull, rfl⟩
  | null => simp [misplaced?]
  | node _ => simp [misplaced?]
  | relationship _ => simp [misplaced?]
  | path _ => simp [misplaced?]
  | list _ => simp [misplaced?]

end Cell

namespace Piece

/-- The pieces of leaves, unless a plain value stands among them; then the first one is told. -/
def ofLeaves (column : String) (leaves : List Cell) : Except Error (List Piece) :=
  match leaves.findSome? Cell.misplaced? with
  | some value => .error (.unexpectedShape (.plainValue column value.typeName))
  | none => .ok (leaves.flatMap Cell.elements)

/-- Leaves are read part by part. -/
theorem ofLeaves_append (column : String) (before after : List Cell) :
    ofLeaves column (before ++ after) = do
      let first ← ofLeaves column before
      let others ← ofLeaves column after
      return first ++ others := by
  unfold ofLeaves
  rw [List.findSome?_append, List.flatMap_append]
  cases before.findSome? Cell.misplaced? with
  | some value => rfl
  | none =>
    rw [Option.none_or]
    cases after.findSome? Cell.misplaced? <;> rfl

/-- Leaves have pieces just where none of them is misplaced, and then all of them count. -/
theorem ofLeaves_eq_ok_iff {column : String} {leaves : List Cell} {pieces : List Piece} :
    ofLeaves column leaves = .ok pieces ↔
      (∀ leaf ∈ leaves, leaf.misplaced? = none) ∧ pieces = leaves.flatMap Cell.elements := by
  rw [← List.findSome?_eq_none_iff, ofLeaves]
  cases leaves.findSome? Cell.misplaced? with
  | some value => simp
  | none => simp [eq_comm]

/-- Leaves are refused just where one of them is misplaced, for the first such one. -/
theorem ofLeaves_eq_error_iff {column : String} {leaves : List Cell} {error : Error} :
    ofLeaves column leaves = .error error ↔
      ∃ value, leaves.findSome? Cell.misplaced? = some value ∧
        error = .unexpectedShape (.plainValue column value.typeName) := by
  rw [ofLeaves]
  cases leaves.findSome? Cell.misplaced? with
  | some value => simp [eq_comm]
  | none => simp

/-- Leaves are refused just where one of them is misplaced. -/
theorem exists_ofLeaves_eq_error_iff {column : String} {leaves : List Cell} :
    (∃ error, ofLeaves column leaves = .error error) ↔
      ∃ leaf ∈ leaves, ∃ value, leaf.misplaced? = some value := by
  constructor
  · rintro ⟨error, herror⟩
    obtain ⟨value, hfirst, -⟩ := ofLeaves_eq_error_iff.mp herror
    obtain ⟨leaf, hleaf, hvalue⟩ := List.exists_of_findSome?_eq_some hfirst
    exact ⟨leaf, hleaf, value, hvalue⟩
  · rintro ⟨leaf, hleaf, value, hvalue⟩
    cases hread : ofLeaves column leaves with
    | error error => exact ⟨error, rfl⟩
    | ok pieces =>
      have hplaced := (ofLeaves_eq_ok_iff.mp hread).1 leaf hleaf
      rw [hvalue] at hplaced
      cases hplaced

end Piece

mutual

/-- The pieces in a cell are those of its leaves. -/
theorem Cell.pieces_eq_ofLeaves (column : String) :
    ∀ cell : Cell, cell.pieces column = Piece.ofLeaves column cell.leaves
  | .list items => by rw [pieces, leaves, piecesOfAll_eq_ofLeaves column items]
  | .null => rfl
  | .datum value => by
    cases hnull : value.isNull <;>
      simp [pieces, leaves, Piece.ofLeaves, misplaced?, elements, hnull]
  | .node _ => rfl
  | .relationship _ => rfl
  | .path hops => by simp [pieces, leaves, Piece.ofLeaves, misplaced?, elements]

/-- The pieces in the cells of a list are those of their leaves. -/
theorem Cell.piecesOfAll_eq_ofLeaves (column : String) :
    ∀ items : List Cell, piecesOfAll column items = Piece.ofLeaves column (leavesOfAll items)
  | [] => rfl
  | cell :: rest => by
    rw [piecesOfAll, leavesOfAll, Piece.ofLeaves_append, pieces_eq_ofLeaves column cell,
      piecesOfAll_eq_ofLeaves column rest]

end

/-!
## Answers
-/

namespace Row

/-- The leaves in a field of a row. A missing field has none. -/
def leaves (row : Row) (column : String) : List Cell :=
  (row.get? column).elim [] Cell.leaves

/-- A row has in a column what becomes of the cell of another when nested lists are flattened, or
the field is missing in both. -/
def FlattensIn (column : String) (row other : Row) : Prop :=
  Option.Rel (Relation.ReflTransGen Cell.Flattens) (row.get? column) (other.get? column)

/-- Flattening nested lists in a column leaves its leaves as they are. -/
theorem leaves_eq_of_flattensIn {column : String} {row other : Row}
    (h : row.FlattensIn column other) : other.leaves column = row.leaves column := by
  rw [leaves, leaves]
  unfold FlattensIn at h
  generalize row.get? column = cell? at h ⊢
  generalize other.get? column = otherCell? at h ⊢
  cases h with
  | none => rfl
  | some hflattens => exact (Cell.leaves_eq_of_reflTransGen hflattens).symm

/-- Flattening nested lists in a column of an answer leaves its leaves as they are. -/
theorem flatMap_leaves_eq_of_flattensIn {column : String} {rows others : List Row}
    (h : List.Forall₂ (FlattensIn column) rows others) :
    others.flatMap (·.leaves column) = rows.flatMap (·.leaves column) := by
  induction h with
  | nil => rfl
  | cons hrow _ ih =>
    rw [List.flatMap_cons, List.flatMap_cons, leaves_eq_of_flattensIn hrow, ih]

/-- Answers with the same cells in a column have the same leaves there. -/
theorem flatMap_leaves_eq_of_get? {column : String} {rows others : List Row}
    (h : others.map (·.get? column) = rows.map (·.get? column)) :
    others.flatMap (·.leaves column) = rows.flatMap (·.leaves column) := by
  have hcells (rows : List Row) : rows.flatMap (·.leaves column) =
      (rows.map (·.get? column)).flatMap fun cell? => cell?.elim [] Cell.leaves := by
    rw [List.flatMap_map]
    rfl
  rw [hcells, h, ← hcells]

end Row

namespace Piece

/-- The pieces in a column of an answer are those of its leaves, row by row. -/
theorem ofRows_eq_ofLeaves (column : String) (rows : List Row) :
    ofRows column rows = ofLeaves column (rows.flatMap (·.leaves column)) := by
  induction rows with
  | nil => rfl
  | cons row rest ih =>
    rw [ofRows, List.flatMap_cons, ofLeaves_append, ih, Row.leaves]
    cases row.get? column with
    | none => rfl
    | some cell =>
      dsimp only [Option.elim_some]
      rw [Cell.pieces_eq_ofLeaves]

/-- Answers with the same leaves in a column have the same pieces in it, or the same error. -/
theorem ofRows_congr {column : String} {rows others : List Row}
    (h : others.flatMap (·.leaves column) = rows.flatMap (·.leaves column)) :
    ofRows column others = ofRows column rows := by
  rw [ofRows_eq_ofLeaves, h, ofRows_eq_ofLeaves]

/-- A misplaced leaf in a column is a plain value that is not null and stands in one of the cells,
at any depth. -/
theorem exists_misplaced_iff {column : String} {rows : List Row} :
    (∃ leaf ∈ rows.flatMap (·.leaves column), ∃ value, leaf.misplaced? = some value) ↔
      ∃ row ∈ rows, ∃ cell, row.get? column = some cell ∧
        ∃ value, (Cell.datum value).Within cell ∧ value.isNull = false := by
  simp only [List.mem_flatMap, Cell.misplaced?_eq_some_iff]
  constructor
  · rintro ⟨leaf, ⟨row, hrow, hleaf⟩, value, rfl, hnull⟩
    rw [Row.leaves] at hleaf
    cases hcell : row.get? column with
    | none =>
      rw [hcell] at hleaf
      cases hleaf
    | some cell =>
      rw [hcell, Option.elim_some, Cell.datum_mem_leaves_iff] at hleaf
      exact ⟨row, hrow, cell, hcell, value, hleaf, hnull⟩
  · rintro ⟨row, hrow, cell, hcell, value, hwithin, hnull⟩
    refine ⟨.datum value, ⟨row, hrow, ?_⟩, value, rfl, hnull⟩
    rw [Row.leaves, hcell, Option.elim_some, Cell.datum_mem_leaves_iff]
    exact hwithin

/-- The pieces in a column of an answer are those of its leaves, depth first and row by row: one for
every node and relationship and one for every hop of a path, in order, and none for what is absent.
The answer is refused just where a plain value that is not null stands in a cell of the column, at
any depth, and the first such leaf is told. So an answer is read part by part, and rows that differ
in other columns or in the nesting of lists, which can be flattened down to their leaves, give the
same. -/
theorem ofRows_tells_leaves (column : String) (rows : List Row) :
    let leaves := rows.flatMap (·.leaves column)
    (∀ pieces, ofRows column rows = .ok pieces ↔
      (∀ leaf ∈ leaves, leaf.misplaced? = none) ∧ pieces = leaves.flatMap Cell.elements) ∧
    (∀ error, ofRows column rows = .error error ↔
      ∃ value, leaves.findSome? Cell.misplaced? = some value ∧
        error = .unexpectedShape (.plainValue column value.typeName)) ∧
    ((∃ error, ofRows column rows = .error error) ↔
      ∃ row ∈ rows, ∃ cell, row.get? column = some cell ∧
        ∃ value, (Cell.datum value).Within cell ∧ value.isNull = false) ∧
    (∀ more, ofRows column (rows ++ more) = do
      let first ← ofRows column rows
      let others ← ofRows column more
      return first ++ others) ∧
    (∀ others : List Row, others.map (·.get? column) = rows.map (·.get? column) →
      ofRows column others = ofRows column rows) ∧
    (∀ others, List.Forall₂ (Row.FlattensIn column) rows others →
      ofRows column others = ofRows column rows) ∧
    ∀ cell : Cell, Relation.ReflTransGen Cell.Flattens cell cell.flat := by
  intro leaves
  have hleaves : ofRows column rows = ofLeaves column leaves := ofRows_eq_ofLeaves column rows
  refine ⟨fun pieces => ?_, fun error => ?_, ?_, fun more => ?_, fun others hcells => ?_,
    fun others hflattens => ?_, Cell.reflTransGen_flat⟩
  · rw [hleaves, ofLeaves_eq_ok_iff]
  · rw [hleaves, ofLeaves_eq_error_iff]
  · rw [hleaves, exists_ofLeaves_eq_error_iff, exists_misplaced_iff]
  · rw [ofRows_eq_ofLeaves, List.flatMap_append, ofLeaves_append, ofRows_eq_ofLeaves,
      ofRows_eq_ofLeaves]
  · exact ofRows_congr (Row.flatMap_leaves_eq_of_get? hcells)
  · exact ofRows_congr (Row.flatMap_leaves_eq_of_flattensIn hflattens)

/-- A path and a node in lists of lists are read as they are in one list, and of two plain values
that stand beside the node in another row the first one is told. -/
theorem ofRows_tells_leaves_nested_lists :
    let ann : StoreNode := ⟨⟨"1"⟩, ["Person"], {}⟩
    let hop : Hop := ⟨ann, ⟨⟨"2"⟩, ⟨"1"⟩, ⟨"1"⟩, some "KNOWS", {}⟩, ann⟩
    let row : Row := ⟨[("n", .list [.list [.path [hop], .null], .list [.list [.node ann]]])]⟩
    let other : Row := ⟨[("n", .list [.path [hop], .null, .node ann])]⟩
    let last : Row := ⟨[("n", .list [.node ann, .list [.datum (.integer 7), .datum (.text "b")]])]⟩
    row.FlattensIn "n" other ∧
      ofRows "n" [row] = .ok [.hop hop, .node ann] ∧
      ofRows "n" [other] = ofRows "n" [row] ∧
      ofRows "n" [row, last] = .error (.unexpectedShape (.plainValue "n" "Integer")) := by
  intro ann hop row other last
  have hflattens : row.FlattensIn "n" other := .some (Cell.reflTransGen_flat _)
  obtain ⟨hok, -, -, -, -, hflat, -⟩ := ofRows_tells_leaves "n" [row]
  obtain ⟨-, herror, -⟩ := ofRows_tells_leaves "n" [row, last]
  refine ⟨hflattens, (hok _).mpr ⟨?_, rfl⟩, hflat _ (.cons hflattens .nil), ?_⟩
  · simp [row, Row.leaves, Row.get?, lookupEntry, Cell.leaves, Cell.leavesOfAll, Cell.misplaced?]
  · exact (herror _).mpr ⟨.integer 7, rfl, rfl⟩

end Piece

end GraphGateway
