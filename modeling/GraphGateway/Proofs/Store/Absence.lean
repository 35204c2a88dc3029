import GraphGateway.Neighborhood
import GraphGateway.Schema
import GraphGateway.Store.Piece
import Mathlib.Data.List.Basic
import Mathlib.Logic.Relation

/-!
# Absent values

A missing field, the null of the store and a plain null are three spellings of one absent value, and
in a list a null item is the same as none. Rows that differ only in how they spell what is absent
are read alike: what can be told of a field is its tidy cell, from whose lists all null items have
been taken, or nothing.
-/

namespace GraphGateway

namespace Cell

/-!
## Tidy cells
-/

mutual

/-- The cell without the null items of its lists, at any depth. -/
def tidy : Cell → Cell
  | .list items => .list (tidyAll items)
  | .null => .null
  | .datum value => .datum value
  | .node n => .node n
  | .relationship r => .relationship r
  | .path hops => .path hops

/-- The cells of a list that are not null, tidy themselves. -/
def tidyAll : List Cell → List Cell
  | [] => []
  | cell :: rest => if cell.isNull then tidyAll rest else cell.tidy :: tidyAll rest

end

/-- The empty list is tidy. -/
theorem tidyAll_nil : tidyAll [] = [] := by
  rw [tidyAll]

/-- A null item is not kept. -/
theorem tidyAll_cons_of_isNull {cell : Cell} (hnull : cell.isNull = true) (rest : List Cell) :
    tidyAll (cell :: rest) = tidyAll rest := by
  rw [tidyAll, if_pos hnull]

/-- An item that is not null is kept. -/
theorem tidyAll_cons_of_not_isNull {cell : Cell} (hnull : cell.isNull = false) (rest : List Cell) :
    tidyAll (cell :: rest) = cell.tidy :: tidyAll rest := by
  rw [tidyAll, hnull, if_neg Bool.false_ne_true]

/-- Lists become tidy part by part. -/
theorem tidyAll_append (before after : List Cell) :
    tidyAll (before ++ after) = tidyAll before ++ tidyAll after := by
  induction before with
  | nil => rw [tidyAll_nil, List.nil_append, List.nil_append]
  | cons cell rest ih =>
    rw [List.cons_append]
    cases hnull : cell.isNull with
    | true => rw [tidyAll_cons_of_isNull hnull, tidyAll_cons_of_isNull hnull, ih]
    | false =>
      rw [tidyAll_cons_of_not_isNull hnull, tidyAll_cons_of_not_isNull hnull, ih, List.cons_append]

/-- One cell lacks one null item of another: of the list that it holds, or deeper. -/
inductive DropsNull : Cell → Cell → Prop where
  | item (before after : List Cell) {cell : Cell} (hnull : cell.isNull = true) :
      DropsNull (.list (before ++ cell :: after)) (.list (before ++ after))
  | within (before after : List Cell) {cell other : Cell} (h : DropsNull cell other) :
      DropsNull (.list (before ++ cell :: after)) (.list (before ++ other :: after))

namespace DropsNull

/-- What lacks an item, or has had it, is a list and not null. -/
theorem isNull {cell other : Cell} (h : DropsNull cell other) :
    cell.isNull = false ∧ other.isNull = false := by
  cases h <;> exact ⟨rfl, rfl⟩

/-- A null item more or less leaves the tidy cell as it is. -/
theorem tidy {cell other : Cell} (h : DropsNull cell other) : cell.tidy = other.tidy := by
  induction h with
  | item before after hnull =>
    rw [Cell.tidy, Cell.tidy, tidyAll_append, tidyAll_append, tidyAll_cons_of_isNull hnull]
  | within before after h ih =>
    obtain ⟨hcell, hother⟩ := h.isNull
    rw [Cell.tidy, Cell.tidy, tidyAll_append, tidyAll_append, tidyAll_cons_of_not_isNull hcell,
      tidyAll_cons_of_not_isNull hother, ih]

end DropsNull

open Relation in
mutual

/-- A cell becomes tidy by dropping null items one by one. -/
theorem reflTransGen_tidy : ∀ cell : Cell, ReflTransGen DropsNull cell cell.tidy
  | .list items => by
    rw [tidy]
    exact reflTransGen_tidyAll items []
  | .null => .refl
  | .datum _ => .refl
  | .node _ => .refl
  | .relationship _ => .refl
  | .path _ => .refl

/-- The rest of a list becomes tidy by dropping null items one by one. -/
theorem reflTransGen_tidyAll : ∀ items before : List Cell,
    ReflTransGen DropsNull (.list (before ++ items)) (.list (before ++ tidyAll items))
  | [], before => by
    rw [tidyAll_nil]
  | cell :: rest, before => by
    cases hnull : cell.isNull with
    | true =>
      rw [tidyAll_cons_of_isNull hnull]
      exact .head (.item before rest hnull) (reflTransGen_tidyAll rest before)
    | false =>
      rw [tidyAll_cons_of_not_isNull hnull]
      have hwithin : DropsNull ≤
          Function.onFun DropsNull fun item => Cell.list (before ++ item :: rest) :=
        fun _ _ h => DropsNull.within before rest h
      have hcell : ReflTransGen DropsNull (.list (before ++ cell :: rest))
          (.list (before ++ cell.tidy :: rest)) :=
        ReflTransGen.lift _ hwithin _ _ (reflTransGen_tidy cell)
      have hrest := reflTransGen_tidyAll rest (before ++ [cell.tidy])
      rw [List.append_assoc, List.append_assoc] at hrest
      exact hcell.trans hrest

end

/-- Cells have one tidy form just where adding and dropping null items leads from one to the
other. -/
theorem tidy_eq_iff {cell other : Cell} :
    cell.tidy = other.tidy ↔ Relation.EqvGen DropsNull cell other := by
  constructor
  · intro h
    have htidy (cell : Cell) : Relation.EqvGen DropsNull cell cell.tidy := by
      rw [← Relation.EqvGen.eqvGen_reflTransGen]
      exact .rel _ _ (reflTransGen_tidy cell)
    exact .trans _ _ _ (htidy cell) (h ▸ .symm _ _ (htidy other))
  · intro h
    induction h with
    | rel _ _ h => exact h.tidy
    | refl => rfl
    | symm _ _ _ ih => exact ih.symm
    | trans _ _ _ _ _ ih ih' => exact ih.trans ih'

/-!
## What is read from a tidy cell
-/

/-- A tidy cell is null just if the cell is. -/
theorem isNull_tidy (cell : Cell) : cell.tidy.isNull = cell.isNull := by
  cases cell <;> rfl

/-- A tidy cell is of the kind of the cell. -/
theorem kind_tidy (cell : Cell) : cell.tidy.kind = cell.kind := by
  cases cell <;> rfl

/-- A tidy cell holds the node of the cell. -/
theorem node?_tidy (cell : Cell) : cell.tidy.node? = cell.node? := by
  cases cell <;> rfl

/-- A tidy cell holds the relationship of the cell. -/
theorem relationship?_tidy (cell : Cell) : cell.tidy.relationship? = cell.relationship? := by
  cases cell <;> rfl

/-- A tidy cell holds the plain value of the cell. -/
theorem datum?_tidy (cell : Cell) : cell.tidy.datum? = cell.datum? := by
  cases cell <;> rfl

/-- A tidy cell holds the tidy list of the cell. -/
theorem list?_tidy (cell : Cell) : cell.tidy.list? = cell.list?.map tidyAll := by
  cases cell <;> rfl

/-- There are no pieces in a null cell. -/
theorem pieces_of_isNull (column : String) {cell : Cell} (hnull : cell.isNull = true) :
    cell.pieces column = .ok [] := by
  cases cell with
  | null => rfl
  | datum value =>
    have hvalue : value.isNull = true := hnull
    rw [pieces, if_pos hvalue]
  | node _ => cases hnull
  | relationship _ => cases hnull
  | path _ => cases hnull
  | list _ => cases hnull

mutual

/-- The pieces in a tidy cell are those in the cell. -/
theorem pieces_tidy (column : String) : ∀ cell : Cell, cell.tidy.pieces column = cell.pieces column
  | .list items => by
    rw [tidy, pieces, pieces]
    exact piecesOfAll_tidyAll column items
  | .null => rfl
  | .datum _ => rfl
  | .node _ => rfl
  | .relationship _ => rfl
  | .path _ => rfl

/-- The pieces in tidy cells are those in the cells. -/
theorem piecesOfAll_tidyAll (column : String) :
    ∀ items : List Cell, piecesOfAll column (tidyAll items) = piecesOfAll column items
  | [] => by rw [tidyAll_nil]
  | cell :: rest => by
    cases hnull : cell.isNull with
    | true =>
      rw [tidyAll_cons_of_isNull hnull, piecesOfAll, pieces_of_isNull column hnull,
        piecesOfAll_tidyAll column rest]
      cases piecesOfAll column rest <;> rfl
    | false =>
      rw [tidyAll_cons_of_not_isNull hnull, piecesOfAll, piecesOfAll, pieces_tidy column cell,
        piecesOfAll_tidyAll column rest]

end

end Cell

/-!
## Rows
-/

namespace Row

/-- What can be told of a field: the tidy cell, unless the field is absent. -/
def content? (row : Row) (name : String) : Option Cell :=
  ((row.get? name).filter fun cell => !cell.isNull).map Cell.tidy

/-- A field is missing or null. -/
def Absent (row : Row) (name : String) : Prop :=
  ∀ cell, row.get? name = some cell → cell.isNull = true

/-- Rows that differ at most in how they spell absent values: a field is missing or null in both, or
it holds cells in both that have null items of lists more or less. -/
def Alike (row other : Row) : Prop :=
  ∀ name, (row.Absent name ∧ other.Absent name) ∨
    ∃ cell otherCell, row.get? name = some cell ∧ other.get? name = some otherCell ∧
      Relation.EqvGen Cell.DropsNull cell otherCell

variable {row other : Row}

/-- There is no content in a field that is missing. -/
theorem content?_of_missing {name : String} (hcell : row.get? name = none) :
    row.content? name = none := by
  rw [content?, hcell]
  rfl

/-- There is no content in a field that is null. -/
theorem content?_of_isNull {name : String} {cell : Cell} (hcell : row.get? name = some cell)
    (hnull : cell.isNull = true) : row.content? name = none := by
  rw [content?, hcell, Option.filter_some, hnull]
  rfl

/-- The content of a field that is not null is the tidy cell. -/
theorem content?_of_not_isNull {name : String} {cell : Cell} (hcell : row.get? name = some cell)
    (hnull : cell.isNull = false) : row.content? name = some cell.tidy := by
  rw [content?, hcell, Option.filter_some, hnull]
  rfl

/-- There is no content just in a field that is absent. -/
theorem content?_eq_none_iff {name : String} : row.content? name = none ↔ row.Absent name := by
  cases hcell : row.get? name with
  | none =>
    refine ⟨fun _ cell hsome => ?_, fun _ => content?_of_missing hcell⟩
    rw [hcell] at hsome
    cases hsome
  | some cell =>
    cases hnull : cell.isNull with
    | true =>
      refine ⟨fun _ other hsome => ?_, fun _ => content?_of_isNull hcell hnull⟩
      cases hcell.symm.trans hsome
      exact hnull
    | false =>
      rw [content?_of_not_isNull hcell hnull]
      refine ⟨nofun, fun habsent => ?_⟩
      rw [habsent cell hcell] at hnull
      cases hnull

/-- There is content in a field just if it holds a cell that is not null; it is the tidy cell. -/
theorem content?_eq_some_iff {name : String} {content : Cell} :
    row.content? name = some content ↔
      ∃ cell, row.get? name = some cell ∧ cell.isNull = false ∧ cell.tidy = content := by
  cases hcell : row.get? name with
  | none =>
    rw [content?_of_missing hcell]
    simp
  | some cell =>
    cases hnull : cell.isNull with
    | true =>
      rw [content?_of_isNull hcell hnull]
      simp [hnull]
    | false =>
      rw [content?_of_not_isNull hcell hnull]
      simp [hnull]

/-- Rows are alike just if their fields have the same contents. -/
theorem alike_iff : row.Alike other ↔ ∀ name, row.content? name = other.content? name := by
  refine forall_congr' fun name => ⟨?_, fun h => ?_⟩
  · rintro (⟨hrow, hother⟩ | ⟨cell, otherCell, hcell, hotherCell, hdrops⟩)
    · rw [content?_eq_none_iff.mpr hrow, content?_eq_none_iff.mpr hother]
    · have htidy := Cell.tidy_eq_iff.mpr hdrops
      rw [content?, content?, hcell, hotherCell, Option.filter_some, Option.filter_some,
        ← cell.isNull_tidy, ← otherCell.isNull_tidy, htidy]
      cases otherCell.tidy.isNull
      · exact congrArg some htidy
      · rfl
  · cases hcontent : row.content? name with
    | none => exact .inl ⟨content?_eq_none_iff.mp hcontent, content?_eq_none_iff.mp (h ▸ hcontent)⟩
    | some content =>
      obtain ⟨cell, hcell, -, htidy⟩ := content?_eq_some_iff.mp hcontent
      obtain ⟨otherCell, hotherCell, -, htidyOther⟩ := content?_eq_some_iff.mp (h ▸ hcontent)
      exact .inr ⟨cell, otherCell, hcell, hotherCell,
        Cell.tidy_eq_iff.mp (htidy.trans htidyOther.symm)⟩

/-- What is read from a field is what the cell in it holds, unless that is null. -/
theorem read_of_get? {α : Type} (view : Cell → Option α) {name : String} {cell : Cell} {content : α}
    (hcell : row.get? name = some cell) (hnull : cell.isNull = false)
    (hcontent : view cell = some content) (expected : String) :
    row.read name expected view = .ok (some content) := by
  simp only [read, hcell, hnull, Bool.false_eq_true, if_false, hcontent]

/-- What is read from a field is told by its content, where tidying does not touch it. -/
theorem read_eq {α : Type} {view : Cell → Option α} (hview : ∀ cell, view cell.tidy = view cell)
    (row : Row) (name expected : String) :
    row.read name expected view = match row.content? name with
      | none => .ok none
      | some cell => match view cell with
        | some content => .ok (some content)
        | none => .error (.unexpectedShape (.fieldKind name expected cell.kind)) := by
  cases hcell : row.get? name with
  | none => rw [content?_of_missing hcell, read, hcell]
  | some cell =>
    cases hnull : cell.isNull with
    | true => simp only [content?_of_isNull hcell hnull, read, hcell, hnull, if_true]
    | false =>
      cases hcontent : view cell <;>
        simp only [content?_of_not_isNull hcell hnull, read, hcell, hnull, Bool.false_eq_true,
          if_false, hview, hcontent, Cell.kind_tidy]

/-- The tidy list of a field is told by its content. -/
theorem list_eq (row : Row) (name : String) :
    Cell.tidyAll <$> row.list name = match row.content? name with
      | none => .ok []
      | some cell => match cell.list? with
        | some items => .ok items
        | none => .error (.unexpectedShape (.fieldKind name "List" cell.kind)) := by
  cases hcell : row.get? name with
  | none =>
    rw [content?_of_missing hcell, list, read, hcell]
    exact congrArg Except.ok Cell.tidyAll_nil
  | some cell =>
    cases hnull : cell.isNull with
    | true =>
      simp only [content?_of_isNull hcell hnull, list, read, hcell, hnull, if_true]
      exact congrArg Except.ok Cell.tidyAll_nil
    | false =>
      simp only [content?_of_not_isNull hcell hnull, list, read, hcell, hnull, Bool.false_eq_true,
        if_false, Cell.list?_tidy, Cell.kind_tidy]
      cases cell.list? <;> rfl

namespace Alike

/-- Rows that are alike are read alike. -/
protected theorem read (h : row.Alike other) {α : Type} {view : Cell → Option α}
    (hview : ∀ cell, view cell.tidy = view cell) (name expected : String) :
    row.read name expected view = other.read name expected view := by
  rw [read_eq hview, read_eq hview, alike_iff.mp h name]

/-- Rows that are alike hold the same nodes. -/
protected theorem node (h : row.Alike other) (name : String) : row.node name = other.node name :=
  h.read Cell.node?_tidy name _

/-- Rows that are alike hold the same relationships. -/
protected theorem relationship (h : row.Alike other) (name : String) :
    row.relationship name = other.relationship name :=
  h.read Cell.relationship?_tidy name _

/-- Rows that are alike hold the same plain values. -/
protected theorem datum (h : row.Alike other) (name : String) :
    row.datum name = other.datum name :=
  h.read Cell.datum?_tidy name _

/-- Rows that are alike hold the same lists, apart from null items. -/
protected theorem list (h : row.Alike other) (name : String) :
    Cell.tidyAll <$> row.list name = Cell.tidyAll <$> other.list name := by
  rw [list_eq, list_eq, alike_iff.mp h name]

end Alike

end Row

/-!
## Answers
-/

section

variable {rows others : List Row}

/-- The pieces of a row are those in the content of its field. -/
theorem Piece.ofRows_cons (column : String) (row : Row) (rest : List Row) :
    ofRows column (row :: rest) = do
      let first ← (row.content? column).elim (.ok []) (Cell.pieces column)
      let others ← ofRows column rest
      return first ++ others := by
  rw [ofRows]
  cases hcell : row.get? column with
  | none =>
    rw [Row.content?_of_missing hcell]
    rfl
  | some cell =>
    cases hnull : cell.isNull with
    | true =>
      rw [Row.content?_of_isNull hcell hnull]
      dsimp only
      rw [Cell.pieces_of_isNull column hnull]
      rfl
    | false =>
      rw [Row.content?_of_not_isNull hcell hnull, Option.elim_some, Cell.pieces_tidy]

/-- Answers that are alike hold the same pieces, or the same error. -/
theorem Piece.ofRows_of_alike (h : List.Forall₂ Row.Alike rows others) (column : String) :
    ofRows column rows = ofRows column others := by
  induction h with
  | nil => rfl
  | cons hrow _ ih => rw [ofRows_cons, ofRows_cons, Row.alike_iff.mp hrow column, ih]

namespace NeighborRow

/-- Rows that are alike hold the same neighbour. -/
theorem neighbor?_of_alike {row other : Row} (h : row.Alike other) (columns : String × String) :
    neighbor? row columns = neighbor? other columns := by
  rw [neighbor?, neighbor?, h.node, h.relationship]

/-- Rows that are alike are the same row of a neighbourhood. -/
theorem ofRow?_of_alike {row other : Row} (h : row.Alike other) : ofRow? row = ofRow? other := by
  simp only [ofRow?, h.node, neighbor?_of_alike h]

/-- Answers that are alike have the same neighbourhood rows, or the same error. -/
theorem ofRows_of_alike (h : List.Forall₂ Row.Alike rows others) : ofRows rows = ofRows others := by
  induction h with
  | nil => rfl
  | cons hrow _ ih => rw [ofRows, ofRows, ofRow?_of_alike hrow, ih]

end NeighborRow

namespace Schema

/-- The elements in tidy cells are those in the cells. -/
theorem elements_tidyAll {α : Type} {view : Cell → Option α}
    (hview : ∀ cell, view cell.tidy = view cell) (column : String) (items : List Cell) :
    elements column view (Cell.tidyAll items) = elements column view items := by
  induction items with
  | nil => rw [Cell.tidyAll_nil]
  | cons cell rest ih =>
    cases hnull : cell.isNull with
    | true => rw [Cell.tidyAll_cons_of_isNull hnull, elements, if_pos hnull, ih]
    | false =>
      simp only [Cell.tidyAll_cons_of_not_isNull hnull, elements, Cell.isNull_tidy, hnull,
        Bool.false_eq_true, if_false, hview, Cell.kind_tidy, ih]

/-- Rows that are alike list the same elements, or the same error. -/
theorem elements_of_alike {row other : Row} (h : row.Alike other) {α : Type}
    {view : Cell → Option α} (hview : ∀ cell, view cell.tidy = view cell) (column : String) :
    row.list column >>= elements column view = other.list column >>= elements column view := by
  have htidy (row : Row) : row.list column >>= elements column view =
      (Cell.tidyAll <$> row.list column) >>= elements column view := by
    cases row.list column with
    | error error => rfl
    | ok items => exact (elements_tidyAll hview column items).symm
  rw [htidy row, htidy other, h.list column]

/-- Answers that are alike have the same schema, or the same error. -/
theorem ofRows_of_alike (h : List.Forall₂ Row.Alike rows others) : ofRows rows = ofRows others := by
  cases h with
  | nil => rfl
  | @cons row other _ _ hrow _ =>
    have hparts (row : Row) (rest : List Row) : ofRows (row :: rest) = (do
        let nodes ← row.list nodesColumn >>= elements nodesColumn Cell.node?
        let relationships ←
          row.list relationshipsColumn >>= elements relationshipsColumn Cell.relationship?
        return { nodes, relationships }) := by
      simp only [ofRows, bind_assoc]
    rw [hparts, hparts, elements_of_alike hrow Cell.node?_tidy,
      elements_of_alike hrow Cell.relationship?_tidy]

end Schema

end

end GraphGateway
