import GraphGateway.Proofs.Dialogue.Logs
import GraphGateway.Proofs.Gateway.Labels
import GraphGateway.Proofs.SortedMap
import GraphGateway.Proofs.Text.Bytes
import Mathlib.Data.List.Sort

/-!
# Names of properties

Which names the nodes with a label have, and in which order. Main statement: the answer is refused
just where a row holds something else than a node, and else each key that a node has, but for
`labels`, is listed once: by the first row that shows it, and within a row by the bytes of the name.
No other list is so, and it is found from the keys of each row in any order.
-/

namespace GraphGateway

/-!
## What a row shows
-/

namespace Row

/-- The cell of the column of nodes where it holds something else than a node. -/
def misfit? (row : Row) : Option Cell :=
  (row.get? "n").filter fun cell => !cell.isNull && cell.node?.isNone

/-- The node in the column of nodes. -/
def node? (row : Row) : Option StoreNode := (row.get? "n").bind Cell.node?

/-- Whether a row shows a name: its node has the key, which is not `labels`. -/
def showsName (row : Row) (name : String) : Bool :=
  row.node?.any fun node => (node.properties.get? name).isSome && name != "labels"

/-- Keys list the names that a row shows, each once and in any order. -/
structure Enumerates (row : Row) (keys : List String) : Prop where
  nodup : keys.Nodup
  mem_iff : ∀ name, name ∈ keys ↔ row.showsName name = true

/-- The names that a row shows, in the order of the keys. -/
def shownNames (row : Row) : List String :=
  match row.node? with
  | some node => node.properties.keys.filter (· != "labels")
  | none => []

/-- A row is misfit just where its cell is neither absent nor a node. -/
theorem misfit?_eq_some_iff {row : Row} {cell : Cell} :
    row.misfit? = some cell ↔
      row.get? "n" = some cell ∧ cell.isNull = false ∧ cell.node? = none := by
  simp [misfit?, Option.filter_eq_some_iff]

/-- Asked for its node, a row refuses just where it is misfit. -/
theorem node_eq (row : Row) :
    row.node "n" = match row.misfit? with
      | some cell => .error (.unexpectedShape (.fieldKind "n" "Node" cell.kind))
      | none => .ok row.node? := by
  rw [Row.node, Row.read, misfit?, node?]
  cases row.get? "n" with
  | none => rfl
  | some cell =>
    rw [Option.filter_some, Option.bind_some]
    cases cell with
    | datum value => cases hnull : value.isNull <;> simp [Cell.isNull, Cell.node?, hnull]
    | _ => rfl

/-- The names that a row shows are in the order of the keys. -/
theorem pairwise_shownNames (row : Row) : row.shownNames.Pairwise (· < ·) := by
  cases hnode : row.node? with
  | none => simp [shownNames, hnode]
  | some node =>
    rw [shownNames, hnode]
    exact (List.pairwise_map.mpr node.properties.sorted).filter _

/-- The names that a row shows are the keys of its node. -/
theorem enumerates_shownNames (row : Row) : row.Enumerates row.shownNames where
  nodup := row.pairwise_shownNames.imp String.ne_of_lt
  mem_iff name := by
    cases hnode : row.node? with
    | none => simp [shownNames, showsName, hnode]
    | some node =>
      rw [shownNames, showsName, hnode, List.mem_filter, SortedMap.mem_keys_iff, Option.any_some,
        Bool.and_eq_true]

/-- Keys in another order enumerate the same. -/
theorem Enumerates.of_perm {row : Row} {keys others : List String} (h : row.Enumerates keys)
    (hperm : others.Perm keys) : row.Enumerates others where
  nodup := hperm.nodup_iff.mpr h.nodup
  mem_iff name := hperm.mem_iff.trans (h.mem_iff name)

end Row

/-!
## Names in order
-/

/-- The number of the first row that shows a name. -/
def firstRow (rows : List Row) (name : String) : Nat := rows.findIdx (·.showsName name)

/-- A name comes before another if a row shows it earlier, or if the same row shows both first and
its bytes are less. -/
def Precedes (rows : List Row) (a b : String) : Prop :=
  firstRow rows a < firstRow rows b ∨
    firstRow rows a = firstRow rows b ∧ Text.bytes a < Text.bytes b

/-- Names list what rows show: each name once, nothing else, and in order. -/
structure ListsNames (rows : List Row) (names : List String) : Prop where
  nodup : names.Nodup
  mem_iff : ∀ name, name ∈ names ↔ ∃ row ∈ rows, row.showsName name = true
  ordered : names.Pairwise (Precedes rows)

/-- Names with the sorted keys of one more row behind them, but for those that are there. -/
def addNames (known keys : List String) : List String :=
  known ++ (keys.insertionSort (· ≤ ·)).filter fun name => !known.contains name

/-- The names in the keys of rows, as they are gathered row by row. -/
def gatherNames (orders : List (List String)) : List String := orders.foldl addNames []

/-- A name that rows show is shown first by the same row, whatever rows follow. -/
theorem firstRow_append_of_shown {rows : List Row} (more : List Row) {name : String}
    (h : ∃ row ∈ rows, row.showsName name = true) :
    firstRow (rows ++ more) name = firstRow rows name ∧ firstRow rows name < rows.length := by
  have hfound : firstRow rows name < rows.length := List.findIdx_lt_length.mpr h
  refine ⟨?_, hfound⟩
  rw [firstRow, List.findIdx_append]
  exact if_pos hfound

/-- A name that rows do not show is shown first by one of the rows that follow. -/
theorem firstRow_append_of_not_shown {rows : List Row} (more : List Row) {name : String}
    (h : ¬∃ row ∈ rows, row.showsName name = true) :
    firstRow (rows ++ more) name = firstRow more name + rows.length := by
  rw [firstRow, List.findIdx_append, if_neg fun hfound => h (List.findIdx_lt_length.mp hfound)]
  rfl

/-- Of two names only one comes before the other. -/
theorem Precedes.asymm {rows : List Row} {a b : String} (h : Precedes rows a b) :
    ¬Precedes rows b a := by
  rcases h with hrow | ⟨hrow, hbytes⟩ <;> rintro (hother | ⟨hother, hless⟩)
  · omega
  · omega
  · omega
  · exact List.lt_asymm hbytes hless

namespace ListsNames

/-- There is one list of what rows show. -/
theorem eq {rows : List Row} {names others : List String} (h : ListsNames rows names)
    (h' : ListsNames rows others) : names = others := by
  have hperm : names.Perm others :=
    (List.perm_ext_iff_of_nodup h.nodup h'.nodup).mpr fun name =>
      (h.mem_iff name).trans (h'.mem_iff name).symm
  exact hperm.eq_of_pairwise (fun a b _ _ hab hba => absurd hba hab.asymm) h.ordered h'.ordered

/-- No row shows nothing. -/
theorem nil : ListsNames [] [] := ⟨.nil, by simp, .nil⟩

/-- One row shows its names by their bytes. -/
theorem singleton {row : Row} {names : List String} (h : row.Enumerates names)
    (hsorted : names.Pairwise (· < ·)) : ListsNames [row] names where
  nodup := h.nodup
  mem_iff name := by simp [h.mem_iff]
  ordered := by
    refine hsorted.imp_of_mem fun {a b} ha hb hlt => Or.inr ⟨?_, Text.bytes_lt_iff.mpr hlt⟩
    simp [firstRow, List.findIdx_cons, (h.mem_iff a).mp ha, (h.mem_iff b).mp hb]

/-- Rows behind others show what they show but for what the others do. -/
theorem append {rows more : List Row} {known names : List String} (h : ListsNames rows known)
    (h' : ListsNames more names) :
    ListsNames (rows ++ more) (known ++ names.filter fun name => !known.contains name) := by
  have hknown {name : String} (hname : name ∈ known) :=
    firstRow_append_of_shown more ((h.mem_iff name).mp hname)
  have hnew {name : String} (hname : name ∈ names.filter fun name => !known.contains name) :
      firstRow (rows ++ more) name = firstRow more name + rows.length := by
    have hmissed : name ∉ known := by simpa using (List.mem_filter.mp hname).2
    exact firstRow_append_of_not_shown more fun hshown => hmissed ((h.mem_iff name).mpr hshown)
  refine ⟨?_, fun name => ?_, ?_⟩
  · refine List.nodup_append.mpr ⟨h.nodup, h'.nodup.filter _, fun a ha b hb heq => ?_⟩
    simp [← heq, ha] at hb
  · have hmem : name ∈ known ++ names.filter (fun name => !known.contains name) ↔
        name ∈ known ∨ name ∈ names := by
      by_cases hname : name ∈ known <;> simp [hname]
    simp only [hmem, h.mem_iff, h'.mem_iff, List.mem_append, or_and_right, exists_or]
  · refine List.pairwise_append.mpr ⟨?_, ?_, fun a ha b hb => Or.inl ?_⟩
    · refine h.ordered.imp_of_mem fun {a b} ha hb hab => ?_
      rwa [Precedes, (hknown ha).1, (hknown hb).1]
    · refine (h'.ordered.filter _).imp_of_mem fun {a b} ha hb hab => ?_
      rw [Precedes, hnew ha, hnew hb]
      rcases hab with hrow | ⟨hrow, hbytes⟩
      · exact Or.inl (by omega)
      · exact Or.inr ⟨by omega, hbytes⟩
    · obtain ⟨hfirst, hlt⟩ := hknown ha
      rw [hfirst, hnew hb]
      omega

/-- Sorted keys of one more row go behind the names of the rows before it. -/
theorem addNames {rows : List Row} {row : Row} {known keys : List String}
    (h : ListsNames rows known) (hkeys : row.Enumerates keys) :
    ListsNames (rows ++ [row]) (addNames known keys) := by
  have hsorted : row.Enumerates (keys.insertionSort (· ≤ ·)) :=
    hkeys.of_perm (List.perm_insertionSort _ keys)
  refine h.append (singleton hsorted ?_)
  refine ((List.pairwise_insertionSort _ keys).and hsorted.nodup).imp fun ⟨hle, hne⟩ => ?_
  exact String.not_le.mp fun hge => hne (String.le_antisymm hle hge)

/-- Keys that are gathered row by row list what the rows show, whatever order they have. -/
theorem gatherNames {rows : List Row} {orders : List (List String)}
    (h : List.Forall₂ Row.Enumerates rows orders) : ListsNames rows (gatherNames orders) := by
  have hfold {rows before : List Row} {orders : List (List String)} {known : List String}
      (hknown : ListsNames before known) (h : List.Forall₂ Row.Enumerates rows orders) :
      ListsNames (before ++ rows) (orders.foldl GraphGateway.addNames known) := by
    induction h generalizing before known with
    | nil => rwa [List.append_nil]
    | cons hrow _ ih =>
      rw [List.foldl_cons, List.append_cons]
      exact ih (hknown.addNames hrow)
  exact hfold .nil h

end ListsNames

namespace Gateway

/-- The names of properties in an answer are found in the first row, unless it is misfit, and then
in the others. -/
theorem propertyNames_cons (row : Row) (rest : List Row) :
    propertyNames (row :: rest) = match row.misfit? with
      | some cell => .error (.unexpectedShape (.fieldKind "n" "Node" cell.kind))
      | none => (propertyNames rest).map fun others =>
        row.shownNames ++ others.filter fun name => !row.shownNames.contains name := by
  rw [propertyNames, Column.node, row.node_eq, Row.shownNames, Statement.labelsField]
  cases row.misfit? with
  | some cell => rfl
  | none =>
    cases row.node? <;> cases propertyNames rest <;>
      simp [bind, Except.bind, pure, Except.pure, Except.map]

/-- An answer is refused for the first row that is misfit. -/
theorem propertyNames_eq_error_iff {rows : List Row} {error : Error} :
    propertyNames rows = .error error ↔ ∃ cell, rows.findSome? Row.misfit? = some cell ∧
      error = .unexpectedShape (.fieldKind "n" "Node" cell.kind) := by
  induction rows with
  | nil => simp [propertyNames]
  | cons row rest ih =>
    rw [propertyNames_cons, List.findSome?_cons]
    cases row.misfit? with
    | some cell => simp [eq_comm]
    | none => cases hrest : propertyNames rest <;> simp [← ih, hrest, Except.map]

/-- The names of properties in an answer without misfit rows list what the rows show. -/
theorem exists_propertyNames_eq_ok {rows : List Row} (h : ∀ row ∈ rows, row.misfit? = none) :
    ∃ names, propertyNames rows = .ok names ∧ ListsNames rows names := by
  induction rows with
  | nil => exact ⟨[], rfl, .nil⟩
  | cons row rest ih =>
    obtain ⟨hrow, hrest⟩ := List.forall_mem_cons.mp h
    obtain ⟨others, hothers, hlists⟩ := ih hrest
    refine ⟨_, ?_, (ListsNames.singleton row.enumerates_shownNames row.pairwise_shownNames).append
      hlists⟩
    rw [propertyNames_cons, hrow, hothers]
    rfl

/-- The names of properties of nodes with a label are those in the one answer that is asked for. -/
theorem play_propertyNamesLabeled {label : String} {amount : Int64}
    (hlabel : Text.isBlankText label = false) (hamount : 0 < amount) {session : Session}
    {rows : List Row} (hrows : session.answer = .ok rows) (supply : IdSupply)
    (sessions : List Session) :
    (propertyNamesLabeled label amount).play supply (session :: sessions) =
      ⟨(propertyNames rows, supply), sessions,
        session.events .read (NodeStatement.labeled (Text.trim label) amount)⟩ := by
  have hpositive : ¬amount ≤ 0 := Int64.not_le.mpr hamount
  have hcheck : (Call.check (checkLabel label)).play supply (session :: sessions) =
      ⟨(.ok (Text.trim label), supply), session :: sessions, []⟩ := by
    rw [checkLabel_of_not_blank hlabel, Call.play_check]
  have hread : (Call.read (NodeStatement.labeled (Text.trim label) amount)).play supply
      (session :: sessions) = ⟨(.ok rows, supply), sessions,
        session.events .read (NodeStatement.labeled (Text.trim label) amount)⟩ := by
    rw [Call.read, Call.play_execute, hrows]
    rfl
  rw [propertyNamesLabeled, if_neg hpositive, Call.play_bind_of_ok hcheck,
    Call.play_bind_of_ok hread, Call.play_check]
  simp only [List.nil_append, List.append_nil]

/-- For a label that is not blank and a positive amount, an answer is refused just where some row
holds in the column of nodes something else than a node that is not absent either, and the first
such cell is told. Otherwise the keys of the nodes, but for `labels`, are listed, each once and
nothing else, by the first row that shows them and within a row by their bytes. That is the only
such list, and the one found by gathering the keys row by row, in whatever order each node gives
them. -/
theorem propertyNamesLabeled_lists_names {label : String} {amount : Int64}
    (hlabel : Text.isBlankText label = false) (hamount : 0 < amount) {session : Session}
    {rows : List Row} (hrows : session.answer = .ok rows) (supply : IdSupply)
    (sessions : List Session) :
    let played := (propertyNamesLabeled label amount).play supply (session :: sessions)
    played.log = session.events .read (NodeStatement.labeled (Text.trim label) amount) ∧
    (∀ error, played.result.1 = .error error ↔
      ∃ cell, rows.findSome? Row.misfit? = some cell ∧
        error = .unexpectedShape (.fieldKind "n" "Node" cell.kind)) ∧
    ((∃ error, played.result.1 = .error error) ↔
      ∃ row ∈ rows, ∃ cell, row.get? "n" = some cell ∧ cell.isNull = false ∧ cell.node? = none) ∧
    ((∀ row ∈ rows, row.misfit? = none) → ∃ names, played.result.1 = .ok names ∧
      ListsNames rows names ∧ (∀ others, ListsNames rows others → others = names) ∧
      ∀ orders, List.Forall₂ Row.Enumerates rows orders → gatherNames orders = names) := by
  intro played
  have hplayed : played = _ := play_propertyNamesLabeled hlabel hamount hrows supply sessions
  rw [hplayed]
  refine ⟨rfl, fun error => propertyNames_eq_error_iff, ?_, fun hfit => ?_⟩
  · simp only [propertyNames_eq_error_iff]
    constructor
    · rintro ⟨_, cell, hfirst, -⟩
      obtain ⟨row, hrow, hcell⟩ := List.exists_of_findSome?_eq_some hfirst
      exact ⟨row, hrow, cell, Row.misfit?_eq_some_iff.mp hcell⟩
    · rintro ⟨row, hrow, cell, hcell⟩
      have hfirst : (rows.findSome? Row.misfit?).isSome = true :=
        List.findSome?_isSome_iff.mpr ⟨row, hrow, by simp [Row.misfit?_eq_some_iff.mpr hcell]⟩
      obtain ⟨first, hfirst⟩ := Option.isSome_iff_exists.mp hfirst
      exact ⟨_, first, hfirst, rfl⟩
  · obtain ⟨names, hnames, hlists⟩ := exists_propertyNames_eq_ok hfit
    exact ⟨names, hnames, hlists, fun others hothers => hothers.eq hlists,
      fun orders horders => (ListsNames.gatherNames horders).eq hlists⟩

/-- Nodes with keys in common, a row without a node between them, and keys that come in another
order than the nodes keep them. -/
theorem propertyNamesLabeled_lists_names_overlapping_keys :
    let first : StoreNode :=
      ⟨⟨"1"⟩, ["Person"], .ofList [("b", .null), ("id", .text "x"), ("labels", .null)]⟩
    let last : StoreNode :=
      ⟨⟨"2"⟩, ["Person"], .ofList [("é", .null), ("id", .text "y"), ("a", .integer 1)]⟩
    let rows : List Row := [⟨[("n", .node first)]⟩, ⟨[("n", .null)]⟩, ⟨[("n", .node last)]⟩]
    let session : Session := { rows := rows }
    let played := (propertyNamesLabeled " Person" 5).play ⟨fun _ => "", 0⟩ [session]
    let names := ["b", "id", "a", "é"]
    Text.isBlankText " Person" = false ∧ (0 : Int64) < 5 ∧ session.answer = .ok rows ∧
      (∀ row ∈ rows, row.misfit? = none) ∧
      List.Forall₂ Row.Enumerates rows [["id", "b"], [], ["é", "id", "a"]] ∧
      played.result.1 = .ok names ∧ ListsNames rows names ∧
      played.log = session.events .read (NodeStatement.labeled "Person" 5) := by
  intro first last rows session played names
  have hlabel : Text.isBlankText " Person" = false := by decide
  have hamount : (0 : Int64) < 5 := by decide
  have hanswer : session.answer = .ok rows := rfl
  have hfit : ∀ row ∈ rows, row.misfit? = none := by
    simp only [rows, List.forall_mem_cons]
    exact ⟨rfl, rfl, rfl, List.forall_mem_nil _⟩
  have horders : List.Forall₂ Row.Enumerates rows [["id", "b"], [], ["é", "id", "a"]] := by
    have hperm {row : Row} {keys : List String} (h : keys.Perm row.shownNames) :
        row.Enumerates keys := row.enumerates_shownNames.of_perm h
    exact .cons (hperm (by decide)) (.cons (hperm (by decide)) (.cons (hperm (by decide)) .nil))
  obtain ⟨hlog, -, -, hlists⟩ :=
    propertyNamesLabeled_lists_names hlabel hamount hanswer ⟨fun _ => "", 0⟩ []
  obtain ⟨found, hfound, hordered, -, hgathered⟩ := hlists hfit
  have hnames : found = names := (hgathered _ horders).symm.trans (by decide)
  rw [hnames] at hfound hordered
  exact ⟨hlabel, hamount, hanswer, hfit, horders, hfound, hordered, hlog⟩

end Gateway

end GraphGateway
