import GraphGateway.Proofs.Assembly.Outcome
import GraphGateway.Proofs.Gateway.Labels
import GraphGateway.Proofs.Gateway.Storing
import GraphGateway.Proofs.Statement.Creating
import GraphGateway.Proofs.Store.Absence

/-!
# Created elements are read back

An element is written as labels or a type and stored data, and it is read from rows of elements with
the identities of the store. What creating returns is what a row is read as that holds the element
as it was written: the id is stored and carried, reserved keys are dropped once or twice, and labels
are trimmed before they are written.
-/

namespace GraphGateway

/-!
## Stored data
-/

/-- The id that is stored with an element is the one that it carries. -/
theorem carriedId?_storedData {id : String} (hid : id ≠ "") (properties : Properties) :
    carriedId? (storedData id properties) = some id := by
  have hstored : (storedData id properties).get? "id" = some (.text id) := by
    rw [storedData, SortedMap.get?_insert, if_pos rfl]
  have hnonempty : id.isEmpty = false := by
    rw [← Bool.not_eq_true, String.isEmpty_iff]
    exact hid
  simp only [carriedId?, hstored, hnonempty, Bool.false_eq_true, if_false]

/-- Without the reserved keys, the stored data of an element are its own properties. -/
theorem withoutReserved_storedData (id : String) (properties : Properties) :
    (storedData id properties.withoutReserved).withoutReserved = properties.withoutReserved := by
  refine SortedMap.ext_get? fun key => ?_
  rw [Properties.get?_withoutReserved, get?_storedData, Properties.get?_withoutReserved]
  by_cases hid : key = "id"
  · rw [if_pos (Or.inl hid), if_pos (Or.inl hid)]
  · by_cases hlabels : key = "labels" <;> simp [hid, hlabels]

/-!
## Reading one row
-/

/-- A relationship from one node to another, all of which carry ids. The two may have one identity
if they carry the same id. -/
structure StoreRelationship.Joins (relationship : StoreRelationship) (start finish : StoreNode)
    (id source target : String) : Prop where
  starts : relationship.start = start.identity
  finishes : relationship.finish = finish.identity
  carries : relationship.carriedId? = some id
  startCarries : start.carriedId? = some source
  finishCarries : finish.carriedId? = some target
  agrees : start.identity = finish.identity → source = target

/-- Every carried id agrees where none was given before. -/
theorem Agrees.of_none (carried? : Option String) : Agrees none carried? := by
  intro existing id hexisting
  cases hexisting

/-- A carried id that agrees with the one given before is the chosen one. -/
theorem IdSupply.choose_of_agrees {given? : Option String} {id : String}
    (h : Agrees given? (some id)) (supply : IdSupply) :
    supply.choose given? (some id) = (id, supply) := by
  cases given? with
  | none => rfl
  | some existing =>
    obtain rfl := h existing id rfl rfl
    rfl

namespace Naming

variable {naming : Naming} {start finish : StoreNode} {relationship : StoreRelationship}
  {id source target : String}

/-- A node gets the id that it carries where that agrees with the one given before. -/
theorem nameNode_of_agrees {node : StoreNode} (hid : node.carriedId? = some id)
    (h : Agrees (naming.nodeId? node.identity) (some id)) :
    naming.nameNode node = (id, naming.supply) := by
  rw [nameNode, hid, IdSupply.choose_of_agrees h]

/-- A relationship gets the id that it carries where that agrees with the one given before. -/
theorem nameRelationship_of_agrees (hid : relationship.carriedId? = some id)
    (h : Agrees (naming.relationshipId? relationship.identity) (some id)) :
    naming.nameRelationship relationship = (id, naming.supply) := by
  rw [nameRelationship, hid, IdSupply.choose_of_agrees h]

/-- The first node gets the id that it carries. -/
theorem nameNode_ofOccurrences_nil (hid : start.carriedId? = some source) (supply : IdSupply) :
    (ofOccurrences supply []).nameNode start = (source, supply) :=
  nameNode_of_agrees hid (.of_none _)

/-- Behind the start of a relationship, the id of its other end agrees with what has been named. -/
theorem agrees_finish_of_joins (hjoins : relationship.Joins start finish id source target)
    (supply : IdSupply) :
    Agrees (((ofOccurrences supply []).give (.node start)).nodeId? finish.identity)
      (some target) := by
  intro existing carried hexisting hcarried
  rw [nodeId?_give_node, nameNode_ofOccurrences_nil hjoins.startCarries] at hexisting
  split at hexisting
  next hsame =>
    cases hexisting
    cases hcarried
    exact (hjoins.agrees hsame.symm).symm
  next => cases hexisting

/-- A relationship and its ends are named by the ids that they carry, and no id is drawn. -/
theorem ofOccurrences_of_joins (hjoins : relationship.Joins start finish id source target)
    (supply : IdSupply) :
    let naming := ofOccurrences supply [.node start, .node finish, .relationship relationship]
    naming.nodeId? relationship.start = some source ∧
      naming.nodeId? relationship.finish = some target ∧
      naming.relationshipId? relationship.identity = some id ∧ naming.supply = supply := by
  let started := (ofOccurrences supply []).give (.node start)
  let finished := started.give (.node finish)
  have hstart := nameNode_ofOccurrences_nil hjoins.startCarries supply
  have hfinish : started.nameNode finish = (target, started.supply) :=
    nameNode_of_agrees hjoins.finishCarries (agrees_finish_of_joins hjoins supply)
  have hedge : finished.nameRelationship relationship = (id, finished.supply) :=
    nameRelationship_of_agrees hjoins.carries (.of_none _)
  have hsource : started.nodeId? start.identity = some source := by
    rw [nodeId?_give_node, if_pos rfl, hstart]
  have htarget : finished.nodeId? finish.identity = some target := by
    rw [nodeId?_give_node, if_pos rfl, hfinish]
  have hid : (finished.give (.relationship relationship)).relationshipId? relationship.identity =
      some id := by
    rw [relationshipId?_give_relationship, if_pos rfl, hedge]
  have hsupplyStart : started.supply = supply := congrArg Prod.snd hstart
  have hsupplyFinish : finished.supply = started.supply := by
    change (started.nameNode finish).2 = started.supply
    rw [hfinish]
  have hsupplyEdge : (finished.give (.relationship relationship)).supply = finished.supply := by
    change (finished.nameRelationship relationship).2 = finished.supply
    rw [hedge]
  exact ⟨hjoins.starts ▸ nodeId?_give_of_some hsource finish, hjoins.finishes ▸ htarget, hid,
    hsupplyEdge.trans (hsupplyFinish.trans hsupplyStart)⟩

end Naming

/-- A relationship and its ends that carry ids are assembled to one edge, and no id is drawn. -/
theorem ofPieces_of_joins {start finish : StoreNode} {relationship : StoreRelationship}
    {id source target : String} (hjoins : relationship.Joins start finish id source target)
    (supply : IdSupply) :
    ∃ graph, Graph.ofPieces supply [.node start, .node finish, .relationship relationship] =
        (.ok graph, supply) ∧
      graph.edges = [relationship.toEdge id source target] := by
  obtain ⟨hsource, htarget, hid, hsupply⟩ := Naming.ofOccurrences_of_joins hjoins supply
  have hagreesStart : Agrees ((Naming.ofOccurrences supply []).nodeId? start.identity)
      start.carriedId? := .of_none _
  have hagreesFinish := Naming.agrees_finish_of_joins hjoins supply
  rw [← hjoins.finishCarries] at hagreesFinish
  obtain ⟨afterStart, hplacedStart, hfollowsStart⟩ :=
    (Assembly.Follows.start supply).place_node hagreesStart
  obtain ⟨afterFinish, hplacedFinish, hfollowsFinish⟩ := hfollowsStart.place_node hagreesFinish
  have hagreesEdge : Agrees ((Naming.ofOccurrences supply
      [.node start, .node finish]).relationshipId? relationship.identity)
      relationship.carriedId? := .of_none _
  obtain ⟨after, hplaced, hfollows⟩ :=
    hfollowsFinish.place_relationship hagreesEdge hsource htarget
  refine ⟨after.graph, ?_, ?_⟩
  · simp only [Graph.ofPieces, Assembly.placeAll, hplacedStart, hplacedFinish, hplaced,
      Assembly.finish, hfollows.supply]
    exact congrArg (Prod.mk _) hsupply
  · have hnaming : (Naming.ofOccurrences supply
        [.node start, .node finish, .relationship relationship]).graph? = some after.graph :=
      hfollows.graph
    rw [(Naming.eq_firstsBy_of_graph? hnaming).2]
    simp only [Naming.nodeId, Naming.relationshipId, List.filterMap_cons,
      Occurrence.relationship?, List.filterMap_nil, List.map_cons, List.map_nil, hsource, htarget,
      hid, Option.getD_some]
    rfl

namespace Answer

/-- A row with a node that carries an id is read as that node. -/
theorem nodes_singleton {row : Row} {node : StoreNode} {id : String}
    (hrow : row.get? Column.node = some (.node node)) (hid : node.carriedId? = some id)
    (supply : IdSupply) : nodes supply [row] = (.ok [node.toNode id], supply) := by
  have hpieces : Piece.ofRows Column.node [row] = .ok [.node node] := by
    simp only [Piece.ofRows, hrow]
    rfl
  have hassign : ({ policy := .reuse } : Identities).assign node.identity node.carriedId? supply =
      .ok (id, { policy := .reuse, bindings := [(node.identity, id)] }, supply) := by
    rw [Identities.assign_of_unresolved rfl, Identities.carried_of_reuse rfl, hid]
    rfl
  simp only [nodes, hpieces, Graph.ofPieces, Assembly.placeAll, Assembly.place, Assembly.placeNode,
    hassign]
  rfl

/-- A row with an edge and its ends is placed as pieces of these. -/
theorem placeEdgeRows_singleton {row : Row} {start finish : StoreNode}
    {relationship : StoreRelationship} (hstart : row.get? Column.source = some (.node start))
    (hfinish : row.get? Column.target = some (.node finish))
    (hedge : row.get? Column.edge = some (.relationship relationship)) (assembly : Assembly) :
    placeEdgeRows assembly [row] =
      assembly.placeAll [.node start, .node finish, .relationship relationship] := by
  have hsource : row.node Column.source = .ok (some start) :=
    Row.read_of_get? Cell.node? hstart rfl rfl _
  have htarget : row.node Column.target = .ok (some finish) :=
    Row.read_of_get? Cell.node? hfinish rfl rfl _
  have hread : row.relationship Column.edge = .ok (some relationship) :=
    Row.read_of_get? Cell.relationship? hedge rfl rfl _
  simp only [placeEdgeRows, placeEdgeRow, placeNodeIn, placeEdgeIn, hsource, htarget, hread,
    Assembly.placeAll]
  rcases assembly.place (.node start) with ⟨error | _, afterStart⟩
  · rfl
  · dsimp only
    rcases afterStart.place (.node finish) with ⟨error | _, afterFinish⟩ <;> rfl

/-- A row with an edge between its ends, all of which carry ids, is read as that edge. -/
theorem edges_singleton {row : Row} {start finish : StoreNode} {relationship : StoreRelationship}
    {id source target : String} (hstart : row.get? Column.source = some (.node start))
    (hfinish : row.get? Column.target = some (.node finish))
    (hedge : row.get? Column.edge = some (.relationship relationship))
    (hjoins : relationship.Joins start finish id source target) (supply : IdSupply) :
    edges supply [row] = (.ok [relationship.toEdge id source target], supply) := by
  obtain ⟨graph, hgraph, hedges⟩ := ofPieces_of_joins hjoins supply
  rw [edges, placeEdgeRows_singleton hstart hfinish hedge, ← Graph.ofPieces, hgraph, ← hedges]
  rfl

end Answer

/-!
## What creating writes
-/

/-- An element is never created under the empty id, if this is none of the supply. -/
theorem IdSupply.idFor_ne_empty {supply : IdSupply} (hsupply : ∀ n, supply.id n ≠ "")
    (id? : Option String) : (supply.idFor id?).1 ≠ "" := by
  cases id? with
  | none => exact hsupply _
  | some id =>
    rw [idFor]
    split
    next => exact hsupply _
    next hvisible =>
      rintro rfl
      exact hvisible rfl

namespace Gateway

open Call

variable {gateway : Gateway} {supply rest : IdSupply} {exchanges : List Exchange}

/-- Where an element is created, its id has been found free in one exchange before the act that
creates it. -/
theorem runs_of_create_ok {α : Type} (kind : ElementKind) {id? : Option String}
    {refusal : String → Error} {act : String → Call α} {value : α}
    (h : (chooseId id? >>= fun id => guarded kind .create id (refusal id) (act id)).Runs
      supply exchanges (.ok value) rest) :
    ∃ check acted, exchanges = check :: acted ∧ check.Checks kind .create (supply.idFor id?).1 ∧
      (act (supply.idFor id?).1).Runs (supply.idFor id?).2 acted (.ok value) rest := by
  obtain ⟨id, middle, before, after, rfl, hchoose, hguarded⟩ := runs_bind_ok_iff.mp h
  obtain ⟨rfl, hid, rfl⟩ := runs_chooseId hchoose
  cases hid
  obtain ⟨-, error, hfailed⟩ | ⟨check, acted, rfl, hcheck, hacted⟩ := runs_guarded hguarded
  · cases hfailed
  · exact ⟨check, acted, rfl, hcheck, hacted⟩

/-- A statement that is answered with rows has been run. -/
theorem runs_execute_ok {access : Access} {statement : Statement} {rows : List Row}
    (h : (execute access statement).Runs supply exchanges (.ok rows) rest) :
    ∃ session : Session, exchanges = [⟨access, statement, session⟩] ∧
      session.acquireError? = none ∧ rest = supply := by
  obtain ⟨session, rfl, houtcome, rfl⟩ := runs_execute_iff.mp h
  refine ⟨session, rfl, ?_, rfl⟩
  rw [Session.answer] at houtcome
  cases hfailure : session.failure? with
  | some message =>
    rw [hfailure] at houtcome
    cases houtcome
  | none => exact (Option.or_eq_none_iff.mp hfailure).1

/-- A node that is created has been written, and nothing else has, with the labels and the data that
it is returned with. -/
theorem runs_createNode_ok {request : NodeRequest} {node : Node}
    (h : (createNode gateway request).Runs supply exchanges (.ok node) rest) :
    let id := (supply.idFor request.id?).1
    let properties := request.properties.withoutReserved
    ∃ check session labels, labelsOfNew gateway request.labels = .ok labels ∧
      check.access = .read ∧ session.acquireError? = none ∧
      exchanges = [check, ⟨.write, NodeStatement.create labels (storedData id properties), session⟩] ∧
      node = Node.ofLabels id labels properties ∧ rest = (supply.idFor request.id?).2 := by
  rw [createNode_eq] at h
  obtain ⟨check, acted, rfl, hcheck, hact⟩ := runs_of_create_ok .node h
  obtain ⟨labels, middle, before, after, rfl, hlabels, hwritten⟩ := runs_bind_ok_iff.mp hact
  obtain ⟨rfl, hchecked, rfl⟩ := runs_check_iff.mp hlabels
  obtain ⟨rows, middle, before, after, rfl, hwrite, hend⟩ := runs_bind_ok_iff.mp hwritten
  obtain ⟨session, rfl, hacquired, rfl⟩ := runs_execute_ok hwrite
  obtain ⟨rfl, hnode, rfl⟩ := runs_pure_iff.mp hend
  exact ⟨check, session, labels, hchecked.symm, hcheck.access, hacquired, rfl,
    Except.ok.inj hnode, rfl⟩

/-- An edge that is created has been written with the ends, the type and the data that it is
returned with. -/
theorem runs_createEdge_ok {request : EdgeRequest} {edge : Edge}
    (h : (createEdge gateway request).Runs supply exchanges (.ok edge) rest) :
    let id := (supply.idFor request.id?).1
    let properties := request.properties.withoutReserved
    ∃ check session type, Text.isBlankText type = false ∧
      exchanges = [check, ⟨.write, EdgeStatement.create request.source request.target type
        (storedData id properties), session⟩] ∧
      edge = ⟨id, request.source, request.target, some type, properties⟩ := by
  rw [createEdge_eq] at h
  obtain ⟨type, middle, before, after, rfl, htype, hcreate⟩ := runs_bind_ok_iff.mp h
  obtain ⟨rfl, hchecked, rfl⟩ := runs_check_iff.mp htype
  obtain ⟨check, acted, rfl, -, hact⟩ := runs_of_create_ok .relationship hcreate
  obtain ⟨rows, middle, before, after, rfl, hwrite, hend⟩ := runs_bind_ok_iff.mp hact
  obtain ⟨session, rfl, -, rfl⟩ := runs_execute_iff.mp hwrite
  split at hend
  next =>
    obtain ⟨-, hfailed, -⟩ := runs_throw_iff.mp hend
    cases hfailed
  next =>
    obtain ⟨rfl, hedge, -⟩ := runs_pure_iff.mp hend
    exact ⟨check, session, type, isBlankText_typeOfNew hchecked.symm, rfl, Except.ok.inj hedge⟩

end Gateway

/-!
## Reading what has been written
-/

/-- A row holds the node that a statement creates, under some identity. -/
def Row.HoldsNodeOf (row : Row) (statement : Statement) : Prop :=
  ∃ labels data identity, statement = NodeStatement.create labels data ∧
    row.get? Column.node = some (.node ⟨identity, labels, data⟩)

/-- A row holds the edge that a statement creates, under some identity, between nodes that carry the
ids of its ends. -/
def Row.HoldsEdgeOf (row : Row) (statement : Statement) : Prop :=
  ∃ source target type data start finish identity,
    statement = EdgeStatement.create source target type data ∧
    start.carriedId? = some source ∧ finish.carriedId? = some target ∧
    (start.identity = finish.identity → source = target) ∧
    row.get? Column.source = some (.node start) ∧
    row.get? Column.target = some (.node finish) ∧
    row.get? Column.edge =
      some (.relationship ⟨identity, start.identity, finish.identity, some type, data⟩)

/-- A node that is created is what a row with it is read as. -/
theorem Gateway.nodes_of_createNode_ok {gateway : Gateway} {supply rest : IdSupply}
    {exchanges : List Exchange} {request : NodeRequest} {node : Node}
    (hsupply : ∀ n, supply.id n ≠ "")
    (h : (createNode gateway request).Runs supply exchanges (.ok node) rest) :
    ∃ check write, exchanges = [check, write] ∧ (∃ row : Row, row.HoldsNodeOf write.statement) ∧
      ∀ row : Row, row.HoldsNodeOf write.statement → ∀ later,
        Answer.nodes later [row] = (.ok [node], later) := by
  obtain ⟨check, session, labels, -, -, -, rfl, rfl, -⟩ := runs_createNode_ok h
  refine ⟨check, _, rfl, ?_, ?_⟩
  · exact ⟨⟨[(Column.node, .node ⟨⟨""⟩, labels, _⟩)]⟩, labels, _, _, rfl, rfl⟩
  · rintro row ⟨written, data, identity, hstatement, hrow⟩ later
    obtain ⟨rfl, rfl⟩ := NodeStatement.create_inj.mp hstatement
    have hid := carriedId?_storedData (supply.idFor_ne_empty hsupply request.id?)
      request.properties.withoutReserved
    rw [Answer.nodes_singleton hrow hid, StoreNode.toNode, withoutReserved_storedData]

/-- A relationship with stored data of a type that is not blank is read as the edge that was
stored. -/
theorem StoreRelationship.toEdge_storedData {type : String}
    (htype : Text.isBlankText type = false) (identity start finish : StoreId)
    (id source target : String) (properties : Properties) :
    (⟨identity, start, finish, some type, storedData id properties.withoutReserved⟩ :
        StoreRelationship).toEdge id source target =
      ⟨id, source, target, some type, properties.withoutReserved⟩ := by
  rw [toEdge, label?, withoutReserved_storedData, Option.filter_some, htype, Bool.not_false,
    if_pos rfl]

/-- An edge that is created is what a row with it and its ends is read as. -/
theorem Gateway.edges_of_createEdge_ok {gateway : Gateway} {supply rest : IdSupply}
    {exchanges : List Exchange} {request : EdgeRequest} {edge : Edge}
    (hsupply : ∀ n, supply.id n ≠ "")
    (h : (createEdge gateway request).Runs supply exchanges (.ok edge) rest) :
    ∃ check write, exchanges = [check, write] ∧
      (request.source ≠ "" → request.target ≠ "" →
        ∃ row : Row, row.HoldsEdgeOf write.statement) ∧
      ∀ row : Row, row.HoldsEdgeOf write.statement → ∀ later,
        Answer.edges later [row] = (.ok [edge], later) := by
  obtain ⟨check, session, type, htype, rfl, rfl⟩ := runs_createEdge_ok h
  refine ⟨check, _, rfl, ?_, ?_⟩
  · intro hsource htarget
    let start : StoreNode := ⟨⟨"start"⟩, [], storedData request.source {}⟩
    let finish : StoreNode := ⟨⟨"finish"⟩, [], storedData request.target {}⟩
    have hdistinct : (⟨"start"⟩ : StoreId) ≠ ⟨"finish"⟩ := by decide
    exact ⟨⟨[(Column.source, .node start), (Column.target, .node finish),
        (Column.edge, .relationship ⟨⟨""⟩, start.identity, finish.identity, some type, _⟩)]⟩,
      _, _, _, _, start, finish, _, rfl, carriedId?_storedData hsource {},
      carriedId?_storedData htarget {}, fun hsame => absurd hsame hdistinct, rfl, rfl, rfl⟩
  · rintro row ⟨source, target, type', data, start, finish, identity, hstatement, hstart, hfinish,
      hagrees, hsourceCell, htargetCell, hedgeCell⟩ later
    obtain ⟨rfl, rfl, rfl, rfl⟩ := EdgeStatement.create_inj.mp hstatement
    have hid := carriedId?_storedData (supply.idFor_ne_empty hsupply request.id?)
      request.properties.withoutReserved
    rw [Answer.edges_singleton hsourceCell htargetCell hedgeCell
      ⟨rfl, rfl, hid, hstart, hfinish, hagrees⟩,
      StoreRelationship.toEdge_storedData htype]

/-- What creating returns is what is read later: wherever a node or an edge is created, the last of
two statements writes it, and every row that holds the element as it was written is read, from any
supply of ids, as exactly the element that was returned. -/
theorem Operation.created_reads_back (gateway : Gateway) {supply : IdSupply}
    (hsupply : ∀ n, supply.id n ≠ "") (sessions : List Session) :
    (∀ request, (createNode request).Goes gateway supply sessions fun exchanges outcome _ =>
      ∀ node, outcome = .ok node → ∃ check write, exchanges = [check, write] ∧
        (∃ row : Row, row.HoldsNodeOf write.statement) ∧
        ∀ row : Row, row.HoldsNodeOf write.statement → ∀ later,
          Answer.nodes later [row] = (.ok [node], later)) ∧
    ∀ request, (createEdge request).Goes gateway supply sessions fun exchanges outcome _ =>
      ∀ edge, outcome = .ok edge → ∃ check write, exchanges = [check, write] ∧
        (request.source ≠ "" → request.target ≠ "" →
          ∃ row : Row, row.HoldsEdgeOf write.statement) ∧
        ∀ row : Row, row.HoldsEdgeOf write.statement → ∀ later,
          Answer.edges later [row] = (.ok [edge], later) := by
  constructor
  · intro request
    apply goes_of_runs
    rintro exchanges _ rest h node rfl
    exact Gateway.nodes_of_createNode_ok hsupply h
  · intro request
    apply goes_of_runs
    rintro exchanges _ rest h edge rfl
    exact Gateway.edges_of_createEdge_ok hsupply h

/-- A person is created without an id, with one label twice and properties under reserved keys, and
an edge is created with a type that is trimmed: both are read back as they were returned. -/
theorem Operation.created_reads_back_reserved_keys :
    let gateway : Gateway := { filters := FilterCompiler.equalities }
    let supply : IdSupply := { id := fun n => if n = 0 then "x" else "y" }
    let absent : Session := { rows := [⟨[(Column.count, .datum (.integer 0))]⟩] }
    let sessions : List Session := [absent, { rows := [⟨[]⟩] }]
    let person : NodeRequest :=
      { labels := [" Person", "Person"],
        properties := .ofList [("id", .text "a"), ("labels", .null), ("name", .text "Ann")] }
    let knows : EdgeRequest :=
      { id? := some "e", source := "a", target := "b", labels := ["KNOWS "],
        properties := .ofList [("id", .integer 1), ("since", .integer 2)] }
    let node : Node := ⟨"x", ["Person"], .ofList [("name", .text "Ann")]⟩
    let edge : Edge := ⟨"e", "a", "b", some "KNOWS", .ofList [("since", .integer 2)]⟩
    (∀ n, supply.id n ≠ "") ∧
      ((createNode person).Goes gateway supply sessions fun exchanges outcome _ =>
        outcome = .ok node ∧ ∃ check write, exchanges = [check, write] ∧
          (∃ row : Row, row.HoldsNodeOf write.statement) ∧
          ∀ row : Row, row.HoldsNodeOf write.statement → ∀ later,
            Answer.nodes later [row] = (.ok [node], later)) ∧
      (createEdge knows).Goes gateway supply sessions fun exchanges outcome _ =>
        outcome = .ok edge ∧ ∃ check write, exchanges = [check, write] ∧
          (∃ row : Row, row.HoldsEdgeOf write.statement) ∧
          ∀ row : Row, row.HoldsEdgeOf write.statement → ∀ later,
            Answer.edges later [row] = (.ok [edge], later) := by
  intro gateway supply absent sessions person knows node edge
  have hsupply : ∀ n, supply.id n ≠ "" := by
    intro n
    simp only [supply]
    split <;> decide
  obtain ⟨hnodes, hedges⟩ := created_reads_back gateway hsupply sessions
  have hnode : ((createNode person).play gateway supply sessions).result.1 = .ok node := by rfl
  have hedge : ((createEdge knows).play gateway supply sessions).result.1 = .ok edge := by rfl
  refine ⟨hsupply, ?_, ?_⟩
  · obtain ⟨exchanges, hshows, hreads⟩ := hnodes person
    exact ⟨exchanges, hshows, hnode, hreads node hnode⟩
  · obtain ⟨exchanges, hshows, hreads⟩ := hedges knows
    obtain ⟨check, write, hexchanges, hrow, hread⟩ := hreads edge hedge
    exact ⟨exchanges, hshows, hedge, check, write, hexchanges, hrow (by decide) (by decide), hread⟩

end GraphGateway
