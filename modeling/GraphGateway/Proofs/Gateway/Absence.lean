import GraphGateway.Proofs.Gateway.Orderly
import GraphGateway.Proofs.Store.Absence

/-!
# Operations and absent values

No operation can tell how the store spells an absent value: answers that differ in nothing else lead
it on in the same way. This is kept when calls are put together, so it is enough to look at what is
made of single answers.
-/

namespace GraphGateway

/-!
## What is made of an answer
-/

namespace Answer

variable {rows others : List Row}

/-- Answers that are alike have the same count, or the same error. -/
theorem count_of_alike (h : List.Forall₂ Row.Alike rows others) : count rows = count others := by
  cases h with
  | nil => rfl
  | cons hrow _ => rw [count, count, hrow.datum]

/-- Answers that are alike have the same texts, or the same error. -/
theorem texts_of_alike (h : List.Forall₂ Row.Alike rows others) (column : String) :
    texts column rows = texts column others := by
  induction h with
  | nil => rfl
  | cons hrow _ ih => simp only [texts, hrow.datum, ih]

/-- Answers that are alike have the same nodes, or the same error. -/
theorem nodes_of_alike (h : List.Forall₂ Row.Alike rows others) (supply : IdSupply) :
    nodes supply rows = nodes supply others := by
  rw [nodes, nodes, Piece.ofRows_of_alike h]

/-- Rows that are alike are placed alike. -/
theorem placeEdgeRow_of_alike {row other : Row} (h : row.Alike other) (assembly : Assembly) :
    placeEdgeRow assembly row = placeEdgeRow assembly other := by
  simp only [placeEdgeRow, placeNodeIn, placeEdgeIn, h.node, h.relationship]

/-- Answers that are alike are placed alike. -/
theorem placeEdgeRows_of_alike (h : List.Forall₂ Row.Alike rows others) (assembly : Assembly) :
    placeEdgeRows assembly rows = placeEdgeRows assembly others := by
  induction h generalizing assembly with
  | nil => rfl
  | cons hrow _ ih => simp only [placeEdgeRows, placeEdgeRow_of_alike hrow, ih]

/-- Answers that are alike have the same edges, or the same error. -/
theorem edges_of_alike (h : List.Forall₂ Row.Alike rows others) (supply : IdSupply) :
    edges supply rows = edges supply others := by
  rw [edges, edges, placeEdgeRows_of_alike h]

end Answer

/-- Answers that are alike have the same names of properties, or the same error. -/
theorem Gateway.propertyNames_of_alike {rows others : List Row}
    (h : List.Forall₂ Row.Alike rows others) : propertyNames rows = propertyNames others := by
  induction h with
  | nil => rfl
  | cons hrow _ ih => simp only [propertyNames, hrow.node, ih]

/-!
## Dialogues and calls
-/

/-- Answers of sessions that differ at most in how they spell absent values. -/
inductive AnswersAlike : Except String (List Row) → Except String (List Row) → Prop where
  | error (message : String) : AnswersAlike (.error message) (.error message)
  | ok {rows others : List Row} (h : List.Forall₂ Row.Alike rows others) :
      AnswersAlike (.ok rows) (.ok others)

/-- Sessions that fail alike and answer rows that differ at most in how they spell absent values. -/
structure Session.Alike (session other : Session) : Prop where
  rows : List.Forall₂ Row.Alike session.rows other.rows
  acquireError? : session.acquireError? = other.acquireError?
  runError? : session.runError? = other.runError?

namespace Session.Alike

variable {session other : Session}

/-- Sessions that are alike answer alike. -/
theorem answer (h : session.Alike other) : AnswersAlike session.answer other.answer := by
  rw [Session.answer, Session.answer, failure?, failure?, h.acquireError?, h.runError?]
  cases other.acquireError?.or other.runError? with
  | none => exact .ok h.rows
  | some message => exact .error message

/-- In sessions that are alike, the same is done. -/
theorem events (h : session.Alike other) : session.events = other.events := by
  funext access statement
  rw [Session.events, Session.events, h.acquireError?]

end Session.Alike

namespace Dialogue

variable {α β : Type}

/-- A dialogue that goes on in the same way behind answers that are alike. -/
inductive Steady : Dialogue α → Prop where
  | done (value : α) : Steady (done value)
  | ask {access : Access} {statement : Statement} {next : Except String (List Row) → Dialogue α}
      (hnext : ∀ answer, Steady (next answer))
      (hsame : ∀ answer other, AnswersAlike answer other → next answer = next other) :
      Steady (ask access statement next)

/-- Steady dialogues can be put one behind the other. -/
theorem Steady.andThen {dialogue : Dialogue α} {continuation : α → Dialogue β}
    (h : dialogue.Steady) (hcontinuation : ∀ value, (continuation value).Steady) :
    (dialogue.andThen continuation).Steady := by
  induction h with
  | done value => exact hcontinuation value
  | ask _ hsame ih =>
    exact .ask ih fun answer other halike =>
      congrArg (Dialogue.andThen · continuation) (hsame answer other halike)

/-- Against scripts that are alike, a steady dialogue is played alike. -/
theorem Steady.play {dialogue : Dialogue α} (h : dialogue.Steady) {sessions others : List Session}
    (hsessions : List.Forall₂ Session.Alike sessions others) :
    (dialogue.play sessions).result = (dialogue.play others).result ∧
      (dialogue.play sessions).log = (dialogue.play others).log := by
  induction h generalizing sessions others with
  | done value => exact ⟨rfl, rfl⟩
  | ask _ hsame ih =>
    have hhead : (sessions.headD {}).Alike (others.headD {}) := by
      cases hsessions with
      | nil => exact ⟨.nil, rfl, rfl⟩
      | cons hfirst _ => exact hfirst
    have htail : List.Forall₂ Session.Alike sessions.tail others.tail := by
      cases hsessions with
      | nil => exact .nil
      | cons _ hrest => exact hrest
    obtain ⟨hresult, hlog⟩ := ih (others.headD {}).answer htail
    simp only [Dialogue.play_ask, hsame _ _ hhead.answer, hhead.events, hresult, hlog, and_self]

end Dialogue

namespace Call

variable {α β : Type}

/-- A call whose dialogue goes on in the same way behind answers that are alike. -/
def Steady (call : Call α) : Prop := ∀ supply, (call.start supply).Steady

namespace Steady

/-- A value alone is steady. -/
protected theorem pure (value : α) : Steady (pure value : Call α) := fun _ => .done _

/-- An error of the call's own is steady. -/
protected theorem throw (error : Error) : Steady (throw error : Call α) := fun _ => .done _

/-- A new id is steady. -/
protected theorem mint : Steady mint := fun _ => .done _

/-- A computation that draws on the supply is steady. -/
protected theorem draw (compute : IdSupply → Except Error α × IdSupply) :
    Steady (draw compute) := by
  intro supply
  have hstart : (draw compute).start supply =
      (draw.liftExcept (compute supply).1).start (compute supply).2 := rfl
  rw [hstart]
  cases (compute supply).1 <;> exact .done _

/-- A check is steady. -/
protected theorem check (checked : Except Error α) : Steady (check checked) := .draw _

/-- Steady calls can be put one behind the other. -/
protected theorem bind {call : Call α} {continuation : α → Call β} (hcall : Steady call)
    (hcontinuation : ∀ value, Steady (continuation value)) : Steady (call >>= continuation) := by
  intro supply
  refine (hcall supply).andThen fun ended => ?_
  obtain ⟨error | value, rest⟩ := ended
  · exact .done _
  · exact hcontinuation value rest

/-- A statement is steady with what follows, if that makes the same of answers that are alike. -/
protected theorem execute_bind {access : Access} {statement : Statement}
    {continuation : List Row → Call β} (hcontinuation : ∀ rows, Steady (continuation rows))
    (hsame : ∀ rows others, List.Forall₂ Row.Alike rows others →
      continuation rows = continuation others) :
    Steady (execute access statement >>= continuation) := by
  intro supply
  refine .ask (fun answer => ?_) fun answer other halike => ?_
  · cases answer with
    | error message => exact .done _
    | ok rows => exact hcontinuation rows supply
  · cases halike with
    | error message => rfl
    | @ok rows others h =>
      exact congrArg (fun call : Call β => call.start supply) (hsame rows others h)

/-- A statement is steady with what is drawn from its answer, if that is the same of answers that
are alike. -/
protected theorem execute_draw {access : Access} {statement : Statement}
    {compute : List Row → IdSupply → Except Error α × IdSupply}
    (hsame : ∀ rows others, List.Forall₂ Row.Alike rows others → compute rows = compute others) :
    Steady (execute access statement >>= fun rows => draw (compute rows)) :=
  .execute_bind (fun _ => .draw _) fun rows others h => congrArg draw (hsame rows others h)

/-- What follows may use what is drawn from an answer. -/
protected theorem execute_draw_bind {access : Access} {statement : Statement}
    {compute : List Row → IdSupply → Except Error α × IdSupply} {continuation : α → Call β}
    (hsame : ∀ rows others, List.Forall₂ Row.Alike rows others → compute rows = compute others)
    (hcontinuation : ∀ value, Steady (continuation value)) :
    Steady (execute access statement >>= fun rows => draw (compute rows) >>= continuation) :=
  .execute_bind (fun _ => .bind (.draw _) hcontinuation) fun rows others h =>
    congrArg (fun compute => draw compute >>= continuation) (hsame rows others h)

end Steady

end Call

/-!
## Operations
-/

namespace Gateway

open Call

/-- What is checked of answers that are alike is the same. -/
private theorem check_of_alike {α : Type} {decode : List Row → Except Error α}
    (h : ∀ {rows others : List Row}, List.Forall₂ Row.Alike rows others →
      decode rows = decode others) (rows others : List Row)
    (hrows : List.Forall₂ Row.Alike rows others) :
    (fun supply : IdSupply => (decode rows, supply)) = fun supply => (decode others, supply) := by
  rw [h hrows]

/-- The nodes in answers that are alike are the same. -/
private theorem nodesOf_of_alike (rows others : List Row)
    (h : List.Forall₂ Row.Alike rows others) :
    (fun supply => Answer.nodes supply rows) = fun supply => Answer.nodes supply others :=
  funext (Answer.nodes_of_alike h)

/-- The edges in answers that are alike are the same. -/
private theorem edgesOf_of_alike (rows others : List Row)
    (h : List.Forall₂ Row.Alike rows others) :
    (fun supply => Answer.edges supply rows) = fun supply => Answer.edges supply others :=
  funext (Answer.edges_of_alike h)

/-- Asking for a node's id is steady. -/
theorem steady_hasNode (id : String) : Steady (hasNode id) :=
  .execute_draw_bind (check_of_alike Answer.count_of_alike) fun _ => .pure _

/-- Asking for an edge's id is steady. -/
theorem steady_hasEdge (id : String) : Steady (hasEdge id) :=
  .execute_draw_bind (check_of_alike Answer.count_of_alike) fun _ => .pure _

/-- Choosing an id is steady. -/
theorem steady_chooseId (id? : Option String) : Steady (chooseId id?) := by
  unfold chooseId
  split
  next => exact .pure _
  next => exact .mint

/-- A change whose answer does not matter is steady with the value that follows. -/
private theorem steady_write_pure {α : Type} (statement : Statement) (value : α) :
    Steady (do
      let _ ← write statement
      pure value) :=
  .execute_bind (fun _ => .pure value) fun _ _ _ => rfl

/-- Creating a node is steady. -/
theorem steady_createNode (gateway : Gateway) (request : NodeRequest) :
    Steady (createNode gateway request) := by
  rw [createNode_eq]
  refine .bind (steady_chooseId _) fun id => .bind (steady_hasNode id) fun present => ?_
  split
  next => exact .throw _
  next => exact .bind (.check _) fun labels => steady_write_pure _ _

/-- Creating nodes one after the other is steady. -/
theorem steady_createNodes (gateway : Gateway) (requests : List NodeRequest) :
    Steady (createNodes gateway requests) := by
  induction requests with
  | nil => exact .pure _
  | cons request requests ih =>
    exact .bind (steady_createNode gateway request) fun _ => .bind ih fun _ => .pure _

/-- Changing a node is steady. -/
theorem steady_updateNode (request : NodeRequest) : Steady (updateNode request) := by
  rw [updateNode_eq]
  split
  next => exact .throw _
  next id _ =>
    refine .bind (steady_hasNode id) fun present => ?_
    split
    next => exact .throw _
    next =>
      refine .bind (.check _) fun labels => .execute_draw_bind nodesOf_of_alike fun nodes => ?_
      split
      next => exact .pure _
      next => exact .throw _

/-- Changing a node or creating it is steady. -/
theorem steady_upsertNode (gateway : Gateway) (request : NodeRequest) :
    Steady (upsertNode gateway request) := by
  rw [upsertNode_eq]
  split
  next => exact steady_createNode gateway request
  next id _ =>
    refine .bind (steady_hasNode id) fun present => ?_
    split
    next => exact steady_updateNode request
    next => exact steady_createNode gateway request

/-- Creating an edge is steady: of the answer to the statement that creates it, only the number of
rows matters. -/
theorem steady_createEdge (gateway : Gateway) (request : EdgeRequest) :
    Steady (createEdge gateway request) := by
  rw [createEdge_eq]
  refine .bind (.check _) fun type => .bind (steady_chooseId _) fun id =>
    .bind (steady_hasEdge id) fun present => ?_
  split
  next => exact .throw _
  next =>
    refine .execute_bind (fun rows => ?_) fun rows others h => ?_
    · split
      next => exact .throw _
      next => exact .pure _
    · cases h <;> rfl

/-- Changing an edge is steady. -/
theorem steady_updateEdge (id : String) (labels : List String) (properties : Properties) :
    Steady (updateEdge id labels properties) := by
  rw [updateEdge_eq]
  split
  next => exact .throw _
  next =>
    refine .bind (.check _) fun type? => .bind (steady_hasEdge id) fun present => ?_
    split
    next => exact .throw _
    next =>
      refine .execute_draw_bind edgesOf_of_alike fun edges => ?_
      split
      next => exact .pure _
      next => exact .throw _

/-- Changing an edge or creating it is steady. -/
theorem steady_upsertEdge (gateway : Gateway) (request : EdgeRequest) :
    Steady (upsertEdge gateway request) := by
  rw [upsertEdge_eq]
  split
  next => exact steady_createEdge gateway request
  next id _ =>
    refine .bind (steady_hasEdge id) fun present => ?_
    split
    next => exact steady_updateEdge id _ _
    next => exact steady_createEdge gateway request

end Gateway

namespace Operation

open Call Gateway

/-- Every operation is steady. -/
theorem steady_call (gateway : Gateway) {α : Type} (operation : Operation α) :
    Steady (operation.call gateway) := by
  cases operation with
  | pathGraph tokens limit? =>
    refine .bind (.check _) fun query => ?_
    split
    next => exact .pure _
    next =>
      exact .execute_draw_bind
        (check_of_alike fun h => Piece.ofRows_of_alike h query.column) fun _ => .draw _
  | neighborhood id limit =>
    rw [call, Gateway.neighborhood]
    split
    next => exact .pure _
    next => exact .execute_draw_bind (check_of_alike NeighborRow.ofRows_of_alike) fun _ => .draw _
  | schema => exact .execute_draw_bind (check_of_alike Schema.ofRows_of_alike) fun _ => .draw _
  | hasNode id => exact steady_hasNode id
  | node? id => exact .execute_draw_bind nodesOf_of_alike fun _ => .pure _
  | nodeMatching? filter =>
    exact .bind (.check _) fun _ => .execute_draw_bind nodesOf_of_alike fun _ => .pure _
  | nodesMatching filter amount? =>
    exact .bind (.check _) fun _ => .execute_draw nodesOf_of_alike
  | nodesLabeled label amount =>
    rw [call, Gateway.nodesLabeled]
    split
    next => exact .pure _
    next => exact .bind (.check _) fun _ => .execute_draw nodesOf_of_alike
  | propertyNamesLabeled label amount =>
    rw [call, Gateway.propertyNamesLabeled]
    split
    next => exact .pure _
    next => exact .bind (.check _) fun _ => .execute_draw (check_of_alike propertyNames_of_alike)
  | searchNodes term fields label? amount =>
    rw [call, Gateway.searchNodes]
    split
    next => exact .pure _
    next => exact .bind (.check _) fun _ => .execute_draw nodesOf_of_alike
  | countNodes filter =>
    exact .bind (.check _) fun _ => .execute_draw (check_of_alike Answer.count_of_alike)
  | createNode request => exact steady_createNode gateway request
  | createNodes requests => exact steady_createNodes gateway requests
  | updateNode request => exact steady_updateNode request
  | upsertNode request => exact steady_upsertNode gateway request
  | deleteNode id => exact steady_write_pure _ _
  | deleteNodesMatching filter =>
    exact .bind (.check _) fun _ => steady_write_pure _ _
  | hasEdge id => exact steady_hasEdge id
  | edge? id => exact .execute_draw_bind edgesOf_of_alike fun _ => .pure _
  | edgeBetween? source target type? =>
    exact .bind (.check _) fun _ => .execute_draw_bind edgesOf_of_alike fun _ => .pure _
  | edgesLabeled type amount =>
    rw [call, Gateway.edgesLabeled]
    split
    next => exact .pure _
    next => exact .bind (.check _) fun _ => .execute_draw edgesOf_of_alike
  | edgesMatching filter amount? =>
    exact .bind (.check _) fun _ => .execute_draw edgesOf_of_alike
  | countEdges filter =>
    exact .bind (.check _) fun _ => .execute_draw (check_of_alike Answer.count_of_alike)
  | createEdge request => exact steady_createEdge gateway request
  | updateEdge id labels properties => exact steady_updateEdge id labels properties
  | upsertEdge request => exact steady_upsertEdge gateway request
  | deleteEdge id => exact steady_write_pure _ _
  | nodeLabels =>
    exact .execute_draw (check_of_alike fun h => Answer.texts_of_alike h Column.label)
  | edgeLabels =>
    exact .execute_draw (check_of_alike fun h => Answer.texts_of_alike h Column.relationshipType)
  | clear => exact steady_write_pure _ _

end Operation

/-- The three spellings of an absent value cannot be told apart. Against scripts of sessions that
differ only in how the rows spell what is absent, every operation has the same outcome, leaves the
same ids and runs the same statements; and from such rows the same pieces, neighbourhood rows and
schema are read, or the same error. -/
theorem play_and_decode_of_alike (gateway : Gateway) :
    (∀ {α : Type} (operation : Operation α) (supply : IdSupply) {sessions others : List Session},
      List.Forall₂ Session.Alike sessions others →
        (operation.play gateway supply sessions).result =
            (operation.play gateway supply others).result ∧
          (operation.play gateway supply sessions).log =
            (operation.play gateway supply others).log) ∧
    ∀ {rows others : List Row}, List.Forall₂ Row.Alike rows others →
      (∀ column, Piece.ofRows column rows = Piece.ofRows column others) ∧
        NeighborRow.ofRows rows = NeighborRow.ofRows others ∧
        Schema.ofRows rows = Schema.ofRows others := by
  refine ⟨fun operation supply => ?_, fun h => ⟨?_, ?_, ?_⟩⟩
  · intro sessions others h
    exact (operation.steady_call gateway supply).play h
  · exact Piece.ofRows_of_alike h
  · exact NeighborRow.ofRows_of_alike h
  · exact Schema.ofRows_of_alike h

/-- A list with null items, one of them in a list of its own, beside a field that is null and one
that is missing: the nodes are found in the same way without any of these. -/
theorem play_and_decode_of_alike_null_items :
    let gateway : Gateway := { filters := FilterCompiler.equalities }
    let supply : IdSupply := { id := fun _ => "x" }
    let ann : StoreNode := ⟨⟨"1"⟩, ["Person"], .ofList [("id", .text "a")]⟩
    let bob : StoreNode := ⟨⟨"2"⟩, ["Person"], {}⟩
    let row : Row := ⟨[("m", .datum .null),
      ("n", .list [.null, .node ann, .list [.node bob, .datum .null]])]⟩
    let other : Row := ⟨[("n", .list [.node ann, .list [.node bob], .null])]⟩
    let operation : Operation (List Node) := .nodesLabeled "Person" 5
    row.Alike other ∧
      (operation.play gateway supply [{ rows := [row] }]).result.1 =
        .ok [⟨"a", ["Person"], {}⟩, ⟨"x", ["Person"], {}⟩] ∧
      (operation.play gateway supply [{ rows := [row] }]).result =
        (operation.play gateway supply [{ rows := [other] }]).result ∧
      (operation.play gateway supply [{ rows := [row] }]).log =
        (operation.play gateway supply [{ rows := [other] }]).log ∧
      Piece.ofRows "n" [row] = Piece.ofRows "n" [other] ∧
      NeighborRow.ofRows [row] = NeighborRow.ofRows [other] ∧
      Schema.ofRows [row] = Schema.ofRows [other] := by
  intro gateway supply ann bob row other operation
  have halike : row.Alike other := by
    intro name
    by_cases hname : name = "n"
    · subst hname
      exact .inr ⟨_, _, rfl, rfl, Cell.tidy_eq_iff.mp (by rfl)⟩
    · refine .inl ⟨fun cell hcell => ?_, fun cell hcell => ?_⟩
      · simp only [row, Row.get?, lookupEntry] at hcell
        split at hcell
        next =>
          cases hcell
          rfl
        next =>
          rw [if_neg (Ne.symm hname)] at hcell
          cases hcell
      · simp only [other, Row.get?, lookupEntry, if_neg (Ne.symm hname)] at hcell
        cases hcell
  obtain ⟨hplay, hdecode⟩ := play_and_decode_of_alike gateway
  obtain ⟨hpieces, hneighbors, hschema⟩ := hdecode (.cons halike .nil)
  have hsession : Session.Alike { rows := [row] } { rows := [other] } :=
    ⟨.cons halike .nil, rfl, rfl⟩
  obtain ⟨hresult, hlog⟩ := hplay operation supply (.cons hsession .nil)
  exact ⟨halike, by rfl, hresult, hlog, hpieces "n", hneighbors, hschema⟩

end GraphGateway
