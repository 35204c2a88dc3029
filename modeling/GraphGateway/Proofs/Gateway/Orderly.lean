import GraphGateway.Gateway.Graphs
import GraphGateway.Proofs.Dialogue.Runs
import GraphGateway.Proofs.Gateway.Parts
import GraphGateway.Proofs.Statement.Changing

/-!
# Operations use sessions in order

Whatever an operation is, whatever it is called with and whatever the sessions answer: it asks in
write mode exactly the statements that change the store, and it ends with the first failure of a
session. Both are kept when calls are put together, so it is enough to look at single questions.
-/

namespace GraphGateway

/-- Exchanges in order, for the outcome they lead to: the access fits the statement, and a session
that fails is the last one and its failure is the outcome. -/
structure InOrder {α : Type} (filters : FilterCompiler) (exchanges : List Exchange)
    (outcome : Except Error α) : Prop where
  access : ∀ exchange ∈ exchanges,
    exchange.access = .write ↔ Statement.Changing filters exchange.statement
  failure : ∀ i exchange message, exchanges[i]? = some exchange →
    exchange.session.failure? = some message →
      i + 1 = exchanges.length ∧ outcome = .error (.store message)

namespace Call

variable {α β : Type} {filters : FilterCompiler}

/-- A call all of whose runs take exchanges in order. -/
def Orderly (filters : FilterCompiler) (call : Call α) : Prop :=
  ∀ ⦃supply exchanges outcome rest⦄, call.Runs supply exchanges outcome rest →
    InOrder filters exchanges outcome

namespace Orderly

/-- What asks nothing is in order. -/
theorem of_silent {call : Call α} (hcall : call.Silent) : Orderly filters call := by
  intro supply exchanges outcome rest h
  rw [hcall h]
  exact ⟨nofun, nofun⟩

/-- A value alone is in order. -/
protected theorem pure (value : α) : Orderly filters (pure value) := of_silent (.pure value)

/-- An error of the call's own is in order. -/
protected theorem throw (error : Error) : Orderly filters (throw error : Call α) :=
  of_silent (.throw error)

/-- A computation that draws on the supply is in order. -/
protected theorem draw (compute : IdSupply → Except Error α × IdSupply) :
    Orderly filters (draw compute) :=
  of_silent (.draw compute)

/-- A single statement is in order if the access fits it. -/
protected theorem execute {access : Access} {statement : Statement}
    (haccess : access = .write ↔ Statement.Changing filters statement) :
    Orderly filters (execute access statement) := by
  intro supply exchanges outcome rest h
  obtain ⟨session, rfl, rfl, -⟩ := runs_execute_iff.mp h
  refine ⟨?_, ?_⟩
  · intro exchange hexchange
    cases List.mem_singleton.mp hexchange
    exact haccess
  · intro i exchange message hexchange hfailure
    cases i with
    | succ i => cases hexchange
    | zero =>
      cases hexchange
      rw [Session.answer, hfailure]
      exact ⟨rfl, rfl⟩

/-- A statement that only asks is asked in read mode. -/
protected theorem read {statement : Statement} (h : Statement.Asking filters statement) :
    Orderly filters (read statement) :=
  .execute ⟨nofun, fun hchanging => absurd hchanging h.not_changing⟩

/-- A statement that changes the store is asked in write mode. -/
protected theorem write {statement : Statement} (h : Statement.Changing filters statement) :
    Orderly filters (write statement) :=
  .execute ⟨fun _ => h, fun _ => rfl⟩

/-- Calls in order can be put one behind the other. -/
protected theorem bind {call : Call α} {continuation : α → Call β} (hcall : Orderly filters call)
    (hcontinuation : ∀ value, Orderly filters (continuation value)) :
    Orderly filters (call >>= continuation) := by
  intro supply exchanges outcome rest h
  obtain ⟨error, hfirst, rfl⟩ | ⟨value, middle, first, second, rfl, hfirst, hsecond⟩ :=
    runs_bind_iff.mp h
  · obtain ⟨haccess, hfailure⟩ := hcall hfirst
    refine ⟨haccess, fun i exchange message hexchange hmessage => ?_⟩
    obtain ⟨hlast, herror⟩ := hfailure i exchange message hexchange hmessage
    cases herror
    exact ⟨hlast, rfl⟩
  · obtain ⟨haccess, hfailure⟩ := hcall hfirst
    obtain ⟨haccess', hfailure'⟩ := hcontinuation value hsecond
    refine ⟨fun exchange hexchange => ?_, fun i exchange message hexchange hmessage => ?_⟩
    · exact (List.mem_append.mp hexchange).elim (haccess exchange) (haccess' exchange)
    · rw [List.getElem?_append] at hexchange
      split at hexchange
      next =>
        -- The first call has a value, so none of its sessions has failed.
        cases (hfailure i exchange message hexchange hmessage).2
      next hbehind =>
        obtain ⟨hlast, herror⟩ := hfailure' _ exchange message hexchange hmessage
        refine ⟨?_, herror⟩
        rw [List.length_append]
        omega

/-- What follows a check may rely on it. -/
protected theorem check_bind {checked : Except Error α} {continuation : α → Call β}
    (hcontinuation : ∀ value, checked = .ok value → Orderly filters (continuation value)) :
    Orderly filters (check checked >>= continuation) := by
  intro supply exchanges outcome rest h
  obtain ⟨error, hfirst, rfl⟩ | ⟨value, middle, first, second, rfl, hfirst, hsecond⟩ :=
    runs_bind_iff.mp h
  · obtain ⟨rfl, -, -⟩ := runs_check_iff.mp hfirst
    exact ⟨nofun, nofun⟩
  · obtain ⟨rfl, hvalue, rfl⟩ := runs_check_iff.mp hfirst
    exact hcontinuation value hvalue.symm hsecond

end Orderly

end Call

namespace Gateway

open Call

variable {filters : FilterCompiler}

/-- Choosing an id asks nothing. -/
theorem silent_chooseId (id? : Option String) : Silent (chooseId id?) := by
  unfold chooseId
  split
  next => exact .pure _
  next => exact .mint

end Gateway

/-- The operations of a gateway with their arguments, by the type of their results. -/
inductive Operation : Type → Type where
  | pathGraph (tokens : List String) (limit? : Option Int64) : Operation Graph
  | neighborhood (id : String) (limit : Int64) : Operation Graph
  | schema : Operation Graph
  | hasNode (id : String) : Operation Bool
  | node? (id : String) : Operation (Option Node)
  | nodeMatching? (filter : Json) : Operation (Option Node)
  | nodesMatching (filter : Json) (amount? : Option Int64) : Operation (List Node)
  | nodesLabeled (label : String) (amount : Int64) : Operation (List Node)
  | propertyNamesLabeled (label : String) (amount : Int64) : Operation (List String)
  | searchNodes (term : String) (fields : List String) (label? : Option String)
      (amount : Int64) : Operation (List Node)
  | countNodes (filter : Json) : Operation Int64
  | createNode (request : NodeRequest) : Operation Node
  | createNodes (requests : List NodeRequest) : Operation (List Node)
  | updateNode (request : NodeRequest) : Operation Node
  | upsertNode (request : NodeRequest) : Operation Node
  | deleteNode (id : String) : Operation Unit
  | deleteNodesMatching (filter : Json) : Operation Unit
  | hasEdge (id : String) : Operation Bool
  | edge? (id : String) : Operation (Option Edge)
  | edgeBetween? (source target : String) (type? : Option String) : Operation (Option Edge)
  | edgesLabeled (type : String) (amount : Int64) : Operation (List Edge)
  | edgesMatching (filter : Json) (amount? : Option Int64) : Operation (List Edge)
  | countEdges (filter : Json) : Operation Int64
  | createEdge (request : EdgeRequest) : Operation Edge
  | updateEdge (id : String) (labels : List String) (properties : Properties) : Operation Edge
  | upsertEdge (request : EdgeRequest) : Operation Edge
  | deleteEdge (id : String) : Operation Unit
  | nodeLabels : Operation (List String)
  | edgeLabels : Operation (List String)
  | clear : Operation Unit

namespace Operation

/-- The call of an operation of a gateway. -/
def call (gateway : Gateway) {α : Type} : Operation α → Call α
  | pathGraph tokens limit? => gateway.pathGraph tokens limit?
  | neighborhood id limit => Gateway.neighborhood id limit
  | schema => Gateway.schema
  | hasNode id => Gateway.hasNode id
  | node? id => Gateway.node? id
  | nodeMatching? filter => gateway.nodeMatching? filter
  | nodesMatching filter amount? => gateway.nodesMatching filter amount?
  | nodesLabeled label amount => Gateway.nodesLabeled label amount
  | propertyNamesLabeled label amount => Gateway.propertyNamesLabeled label amount
  | searchNodes term fields label? amount => Gateway.searchNodes term fields label? amount
  | countNodes filter => gateway.countNodes filter
  | createNode request => gateway.createNode request
  | createNodes requests => gateway.createNodes requests
  | updateNode request => Gateway.updateNode request
  | upsertNode request => gateway.upsertNode request
  | deleteNode id => Gateway.deleteNode id
  | deleteNodesMatching filter => gateway.deleteNodesMatching filter
  | hasEdge id => Gateway.hasEdge id
  | edge? id => Gateway.edge? id
  | edgeBetween? source target type? => Gateway.edgeBetween? source target type?
  | edgesLabeled type amount => Gateway.edgesLabeled type amount
  | edgesMatching filter amount? => gateway.edgesMatching filter amount?
  | countEdges filter => gateway.countEdges filter
  | createEdge request => gateway.createEdge request
  | updateEdge id labels properties => Gateway.updateEdge id labels properties
  | upsertEdge request => gateway.upsertEdge request
  | deleteEdge id => Gateway.deleteEdge id
  | nodeLabels => Gateway.nodeLabels
  | edgeLabels => Gateway.edgeLabels
  | clear => Gateway.clear

/-- How an operation of a gateway goes with a supply of ids and a script of sessions. -/
def play (gateway : Gateway) {α : Type} (operation : Operation α) (supply : IdSupply)
    (sessions : List Session) : Played (Except Error α × IdSupply) :=
  ((operation.call gateway).start supply).play sessions

/-- An operation goes in a certain way: through exchanges with the sessions of the script, with its
outcome and what is left of the supply. -/
def Goes (gateway : Gateway) {α : Type} (operation : Operation α) (supply : IdSupply)
    (sessions : List Session) (how : List Exchange → Except Error α → IdSupply → Prop) : Prop :=
  ∃ exchanges, (operation.play gateway supply sessions).Shows sessions exchanges ∧
    how exchanges (operation.play gateway supply sessions).result.1
      (operation.play gateway supply sessions).result.2

/-- An operation goes as the runs of its call do. -/
theorem goes_of_runs {gateway : Gateway} {α : Type} {operation : Operation α} {supply : IdSupply}
    {how : List Exchange → Except Error α → IdSupply → Prop}
    (h : ∀ {exchanges outcome rest}, (operation.call gateway).Runs supply exchanges outcome rest →
      how exchanges outcome rest) (sessions : List Session) :
    operation.Goes gateway supply sessions how := by
  obtain ⟨exchanges, htakes, hshows⟩ :=
    ((operation.call gateway).start supply).exists_takes_play sessions
  exact ⟨exchanges, hshows, h htakes⟩

end Operation

end GraphGateway
