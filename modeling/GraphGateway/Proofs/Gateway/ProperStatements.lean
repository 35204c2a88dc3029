import GraphGateway.Proofs.Dialogue.Conditions
import GraphGateway.Proofs.Gateway.Labels
import GraphGateway.Proofs.Gateway.Orderly
import GraphGateway.Proofs.Statement.Proper

/-!
# Operations run proper statements only

Labels and limits come from the arguments of an operation, from its settings and from the tokens of
a pattern, and each is checked on a path of its own before a statement is made of it. Whatever they
are, no statement that is run has a blank or padded label or a limit that lets nothing through, and
an operation whose limit lets nothing through runs no statement at all.
-/

namespace GraphGateway

/-- The errors by which the arguments of a call are refused. -/
inductive Error.OfInput : Error → Prop where
  | emptyPattern : OfInput .emptyPattern
  | unsupportedPattern (fault : PatternFault) : OfInput (.unsupportedPattern fault)
  | invalidInput (fault : InputFault) : OfInput (.invalidInput fault)

/-!
## Limits that let nothing through
-/

/-- A token of a pattern is refused as input. -/
theorem Selector.failsOnly_parse (token : String) : FailsOnly Error.OfInput (parse token) := by
  unfold parse
  dsimp only
  split
  next => exact .error .emptyPattern
  next =>
    split
    next => exact .ok _
    next => exact .ok _

/-- Tokens without a pattern are refused as input. -/
theorem Pattern.failsOnly_parse (tokens : List String) :
    FailsOnly Error.OfInput (parse tokens) := by
  refine .bind (.mapM Selector.failsOnly_parse tokens) fun selectors => ?_
  split
  next => exact .error .emptyPattern
  next =>
    split
    next => exact .ok _
    next => exact .error (.unsupportedPattern _)

/-- A pattern without a query is refused as input. -/
theorem Pattern.failsOnly_compile (pattern : Pattern) (limit : Int64) :
    FailsOnly Error.OfInput (pattern.compile limit) := by
  unfold compile
  split
  next => exact .error (.unsupportedPattern _)
  next => exact .ok _
  next => exact .ok _

/-- Tokens without a query are refused as input. -/
theorem PathQuery.failsOnly_ofTokens (tokens : List String) (limit : Int64) :
    FailsOnly Error.OfInput (ofTokens tokens limit) :=
  .bind (Pattern.failsOnly_parse tokens) fun pattern => pattern.failsOnly_compile limit

namespace Call

variable {α β : Type} {empty : α}

/-- A call that neither asks anything nor draws an id, and ends with a known value or is refused for
its input. -/
def Idle (empty : α) (call : Call α) : Prop :=
  ∀ ⦃supply exchanges outcome rest⦄, call.Runs supply exchanges outcome rest →
    exchanges = [] ∧ rest = supply ∧
      (outcome = .ok empty ∨ ∃ error, outcome = .error error ∧ error.OfInput)

/-- A value alone is idle. -/
theorem Idle.pure (empty : α) : Idle empty (pure empty) := by
  intro supply exchanges outcome rest h
  obtain ⟨rfl, rfl, rfl⟩ := runs_pure_iff.mp h
  exact ⟨rfl, rfl, .inl rfl⟩

/-- A check of the input may stand before. -/
theorem Idle.check_bind {checked : Except Error β} {continuation : β → Call α}
    (hchecked : FailsOnly Error.OfInput checked)
    (hcontinuation : ∀ value, checked = .ok value → Idle empty (continuation value)) :
    Idle empty (check checked >>= continuation) := by
  intro supply exchanges outcome rest h
  obtain ⟨error, hfirst, rfl⟩ | ⟨value, middle, first, second, rfl, hfirst, hsecond⟩ :=
    runs_bind_iff.mp h
  · obtain ⟨rfl, herror, rfl⟩ := runs_check_iff.mp hfirst
    exact ⟨rfl, rfl, .inr ⟨error, rfl, hchecked error herror.symm⟩⟩
  · obtain ⟨rfl, hvalue, rfl⟩ := runs_check_iff.mp hfirst
    exact hcontinuation value hvalue.symm hsecond

/-- Input that is refused leaves nothing else to do. -/
theorem Idle.refused {error : Error} (herror : error.OfInput) (continuation : β → Call α) :
    Idle empty (check (.error error) >>= continuation) :=
  .check_bind (.error herror) nofun

end Call

namespace Operation

/-- The limit that counts for an operation that has one, with the result where nothing is let
through. -/
def limit? (gateway : Gateway) {α : Type} : Operation α → Option (Int64 × α)
  | pathGraph _ limit? => some (limit?.getD gateway.settings.defaultLimit, {})
  | neighborhood _ limit => some (limit, {})
  | nodesMatching _ amount? => some (amount?.getD gateway.settings.defaultLimit, [])
  | nodesLabeled _ amount => some (amount, [])
  | propertyNamesLabeled _ amount => some (amount, [])
  | searchNodes _ _ _ amount => some (amount, [])
  | edgesLabeled _ amount => some (amount, [])
  | edgesMatching _ amount? => some (amount?.getD gateway.settings.defaultLimit, [])
  | _ => none

/-- An operation whose limit lets nothing through is idle. -/
theorem idle_call {gateway : Gateway} {α : Type} {operation : Operation α} {limit : Int64}
    {empty : α} (hlimit : operation.limit? gateway = some (limit, empty)) (h : limit ≤ 0) :
    Call.Idle empty (operation.call gateway) := by
  cases operation <;> cases hlimit
  case pathGraph tokens limit? =>
    -- The tokens are read before the limit is looked at, so they may be refused instead.
    refine .check_bind (PathQuery.failsOnly_ofTokens tokens _) fun query hquery => ?_
    obtain ⟨pattern, -, hcompile⟩ := bind_eq_ok_iff.mp hquery
    have hexhausted : query.isExhausted = true := by
      rw [PathQuery.isExhausted, Pattern.limit_of_compile hcompile]
      exact decide_eq_true h
    rw [if_pos hexhausted]
    exact .pure _
  case neighborhood =>
    rw [call, Gateway.neighborhood, if_pos h]
    exact .pure _
  case nodesMatching =>
    rw [call, Gateway.nodesMatching, NodeStatement.matching, if_pos h]
    exact .refused (.invalidInput _) _
  case nodesLabeled =>
    rw [call, Gateway.nodesLabeled, if_pos h]
    exact .pure _
  case propertyNamesLabeled =>
    rw [call, Gateway.propertyNamesLabeled, if_pos h]
    exact .pure _
  case searchNodes =>
    rw [call, Gateway.searchNodes, if_pos (by simp [h])]
    exact .pure _
  case edgesLabeled =>
    rw [call, Gateway.edgesLabeled, if_pos h]
    exact .pure _
  case edgesMatching =>
    rw [call, Gateway.edgesMatching, EdgeStatement.matching, if_pos h]
    exact .refused (.invalidInput _) _

end Operation

/-!
## Statements of the operations
-/

namespace Call

/-- A call that asks proper statements only. -/
def AsksProper {α : Type} (filters : FilterCompiler) (call : Call α) : Prop :=
  Asks (fun exchange => Statement.Proper filters exchange.statement) call

/-- A proper statement may be asked. -/
theorem asksProper_execute {filters : FilterCompiler} {access : Access} {statement : Statement}
    (h : Statement.Proper filters statement) : AsksProper filters (execute access statement) :=
  .execute fun _ => h

end Call

namespace Gateway

open Call

variable {filters : FilterCompiler}

/-- Asking for a node's id is proper. -/
theorem asksProper_hasNode (id : String) : AsksProper filters (hasNode id) :=
  .bind (asksProper_execute (.nodePresence id)) fun _ => .bind (.draw _) fun _ => .pure _

/-- Asking for an edge's id is proper. -/
theorem asksProper_hasEdge (id : String) : AsksProper filters (hasEdge id) :=
  .bind (asksProper_execute (.edgePresence id)) fun _ => .bind (.draw _) fun _ => .pure _

/-- Creating a node is proper: its labels are checked, or the configured one is. -/
theorem asksProper_createNode (gateway : Gateway) (request : NodeRequest) :
    AsksProper filters (createNode gateway request) := by
  rw [createNode_eq]
  refine .bind (.of_silent (silent_chooseId _)) fun id =>
    .bind (asksProper_hasNode id) fun present => ?_
  split
  next => exact .throw _
  next =>
    exact .check_bind fun labels hlabels =>
      .bind (asksProper_execute (.createNode (properLabel_labelsOfNew hlabels) _)) fun _ => .pure _

/-- Creating nodes one after the other is proper. -/
theorem asksProper_createNodes (gateway : Gateway) (requests : List NodeRequest) :
    AsksProper filters (createNodes gateway requests) := by
  induction requests with
  | nil => exact .pure _
  | cons request requests ih =>
    exact .bind (asksProper_createNode gateway request) fun _ => .bind ih fun _ => .pure _

/-- Changing a node is proper: its labels are checked. -/
theorem asksProper_updateNode (request : NodeRequest) :
    AsksProper filters (updateNode request) := by
  rw [updateNode_eq]
  split
  next => exact .throw _
  next id _ =>
    refine .bind (asksProper_hasNode id) fun present => ?_
    split
    next => exact .throw _
    next =>
      refine .check_bind fun labels hlabels =>
        .bind (asksProper_execute (.updateNode id (.of_mapM_checkLabel hlabels) _)) fun rows =>
          .bind (.draw _) fun nodes => ?_
      split
      next => exact .pure _
      next => exact .throw _

/-- Changing a node or creating it is proper. -/
theorem asksProper_upsertNode (gateway : Gateway) (request : NodeRequest) :
    AsksProper filters (upsertNode gateway request) := by
  rw [upsertNode_eq]
  split
  next => exact asksProper_createNode gateway request
  next id _ =>
    refine .bind (asksProper_hasNode id) fun present => ?_
    split
    next => exact asksProper_updateNode request
    next => exact asksProper_createNode gateway request

/-- Creating an edge is proper: its type is checked, or the configured one is. -/
theorem asksProper_createEdge (gateway : Gateway) (request : EdgeRequest) :
    AsksProper filters (createEdge gateway request) := by
  rw [createEdge_eq]
  refine .check_bind fun type htype => .bind (.of_silent (silent_chooseId _)) fun id =>
    .bind (asksProper_hasEdge id) fun present => ?_
  split
  next => exact .throw _
  next =>
    refine .bind (asksProper_execute
      (.createEdge _ _ (properLabel_typeOfNew htype) _)) fun rows => ?_
    split
    next => exact .throw _
    next => exact .pure _

/-- Changing an edge is proper: its type is checked, if there is one. -/
theorem asksProper_updateEdge (id : String) (labels : List String) (properties : Properties) :
    AsksProper filters (updateEdge id labels properties) := by
  rw [updateEdge_eq]
  split
  next => exact .throw _
  next =>
    refine .check_bind fun type? htype => .bind (asksProper_hasEdge id) fun present => ?_
    split
    next => exact .throw _
    next =>
      refine .bind (asksProper_execute (.updateEdge id (.of_checkType htype) _)) fun rows =>
        .bind (.draw _) fun edges => ?_
      split
      next => exact .pure _
      next => exact .throw _

/-- Changing an edge or creating it is proper. -/
theorem asksProper_upsertEdge (gateway : Gateway) (request : EdgeRequest) :
    AsksProper filters (upsertEdge gateway request) := by
  rw [upsertEdge_eq]
  split
  next => exact asksProper_createEdge gateway request
  next id _ =>
    refine .bind (asksProper_hasEdge id) fun present => ?_
    split
    next => exact asksProper_updateEdge id _ _
    next => exact asksProper_createEdge gateway request

end Gateway

namespace Operation

open Call

/-- Every operation asks proper statements only. -/
theorem asksProper_call (gateway : Gateway) {α : Type} (operation : Operation α) :
    AsksProper gateway.filters (operation.call gateway) := by
  cases operation with
  | pathGraph tokens limit? =>
    refine .check_bind fun query hquery => ?_
    split
    next => exact .pure _
    next hlimit =>
      obtain ⟨pattern, -, hcompile⟩ := bind_eq_ok_iff.mp hquery
      rw [PathQuery.isExhausted, Pattern.limit_of_compile hcompile, decide_eq_true_iff,
        Int64.not_le] at hlimit
      exact .bind (asksProper_execute (.of_ofTokens hquery hlimit)) fun _ =>
        .bind (.draw _) fun _ => .draw _
  | neighborhood id limit =>
    rw [call, Gateway.neighborhood]
    split
    next => exact .pure _
    next hlimit =>
      exact .bind (asksProper_execute (.neighborhood id (Int64.not_le.mp hlimit))) fun _ =>
        .bind (.draw _) fun _ => .draw _
  | schema => exact .bind (asksProper_execute .schema) fun _ => .bind (.draw _) fun _ => .draw _
  | hasNode id => exact Gateway.asksProper_hasNode id
  | node? id =>
    exact .bind (asksProper_execute (.nodeById id)) fun _ => .bind (.draw _) fun _ => .pure _
  | nodeMatching? filter =>
    exact .check_bind fun _ h => .bind (asksProper_execute (.firstNode h)) fun _ =>
      .bind (.draw _) fun _ => .pure _
  | nodesMatching filter amount? =>
    refine .check_bind fun statement h => .bind (asksProper_execute ?_) fun _ => .draw _
    exact .nodes (NodeStatement.amount_pos_of_matching h) h
  | nodesLabeled label amount =>
    rw [call, Gateway.nodesLabeled]
    split
    next => exact .pure _
    next hamount =>
      exact .check_bind fun label hlabel => .bind (asksProper_execute
        (.nodesLabeled (.of_checkLabel hlabel) (Int64.not_le.mp hamount))) fun _ => .draw _
  | propertyNamesLabeled label amount =>
    rw [call, Gateway.propertyNamesLabeled]
    split
    next => exact .pure _
    next hamount =>
      exact .check_bind fun label hlabel => .bind (asksProper_execute
        (.nodesLabeled (.of_checkLabel hlabel) (Int64.not_le.mp hamount))) fun _ => .draw _
  | searchNodes term fields label? amount =>
    rw [call, Gateway.searchNodes]
    split
    next => exact .pure _
    next hsearch =>
      have hamount : 0 < amount := by
        rw [Bool.or_eq_true, not_or, decide_eq_true_iff] at hsearch
        exact Int64.not_le.mp hsearch.2
      exact .check_bind fun label? hlabel => .bind (asksProper_execute
        (.nodeSearch term fields (.of_mapM_checkLabel? hlabel) hamount)) fun _ => .draw _
  | countNodes filter =>
    exact .check_bind fun _ h => .bind (asksProper_execute (.nodeCount h)) fun _ => .draw _
  | createNode request => exact Gateway.asksProper_createNode gateway request
  | createNodes requests => exact Gateway.asksProper_createNodes gateway requests
  | updateNode request => exact Gateway.asksProper_updateNode request
  | upsertNode request => exact Gateway.asksProper_upsertNode gateway request
  | deleteNode id => exact .bind (asksProper_execute (.deleteNode id)) fun _ => .pure _
  | deleteNodesMatching filter =>
    exact .check_bind fun _ h => .bind (asksProper_execute (.deleteNodes h)) fun _ => .pure _
  | hasEdge id => exact Gateway.asksProper_hasEdge id
  | edge? id =>
    exact .bind (asksProper_execute (.edgeById id)) fun _ => .bind (.draw _) fun _ => .pure _
  | edgeBetween? source target type? =>
    exact .check_bind fun type? htype => .bind (asksProper_execute
      (.edgeBetween source target (.of_mapM_checkLabel? htype))) fun _ =>
        .bind (.draw _) fun _ => .pure _
  | edgesLabeled type amount =>
    rw [call, Gateway.edgesLabeled]
    split
    next => exact .pure _
    next hamount =>
      exact .check_bind fun type htype => .bind (asksProper_execute
        (.edgesLabeled (.of_checkLabel htype) (Int64.not_le.mp hamount))) fun _ => .draw _
  | edgesMatching filter amount? =>
    refine .check_bind fun statement h => .bind (asksProper_execute ?_) fun _ => .draw _
    exact .edges (EdgeStatement.amount_pos_of_matching h) h
  | countEdges filter =>
    exact .check_bind fun _ h => .bind (asksProper_execute (.edgeCount h)) fun _ => .draw _
  | createEdge request => exact Gateway.asksProper_createEdge gateway request
  | updateEdge id labels properties => exact Gateway.asksProper_updateEdge id labels properties
  | upsertEdge request => exact Gateway.asksProper_upsertEdge gateway request
  | deleteEdge id => exact .bind (asksProper_execute (.deleteEdge id)) fun _ => .pure _
  | nodeLabels => exact .bind (asksProper_execute .nodeLabels) fun _ => .draw _
  | edgeLabels => exact .bind (asksProper_execute .edgeLabels) fun _ => .draw _
  | clear => exact .bind (asksProper_execute .clear) fun _ => .pure _

/-- However an operation goes, with any settings, arguments and sessions: every statement that is
run is proper. Where the limit that counts lets nothing through, no session is acquired and no id is
drawn, and the result is empty or the input is refused. -/
theorem statements_proper (gateway : Gateway) {α : Type} (operation : Operation α)
    (supply : IdSupply) (sessions : List Session) :
    let played := operation.play gateway supply sessions
    (∀ statement, .run statement ∈ played.log → Statement.Proper gateway.filters statement) ∧
    ∀ limit empty, operation.limit? gateway = some (limit, empty) → limit ≤ 0 →
      played.log = [] ∧ played.result.2 = supply ∧
        (played.result.1 = .ok empty ∨
          ∃ error, played.result.1 = .error error ∧ error.OfInput) := by
  intro played
  obtain ⟨exchanges, htakes, hshows⟩ :=
    ((operation.call gateway).start supply).exists_takes_play sessions
  refine ⟨fun statement hrun => ?_, fun limit empty hlimit hnonpositive => ?_⟩
  · obtain ⟨exchange, hexchange, hevent⟩ := hshows.exists_of_mem_log hrun
    obtain rfl := Exchange.statement_of_run_mem hevent
    exact asksProper_call gateway operation htakes exchange hexchange
  · obtain ⟨rfl, hrest, houtcome⟩ := idle_call hlimit hnonpositive htakes
    exact ⟨hshows.log, hrest, houtcome⟩

/-- With a blank label and a limit of zero in the settings: a padded label is run trimmed, and nodes
are not asked for without an amount of their own. -/
theorem statements_proper_blank_settings :
    let gateway : Gateway :=
      { settings := { defaultNodeLabel := " ", defaultLimit := 0 },
        filters := FilterCompiler.equalities }
    let supply : IdSupply := { id := fun _ => "x" }
    let labeled := (nodesLabeled " Person\t" 2).play gateway supply []
    let unlimited := (nodesMatching .null none).play gateway supply []
    let statement := NodeStatement.labeled "Person" 2
    (.run statement ∈ labeled.log ∧ Statement.Proper gateway.filters statement) ∧
      (nodesMatching .null none).limit? gateway = some (0, []) ∧ (0 : Int64) ≤ 0 ∧
      unlimited.log = [] ∧ unlimited.result.2 = supply ∧
      (unlimited.result.1 = .ok [] ∨
        ∃ error, unlimited.result.1 = .error error ∧ error.OfInput) := by
  intro gateway supply labeled unlimited statement
  have hlog : labeled.log = [.acquire .read, .run statement, .close] := rfl
  have hrun : .run statement ∈ labeled.log := by
    rw [hlog]
    exact .tail _ (.head _)
  obtain ⟨hproper, -⟩ := statements_proper gateway (nodesLabeled " Person\t" 2) supply []
  obtain ⟨-, hidle⟩ := statements_proper gateway (nodesMatching .null none) supply []
  exact ⟨⟨hrun, hproper statement hrun⟩, rfl, Int64.le_refl 0, hidle 0 [] rfl (Int64.le_refl 0)⟩

end Operation

end GraphGateway
