import GraphGateway.Proofs.Gateway.Answers
import GraphGateway.Proofs.Gateway.Orderly
import Mathlib.Data.Nat.Basic
import Mathlib.Order.Basic

/-!
# Errors come in time

A call goes through stages: first nothing has been asked, then the store has been read, and then it
may have been changed. Some errors must come before the store is asked anything and others before it
is changed, wherever an operation checks its labels, its filter or an id. What has to be known of a
part is up to which stage it asks, and from which stage on it fails.
-/

namespace GraphGateway

/-- How far a call has got: nothing has been asked yet, or the store has been read, or the store may
have been changed. -/
inductive Stage where
  | outset
  | reading
  | changing
  deriving DecidableEq, Repr

namespace Stage

/-- The place of a stage in their order. -/
def rank : Stage → Nat
  | outset => 0
  | reading => 1
  | changing => 2

instance : Preorder Stage := Preorder.lift rank

/-- Every stage is at or behind the outset. -/
theorem outset_le (stage : Stage) : outset ≤ stage := Nat.zero_le _

/-- At the last stage everything may have been done. -/
theorem le_changing (stage : Stage) : stage ≤ changing := by
  cases stage with
  | outset => exact Nat.zero_le _
  | reading => exact Nat.le_succ _
  | changing => exact Nat.le_refl _

end Stage

/-- The stage that a session brings a call to. -/
def Access.stage : Access → Stage
  | read => .reading
  | write => .changing

/-- The last stage at which an error may come: a pattern or a filter without a statement is refused
at the outset, other input and ids that are taken before anything is changed. -/
def Error.stage : Error → Stage
  | emptyPattern => .outset
  | unsupportedPattern _ => .outset
  | filter _ => .outset
  | invalidInput _ => .reading
  | itemExists _ => .reading
  | identityConflict _ _ _ => .changing
  | danglingEndpoint _ _ => .changing
  | store _ => .changing
  | unexpectedShape _ => .changing
  | itemMissing _ => .changing

/-- An error may come at a stage. -/
def Error.MayComeAt (stage : Stage) (error : Error) : Prop := stage ≤ error.stage

/-- What is wrong with an answer may come at any stage. -/
theorem Error.OfAnswer.mayComeAt {error : Error} (h : error.OfAnswer) (stage : Stage) :
    error.MayComeAt stage := by
  cases h with
  | unexpectedShape fault => exact stage.le_changing
  | identityConflict identity existing attempted => exact stage.le_changing
  | danglingEndpoint relationship endpoint => exact stage.le_changing

namespace Call

variable {α β : Type} {stage later : Stage}

/-- A call that asks up to a stage. -/
def AsksUpTo (stage : Stage) (call : Call α) : Prop :=
  Asks (fun exchange => exchange.access.stage ≤ stage) call

/-- A call that may come behind exchanges up to a stage: its errors may come at that stage, and none
of them comes later than it may. -/
def Behind (stage : Stage) (call : Call α) : Prop :=
  ∀ ⦃supply exchanges error rest⦄, call.Runs supply exchanges (.error error) rest →
    error.MayComeAt stage ∧ ∀ exchange ∈ exchanges, exchange.access.stage ≤ error.stage

namespace Behind

/-- What may come behind a stage may come behind an earlier one. -/
protected theorem mono {call : Call α} (hcall : Behind later call) (h : stage ≤ later) :
    Behind stage call := by
  intro supply exchanges error rest hruns
  obtain ⟨herror, hexchanges⟩ := hcall hruns
  exact ⟨h.trans herror, hexchanges⟩

/-- The errors of such a call may come at the stage. -/
theorem fails {call : Call α} (hcall : Behind stage call) :
    Fails (Error.MayComeAt stage) call := by
  rintro supply exchanges outcome rest hruns error rfl
  exact (hcall hruns).1

/-- What asks nothing may come wherever its errors may. -/
theorem of_silent {call : Call α} (hsilent : call.Silent)
    (hfails : Fails (Error.MayComeAt stage) call) : Behind stage call := by
  intro supply exchanges error rest hruns
  rw [hsilent hruns]
  exact ⟨hfails hruns error rfl, List.forall_mem_nil _⟩

/-- A value alone may come anywhere. -/
protected theorem pure (value : α) : Behind stage (pure value) :=
  of_silent (.pure value) (.pure value)

/-- An error of the call's own may come up to its stage. -/
protected theorem throw {error : Error} (h : stage ≤ error.stage) :
    Behind stage (throw error : Call α) :=
  of_silent (.throw error) (.throw h)

/-- Rows may be read at any stage. -/
protected theorem answer {read : IdSupply → Except Error α × IdSupply}
    (h : ∀ supply, FailsOnly Error.OfAnswer (read supply).1) : Behind stage (draw read) :=
  of_silent (.draw read)
    (.draw fun supply => (h supply).mono fun _ herror => herror.mayComeAt stage)

/-- A statement may be asked at any stage. -/
protected theorem execute (access : Access) (statement : Statement) :
    Behind stage (execute access statement) := by
  intro supply exchanges error rest hruns
  obtain ⟨session, rfl, houtcome, -⟩ := runs_execute_iff.mp hruns
  -- Nothing but the store's own message comes out of a statement, and that may come last.
  have hstage : error.stage = .changing := by
    cases hanswer : session.answer with
    | error message =>
      rw [hanswer] at houtcome
      cases houtcome
      rfl
    | ok rows =>
      rw [hanswer] at houtcome
      cases houtcome
  rw [Error.MayComeAt, hstage]
  exact ⟨stage.le_changing, fun exchange _ => exchange.access.stage.le_changing⟩

/-- A part that asks up to a stage is followed by what may come behind that stage. -/
protected theorem bind {call : Call α} {continuation : α → Call β} (hcall : Behind stage call)
    (hasks : AsksUpTo later call) (hlater : stage ≤ later)
    (hcontinuation : ∀ value, Behind later (continuation value)) :
    Behind stage (call >>= continuation) := by
  intro supply exchanges error rest h
  obtain ⟨_, hfirst, ⟨⟩⟩ | ⟨value, middle, first, second, rfl, hfirst, hsecond⟩ :=
    runs_bind_iff.mp h
  · exact hcall hfirst
  · obtain ⟨herror, hexchanges⟩ := hcontinuation value hsecond
    refine ⟨hlater.trans herror, List.forall_mem_append.mpr ⟨fun exchange hexchange => ?_,
      hexchanges⟩⟩
    exact (hasks hfirst exchange hexchange).trans herror

/-- A part that asks nothing leaves the stage as it is. -/
theorem silent_bind {call : Call α} {continuation : α → Call β} (hsilent : call.Silent)
    (hfails : Fails (Error.MayComeAt stage) call)
    (hcontinuation : ∀ value, Behind stage (continuation value)) :
    Behind stage (call >>= continuation) :=
  .bind (of_silent hsilent hfails) (.of_silent hsilent) le_rfl hcontinuation

/-- A check may come wherever its errors may. -/
theorem check_bind {checked : Except Error α} {continuation : α → Call β}
    (hchecked : FailsOnly (Error.MayComeAt stage) checked)
    (hcontinuation : ∀ value, Behind stage (continuation value)) :
    Behind stage (check checked >>= continuation) :=
  silent_bind (.draw _) (.draw fun _ => hchecked) hcontinuation

/-- At the outset anything may be checked. -/
theorem outset_check_bind {checked : Except Error α} {continuation : α → Call β}
    (hcontinuation : ∀ value, Behind .outset (continuation value)) :
    Behind .outset (check checked >>= continuation) :=
  check_bind (fun error _ => error.stage.outset_le) hcontinuation

/-- What follows the reading of an answer leaves the stage as it is. -/
theorem answer_bind {read : IdSupply → Except Error α × IdSupply} {continuation : α → Call β}
    (hread : ∀ supply, FailsOnly Error.OfAnswer (read supply).1)
    (hcontinuation : ∀ value, Behind stage (continuation value)) :
    Behind stage (draw read >>= continuation) :=
  silent_bind (.draw read)
    (.draw fun supply => (hread supply).mono fun _ herror => herror.mayComeAt stage) hcontinuation

/-- Behind a statement that is asked, the stage is that of its access. -/
theorem execute_bind {access : Access} {statement : Statement} {continuation : List Row → Call β}
    (hstage : stage ≤ access.stage)
    (hcontinuation : ∀ rows, Behind access.stage (continuation rows)) :
    Behind stage (execute access statement >>= continuation) :=
  .bind (.execute access statement) (.execute fun _ => le_rfl) hstage hcontinuation

/-- Behind a statement that reads, what reads its answer may come. -/
theorem outset_read_bind {statement : Statement} {continuation : List Row → Call β}
    (hcontinuation : ∀ rows, Behind .reading (continuation rows)) :
    Behind .outset (read statement >>= continuation) :=
  execute_bind (Stage.outset_le _) hcontinuation

/-- Behind a statement that changes the store, only such errors may come as may come last. -/
theorem write_bind {statement : Statement} {continuation : List Row → Call β}
    (hcontinuation : ∀ rows, Behind .changing (continuation rows)) :
    Behind stage (write statement >>= continuation) :=
  execute_bind stage.le_changing hcontinuation

end Behind

end Call

/-!
## Checks of labels
-/

/-- A blank label is refused before anything is changed. -/
theorem failsOnly_checkLabel (label : String) :
    FailsOnly (Error.MayComeAt .reading) (checkLabel label) := by
  unfold checkLabel
  dsimp only
  split
  next => exact .error (le_refl Stage.reading)
  next => exact .ok _

/-- A type of an edge is refused before anything is changed. -/
theorem failsOnly_checkType (labels : List String) :
    FailsOnly (Error.MayComeAt .reading) (checkType labels) := by
  unfold checkType
  split
  next => exact .ok _
  next label => exact .map (failsOnly_checkLabel label) some
  next => exact .error (le_refl Stage.reading)

namespace Gateway

open Call

/-- The type of a new edge is refused before anything is changed. -/
theorem failsOnly_typeOfNew (gateway : Gateway) (labels : List String) :
    FailsOnly (Error.MayComeAt .reading) (typeOfNew gateway labels) := by
  refine .bind (failsOnly_checkType labels) fun type? => ?_
  split
  next => exact .ok _
  next => exact failsOnly_checkLabel _

/-- The labels of a new node are refused before anything is changed. -/
theorem failsOnly_labelsOfNew (gateway : Gateway) (labels : List String) :
    FailsOnly (Error.MayComeAt .reading) (labelsOfNew gateway labels) := by
  unfold labelsOfNew
  split
  next => exact .map (failsOnly_checkLabel _) _
  next => exact .mapM failsOnly_checkLabel labels

/-!
## Operations that store elements
-/

variable {stage : Stage}

/-- Choosing an id is no error. -/
theorem fails_chooseId (id? : Option String) :
    Fails (Error.MayComeAt stage) (chooseId id?) := by
  unfold chooseId
  split
  next => exact .pure _
  next => exact .mint

/-- Elements may be counted before anything is changed. -/
theorem behind_presence {statement : Statement} :
    Behind .reading (read statement >>= fun rows =>
      check (Answer.count rows) >>= fun count => (pure (count > 0 : Bool) : Call Bool)) :=
  .execute_bind le_rfl fun rows =>
    .answer_bind (fun _ => Answer.failsOnly_count rows) fun _ => .pure _

/-- An id may be asked for before anything is changed. -/
theorem behind_presence_bind {β : Type} {statement : Statement} {continuation : Bool → Call β}
    (hcontinuation : ∀ present, Behind .reading (continuation present)) :
    Behind .reading ((read statement >>= fun rows =>
      check (Answer.count rows) >>= fun count => (pure (count > 0 : Bool) : Call Bool)) >>=
        continuation) := by
  refine .bind behind_presence ?_ le_rfl hcontinuation
  exact .bind (.execute fun _ => le_rfl) fun _ => .bind (.draw _) fun _ => .pure _

/-- A node is refused before it is created: its id is taken, or its labels are blank. -/
theorem behind_createNode (gateway : Gateway) (request : NodeRequest) :
    Behind .reading (createNode gateway request) := by
  rw [createNode_eq]
  refine .silent_bind (silent_chooseId _) (fails_chooseId _) fun id =>
    behind_presence_bind fun present => ?_
  split
  next => exact .throw (le_refl Stage.reading)
  next =>
    exact .check_bind (failsOnly_labelsOfNew gateway _) fun labels => .write_bind fun _ => .pure _

/-- A node is refused before it is changed. -/
theorem behind_updateNode (request : NodeRequest) : Behind .reading (updateNode request) := by
  rw [updateNode_eq]
  split
  next => exact .throw (le_refl Stage.reading)
  next id _ =>
    refine behind_presence_bind fun present => ?_
    split
    next => exact .throw (Stage.le_changing _)
    next =>
      refine .check_bind (.mapM failsOnly_checkLabel _) fun labels => .write_bind fun rows =>
        .answer_bind (fun supply => Answer.failsOnly_nodes supply rows) fun nodes => ?_
      split
      next => exact .pure _
      next => exact .throw (le_refl Stage.changing)

/-- A node is refused before it is changed or created. -/
theorem behind_upsertNode (gateway : Gateway) (request : NodeRequest) :
    Behind .reading (upsertNode gateway request) := by
  rw [upsertNode_eq]
  split
  next => exact behind_createNode gateway request
  next id _ =>
    refine behind_presence_bind fun present => ?_
    split
    next => exact behind_updateNode request
    next => exact behind_createNode gateway request

/-- An edge is refused before it is created: its id is taken, or its type is blank. -/
theorem behind_createEdge (gateway : Gateway) (request : EdgeRequest) :
    Behind .reading (createEdge gateway request) := by
  rw [createEdge_eq]
  refine .check_bind (failsOnly_typeOfNew gateway _) fun type =>
    .silent_bind (silent_chooseId _) (fails_chooseId _) fun id =>
      behind_presence_bind fun present => ?_
  split
  next => exact .throw (le_refl Stage.reading)
  next =>
    refine .write_bind fun rows => ?_
    split
    next => exact .throw (le_refl Stage.changing)
    next => exact .pure _

/-- An edge is refused before it is changed. -/
theorem behind_updateEdge (id : String) (labels : List String) (properties : Properties) :
    Behind .reading (updateEdge id labels properties) := by
  rw [updateEdge_eq]
  split
  next => exact .throw (le_refl Stage.reading)
  next =>
    refine .check_bind (failsOnly_checkType labels) fun type? =>
      behind_presence_bind fun present => ?_
    split
    next => exact .throw (Stage.le_changing _)
    next =>
      refine .write_bind fun rows =>
        .answer_bind (fun supply => Answer.failsOnly_edges supply rows) fun edges => ?_
      split
      next => exact .pure _
      next => exact .throw (le_refl Stage.changing)

/-- An edge is refused before it is changed or created. -/
theorem behind_upsertEdge (gateway : Gateway) (request : EdgeRequest) :
    Behind .reading (upsertEdge gateway request) := by
  rw [upsertEdge_eq]
  split
  next => exact behind_createEdge gateway request
  next id _ =>
    refine behind_presence_bind fun present => ?_
    split
    next => exact behind_updateEdge id _ _
    next => exact behind_createEdge gateway request

end Gateway

namespace Operation

open Call

/-- Whether an operation stores one element after the other. -/
def isBatch {α : Type} : Operation α → Bool
  | createNodes _ => true
  | _ => false

/-- The errors of every operation that is no batch come in time. -/
theorem behind_call (gateway : Gateway) {α : Type} (operation : Operation α)
    (hsingle : operation.isBatch = false) : Behind .outset (operation.call gateway) := by
  have hle : Stage.outset ≤ Stage.reading := Stage.outset_le _
  cases operation with
  | pathGraph tokens limit? =>
    refine .outset_check_bind fun query => ?_
    split
    next => exact .pure _
    next =>
      exact .outset_read_bind fun rows =>
        .answer_bind (fun _ => Piece.failsOnly_ofRows _ rows) fun pieces =>
          .answer fun supply => Graph.failsOnly_ofPieces supply pieces
  | neighborhood id limit =>
    rw [call, Gateway.neighborhood]
    split
    next => exact .pure _
    next =>
      exact .outset_read_bind fun rows =>
        .answer_bind (fun _ => NeighborRow.failsOnly_ofRows rows) fun neighborRows =>
          .answer fun supply => Graph.failsOnly_ofNeighborhood supply id neighborRows limit
  | schema =>
    exact .outset_read_bind fun rows =>
      .answer_bind (fun _ => Schema.failsOnly_ofRows rows) fun schema =>
        .answer fun supply => Graph.failsOnly_ofSchema supply schema
  | hasNode id => exact Gateway.behind_presence.mono hle
  | node? id =>
    exact .outset_read_bind fun rows =>
      .answer_bind (fun supply => Answer.failsOnly_nodes supply rows) fun _ => .pure _
  | nodeMatching? filter =>
    exact .outset_check_bind fun _ => .outset_read_bind fun rows =>
      .answer_bind (fun supply => Answer.failsOnly_nodes supply rows) fun _ => .pure _
  | nodesMatching filter amount? =>
    exact .outset_check_bind fun _ => .outset_read_bind fun rows =>
      .answer fun supply => Answer.failsOnly_nodes supply rows
  | nodesLabeled label amount =>
    rw [call, Gateway.nodesLabeled]
    split
    next => exact .pure _
    next =>
      exact .outset_check_bind fun _ => .outset_read_bind fun rows =>
        .answer fun supply => Answer.failsOnly_nodes supply rows
  | propertyNamesLabeled label amount =>
    rw [call, Gateway.propertyNamesLabeled]
    split
    next => exact .pure _
    next =>
      exact .outset_check_bind fun _ => .outset_read_bind fun rows =>
        .answer fun _ => Gateway.failsOnly_propertyNames rows
  | searchNodes term fields label? amount =>
    rw [call, Gateway.searchNodes]
    split
    next => exact .pure _
    next =>
      exact .outset_check_bind fun _ => .outset_read_bind fun rows =>
        .answer fun supply => Answer.failsOnly_nodes supply rows
  | countNodes filter =>
    exact .outset_check_bind fun _ => .outset_read_bind fun rows =>
      .answer fun _ => Answer.failsOnly_count rows
  | createNode request => exact (Gateway.behind_createNode gateway request).mono hle
  | createNodes requests => cases hsingle
  | updateNode request => exact (Gateway.behind_updateNode request).mono hle
  | upsertNode request => exact (Gateway.behind_upsertNode gateway request).mono hle
  | deleteNode id => exact .write_bind fun _ => .pure _
  | deleteNodesMatching filter => exact .outset_check_bind fun _ => .write_bind fun _ => .pure _
  | hasEdge id => exact Gateway.behind_presence.mono hle
  | edge? id =>
    exact .outset_read_bind fun rows =>
      .answer_bind (fun supply => Answer.failsOnly_edges supply rows) fun _ => .pure _
  | edgeBetween? source target type? =>
    exact .outset_check_bind fun _ => .outset_read_bind fun rows =>
      .answer_bind (fun supply => Answer.failsOnly_edges supply rows) fun _ => .pure _
  | edgesLabeled type amount =>
    rw [call, Gateway.edgesLabeled]
    split
    next => exact .pure _
    next =>
      exact .outset_check_bind fun _ => .outset_read_bind fun rows =>
        .answer fun supply => Answer.failsOnly_edges supply rows
  | edgesMatching filter amount? =>
    exact .outset_check_bind fun _ => .outset_read_bind fun rows =>
      .answer fun supply => Answer.failsOnly_edges supply rows
  | countEdges filter =>
    exact .outset_check_bind fun _ => .outset_read_bind fun rows =>
      .answer fun _ => Answer.failsOnly_count rows
  | createEdge request => exact (Gateway.behind_createEdge gateway request).mono hle
  | updateEdge id labels properties =>
    exact (Gateway.behind_updateEdge id labels properties).mono hle
  | upsertEdge request => exact (Gateway.behind_upsertEdge gateway request).mono hle
  | deleteEdge id => exact .write_bind fun _ => .pure _
  | nodeLabels =>
    exact .outset_read_bind fun rows => .answer fun _ => Answer.failsOnly_texts _ rows
  | edgeLabels =>
    exact .outset_read_bind fun rows => .answer fun _ => Answer.failsOnly_texts _ rows
  | clear => exact .write_bind fun _ => .pure _

end Operation

end GraphGateway
