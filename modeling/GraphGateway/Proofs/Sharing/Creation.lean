import GraphGateway.Proofs.Gateway.Parts
import GraphGateway.Proofs.Gateway.Storing
import GraphGateway.Proofs.Sharing.Basic
import GraphGateway.Proofs.Store.Absence
import Mathlib.Algebra.BigOperators.Fin

/-!
# A task that creates nodes

While a task creates a node with an explicit id, it asks for the id, and it writes only if there was
no node with it. What this says about the store when the node is written depends on what other tasks
have done since, so it is kept as a proposition of its own about the time of the question.
-/

namespace GraphGateway

/-- The node that a request creates under an id, as it is stored. -/
def NodeRequest.stored (request : NodeRequest) (labels : List String) (id : String) : StoredNode :=
  ⟨labels, storedData id request.properties.withoutReserved⟩

/-- How creating a node under an explicit id may end: with the node, with the error that the id is
taken, or with the error of the labels. -/
inductive CreationEnds (gateway : Gateway) (request : NodeRequest) (id : String) :
    Except Error Node → Prop where
  | created {labels : List String}
      (hlabels : Gateway.labelsOfNew gateway request.labels = .ok labels) :
      CreationEnds gateway request id
        (.ok (Node.ofLabels id labels request.properties.withoutReserved))
  | taken : CreationEnds gateway request id (.error (.itemExists (.node id)))
  | refused {error : Error}
      (hlabels : Gateway.labelsOfNew gateway request.labels = .error error) :
      CreationEnds gateway request id (.error error)

/-!
## The dialogue of creating a node
-/

namespace Gateway

open Call

variable {gateway : Gateway} {request : NodeRequest} {id : String}

/-- What is left behind a check: nothing if it fails. -/
private theorem start_check_bind {α β : Type} (checked : Except Error α)
    (continuation : α → Call β) (supply : IdSupply) :
    (check checked >>= continuation).start supply =
      match checked with
      | .error error => .done (.error error, supply)
      | .ok value => (continuation value).start supply := by
  cases checked <;> rfl

/-- Under a free id, a node is written as soon as its labels have passed. -/
theorem start_createFreeNode (gateway : Gateway) (request : NodeRequest) (id : String)
    (supply : IdSupply) :
    (createFreeNode gateway request id).start supply =
      match labelsOfNew gateway request.labels with
      | .error error => .done (.error error, supply)
      | .ok labels =>
        .ask .write (StoreAct.create (request.stored labels id)).statement fun answer =>
          .done ((answer.mapError Error.store).map fun _ =>
            Node.ofLabels id labels request.properties.withoutReserved, supply) := by
  rw [createFreeNode, start_check_bind]
  cases labelsOfNew gateway request.labels with
  | error error => rfl
  | ok labels =>
    refine congrArg (Dialogue.ask .write _) (funext fun answer => ?_)
    cases answer <;> rfl

/-- Under an explicit id, a node is created only if the count of the nodes with it is not
positive. -/
theorem start_createNode (hid : usableId? request.id? = some id) (supply : IdSupply) :
    (createNode gateway request).start supply =
      .ask .read (StoreAct.check id).statement fun answer =>
        match answer.mapError Error.store >>= Answer.count with
        | .error error => .done (.error error, supply)
        | .ok count =>
          if count > 0 then .done (.error (.itemExists (.node id)), supply)
          else (createFreeNode gateway request id).start supply := by
  rw [createNode_eq, chooseId, hid]
  refine congrArg (Dialogue.ask .read _) (funext fun answer => ?_)
  cases answer with
  | error message => rfl
  | ok rows =>
    -- How the call goes on is stuck on the count, so the two sides meet only count by count.
    have hcount : (Except.ok rows).mapError Error.store >>= Answer.count = Answer.count rows := rfl
    change ((check (Answer.count rows) >>= fun count => pure (decide (count > 0)) : Call Bool) >>=
      fun present => if present = true then throw (.itemExists (.node id))
        else createFreeNode gateway request id).start supply = _
    rw [hcount]
    cases Answer.count rows with
    | error error => rfl
    | ok count =>
      change (if decide (count > 0) = true then throw (.itemExists (.node id))
        else createFreeNode gateway request id : Call Node).start supply = _
      by_cases hpositive : count > 0
      · simp only [hpositive, decide_true, if_true]
        rfl
      · simp only [hpositive, decide_false, Bool.false_eq_true, if_false]

end Gateway

/-- The count in a row is the answer. -/
theorem Answer.count_singleton {row : Row} {n : Int64}
    (hrow : row.get? Column.count = some (.datum (.integer n))) : Answer.count [row] = .ok n := by
  have hdatum : row.datum Column.count = .ok (some (.integer n)) :=
    Row.read_of_get? Cell.datum? hrow rfl rfl _
  rw [Answer.count, hdatum]
  rfl

/-!
## Where a task stands
-/

/-- A dialogue that creates a node under an explicit id: it has just begun, or the node is about to
be written, or it is over. The node is written only if something holds that the question for the id
has shown. -/
inductive Creating (gateway : Gateway) (request : NodeRequest) (id : String) (free : Prop)
    (dialogue : Dialogue (Except Error Node × IdSupply)) : Prop where
  | asking (supply : IdSupply) (hdialogue : dialogue = (gateway.createNode request).start supply)
  | writing (supply : IdSupply) {labels : List String}
      (hlabels : Gateway.labelsOfNew gateway request.labels = .ok labels) (hfree : free)
      (hdialogue : dialogue = (Gateway.createFreeNode gateway request id).start supply)
  | ending {supply : IdSupply} {outcome : Except Error Node}
      (hends : CreationEnds gateway request id outcome) (hdialogue : dialogue = .done (outcome, supply))

/-- The number of nodes with an id that an outcome returns. -/
def nodesReturned (id : String) : Except Error Node → Nat
  | .ok node => (node.id == id).toNat
  | .error _ => 0

/-- The number of nodes with an id that a dialogue returns without asking any more. -/
def nodesPending (id : String) : Dialogue (Except Error Node × IdSupply) → Nat
  | .done (outcome, _) => nodesReturned id outcome
  | .ask _ _ _ => 0

namespace Creating

variable {gateway : Gateway} {request : NodeRequest} {id : String} {free : Prop}
  {access : Access} {act : StoreAct}
  {next : Except String (List Row) → Dialogue (Except Error Node × IdSupply)}

/-- What holds of the store may be seen in a weaker way. -/
theorem mono {dialogue : Dialogue (Except Error Node × IdSupply)} {weaker : Prop}
    (h : Creating gateway request id free dialogue) (hweaker : free → weaker) :
    Creating gateway request id weaker dialogue := by
  cases h with
  | asking supply hdialogue => exact .asking supply hdialogue
  | writing supply hlabels hfree hdialogue =>
    exact .writing supply hlabels (hweaker hfree) hdialogue
  | ending hends hdialogue => exact .ending hends hdialogue

/-- A dialogue that creates a node asks for the id, or it writes the node. -/
theorem ask_cases (h : Creating gateway request id free (.ask access act.statement next))
    (hid : usableId? request.id? = some id) :
    (act = .check id ∧ ∃ supply, next = fun answer =>
      match answer.mapError Error.store >>= Answer.count with
      | .error error => .done (.error error, supply)
      | .ok count =>
        if count > 0 then .done (.error (.itemExists (.node id)), supply)
        else (Gateway.createFreeNode gateway request id).start supply) ∨
    free ∧ ∃ labels supply, Gateway.labelsOfNew gateway request.labels = .ok labels ∧
      act = .create (request.stored labels id) ∧ next = fun answer =>
        .done ((answer.mapError Error.store).map fun _ =>
          Node.ofLabels id labels request.properties.withoutReserved, supply) := by
  cases h with
  | asking supply hdialogue =>
    rw [Gateway.start_createNode hid, Dialogue.ask.injEq] at hdialogue
    obtain ⟨-, hact, hnext⟩ := hdialogue
    exact .inl ⟨StoreAct.statement_inj.mp hact, supply, hnext⟩
  | @writing supply labels hlabels hfree hdialogue =>
    rw [Gateway.start_createFreeNode, hlabels, Dialogue.ask.injEq] at hdialogue
    obtain ⟨-, hact, hnext⟩ := hdialogue
    exact .inr ⟨hfree, labels, supply, hlabels, StoreAct.statement_inj.mp hact, hnext⟩
  | ending hends hdialogue => cases hdialogue

/-- Behind the answer of the store, a node is still being created. What the question for the id
shows is that there was no node with it. -/
theorem answered (h : Creating gateway request id free (.ask access act.statement next))
    (hid : usableId? request.id? = some id) {store : NodeStore} {rows : List Row}
    (hrows : store.Answers rows act) {seen : Prop}
    (hseen : act = .check id → store.count id = 0 → seen) :
    Creating gateway request id seen (next (.ok rows)) := by
  obtain ⟨rfl, supply, rfl⟩ | ⟨-, labels, supply, hlabels, rfl, rfl⟩ := h.ask_cases hid
  · obtain ⟨row, count, rfl, hrow, hcount⟩ := hrows
    have hanswer : (Except.ok [row]).mapError Error.store >>= Answer.count = .ok count :=
      Answer.count_singleton hrow
    simp only [hanswer]
    split
    next => exact .ending .taken rfl
    next hnone =>
      have hzero : store.count id = 0 := by
        have hle : count.toInt ≤ 0 := Int64.le_iff_toInt_le.mp (Int64.not_lt.mp hnone)
        omega
      cases hlabels : Gateway.labelsOfNew gateway request.labels with
      | error error =>
        rw [Gateway.start_createFreeNode, hlabels]
        exact .ending (.refused hlabels) rfl
      | ok labels => exact .writing supply hlabels (hseen rfl hzero) rfl
  · exact .ending (.created hlabels) rfl

/-- A dialogue returns a node as soon as it has written it. -/
theorem nodesPending_answered (h : Creating gateway request id free (.ask access act.statement next))
    (hid : usableId? request.id? = some id) {store : NodeStore} {rows : List Row}
    (hrows : store.Answers rows act) (other : String) :
    nodesPending other (next (.ok rows)) = (act.creates other).toNat := by
  obtain ⟨rfl, supply, rfl⟩ | ⟨-, labels, supply, hlabels, rfl, rfl⟩ := h.ask_cases hid
  · obtain ⟨row, count, rfl, hrow, -⟩ := hrows
    have hanswer : (Except.ok [row]).mapError Error.store >>= Answer.count = .ok count :=
      Answer.count_singleton hrow
    simp only [hanswer]
    split
    next => rfl
    next =>
      rw [Gateway.start_createFreeNode]
      cases Gateway.labelsOfNew gateway request.labels <;> rfl
  · rw [StoreAct.creates, NodeRequest.stored, StoredNode.hasId_storedData]
    rfl

/-- A node is created only where the question for its id has shown what had to hold. -/
theorem free_of_creates (h : Creating gateway request id free (.ask access act.statement next))
    (hid : usableId? request.id? = some id) {other : String} (hcreates : act.creates other = true) :
    other = id ∧ free := by
  obtain ⟨rfl, -⟩ | ⟨hfree, labels, supply, -, rfl, -⟩ := h.ask_cases hid
  · cases hcreates
  · rw [StoreAct.creates, NodeRequest.stored, StoredNode.hasId_storedData, beq_iff_eq] at hcreates
    exact ⟨hcreates.symm, hfree⟩

end Creating

/-- A task as it should be: its requests have explicit ids, the call that runs creates a node, and
the calls that are over have ended as creating does. -/
structure CreatingTask.Sound (gateway : Gateway) (free : String → Prop) (task : CreatingTask) :
    Prop where
  explicit : ∀ request ∈ task.waiting, (usableId? request.id?).isSome = true
  running : ∀ request dialogue, task.running? = some (request, dialogue) →
    ∃ id, usableId? request.id? = some id ∧ Creating gateway request id (free id) dialogue
  ended : ∀ call ∈ task.ended,
    ∃ id, usableId? call.1.id? = some id ∧ CreationEnds gateway call.1 id call.2

namespace CreatingTask

/-- The number of nodes with an id that the calls of a task have returned. -/
def returned (task : CreatingTask) (id : String) : Nat :=
  (task.ended.map fun call => nodesReturned id call.2).sum

/-- The number of nodes with an id that the calls of a task have returned or are about to return. -/
def written (task : CreatingTask) (id : String) : Nat :=
  task.returned id + (task.running?.map fun call => nodesPending id call.2).getD 0

variable {gateway : Gateway} {free seen : String → Prop} {store : NodeStore}
  {task task' : CreatingTask} {act? : Option StoreAct}

/-- What holds of the store may be seen in a weaker way. -/
theorem Sound.mono (h : task.Sound gateway free) (hseen : ∀ id, free id → seen id) :
    task.Sound gateway seen where
  explicit := h.explicit
  running := by
    intro request dialogue hrunning
    obtain ⟨id, hid, hcreating⟩ := h.running request dialogue hrunning
    exact ⟨id, hid, hcreating.mono (hseen id)⟩
  ended := h.ended

/-- A step keeps a task as it should be. A task needs to know of the store only what its own last
question has shown. -/
theorem Sound.step (h : task.Sound gateway free) (hstep : Step gateway store task act? task')
    (hseen : ∀ id, act? = some (.check id) → store.count id = 0 → seen id) :
    task'.Sound gateway seen := by
  cases hstep with
  | @start request rest supply hrunning hwaiting =>
    have hexplicit := h.explicit
    rw [hwaiting] at hexplicit
    obtain ⟨hrequest, hrest⟩ := List.forall_mem_cons.mp hexplicit
    refine ⟨hrest, ?_, h.ended⟩
    rintro _ _ ⟨⟩
    obtain ⟨id, hid⟩ := Option.isSome_iff_exists.mp hrequest
    exact ⟨id, hid, .asking supply rfl⟩
  | @ask request access next act rows hrunning hrows =>
    refine ⟨h.explicit, ?_, h.ended⟩
    rintro _ _ ⟨⟩
    obtain ⟨id, hid, hcreating⟩ := h.running _ _ hrunning
    refine ⟨id, hid, hcreating.answered hid hrows fun hact hcount => ?_⟩
    exact hseen id (congrArg some hact) hcount
  | @finish request outcome supply hrunning =>
    -- A dialogue that is done has neither its question nor its node still before it.
    refine ⟨h.explicit, nofun, ?_⟩
    obtain ⟨id, hid, hcreating⟩ := h.running _ _ hrunning
    have hends : CreationEnds gateway request id outcome := by
      cases hcreating with
      | asking _ hdialogue =>
        rw [Gateway.start_createNode hid] at hdialogue
        cases hdialogue
      | writing _ hlabels _ hdialogue =>
        rw [Gateway.start_createFreeNode, hlabels] at hdialogue
        cases hdialogue
      | ending hends hdialogue =>
        cases hdialogue
        exact hends
    exact List.forall_mem_append.mpr ⟨h.ended, List.forall_mem_singleton.mpr ⟨id, hid, hends⟩⟩

/-- A step that asks nothing leaves the number of written nodes alone. -/
theorem Sound.written_silent (h : task.Sound gateway free)
    (hstep : Step gateway store task none task') (id : String) :
    task'.written id = task.written id := by
  cases hstep with
  | @start request rest supply hrunning hwaiting =>
    have hrequest := h.explicit request (hwaiting ▸ List.mem_cons_self)
    obtain ⟨own, hown⟩ := Option.isSome_iff_exists.mp hrequest
    simp only [written, returned, hrunning, Option.map_some, Option.map_none, Option.getD_some,
      Option.getD_none, Gateway.start_createNode hown, nodesPending]
  | finish hrunning =>
    simp only [written, returned, hrunning, Option.map_some, Option.map_none, Option.getD_some,
      Option.getD_none, nodesPending, List.map_append, List.map_cons, List.map_nil,
      List.sum_append, List.sum_singleton, Nat.add_zero]

/-- A turn that creates a node writes one more. -/
theorem Sound.written_turn (h : task.Sound gateway free) {act : StoreAct}
    (hstep : Step gateway store task (some act) task') (id : String) :
    task'.written id = task.written id + (act.creates id).toNat := by
  cases hstep with
  | @ask request access next act rows hrunning hrows =>
    obtain ⟨own, hown, hcreating⟩ := h.running _ _ hrunning
    simp only [written, returned, hrunning, Option.map_some, Option.getD_some,
      hcreating.nodesPending_answered hown hrows]
    rfl

/-- A turn creates a node only where the question for its id has shown what had to hold. -/
theorem Sound.free_of_creates (h : task.Sound gateway free) {act : StoreAct}
    (hstep : Step gateway store task (some act) task') {id : String}
    (hcreates : act.creates id = true) : free id := by
  cases hstep with
  | @ask request access next act rows hrunning hrows =>
    obtain ⟨own, hown, hcreating⟩ := h.running _ _ hrunning
    obtain ⟨rfl, hfree⟩ := hcreating.free_of_creates hown hcreates
    exact hfree

/-!
## Steps that a task can take
-/

variable {request : NodeRequest} {id : String} {supply : IdSupply}

/-- Where there is no node with the id, the question for it is answered and the node comes next. -/
theorem Step.check_free (hid : usableId? request.id? = some id)
    (hrunning : task.running? = some (request, (gateway.createNode request).start supply))
    (hfree : store.count id = 0) :
    Step gateway store task (some (.check id)) { task with
      running? := some (request, (Gateway.createFreeNode gateway request id).start supply) } := by
  rw [Gateway.start_createNode hid] at hrunning
  refine .ask (.check id) [⟨[(Column.count, .datum (.integer 0))]⟩] hrunning ⟨_, 0, rfl, rfl, ?_⟩
  rw [hfree]
  rfl

/-- Where there is a node with the id, the question for it ends the call. -/
theorem Step.check_taken (hid : usableId? request.id? = some id)
    (hrunning : task.running? = some (request, (gateway.createNode request).start supply))
    {count : Int64} (hcount : count.toInt = store.count id) (hpositive : count > 0) :
    Step gateway store task (some (.check id)) { task with
      running? := some (request, .done (.error (.itemExists (.node id)), supply)) } := by
  rw [Gateway.start_createNode hid] at hrunning
  have hstep : Step gateway store task (some (.check id)) _ :=
    .ask (.check id) [⟨[(Column.count, .datum (.integer count))]⟩] hrunning
      ⟨_, count, rfl, rfl, hcount⟩
  have hanswer : (Except.ok [⟨[(Column.count, .datum (.integer count))]⟩]).mapError Error.store >>=
      Answer.count = .ok count := rfl
  simp only [hanswer, if_pos hpositive] at hstep
  exact hstep

/-- A node whose labels pass is created. -/
theorem Step.create {labels : List String}
    (hlabels : Gateway.labelsOfNew gateway request.labels = .ok labels)
    (hrunning : task.running? =
      some (request, (Gateway.createFreeNode gateway request id).start supply)) :
    Step gateway store task (some (.create (request.stored labels id))) { task with
      running? := some (request,
        .done (.ok (Node.ofLabels id labels request.properties.withoutReserved), supply)) } := by
  rw [Gateway.start_createFreeNode, hlabels] at hrunning
  exact .ask (.create (request.stored labels id)) [] hrunning trivial

end CreatingTask

end GraphGateway
