import GraphGateway.Gateway.Nodes
import GraphGateway.Proofs.Statement.Creating
import Mathlib.Logic.Function.Basic

/-!
# A store that tasks share

Tasks create nodes through one gateway, each one call after the other. What a call asks runs on the
store as one step; between two steps of a task, the other tasks may take any number of theirs. The
store does what its statements say: it counts the nodes with an id, and it adds a node.
-/

namespace GraphGateway

/-- A node as it is stored. -/
structure StoredNode where
  labels : List String
  data : Properties

/-- Whether a node is stored with an id. -/
def StoredNode.hasId (id : String) (node : StoredNode) : Bool :=
  match node.data.get? "id" with
  | some (.text stored) => stored == id
  | _ => false

/-- A node that is created is stored with its id, and with no other. -/
theorem StoredNode.hasId_storedData (id other : String) (labels : List String)
    (properties : Properties) :
    hasId other ⟨labels, storedData id properties⟩ = (id == other) := by
  rw [hasId, storedData, SortedMap.get?_insert, if_pos rfl]

/-!
## Steps on the store
-/

/-- What a store is asked when nodes are created. -/
inductive StoreAct where
  | check (id : String)
  | create (node : StoredNode)

namespace StoreAct

/-- The statement that asks for an act. -/
def statement : StoreAct → Statement
  | check id => NodeStatement.presence id
  | create node => NodeStatement.create node.labels node.data

/-- Whether an act adds a node with an id. -/
def creates (id : String) : StoreAct → Bool
  | check _ => false
  | create node => node.hasId id

/-- The statement says which act it asks for. -/
theorem statement_inj {act other : StoreAct} : act.statement = other.statement ↔ act = other := by
  have hdistinct (id : String) (node : StoredNode) :
      (check id).statement ≠ (create node).statement := by
    intro h
    have hfirst := congrArg (fun statement => statement.text.toList.head?) h
    simp [statement, NodeStatement.presence, NodeStatement.create, Statement.given,
      Statement.ofText] at hfirst
  constructor
  · intro h
    cases act with
    | check id =>
      cases other with
      | check otherId =>
        have hparam := congrArg (fun statement => statement.params.get? "id") h
        simp only [statement, NodeStatement.presence, Statement.given, SortedMap.get?_insert,
          if_true, Option.some.injEq, Datum.text.injEq] at hparam
        rw [hparam]
      | create node => exact absurd h (hdistinct id node)
    | create node =>
      cases other with
      | check id => exact absurd h.symm (hdistinct id node)
      | create otherNode =>
        obtain ⟨labels, data⟩ := node
        obtain ⟨labels', data'⟩ := otherNode
        obtain ⟨rfl, rfl⟩ := NodeStatement.create_inj.mp h
        rfl
  · rintro rfl
    rfl

end StoreAct

/-- The nodes of a store. -/
abbrev NodeStore := List StoredNode

namespace NodeStore

/-- The number of nodes with an id. -/
def count (store : NodeStore) (id : String) : Nat := store.countP (StoredNode.hasId id)

/-- The store behind an act. -/
def after (store : NodeStore) : StoreAct → NodeStore
  | .check _ => store
  | .create node => store ++ [node]

/-- The store behind several acts. -/
def afterAll (store : NodeStore) (acts : List StoreAct) : NodeStore := acts.foldl after store

/-- The rows that a store answers an act with: one row with the number of nodes, or whatever is
answered when a node has been added. -/
def Answers (store : NodeStore) (rows : List Row) : StoreAct → Prop
  | .check id => ∃ row count, rows = [row] ∧
      row.get? Column.count = some (.datum (.integer count)) ∧ count.toInt = store.count id
  | .create _ => True

/-- Only an act that creates a node with an id changes the number of nodes with it. -/
theorem count_after (store : NodeStore) (act : StoreAct) (id : String) :
    (store.after act).count id = store.count id + (act.creates id).toNat := by
  cases act with
  | check _ => rfl
  | create node =>
    rw [after, count, List.countP_append, List.countP_singleton, StoreAct.creates, count]
    cases node.hasId id <;> rfl

/-- The number of nodes with an id tells how many of them the acts have created. -/
theorem count_afterAll (store : NodeStore) (acts : List StoreAct) (id : String) :
    (store.afterAll acts).count id = store.count id + acts.countP (StoreAct.creates id) := by
  induction acts generalizing store with
  | nil => rfl
  | cons act rest ih =>
    have hrest : (store.afterAll (act :: rest)).count id =
        (store.after act).count id + rest.countP (StoreAct.creates id) := ih _
    rw [hrest, count_after, List.countP_cons]
    cases act.creates id
    · rfl
    · exact Nat.add_right_comm _ _ _

end NodeStore

/-!
## Steps of the tasks
-/

/-- A task that creates nodes: the requests that wait, the call that has begun with what is left of
its dialogue, and the calls that are over with their outcomes. -/
structure CreatingTask where
  waiting : List NodeRequest
  running? : Option (NodeRequest × Dialogue (Except Error Node × IdSupply)) := none
  ended : List (NodeRequest × Except Error Node) := []

/-- A step of a task: it begins its next call, with the ids that are left then; it runs one
statement on the store; or it ends a call. -/
inductive CreatingTask.Step (gateway : Gateway) (store : NodeStore) (task : CreatingTask) :
    Option StoreAct → CreatingTask → Prop where
  | start {request : NodeRequest} {rest : List NodeRequest} (supply : IdSupply)
      (hrunning : task.running? = none) (hwaiting : task.waiting = request :: rest) :
      Step gateway store task none { task with
        waiting := rest
        running? := some (request, (gateway.createNode request).start supply) }
  | ask {request : NodeRequest} {access : Access}
      {next : Except String (List Row) → Dialogue (Except Error Node × IdSupply)}
      (act : StoreAct) (rows : List Row)
      (hrunning : task.running? = some (request, .ask access act.statement next))
      (hrows : store.Answers rows act) :
      Step gateway store task (some act) { task with
        running? := some (request, next (.ok rows)) }
  | finish {request : NodeRequest} {outcome : Except Error Node} {supply : IdSupply}
      (hrunning : task.running? = some (request, .done (outcome, supply))) :
      Step gateway store task none { task with
        running? := none
        ended := task.ended ++ [(request, outcome)] }

/-- A store with the tasks that share it. -/
structure SharedStore (n : Nat) where
  store : NodeStore
  tasks : Fin n → CreatingTask

/-- A turn on the store: a task, and what it asks. -/
structure Turn (n : Nat) where
  task : Fin n
  act : StoreAct

namespace SharedStore

variable {n : Nat}

/-- A step of one of the tasks, with its turn on the store, if it takes one. -/
inductive Step (gateway : Gateway) (before : SharedStore n) :
    List (Turn n) → SharedStore n → Prop where
  | silent (i : Fin n) {task : CreatingTask}
      (hstep : CreatingTask.Step gateway before.store (before.tasks i) none task) :
      Step gateway before [] { before with tasks := Function.update before.tasks i task }
  | turn (i : Fin n) {act : StoreAct} {task : CreatingTask}
      (hstep : CreatingTask.Step gateway before.store (before.tasks i) (some act) task) :
      Step gateway before [⟨i, act⟩] {
        store := before.store.after act
        tasks := Function.update before.tasks i task }

/-- Any interleaving of the steps of the tasks, with the turns on the store in order. -/
inductive Run (gateway : Gateway) (start : SharedStore n) :
    List (Turn n) → SharedStore n → Prop where
  | refl : Run gateway start [] start
  | step {turns next : List (Turn n)} {before after : SharedStore n}
      (hrun : Run gateway start turns before) (hstep : Step gateway before next after) :
      Run gateway start (turns ++ next) after

/-- The tasks have not begun, their requests have explicit ids that are not blank, and no two stored
nodes have the same id. -/
structure Ready (start : SharedStore n) : Prop where
  explicit : ∀ i, ∀ request ∈ (start.tasks i).waiting, (usableId? request.id?).isSome = true
  running : ∀ i, (start.tasks i).running? = none
  ended : ∀ i, (start.tasks i).ended = []
  unique : ∀ id, start.store.count id ≤ 1

end SharedStore

end GraphGateway
