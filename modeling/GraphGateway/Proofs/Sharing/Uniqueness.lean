import GraphGateway.Proofs.Sharing.Creation
import Mathlib.Algebra.Order.BigOperators.Group.Finset

/-!
# Explicit ids in a shared store

The question for an id and the statement that creates a node with it are two steps on the store, and
nothing keeps other tasks from creating a node with the id in between. This is the only way to two
nodes with one id: a task that creates a node has asked for its id with its last step before, and
the store held none then, so that another has to have come up since.
-/

namespace GraphGateway

variable {n : Nat}

/-- Two tasks create nodes with one id at the same time: one asks for the id and then, without doing
anything else, creates a node with it, and in between another has created a node with it. -/
def Overlap (turns : List (Turn n)) (id : String) : Prop :=
  ∃ first i between node rest,
    turns = first ++ ⟨i, .check id⟩ :: (between ++ ⟨i, .create node⟩ :: rest) ∧
      node.hasId id = true ∧ (∀ turn ∈ between, turn.task ≠ i) ∧
      ∃ turn ∈ between, turn.act.creates id = true

/-- Tasks that have overlapped have done so whatever comes later. -/
theorem Overlap.append {turns : List (Turn n)} {id : String} (h : Overlap turns id)
    (later : List (Turn n)) : Overlap (turns ++ later) id := by
  obtain ⟨first, i, between, node, rest, rfl, hnode, hquiet, hother⟩ := h
  refine ⟨first, i, between, node, rest ++ later, ?_, hnode, hquiet, hother⟩
  simp only [List.append_assoc, List.cons_append]

namespace NodeStore

/-- The store behind the turns of tasks. -/
def afterTurns (store : NodeStore) (turns : List (Turn n)) : NodeStore :=
  store.afterAll (turns.map Turn.act)

/-- The number of nodes with an id tells how many of them the turns have created. -/
theorem count_afterTurns (store : NodeStore) (turns : List (Turn n)) (id : String) :
    (store.afterTurns turns).count id =
      store.count id + turns.countP fun turn => turn.act.creates id := by
  rw [afterTurns, count_afterAll, List.countP_map]
  rfl

/-- One turn more is one act more. -/
theorem afterTurns_concat (store : NodeStore) (turns : List (Turn n)) (turn : Turn n) :
    store.afterTurns (turns ++ [turn]) = (store.afterTurns turns).after turn.act := by
  rw [afterTurns, List.map_append, afterAll, List.foldl_append]
  rfl

/-- Where tasks overlap, there are two nodes with the id. -/
theorem two_le_count_of_overlap (store : NodeStore) {turns : List (Turn n)} {id : String}
    (h : Overlap turns id) : 2 ≤ (store.afterTurns turns).count id := by
  obtain ⟨first, i, between, node, rest, rfl, hnode, -, other, hother, hcreates⟩ := h
  have hbetween : 0 < between.countP fun turn => turn.act.creates id :=
    List.countP_pos_iff.mpr ⟨other, hother, hcreates⟩
  have hcreate : (StoreAct.create node).creates id = true := hnode
  rw [count_afterTurns, List.countP_append, List.countP_cons, List.countP_append, List.countP_cons,
    if_pos hcreate]
  omega

/-- The last step of a task was to ask for an id that no node had, in a store that has gone through
some turns. -/
def SeenFree (store : NodeStore) (turns : List (Turn n)) (i : Fin n) (id : String) : Prop :=
  ∃ first between, turns = first ++ ⟨i, .check id⟩ :: between ∧
    (store.afterTurns first).count id = 0 ∧ ∀ turn ∈ between, turn.task ≠ i

/-- What a task has seen is not changed by the turn of another. -/
theorem SeenFree.append_other {store : NodeStore} {turns : List (Turn n)} {i : Fin n} {id : String}
    (h : store.SeenFree turns i id) {turn : Turn n} (hother : turn.task ≠ i) :
    store.SeenFree (turns ++ [turn]) i id := by
  obtain ⟨first, between, rfl, hfree, hquiet⟩ := h
  refine ⟨first, between ++ [turn], ?_, hfree, ?_⟩
  · rw [List.append_assoc, List.cons_append]
  · exact List.forall_mem_append.mpr ⟨hquiet, List.forall_mem_singleton.mpr hother⟩

/-- A task that has seen no node with an id, and creates one where there is one, overlaps with
another. -/
theorem SeenFree.overlap {store : NodeStore} {turns : List (Turn n)} {i : Fin n} {id : String}
    (h : store.SeenFree turns i id) (htaken : 0 < (store.afterTurns turns).count id)
    {act : StoreAct} (hcreates : act.creates id = true) :
    Overlap (turns ++ [⟨i, act⟩]) id := by
  obtain ⟨first, between, rfl, hfree, hquiet⟩ := h
  obtain _ | node := act
  · cases hcreates
  · refine ⟨first, i, between, node, [], ?_, hcreates, hquiet, ?_⟩
    · rw [List.append_assoc, List.cons_append]
    · have hcheck : ¬(StoreAct.check id).creates id = true := Bool.false_ne_true
      rw [count_afterTurns] at hfree
      rw [count_afterTurns, List.countP_append, List.countP_cons, if_neg hcheck] at htaken
      exact List.countP_pos_iff.mp (by omega)

end NodeStore

namespace SharedStore

variable {gateway : Gateway} {start before after : SharedStore n} {turns next : List (Turn n)}

/-- The number of nodes with an id that the tasks have written changes as it does for the one task
that takes a step. -/
theorem sum_written_update {tasks : Fin n → CreatingTask} {i : Fin n} {task : CreatingTask}
    {id : String} {more : Nat} (h : task.written id = (tasks i).written id + more) :
    ∑ j, (Function.update tasks i task j).written id = ∑ j, (tasks j).written id + more := by
  have hothers : ∑ j ∈ Finset.univ.erase i, (Function.update tasks i task j).written id =
      ∑ j ∈ Finset.univ.erase i, (tasks j).written id := by
    refine Finset.sum_congr rfl fun j hj => ?_
    rw [Function.update_of_ne (Finset.ne_of_mem_erase hj)]
  rw [← Finset.add_sum_erase _ _ (Finset.mem_univ i), hothers, Function.update_self, h,
    Nat.add_right_comm, Finset.add_sum_erase _ (fun j => (tasks j).written id) (Finset.mem_univ i)]

/-- What is known of tasks and their store behind some turns: the turns say what the store holds and
what each task has seen, every node that is added is one that a task has written, and two nodes with
one id come from tasks that overlap. -/
structure Explained (gateway : Gateway) (start : SharedStore n) (turns : List (Turn n))
    (after : SharedStore n) : Prop where
  store : after.store = start.store.afterTurns turns
  tasks : ∀ i, (after.tasks i).Sound gateway (start.store.SeenFree turns i)
  written : ∀ id, after.store.count id = start.store.count id + ∑ i, (after.tasks i).written id
  overlap : ∀ id, 2 ≤ after.store.count id → Overlap turns id

/-- All is explained before anything is done. -/
theorem Ready.explained (h : start.Ready) : Explained gateway start [] start where
  store := rfl
  tasks := by
    intro i
    refine ⟨h.explicit i, ?_, ?_⟩
    · intro request dialogue hrunning
      rw [h.running i] at hrunning
      cases hrunning
    · rw [h.ended i]
      exact List.forall_mem_nil _
  written := by
    intro id
    have hnone (i : Fin n) : (start.tasks i).written id = 0 := by
      simp only [CreatingTask.written, CreatingTask.returned, h.running i, h.ended i]
      rfl
    simp only [hnone, Finset.sum_const_zero, Nat.add_zero]
  overlap := by
    intro id htwo
    exact absurd (h.unique id) (Nat.not_le.mpr htwo)

/-- Every step is explained. -/
theorem Explained.step (h : Explained gateway start turns before)
    (hstep : Step gateway before next after) : Explained gateway start (turns ++ next) after := by
  cases hstep with
  | @silent i task hstep =>
    rw [List.append_nil]
    refine ⟨h.store, ?_, ?_, h.overlap⟩
    · refine (Function.forall_update_iff before.tasks fun j (task : CreatingTask) =>
        task.Sound gateway (start.store.SeenFree _ j)).mpr ⟨?_, ?_⟩
      · exact (h.tasks i).step hstep fun id hact => by cases hact
      · exact fun j _ => h.tasks j
    · intro id
      have hwritten := (h.tasks i).written_silent hstep id
      rw [sum_written_update (hwritten.trans (Nat.add_zero _).symm), Nat.add_zero]
      exact h.written id
  | @turn i act task hstep =>
    have hstore : before.store.after act = start.store.afterTurns (turns ++ [⟨i, act⟩]) := by
      rw [NodeStore.afterTurns_concat, h.store]
    refine ⟨hstore, ?_, ?_, ?_⟩
    · refine (Function.forall_update_iff before.tasks fun j (task : CreatingTask) =>
        task.Sound gateway (start.store.SeenFree _ j)).mpr ⟨?_, ?_⟩
      · refine (h.tasks i).step hstep fun id hact hcount => ?_
        cases hact
        exact ⟨turns, [], rfl, h.store ▸ hcount, List.forall_mem_nil _⟩
      · exact fun j hj => (h.tasks j).mono fun id hseen => hseen.append_other (Ne.symm hj)
    · intro id
      rw [sum_written_update ((h.tasks i).written_turn hstep id), NodeStore.count_after,
        h.written id, Nat.add_assoc]
    · intro id htwo
      rw [NodeStore.count_after] at htwo
      -- A second node either was there before this turn, or the turn adds it to one that its task
      -- has not seen.
      cases hcreates : act.creates id with
      | false =>
        rw [hcreates] at htwo
        exact (h.overlap id htwo).append _
      | true =>
        rw [hcreates, Bool.toNat_true] at htwo
        refine ((h.tasks i).free_of_creates hstep hcreates).overlap ?_ hcreates
        rw [← h.store]
        omega

/-- Every run is explained. -/
theorem Ready.explained_run (h : start.Ready) (hrun : Run gateway start turns after) :
    Explained gateway start turns after := by
  induction hrun with
  | refl => exact h.explained
  | step _ hstep ih => exact ih.step hstep

/-- Whatever tasks create nodes with explicit ids, and however their steps interleave: the store
comes to hold two nodes with one id just where two tasks overlap, one of which creates a node with
the id between the question of the other for it and the node that this creates. Where they do not,
at most one call returns a node with the id, and none does if it was there before. And every call
that is over has returned its node, or the error that its id is taken, or the error of its
labels. -/
theorem ids_unique_unless_overlap (hready : start.Ready) (hrun : Run gateway start turns after)
    (id : String) :
    (2 ≤ after.store.count id ↔ Overlap turns id) ∧
      (¬Overlap turns id → start.store.count id + ∑ i, (after.tasks i).returned id ≤ 1) ∧
      ∀ i, ∀ call ∈ (after.tasks i).ended, ∃ own, usableId? call.1.id? = some own ∧
        CreationEnds gateway call.1 own call.2 := by
  have h := hready.explained_run hrun
  have hoverlap : 2 ≤ after.store.count id ↔ Overlap turns id := by
    refine ⟨h.overlap id, fun hturns => ?_⟩
    rw [h.store]
    exact start.store.two_le_count_of_overlap hturns
  refine ⟨hoverlap, fun hnone => ?_, fun i => (h.tasks i).ended⟩
  have hreturned : ∑ i, (after.tasks i).returned id ≤ ∑ i, (after.tasks i).written id :=
    Finset.sum_le_sum fun i _ => Nat.le_add_right _ _
  have hcount := h.written id
  have hone : ¬2 ≤ after.store.count id := fun htwo => hnone (hoverlap.mp htwo)
  omega

/-!
## Runs
-/

section

variable {store : NodeStore} {tasks : Fin n → CreatingTask} {i : Fin n} {task task' : CreatingTask}

/-- A task goes on without a turn. -/
theorem Run.silent (hrun : Run gateway start turns ⟨store, Function.update tasks i task⟩)
    (hstep : CreatingTask.Step gateway store task none task') :
    Run gateway start turns ⟨store, Function.update tasks i task'⟩ := by
  have hself : Function.update tasks i task i = task := Function.update_self i task tasks
  have hnext := hrun.step (.silent i (hself.symm ▸ hstep))
  rw [List.append_nil, Function.update_idem] at hnext
  exact hnext

/-- A task goes on with a turn. -/
theorem Run.turn (hrun : Run gateway start turns ⟨store, Function.update tasks i task⟩)
    {act : StoreAct} (hstep : CreatingTask.Step gateway store task (some act) task') :
    Run gateway start (turns ++ [⟨i, act⟩]) ⟨store.after act, Function.update tasks i task'⟩ := by
  have hself : Function.update tasks i task i = task := Function.update_self i task tasks
  have hnext := hrun.step (.turn i (hself.symm ▸ hstep))
  rw [Function.update_idem] at hnext
  exact hnext

variable {request : NodeRequest} {rest : List NodeRequest} {id : String} {labels : List String}

/-- A task that is left alone creates a node under a free id. -/
theorem Run.create_alone (hrun : Run gateway start turns ⟨store, tasks⟩)
    (hrunning : (tasks i).running? = none) (hwaiting : (tasks i).waiting = request :: rest)
    (hid : usableId? request.id? = some id)
    (hlabels : Gateway.labelsOfNew gateway request.labels = .ok labels)
    (hfree : store.count id = 0) :
    Run gateway start (turns ++ [⟨i, .check id⟩] ++ [⟨i, .create (request.stored labels id)⟩])
      ⟨store ++ [request.stored labels id], Function.update tasks i {
        waiting := rest
        ended := (tasks i).ended ++
          [(request, .ok (Node.ofLabels id labels request.properties.withoutReserved))] }⟩ := by
  have hidle : Run gateway start turns ⟨store, Function.update tasks i (tasks i)⟩ := by
    rw [Function.update_eq_self]
    exact hrun
  have hstarted := hidle.silent (.start { id := fun _ => "" } hrunning hwaiting)
  have hchecked := hstarted.turn (.check_free hid rfl hfree)
  have hcreated := hchecked.turn (.create hlabels rfl)
  exact hcreated.silent (.finish rfl)

/-- A task that is left alone finds that an id is taken. -/
theorem Run.taken_alone (hrun : Run gateway start turns ⟨store, tasks⟩)
    (hrunning : (tasks i).running? = none) (hwaiting : (tasks i).waiting = request :: rest)
    (hid : usableId? request.id? = some id) (count : Int64) (hcount : count.toInt = store.count id)
    (hpositive : count > 0) :
    Run gateway start (turns ++ [⟨i, .check id⟩]) ⟨store, Function.update tasks i {
      waiting := rest
      ended := (tasks i).ended ++ [(request, .error (.itemExists (.node id)))] }⟩ := by
  have hidle : Run gateway start turns ⟨store, Function.update tasks i (tasks i)⟩ := by
    rw [Function.update_eq_self]
    exact hrun
  have hstarted := hidle.silent (.start { id := fun _ => "" } hrunning hwaiting)
  have hchecked := hstarted.turn (.check_taken hid rfl hcount hpositive)
  exact hchecked.silent (.finish rfl)

/-- A task that has found an id free creates a node under it, though another has done so since. -/
theorem Run.create_across (hrun : Run gateway start turns ⟨store, tasks⟩)
    (hrunning : ∀ i, (tasks i).running? = none) {i j : Fin n} (hij : i ≠ j)
    (hwaiting : ∀ k ∈ [i, j], (tasks k).waiting = [request])
    (hid : usableId? request.id? = some id)
    (hlabels : Gateway.labelsOfNew gateway request.labels = .ok labels)
    (hfree : store.count id = 0) :
    let written : CreatingTask → CreatingTask := fun task => {
      waiting := []
      ended := task.ended ++
        [(request, .ok (Node.ofLabels id labels request.properties.withoutReserved))] }
    ∃ turns, Run gateway start turns
      ⟨store ++ [request.stored labels id] ++ [request.stored labels id],
        Function.update (Function.update tasks j (written (tasks j))) i (written (tasks i))⟩ := by
  intro written
  have hidle : Run gateway start turns ⟨store, Function.update tasks i (tasks i)⟩ := by
    rw [Function.update_eq_self]
    exact hrun
  have hstarted := hidle.silent
    (.start { id := fun _ => "" } (hrunning i) (hwaiting i (by simp)))
  have hchecked := hstarted.turn (.check_free hid rfl hfree)
  -- The other task runs the whole of its call between the two turns of this one.
  have hother := hchecked.create_alone (i := j) (by rw [Function.update_of_ne hij.symm, hrunning])
    (by rw [Function.update_of_ne hij.symm, hwaiting j (by simp)]) hid hlabels hfree
  rw [Function.update_of_ne hij.symm, Function.update_comm hij] at hother
  exact ⟨_, (hother.turn (.create hlabels rfl)).silent (.finish rfl)⟩

end

/-- Two tasks create a node with one id, one after the other: the second finds that the id is
taken. -/
theorem ids_unique_unless_overlap_one_after_the_other :
    let gateway : Gateway := { filters := FilterCompiler.equalities }
    let request : NodeRequest := { id? := some "x", labels := ["Person"] }
    let start : SharedStore 2 := ⟨[], fun _ => { waiting := [request] }⟩
    start.Ready ∧ ∃ turns after, Run gateway start turns after ∧
      (2 ≤ after.store.count "x" ↔ Overlap turns "x") ∧ ¬Overlap turns "x" ∧
      start.store.count "x" + ∑ i, (after.tasks i).returned "x" ≤ 1 ∧
      (∀ i, ∀ call ∈ (after.tasks i).ended, ∃ own, usableId? call.1.id? = some own ∧
        CreationEnds gateway call.1 own call.2) ∧
      (after.tasks 0).ended = [(request, .ok ⟨"x", ["Person"], {}⟩)] ∧
      (after.tasks 1).ended = [(request, .error (.itemExists (.node "x")))] := by
  intro gateway request start
  have hready : start.Ready :=
    ⟨fun _ => List.forall_mem_singleton.mpr rfl, fun _ => rfl, fun _ => rfl, fun _ => Nat.zero_le _⟩
  have hid : usableId? request.id? = some "x" := by rfl
  have hlabels : Gateway.labelsOfNew gateway request.labels = .ok ["Person"] := by rfl
  have hcreated := (Run.refl : Run gateway start [] start).create_alone (i := 0) rfl rfl hid hlabels
    rfl
  have hrun := hcreated.taken_alone (i := 1) rfl rfl hid 1 rfl (by decide)
  obtain ⟨hiff, hreturned, hended⟩ := ids_unique_unless_overlap hready hrun "x"
  have hnone : ¬Overlap _ "x" := fun hoverlap => absurd (hiff.mpr hoverlap) (by decide)
  exact ⟨hready, _, _, hrun, hiff, hnone, hreturned hnone, hended, rfl, rfl⟩

/-- Two tasks create a node with one id at the same time: one creates it between the question of the
other for the id and the node that this creates, and both calls return a node. -/
theorem two_nodes_with_one_id :
    let gateway : Gateway := { filters := FilterCompiler.equalities }
    let request : NodeRequest := { id? := some "x", labels := ["Person"] }
    let start : SharedStore 2 := ⟨[], fun _ => { waiting := [request] }⟩
    start.Ready ∧ ∃ turns after, Run gateway start turns after ∧ after.store.count "x" = 2 ∧
      ∀ i, (after.tasks i).ended = [(request, .ok ⟨"x", ["Person"], {}⟩)] := by
  intro gateway request start
  have hready : start.Ready :=
    ⟨fun _ => List.forall_mem_singleton.mpr rfl, fun _ => rfl, fun _ => rfl, fun _ => Nat.zero_le _⟩
  have hid : usableId? request.id? = some "x" := by rfl
  have hlabels : Gateway.labelsOfNew gateway request.labels = .ok ["Person"] := by rfl
  have hdistinct : (0 : Fin 2) ≠ 1 := by decide
  obtain ⟨turns, hrun⟩ := (Run.refl : Run gateway start [] start).create_across (fun _ => rfl)
    hdistinct (fun _ _ => rfl) hid hlabels rfl
  exact ⟨hready, turns, _, hrun, rfl, Fin.forall_fin_two.mpr ⟨rfl, rfl⟩⟩

end SharedStore

end GraphGateway
