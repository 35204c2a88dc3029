import GraphGateway.Proofs.Gateway.Orderly
import GraphGateway.Proofs.Renaming.Basic
import GraphGateway.Proofs.SortedMap

/-!
# Elements are stored under the id that was asked for

Storing an element is two steps that the store does not take as one: a statement asks whether the id
is there, another one creates or changes the element. The operations keep the two together: they
write at most once for an element, last, right behind an answer that allows it, and the id of the
question is the one in the data, whatever the properties of the request say about ids and labels.
-/

namespace GraphGateway

/-- The two ways to store an element. -/
inductive Intent where
  | create
  | update
  deriving DecidableEq, Repr

namespace Intent

/-- Whether the intent is refused where an id is there or not. -/
def refuses : Intent → Bool → Bool
  | create, present => present
  | update, present => !present

/-- The counts of elements with an id under which the intent is allowed. -/
def Allows : Intent → Int64 → Prop
  | create, count => count ≤ 0
  | update, count => 0 < count

/-- What is not refused is allowed. -/
theorem allows_of_refuses_eq_false {intent : Intent} {count : Int64}
    (h : intent.refuses (decide (count > 0)) = false) : intent.Allows count := by
  cases intent with
  | create => exact Int64.not_lt.mp (of_decide_eq_false h)
  | update =>
    rw [refuses, Bool.not_eq_false'] at h
    have hcount : count > 0 := of_decide_eq_true h
    exact hcount

end Intent

/-- The id that an element is stored under when it is created, and the supply after that: the id of
the request if there is one that is not blank, and otherwise the next of the supply. -/
def IdSupply.idFor (supply : IdSupply) : Option String → String × IdSupply
  | some id => if Text.isBlankText id then supply.mint else (id, supply)
  | none => supply.mint

/-- The statement that counts the elements with an id. -/
def ElementKind.presence : ElementKind → String → Statement
  | node => NodeStatement.presence
  | relationship => EdgeStatement.presence

/-- The statements that store elements of a kind. -/
inductive Statement.Storing : ElementKind → Intent → Statement → Prop where
  | createNode (labels : List String) (data : Properties) :
      Storing .node .create (NodeStatement.create labels data)
  | updateNode (id : String) (labels : List String) (data : Properties) :
      Storing .node .update (NodeStatement.update id labels data)
  | createEdge (source target type : String) (data : Properties) :
      Storing .relationship .create (EdgeStatement.create source target type data)
  | updateEdge (id : String) (type? : Option String) (data : Properties) :
      Storing .relationship .update (EdgeStatement.update id type? data)

namespace Exchange

/-- An exchange that asks for an id, with an answer that allows the intent. -/
structure Checks (kind : ElementKind) (intent : Intent) (id : String) (exchange : Exchange) :
    Prop where
  access : exchange.access = .read
  statement : exchange.statement = kind.presence id
  answer : ∃ rows count, exchange.session.answer = .ok rows ∧ Answer.count rows = .ok count ∧
    intent.Allows count

/-- An exchange that stores an element under an id: with the properties of the request, apart from
those under reserved keys, and with the id itself. -/
structure Stores (kind : ElementKind) (intent : Intent) (id : String) (properties : Properties)
    (exchange : Exchange) : Prop where
  access : exchange.access = .write
  statement : Statement.Storing kind intent exchange.statement
  data : ∃ data, exchange.statement.params.get? "data" = some (.ofProperties data) ∧
    ∀ key, data.get? key =
      if key = "id" then some (.text id) else if key = "labels" then none else properties.get? key
  id : intent = .update → exchange.statement.params.get? "id" = some (.text id)

end Exchange

/-- How storing one element may go: nothing is written and there is an error, or one statement
creates or changes the element, last and right behind the answer that allows it. -/
inductive StoresOne (kind : ElementKind) (intents : List Intent) (supply : IdSupply)
    (id? : Option String) (properties : Properties) :
    List Exchange → Except Error String → IdSupply → Prop where
  | refused {exchanges : List Exchange} (hreads : ∀ exchange ∈ exchanges, exchange.access = .read)
      (error : Error) (rest : IdSupply) :
      StoresOne kind intents supply id? properties exchanges (.error error) rest
  | created (earlier : List Exchange) {check write : Exchange} {outcome : Except Error String}
      (hintent : .create ∈ intents) (hreads : ∀ exchange ∈ earlier, exchange.access = .read)
      (hcheck : check.Checks kind .create (supply.idFor id?).1)
      (hwrite : write.Stores kind .create (supply.idFor id?).1 properties)
      (houtcome : ∀ id, outcome = .ok id → id = (supply.idFor id?).1) :
      StoresOne kind intents supply id? properties (earlier ++ [check, write]) outcome
        (supply.idFor id?).2
  | updated (earlier : List Exchange) {check write : Exchange} {id : String}
      (hintent : .update ∈ intents) (hid : id? = some id) (hblank : Text.isBlankText id = false)
      (hreads : ∀ exchange ∈ earlier, exchange.access = .read)
      (hcheck : check.Checks kind .update id) (hwrite : write.Stores kind .update id properties)
      (outcome : Except Error String) (rest : IdSupply) :
      StoresOne kind intents supply id? properties (earlier ++ [check, write]) outcome rest

/-- How creating nodes one after the other may go: as it may for each, up to the first error. -/
inductive StoresEach : IdSupply → List NodeRequest → List Exchange → Except Error (List String) →
    IdSupply → Prop where
  | done (supply : IdSupply) : StoresEach supply [] [] (.ok []) supply
  | failed {supply rest : IdSupply} {request : NodeRequest} {exchanges : List Exchange}
      {error : Error} (requests : List NodeRequest)
      (hfirst : StoresOne .node [.create] supply request.id? request.properties exchanges
        (.error error) rest) :
      StoresEach supply (request :: requests) exchanges (.error error) rest
  | stored {supply middle rest : IdSupply} {request : NodeRequest} {requests : List NodeRequest}
      {first second : List Exchange} {id : String} {outcome : Except Error (List String)}
      (hfirst : StoresOne .node [.create] supply request.id? request.properties first (.ok id)
        middle)
      (hrest : StoresEach middle requests second outcome rest) :
      StoresEach supply (request :: requests) (first ++ second) (outcome.map (id :: ·)) rest

/-- The stored data of an element are its properties but for the reserved keys, and its id. -/
theorem get?_storedData (id : String) (properties : Properties) (key : String) :
    (storedData id properties.withoutReserved).get? key =
      if key = "id" then some (.text id) else if key = "labels" then none
      else properties.get? key := by
  rw [storedData, SortedMap.get?_insert, Properties.get?_withoutReserved]
  by_cases hid : key = "id"
  · rw [if_pos hid, if_pos hid]
  · simp only [hid, false_or]

/-- An id is usable if it is there and not blank. -/
theorem usableId?_eq_some_iff {id? : Option String} {id : String} :
    usableId? id? = some id ↔ id? = some id ∧ Text.isBlankText id = false := by
  simp [usableId?, Option.filter_eq_some_iff]

namespace StoresOne

variable {kind : ElementKind} {intents : List Intent} {supply rest : IdSupply}
  {id? : Option String} {properties : Properties} {exchanges : List Exchange}
  {outcome : Except Error String}

/-- More intents allow for more. -/
theorem mono {others : List Intent} (hintents : intents ⊆ others)
    (h : StoresOne kind intents supply id? properties exchanges outcome rest) :
    StoresOne kind others supply id? properties exchanges outcome rest := by
  cases h with
  | refused hreads => exact .refused hreads _ _
  | created earlier hintent hreads hcheck hwrite houtcome =>
    exact .created earlier (hintents hintent) hreads hcheck hwrite houtcome
  | updated earlier hintent hid hblank hreads hcheck hwrite =>
    exact .updated earlier (hintents hintent) hid hblank hreads hcheck hwrite _ _

/-- Something may be asked before. -/
theorem behind_read {exchange : Exchange} (hread : exchange.access = .read)
    (h : StoresOne kind intents supply id? properties exchanges outcome rest) :
    StoresOne kind intents supply id? properties (exchange :: exchanges) outcome rest := by
  have hall {others : List Exchange} (hothers : ∀ other ∈ others, other.access = .read) :
      ∀ other ∈ exchange :: others, other.access = .read :=
    List.forall_mem_cons.mpr ⟨hread, hothers⟩
  cases h with
  | refused hreads => exact .refused (hall hreads) _ _
  | created earlier hintent hreads hcheck hwrite houtcome =>
    exact .created (exchange :: earlier) hintent (hall hreads) hcheck hwrite houtcome
  | updated earlier hintent hid hblank hreads hcheck hwrite =>
    exact .updated (exchange :: earlier) hintent hid hblank (hall hreads) hcheck hwrite _ _

end StoresOne

namespace Gateway

open Call

variable {α : Type} {supply rest : IdSupply} {exchanges : List Exchange}

/-- Whether an element of a kind has an id. -/
def hasElement : ElementKind → String → Call Bool
  | .node => hasNode
  | .relationship => hasEdge

/-- Asking whether an id is there takes one exchange, and the answer is about its count. -/
theorem exchange_of_hasElement {kind : ElementKind} {id : String} {outcome : Except Error Bool}
    (h : (hasElement kind id).Runs supply exchanges outcome rest) :
    rest = supply ∧ ∃ session : Session,
      exchanges = [⟨.read, kind.presence id, session⟩] ∧
      ∀ present, outcome = .ok present → ∃ rows count, session.answer = .ok rows ∧
        Answer.count rows = .ok count ∧ present = decide (count > 0) := by
  have hparts : hasElement kind id = (do
      let rows ← Call.read (kind.presence id)
      let count ← check (Answer.count rows)
      return count > 0) := by
    cases kind <;> rfl
  rw [hparts] at h
  obtain ⟨error, hread, rfl⟩ | ⟨rows, middle, first, second, rfl, hread, hcounted⟩ :=
    runs_bind_iff.mp h
  · obtain ⟨session, rfl, -, rfl⟩ := runs_execute_iff.mp hread
    exact ⟨rfl, session, rfl, nofun⟩
  · obtain ⟨session, rfl, hrows, rfl⟩ := runs_execute_iff.mp hread
    have hanswer : session.answer = .ok rows := by
      cases hsession : session.answer with
      | error message =>
        rw [hsession] at hrows
        cases hrows
      | ok answered =>
        rw [hsession] at hrows
        cases hrows
        rfl
    obtain ⟨error, hcheck, rfl⟩ | ⟨count, middle, first, second, rfl, hcheck, hend⟩ :=
      runs_bind_iff.mp hcounted
    · obtain ⟨rfl, -, rfl⟩ := runs_check_iff.mp hcheck
      exact ⟨rfl, session, rfl, nofun⟩
    · obtain ⟨rfl, hcount, rfl⟩ := runs_check_iff.mp hcheck
      obtain ⟨rfl, rfl, rfl⟩ := runs_pure_iff.mp hend
      refine ⟨rfl, session, rfl, fun present hpresent => ?_⟩
      cases hpresent
      exact ⟨rows, count, hanswer, hcount.symm, rfl⟩

/-- A call that goes on only if the store's answer about an id allows an intent. -/
def guarded (kind : ElementKind) (intent : Intent) (id : String) (error : Error) (act : Call α) :
    Call α := do
  let present ← hasElement kind id
  if intent.refuses present then throw error else act

/-- Where such a call goes on, the answer has allowed the intent. -/
theorem runs_guarded {kind : ElementKind} {intent : Intent} {id : String} {error : Error}
    {act : Call α} {outcome : Except Error α}
    (h : (guarded kind intent id error act).Runs supply exchanges outcome rest) :
    ((∀ exchange ∈ exchanges, exchange.access = .read) ∧ ∃ error, outcome = .error error) ∨
    ∃ check acted, exchanges = check :: acted ∧ check.Checks kind intent id ∧
      act.Runs supply acted outcome rest := by
  obtain ⟨failure, hask, rfl⟩ | ⟨present, middle, first, second, rfl, hask, hgo⟩ :=
    runs_bind_iff.mp h
  · obtain ⟨-, session, rfl, -⟩ := exchange_of_hasElement hask
    exact .inl ⟨by simp, failure, rfl⟩
  · obtain ⟨rfl, session, rfl, hanswered⟩ := exchange_of_hasElement hask
    obtain ⟨rows, count, hanswer, hcount, rfl⟩ := hanswered present rfl
    split at hgo
    next =>
      obtain ⟨rfl, rfl, -⟩ := runs_throw_iff.mp hgo
      exact .inl ⟨by simp, error, rfl⟩
    next hallowed =>
      have hallows := Intent.allows_of_refuses_eq_false (Bool.eq_false_iff.mpr hallowed)
      exact .inr ⟨_, second, rfl, ⟨rfl, rfl, rows, count, hanswer, hcount, hallows⟩, hgo⟩

/-- A call that stores an element under an id, once it may: there is an error before anything is
asked, or just one statement is. -/
def WritesOnce (kind : ElementKind) (intent : Intent) (id : String) (properties : Properties)
    (idOf : α → String) (act : Call α) : Prop :=
  ∀ ⦃supply exchanges outcome rest⦄, act.Runs supply exchanges outcome rest →
    (exchanges = [] ∧ ∃ error, outcome = .error error) ∨
    ∃ write, exchanges = [write] ∧ write.Stores kind intent id properties ∧
      (intent = .create → rest = supply ∧ ∀ value, outcome = .ok value → idOf value = id)

namespace WritesOnce

variable {β : Type} {kind : ElementKind} {intent : Intent} {id : String} {properties : Properties}
  {idOf : α → String}

/-- Something may be checked before. -/
theorem check_bind {checked : Except Error β} {continuation : β → Call α}
    (hcontinuation : ∀ value, WritesOnce kind intent id properties idOf (continuation value)) :
    WritesOnce kind intent id properties idOf (check checked >>= continuation) := by
  intro supply exchanges outcome rest h
  obtain ⟨error, hcheck, rfl⟩ | ⟨value, middle, first, second, rfl, hcheck, hwrite⟩ :=
    runs_bind_iff.mp h
  · obtain ⟨rfl, -, -⟩ := runs_check_iff.mp hcheck
    exact .inl ⟨rfl, error, rfl⟩
  · obtain ⟨rfl, -, rfl⟩ := runs_check_iff.mp hcheck
    exact hcontinuation value hwrite

/-- The statement stores the element, and nothing is asked behind it. -/
theorem write_bind {statement : Statement} {continuation : List Row → Call α}
    (hstores : ∀ session, Exchange.Stores kind intent id properties ⟨.write, statement, session⟩)
    (hend : ∀ ⦃rows supply exchanges outcome rest⦄,
      (continuation rows).Runs supply exchanges outcome rest → exchanges = [] ∧
        (intent = .create → rest = supply ∧ ∀ value, outcome = .ok value → idOf value = id)) :
    WritesOnce kind intent id properties idOf (write statement >>= continuation) := by
  intro supply exchanges outcome rest h
  obtain ⟨error, hwrite, rfl⟩ | ⟨rows, middle, first, second, rfl, hwrite, hrest⟩ :=
    runs_bind_iff.mp h
  · obtain ⟨session, rfl, -, rfl⟩ := runs_execute_iff.mp hwrite
    exact .inr ⟨_, rfl, hstores session, fun _ => ⟨rfl, nofun⟩⟩
  · obtain ⟨session, rfl, -, rfl⟩ := runs_execute_iff.mp hwrite
    obtain ⟨rfl, hcreated⟩ := hend hrest
    exact .inr ⟨_, rfl, hstores session, hcreated⟩

end WritesOnce

/-- Creating a node whose id is free writes once. -/
theorem writesOnce_createFreeNode (gateway : Gateway) (request : NodeRequest) (id : String) :
    WritesOnce .node .create id request.properties Node.id (createFreeNode gateway request id) := by
  refine .check_bind fun labels => .write_bind (fun session => ⟨rfl, .createNode _ _, ?_, nofun⟩) ?_
  · exact ⟨_, by simp [NodeStatement.create, Statement.given, SortedMap.get?_insert],
      get?_storedData id _⟩
  · intro rows supply exchanges outcome rest h
    obtain ⟨rfl, rfl, rfl⟩ := runs_pure_iff.mp h
    refine ⟨rfl, fun _ => ⟨rfl, fun node hnode => ?_⟩⟩
    cases hnode
    rfl

/-- Changing a node whose id is there writes once. -/
theorem writesOnce_updatePresentNode (request : NodeRequest) (id : String) :
    WritesOnce .node .update id request.properties Node.id (updatePresentNode request id) := by
  refine .check_bind fun labels =>
    .write_bind (fun session => ⟨rfl, .updateNode _ _ _, ?_, fun _ => ?_⟩) ?_
  · exact ⟨_, by simp [NodeStatement.update, Statement.given, SortedMap.get?_insert],
      get?_storedData id _⟩
  · simp [NodeStatement.update, Statement.given, SortedMap.get?_insert]
  · intro rows supply exchanges outcome rest h
    refine ⟨Silent.bind (.draw _) (fun values => ?_) h, nofun⟩
    split
    next => exact .pure _
    next => exact .throw _

/-- Creating an edge whose id is free writes once. -/
theorem writesOnce_createFreeEdge (request : EdgeRequest) (type id : String) :
    WritesOnce .relationship .create id request.properties Edge.id
      (createFreeEdge request type id) := by
  refine .write_bind (fun session => ⟨rfl, .createEdge _ _ _ _, ?_, nofun⟩) ?_
  · exact ⟨_, by simp [EdgeStatement.create, Statement.given, SortedMap.get?_insert],
      get?_storedData id _⟩
  · intro rows supply exchanges outcome rest h
    split at h
    next =>
      obtain ⟨rfl, rfl, rfl⟩ := runs_throw_iff.mp h
      exact ⟨rfl, fun _ => ⟨rfl, nofun⟩⟩
    next =>
      obtain ⟨rfl, rfl, rfl⟩ := runs_pure_iff.mp h
      refine ⟨rfl, fun _ => ⟨rfl, fun edge hedge => ?_⟩⟩
      cases hedge
      rfl

/-- Changing an edge whose id is there writes once. -/
theorem writesOnce_updatePresentEdge (type? : Option String) (properties : Properties)
    (id : String) :
    WritesOnce .relationship .update id properties Edge.id
      (updatePresentEdge type? properties id) := by
  refine .write_bind (fun session => ⟨rfl, .updateEdge _ _ _, ?_, fun _ => ?_⟩) ?_
  · exact ⟨_, by simp [EdgeStatement.update, Statement.given, SortedMap.get?_insert],
      get?_storedData id _⟩
  · simp [EdgeStatement.update, Statement.given, SortedMap.get?_insert]
  · intro rows supply exchanges outcome rest h
    refine ⟨Silent.bind (.draw _) (fun values => ?_) h, nofun⟩
    split
    next => exact .pure _
    next => exact .throw _

/-- The chosen id is that of the request, or the next of the supply. -/
theorem runs_chooseId {id? : Option String} {outcome : Except Error String}
    (h : (chooseId id?).Runs supply exchanges outcome rest) :
    exchanges = [] ∧ outcome = .ok (supply.idFor id?).1 ∧ rest = (supply.idFor id?).2 := by
  cases id? with
  | none => exact runs_mint_iff.mp h
  | some id =>
    cases hblank : Text.isBlankText id with
    | true =>
      have hmint : chooseId (some id) = mint := by
        simp [chooseId, usableId?, Option.filter, hblank]
      rw [hmint] at h
      rw [IdSupply.idFor, if_pos hblank]
      exact runs_mint_iff.mp h
    | false =>
      have hgiven : chooseId (some id) = pure id := by
        simp [chooseId, usableId?, Option.filter, hblank]
      rw [hgiven] at h
      rw [IdSupply.idFor, if_neg (by simp [hblank])]
      exact runs_pure_iff.mp h

section

variable {kind : ElementKind} {properties : Properties} {idOf : α → String}
  {outcome : Except Error α}

/-- An element is created under a chosen id, once the store has answered that it is free. -/
theorem storesOne_of_create {id? : Option String} {refusal : String → Error}
    {act : String → Call α} (hact : ∀ id, WritesOnce kind .create id properties idOf (act id))
    (h : (chooseId id? >>= fun id => guarded kind .create id (refusal id) (act id)).Runs
      supply exchanges outcome rest) :
    StoresOne kind [.create] supply id? properties exchanges (outcome.map idOf) rest := by
  obtain ⟨error, hchoose, -⟩ | ⟨id, middle, first, second, rfl, hchoose, hguarded⟩ :=
    runs_bind_iff.mp h
  · cases (runs_chooseId hchoose).2.1
  · -- The one id that is chosen goes into the question, the data and the element.
    obtain ⟨rfl, hid, rfl⟩ := runs_chooseId hchoose
    cases hid
    obtain ⟨hreads, error, rfl⟩ | ⟨check, acted, rfl, hcheck, hacted⟩ := runs_guarded hguarded
    · exact .refused hreads error rest
    · obtain ⟨rfl, error, rfl⟩ | ⟨write, rfl, hwrite, hcreated⟩ := hact _ hacted
      · exact .refused (by simp [hcheck.access]) error rest
      · obtain ⟨rfl, hvalue⟩ := hcreated rfl
        refine .created [] (List.mem_singleton_self _) nofun hcheck hwrite fun id hid => ?_
        cases outcome with
        | error => cases hid
        | ok value =>
          cases hid
          exact hvalue value rfl

/-- An element is changed under a given id, once the store has answered that it is there. -/
theorem storesOne_of_update {id : String} {refusal : Error} {act : Call α}
    (hblank : Text.isBlankText id = false)
    (hact : WritesOnce kind .update id properties idOf act)
    (h : (guarded kind .update id refusal act).Runs supply exchanges outcome rest) :
    StoresOne kind [.update] supply (some id) properties exchanges (outcome.map idOf) rest := by
  obtain ⟨hreads, error, rfl⟩ | ⟨check, acted, rfl, hcheck, hacted⟩ := runs_guarded h
  · exact .refused hreads error rest
  · obtain ⟨rfl, error, rfl⟩ | ⟨write, rfl, hwrite, -⟩ := hact hacted
    · exact .refused (by simp [hcheck.access]) error rest
    · exact .updated [] (List.mem_singleton_self _) rfl hblank nofun hcheck hwrite _ _

/-- Where the store is asked for an id first and one of two calls goes on, the question stands
before what that call does. -/
theorem storesOne_of_upsert {id : String} {id? : Option String} {present absent : Call α}
    {intents : List Intent}
    (hpresent : ∀ {exchanges}, present.Runs supply exchanges outcome rest →
      StoresOne kind intents supply id? properties exchanges (outcome.map idOf) rest)
    (habsent : ∀ {exchanges}, absent.Runs supply exchanges outcome rest →
      StoresOne kind intents supply id? properties exchanges (outcome.map idOf) rest)
    (h : (hasElement kind id >>= fun found => if found then present else absent).Runs
      supply exchanges outcome rest) :
    StoresOne kind intents supply id? properties exchanges (outcome.map idOf) rest := by
  obtain ⟨error, hask, rfl⟩ | ⟨found, middle, first, second, rfl, hask, hgo⟩ :=
    runs_bind_iff.mp h
  · obtain ⟨-, session, rfl, -⟩ := exchange_of_hasElement hask
    exact .refused (by simp) error rest
  · obtain ⟨rfl, session, rfl, -⟩ := exchange_of_hasElement hask
    refine .behind_read rfl ?_
    split at hgo
    next => exact hpresent hgo
    next => exact habsent hgo

end

section

variable {gateway : Gateway}

/-- Creating a node stores it under its id. -/
theorem storesOne_createNode {request : NodeRequest} {outcome : Except Error Node}
    (h : (createNode gateway request).Runs supply exchanges outcome rest) :
    StoresOne .node [.create] supply request.id? request.properties exchanges
      (outcome.map Node.id) rest := by
  rw [createNode_eq] at h
  exact storesOne_of_create (writesOnce_createFreeNode gateway request) h

/-- Creating nodes stores each under its id. -/
theorem storesEach_createNodes {requests : List NodeRequest} {outcome : Except Error (List Node)}
    (h : (createNodes gateway requests).Runs supply exchanges outcome rest) :
    StoresEach supply requests exchanges (outcome.map (List.map Node.id)) rest := by
  induction requests generalizing supply exchanges outcome rest with
  | nil =>
    obtain ⟨rfl, rfl, rfl⟩ := runs_pure_iff.mp h
    exact .done _
  | cons request requests ih =>
    obtain ⟨error, hfirst, rfl⟩ | ⟨node, middle, first, second, rfl, hfirst, hothers⟩ :=
      runs_bind_iff.mp h
    · exact .failed requests (storesOne_createNode hfirst)
    · obtain ⟨error, hrest, rfl⟩ | ⟨others, last, second, third, rfl, hrest, hend⟩ :=
        runs_bind_iff.mp hothers
      · exact .stored (storesOne_createNode hfirst) (ih hrest)
      · obtain ⟨rfl, rfl, rfl⟩ := runs_pure_iff.mp hend
        rw [List.append_nil]
        exact .stored (storesOne_createNode hfirst) (ih hrest)

/-- Changing a node stores it under its id. -/
theorem storesOne_updateNode {request : NodeRequest} {outcome : Except Error Node}
    (h : (updateNode request).Runs supply exchanges outcome rest) :
    StoresOne .node [.update] supply request.id? request.properties exchanges
      (outcome.map Node.id) rest := by
  rw [updateNode_eq] at h
  split at h
  next =>
    obtain ⟨rfl, rfl, rfl⟩ := runs_throw_iff.mp h
    exact .refused (List.forall_mem_nil _) _ _
  next id hid =>
    obtain ⟨hid, hblank⟩ := usableId?_eq_some_iff.mp hid
    rw [hid]
    exact storesOne_of_update hblank (writesOnce_updatePresentNode request id) h

/-- Changing a node or creating it stores it under its id. -/
theorem storesOne_upsertNode {request : NodeRequest} {outcome : Except Error Node}
    (h : (upsertNode gateway request).Runs supply exchanges outcome rest) :
    StoresOne .node [.create, .update] supply request.id? request.properties exchanges
      (outcome.map Node.id) rest := by
  rw [upsertNode_eq] at h
  split at h
  next => exact (storesOne_createNode h).mono (by simp)
  next =>
    exact storesOne_of_upsert (fun h => (storesOne_updateNode h).mono (by simp))
      (fun h => (storesOne_createNode h).mono (by simp)) h

/-- Creating an edge stores it under its id. -/
theorem storesOne_createEdge {request : EdgeRequest} {outcome : Except Error Edge}
    (h : (createEdge gateway request).Runs supply exchanges outcome rest) :
    StoresOne .relationship [.create] supply request.id? request.properties exchanges
      (outcome.map Edge.id) rest := by
  rw [createEdge_eq] at h
  obtain ⟨error, htype, rfl⟩ | ⟨type, middle, first, second, rfl, htype, hcreate⟩ :=
    runs_bind_iff.mp h
  · obtain ⟨rfl, -, -⟩ := runs_check_iff.mp htype
    exact .refused (List.forall_mem_nil _) error rest
  · obtain ⟨rfl, -, rfl⟩ := runs_check_iff.mp htype
    exact storesOne_of_create (writesOnce_createFreeEdge request type) hcreate

/-- Changing an edge stores it under its id. -/
theorem storesOne_updateEdge {id : String} {labels : List String} {properties : Properties}
    {outcome : Except Error Edge}
    (h : (updateEdge id labels properties).Runs supply exchanges outcome rest) :
    StoresOne .relationship [.update] supply (some id) properties exchanges
      (outcome.map Edge.id) rest := by
  rw [updateEdge_eq] at h
  split at h
  next =>
    obtain ⟨rfl, rfl, rfl⟩ := runs_throw_iff.mp h
    exact .refused (List.forall_mem_nil _) _ _
  next hblank =>
    obtain ⟨error, htype, rfl⟩ | ⟨type?, middle, first, second, rfl, htype, hupdate⟩ :=
      runs_bind_iff.mp h
    · obtain ⟨rfl, -, -⟩ := runs_check_iff.mp htype
      exact .refused (List.forall_mem_nil _) error rest
    · obtain ⟨rfl, -, rfl⟩ := runs_check_iff.mp htype
      exact storesOne_of_update (Bool.eq_false_iff.mpr hblank)
        (writesOnce_updatePresentEdge type? properties id) hupdate

/-- Changing an edge or creating it stores it under its id. -/
theorem storesOne_upsertEdge {request : EdgeRequest} {outcome : Except Error Edge}
    (h : (upsertEdge gateway request).Runs supply exchanges outcome rest) :
    StoresOne .relationship [.create, .update] supply request.id? request.properties exchanges
      (outcome.map Edge.id) rest := by
  rw [upsertEdge_eq] at h
  split at h
  next => exact (storesOne_createEdge h).mono (by simp)
  next id hid =>
    obtain ⟨hid, -⟩ := usableId?_eq_some_iff.mp hid
    refine storesOne_of_upsert (fun h => ?_) (fun h => (storesOne_createEdge h).mono (by simp)) h
    rw [hid]
    exact (storesOne_updateEdge h).mono (by simp)

end

end Gateway

/-- However the operations that store elements go: for each element they write at most once, and
nothing comes behind that; the exchange before has asked whether the id is there, and its answer
allows to create or to change the element; and the element is stored with that id and with the
properties of the request, apart from those under reserved keys. The id is that of the request, or a
new one where an element is created without a usable id; a created element is returned with it. -/
theorem Operation.stores_behind_check (gateway : Gateway) (supply : IdSupply)
    (sessions : List Session) :
    (∀ request, (createNode request).Goes gateway supply sessions fun exchanges outcome rest =>
      StoresOne .node [.create] supply request.id? request.properties exchanges
        (outcome.map Node.id) rest) ∧
    (∀ requests, (createNodes requests).Goes gateway supply sessions fun exchanges outcome rest =>
      StoresEach supply requests exchanges (outcome.map (List.map Node.id)) rest) ∧
    (∀ request, (updateNode request).Goes gateway supply sessions fun exchanges outcome rest =>
      StoresOne .node [.update] supply request.id? request.properties exchanges
        (outcome.map Node.id) rest) ∧
    (∀ request, (upsertNode request).Goes gateway supply sessions fun exchanges outcome rest =>
      StoresOne .node [.create, .update] supply request.id? request.properties exchanges
        (outcome.map Node.id) rest) ∧
    (∀ request, (createEdge request).Goes gateway supply sessions fun exchanges outcome rest =>
      StoresOne .relationship [.create] supply request.id? request.properties exchanges
        (outcome.map Edge.id) rest) ∧
    (∀ id labels properties, (updateEdge id labels properties).Goes gateway supply sessions
      fun exchanges outcome rest =>
        StoresOne .relationship [.update] supply (some id) properties exchanges
          (outcome.map Edge.id) rest) ∧
    ∀ request, (upsertEdge request).Goes gateway supply sessions fun exchanges outcome rest =>
      StoresOne .relationship [.create, .update] supply request.id? request.properties exchanges
        (outcome.map Edge.id) rest := by
  refine ⟨fun request => goes_of_runs (fun h => ?_) sessions,
    fun requests => goes_of_runs (fun h => ?_) sessions,
    fun request => goes_of_runs (fun h => ?_) sessions,
    fun request => goes_of_runs (fun h => ?_) sessions,
    fun request => goes_of_runs (fun h => ?_) sessions,
    fun id labels properties => goes_of_runs (fun h => ?_) sessions,
    fun request => goes_of_runs (fun h => ?_) sessions⟩
  · exact Gateway.storesOne_createNode h
  · exact Gateway.storesEach_createNodes h
  · exact Gateway.storesOne_updateNode h
  · exact Gateway.storesOne_upsertNode h
  · exact Gateway.storesOne_createEdge h
  · exact Gateway.storesOne_updateEdge h
  · exact Gateway.storesOne_upsertEdge h

end GraphGateway
