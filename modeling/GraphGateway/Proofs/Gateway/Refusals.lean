import GraphGateway.Proofs.Dialogue.Logs
import GraphGateway.Proofs.Gateway.ReadBack
import GraphGateway.Proofs.Gateway.Stages

/-!
# What is refused leaves the store alone

An operation that refuses a pattern or a filter has not acquired any session, and one that refuses
other input, or an id that is taken, has not acquired any for writing. The one operation that stores
several nodes refuses one after others may have been stored: then just those before it have been,
and it is as if the ones behind it had never been asked for.
-/

namespace GraphGateway

open Call

namespace Call.Behind

variable {α : Type} {call : Call α} {stage : Stage} {supply rest : IdSupply}
  {exchanges : List Exchange} {error : Error}

/-- Before an error that must come at the outset, nothing is asked. -/
theorem eq_nil_of_outset (hcall : Behind stage call)
    (hruns : call.Runs supply exchanges (.error error) rest) (herror : error.stage = .outset) :
    exchanges = [] := by
  refine List.eq_nil_iff_forall_not_mem.mpr fun exchange hexchange => ?_
  have hstage := (hcall hruns).2 exchange hexchange
  rw [herror] at hstage
  cases haccess : exchange.access with
  | read =>
    rw [haccess] at hstage
    exact Nat.not_succ_le_zero 0 hstage
  | write =>
    rw [haccess] at hstage
    exact Nat.not_succ_le_zero 1 hstage

/-- Before an error that must come before a change, the store is only read. -/
theorem read_of_reading (hcall : Behind stage call)
    (hruns : call.Runs supply exchanges (.error error) rest) (herror : error.stage = .reading) :
    ∀ exchange ∈ exchanges, exchange.access = .read := by
  intro exchange hexchange
  have hstage := (hcall hruns).2 exchange hexchange
  rw [herror] at hstage
  cases haccess : exchange.access with
  | read => rfl
  | write =>
    rw [haccess] at hstage
    exact absurd hstage (Nat.not_succ_le_self 1)

end Call.Behind

namespace Gateway

variable {gateway : Gateway}

/-!
## Several nodes
-/

/-- What creating nodes one after the other comes to: for each request one statement that creates a
node with the labels that are checked, and with the data and under the id that the node is returned
with. -/
inductive CreatesEach (gateway : Gateway) : IdSupply → List NodeRequest → List Node →
    List Statement → IdSupply → Prop where
  | done (supply : IdSupply) : CreatesEach gateway supply [] [] [] supply
  | created {supply rest : IdSupply} {request : NodeRequest} {requests : List NodeRequest}
      {labels : List String} {nodes : List Node} {statements : List Statement}
      (hlabels : labelsOfNew gateway request.labels = .ok labels)
      (hrest : CreatesEach gateway (supply.idFor request.id?).2 requests nodes statements rest) :
      CreatesEach gateway supply (request :: requests)
        (Node.ofLabels (supply.idFor request.id?).1 labels request.properties.withoutReserved ::
          nodes)
        (NodeStatement.create labels
          (storedData (supply.idFor request.id?).1 request.properties.withoutReserved) ::
          statements) rest

/-- Where all nodes are created, what is written is one statement for each. -/
theorem createsEach_of_runs {requests : List NodeRequest} {supply rest : IdSupply}
    {exchanges : List Exchange} {nodes : List Node}
    (h : (createNodes gateway requests).Runs supply exchanges (.ok nodes) rest) :
    CreatesEach gateway supply requests nodes (exchanges.filterMap Exchange.written?) rest := by
  induction requests generalizing supply exchanges nodes with
  | nil =>
    obtain ⟨rfl, hnodes, rfl⟩ := runs_pure_iff.mp h
    cases hnodes
    exact .done _
  | cons request requests ih =>
    obtain ⟨node, middle, first, second, rfl, hfirst, hothers⟩ := runs_bind_ok_iff.mp h
    obtain ⟨others, last, before, after, rfl, hrest, hend⟩ := runs_bind_ok_iff.mp hothers
    obtain ⟨rfl, hnodes, rfl⟩ := runs_pure_iff.mp hend
    cases hnodes
    obtain ⟨check, session, labels, hlabels, hcheck, hacquired, rfl, rfl, rfl⟩ :=
      runs_createNode_ok hfirst
    rw [List.append_nil, List.filterMap_append, List.filterMap_cons_none
      (Exchange.written?_of_read hcheck), List.filterMap_cons_some (b := _) (by
        rw [Exchange.written?, hacquired])]
    exact .created hlabels (ih hrest)

/-- A node that is refused is the end. -/
theorem play_createNodes_cons_of_error {request : NodeRequest} {supply rest : IdSupply}
    {sessions left : List Session} {error : Error} {log : List Event}
    (h : (createNode gateway request).play supply sessions = ⟨(.error error, rest), left, log⟩)
    (requests : List NodeRequest) :
    (createNodes gateway (request :: requests)).play supply sessions =
      ⟨(.error error, rest), left, log⟩ :=
  play_bind_of_error h _

/-- A node that is created leaves everything to the others. -/
theorem play_createNodes_cons_of_ok {request : NodeRequest} {supply middle rest : IdSupply}
    {sessions left left' : List Session} {node : Node} {outcome : Except Error (List Node)}
    {requests : List NodeRequest} {log log' : List Event}
    (h : (createNode gateway request).play supply sessions = ⟨(.ok node, middle), left, log⟩)
    (hrest : (createNodes gateway requests).play middle left = ⟨(outcome, rest), left', log'⟩) :
    (createNodes gateway (request :: requests)).play supply sessions =
      ⟨((node :: ·) <$> outcome, rest), left', log ++ log'⟩ := by
  rw [createNodes, play_bind_of_ok h]
  cases outcome with
  | error error =>
    rw [play_bind_of_error hrest]
    rfl
  | ok nodes =>
    rw [play_bind_of_ok hrest]
    exact congrArg (Played.mk _ _) (congrArg (log ++ ·) (List.append_nil log'))

/-- Where creating nodes fails, it does at one of them: those before have been created, and those
behind do not matter. -/
theorem play_createNodes_of_error {requests : List NodeRequest} {supply rest : IdSupply}
    {sessions left : List Session} {error : Error} {log : List Event}
    (h : (createNodes gateway requests).play supply sessions = ⟨(.error error, rest), left, log⟩) :
    ∃ before request after nodes middle between log₁ log₂,
      requests = before ++ request :: after ∧ log = log₁ ++ log₂ ∧
      (createNodes gateway before).play supply sessions = ⟨(.ok nodes, middle), between, log₁⟩ ∧
      (createNode gateway request).play middle between = ⟨(.error error, rest), left, log₂⟩ := by
  -- The induction is on the requests, with the supply and the sessions that each of them leaves:
  -- the first request fails, or one of the others does, or none.
  induction requests generalizing supply sessions log with
  | nil => cases h
  | cons request requests ih =>
    rcases hfirst : (createNode gateway request).play supply sessions with
      ⟨⟨error' | node, middle⟩, between, log₁⟩
    · rw [play_createNodes_cons_of_error hfirst] at h
      cases h
      exact ⟨[], request, requests, [], supply, sessions, [], log, rfl, rfl, rfl, hfirst⟩
    · rcases hrest : (createNodes gateway requests).play middle between with
        ⟨⟨error' | others, rest'⟩, left', log₂⟩
      · rw [play_createNodes_cons_of_ok hfirst hrest] at h
        cases h
        obtain ⟨before, failing, after, nodes, middle', between', log₂, log₃, rfl, rfl, hearlier,
          hlast⟩ := ih hrest
        exact ⟨request :: before, failing, after, node :: nodes, middle', between', log₁ ++ log₂,
          log₃, rfl, (List.append_assoc _ _ _).symm, play_createNodes_cons_of_ok hfirst hearlier,
          hlast⟩
      · rw [play_createNodes_cons_of_ok hfirst hrest] at h
        cases h

/-- Where a node is refused among several, nothing is written for it, and what has been written is
one statement for each node before it. -/
theorem play_createNodes_of_refusal {requests : List NodeRequest} {supply rest : IdSupply}
    {sessions left : List Session} {error : Error} {log : List Event}
    (h : (createNodes gateway requests).play supply sessions = ⟨(.error error, rest), left, log⟩)
    (herror : error.stage = .reading) :
    ∃ before request after nodes middle between log₁ log₂,
      requests = before ++ request :: after ∧ log = log₁ ++ log₂ ∧
      (createNodes gateway before).play supply sessions = ⟨(.ok nodes, middle), between, log₁⟩ ∧
      (createNode gateway request).play middle between = ⟨(.error error, rest), left, log₂⟩ ∧
      .acquire .write ∉ log₂ ∧
      CreatesEach gateway supply before nodes (Event.written log) middle := by
  obtain ⟨before, request, after, nodes, middle, between, log₁, log₂, hrequests, rfl, hearlier,
    hlast⟩ := play_createNodes_of_error h
  refine ⟨before, request, after, nodes, middle, between, log₁, log₂, hrequests, rfl, hearlier,
    hlast, ?_⟩
  obtain ⟨first, hcreates, hfirst⟩ := (createNodes gateway before).exists_runs_play supply sessions
  obtain ⟨second, hrefuses, hsecond⟩ := (createNode gateway request).exists_runs_play middle between
  rw [hearlier] at hcreates hfirst
  rw [hlast] at hrefuses hsecond
  have hreads := (behind_createNode gateway request).read_of_reading hrefuses herror
  refine ⟨hsecond.acquire_write_notMem hreads, ?_⟩
  have hunwritten : second.filterMap Exchange.written? = [] :=
    List.filterMap_eq_nil_iff.mpr fun exchange hexchange =>
      Exchange.written?_of_read (hreads exchange hexchange)
  have hlog₁ : log₁ = first.flatMap Exchange.events := hfirst.log
  have hlog₂ : log₂ = second.flatMap Exchange.events := hsecond.log
  have hwritten : Event.written (log₁ ++ log₂) = first.filterMap Exchange.written? := by
    rw [hlog₁, hlog₂, ← List.flatMap_append, Event.written_flatMap,
      List.filterMap_append, hunwritten, List.append_nil]
  rw [hwritten]
  exact createsEach_of_runs hcreates

/-- Creating nodes refuses nothing at the outset. -/
theorem fails_createNodes (gateway : Gateway) (requests : List NodeRequest) :
    Fails (Error.MayComeAt .reading) (createNodes gateway requests) := by
  induction requests with
  | nil => exact .pure _
  | cons request requests ih =>
    exact .bind (behind_createNode gateway request).fails fun _ => .bind ih fun _ => .pure _

end Gateway

namespace Operation

/-- An operation that ends with an error runs to it, and the log shows how. -/
theorem exists_runs_of_error {gateway : Gateway} {α : Type} {operation : Operation α}
    {supply : IdSupply} {sessions : List Session} {error : Error}
    (h : (operation.play gateway supply sessions).result.1 = .error error) :
    ∃ exchanges, (operation.call gateway).Runs supply exchanges (.error error)
        (operation.play gateway supply sessions).result.2 ∧
      (operation.play gateway supply sessions).Shows sessions exchanges := by
  have hplay : operation.play gateway supply sessions =
      (operation.call gateway).play supply sessions := rfl
  rw [hplay] at h ⊢
  obtain ⟨exchanges, hruns, hshows⟩ := (operation.call gateway).exists_runs_play supply sessions
  rw [h] at hruns
  exact ⟨exchanges, hruns, hshows⟩

/-- An operation that refuses a pattern or a filter acquires no session. -/
theorem log_eq_nil_of_outset {gateway : Gateway} {α : Type} {operation : Operation α}
    {supply : IdSupply} {sessions : List Session} {error : Error}
    (h : (operation.play gateway supply sessions).result.1 = .error error)
    (hstage : error.stage = .outset) : (operation.play gateway supply sessions).log = [] := by
  obtain ⟨exchanges, hruns, hshows⟩ := exists_runs_of_error h
  cases hbatch : operation.isBatch with
  | false =>
    have hnil := (behind_call gateway operation hbatch).eq_nil_of_outset hruns hstage
    rw [hnil] at hshows
    exact hshows.log
  | true =>
    -- A batch compiles no pattern and no filter, so it has no such error.
    have hlater : Stage.reading ≤ error.stage := by
      cases operation <;> cases hbatch
      exact Gateway.fails_createNodes gateway _ hruns error rfl
    rw [hstage] at hlater
    exact absurd hlater (Nat.not_succ_le_zero 0)

/-- An operation on one element that refuses its input, or an id that is taken, acquires no session
for writing. -/
theorem acquire_write_notMem_of_reading {gateway : Gateway} {α : Type} {operation : Operation α}
    {supply : IdSupply} {sessions : List Session} {error : Error}
    (hsingle : operation.isBatch = false)
    (h : (operation.play gateway supply sessions).result.1 = .error error)
    (hstage : error.stage = .reading) :
    .acquire .write ∉ (operation.play gateway supply sessions).log := by
  obtain ⟨exchanges, hruns, hshows⟩ := exists_runs_of_error h
  exact hshows.acquire_write_notMem
    ((behind_call gateway operation hsingle).read_of_reading hruns hstage)

/-- What an operation refuses leaves the store alone, with any settings, arguments and sessions.
Where a pattern or a filter is refused, no session has been acquired. Where other input is refused,
or an id that is taken, none has been acquired for writing, unless several nodes are to be created;
then it is one of them that is refused: each node before has been written by one statement, in
order, and the rest of the requests has no effect on sessions, supply and log. -/
theorem refusals_leave_store (gateway : Gateway) (supply : IdSupply) (sessions : List Session) :
    (∀ {α : Type} (operation : Operation α) (error : Error),
      (operation.play gateway supply sessions).result.1 = .error error → error.stage = .outset →
        (operation.play gateway supply sessions).log = []) ∧
    (∀ {α : Type} (operation : Operation α) (error : Error), operation.isBatch = false →
      (operation.play gateway supply sessions).result.1 = .error error → error.stage = .reading →
        .acquire .write ∉ (operation.play gateway supply sessions).log) ∧
    ∀ (requests : List NodeRequest) (error : Error),
      let played := (createNodes requests).play gateway supply sessions
      played.result.1 = .error error → error.stage = .reading →
        ∃ before request after nodes, requests = before ++ request :: after ∧
          let earlier := (createNodes before).play gateway supply sessions
          let last := (createNode request).play gateway earlier.result.2 earlier.sessions
          earlier.result.1 = .ok nodes ∧ last.result.1 = .error error ∧
            played = ⟨(.error error, last.result.2), last.sessions, earlier.log ++ last.log⟩ ∧
            .acquire .write ∉ last.log ∧
            Gateway.CreatesEach gateway supply before nodes (Event.written played.log)
              earlier.result.2 := by
  refine ⟨?_, ?_, ?_⟩
  · intro α operation error
    exact log_eq_nil_of_outset
  · intro α operation error
    exact acquire_write_notMem_of_reading
  · intro requests error played herror hstage
    have hresult : played.result = (.error error, played.result.2) := Prod.ext herror rfl
    have hplay : (Gateway.createNodes gateway requests).play supply sessions =
        ⟨(.error error, played.result.2), played.sessions, played.log⟩ :=
      congrArg (fun result => Played.mk result played.sessions played.log) hresult
    obtain ⟨before, request, after, nodes, middle, between, log₁, log₂, hrequests, hlog, hearlier,
      hlast, hunwritten, hcreates⟩ := Gateway.play_createNodes_of_refusal hplay hstage
    refine ⟨before, request, after, nodes, hrequests, ?_⟩
    intro earlier last
    have hearlier' : earlier = ⟨(.ok nodes, middle), between, log₁⟩ := hearlier
    have hlast' : last = ⟨(.error error, played.result.2), played.sessions, log₂⟩ := by
      simp only [last, hearlier']
      exact hlast
    rw [hearlier', hlast']
    exact ⟨rfl, rfl, hlog ▸ hplay, hunwritten, hcreates⟩

/-- A filter without a constraint is refused before anything is asked, a blank label before anything
is written; and of three nodes with a blank label in the second, the first is written. -/
theorem refusals_leave_store_blank_label :
    let gateway : Gateway := { filters := FilterCompiler.equalities }
    let supply : IdSupply := { id := fun n => if n = 0 then "x" else "y" }
    let absent : Session := { rows := [⟨[(Column.count, .datum (.integer 0))]⟩] }
    let sessions : List Session := [absent, {}, absent]
    let blank : NodeRequest := { labels := [" "] }
    let requests : List NodeRequest := [{ id? := some "a" }, blank, { id? := some "c" }]
    let delete := (deleteNodesMatching (.string "a")).play gateway supply sessions
    let create := (createNode blank).play gateway supply sessions
    let played := (createNodes requests).play gateway supply sessions
    (delete.result.1 = .error (.filter "expected an object") ∧
      Error.stage (.filter "expected an object") = .outset ∧ delete.log = []) ∧
    ((createNode blank).isBatch = false ∧
      create.result.1 = .error (.invalidInput .blankLabel) ∧
      Error.stage (.invalidInput .blankLabel) = .reading ∧ .acquire .write ∉ create.log) ∧
    (played.result.1 = .error (.invalidInput .blankLabel) ∧
      ∃ before request after nodes, requests = before ++ request :: after ∧
        let earlier := (createNodes before).play gateway supply sessions
        let last := (createNode request).play gateway earlier.result.2 earlier.sessions
        earlier.result.1 = .ok nodes ∧ last.result.1 = .error (.invalidInput .blankLabel) ∧
          played = ⟨(.error (.invalidInput .blankLabel), last.result.2), last.sessions,
            earlier.log ++ last.log⟩ ∧
          .acquire .write ∉ last.log ∧
          Gateway.CreatesEach gateway supply before nodes (Event.written played.log)
            earlier.result.2) := by
  intro gateway supply absent sessions blank requests delete create played
  obtain ⟨houtset, hreading, hbatch⟩ := refusals_leave_store gateway supply sessions
  have hdelete : delete.result.1 = .error (.filter "expected an object") := by rfl
  have hcreate : create.result.1 = .error (.invalidInput .blankLabel) := by rfl
  have hplayed : played.result.1 = .error (.invalidInput .blankLabel) := by
    simp only [played, requests, blank, sessions, absent, supply, gateway]
    rfl
  exact ⟨⟨hdelete, rfl, houtset (deleteNodesMatching (.string "a")) _ hdelete rfl⟩,
    ⟨rfl, hcreate, rfl, hreading (createNode blank) _ rfl hcreate rfl⟩,
    hplayed, hbatch requests _ hplayed rfl⟩

end Operation

end GraphGateway
