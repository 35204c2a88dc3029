import GraphGateway.Proofs.Dialogue.Exchange
import GraphGateway.Proofs.Dialogue.Runs

/-!
# Logs

What is logged when one part of a call is played behind the other: a part that fails is the end, and
any other leaves its sessions, its supply and its log to the next. The log tells which statements
were run for writing.
-/

namespace GraphGateway

/-!
## Parts of a call
-/

/-- One dialogue after the other is played with the sessions that the first one leaves. -/
theorem Dialogue.play_andThen {α β : Type} (dialogue : Dialogue α) (continuation : α → Dialogue β)
    (sessions : List Session) :
    (dialogue.andThen continuation).play sessions =
      let first := dialogue.play sessions
      let second := (continuation first.result).play first.sessions
      { second with log := first.log ++ second.log } := by
  induction dialogue generalizing sessions with
  | done value => rfl
  | ask access statement next ih =>
    simp only [andThen, play_ask, ih, List.append_assoc]

namespace Call

variable {α β : Type} {call : Call α} {supply rest : IdSupply} {sessions left : List Session}
  {log : List Event}

/-- How a call goes with a supply of ids and a script of sessions. -/
def play (call : Call α) (supply : IdSupply) (sessions : List Session) :
    Played (Except Error α × IdSupply) :=
  (call.start supply).play sessions

/-- What is played is a run, and the log shows its exchanges. -/
theorem exists_runs_play (call : Call α) (supply : IdSupply) (sessions : List Session) :
    ∃ exchanges, call.Runs supply exchanges (call.play supply sessions).result.1
        (call.play supply sessions).result.2 ∧
      (call.play supply sessions).Shows sessions exchanges :=
  (call.start supply).exists_takes_play sessions

/-- A call in two parts is played part after part. -/
theorem play_bind (call : Call α) (continuation : α → Call β) (supply : IdSupply)
    (sessions : List Session) :
    (call >>= continuation).play supply sessions =
      let first := call.play supply sessions
      let second := Dialogue.play
        (StateT.run (ExceptT.bindCont continuation first.result.1) first.result.2) first.sessions
      { second with log := first.log ++ second.log } :=
  Dialogue.play_andThen (call.start supply) _ sessions

/-- A part that fails is the end. -/
theorem play_bind_of_error {error : Error}
    (h : call.play supply sessions = ⟨(.error error, rest), left, log⟩)
    (continuation : α → Call β) :
    (call >>= continuation).play supply sessions = ⟨(.error error, rest), left, log⟩ := by
  rw [play_bind, h]
  exact congrArg (Played.mk _ _) (List.append_nil log)

/-- A part with a value leaves everything to the next. -/
theorem play_bind_of_ok {value : α}
    (h : call.play supply sessions = ⟨(.ok value, rest), left, log⟩)
    (continuation : α → Call β) :
    (call >>= continuation).play supply sessions =
      let second := (continuation value).play rest left
      { second with log := log ++ second.log } := by
  rw [play_bind, h]
  rfl

/-- A check is played without any session. -/
theorem play_check (checked : Except Error α) (supply : IdSupply) (sessions : List Session) :
    (check checked).play supply sessions = ⟨(checked, supply), sessions, []⟩ := by
  cases checked <;> rfl

/-- A statement is played with the next session, whose failure is the failure of the call. -/
theorem play_execute (access : Access) (statement : Statement) (supply : IdSupply)
    (session : Session) (sessions : List Session) :
    (execute access statement).play supply (session :: sessions) =
      ⟨(session.answer.mapError Error.store, supply), sessions, session.events access statement⟩ := by
  rw [play, start_execute, Dialogue.play_andThen]
  simp only [Dialogue.question, Dialogue.play_ask, Dialogue.play_done, List.headD_cons,
    List.tail_cons, List.append_nil]

end Call

/-!
## What was written
-/

/-- The statements in a log that were run in sessions for writing. -/
def Event.written : List Event → List Statement
  | [] => []
  | .acquire .write :: .run statement :: rest => statement :: written rest
  | _ :: rest => written rest

/-- The statement of an exchange if it was run in a session for writing. -/
def Exchange.written? (exchange : Exchange) : Option Statement :=
  match exchange.access, exchange.session.acquireError? with
  | .write, none => some exchange.statement
  | _, _ => none

/-- An exchange that only reads has written nothing. -/
theorem Exchange.written?_of_read {exchange : Exchange} (h : exchange.access = .read) :
    exchange.written? = none := by
  rw [written?, h]

/-- A session that is only acquired writes nothing: what is logged behind it starts with another
session, not with a statement. -/
theorem Event.written_acquire_flatMap (access : Access) (exchanges : List Exchange) :
    written (.acquire access :: exchanges.flatMap Exchange.events) =
      written (exchanges.flatMap Exchange.events) := by
  cases exchanges with
  | nil => cases access <;> rfl
  | cons exchange exchanges =>
    rw [List.flatMap_cons]
    unfold Exchange.events Session.events
    cases access <;> cases exchange.session.acquireError? <;> rfl

/-- The log of exchanges tells what each of them has written. -/
theorem Event.written_flatMap (exchanges : List Exchange) :
    written (exchanges.flatMap Exchange.events) = exchanges.filterMap Exchange.written? := by
  induction exchanges with
  | nil => rfl
  | cons exchange exchanges ih =>
    obtain ⟨access, statement, rows, acquireError?, runError?, closeError?⟩ := exchange
    rw [List.flatMap_cons, List.filterMap_cons, ← ih]
    cases acquireError? with
    | none => cases access <;> rfl
    | some message =>
      -- A session that is not acquired leaves an acquisition without a statement behind it.
      have hunwritten :
          Exchange.written? ⟨access, statement, rows, some message, runError?, closeError?⟩ =
            none := by
        cases access <;> rfl
      rw [hunwritten]
      exact written_acquire_flatMap access exchanges

end GraphGateway
