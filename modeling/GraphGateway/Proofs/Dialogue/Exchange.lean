import GraphGateway.Dialogue.Script
import Mathlib.Data.List.Basic

/-!
# Exchanges

A dialogue that is played against a script is a sequence of exchanges: one statement each, run in a
session of its own. The steps with a session come to an answer and a log, so that what is logged is
the exchanges one after the other, and how the dialogue ends depends on nothing but the answers in
them. A failure to close a session is no part of an answer.
-/

namespace GraphGateway

namespace Session

/-- The failure of a session to be acquired or to run its statement. -/
def failure? (session : Session) : Option String := session.acquireError?.or session.runError?

/-- Sessions that differ at most in a failure to be closed. -/
structure AgreeUpToClosing (session other : Session) : Prop where
  rows : session.rows = other.rows
  acquireError? : session.acquireError? = other.acquireError?
  runError? : session.runError? = other.runError?

/-- What a session answers: its failure, or else its rows. -/
def answer (session : Session) : Except String (List Row) :=
  match session.failure? with
  | some message => .error message
  | none => .ok session.rows

/-- What is done with a session to get its answer: one that cannot be acquired is left, and any other
runs just the statement and is closed, whether the run fails or not. -/
def events (session : Session) (access : Access) (statement : Statement) : List Event :=
  match session.acquireError? with
  | some _ => [.acquire access]
  | none => [.acquire access, .run statement, .close]

/-- The steps with a session end with its answer, and they are logged in their order. -/
theorem run_execute (session : Session) (access : Access) (statement : Statement)
    (log : List Event) :
    (session.execute access statement).run log =
      (session.answer, log ++ session.events access statement) := by
  obtain ⟨rows, acquireError?, runError?, closeError?⟩ := session
  cases acquireError? with
  | some message => rfl
  | none =>
    have hlog : log ++ [.acquire access] ++ [.run statement] ++ [.close] =
        log ++ [.acquire access, .run statement, .close] := by
      simp only [List.append_assoc, List.cons_append, List.nil_append]
    -- The run decides on the answer, and nothing is looked at behind the closing.
    cases runError? with
    | some message => exact congrArg (Prod.mk _) hlog
    | none => exact congrArg (Prod.mk _) hlog

/-- Closing is no part of the answer. -/
theorem AgreeUpToClosing.answer {session other : Session} (h : session.AgreeUpToClosing other) :
    session.answer = other.answer := by
  rw [Session.answer, Session.answer, failure?, failure?, h.rows, h.acquireError?, h.runError?]

/-- A failure to close is not logged. -/
theorem AgreeUpToClosing.events {session other : Session} (h : session.AgreeUpToClosing other) :
    session.events = other.events := by
  funext access statement
  rw [Session.events, Session.events, h.acquireError?]

end Session

/-- One exchange of a dialogue: a statement, how it accesses the store, and the session that answers
it. -/
structure Exchange where
  access : Access
  statement : Statement
  session : Session

/-- What is done in an exchange. -/
def Exchange.events (exchange : Exchange) : List Event :=
  exchange.session.events exchange.access exchange.statement

/-- An exchange runs no statement but its own. -/
theorem Exchange.statement_of_run_mem {exchange : Exchange} {statement : Statement}
    (h : .run statement ∈ exchange.events) : exchange.statement = statement := by
  unfold events Session.events at h
  split at h <;> simp_all

/-- An exchange acquires no session but with its own access. -/
theorem Exchange.access_of_acquire_mem {exchange : Exchange} {access : Access}
    (h : .acquire access ∈ exchange.events) : exchange.access = access := by
  unfold events Session.events at h
  split at h <;> simp_all

/-- The exchanges that a play against a script shows: their sessions are those of the script, in
order, and the log tells what is done in each, one after the other. -/
structure Played.Shows {α : Type} (played : Played α) (sessions : List Session)
    (exchanges : List Exchange) : Prop where
  log : played.log = exchanges.flatMap Exchange.events
  session : ∀ i exchange, exchanges[i]? = some exchange → exchange.session = sessions.getD i {}

namespace Played.Shows

variable {α : Type} {played : Played α} {sessions : List Session} {exchanges : List Exchange}

/-- Whatever is done belongs to an exchange. -/
theorem exists_of_mem_log (h : played.Shows sessions exchanges) {event : Event}
    (hevent : event ∈ played.log) : ∃ exchange ∈ exchanges, event ∈ exchange.events := by
  rw [h.log] at hevent
  exact List.mem_flatMap.mp hevent

/-- Where the store is only read, no session is acquired for writing. -/
theorem acquire_write_notMem (h : played.Shows sessions exchanges)
    (hreads : ∀ exchange ∈ exchanges, exchange.access = .read) : .acquire .write ∉ played.log := by
  intro hacquire
  obtain ⟨exchange, hexchange, hevent⟩ := h.exists_of_mem_log hacquire
  have haccess : exchange.access = .write := Exchange.access_of_acquire_mem hevent
  rw [hreads exchange hexchange] at haccess
  cases haccess

end Played.Shows

namespace Dialogue

variable {α β : Type}

/-- A dialogue that is done takes no session. -/
theorem play_done (value : α) (sessions : List Session) :
    (done value).play sessions = ⟨value, sessions, []⟩ := rfl

/-- A question takes the answer of the next session, and what is done for it is logged first. -/
theorem play_ask (access : Access) (statement : Statement)
    (next : Except String (List Row) → Dialogue α) (sessions : List Session) :
    (ask access statement next).play sessions =
      let session := sessions.headD {}
      let rest := (next session.answer).play sessions.tail
      { rest with log := session.events access statement ++ rest.log } := by
  rw [play, Session.run_execute, List.nil_append]

/-- The exchanges that a dialogue takes until it is done, with any sessions. -/
inductive Takes : Dialogue α → List Exchange → α → Prop where
  | done (value : α) : Takes (done value) [] value
  | ask {access : Access} {statement : Statement} {next : Except String (List Row) → Dialogue α}
      {session : Session} {exchanges : List Exchange} {value : α}
      (hnext : Takes (next session.answer) exchanges value) :
      Takes (ask access statement next) (⟨access, statement, session⟩ :: exchanges) value

/-- A dialogue that is done takes no exchanges. -/
theorem takes_done_iff {value result : α} {exchanges : List Exchange} :
    (done value).Takes exchanges result ↔ exchanges = [] ∧ result = value := by
  constructor
  · intro h
    cases h
    exact ⟨rfl, rfl⟩
  · rintro ⟨rfl, rfl⟩
    exact .done _

/-- A single question takes one exchange and ends with the answer. -/
theorem takes_question_iff {access : Access} {statement : Statement} {exchanges : List Exchange}
    {answer : Except String (List Row)} :
    (question access statement).Takes exchanges answer ↔
      ∃ session : Session,
        exchanges = [⟨access, statement, session⟩] ∧ answer = session.answer := by
  constructor
  · intro h
    obtain @⟨⟩ | ⟨hnext⟩ := h
    obtain ⟨rfl, rfl⟩ := takes_done_iff.mp hnext
    exact ⟨_, rfl, rfl⟩
  · rintro ⟨session, rfl, rfl⟩
    exact .ask (.done _)

/-- One dialogue after the other takes the exchanges of both. -/
theorem takes_andThen_iff {dialogue : Dialogue α} {continuation : α → Dialogue β}
    {exchanges : List Exchange} {result : β} :
    (dialogue.andThen continuation).Takes exchanges result ↔
      ∃ value first second, exchanges = first ++ second ∧ dialogue.Takes first value ∧
        (continuation value).Takes second result := by
  constructor
  · intro h
    induction dialogue generalizing exchanges with
    | done value => exact ⟨value, [], exchanges, rfl, .done value, h⟩
    | ask access statement next ih =>
      cases h with
      | @ask _ _ _ session exchanges _ hnext =>
        obtain ⟨value, first, second, rfl, hfirst, hsecond⟩ := ih _ hnext
        exact ⟨value, _ :: first, second, rfl, .ask hfirst, hsecond⟩
  · rintro ⟨value, first, second, rfl, hfirst, hsecond⟩
    induction hfirst with
    | done => exact hsecond
    | ask _ ih => exact .ask (ih hsecond)

/-- A dialogue that is played shows the exchanges that it takes. -/
theorem exists_takes_play (dialogue : Dialogue α) (sessions : List Session) :
    ∃ exchanges, dialogue.Takes exchanges (dialogue.play sessions).result ∧
      (dialogue.play sessions).Shows sessions exchanges := by
  induction dialogue generalizing sessions with
  | done value => exact ⟨[], .done value, rfl, nofun⟩
  | ask access statement next ih =>
    obtain ⟨exchanges, htakes, hlog, hsession⟩ := ih (sessions.headD {}).answer sessions.tail
    rw [play_ask]
    refine ⟨⟨access, statement, sessions.headD {}⟩ :: exchanges, .ask htakes, ?_, ?_⟩
    · rw [List.flatMap_cons, ← hlog]
      rfl
    · intro i exchange hexchange
      cases i with
      | zero =>
        cases hexchange
        cases sessions <;> rfl
      | succ i =>
        have hlater := hsession i exchange hexchange
        cases sessions with
        | nil => simpa using hlater
        | cons session sessions => exact hlater

end Dialogue

end GraphGateway
