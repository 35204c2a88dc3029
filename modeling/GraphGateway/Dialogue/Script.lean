import GraphGateway.Dialogue.Basic

/-!
# Dialogues answered by a script

A script is a list of sessions, each with the rows it answers and the failures of its steps. Every
question takes the next session: it is acquired, runs the one statement and is closed, whether the
run succeeded or not; a failure to close stays without effect. The log tells what was done.
-/

namespace GraphGateway

/-- One session of a script. A step with a message fails with it. -/
structure Session where
  rows : List Row := []
  acquireError? : Option String := none
  runError? : Option String := none
  closeError? : Option String := none

/-- What is done with sessions. -/
inductive Event where
  | acquire (access : Access)
  | run (statement : Statement)
  | close

namespace Session

/-- A step with a session. It is logged, and then it fails with its message, if it has one, or ends
with its value. -/
def step {α : Type} (event : Event) (failure? : Option String) (value : α) :
    StateM (List Event) (Except String α) := do
  modify fun log => log ++ [event]
  return match failure? with
    | some message => .error message
    | none => .ok value

/-- The session is opened. -/
def acquire (session : Session) (access : Access) : StateM (List Event) (Except String Unit) :=
  step (.acquire access) session.acquireError? ()

/-- The session runs a statement. -/
def run (session : Session) (statement : Statement) :
    StateM (List Event) (Except String (List Row)) :=
  step (.run statement) session.runError? session.rows

/-- The session is given back. -/
def close (session : Session) : StateM (List Event) (Except String Unit) :=
  step .close session.closeError? ()

/-- Runs one statement in the session. A session that was acquired is closed whatever came of the
run, and what comes of closing it is passed over. -/
def execute (session : Session) (access : Access) (statement : Statement) :
    StateM (List Event) (Except String (List Row)) := do
  match ← session.acquire access with
  | .error message => return .error message
  | .ok () =>
    let outcome ← session.run statement
    let _closed ← session.close
    return outcome

end Session

/-- How a dialogue went: its result, the sessions that are left, and the log. -/
structure Played (α : Type) where
  result : α
  sessions : List Session
  log : List Event

/-- Plays a dialogue against a script. When the script is used up, sessions answer no rows. -/
def Dialogue.play {α : Type} : Dialogue α → List Session → Played α
  | .done value, sessions => ⟨value, sessions, []⟩
  | .ask access statement next, sessions =>
    let executed := (sessions.headD {}).execute access statement |>.run []
    let rest := (next executed.1).play sessions.tail
    { rest with log := executed.2 ++ rest.log }

end GraphGateway
