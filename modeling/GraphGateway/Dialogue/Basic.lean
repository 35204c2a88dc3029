import GraphGateway.Assembly.Identities
import GraphGateway.Statement.Basic
import GraphGateway.Store.Row

/-!
# Dialogues with a store

An operation on a store is a dialogue: it asks statements one by one, and what it asks next, and how
it ends, depends on the answers. The dialogue says nothing about who answers. A script of sessions
can answer it, or a store shared with other dialogues.
-/

namespace GraphGateway

/-- Whether a statement only reads the store or also changes it. -/
inductive Access where
  | read
  | write
  deriving DecidableEq, Repr

/-- The name of an access. -/
def Access.name : Access → String
  | read => "read"
  | write => "write"

/-- What an operation asks a store, as a tree: it is done, or it asks a statement and goes on with
the rows of the answer or with the store's failure. -/
inductive Dialogue (α : Type) where
  | done (value : α)
  | ask (access : Access) (statement : Statement) (next : Except String (List Row) → Dialogue α)

namespace Dialogue

variable {α β : Type}

/-- One dialogue after the other. -/
def andThen : Dialogue α → (α → Dialogue β) → Dialogue β
  | done value, continuation => continuation value
  | ask access statement next, continuation =>
    ask access statement fun answer => (next answer).andThen continuation

instance : Monad Dialogue where
  pure := done
  bind := andThen

/-- A single question. -/
def question (access : Access) (statement : Statement) : Dialogue (Except String (List Row)) :=
  ask access statement done

end Dialogue

/-- A call of an operation: a dialogue that draws ids from a supply and ends with a result or an
error. The supply is known also after an error. -/
abbrev Call := ExceptT Error (StateT IdSupply Dialogue)

namespace Call

/-- The dialogue of a call with a supply of ids. -/
def start {α : Type} (call : Call α) (supply : IdSupply) : Dialogue (Except Error α × IdSupply) :=
  call.run.run supply

/-- The rows that answer a statement; the store's failure ends the call. -/
def execute (access : Access) (statement : Statement) : Call (List Row) := do
  match ← (Dialogue.question access statement : StateT IdSupply Dialogue _) with
  | .ok rows => return rows
  | .error message => throw (.store message)

/-- The rows that answer a statement that only reads. -/
def read (statement : Statement) : Call (List Row) := execute .read statement

/-- The rows that answer a statement that changes the store. -/
def write (statement : Statement) : Call (List Row) := execute .write statement

/-- A new id. -/
def mint : Call String := modifyGet IdSupply.mint

/-- The outcome of a computation that draws on the supply. -/
def draw {α : Type} (compute : IdSupply → Except Error α × IdSupply) : Call α := do
  let outcome ← modifyGet fun supply => compute supply
  liftExcept outcome
where
  /-- An outcome that is there already. -/
  liftExcept : Except Error α → Call α
    | .ok value => pure value
    | .error error => throw error

end Call

end GraphGateway
