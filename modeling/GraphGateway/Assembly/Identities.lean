import GraphGateway.Error

/-!
# From store identities to stable ids

Within one result, every store identity gets one stable id and keeps it. New ids come from a supply,
which may be any sequence of texts; what is known of it is how many have been handed out.
-/

namespace GraphGateway

/-- A sequence of ids and the number of those already handed out. -/
structure IdSupply where
  id : Nat → String
  used : Nat := 0

/-- The next id, and the supply after it. -/
def IdSupply.mint (supply : IdSupply) : String × IdSupply :=
  (supply.id supply.used, { supply with used := supply.used + 1 })

/-- How an identity that is seen for the first time gets its stable id. -/
inductive IdPolicy where
  /-- The id that the element carries, a new one where it carries none: for data. -/
  | reuse
  /-- Always a new one: for schemas, whose identities live in a space apart from the data. -/
  | mint
  deriving DecidableEq, Repr

/-- The stable ids bound to store identities so far. -/
structure Identities where
  policy : IdPolicy
  bindings : List (StoreId × String) := []

namespace Identities

/-- The stable id bound to an identity. -/
def resolve (identities : Identities) (identity : StoreId) : Option String :=
  identities.bindings.lookup identity

/-- The number of identities bound. -/
def size (identities : Identities) : Nat := identities.bindings.length

/-- The identities with one more bound. To bind an identity again to the same id changes nothing, to
bind it to another is a conflict. -/
def bind (identities : Identities) (identity : StoreId) (id : String) :
    Except Error Identities :=
  match identities.resolve identity with
  | some existing =>
    if existing = id then .ok identities
    else .error (.identityConflict identity existing id)
  | none => .ok { identities with bindings := (identity, id) :: identities.bindings }

/-- The carried id as far as the policy lets it count. -/
def carried (identities : Identities) (id? : Option String) : Option String :=
  match identities.policy with
  | .reuse => id?
  | .mint => none

/-- The stable id of an identity, given the id that its element carries. An identity seen before
keeps its id, with which a carried id has to agree; a new one takes the carried id, or else the next
of the supply. -/
def assign (identities : Identities) (identity : StoreId) (id? : Option String)
    (supply : IdSupply) : Except Error (String × Identities × IdSupply) :=
  match identities.resolve identity with
  | some existing =>
    match identities.carried id? with
    | some id => do
      let identities ← identities.bind identity id
      return (existing, identities, supply)
    | none => .ok (existing, identities, supply)
  | none =>
    let (id, supply) := match identities.carried id? with
      | some id => (id, supply)
      | none => supply.mint
    do
      let identities ← identities.bind identity id
      return (id, identities, supply)

/-- The stable id of an end of a relationship, which must be bound. -/
def endpoint (identities : Identities) (relationship : String) (identity : StoreId) :
    Except Error String :=
  match identities.resolve identity with
  | some id => .ok id
  | none => .error (.danglingEndpoint relationship identity.key)

end Identities

end GraphGateway
