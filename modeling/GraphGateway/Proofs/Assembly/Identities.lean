import GraphGateway.Assembly.Identities

/-!
# What giving out stable ids does

Binding, assigning and looking up, described by what later look-ups find and not by the list of
bindings behind them. Both policies are covered: a policy only decides which carried ids count.
-/

namespace GraphGateway

/-- The stable id of an element: the one its identity has, else the one it carries, else the next
of the supply. -/
def IdSupply.choose (supply : IdSupply) (bound? carried? : Option String) : String × IdSupply :=
  match bound?, carried? with
  | some id, _ => (id, supply)
  | none, some id => (id, supply)
  | none, none => supply.mint

namespace Identities

/-- A binding is found under its own identity and hides nothing else. -/
theorem resolve_cons (policy : IdPolicy) (bindings : List (StoreId × String))
    (identity other : StoreId) (id : String) :
    resolve ⟨policy, (identity, id) :: bindings⟩ other =
      if other = identity then some id else resolve ⟨policy, bindings⟩ other := by
  by_cases heq : other = identity
  · simp [resolve, heq]
  · have hbeq : (other == identity) = false := beq_false_of_ne heq
    simp [resolve, List.lookup_cons, heq, hbeq]

/-- Binding a known identity changes nothing: it is agreed or refused. -/
theorem bind_of_resolved {identities : Identities} {identity : StoreId} {existing : String}
    (hbound : identities.resolve identity = some existing) (id : String) :
    identities.bind identity id =
      if existing = id then .ok identities
      else .error (.identityConflict identity existing id) := by
  simp only [bind, hbound]

/-- Binding a new identity always succeeds. -/
theorem bind_of_unresolved {identities : Identities} {identity : StoreId}
    (hnew : identities.resolve identity = none) (id : String) :
    identities.bind identity id =
      .ok { identities with bindings := (identity, id) :: identities.bindings } := by
  simp only [bind, hnew]

/-- Where the elements keep their ids, every carried id counts. -/
theorem carried_of_reuse {identities : Identities} (h : identities.policy = .reuse)
    (id? : Option String) : identities.carried id? = id? := by
  rw [carried, h]

/-- Where every identity gets a new id, no carried id counts. -/
theorem carried_of_mint {identities : Identities} (h : identities.policy = .mint)
    (id? : Option String) : identities.carried id? = none := by
  rw [carried, h]

/-- There is no id to fall back on just where none counts or none is carried. -/
theorem carried_eq_none_iff {identities : Identities} {id? : Option String} :
    identities.carried id? = none ↔ identities.policy = .mint ∨ id? = none := by
  unfold carried
  cases identities.policy <;> simp

/-- A known identity keeps its id, unless a different one is carried. -/
theorem assign_of_resolved {identities : Identities} {identity : StoreId} {existing : String}
    (hbound : identities.resolve identity = some existing) (id? : Option String)
    (supply : IdSupply) :
    identities.assign identity id? supply =
      match identities.carried id? with
      | some id =>
        if existing = id then .ok (existing, identities, supply)
        else .error (.identityConflict identity existing id)
      | none => .ok (existing, identities, supply) := by
  simp only [assign, hbound]
  cases identities.carried id? with
  | none => rfl
  | some id =>
    dsimp only
    rw [bind_of_resolved hbound]
    by_cases heq : existing = id
    · simp only [heq, if_true]
      rfl
    · simp only [heq, if_false]
      rfl

/-- A new identity takes the chosen id. -/
theorem assign_of_unresolved {identities : Identities} {identity : StoreId}
    (hnew : identities.resolve identity = none) (id? : Option String) (supply : IdSupply) :
    identities.assign identity id? supply =
      .ok ((supply.choose none (identities.carried id?)).1,
        { identities with
          bindings :=
            (identity, (supply.choose none (identities.carried id?)).1) :: identities.bindings },
        (supply.choose none (identities.carried id?)).2) := by
  simp only [assign, hnew]
  cases identities.carried id? with
  | none =>
    rw [bind_of_unresolved hnew]
    rfl
  | some id =>
    rw [bind_of_unresolved hnew]
    rfl

/-- Assigning fails just when the identity is bound and another id is carried. -/
theorem assign_eq_error_iff {identities : Identities} {identity : StoreId} {id? : Option String}
    {supply : IdSupply} {error : Error} :
    identities.assign identity id? supply = .error error ↔
      ∃ existing id, identities.resolve identity = some existing ∧
        identities.carried id? = some id ∧ id ≠ existing ∧
        error = .identityConflict identity existing id := by
  cases hbound : identities.resolve identity with
  | none => simp [assign_of_unresolved hbound]
  | some existing =>
    rw [assign_of_resolved hbound]
    cases hcarried : identities.carried id? with
    | none => simp
    | some id =>
      by_cases heq : existing = id
      · simp [heq]
      · simp [heq, Ne.symm heq, eq_comm]

/-- A successful assignment hands out the chosen id and binds it, and touches no other identity. -/
theorem assign_eq_ok {identities after : Identities} {identity : StoreId} {id? : Option String}
    {supply left : IdSupply} {id : String}
    (h : identities.assign identity id? supply = .ok (id, after, left)) :
    (id, left) = supply.choose (identities.resolve identity) (identities.carried id?) ∧
      after.policy = identities.policy ∧
      ∀ other, after.resolve other =
        if other = identity then some id else identities.resolve other := by
  cases hbound : identities.resolve identity with
  | none =>
    rw [assign_of_unresolved hbound] at h
    simp only [Except.ok.injEq, Prod.mk.injEq] at h
    obtain ⟨rfl, rfl, rfl⟩ := h
    exact ⟨rfl, rfl, fun other => resolve_cons _ _ _ _ _⟩
  | some existing =>
    have hkept : id = existing ∧ after = identities ∧ left = supply := by
      rw [assign_of_resolved hbound] at h
      split at h
      · split at h
        · simpa [eq_comm] using h
        · cases h
      · simpa [eq_comm] using h
    obtain ⟨rfl, rfl, rfl⟩ := hkept
    refine ⟨rfl, rfl, fun other => ?_⟩
    by_cases heq : other = identity
    · simp [heq, hbound]
    · simp [heq]

/-- An identity is resolved after it has been assigned an id. -/
theorem resolve_of_assign {identities after : Identities} {identity : StoreId}
    {id? : Option String} {supply left : IdSupply} {id : String}
    (h : identities.assign identity id? supply = .ok (id, after, left)) :
    after.resolve identity = some id := by
  rw [(assign_eq_ok h).2.2, if_pos rfl]

/-- No assignment changes what an identity already resolves to. -/
theorem resolve_mono_of_assign {identities after : Identities} {identity other : StoreId}
    {id? : Option String} {supply left : IdSupply} {id known : String}
    (h : identities.assign identity id? supply = .ok (id, after, left))
    (hknown : identities.resolve other = some known) : after.resolve other = some known := by
  obtain ⟨hchosen, -, hresolve⟩ := assign_eq_ok h
  rw [hresolve]
  split
  next heq =>
    rw [← heq, hknown] at hchosen
    exact congrArg some (congrArg Prod.fst hchosen)
  · exact hknown

/-- An end of a relationship is found just when it is bound. -/
theorem endpoint_eq_ok_iff {identities : Identities} {relationship id : String}
    {identity : StoreId} :
    identities.endpoint relationship identity = .ok id ↔
      identities.resolve identity = some id := by
  unfold endpoint
  cases identities.resolve identity <;> simp

/-- An end of a relationship that is not bound is named by the error. -/
theorem endpoint_eq_error_iff {identities : Identities} {relationship : String}
    {identity : StoreId} {error : Error} :
    identities.endpoint relationship identity = .error error ↔
      identities.resolve identity = none ∧
        error = .danglingEndpoint relationship identity.key := by
  unfold endpoint
  cases identities.resolve identity <;> simp [eq_comm]

end Identities

end GraphGateway
