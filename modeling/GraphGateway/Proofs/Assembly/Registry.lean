import GraphGateway.Proofs.Assembly.Supply

/-!
# Histories of bindings

Identities and the supply behind them, under any sequence of requests to bind an identity or to give
it an id. A request is run with its effects in the order in which they happen, so that a refused one
could leave something behind; that it does not, and that no id is drawn in vain, is shown and not
built in. Main statement: requests are served as identities answer them in one go, an identity is
bound once and for all, a request is refused just when it insists on another id than the bound one,
and where every identity gets a new id no two share one.
-/

namespace GraphGateway

/-- Identities and the supply from which their new ids are drawn. -/
structure Registry where
  identities : Identities
  supply : IdSupply

namespace Registry

variable {registry : Registry}

/-!
## One request
-/

/-- Draws the next id of the supply. -/
def mint (registry : Registry) : String × Registry :=
  (registry.supply.mint.1, { registry with supply := registry.supply.mint.2 })

/-- Binds an identity to an id. -/
def bind (registry : Registry) (identity : StoreId) (id : String) :
    Except Error Unit × Registry :=
  match registry.identities.bind identity id with
  | .ok identities => (.ok (), { registry with identities })
  | .error error => (.error error, registry)

/-- Binding a known identity is agreed or refused, and leaves no trace. -/
theorem bind_of_resolved {identity : StoreId} {existing : String}
    (hbound : registry.identities.resolve identity = some existing) (id : String) :
    registry.bind identity id =
      (if existing = id then .ok () else .error (.identityConflict identity existing id),
        registry) := by
  rw [bind, Identities.bind_of_resolved hbound]
  by_cases heq : existing = id
  · simp only [if_pos heq]
  · simp only [if_neg heq]

/-- Binding a new identity always succeeds. -/
theorem bind_of_unresolved {identity : StoreId}
    (hnew : registry.identities.resolve identity = none) (id : String) :
    registry.bind identity id =
      (.ok (), { registry with identities :=
        { registry.identities with bindings := (identity, id) :: registry.identities.bindings } }) := by
  rw [bind, Identities.bind_of_unresolved hnew]

/-- Gives an identity its id. A new id is drawn before it is bound. -/
def assign (registry : Registry) (identity : StoreId) (id? : Option String) :
    Except Error String × Registry :=
  match registry.identities.resolve identity, registry.identities.carried id? with
  | some existing, none => (.ok existing, registry)
  | some existing, some id =>
    let (answer, registry) := registry.bind identity id
    (answer.map fun _ => existing, registry)
  | none, some id =>
    let (answer, registry) := registry.bind identity id
    (answer.map fun _ => id, registry)
  | none, none =>
    let (id, registry) := registry.mint
    let (answer, registry) := registry.bind identity id
    (answer.map fun _ => id, registry)

/-- Run with its effects in order, an assignment does what it does in one go: where it is refused,
no id has been drawn and nothing has been bound. -/
theorem assign_eq (registry : Registry) (identity : StoreId) (id? : Option String) :
    registry.assign identity id? =
      match registry.identities.assign identity id? registry.supply with
      | .ok (id, identities, supply) => (.ok id, ⟨identities, supply⟩)
      | .error error => (.error error, registry) := by
  cases hbound : registry.identities.resolve identity with
  | some existing =>
    rw [Identities.assign_of_resolved hbound]
    cases hcarried : registry.identities.carried id? with
    | none => simp only [assign, hbound, hcarried]
    | some id =>
      simp only [assign, hbound, hcarried, bind_of_resolved hbound]
      by_cases heq : existing = id
      · simp only [if_pos heq, Except.map]
      · simp only [if_neg heq, Except.map]
  | none =>
    have hdrawn : registry.mint.2.identities.resolve identity = none := hbound
    rw [Identities.assign_of_unresolved hbound]
    cases hcarried : registry.identities.carried id? with
    | none =>
      simp only [assign, hbound, hcarried, bind_of_unresolved hdrawn]
      rfl
    | some id =>
      simp only [assign, hbound, hcarried, bind_of_unresolved hbound]
      rfl

/-- A request that may bind an identity. -/
inductive Request where
  | bind (identity : StoreId) (id : String)
  | assign (identity : StoreId) (id? : Option String)

/-- The identity that a request is about. -/
def Request.identity : Request → StoreId
  | bind identity _ => identity
  | assign identity _ => identity

/-- Serves a request and answers with the id that it has settled on: the one to be bound, or the one
that was given. -/
def serve (registry : Registry) : Request → Except Error String × Registry
  | .bind identity id =>
    let (answer, registry) := registry.bind identity id
    (answer.map fun _ => id, registry)
  | .assign identity id? => registry.assign identity id?

/-- What identities answer to a request, with the supply behind them: new identities and what is
left of the supply, or an error and everything as it was. -/
def answer (registry : Registry) : Request → Except Error String × Registry
  | .bind identity id =>
    match registry.identities.bind identity id with
    | .ok identities => (.ok id, { registry with identities })
    | .error error => (.error error, registry)
  | .assign identity id? =>
    match registry.identities.assign identity id? registry.supply with
    | .ok (id, identities, supply) => (.ok id, ⟨identities, supply⟩)
    | .error error => (.error error, registry)

/-- A request is served as identities answer it in one go. -/
theorem serve_eq_answer (registry : Registry) (request : Request) :
    registry.serve request = registry.answer request := by
  cases request with
  | bind identity id =>
    rw [serve, bind, answer]
    cases registry.identities.bind identity id <;> rfl
  | assign identity id? => exact registry.assign_eq identity id?

/-- The id that a request insists on. -/
def insisted (registry : Registry) : Request → Option String
  | .bind _ id => some id
  | .assign _ id? => registry.identities.carried id?

/-- For a bound identity nothing changes, and a request is refused just when it insists on another
id than the bound one. -/
theorem serve_of_resolved {request : Request} {existing : String}
    (hbound : registry.identities.resolve request.identity = some existing) :
    registry.serve request =
      match registry.insisted request with
      | some id =>
        if existing = id then (.ok existing, registry)
        else (.error (.identityConflict request.identity existing id), registry)
      | none => (.ok existing, registry) := by
  cases request with
  | bind identity id =>
    simp only [Request.identity] at hbound ⊢
    simp only [serve, bind_of_resolved hbound, insisted]
    by_cases heq : existing = id
    · subst heq
      simp only [if_true, Except.map]
    · simp only [if_neg heq, Except.map]
  | assign identity id? =>
    simp only [Request.identity] at hbound ⊢
    simp only [serve, assign_eq, Identities.assign_of_resolved hbound, insisted]
    cases registry.identities.carried id? with
    | none => rfl
    | some id =>
      by_cases heq : existing = id
      · simp only [if_pos heq]
      · simp only [if_neg heq]

/-- A new identity is bound to the id insisted on, or else to the next of the supply. -/
theorem serve_of_unresolved {request : Request}
    (hnew : registry.identities.resolve request.identity = none) :
    registry.serve request =
      (.ok (registry.supply.choose none (registry.insisted request)).1,
        { identities := { registry.identities with
            bindings :=
              (request.identity, (registry.supply.choose none (registry.insisted request)).1) ::
                registry.identities.bindings }
          supply := (registry.supply.choose none (registry.insisted request)).2 }) := by
  cases request with
  | bind identity id =>
    simp only [Request.identity] at hnew ⊢
    simp only [serve, bind_of_unresolved hnew]
    rfl
  | assign identity id? =>
    simp only [Request.identity] at hnew ⊢
    simp only [serve, assign_eq, Identities.assign_of_unresolved hnew]
    rfl

/-- A request is refused just when its identity is bound to another id than the one that it insists
on. -/
theorem serve_eq_error_iff {request : Request} {error : Error} :
    (registry.serve request).1 = .error error ↔
      ∃ existing id, registry.identities.resolve request.identity = some existing ∧
        registry.insisted request = some id ∧ existing ≠ id ∧
        error = .identityConflict request.identity existing id := by
  cases hbound : registry.identities.resolve request.identity with
  | none => simp [serve_of_unresolved hbound]
  | some existing =>
    rw [serve_of_resolved hbound]
    cases registry.insisted request with
    | none => simp
    | some id =>
      by_cases heq : existing = id
      · simp [heq]
      · simp [heq, eq_comm]

/-- The id that a request settles on is the one its identity has, else the one it insists on, else
the next of the supply. -/
theorem eq_choose_of_serve {request : Request} {id : String}
    (h : (registry.serve request).1 = .ok id) :
    id = (registry.supply.choose (registry.identities.resolve request.identity)
      (registry.insisted request)).1 := by
  cases hbound : registry.identities.resolve request.identity with
  | none =>
    rw [serve_of_unresolved hbound] at h
    exact (Except.ok.inj h).symm
  | some existing =>
    rw [serve_of_resolved hbound] at h
    split at h
    · split at h
      · exact (Except.ok.inj h).symm
      · cases h
    · exact (Except.ok.inj h).symm

/-- A binding settles on the id that is to be bound. -/
theorem eq_of_serve_bind {identity : StoreId} {id settled : String}
    (h : (registry.serve (.bind identity id)).1 = .ok settled) : settled = id := by
  rw [serve] at h
  cases hanswer : (registry.bind identity id).1 with
  | ok answer =>
    simp only [hanswer, Except.map, Except.ok.injEq] at h
    exact h.symm
  | error error => simp only [hanswer, Except.map, reduceCtorEq] at h

/-- A bound identity has its registry left as it is. -/
theorem serve_snd_of_resolved {request : Request} {existing : String}
    (hbound : registry.identities.resolve request.identity = some existing) :
    (registry.serve request).2 = registry := by
  rw [serve_of_resolved hbound]
  split
  · split <;> rfl
  · rfl

/-- A request draws at most one id, and only for a new identity without an id to insist on. -/
theorem supply_serve (registry : Registry) (request : Request) :
    (registry.serve request).2.supply =
      if registry.identities.resolve request.identity = none ∧ registry.insisted request = none then
        registry.supply.mint.2
      else registry.supply := by
  cases hbound : registry.identities.resolve request.identity with
  | none =>
    rw [serve_of_unresolved hbound]
    cases registry.insisted request <;> rfl
  | some existing =>
    rw [serve_snd_of_resolved hbound]
    simp

/-- A request binds its own identity, unless that is bound, and no other. -/
theorem resolve_serve (registry : Registry) (request : Request) (other : StoreId) :
    (registry.serve request).2.identities.resolve other =
      if other = request.identity then
        some (registry.supply.choose (registry.identities.resolve request.identity)
          (registry.insisted request)).1
      else registry.identities.resolve other := by
  cases hbound : registry.identities.resolve request.identity with
  | none =>
    rw [serve_of_unresolved hbound]
    exact Identities.resolve_cons _ _ _ _ _
  | some existing =>
    rw [serve_snd_of_resolved hbound]
    split
    next heq => rw [heq, hbound]; rfl
    · rfl

/-- No request changes the policy. -/
@[simp] theorem policy_serve (registry : Registry) (request : Request) :
    (registry.serve request).2.identities.policy = registry.identities.policy := by
  cases hbound : registry.identities.resolve request.identity with
  | none => rw [serve_of_unresolved hbound]
  | some existing => rw [serve_snd_of_resolved hbound]

/-- No request takes a binding back. -/
theorem resolve_serve_of_resolved {identity : StoreId} {id : String}
    (hbound : registry.identities.resolve identity = some id) (request : Request) :
    (registry.serve request).2.identities.resolve identity = some id := by
  rw [resolve_serve]
  split
  next heq => rw [← heq, hbound]; rfl
  · exact hbound

/-!
## Sequences of requests
-/

/-- The registry after requests, of which a refused one does not keep the next from being served. -/
def run (registry : Registry) (requests : List Request) : Registry :=
  requests.foldl (fun registry request => (registry.serve request).2) registry

/-- No sequence of requests takes a binding back. -/
theorem resolve_run_of_resolved {identity : StoreId} {id : String} {registry : Registry}
    (hbound : registry.identities.resolve identity = some id) (requests : List Request) :
    (registry.run requests).identities.resolve identity = some id := by
  induction requests generalizing registry with
  | nil => exact hbound
  | cons request rest ih => exact ih (resolve_serve_of_resolved hbound request)

/-- No sequence of requests changes the policy. -/
@[simp] theorem policy_run (registry : Registry) (requests : List Request) :
    (registry.run requests).identities.policy = registry.identities.policy := by
  induction requests generalizing registry with
  | nil => rfl
  | cons request rest ih => exact (ih _).trans (policy_serve registry request)

/-- Every bound id is one that the supply has handed out since the start, and none was handed out
for two identities. -/
structure Drawn (start : IdSupply) (registry : Registry) : Prop where
  continues : registry.supply.Continues start
  drawn : ∀ {identity id}, registry.identities.resolve identity = some id →
    ∃ n, start.used ≤ n ∧ n < registry.supply.used ∧ id = start.id n
  alone : ∀ {a b id}, registry.identities.resolve a = some id →
    registry.identities.resolve b = some id → a = b

/-- Nothing is bound at the start. -/
theorem Drawn.start (policy : IdPolicy) (supply : IdSupply) :
    Drawn supply ⟨{ policy }, supply⟩ where
  continues := .refl supply
  drawn h := by simp [Identities.resolve] at h
  alone h := by simp [Identities.resolve] at h

/-- An id drawn from a supply of distinct ids has not been handed out before. -/
theorem Drawn.next_ne {start : IdSupply} (hdrawn : Drawn start registry)
    (hdistinct : start.Distinct) {identity : StoreId} {id : String}
    (hbound : registry.identities.resolve identity = some id) : id ≠ registry.supply.mint.1 := by
  obtain ⟨n, hstart, hused, rfl⟩ := hdrawn.drawn hbound
  intro heq
  have hnext : start.id n = start.id registry.supply.used := by
    rw [heq, IdSupply.mint, hdrawn.continues.id_eq]
  exact hused.ne (hdistinct hstart hdrawn.continues.used_le hnext)

/-- A request that insists on nothing keeps the bound ids drawn and apart. -/
theorem Drawn.serve {start : IdSupply} (hdrawn : Drawn start registry)
    (hdistinct : start.Distinct) {request : Request} (hfree : registry.insisted request = none) :
    Drawn start (registry.serve request).2 := by
  cases hbound : registry.identities.resolve request.identity with
  | some existing =>
    rw [serve_snd_of_resolved hbound]
    exact hdrawn
  | none =>
    have hresolve (other : StoreId) : (registry.serve request).2.identities.resolve other =
        if other = request.identity then some registry.supply.mint.1
        else registry.identities.resolve other := by
      rw [resolve_serve, hbound, hfree]
      rfl
    have hsupply : (registry.serve request).2.supply = registry.supply.mint.2 := by
      rw [supply_serve, if_pos ⟨hbound, hfree⟩]
    refine ⟨?_, fun {identity id} h => ?_, fun {a b id} ha hb => ?_⟩
    · rw [hsupply]
      exact hdrawn.continues.choose none none
    · rw [hresolve] at h
      rw [hsupply]
      split at h
      · refine ⟨registry.supply.used, hdrawn.continues.used_le, Nat.lt_succ_self _, ?_⟩
        rw [← Option.some.inj h, IdSupply.mint, hdrawn.continues.id_eq]
      · obtain ⟨n, hstart, hused, heq⟩ := hdrawn.drawn h
        exact ⟨n, hstart, hused.trans (Nat.lt_succ_self _), heq⟩
    · rw [hresolve] at ha hb
      split at ha <;> split at hb
      next hea heb => exact hea.trans heb.symm
      next => exact absurd (Option.some.inj ha).symm (hdrawn.next_ne hdistinct hb)
      next => exact absurd (Option.some.inj hb).symm (hdrawn.next_ne hdistinct ha)
      next => exact hdrawn.alone ha hb

/-- Where every identity gets a new id, assignments keep the bound ids drawn and apart. -/
theorem Drawn.run {start : IdSupply} {registry : Registry} (hdrawn : Drawn start registry)
    (hdistinct : start.Distinct) (hpolicy : registry.identities.policy = .mint)
    {requests : List Request}
    (hassign : ∀ request ∈ requests, ∃ identity id?, request = .assign identity id?) :
    Drawn start (registry.run requests) := by
  induction requests generalizing registry with
  | nil => exact hdrawn
  | cons request rest ih =>
    obtain ⟨hfirst, hrest⟩ := List.forall_mem_cons.mp hassign
    have hfree : registry.insisted request = none := by
      obtain ⟨identity, id?, rfl⟩ := hfirst
      exact Identities.carried_of_mint hpolicy id?
    exact ih (hdrawn.serve hdistinct hfree) (by rw [policy_serve, hpolicy]) hrest

/-- After any sequence of requests, refused ones included, every request is served as the identities
answer it in one go, and every binding stays for good. A request touches its own identity alone and
nothing where it is refused; it is refused just when it insists on another id than the bound one,
and else its identity leads to the id that it settles on. An id is drawn once by an assignment that
has none to fall back on, and never otherwise. Where every identity gets a new id and the ids of the
supply are distinct, assignments give no two identities the same. -/
theorem bindings_stay (policy : IdPolicy) (supply : IdSupply) (requests : List Request) :
    let registry := run ⟨{ policy }, supply⟩ requests
    (∀ request, registry.serve request = registry.answer request) ∧
    (∀ identity id, registry.identities.resolve identity = some id →
      ∀ more, (registry.run more).identities.resolve identity = some id) ∧
    (∀ request,
      (∀ other, other ≠ request.identity →
        (registry.serve request).2.identities.resolve other =
          registry.identities.resolve other) ∧
      (∀ error, (registry.serve request).1 = .error error → (registry.serve request).2 = registry) ∧
      ∀ id, (registry.serve request).1 = .ok id →
        (registry.serve request).2.identities.resolve request.identity = some id) ∧
    (∀ identity id,
      (∀ error, (registry.serve (.bind identity id)).1 = .error error ↔
        ∃ existing, registry.identities.resolve identity = some existing ∧ existing ≠ id ∧
          error = .identityConflict identity existing id) ∧
      (∀ settled, (registry.serve (.bind identity id)).1 = .ok settled → settled = id) ∧
      (registry.serve (.bind identity id)).2.supply = registry.supply) ∧
    (policy = .reuse → ∀ identity id error,
      (registry.serve (.assign identity (some id))).1 = .error error ↔
        ∃ existing, registry.identities.resolve identity = some existing ∧ existing ≠ id ∧
          error = .identityConflict identity existing id) ∧
    (∀ identity id?, policy = .mint ∨ id? = none →
      ∃ id, (registry.serve (.assign identity id?)).1 = .ok id) ∧
    (∀ identity id?, (registry.serve (.assign identity id?)).2.supply =
      if registry.identities.resolve identity = none ∧ (policy = .mint ∨ id? = none) then
        registry.supply.mint.2
      else registry.supply) ∧
    (policy = .mint → supply.Distinct →
      (∀ request ∈ requests, ∃ identity id?, request = .assign identity id?) →
      ∀ a b id, registry.identities.resolve a = some id → registry.identities.resolve b = some id →
        a = b) := by
  intro registry
  have hpolicy : registry.identities.policy = policy := policy_run _ _
  refine ⟨registry.serve_eq_answer, fun identity id hbound => resolve_run_of_resolved hbound,
    fun request => ⟨?_, ?_, ?_⟩, fun identity id => ⟨?_, ?_, ?_⟩, ?_, ?_, ?_, ?_⟩
  · intro other hother
    rw [resolve_serve, if_neg hother]
  · intro error herror
    obtain ⟨existing, id, hbound, -⟩ := serve_eq_error_iff.mp herror
    exact serve_snd_of_resolved hbound
  · intro id hid
    rw [resolve_serve, if_pos rfl, eq_choose_of_serve hid]
  · intro error
    simp [serve_eq_error_iff, insisted, Request.identity]
  · intro settled
    exact eq_of_serve_bind
  · rw [supply_serve, if_neg (by simp [insisted])]
  · intro hreuse identity id error
    simp [serve_eq_error_iff, insisted, Request.identity,
      Identities.carried_of_reuse (hpolicy.trans hreuse)]
  · intro identity id? hnone
    cases hanswer : (registry.serve (.assign identity id?)).1 with
    | ok id => exact ⟨id, rfl⟩
    | error error =>
      obtain ⟨_, _, -, hinsisted, -⟩ := serve_eq_error_iff.mp hanswer
      rw [← hpolicy, ← Identities.carried_eq_none_iff] at hnone
      cases hnone.symm.trans hinsisted
  · intro identity id?
    simp only [supply_serve, insisted, Identities.carried_eq_none_iff, hpolicy, Request.identity]
  · intro hmint hdistinct hassign a b id
    exact ((Drawn.start policy supply).run hdistinct hmint hassign).alone

end Registry

end GraphGateway
