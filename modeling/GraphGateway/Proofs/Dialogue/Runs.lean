import GraphGateway.Gateway.Basic
import GraphGateway.Proofs.Dialogue.Exchange

/-!
# Runs of calls

A call runs from a supply of ids, takes exchanges, and ends with an outcome and what is left of the
supply. The runs of a call made of parts are described by the runs of the parts.
-/

namespace GraphGateway.Call

variable {α β : Type}

/-- A call runs from a supply through exchanges to an outcome and the rest of the supply. -/
def Runs (call : Call α) (supply : IdSupply) (exchanges : List Exchange)
    (outcome : Except Error α) (rest : IdSupply) : Prop :=
  (call.start supply).Takes exchanges (outcome, rest)

variable {supply rest : IdSupply} {exchanges : List Exchange}

/-- A call that is over takes no exchanges. -/
theorem runs_pure_iff {value : α} {outcome : Except Error α} :
    (pure value : Call α).Runs supply exchanges outcome rest ↔
      exchanges = [] ∧ outcome = .ok value ∧ rest = supply := by
  have hstart : (pure value : Call α).start supply = .done (.ok value, supply) := rfl
  rw [Runs, hstart, Dialogue.takes_done_iff, Prod.mk.injEq]

/-- A call that fails takes no exchanges. -/
theorem runs_throw_iff {error : Error} {outcome : Except Error α} :
    (throw error : Call α).Runs supply exchanges outcome rest ↔
      exchanges = [] ∧ outcome = .error error ∧ rest = supply := by
  have hstart : (throw error : Call α).start supply = .done (.error error, supply) := rfl
  rw [Runs, hstart, Dialogue.takes_done_iff, Prod.mk.injEq]

/-- A call goes on with the value of its first part, and ends where that fails. -/
theorem runs_bind_iff {call : Call α} {continuation : α → Call β} {outcome : Except Error β} :
    (call >>= continuation).Runs supply exchanges outcome rest ↔
      (∃ error, call.Runs supply exchanges (.error error) rest ∧ outcome = .error error) ∨
      ∃ value middle first second, exchanges = first ++ second ∧
        call.Runs supply first (.ok value) middle ∧
        (continuation value).Runs middle second outcome rest := by
  have hstart : (call >>= continuation).start supply =
      (call.start supply).andThen fun ended =>
        StateT.run (ExceptT.bindCont continuation ended.1) ended.2 := rfl
  rw [Runs, hstart, Dialogue.takes_andThen_iff]
  constructor
  · rintro ⟨⟨error | value, middle⟩, first, second, rfl, hfirst, hsecond⟩
    · obtain ⟨rfl, hend⟩ := Dialogue.takes_done_iff.mp hsecond
      cases hend
      rw [List.append_nil]
      exact .inl ⟨error, hfirst, rfl⟩
    · exact .inr ⟨value, middle, first, second, rfl, hfirst, hsecond⟩
  · rintro (⟨error, hfirst, rfl⟩ | ⟨value, middle, first, second, rfl, hfirst, hsecond⟩)
    · exact ⟨(.error error, rest), exchanges, [], (List.append_nil _).symm, hfirst, .done _⟩
    · exact ⟨(.ok value, middle), first, second, rfl, hfirst, hsecond⟩

/-- A call that ends with a value has gone through the value of its first part. -/
theorem runs_bind_ok_iff {call : Call α} {continuation : α → Call β} {value : β} :
    (call >>= continuation).Runs supply exchanges (.ok value) rest ↔
      ∃ first middle before after, exchanges = before ++ after ∧
        call.Runs supply before (.ok first) middle ∧
        (continuation first).Runs middle after (.ok value) rest := by
  rw [runs_bind_iff]
  constructor
  · rintro (⟨error, -, hfailed⟩ | h)
    · cases hfailed
    · exact h
  · exact .inr

/-- A new id is drawn from the supply. -/
theorem runs_mint_iff {outcome : Except Error String} :
    mint.Runs supply exchanges outcome rest ↔
      exchanges = [] ∧ outcome = .ok supply.mint.1 ∧ rest = supply.mint.2 := by
  have hstart : mint.start supply = .done (.ok supply.mint.1, supply.mint.2) := rfl
  rw [Runs, hstart, Dialogue.takes_done_iff, Prod.mk.injEq]

/-- A computation that draws on the supply takes no exchanges. -/
theorem runs_draw_iff {compute : IdSupply → Except Error α × IdSupply}
    {outcome : Except Error α} :
    (draw compute).Runs supply exchanges outcome rest ↔
      exchanges = [] ∧ outcome = (compute supply).1 ∧ rest = (compute supply).2 := by
  have hstart : (draw compute).start supply = .done (compute supply) := by
    have hcompute : (draw compute).start supply =
        (draw.liftExcept (compute supply).1).start (compute supply).2 := rfl
    rw [hcompute]
    rcases compute supply with ⟨_ | _, _⟩ <;> rfl
  rw [Runs, hstart, Dialogue.takes_done_iff, Prod.ext_iff]

/-- A check takes no exchanges and leaves the supply alone. -/
theorem runs_check_iff {checked outcome : Except Error α} :
    (check checked).Runs supply exchanges outcome rest ↔
      exchanges = [] ∧ outcome = checked ∧ rest = supply :=
  runs_draw_iff

/-- A statement is one question, and the failure of the store is the failure of the call. -/
theorem start_execute (access : Access) (statement : Statement) (supply : IdSupply) :
    (execute access statement).start supply =
      (Dialogue.question access statement).andThen fun answer =>
        .done (answer.mapError Error.store, supply) := by
  refine congrArg (Dialogue.andThen (Dialogue.question access statement)) ?_
  funext answer
  cases answer <;> rfl

/-- A statement takes one exchange and leaves the supply alone; the failure of the session is the
failure of the call. -/
theorem runs_execute_iff {access : Access} {statement : Statement}
    {outcome : Except Error (List Row)} :
    (execute access statement).Runs supply exchanges outcome rest ↔
      ∃ session : Session, exchanges = [⟨access, statement, session⟩] ∧
        outcome = session.answer.mapError Error.store ∧ rest = supply := by
  rw [Runs, start_execute, Dialogue.takes_andThen_iff]
  constructor
  · rintro ⟨answer, first, second, rfl, hfirst, hsecond⟩
    obtain ⟨session, rfl, rfl⟩ := Dialogue.takes_question_iff.mp hfirst
    obtain ⟨rfl, hend⟩ := Dialogue.takes_done_iff.mp hsecond
    cases hend
    exact ⟨session, rfl, rfl, rfl⟩
  · rintro ⟨session, rfl, rfl, rfl⟩
    exact ⟨session.answer, _, [], rfl, Dialogue.takes_question_iff.mpr ⟨session, rfl, rfl⟩, .done _⟩

/-- A call that asks nothing. -/
def Silent (call : Call α) : Prop :=
  ∀ ⦃supply exchanges outcome rest⦄, call.Runs supply exchanges outcome rest → exchanges = []

namespace Silent

/-- A value alone asks nothing. -/
protected theorem pure (value : α) : Silent (pure value) := fun _ _ _ _ h =>
  (runs_pure_iff.mp h).1

/-- An error of the call's own asks nothing. -/
protected theorem throw (error : Error) : Silent (throw error : Call α) := fun _ _ _ _ h =>
  (runs_throw_iff.mp h).1

/-- A new id asks nothing. -/
protected theorem mint : Silent mint := fun _ _ _ _ h => (runs_mint_iff.mp h).1

/-- A computation that draws on the supply asks nothing. -/
protected theorem draw (compute : IdSupply → Except Error α × IdSupply) : Silent (draw compute) :=
  fun _ _ _ _ h => (runs_draw_iff.mp h).1

/-- Calls that ask nothing can be put one behind the other. -/
protected theorem bind {call : Call α} {continuation : α → Call β} (hcall : call.Silent)
    (hcontinuation : ∀ value, (continuation value).Silent) : (call >>= continuation).Silent := by
  intro supply exchanges outcome rest h
  obtain ⟨error, hfirst, -⟩ | ⟨value, middle, first, second, rfl, hfirst, hsecond⟩ :=
    runs_bind_iff.mp h
  · exact hcall hfirst
  · rw [hcall hfirst, hcontinuation value hsecond, List.append_nil]

end Silent

end GraphGateway.Call
