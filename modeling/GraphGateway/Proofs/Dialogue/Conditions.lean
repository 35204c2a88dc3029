import GraphGateway.Proofs.Dialogue.Runs

/-!
# Conditions on what is asked and on how it fails

A condition that holds of every exchange of a call, or of every error that it may end with, however
its sessions answer. Both kinds are kept when calls are put one behind the other, so that for an
operation it is enough to look at its single statements and checks.
-/

namespace GraphGateway

variable {α β : Type} {condition weaker : Error → Prop}

/-- An outcome that is a value, or an error under a condition. -/
def FailsOnly (condition : Error → Prop) (outcome : Except Error α) : Prop :=
  ∀ error, outcome = .error error → condition error

namespace FailsOnly

/-- A value is no error. -/
protected theorem ok (value : α) : FailsOnly condition (.ok value) := nofun

/-- An error under the condition. -/
protected theorem error {error : Error} (h : condition error) :
    FailsOnly condition (.error error : Except Error α) := by
  rintro _ ⟨⟩
  exact h

/-- A condition may be replaced by a weaker one. -/
protected theorem mono {outcome : Except Error α} (h : FailsOnly condition outcome)
    (hweaker : ∀ error, condition error → weaker error) : FailsOnly weaker outcome :=
  fun error herror => hweaker error (h error herror)

/-- An error that is passed on as it came out of a step with a state. -/
theorem passed_on {state : Type} {step : Except Error α × state} {error : Error} {left : state}
    (h : FailsOnly condition step.1) (heq : step = (.error error, left)) :
    FailsOnly condition (.error error : Except Error β) :=
  .error (h error (congrArg Prod.fst heq))

/-- Of two stages, each fails under the condition. -/
protected theorem bind {first : Except Error α} {second : α → Except Error β}
    (hfirst : FailsOnly condition first) (hsecond : ∀ value, FailsOnly condition (second value)) :
    FailsOnly condition (first >>= second) := by
  cases first with
  | error error =>
    rintro _ ⟨⟩
    exact hfirst error rfl
  | ok value => exact hsecond value

/-- What is done with the value does not fail. -/
protected theorem map {outcome : Except Error α} (h : FailsOnly condition outcome) (f : α → β) :
    FailsOnly condition (f <$> outcome) := by
  cases outcome with
  | error error =>
    rintro _ ⟨⟩
    exact h error rfl
  | ok value => exact .ok _

/-- Values that are checked one by one. -/
protected theorem mapM {check : α → Except Error β}
    (hcheck : ∀ value, FailsOnly condition (check value)) (values : List α) :
    FailsOnly condition (values.mapM check) := by
  induction values with
  | nil => exact .ok _
  | cons value values ih =>
    rw [List.mapM_cons]
    exact .bind (hcheck value) fun _ => .bind ih fun _ => .ok _

end FailsOnly

namespace Call

variable {asked : Exchange → Prop}

/-- A call all of whose exchanges are under a condition. -/
def Asks (asked : Exchange → Prop) (call : Call α) : Prop :=
  ∀ ⦃supply exchanges outcome rest⦄, call.Runs supply exchanges outcome rest →
    ∀ exchange ∈ exchanges, asked exchange

/-- A call all of whose errors are under a condition. -/
def Fails (condition : Error → Prop) (call : Call α) : Prop :=
  ∀ ⦃supply exchanges outcome rest⦄, call.Runs supply exchanges outcome rest →
    FailsOnly condition outcome

namespace Asks

/-- What asks nothing is under every condition. -/
theorem of_silent {call : Call α} (hcall : call.Silent) : Asks asked call := by
  intro supply exchanges outcome rest h
  rw [hcall h]
  exact List.forall_mem_nil _

/-- A value alone asks nothing. -/
protected theorem pure (value : α) : Asks asked (pure value) := of_silent (.pure value)

/-- An error of the call's own asks nothing. -/
protected theorem throw (error : Error) : Asks asked (throw error : Call α) :=
  of_silent (.throw error)

/-- A computation that draws on the supply asks nothing. -/
protected theorem draw (compute : IdSupply → Except Error α × IdSupply) :
    Asks asked (draw compute) :=
  of_silent (.draw compute)

/-- A single statement, asked in any session. -/
protected theorem execute {access : Access} {statement : Statement}
    (h : ∀ session, asked ⟨access, statement, session⟩) :
    Asks asked (execute access statement) := by
  intro supply exchanges outcome rest hruns
  obtain ⟨session, rfl, -, -⟩ := runs_execute_iff.mp hruns
  exact List.forall_mem_singleton.mpr (h session)

/-- Calls can be put one behind the other. -/
protected theorem bind {call : Call α} {continuation : α → Call β} (hcall : Asks asked call)
    (hcontinuation : ∀ value, Asks asked (continuation value)) :
    Asks asked (call >>= continuation) := by
  intro supply exchanges outcome rest h
  obtain ⟨error, hfirst, -⟩ | ⟨value, middle, first, second, rfl, hfirst, hsecond⟩ :=
    runs_bind_iff.mp h
  · exact hcall hfirst
  · exact List.forall_mem_append.mpr ⟨hcall hfirst, hcontinuation value hsecond⟩

/-- What follows a check may rely on it. -/
protected theorem check_bind {checked : Except Error α} {continuation : α → Call β}
    (hcontinuation : ∀ value, checked = .ok value → Asks asked (continuation value)) :
    Asks asked (check checked >>= continuation) := by
  intro supply exchanges outcome rest h
  obtain ⟨error, hfirst, -⟩ | ⟨value, middle, first, second, rfl, hfirst, hsecond⟩ :=
    runs_bind_iff.mp h
  · obtain ⟨rfl, -, -⟩ := runs_check_iff.mp hfirst
    exact List.forall_mem_nil _
  · obtain ⟨rfl, hvalue, rfl⟩ := runs_check_iff.mp hfirst
    exact hcontinuation value hvalue.symm hsecond

end Asks

namespace Fails

/-- A value alone is no error. -/
protected theorem pure (value : α) : Fails condition (pure value) := by
  intro supply exchanges outcome rest h
  obtain ⟨-, rfl, -⟩ := runs_pure_iff.mp h
  exact .ok _

/-- An error under the condition. -/
protected theorem throw {error : Error} (herror : condition error) :
    Fails condition (throw error : Call α) := by
  intro supply exchanges outcome rest h
  obtain ⟨-, rfl, -⟩ := runs_throw_iff.mp h
  exact .error herror

/-- A new id is no error. -/
protected theorem mint : Fails condition mint := by
  intro supply exchanges outcome rest h
  obtain ⟨-, rfl, -⟩ := runs_mint_iff.mp h
  exact .ok _

/-- A computation fails under the condition if it does so with every supply. -/
protected theorem draw {compute : IdSupply → Except Error α × IdSupply}
    (hcompute : ∀ supply, FailsOnly condition (compute supply).1) :
    Fails condition (draw compute) := by
  intro supply exchanges outcome rest h
  obtain ⟨-, rfl, -⟩ := runs_draw_iff.mp h
  exact hcompute supply

/-- Calls can be put one behind the other. -/
protected theorem bind {call : Call α} {continuation : α → Call β} (hcall : Fails condition call)
    (hcontinuation : ∀ value, Fails condition (continuation value)) :
    Fails condition (call >>= continuation) := by
  intro supply exchanges outcome rest h
  obtain ⟨error, hfirst, rfl⟩ | ⟨value, middle, first, second, -, -, hsecond⟩ :=
    runs_bind_iff.mp h
  · exact .error (hcall hfirst error rfl)
  · exact hcontinuation value hsecond

end Fails

end Call

end GraphGateway
