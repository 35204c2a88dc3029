import GraphGateway.Proofs.Assembly.Identities
import Mathlib.Data.Set.Function

/-!
# Supplies of new ids

What is asked of a supply so that its ids tell elements apart: that they are pairwise distinct, and
that they differ from the ids that the elements carry. Ids are handed out in order and none is taken
back.
-/

namespace GraphGateway

namespace IdSupply

/-- The ids still to be handed out are pairwise distinct. -/
def Distinct (supply : IdSupply) : Prop := Set.InjOn supply.id {n | supply.used ≤ n}

/-- An id will not be handed out. -/
def Avoids (supply : IdSupply) (id : String) : Prop := ∀ n, supply.used ≤ n → supply.id n ≠ id

/-- No id that one of the elements carries will be handed out. -/
def AvoidsCarried {α : Type} (supply : IdSupply) (carriedOf : α → Option String)
    (values : List α) : Prop :=
  ∀ value ∈ values, ∀ id, carriedOf value = some id → supply.Avoids id

/-- A supply is what another one has become after handing out some ids. -/
structure Continues (later start : IdSupply) : Prop where
  id_eq : later.id = start.id
  used_le : start.used ≤ later.used

theorem Continues.refl (supply : IdSupply) : supply.Continues supply := ⟨rfl, le_rfl⟩

/-- Choosing an id hands out at most one. -/
theorem Continues.choose {later start : IdSupply} (hcontinues : later.Continues start)
    (bound? carried? : Option String) : (later.choose bound? carried?).2.Continues start := by
  rcases bound? with _ | bound
  · rcases carried? with _ | carried
    · exact ⟨hcontinues.id_eq, hcontinues.used_le.trans (Nat.le_succ _)⟩
    · exact hcontinues
  · exact hcontinues

/-- Choosing an id takes none back. -/
theorem used_le_choose (supply : IdSupply) (bound? carried? : Option String) :
    supply.used ≤ (supply.choose bound? carried?).2.used :=
  ((Continues.refl supply).choose bound? carried?).used_le

end IdSupply

end GraphGateway
