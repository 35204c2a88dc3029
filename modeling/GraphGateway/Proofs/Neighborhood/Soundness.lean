import GraphGateway.Neighborhood
import GraphGateway.Proofs.Assembly.Growth
import GraphGateway.Proofs.Assembly.Soundness

/-!
# What placing a neighbourhood keeps

Rows of a neighbourhood are placed by the steps of every assembly, also where they stop half-way: so
what steps keep, rows keep. The assembly stays sound, and it only grows.
-/

namespace GraphGateway.Assembly

/-!
## Rows as steps
-/

/-- Placing a neighbour is placing its node and then its relationship. -/
theorem placeNeighbor_of_ok {assembly after : Assembly} {neighbor : Neighbor} {id : String}
    (h : assembly.placeNode neighbor.node = (.ok id, after)) (ends : String → String × String) :
    assembly.placeNeighbor neighbor ends =
      ((after.placeBetween neighbor.relationship (ends id).1 (ends id).2).1.map fun _ => (),
        (after.placeBetween neighbor.relationship (ends id).1 (ends id).2).2) := by
  simp only [placeNeighbor, h]

/-- A neighbour whose node is refused is refused. -/
theorem placeNeighbor_of_error {assembly after : Assembly} {neighbor : Neighbor} {error : Error}
    (h : assembly.placeNode neighbor.node = (.error error, after))
    (ends : String → String × String) :
    assembly.placeNeighbor neighbor ends = (.error error, after) := by
  simp only [placeNeighbor, h]

/-- An optional neighbour is placed by at most two steps. -/
theorem exists_run_placeNeighbor? (assembly : Assembly) (neighbor? : Option Neighbor)
    (ends : String → String × String) :
    ∃ steps, assembly.run steps = (assembly.placeNeighbor? neighbor? ends).2 := by
  cases neighbor? with
  | none => exact ⟨[], rfl⟩
  | some neighbor =>
    rw [placeNeighbor?]
    rcases hplaced : assembly.placeNode neighbor.node with ⟨error | id, reached⟩
    · rw [placeNeighbor_of_error hplaced]
      exact ⟨[.node neighbor.node], congrArg Prod.snd hplaced⟩
    · rw [placeNeighbor_of_ok hplaced]
      refine ⟨[.node neighbor.node, .between neighbor.relationship (ends id).1 (ends id).2], ?_⟩
      simp only [run, List.foldl_cons, List.foldl_nil, after, hplaced]

/-- A row is refused for its middle, or goes on to its parent and then to its child. -/
theorem placeRow_cases (assembly : Assembly) (wanted : String) (row : NeighborRow) :
    (∃ error after, assembly.placeNode row.center = (.error error, after) ∧
      assembly.placeRow wanted row = (.error error, after)) ∨
    (∃ center after, assembly.placeNode row.center = (.ok center, after) ∧ center ≠ wanted ∧
      assembly.placeRow wanted row =
        (.error (.unexpectedShape (.foreignCenter center wanted)), after)) ∨
    ∃ after, assembly.placeNode row.center = (.ok wanted, after) ∧
      assembly.placeRow wanted row =
        match after.placeNeighbor? row.parent? fun parent => (parent, wanted) with
        | (.error error, after) => (.error error, after)
        | (.ok (), after) => after.placeNeighbor? row.child? fun child => (wanted, child) := by
  unfold placeRow
  rcases assembly.placeNode row.center with ⟨error | center, after⟩
  · exact Or.inl ⟨error, after, rfl, rfl⟩
  · by_cases hwanted : center = wanted
    · subst hwanted
      exact Or.inr (Or.inr ⟨after, rfl, if_neg fun hforeign => hforeign rfl⟩)
    · exact Or.inr (Or.inl ⟨center, after, rfl, hwanted, if_pos hwanted⟩)

/-- Behind its middle, a row is placed by steps. -/
theorem exists_run_placeRow_of_center {assembly middle : Assembly} {wanted : String}
    {row : NeighborRow} (hcenter : assembly.placeNode row.center = (.ok wanted, middle)) :
    ∃ steps, middle.run steps = (assembly.placeRow wanted row).2 := by
  rcases assembly.placeRow_cases wanted row with
    ⟨error, _, hplaced, -⟩ | ⟨center, _, hplaced, hforeign, -⟩ | ⟨_, hplaced, heq⟩
  · cases hcenter.symm.trans hplaced
  · cases hcenter.symm.trans hplaced
    exact absurd rfl hforeign
  · cases hcenter.symm.trans hplaced
    obtain ⟨parents, hparent⟩ :=
      middle.exists_run_placeNeighbor? row.parent? fun parent => (parent, wanted)
    rw [heq]
    rcases hjoined : middle.placeNeighbor? row.parent? fun parent => (parent, wanted) with
      ⟨error | _, reached⟩
    · rw [hjoined] at hparent
      exact ⟨parents, hparent⟩
    · rw [hjoined] at hparent
      obtain ⟨children, hchild⟩ :=
        reached.exists_run_placeNeighbor? row.child? fun child => (wanted, child)
      exact ⟨parents ++ children, by rw [run_append, hparent, hchild]⟩

/-- A row is placed by steps. -/
theorem exists_run_placeRow (assembly : Assembly) (wanted : String) (row : NeighborRow) :
    ∃ steps, assembly.run steps = (assembly.placeRow wanted row).2 := by
  rcases assembly.placeRow_cases wanted row with
    ⟨error, reached, hplaced, heq⟩ | ⟨center, reached, hplaced, -, heq⟩ | ⟨reached, hplaced, -⟩
  · exact ⟨[.node row.center], by rw [heq]; exact congrArg Prod.snd hplaced⟩
  · exact ⟨[.node row.center], by rw [heq]; exact congrArg Prod.snd hplaced⟩
  · obtain ⟨steps, hsteps⟩ := exists_run_placeRow_of_center hplaced
    refine ⟨.node row.center :: steps, ?_⟩
    rw [← hsteps]
    exact congrArg (fun placed => placed.2.run steps) hplaced

/-- Rows are placed by steps. -/
theorem exists_run_placeRows (assembly : Assembly) (wanted : String) (rows : List NeighborRow) :
    ∃ steps, assembly.run steps = (assembly.placeRows wanted rows).2 := by
  induction rows generalizing assembly with
  | nil => exact ⟨[], rfl⟩
  | cons row rest ih =>
    obtain ⟨steps, hrow⟩ := assembly.exists_run_placeRow wanted row
    rw [placeRows]
    rcases hplaced : assembly.placeRow wanted row with ⟨error | _, reached⟩
    · rw [hplaced] at hrow
      exact ⟨steps, hrow⟩
    · rw [hplaced] at hrow
      obtain ⟨more, hrest⟩ := ih reached
      exact ⟨steps ++ more, by rw [run_append, hrow, hrest]⟩

/-!
## What rows keep
-/

/-- Placing an optional neighbour keeps an assembly sound. -/
theorem Sound.placeNeighbor? {assembly : Assembly} (hsound : assembly.Sound)
    (neighbor? : Option Neighbor) (ends : String → String × String) :
    (assembly.placeNeighbor? neighbor? ends).2.Sound := by
  obtain ⟨steps, hsteps⟩ := assembly.exists_run_placeNeighbor? neighbor? ends
  exact hsteps ▸ hsound.run steps

/-- Placing a row keeps an assembly sound. -/
theorem Sound.placeRow {assembly : Assembly} (hsound : assembly.Sound) (wanted : String)
    (row : NeighborRow) : (assembly.placeRow wanted row).2.Sound := by
  obtain ⟨steps, hsteps⟩ := assembly.exists_run_placeRow wanted row
  exact hsteps ▸ hsound.run steps

/-- Placing an optional neighbour lets an assembly grow. -/
theorem GrowsTo.placeNeighbor? (assembly : Assembly) (neighbor? : Option Neighbor)
    (ends : String → String × String) :
    assembly.GrowsTo (assembly.placeNeighbor? neighbor? ends).2 := by
  obtain ⟨steps, hsteps⟩ := assembly.exists_run_placeNeighbor? neighbor? ends
  exact hsteps ▸ .run assembly steps

/-- Placing what stands behind its middle in a row lets an assembly grow. -/
theorem GrowsTo.placeRow_of_center {assembly middle : Assembly} {wanted : String}
    {row : NeighborRow} (hcenter : assembly.placeNode row.center = (.ok wanted, middle)) :
    middle.GrowsTo (assembly.placeRow wanted row).2 := by
  obtain ⟨steps, hsteps⟩ := exists_run_placeRow_of_center hcenter
  exact hsteps ▸ .run middle steps

/-- Placing a row lets an assembly grow. -/
theorem GrowsTo.placeRow (assembly : Assembly) (wanted : String) (row : NeighborRow) :
    assembly.GrowsTo (assembly.placeRow wanted row).2 := by
  obtain ⟨steps, hsteps⟩ := assembly.exists_run_placeRow wanted row
  exact hsteps ▸ .run assembly steps

/-- Placing rows lets an assembly grow. -/
theorem GrowsTo.placeRows (assembly : Assembly) (wanted : String) (rows : List NeighborRow) :
    assembly.GrowsTo (assembly.placeRows wanted rows).2 := by
  obtain ⟨steps, hsteps⟩ := assembly.exists_run_placeRows wanted rows
  exact hsteps ▸ .run assembly steps

end GraphGateway.Assembly
