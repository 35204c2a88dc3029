import GraphGateway.Proofs.Assembly.Outcome
import GraphGateway.Proofs.Neighborhood.Soundness

/-!
# Rows of a neighbourhood as occurrences

A row that is placed in full is placed as its nodes and relationships would be, each relationship
put between the nodes that the row joins. So an assembly that has placed rows follows the naming of
their occurrences. A row is refused for two reasons only, a conflict of identities and a middle
under another id: an end is never missing, as the row itself has brought it.
-/

namespace GraphGateway

/-- The relationship between other ends. -/
def StoreRelationship.between (relationship : StoreRelationship) (start finish : StoreId) :
    StoreRelationship :=
  { relationship with start, finish }

namespace NeighborRow

/-- The neighbours in a row, the parent before the child. -/
def neighbors (row : NeighborRow) : List Neighbor := row.parent?.toList ++ row.child?.toList

/-- What occurs in a row behind its middle, every relationship between the nodes that it joins. -/
def joined (row : NeighborRow) : List Occurrence :=
  (row.parent?.toList.flatMap fun parent => [.node parent.node, .relationship
    (parent.relationship.between parent.node.identity row.center.identity)]) ++
  row.child?.toList.flatMap fun child => [.node child.node, .relationship
    (child.relationship.between row.center.identity child.node.identity)]

/-- The occurrences in a row: the middle, then the parent and the child with their relationships. -/
def occurrences (row : NeighborRow) : List Occurrence := .node row.center :: row.joined

end NeighborRow

namespace Assembly

variable {assembly : Assembly} {id : String}

/-- A node that is placed is bound to the id it is answered with. -/
theorem resolve_of_placeNode {node : StoreNode} {after : Assembly}
    (h : assembly.placeNode node = (.ok id, after)) :
    after.nodes.resolve node.identity = some id := by
  rcases assembly.placeNode_cases node with ⟨error, -, heq⟩ | ⟨_, _, _, hassign, heq⟩
  · rw [heq] at h
    cases h
  · rw [heq] at h
    cases h
    exact Identities.resolve_of_assign hassign

/-!
## Placing a row is placing its occurrences
-/

/-- Placing a neighbour is placing its node and its relationship between the identities that are
bound to the wanted ends. -/
theorem placeNeighbor_eq_placeAll {neighbor : Neighbor} {ends : String → String × String}
    {start finish : StoreId}
    (hends : ∀ id after, assembly.placeNode neighbor.node = (.ok id, after) →
      after.nodes.resolve start = some (ends id).1 ∧
        after.nodes.resolve finish = some (ends id).2) :
    assembly.placeNeighbor neighbor ends =
      assembly.placeAll [.node neighbor.node,
        .relationship (neighbor.relationship.between start finish)] := by
  rw [placeAll]
  simp only [placeAll_singleton]
  rcases hplaced : assembly.placeNode neighbor.node with ⟨error | id, after⟩
  · rw [placeNeighbor_of_error hplaced]
    simp only [place, hplaced]
    rfl
  · obtain ⟨hstart, hfinish⟩ := hends id after hplaced
    have hrelationship : after.placeRelationship (neighbor.relationship.between start finish) =
        after.placeBetween neighbor.relationship (ends id).1 (ends id).2 :=
      placeRelationship_of_resolved hstart hfinish
    rw [placeNeighbor_of_ok hplaced]
    simp only [place, hplaced, Except.map, hrelationship]

/-- A parent is placed as its node and its relationship to the middle. -/
private theorem placeNeighbor?_parent {center : StoreId} (parent? : Option Neighbor)
    (hcenter : assembly.nodes.resolve center = some id) :
    assembly.placeNeighbor? parent? (fun parent => (parent, id)) =
      assembly.placeAll ((parent?.toList.flatMap fun parent => [.node parent.node, .relationship
        (parent.relationship.between parent.node.identity center)]).map Occurrence.piece) := by
  cases parent? with
  | none => rfl
  | some parent =>
    refine placeNeighbor_eq_placeAll fun given after hplaced => ⟨resolve_of_placeNode hplaced, ?_⟩
    simpa only [hplaced] using (GrowsTo.placeNode assembly parent.node).nodes.resolve hcenter

/-- A child is placed as its node and its relationship from the middle. -/
private theorem placeNeighbor?_child {center : StoreId} (child? : Option Neighbor)
    (hcenter : assembly.nodes.resolve center = some id) :
    assembly.placeNeighbor? child? (fun child => (id, child)) =
      assembly.placeAll ((child?.toList.flatMap fun child => [.node child.node, .relationship
        (child.relationship.between center child.node.identity)]).map Occurrence.piece) := by
  cases child? with
  | none => rfl
  | some child =>
    refine placeNeighbor_eq_placeAll fun given after hplaced => ⟨?_, resolve_of_placeNode hplaced⟩
    simpa only [hplaced] using (GrowsTo.placeNode assembly child.node).nodes.resolve hcenter

/-- A row whose middle gets the wanted id is placed as its occurrences are. -/
theorem placeRow_eq_placeAll {wanted : String} {row : NeighborRow} {after : Assembly}
    (hcenter : assembly.placeNode row.center = (.ok wanted, after)) :
    assembly.placeRow wanted row =
      assembly.placeAll (row.occurrences.map Occurrence.piece) := by
  rcases assembly.placeRow_cases wanted row with
    ⟨error, _, hplaced, -⟩ | ⟨center, _, hplaced, hforeign, -⟩ | ⟨_, hplaced, heq⟩
  · cases hcenter.symm.trans hplaced
  · cases hcenter.symm.trans hplaced
    exact absurd rfl hforeign
  · cases hcenter.symm.trans hplaced
    have hbound := resolve_of_placeNode hcenter
    have hplace : assembly.place (Occurrence.piece (.node row.center)) = (.ok (), after) := by
      simp only [Occurrence.piece, place, hcenter, Except.map]
    rw [heq, NeighborRow.occurrences, List.map_cons, placeAll, hplace, NeighborRow.joined,
      List.map_append]
    dsimp only
    rw [placeAll_append, ← placeNeighbor?_parent row.parent? hbound]
    have hkept := (GrowsTo.placeNeighbor? after row.parent?
      fun parent => (parent, wanted)).nodes.resolve hbound
    rcases hjoined : after.placeNeighbor? row.parent? fun parent => (parent, wanted) with
      ⟨error | _, reached⟩
    · rfl
    · rw [hjoined] at hkept
      exact placeNeighbor?_child row.child? hkept

/-- A row is placed only if its middle gets the wanted id. -/
theorem exists_placeNode_of_placeRow_ok {wanted : String} {row : NeighborRow} {after : Assembly}
    (h : assembly.placeRow wanted row = (.ok (), after)) :
    ∃ middle, assembly.placeNode row.center = (.ok wanted, middle) := by
  rcases assembly.placeRow_cases wanted row with
    ⟨error, _, -, heq⟩ | ⟨center, _, -, -, heq⟩ | ⟨middle, hplaced, -⟩
  · cases h.symm.trans heq
  · cases h.symm.trans heq
  · exact ⟨middle, hplaced⟩

/-- Rows are all placed when the first one is and then the others are. -/
theorem placeRows_cons_eq_ok_iff {wanted : String} {row : NeighborRow} {rest : List NeighborRow}
    {after : Assembly} :
    assembly.placeRows wanted (row :: rest) = (.ok (), after) ↔
      ∃ reached, assembly.placeRow wanted row = (.ok (), reached) ∧
        reached.placeRows wanted rest = (.ok (), after) := by
  rw [placeRows]
  rcases assembly.placeRow wanted row with ⟨error | _, reached⟩ <;> simp

/-- Rows that are all placed are placed as their occurrences are. -/
theorem placeAll_of_placeRows_ok {wanted : String} {rows : List NeighborRow} {after : Assembly}
    (h : assembly.placeRows wanted rows = (.ok (), after)) :
    assembly.placeAll ((rows.flatMap NeighborRow.occurrences).map Occurrence.piece) =
      (.ok (), after) := by
  induction rows generalizing assembly with
  | nil => exact h
  | cons row rest ih =>
    obtain ⟨reached, hrow, hrest⟩ := placeRows_cons_eq_ok_iff.mp h
    obtain ⟨middle, hcenter⟩ := exists_placeNode_of_placeRow_ok hrow
    rw [placeRow_eq_placeAll hcenter] at hrow
    rw [List.flatMap_cons, List.map_append, placeAll_append, hrow]
    exact ih hrest

/-- Where rows are all placed, the middle of each is bound to the wanted id. -/
theorem resolve_center_of_placeRows_ok {wanted : String} {rows : List NeighborRow}
    {after : Assembly} (h : assembly.placeRows wanted rows = (.ok (), after)) {row : NeighborRow}
    (hrow : row ∈ rows) : after.nodes.resolve row.center.identity = some wanted := by
  induction rows generalizing assembly with
  | nil => cases hrow
  | cons first rest ih =>
    obtain ⟨reached, hfirst, hrest⟩ := placeRows_cons_eq_ok_iff.mp h
    rcases List.mem_cons.mp hrow with rfl | hlater
    · obtain ⟨middle, hcenter⟩ := exists_placeNode_of_placeRow_ok hfirst
      have hrow := GrowsTo.placeRow_of_center hcenter
      rw [hfirst] at hrow
      have hkept := hrow.trans (GrowsTo.placeRows reached wanted rest)
      rw [hrest] at hkept
      exact hkept.nodes.resolve (resolve_of_placeNode hcenter)
    · exact ih hrest hlater

/-!
## Why a row is refused
-/

/-- A node is refused only for a conflict. -/
theorem conflict_of_placeNode {node : StoreNode} {error : Error} {after : Assembly}
    (h : assembly.placeNode node = (.error error, after)) :
    ∃ identity existing attempted, error = .identityConflict identity existing attempted := by
  rcases assembly.placeNode_cases node with ⟨refused, hassign, heq⟩ | ⟨_, _, _, -, heq⟩
  · cases h.symm.trans heq
    obtain ⟨existing, attempted, -, -, -, rfl⟩ := Identities.assign_eq_error_iff.mp hassign
    exact ⟨_, existing, attempted, rfl⟩
  · cases h.symm.trans heq

/-- A neighbour whose edge goes between bound identities is refused only for a conflict. -/
theorem Sound.conflict_of_placeNeighbor? (hsound : assembly.Sound) {neighbor? : Option Neighbor}
    {ends : String → String × String} {error : Error}
    (hends : ∀ node id after, assembly.placeNode node = (.ok id, after) →
      ∃ start finish, after.nodes.resolve start = some (ends id).1 ∧
        after.nodes.resolve finish = some (ends id).2)
    (h : (assembly.placeNeighbor? neighbor? ends).1 = .error error) :
    ∃ identity existing attempted, error = .identityConflict identity existing attempted := by
  cases neighbor? with
  | none => cases h
  | some neighbor =>
    have hnode := hsound.placeNode neighbor.node
    rw [Assembly.placeNeighbor?] at h
    rcases hplaced : assembly.placeNode neighbor.node with ⟨refused | id, after⟩
    · rw [placeNeighbor_of_error hplaced] at h
      obtain rfl := Except.error.inj h
      exact conflict_of_placeNode hplaced
    · obtain ⟨start, finish, hstart, hfinish⟩ := hends _ _ _ hplaced
      rw [hplaced] at hnode
      have hrelationship :
          after.placeRelationship (neighbor.relationship.between start finish) =
            after.placeBetween neighbor.relationship (ends id).1 (ends id).2 :=
        placeRelationship_of_resolved hstart hfinish
      have hrefused : (after.placeRelationship
          (neighbor.relationship.between start finish)).1 = .error error := by
        rw [placeNeighbor_of_ok hplaced, ← hrelationship] at h
        rcases hgiven : (after.placeRelationship
          (neighbor.relationship.between start finish)).1 with refused | given
        · rw [hgiven] at h
          exact congrArg _ (Except.error.inj h)
        · rw [hgiven] at h
          cases h
      obtain ⟨existing, attempted, hconflict⟩ :=
        hnode.placeRelationship_error hstart hfinish hrefused
      exact ⟨_, existing, attempted, hconflict⟩

/-- A row is refused because its middle gets another id than the wanted one, or for a conflict. -/
theorem Sound.placeRow_error (hsound : assembly.Sound) {wanted : String} {row : NeighborRow}
    {error : Error} (h : (assembly.placeRow wanted row).1 = .error error) :
    (∃ center, (assembly.placeNode row.center).1 = .ok center ∧ center ≠ wanted ∧
        error = .unexpectedShape (.foreignCenter center wanted)) ∨
      ∃ identity existing attempted, error = .identityConflict identity existing attempted := by
  have hcenter := hsound.placeNode row.center
  rcases assembly.placeRow_cases wanted row with
    ⟨refused, after, hplaced, heq⟩ | ⟨center, after, hplaced, hforeign, heq⟩ |
      ⟨after, hplaced, heq⟩
  · rw [heq] at h
    obtain rfl := Except.error.inj h
    exact Or.inr (conflict_of_placeNode hplaced)
  · rw [heq, Except.error.injEq] at h
    exact Or.inl ⟨center, by rw [hplaced], hforeign, h.symm⟩
  · right
    rw [hplaced] at hcenter
    have hbound := resolve_of_placeNode hplaced
    rw [heq] at h
    have hparent := hcenter.placeNeighbor? row.parent? fun parent => (parent, wanted)
    have hkept := (GrowsTo.placeNeighbor? after row.parent?
      fun parent => (parent, wanted)).nodes.resolve hbound
    rcases hjoined : after.placeNeighbor? row.parent? fun parent => (parent, wanted) with
      ⟨refused | _, reached⟩
    · rw [hjoined] at h
      refine hcenter.conflict_of_placeNeighbor? (fun node id last hlast => ?_)
        ((congrArg Prod.fst hjoined).trans h)
      refine ⟨node.identity, row.center.identity, resolve_of_placeNode hlast, ?_⟩
      simpa only [hlast] using (GrowsTo.placeNode after node).nodes.resolve hbound
    · rw [hjoined] at h hparent hkept
      refine hparent.conflict_of_placeNeighbor? (fun node id last hlast => ?_) h
      refine ⟨row.center.identity, node.identity, ?_, resolve_of_placeNode hlast⟩
      simpa only [hlast] using (GrowsTo.placeNode reached node).nodes.resolve hkept

/-- Rows are refused for the middle of one of them or for a conflict. -/
theorem Sound.placeRows_error (hsound : assembly.Sound) {wanted : String}
    {rows : List NeighborRow} {error : Error}
    (h : (assembly.placeRows wanted rows).1 = .error error) :
    (∃ before row after center, rows = before ++ row :: after ∧
        (assembly.placeRows wanted before).1 = .ok () ∧
        ((assembly.placeRows wanted before).2.placeNode row.center).1 = .ok center ∧
        center ≠ wanted ∧ error = .unexpectedShape (.foreignCenter center wanted)) ∨
      ∃ identity existing attempted, error = .identityConflict identity existing attempted := by
  induction rows generalizing assembly with
  | nil => cases h
  | cons row rest ih =>
    have hrow := hsound.placeRow wanted row
    rw [Assembly.placeRows] at h
    rcases hplaced : assembly.placeRow wanted row with ⟨refused | _, reached⟩
    · rw [hplaced] at h
      refine (hsound.placeRow_error ((congrArg Prod.fst hplaced).trans h)).imp_left ?_
      rintro ⟨center, hcenter, hforeign, heq⟩
      exact ⟨[], row, rest, center, rfl, rfl, hcenter, hforeign, heq⟩
    · rw [hplaced] at h hrow
      refine (ih hrow h).imp_left ?_
      rintro ⟨before, other, after, center, rfl, hbefore, hcenter, hforeign, heq⟩
      refine ⟨row :: before, other, after, center, rfl, ?_, ?_, hforeign, heq⟩
      · rw [Assembly.placeRows, hplaced]
        exact hbefore
      · rw [Assembly.placeRows, hplaced]
        exact hcenter

end Assembly

end GraphGateway
