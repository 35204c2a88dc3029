import GraphGateway.Proofs.Assembly.Repetition
import GraphGateway.Proofs.Assembly.Soundness

/-!
# Relationships that come too early

A relationship that is refused since one of its ends is missing is half placed: it has its id and no
edge. The id is bound for good, and it agrees with the one that the relationship carries, so nothing
can come in its way but the ends themselves: once both are there, the relationship is placed.
-/

namespace GraphGateway.Assembly

variable {assembly : Assembly}

/-- A relationship that is refused for a missing end has an id that agrees with the carried one, and
nothing else has changed for the nodes and the graph. -/
theorem Reuses.of_dangling (hreuses : assembly.Reuses) {relationship : StoreRelationship}
    {id endpoint : String}
    (h : (assembly.placeRelationship relationship).1 = .error (.danglingEndpoint id endpoint)) :
    let refused := (assembly.placeRelationship relationship).2
    refused.graph = assembly.graph ∧ refused.nodes = assembly.nodes ∧
      refused.relationships.resolve relationship.identity = some id ∧
      Agrees (some id) relationship.carriedId? := by
  rcases assembly.placeRelationship_cases relationship with ⟨existing, attempted, heq⟩ |
    ⟨taken, relationships, supply, hassign,
      ⟨missing, heq⟩ | ⟨source, target, graph, added, -, -, -, heq⟩⟩
  · rw [heq] at h
    cases h
  · rw [heq] at h ⊢
    cases h
    exact ⟨rfl, rfl, Identities.resolve_of_assign hassign,
      Identities.agrees_of_assign hreuses.relationships hassign⟩
  · rw [heq] at h
    cases h

/-- In a sound assembly, a relationship that has its id is placed under it between bound ends, and
nothing but the graph changes. -/
theorem Sound.placeRelationship_of_bound (hsound : assembly.Sound)
    {relationship : StoreRelationship} {id source target : String}
    (hbound : assembly.relationships.resolve relationship.identity = some id)
    (hagrees : Agrees (some id) relationship.carriedId?)
    (hsource : assembly.nodes.resolve relationship.start = some source)
    (htarget : assembly.nodes.resolve relationship.finish = some target) :
    ∃ graph, assembly.placeRelationship relationship = (.ok id, { assembly with graph }) ∧
      id ∈ graph.edgeIds := by
  have hid : assembly.edgeId relationship = .ok (id, assembly) :=
    edgeId_eq_ok_iff.mpr ⟨_, _, Identities.assign_again hbound hagrees _, rfl⟩
  obtain ⟨graph, added, hadd⟩ : ∃ graph added,
      assembly.graph.addEdge (relationship.toEdge id source target) = .ok (graph, added) :=
    hsound.addEdge_ok hsource htarget
  refine ⟨graph, ?_, (Graph.mem_edgeIds_of_addEdge hadd).mpr (.inl rfl)⟩
  rw [placeRelationship_of_resolved hsource htarget]
  simp only [Assembly.placeBetween, hid, Assembly.addEdge, hadd]
  rfl

/-- A relationship that is refused for a missing end can be placed later. Until then the graph and
the ids of the nodes are as before, and whatever is done, as soon as both its ends are there it is
placed under the very id that the refusal names, and no further id is used. More generally, a piece
that is refused adds, changes and takes away no edge, and changes and takes away no node. -/
theorem placeRelationship_later (supply : IdSupply) (steps : List Step) :
    let assembly := ({ supply } : Assembly).run steps
    (∀ (relationship : StoreRelationship) (id endpoint : String),
      (assembly.placeRelationship relationship).1 = .error (.danglingEndpoint id endpoint) →
      let refused := (assembly.placeRelationship relationship).2
      refused.graph = assembly.graph ∧ refused.nodes = assembly.nodes ∧
        ∀ more : List Step,
          let later := refused.run more
          (later.nodes.resolve relationship.start).isSome = true →
          (later.nodes.resolve relationship.finish).isSome = true →
          ∃ graph, later.placeRelationship relationship = (.ok id, { later with graph }) ∧
            id ∈ graph.edgeIds) ∧
    ∀ piece error, (assembly.place piece).1 = .error error →
      (assembly.place piece).2.graph.edges = assembly.graph.edges ∧
        assembly.graph.nodes <+: (assembly.place piece).2.graph.nodes := by
  intro assembly
  have hsound : assembly.Sound := (Sound.start supply).run steps
  have hreuses : assembly.Reuses := (Reuses.start supply).of_growsTo (.run _ steps)
  refine ⟨fun relationship id endpoint hdangling => ?_, fun piece error herror =>
    ⟨edges_of_place_error herror, (GrowsTo.place assembly piece).graph.nodes⟩⟩
  obtain ⟨hgraph, hnodes, hbound, hagrees⟩ := hreuses.of_dangling hdangling
  refine ⟨hgraph, hnodes, fun more hstart hfinish => ?_⟩
  obtain ⟨source, hsource⟩ := Option.isSome_iff_exists.mp hstart
  obtain ⟨target, htarget⟩ := Option.isSome_iff_exists.mp hfinish
  -- Growth carries the binding of the id through all further steps; that bound ends are nodes of
  -- the graph by then is due to soundness, not to growth.
  exact ((hsound.placeRelationship relationship).run more).placeRelationship_of_bound
    ((GrowsTo.run _ more).relationships.resolve hbound) hagrees hsource htarget

/-- A relationship without an id that comes before both its ends, and again before the second one:
when that is there too, it is placed under the id that was minted at first. -/
theorem placeRelationship_later_both_ends_missing :
    let supply : IdSupply := { id := fun n => if n = 0 then "x" else "y" }
    let ann : StoreNode := ⟨⟨"1"⟩, ["Person"], .ofList [("id", .text "a")]⟩
    let bob : StoreNode := ⟨⟨"2"⟩, [], {}⟩
    let knows : StoreRelationship := ⟨⟨"10"⟩, ⟨"1"⟩, ⟨"2"⟩, some "KNOWS", {}⟩
    let assembly : Assembly := { supply }
    let refused := (assembly.placeRelationship knows).2
    let more : List Step := [.node ann, .relationship knows, .push (.node bob)]
    let later := refused.run more
    (assembly.placeRelationship knows).1 = .error (.danglingEndpoint "x" "1") ∧
      later.graph.nodeIds = ["a", "y"] ∧
      ∃ graph, later.placeRelationship knows = (.ok "x", { later with graph }) ∧
        "x" ∈ graph.edgeIds := by
  intro supply ann bob knows assembly refused more later
  have h : (assembly.placeRelationship knows).1 = .error (.danglingEndpoint "x" "1") := by rfl
  obtain ⟨-, -, hlater⟩ := (placeRelationship_later supply []).1 knows "x" "1" h
  have hstart : (later.nodes.resolve knows.start).isSome = true := by rfl
  have hfinish : (later.nodes.resolve knows.finish).isSome = true := by rfl
  exact ⟨h, by rfl, hlater more hstart hfinish⟩

end GraphGateway.Assembly
