import GraphGateway.Graph.Json
import GraphGateway.Proofs.Assembly.Outcome
import GraphGateway.Proofs.Datum.Finite
import GraphGateway.Proofs.SortedMap

/-!
# Flat edges

The flat form of an edge has one place for each key, and the four structural members stand in theirs
whatever the properties are. Every other property is kept as its JSON form. Main statement: of an
assembled edge, the flat form keeps all properties of the relationship that it was taken from but
those under the structural keys.
-/

namespace GraphGateway

/-- Properties in JSON have the JSON forms of their values. -/
theorem Properties.get?_toJson (properties : Properties) (key : String) :
    (Properties.toJson properties).get? key = (properties.get? key).map Datum.toJson :=
  SortedMap.get?_mapValues _ _ _

namespace Edge

/-- The keys of a flat edge that do not stand for properties. -/
def structuralKeys : List String := ["id", "labels", "sourceId", "targetId"]

/-- The edge was taken from a relationship: its label and its properties are those of the
relationship. -/
def TakenFrom (edge : Edge) (relationship : StoreRelationship) : Prop :=
  edge = relationship.toEdge edge.id edge.source edge.target

/-- What stands under each key of a flat edge. -/
theorem member?_toFlatJson (edge : Edge) (key : String) :
    edge.toFlatJson.member? key =
      if key = "targetId" then some (.string edge.target)
      else if key = "sourceId" then some (.string edge.source)
      else if key = "labels" then some (.ofStrings edge.labels)
      else if key = "id" then some (.string edge.id)
      else (edge.properties.get? key).map Datum.toJson := by
  change SortedMap.get? _ key = _
  simp only [SortedMap.get?_insert, Properties.get?_toJson]

/-- Beside the structural members, a flat edge has the properties of its relationship. -/
theorem TakenFrom.member?_toFlatJson {edge : Edge} {relationship : StoreRelationship}
    (htaken : edge.TakenFrom relationship) {key : String} (hkey : key ∉ structuralKeys) :
    edge.toFlatJson.member? key = (relationship.properties.get? key).map Datum.toJson := by
  have hproperties : edge.properties = relationship.properties.withoutReserved :=
    congrArg Edge.properties htaken
  obtain ⟨hid, hlabels, hsource, htarget⟩ :
      key ≠ "id" ∧ key ≠ "labels" ∧ key ≠ "sourceId" ∧ key ≠ "targetId" := by
    simpa [structuralKeys] using hkey
  rw [Edge.member?_toFlatJson, if_neg htarget, if_neg hsource, if_neg hlabels, if_neg hid,
    hproperties, Properties.get?_withoutReserved, if_neg (not_or.mpr ⟨hid, hlabels⟩)]

/-- Edges taken from relationships that differ in a property, and not only by numbers that are not
finite, have different flat forms. -/
theorem TakenFrom.toFlatJson_ne {edge other : Edge} {relationship twin : StoreRelationship}
    (htaken : edge.TakenFrom relationship) (hother : other.TakenFrom twin) {key : String}
    (hkey : key ∉ structuralKeys)
    (hdiffer : (relationship.properties.get? key).map Datum.finite ≠
      (twin.properties.get? key).map Datum.finite) :
    edge.toFlatJson ≠ other.toFlatJson := by
  intro hflat
  have hmember := congrArg (Json.member? key) hflat
  rw [htaken.member?_toFlatJson hkey, hother.member?_toFlatJson hkey] at hmember
  exact hdiffer (Datum.map_toJson_eq_map_toJson_iff.mp hmember)

end Edge

/-- Every edge of an assembled graph was taken from a relationship that occurs. -/
theorem exists_takenFrom_of_ofPieces {supply : IdSupply} {pieces : List Piece} {graph : Graph}
    (h : (Graph.ofPieces supply pieces).1 = .ok graph) {edge : Edge} (hedge : edge ∈ graph.edges) :
    ∃ relationship, .relationship relationship ∈ pieces.flatMap Piece.occurrences ∧
      edge.TakenFrom relationship := by
  obtain ⟨placed, hgraph, hplaced⟩ := Graph.ofPieces_of_allGood (allGood_of_ofPieces h)
  rw [hplaced] at h
  cases h
  rw [(Naming.eq_firstsBy_of_graph? hgraph).2] at hedge
  obtain ⟨relationship, hrelationship, rfl⟩ := List.mem_map.mp (mem_of_mem_firstsBy hedge)
  exact ⟨relationship, Occurrence.mem_filterMap_relationship?.mp hrelationship, rfl⟩

/-- Of every edge of an assembled graph, the flat form keeps what the relationship that it was taken
from has under every key but the four structural ones, which hold what the edge itself has. So edges
whose relationships differ under another key, and not only by numbers that are not finite, have
different flat forms. -/
theorem flat_edges_keep_properties {supply : IdSupply} {pieces : List Piece} {graph : Graph}
    (h : (Graph.ofPieces supply pieces).1 = .ok graph) :
    ∀ edge ∈ graph.edges,
      (∃ relationship, .relationship relationship ∈ pieces.flatMap Piece.occurrences ∧
        edge.TakenFrom relationship) ∧
      (edge.toFlatJson.member? "id" = some (.string edge.id) ∧
        edge.toFlatJson.member? "labels" = some (.ofStrings edge.labels) ∧
        edge.toFlatJson.member? "sourceId" = some (.string edge.source) ∧
        edge.toFlatJson.member? "targetId" = some (.string edge.target)) ∧
      ∀ relationship, edge.TakenFrom relationship → ∀ key, key ∉ Edge.structuralKeys →
        edge.toFlatJson.member? key = (relationship.properties.get? key).map Datum.toJson ∧
        ∀ (other : Edge) twin, other.TakenFrom twin →
          (relationship.properties.get? key).map Datum.finite ≠
            (twin.properties.get? key).map Datum.finite →
          edge.toFlatJson ≠ other.toFlatJson := by
  intro edge hedge
  refine ⟨exists_takenFrom_of_ofPieces h hedge, ⟨?_, ?_, ?_, ?_⟩, ?_⟩
  · rw [Edge.member?_toFlatJson]
    rfl
  · rw [Edge.member?_toFlatJson]
    rfl
  · rw [Edge.member?_toFlatJson]
    rfl
  · rw [Edge.member?_toFlatJson]
    rfl
  · intro relationship htaken key hkey
    exact ⟨htaken.member?_toFlatJson hkey, fun other twin hother =>
      htaken.toFlatJson_ne hother hkey⟩

/-- A relationship with a property under a structural key and another one that says since when: the
flat form shows the source in place of the former and keeps the latter. -/
theorem flat_edges_keep_properties_beside_a_source :
    let ann : StoreNode := ⟨⟨"1"⟩, ["Person"], .ofList [("id", .text "a")]⟩
    let bob : StoreNode := ⟨⟨"2"⟩, ["Person"], .ofList [("id", .text "b")]⟩
    let knows : StoreRelationship := ⟨⟨"10"⟩, ⟨"1"⟩, ⟨"2"⟩, some "KNOWS",
      .ofList [("id", .text "e"), ("since", .integer 2020), ("sourceId", .text "register")]⟩
    let supply : IdSupply := { id := fun _ => "x" }
    let edge := knows.toEdge "e" "a" "b"
    (Graph.ofPieces supply [.hop ⟨ann, knows, bob⟩]).1 =
        .ok ⟨[ann.toNode "a", bob.toNode "b"], [edge]⟩ ∧
      edge.toFlatJson.member? "sourceId" = some (.string "a") ∧
      edge.toFlatJson.member? "since" = some (.integer 2020) := by
  intro ann bob knows supply edge
  have h : (Graph.ofPieces supply [.hop ⟨ann, knows, bob⟩]).1 =
      .ok ⟨[ann.toNode "a", bob.toNode "b"], [edge]⟩ := by rfl
  obtain ⟨-, ⟨-, -, hsource, -⟩, hkept⟩ :=
    flat_edges_keep_properties h edge List.mem_cons_self
  exact ⟨h, hsource, (hkept knows rfl "since" (by decide)).1⟩

/-- A property under a structural key is not kept: the flat form shows the source of the edge in its
place, so two relationships that differ in that property alone are shown alike. -/
theorem flat_edge_hides_property :
    let ann : StoreNode := ⟨⟨"1"⟩, ["Person"], .ofList [("id", .text "a")]⟩
    let bob : StoreNode := ⟨⟨"2"⟩, ["Person"], .ofList [("id", .text "b")]⟩
    let knows (source : String) : StoreRelationship := ⟨⟨"10"⟩, ⟨"1"⟩, ⟨"2"⟩, some "KNOWS",
      .ofList [("id", .text "e"), ("sourceId", .text source)]⟩
    let supply : IdSupply := { id := fun _ => "x" }
    let edge (source : String) := (knows source).toEdge "e" "a" "b"
    (∀ source ∈ ["register", "hearsay"],
      (Graph.ofPieces supply [.hop ⟨ann, knows source, bob⟩]).1 =
        .ok ⟨[ann.toNode "a", bob.toNode "b"], [edge source]⟩ ∧
      (knows source).properties.get? "sourceId" = some (.text source) ∧
      (edge source).toFlatJson.member? "sourceId" = some (.string "a") ∧
      (edge source).toFlatJson.member? "sourceId" ≠ some (Datum.text source).toJson) ∧
    (edge "register").toFlatJson = (edge "hearsay").toFlatJson := by
  intro ann bob knows supply edge
  have hshown (source : String) :
      (edge source).toFlatJson.member? "sourceId" = some (.string "a") := by
    rw [Edge.member?_toFlatJson]
    rfl
  have hhidden (source : String) (hne : "a" ≠ source) :
      (edge source).toFlatJson.member? "sourceId" ≠ some (Datum.text source).toJson := by
    rw [hshown, Datum.toJson]
    simpa using hne
  refine ⟨?_, rfl⟩
  simp only [List.forall_mem_cons]
  exact ⟨⟨rfl, rfl, hshown _, hhidden _ (by decide)⟩, ⟨rfl, rfl, hshown _, hhidden _ (by decide)⟩,
    by simp⟩

end GraphGateway
