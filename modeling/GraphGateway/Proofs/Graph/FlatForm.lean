import GraphGateway.Proofs.Datum.RoundTrip
import GraphGateway.Proofs.Graph.Building
import GraphGateway.Proofs.Graph.Flattening
import GraphGateway.Proofs.Json.Members

/-!
# The flat form of a graph

A flat object has the structural members of its element, whatever properties the element has under
their keys, and besides them its properties under all other keys. Where no property stands under a
structural key and all numbers are finite, nothing is lost: the graph can be read back. Main
statement: the flat form of a graph that was built holds just these members for every element, in
the order in which the elements were added, and is read back where nothing is lost.
-/

namespace GraphGateway

/-!
## Properties beside structural members
-/

namespace Properties

/-- No property stands under a structural key, and all numbers are finite. -/
structure Plain (properties : Properties) (structural : List String) : Prop where
  get?_structural : ∀ key ∈ structural, properties.get? key = none
  allFinite : (Datum.ofProperties properties).AllFinite

/-- Every plain property has only finite numbers. -/
theorem Plain.allFinite_of_get? {properties : Properties} {structural : List String}
    (hplain : properties.Plain structural) {key : String} {value : Datum}
    (h : properties.get? key = some value) : value.AllFinite :=
  Datum.allFiniteEntries_iff.mp hplain.allFinite (key, value) (SortedMap.mem_entries_iff.mpr h)

/-- The properties that stand in an object beside structural members. -/
def ofFlatJson (structural : List String) : Json → Properties
  | .object members =>
    ((SortedMap.ofList members).filterKeys fun key => !structural.contains key).mapValues
      Datum.ofJson
  | _ => {}

/-- Plain properties are read back from an object that holds them beside structural members. -/
theorem ofFlatJson_of_holds {json : Json} {told : String → Option Json} {properties : Properties}
    {structural : List String} (hholds : json.Holds told) (hplain : properties.Plain structural)
    (htold : ∀ key, key ∉ structural → told key = (properties.get? key).map Datum.toJson) :
    ofFlatJson structural json = properties := by
  obtain ⟨members, rfl, hnodup, hmembers⟩ := hholds
  apply SortedMap.ext_get?
  intro key
  have hread : (SortedMap.ofList members).get? key = told key := by
    rw [SortedMap.get?_ofList hnodup, Json.lookupEntry_of_told hnodup hmembers]
  rw [ofFlatJson, SortedMap.get?_mapValues, SortedMap.get?_filterKeys, hread]
  -- What stands under a structural key is not read, and no property is missed there.
  by_cases hkey : key ∈ structural
  · rw [if_neg (by simpa using hkey), hplain.get?_structural key hkey]
    rfl
  · rw [if_pos (by simpa using hkey), htold key hkey]
    cases hvalue : properties.get? key with
    | none => rfl
    | some value =>
      rw [Option.map_some, Option.map_some,
        Datum.ofJson_toJson_of_allFinite (hplain.allFinite_of_get? hvalue)]

end Properties

/-!
## Nodes
-/

namespace Node

/-- The keys of a flat node that do not stand for properties. -/
def structuralKeys : List String := ["id", "labels"]

/-- What stands under each key of a flat node. -/
def flatMember? (node : Node) (key : String) : Option Json :=
  if key = "id" then some (.string node.id)
  else if key = "labels" then some (.ofStrings node.labels)
  else (node.properties.get? key).map Datum.toJson

/-- A flat node holds its structural members and, under all other keys, its properties. -/
theorem holds_toFlatJson (node : Node) : node.toFlatJson.Holds node.flatMember? := by
  apply Json.holds_ofMap
  intro key
  rw [SortedMap.get?_insert, SortedMap.get?_insert, Properties.get?_toJson, flatMember?]
  by_cases hid : key = "id" <;> simp [hid]

/-- The node that a flat object stands for. -/
def ofFlatJson? (json : Json) : Option Node := do
  let id ← json.member? "id" >>= Json.text?
  let labels ← json.member? "labels" >>= Json.items? >>= List.mapM Json.text?
  return { id, labels, properties := .ofFlatJson structuralKeys json }

/-- A node with plain properties is read back. -/
theorem ofFlatJson?_toFlatJson {node : Node} (hplain : node.properties.Plain structuralKeys) :
    ofFlatJson? node.toFlatJson = some node := by
  have hholds := node.holds_toFlatJson
  have hlabels := Json.mapM_text?_map_string node.labels
  have hproperties : Properties.ofFlatJson structuralKeys node.toFlatJson = node.properties := by
    apply Properties.ofFlatJson_of_holds hholds hplain
    intro key hkey
    simp_all [structuralKeys, flatMember?]
  simp only [ofFlatJson?, hholds.member?_eq, hproperties]
  simp [flatMember?, Json.text?, Json.items?, Json.ofStrings, hlabels]

end Node

/-!
## Edges
-/

namespace Edge

/-- What stands under each key of a flat edge. -/
def flatMember? (edge : Edge) (key : String) : Option Json :=
  if key = "id" then some (.string edge.id)
  else if key = "labels" then some (.ofStrings edge.labels)
  else if key = "sourceId" then some (.string edge.source)
  else if key = "targetId" then some (.string edge.target)
  else (edge.properties.get? key).map Datum.toJson

/-- A flat edge holds its structural members and, under all other keys, its properties. -/
theorem holds_toFlatJson (edge : Edge) : edge.toFlatJson.Holds edge.flatMember? := by
  apply Json.holds_ofMap
  intro key
  change edge.toFlatJson.member? key = edge.flatMember? key
  rw [member?_toFlatJson, flatMember?]
  split_ifs <;> simp_all

/-- The edge that a flat object stands for. -/
def ofFlatJson? (json : Json) : Option Edge := do
  let id ← json.member? "id" >>= Json.text?
  let labels ← json.member? "labels" >>= Json.items? >>= List.mapM Json.text?
  let source ← json.member? "sourceId" >>= Json.text?
  let target ← json.member? "targetId" >>= Json.text?
  return {
    id
    source
    target
    label? := labels.head?
    properties := .ofFlatJson structuralKeys json }

/-- An edge with plain properties is read back. -/
theorem ofFlatJson?_toFlatJson {edge : Edge} (hplain : edge.properties.Plain structuralKeys) :
    ofFlatJson? edge.toFlatJson = some edge := by
  have hholds := edge.holds_toFlatJson
  have hlabels := Json.mapM_text?_map_string edge.labels
  have hlabel : edge.labels.head? = edge.label? := by
    rw [labels, Option.head?_toList]
  have hproperties : Properties.ofFlatJson structuralKeys edge.toFlatJson = edge.properties := by
    apply Properties.ofFlatJson_of_holds hholds hplain
    intro key hkey
    simp_all [structuralKeys, flatMember?]
  simp only [ofFlatJson?, hholds.member?_eq, hproperties]
  simp [flatMember?, Json.text?, Json.items?, Json.ofStrings, hlabels, hlabel]

end Edge

/-!
## Graphs
-/

namespace Graph

/-- What stands under each key of a flat graph. -/
def flatMember? (graph : Graph) (key : String) : Option Json :=
  if key = "nodes" then some (.array (graph.nodes.map Node.toFlatJson))
  else if key = "edges" then some (.array (graph.edges.map Edge.toFlatJson))
  else none

/-- A flat graph holds its nodes and its edges. -/
theorem holds_toFlatJson (graph : Graph) : graph.toFlatJson.Holds graph.flatMember? := by
  apply Json.holds_ofMap
  intro key
  rw [SortedMap.get?_ofList (by simp)]
  simp only [lookupEntry, flatMember?, eq_comm]

/-- The graph that a flat object stands for. -/
def ofFlatJson? (json : Json) : Option Graph := do
  let nodes ← json.member? "nodes" >>= Json.items? >>= List.mapM Node.ofFlatJson?
  let edges ← json.member? "edges" >>= Json.items? >>= List.mapM Edge.ofFlatJson?
  return { nodes, edges }

/-- All elements have plain properties, so that nothing of the graph is lost in its flat form. -/
structure Plain (graph : Graph) : Prop where
  nodes : ∀ node ∈ graph.nodes, node.properties.Plain Node.structuralKeys
  edges : ∀ edge ∈ graph.edges, edge.properties.Plain Edge.structuralKeys

/-- A graph of elements with plain properties is read back. -/
theorem ofFlatJson?_toFlatJson {graph : Graph} (hplain : graph.Plain) :
    ofFlatJson? graph.toFlatJson = some graph := by
  have hnodes : (graph.nodes.map Node.toFlatJson).mapM Node.ofFlatJson? = some graph.nodes :=
    Json.mapM_map_eq_some fun node hnode => Node.ofFlatJson?_toFlatJson (hplain.nodes node hnode)
  have hedges : (graph.edges.map Edge.toFlatJson).mapM Edge.ofFlatJson? = some graph.edges :=
    Json.mapM_map_eq_some fun edge hedge => Edge.ofFlatJson?_toFlatJson (hplain.edges edge hedge)
  simp only [ofFlatJson?, graph.holds_toFlatJson.member?_eq]
  simp [flatMember?, Json.items?, hnodes, hedges]

/-- The flat form of a graph that was built has two members: the nodes, the first that was added
under each id, and the edges, the first that was accepted under each id, in the order in which they
were added. A flat node and a flat edge hold just their structural members, whatever properties they
have under the same keys, and under all other keys the JSON forms of their properties. Where no
property stands under a structural key and all numbers are finite, the graph is read back from its
flat form, so that no other such graph has the same one. -/
theorem flat_form_of_build (additions : List Addition) :
    let graph := build additions
    (graph.nodes = firstsBy Node.id (addedNodes additions) ∧
      graph.edges = firstsBy Edge.id (acceptedEdges additions)) ∧
    graph.toFlatJson.Holds graph.flatMember? ∧
    (∀ node ∈ graph.nodes, node.toFlatJson.Holds node.flatMember?) ∧
    (∀ edge ∈ graph.edges, edge.toFlatJson.Holds edge.flatMember?) ∧
    (graph.Plain →
      ofFlatJson? graph.toFlatJson = some graph ∧
      ∀ others, (build others).Plain →
        (graph.toFlatJson = (build others).toFlatJson ↔ graph = build others)) := by
  intro graph
  have hholds : graph.HoldsFirsts (addedNodes additions) (acceptedEdges additions) :=
    .build additions
  refine ⟨⟨hholds.nodes_eq, hholds.edges_eq⟩, graph.holds_toFlatJson,
    fun node _ => node.holds_toFlatJson, fun edge _ => edge.holds_toFlatJson, ?_⟩
  intro hplain
  have hread := ofFlatJson?_toFlatJson hplain
  refine ⟨hread, ?_⟩
  intro others hothers
  constructor
  · intro hflat
    rw [hflat, ofFlatJson?_toFlatJson hothers] at hread
    exact (Option.some.inj hread).symm
  · intro hgraph
    rw [hgraph]

/-- A score of 1.0 beside ranks, one of them the integer 1, and a property that only inside a map
has the name of a structural member, are read back as what they are. -/
theorem flat_form_of_build_whole_numbers :
    let ann : Node := ⟨"a", ["Person", "Author"], .ofList
      [("ranks", .list [.integer 1, .null]), ("score", .float ⟨0x3ff0000000000000⟩)]⟩
    let knows : Edge := ⟨"e", "a", "a", some "KNOWS", .ofList
      [("since", .map [("sourceId", .text "register")])]⟩
    let additions := [Addition.node ann, .edge knows]
    (build additions).Plain ∧
      ofFlatJson? (build additions).toFlatJson = some ⟨[ann], [knows]⟩ := by
  intro ann knows additions
  have hgraph : build additions = ⟨[ann], [knows]⟩ := rfl
  have hann : ann.properties.Plain Node.structuralKeys := by
    constructor
    · simp only [Node.structuralKeys, List.forall_mem_cons]
      exact ⟨rfl, rfl, nofun⟩
    · change Datum.AllFiniteEntries
        [("ranks", .list [.integer 1, .null]), ("score", .float ⟨0x3ff0000000000000⟩)]
      simp only [Datum.AllFiniteEntries, Datum.AllFinite, Datum.AllFiniteItems, and_true, true_and]
      decide
  have hknows : knows.properties.Plain Edge.structuralKeys := by
    constructor
    · simp only [Edge.structuralKeys, List.forall_mem_cons]
      exact ⟨rfl, rfl, rfl, rfl, nofun⟩
    · change Datum.AllFiniteEntries [("since", .map [("sourceId", .text "register")])]
      simp only [Datum.AllFiniteEntries, Datum.AllFinite, and_true]
  have hplain : (build additions).Plain := by
    rw [hgraph]
    constructor
    · exact List.forall_mem_singleton.mpr hann
    · exact List.forall_mem_singleton.mpr hknows
  exact ⟨hplain, ((flat_form_of_build additions).2.2.2.2 hplain).1⟩

end Graph

end GraphGateway
