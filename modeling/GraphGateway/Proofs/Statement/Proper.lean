import GraphGateway.Proofs.Pattern.Compile
import GraphGateway.Statement.Edges
import GraphGateway.Statement.Nodes
import GraphGateway.Statement.Search
import GraphGateway.Statement.Whole
import Mathlib.Data.List.DropRight

/-!
# Proper statements

A statement is proper if one of the builders makes it from proper arguments: labels and types that
are neither empty nor padded with white space, and limits that let something through. The queries of
path patterns count by the labels of their selectors. What is left of trimming is a proper label, or
nothing.
-/

namespace GraphGateway

namespace Text

/-- Trimmed characters do not start with white space. -/
theorem isBlank_head?_trimChars {text : List Char} {c : Char} (h : c ∈ (trimChars text).head?) :
    isBlank c = false := by
  obtain ⟨rest, hrest⟩ := List.rdropWhile_prefix isBlank (text.dropWhile isBlank)
  have hfirst : (text.dropWhile isBlank).head? = some c := by
    rw [← hrest]
    exact List.mem_head?_append_of_mem_head? h
  have hvisible := List.head?_dropWhile_not isBlank text
  rw [hfirst] at hvisible
  simpa using hvisible

/-- Trimmed characters do not end with white space. -/
theorem isBlank_getLast?_trimChars {text : List Char} {c : Char}
    (h : c ∈ (trimChars text).getLast?) : isBlank c = false := by
  obtain ⟨hsome, rfl⟩ := List.mem_getLast?_eq_getLast h
  exact Bool.eq_false_iff.mpr (List.rdropWhile_last_not isBlank (text.dropWhile isBlank) hsome)

end Text

/-- A label or type as a statement should have it: neither empty nor with white space at its
ends. -/
structure ProperLabel (label : String) : Prop where
  nonempty : label ≠ ""
  start : ∀ c ∈ label.toList.head?, Text.isBlank c = false
  finish : ∀ c ∈ label.toList.getLast?, Text.isBlank c = false

/-- What is left of a text by trimming is a proper label, unless there is nothing left. -/
theorem ProperLabel.of_trim {text : String} (h : Text.trim text ≠ "") :
    ProperLabel (Text.trim text) where
  nonempty := h
  start := by
    intro c hc
    rw [Text.trim, String.toList_ofList] at hc
    exact Text.isBlank_head?_trimChars hc
  finish := by
    intro c hc
    rw [Text.trim, String.toList_ofList] at hc
    exact Text.isBlank_getLast?_trimChars hc

namespace Pattern

/-- The labels of a pattern that is read from tokens are proper. -/
theorem properLabel_of_parse {tokens : List String} {pattern : Pattern}
    (h : parse tokens = .ok pattern) {label : String}
    (hlabel : .labeled label ∈ pattern.selectors) : ProperLabel label := by
  obtain ⟨htokens, hselectors⟩ := parse_eq_ok_iff.mp h
  rw [← hselectors] at hlabel
  obtain ⟨token, htoken, hselector⟩ := List.mem_map.mp hlabel
  have htrimmed : Text.trim token = label := by
    rw [← Selector.token_ofTrimmed (Text.trim token), hselector]
    rfl
  rw [← htrimmed]
  exact .of_trim (htokens token htoken)

/-- A query has the limit that its pattern is compiled with. -/
theorem limit_of_compile {pattern : Pattern} {limit : Int64} {query : PathQuery}
    (h : pattern.compile limit = .ok query) : query.limit = limit := by
  obtain ⟨label, -, rfl⟩ | ⟨-, rfl⟩ := compile_eq_ok_iff.mp h
  · rfl
  · rfl

end Pattern

/-- Nodes are asked for by a filter only with an amount that lets something through. -/
theorem NodeStatement.amount_pos_of_matching {filters : FilterCompiler} {filter : Json}
    {amount : Int64} {statement : Statement} (h : matching filters filter amount = .ok statement) :
    0 < amount := by
  refine Int64.not_le.mp fun hamount => ?_
  rw [matching, if_pos hamount] at h
  cases h

/-- Edges are asked for by a filter only with an amount that lets something through. -/
theorem EdgeStatement.amount_pos_of_matching {filters : FilterCompiler} {filter : Json}
    {amount : Int64} {statement : Statement} (h : matching filters filter amount = .ok statement) :
    0 < amount := by
  refine Int64.not_le.mp fun hamount => ?_
  rw [matching, if_pos hamount] at h
  cases h

/-- The statements that builders make from proper arguments, under the filters that a compiler
translates. -/
inductive Statement.Proper (filters : FilterCompiler) : Statement → Prop where
  | path {pattern : Pattern} {limit : Int64} {query : PathQuery}
      (hlabels : ∀ label, .labeled label ∈ pattern.selectors → ProperLabel label)
      (hlimit : 0 < limit) (hquery : pattern.compile limit = .ok query) :
      Proper filters (GraphStatement.path query)
  | neighborhood (id : String) {amount : Int64} (hamount : 0 < amount) :
      Proper filters (GraphStatement.neighborhood id amount)
  | schema : Proper filters GraphStatement.schema
  | nodeLabels : Proper filters GraphStatement.nodeLabels
  | edgeLabels : Proper filters GraphStatement.edgeLabels
  | clear : Proper filters GraphStatement.clear
  | nodePresence (id : String) : Proper filters (NodeStatement.presence id)
  | nodeById (id : String) : Proper filters (NodeStatement.byId id)
  | firstNode {filter : Json} {statement : Statement}
      (h : NodeStatement.firstMatching filters filter = .ok statement) : Proper filters statement
  | nodes {filter : Json} {amount : Int64} {statement : Statement} (hamount : 0 < amount)
      (h : NodeStatement.matching filters filter amount = .ok statement) : Proper filters statement
  | nodesLabeled {label : String} {amount : Int64} (hlabel : ProperLabel label)
      (hamount : 0 < amount) : Proper filters (NodeStatement.labeled label amount)
  | nodeSearch (term : String) (fields : List String) {label? : Option String} {amount : Int64}
      (hlabel : ∀ label ∈ label?, ProperLabel label) (hamount : 0 < amount) :
      Proper filters (searchNodes term fields label? amount)
  | nodeCount {filter : Json} {statement : Statement}
      (h : NodeStatement.count filters filter = .ok statement) : Proper filters statement
  | createNode {labels : List String} (hlabels : ∀ label ∈ labels, ProperLabel label)
      (data : Properties) : Proper filters (NodeStatement.create labels data)
  | updateNode (id : String) {labels : List String} (hlabels : ∀ label ∈ labels, ProperLabel label)
      (data : Properties) : Proper filters (NodeStatement.update id labels data)
  | deleteNode (id : String) : Proper filters (NodeStatement.delete id)
  | deleteNodes {filter : Json} {statement : Statement}
      (h : NodeStatement.deleteMatching filters filter = .ok statement) : Proper filters statement
  | edgePresence (id : String) : Proper filters (EdgeStatement.presence id)
  | edgeById (id : String) : Proper filters (EdgeStatement.byId id)
  | edgeBetween (source target : String) {type? : Option String}
      (htype : ∀ type ∈ type?, ProperLabel type) :
      Proper filters (EdgeStatement.between source target type?)
  | edgesLabeled {type : String} {amount : Int64} (htype : ProperLabel type)
      (hamount : 0 < amount) : Proper filters (EdgeStatement.labeled type amount)
  | edges {filter : Json} {amount : Int64} {statement : Statement} (hamount : 0 < amount)
      (h : EdgeStatement.matching filters filter amount = .ok statement) : Proper filters statement
  | edgeCount {filter : Json} {statement : Statement}
      (h : EdgeStatement.count filters filter = .ok statement) : Proper filters statement
  | createEdge (source target : String) {type : String} (htype : ProperLabel type)
      (data : Properties) : Proper filters (EdgeStatement.create source target type data)
  | updateEdge (id : String) {type? : Option String} (htype : ∀ type ∈ type?, ProperLabel type)
      (data : Properties) : Proper filters (EdgeStatement.update id type? data)
  | deleteEdge (id : String) : Proper filters (EdgeStatement.delete id)

/-- A path query of tokens makes a proper statement where its limit lets something through. -/
theorem Statement.Proper.of_ofTokens {filters : FilterCompiler} {tokens : List String}
    {limit : Int64} {query : PathQuery} (h : PathQuery.ofTokens tokens limit = .ok query)
    (hlimit : 0 < limit) : Proper filters (GraphStatement.path query) := by
  obtain ⟨pattern, hpattern, hquery⟩ := bind_eq_ok_iff.mp h
  exact .path (fun label => Pattern.properLabel_of_parse hpattern) hlimit hquery

end GraphGateway
