import GraphGateway.Proofs.Pattern.RoundTrip
import GraphGateway.Statement.Edges
import GraphGateway.Statement.Nodes
import GraphGateway.Statement.Search
import GraphGateway.Statement.Whole

/-!
# Statements that change the store

Every statement that a gateway asks is made by one of a few builders, and each of them either
changes the store or only asks. No statement is both, whatever it is built from: a statement that
only asks ends with a digit, with the name of a column or with a bracket, and one that changes the
store ends with a variable or a parameter.
-/

namespace GraphGateway.Statement

/-- The statements that change the store, under the filters that a compiler translates. -/
inductive Changing (filters : FilterCompiler) : Statement → Prop where
  | createNode (labels : List String) (data : Properties) :
      Changing filters (NodeStatement.create labels data)
  | updateNode (id : String) (labels : List String) (data : Properties) :
      Changing filters (NodeStatement.update id labels data)
  | deleteNode (id : String) : Changing filters (NodeStatement.delete id)
  | deleteNodes {filter : Json} {statement : Statement}
      (h : NodeStatement.deleteMatching filters filter = .ok statement) : Changing filters statement
  | createEdge (source target type : String) (data : Properties) :
      Changing filters (EdgeStatement.create source target type data)
  | updateEdge (id : String) (type? : Option String) (data : Properties) :
      Changing filters (EdgeStatement.update id type? data)
  | deleteEdge (id : String) : Changing filters (EdgeStatement.delete id)
  | clear : Changing filters GraphStatement.clear

/-- The statements that only ask, under the filters that a compiler translates. -/
inductive Asking (filters : FilterCompiler) : Statement → Prop where
  | nodePresence (id : String) : Asking filters (NodeStatement.presence id)
  | nodeById (id : String) : Asking filters (NodeStatement.byId id)
  | firstNode {filter : Json} {statement : Statement}
      (h : NodeStatement.firstMatching filters filter = .ok statement) : Asking filters statement
  | nodes {filter : Json} {amount : Int64} {statement : Statement}
      (h : NodeStatement.matching filters filter amount = .ok statement) : Asking filters statement
  | nodesLabeled (label : String) (amount : Int64) :
      Asking filters (NodeStatement.labeled label amount)
  | nodeCount {filter : Json} {statement : Statement}
      (h : NodeStatement.count filters filter = .ok statement) : Asking filters statement
  | nodeSearch (term : String) (fields : List String) (label? : Option String) (amount : Int64) :
      Asking filters (searchNodes term fields label? amount)
  | edgePresence (id : String) : Asking filters (EdgeStatement.presence id)
  | edgeById (id : String) : Asking filters (EdgeStatement.byId id)
  | edgeBetween (source target : String) (type? : Option String) :
      Asking filters (EdgeStatement.between source target type?)
  | edgesLabeled (type : String) (amount : Int64) :
      Asking filters (EdgeStatement.labeled type amount)
  | edges {filter : Json} {amount : Int64} {statement : Statement}
      (h : EdgeStatement.matching filters filter amount = .ok statement) : Asking filters statement
  | edgeCount {filter : Json} {statement : Statement}
      (h : EdgeStatement.count filters filter = .ok statement) : Asking filters statement
  | path {tokens : List String} {limit : Int64} {query : PathQuery}
      (h : PathQuery.ofTokens tokens limit = .ok query) : Asking filters (GraphStatement.path query)
  | neighborhood (id : String) (amount : Int64) :
      Asking filters (GraphStatement.neighborhood id amount)
  | schema : Asking filters GraphStatement.schema
  | nodeLabels : Asking filters GraphStatement.nodeLabels
  | edgeLabels : Asking filters GraphStatement.edgeLabels

/-- The last character of a statement that only asks: a digit, the end of the word `count` or a
bracket. -/
def Asks (c : Char) : Prop := c.isDigit = true ∨ c = 't' ∨ c = ')'

/-- The last character of a statement that changes the store: the end of `$data`, or one of the
variables `n`, `e` and `v`. -/
def Changes (c : Char) : Prop := c = 'a' ∨ c = 'n' ∨ c = 'e' ∨ c = 'v'

instance (c : Char) : Decidable (Asks c) :=
  inferInstanceAs (Decidable (c.isDigit = true ∨ c = 't' ∨ c = ')'))

instance (c : Char) : Decidable (Changes c) :=
  inferInstanceAs (Decidable (c = 'a' ∨ c = 'n' ∨ c = 'e' ∨ c = 'v'))

/-- No character ends statements of both kinds. -/
theorem not_changes_of_asks {c : Char} (h : Asks c) : ¬ Changes c := by
  rintro (rfl | rfl | rfl | rfl) <;> exact absurd h (by decide)

/-- A text whose last character is of a kind. -/
def EndsIn (kind : Char → Prop) (text : String) : Prop := ∃ c ∈ text.toList.getLast?, kind c

instance (kind : Char → Prop) [DecidablePred kind] (text : String) :
    Decidable (EndsIn kind text) :=
  decidable_of_iff ((text.toList.getLast?.any fun c => decide (kind c)) = true)
    (by simp [EndsIn, Option.any_eq_true])

/-- Of a text in two parts, the second is the end. -/
theorem EndsIn.append {kind : Char → Prop} {closing : String} (h : EndsIn kind closing)
    (opening : String) : EndsIn kind (opening ++ closing) := by
  obtain ⟨c, hlast, hkind⟩ := h
  refine ⟨c, ?_, hkind⟩
  rw [Option.mem_def] at hlast ⊢
  rw [String.toList_append, List.getLast?_append, hlast]
  rfl

/-- Values for parameters leave the end of the text alone. -/
theorem EndsIn.given {kind : Char → Prop} {text : String} (h : EndsIn kind text) (name : String)
    (value : Datum) : EndsIn kind ((ofText text).given name value).text :=
  h

/-- A limit ends with a digit. -/
theorem endsIn_limitSuffix (amount : Int64) : EndsIn Asks (limitSuffix amount) := by
  have hlast {digits : List Char} (hsome : digits ≠ [])
      (hdigits : digits.all Char.isDigit = true) : ∃ c ∈ digits.getLast?, Asks c :=
    ⟨digits.getLast hsome, List.getLast?_eq_some_getLast hsome,
      .inl (List.all_eq_true.mp hdigits _ (List.getLast_mem hsome))⟩
  have hspelling := decimalSpelling_toString amount.toInt
  refine EndsIn.append ?_ _
  unfold EndsIn
  generalize amount.toInt = n, (toString amount.toInt).toList = text at hspelling ⊢
  cases hspelling with
  | natural hsome hdigits => exact hlast hsome hdigits
  | negative hsome hdigits =>
    rw [List.getLast?_cons_of_ne_nil hsome]
    exact hlast hsome hdigits

section

variable {filters : FilterCompiler} {statement : Statement}

/-- A statement that changes the store ends like one. -/
theorem Changing.endsIn (h : Changing filters statement) : EndsIn Changes statement.text := by
  cases h with
  | createNode | updateNode | createEdge | updateEdge => exact .append (by decide +kernel) _
  | deleteNode | deleteEdge => exact .given (by decide +kernel) _ _
  | deleteNodes h =>
    obtain ⟨condition, -, hstatement⟩ := bind_eq_ok_iff.mp h
    cases hstatement
    exact .append (by decide +kernel) _
  | clear => decide +kernel

/-- A statement that only asks ends like one. -/
theorem Asking.endsIn (h : Asking filters statement) : EndsIn Asks statement.text := by
  cases h with
  | nodePresence | nodeById | edgePresence | edgeById => exact .given (by decide +kernel) _ _
  | edgeBetween => exact .append (by decide +kernel) _
  | firstNode h | nodeCount h | edgeCount h =>
    obtain ⟨condition, -, hstatement⟩ := bind_eq_ok_iff.mp h
    cases hstatement
    exact .append (by decide +kernel) _
  | nodes h =>
    rw [NodeStatement.matching] at h
    split at h
    next => cases h
    next =>
      obtain ⟨condition, -, hstatement⟩ := bind_eq_ok_iff.mp h
      cases hstatement
      exact .append (endsIn_limitSuffix _) _
  | edges h =>
    rw [EdgeStatement.matching] at h
    split at h
    next => cases h
    next =>
      obtain ⟨condition, -, hstatement⟩ := bind_eq_ok_iff.mp h
      cases hstatement
      exact .append (endsIn_limitSuffix _) _
  | nodesLabeled | nodeSearch | edgesLabeled | neighborhood =>
    exact .append (endsIn_limitSuffix _) _
  | path h =>
    obtain ⟨pattern, -, hcompile⟩ := bind_eq_ok_iff.mp h
    obtain ⟨label, -, rfl⟩ | ⟨-, rfl⟩ := Pattern.compile_eq_ok_iff.mp hcompile
    · exact .append (endsIn_limitSuffix _) _
    · exact .append (endsIn_limitSuffix _) _
  | schema | nodeLabels | edgeLabels => decide +kernel

/-- No statement that only asks changes the store. -/
theorem Asking.not_changing (h : Asking filters statement) : ¬ Changing filters statement := by
  intro hchanging
  obtain ⟨c, hc, hasks⟩ := h.endsIn
  obtain ⟨d, hd, hchanges⟩ := hchanging.endsIn
  cases Option.mem_unique hc hd
  exact not_changes_of_asks hasks hchanges

end

end GraphGateway.Statement
