import GraphGateway.Proofs.Pattern.RoundTrip
import GraphGateway.Proofs.SortedMap
import GraphGateway.Proofs.Statement.Lexer
import GraphGateway.Statement.Edges
import GraphGateway.Statement.Nodes
import GraphGateway.Statement.Search

/-!
# Spliced names stay names

Labels, types and property names cannot be parameters, so they stand in the texts of statements. The
tokens of such a text are a skeleton that none of the names has an influence on, filled with one
word for each name, in order; and the parameters it refers to are those the statement gives values.
-/

namespace GraphGateway

/-- A place among the tokens of a text: a token that always stands there, or a name. -/
inductive Slot where
  | fixed (token : Token)
  | name
  deriving DecidableEq

namespace Slot

instance : Coe String Slot := ⟨fun word => fixed (.word word)⟩

instance : Coe Char Slot := ⟨fun c => fixed (.mark c)⟩

/-- A reference to a parameter. -/
def parameter (name : String) : Slot := fixed (.parameter name)

/-- A number. -/
def number (value : Nat) : Slot := fixed (.number value)

/-- The tokens at slots, with one name for each slot that needs one, in order. -/
def fill : List Slot → List String → Option (List Token)
  | [], [] => some []
  | [], _ :: _ => none
  | fixed token :: slots, names => (fill slots names).map (token :: ·)
  | name :: slots, word :: names => (fill slots names).map (.word word :: ·)
  | name :: _, [] => none

/-- Slots are filled part by part. -/
theorem fill_append {slots slots' : List Slot} {names names' : List String}
    {tokens tokens' : List Token} (h : fill slots names = some tokens)
    (h' : fill slots' names' = some tokens') :
    fill (slots ++ slots') (names ++ names') = some (tokens ++ tokens') := by
  fun_induction fill slots names generalizing tokens with
  | case1 =>
    cases h
    exact h'
  | case2 => cases h
  | case3 token slots names ih =>
    obtain ⟨rest, hrest, rfl⟩ := Option.map_eq_some_iff.mp h
    rw [List.cons_append, fill, ih hrest]
    rfl
  | case4 slots word names ih =>
    obtain ⟨rest, hrest, rfl⟩ := Option.map_eq_some_iff.mp h
    rw [List.cons_append, List.cons_append, fill, ih hrest]
    rfl
  | case5 => cases h

/-- No name is taken for a reference to a parameter. -/
theorem parameter_mem_iff_of_fill {slots : List Slot} {names : List String} {tokens : List Token}
    (h : fill slots names = some tokens) (key : String) :
    .parameter key ∈ tokens ↔ parameter key ∈ slots := by
  fun_induction fill slots names generalizing tokens with
  | case1 =>
    cases h
    simp
  | case2 => cases h
  | case3 token slots names ih =>
    obtain ⟨rest, hrest, rfl⟩ := Option.map_eq_some_iff.mp h
    simp [ih hrest, parameter]
  | case4 slots word names ih =>
    obtain ⟨rest, hrest, rfl⟩ := Option.map_eq_some_iff.mp h
    simp [ih hrest, parameter]
  | case5 => cases h

/-- Labels or types, each behind a colon. -/
def labels : Nat → List Slot
  | 0 => []
  | count + 1 => ':' :: name :: labels count

/-- Labels or types between other tokens. -/
def around (opening : List Slot) (count : Nat) (closing : List Slot) : List Slot :=
  opening ++ labels count ++ closing

/-- A node that is matched by its id, which is a parameter. -/
def matchedNode (column key : String) : List Slot :=
  ["MATCH", '(', column, '\x7b', "id", ':', parameter key, '\x7d', ')']

/-- The condition of a search on the labels of a node. -/
def labelsCondition : List Slot :=
  ["ANY", '(', "l", "IN", "labels", '(', "n", ')', "WHERE", "toLower", '(', "l", ')', '=', '~',
    parameter "pattern", ')']

/-- The condition of a search on a field of a node. -/
def fieldCondition : List Slot :=
  ["toLower", '(', "toString", '(', "n", '.', name, ')', ')', '=', '~', parameter "pattern"]

/-- The condition of a search on several fields, of each of which is known if it stands for the
labels. -/
def conditions (areLabels : List Bool) : List Slot :=
  List.intercalate ["OR"] (areLabels.map fun isLabels =>
    if isLabels then labelsCondition else fieldCondition)

/-- A whole number. -/
def integer (n : Int) : List Slot :=
  if 0 ≤ n then [number n.toNat] else ['-', number (-n).toNat]

/-- The limit at the end of a statement. -/
def limit (amount : Int) : List Slot := "LIMIT" :: integer amount

section Parameters

variable (key : String)

/-- References to parameters differ just as the parameters do. -/
@[simp] theorem parameter_inj {other : String} : parameter key = parameter other ↔ key = other := by
  simp [parameter]

/-- A reference is no name. -/
@[simp] theorem parameter_ne_name : parameter key ≠ name := nofun

/-- A reference is no word. -/
@[simp] theorem parameter_ne_word (word : String) : parameter key ≠ fixed (.word word) := nofun

/-- A reference is no mark. -/
@[simp] theorem parameter_ne_mark (c : Char) : parameter key ≠ fixed (.mark c) := nofun

/-- A reference is no number. -/
@[simp] theorem parameter_ne_number (n : Nat) : parameter key ≠ number n := nofun

/-- Labels refer to no parameters. -/
@[simp] theorem parameter_notMem_labels (count : Nat) : parameter key ∉ labels count := by
  induction count with
  | zero => simp [labels]
  | succ count ih => simp [labels, ih]

/-- What stands around labels refers to parameters, and the labels do not. -/
@[simp] theorem parameter_mem_around (opening closing : List Slot) (count : Nat) :
    parameter key ∈ around opening count closing ↔
      parameter key ∈ opening ∨ parameter key ∈ closing := by
  simp [around]

/-- A node that is matched by its id refers to the parameter of the id. -/
@[simp] theorem parameter_mem_matchedNode (column other : String) :
    parameter key ∈ matchedNode column other ↔ key = other := by
  simp [matchedNode]

/-- A limit refers to no parameters. -/
@[simp] theorem parameter_notMem_limit (amount : Int) : parameter key ∉ limit amount := by
  unfold limit integer
  split <;> simp

/-- The conditions of a search refer to the pattern. -/
theorem parameter_mem_conditions {areLabels : List Bool} (hsome : areLabels ≠ []) :
    parameter key ∈ conditions areLabels ↔ key = "pattern" := by
  induction areLabels with
  | nil => exact absurd rfl hsome
  | cons isLabels rest ih =>
    have hcondition : parameter key ∈ (if isLabels then labelsCondition else fieldCondition) ↔
        key = "pattern" := by
      cases isLabels <;> simp [labelsCondition, fieldCondition]
    cases rest with
    | nil => simpa [conditions] using hcondition
    | cons next rest =>
      have hrest := ih (by simp)
      simp only [conditions, List.map_cons, List.intercalate_cons_cons, List.mem_append,
        List.mem_singleton] at hrest ⊢
      simp [hcondition, hrest]

end Parameters

end Slot

/-- The tokens of a text are slots filled with names. -/
def Lexes (text : String) (slots : List Slot) (names : List String) : Prop :=
  ∃ tokens, Token.ofChars text.toList = some tokens ∧ Slot.fill slots names = some tokens

namespace Lexes

variable {text text' : String} {slots slots' : List Slot} {names names' : List String}

/-- A text without names, whose tokens can be computed. -/
theorem of_fixed
    (h : Token.ofChars text.toList = Slot.fill slots [] ∧ (Slot.fill slots []).isSome = true) :
    Lexes text slots [] := by
  obtain ⟨tokens, htokens⟩ := Option.isSome_iff_exists.mp h.2
  exact ⟨tokens, h.1.trans htokens, htokens⟩

/-- Two parts, the second of which starts apart from the first. -/
theorem append (h : Lexes text slots names) (h' : Lexes text' slots' names')
    (hends : Identifier.EndsName text'.toList) :
    Lexes (text ++ text') (slots ++ slots') (names ++ names') := by
  obtain ⟨tokens, hlex, hfill⟩ := h
  obtain ⟨tokens', hlex', hfill'⟩ := h'
  refine ⟨tokens ++ tokens', ?_, Slot.fill_append hfill hfill'⟩
  rw [String.toList_append, Token.ofChars_append hlex hends, hlex']
  rfl

/-- A part without names behind others, from which it starts apart. -/
theorem append_fixed (h : Lexes text slots names) (h' : Lexes text' slots' [])
    (hends : Identifier.EndsName text'.toList) :
    Lexes (text ++ text') (slots ++ slots') names := by
  simpa using h.append h' hends

/-- A space in front makes no difference. -/
theorem blank (h : Lexes text slots names) : Lexes (" " ++ text) slots names := by
  obtain ⟨tokens, hlex, hfill⟩ := h
  have hblank : Text.isBlank ' ' = true := by decide
  have hnone : Token.read [' '] = none := rfl
  refine ⟨tokens, ?_, hfill⟩
  rw [String.toList_append, ← hlex]
  exact Token.ofChars_of_isBlank hblank (Token.read_cons_eq_none hblank hnone _)

/-- A mark in front is a token of its own. -/
theorem behind_mark {c : Char} (hmark : Token.isMark c = true) (htext : text.toList = [c])
    (h : Lexes text' slots names) : Lexes (text ++ text') (c :: slots) names := by
  obtain ⟨tokens, hlex, hfill⟩ := h
  refine ⟨.mark c :: tokens, ?_, ?_⟩
  · rw [String.toList_append, htext, List.singleton_append,
      Token.ofChars_of_read (Token.read_mark hmark _), hlex]
    rfl
  · rw [Slot.fill, hfill]
    rfl

/-- A quoted name is one word, and the word says the name. -/
theorem quote (name : String) : Lexes (Identifier.quote name) [.name] [name] := by
  have hread := Identifier.read_quoteChars_append name.toList Identifier.endsName_nil
  rw [List.append_nil, ← Identifier.toList_quote] at hread
  refine ⟨[.word name], ?_, rfl⟩
  rw [Token.ofChars_of_read (Token.read_word hread), Token.ofChars, String.ofList_toList]
  rfl

/-- A natural number is one token. -/
theorem natural (n : Nat) : Lexes n.repr [.number n] [] := by
  have hdigits : ∀ c ∈ Nat.toDigits 10 n, c.isDigit = true := fun c hc =>
    Nat.isDigit_of_mem_toDigits (by decide) (by decide) hc
  have hread : Token.read (Nat.toDigits 10 n) = some (.number n, []) := by
    rw [Token.read_number Nat.toDigits_ne_nil hdigits, Nat.ofDigitChars_ten_toDigits]
  refine ⟨[.number n], ?_, rfl⟩
  rw [Nat.toList_repr, Token.ofChars_of_read hread, Token.ofChars]
  rfl

/-- A whole number is one token behind its sign. -/
theorem integer (n : Int) : Lexes (toString n) (Slot.integer n) [] := by
  rw [Int.toString_eq_repr, Int.repr_eq_if, Slot.integer]
  split
  next => exact natural _
  next => exact behind_mark (by decide +kernel) rfl (natural _)

/-- Labels behind colons are one word each. -/
theorem labels (labels : List String) :
    Lexes (Statement.labelSuffixes labels) (Slot.labels labels.length) labels ∧
      Identifier.EndsName (Statement.labelSuffixes labels).toList := by
  induction labels with
  | nil => exact ⟨.of_fixed (by decide +kernel), by decide⟩
  | cons label labels ih =>
    have hjoin : Statement.labelSuffixes (label :: labels) =
        Statement.labelSuffix label ++ Statement.labelSuffixes labels := by
      simp [Statement.labelSuffixes]
    have hlabel : Lexes (Statement.labelSuffix label) [':', .name] [label] :=
      .behind_mark (by decide +kernel) rfl (.quote label)
    rw [hjoin]
    refine ⟨hlabel.append ih.1 ih.2, ?_⟩
    rw [Statement.labelSuffix, String.append_assoc]
    exact Identifier.endsName_append (by decide +kernel) _

/-- Labels between two parts without names. -/
theorem around_labels (h : Lexes text slots []) (h' : Lexes text' slots' [])
    (hends : Identifier.EndsName text'.toList) (names : List String) :
    Lexes (text ++ Statement.labelSuffixes names ++ text')
      (Slot.around slots names.length slots') names := by
  obtain ⟨hlabels, hcolon⟩ := labels names
  exact (h.append hlabels hcolon).append_fixed h' hends

/-- One label between two parts without names. -/
theorem around_label (h : Lexes text slots []) (h' : Lexes text' slots' [])
    (hends : Identifier.EndsName text'.toList) (name : String) :
    Lexes (text ++ Statement.labelSuffix name ++ text') (Slot.around slots 1 slots') [name] := by
  have hlist : Statement.labelSuffix name = Statement.labelSuffixes [name] := by
    simp [Statement.labelSuffixes]
  rw [hlist]
  exact around_labels h h' hends [name]

/-- A label that may be missing between two parts without names. -/
theorem around_label? (h : Lexes text slots []) (h' : Lexes text' slots' [])
    (hends : Identifier.EndsName text'.toList) (name? : Option String) :
    Lexes (text ++ Statement.labelSuffix? name? ++ text')
      (Slot.around slots name?.toList.length slots') name?.toList := by
  cases name? with
  | none => exact around_labels h h' hends []
  | some name => exact around_label h h' hends name

/-- The limit at the end of a statement is a number, perhaps below zero. -/
theorem limit (amount : Int64) :
    Lexes (Statement.limitSuffix amount) (Slot.limit amount.toInt) [] ∧
      Identifier.EndsName (Statement.limitSuffix amount).toList := by
  have hkeyword : Lexes " LIMIT" ["LIMIT"] [] := .of_fixed (by decide +kernel)
  have hsplit : Statement.limitSuffix amount = " LIMIT" ++ (" " ++ toString amount.toInt) := by
    rw [Statement.limitSuffix, ← String.append_assoc]
    rfl
  rw [hsplit]
  exact ⟨hkeyword.append (.blank (.integer _)) (Identifier.endsName_append (by decide +kernel) _),
    Identifier.endsName_append (by decide +kernel) _⟩

/-- The condition of a search on one field has the field as a word, unless it is the one that stands
for the labels. -/
theorem fieldCondition (field : String) :
    Lexes (" " ++ Statement.fieldCondition field)
      (if field = "labels" then Slot.labelsCondition else Slot.fieldCondition)
      ([field].filter (· ≠ "labels")) := by
  rw [Statement.fieldCondition, Statement.labelsField]
  split
  next hfield =>
    rw [List.filter_cons_of_neg (by simp [hfield])]
    exact .of_fixed (by decide +kernel)
  next hfield =>
    have hopen : Lexes " toLower(toString(n" ["toLower", '(', "toString", '(', "n"] [] :=
      .of_fixed (by decide +kernel)
    have hname : Lexes ("." ++ Identifier.quote field) ['.', .name] [field] :=
      .behind_mark (by decide +kernel) rfl (.quote field)
    have hclose : Lexes ")) =~ $pattern" [')', ')', '=', '~', .parameter "pattern"] [] :=
      .of_fixed (by decide +kernel)
    have hsplit : " " ++ ("toLower(toString(n." ++ Identifier.quote field ++ ")) =~ $pattern") =
        " toLower(toString(n" ++ ("." ++ Identifier.quote field) ++ ")) =~ $pattern" := by
      simp only [← String.append_assoc]
      rfl
    rw [hsplit, List.filter_cons_of_pos (by simpa using hfield)]
    exact (hopen.append hname (Identifier.endsName_append (by decide +kernel) _)).append
      hclose (by decide +kernel)

/-- The condition of a search on several fields. -/
theorem conditions {fields : List String} (hfields : fields ≠ []) :
    Lexes (" " ++ " OR ".intercalate (fields.map Statement.fieldCondition))
      (Slot.conditions (fields.map fun field => decide (field = "labels")))
      (fields.filter (· ≠ "labels")) := by
  induction fields with
  | nil => exact absurd rfl hfields
  | cons field fields ih =>
    cases fields with
    | nil => simpa [Slot.conditions] using fieldCondition field
    | cons next rest =>
      -- The blank behind the word is counted to the next condition, which so starts apart from it.
      have hor : Lexes " OR" ["OR"] [] := .of_fixed (by decide +kernel)
      have hwhole := ((fieldCondition field).append hor (by decide +kernel)).append (ih (by simp))
        (Identifier.endsName_append (by decide +kernel) _)
      have hsplit (condition rest : String) : " " ++ (condition ++ " OR " ++ rest) =
          " " ++ condition ++ " OR" ++ (" " ++ rest) := by
        rw [show " OR " = " OR" ++ " " from rfl]
        simp only [String.append_assoc]
      rw [List.map_cons, List.map_cons, String.intercalate_cons_cons, hsplit]
      simpa [Slot.conditions, ← List.filter_append] using hwhole

end Lexes

/-- A statement with names in its text, with everything it is made from. -/
inductive Splicing where
  | nodesLabeled (label : String) (amount : Int64)
  | searchNodes (term : String) (fields : List String) (label? : Option String) (amount : Int64)
  | createNode (labels : List String) (data : Properties)
  | updateNode (id : String) (labels : List String) (data : Properties)
  | edgeBetween (source target : String) (type? : Option String)
  | edgesLabeled (type : String) (amount : Int64)
  | createEdge (source target type : String) (data : Properties)
  | updateEdge (id : String) (type? : Option String) (data : Properties)

/-- What the tokens of such a statement depend on besides its names. -/
inductive Splicing.Shape where
  | nodesLabeled (amount : Int)
  | searchNodes (areLabels : List Bool) (labels : Nat) (amount : Int)
  | createNode (labels : Nat)
  | updateNode (labels : Nat)
  | edgeBetween (types : Nat)
  | edgesLabeled (amount : Int)
  | createEdge
  | updateEdge (types : Nat)
  deriving DecidableEq

namespace Splicing

/-- The fields that a search looks into: the one called `name` if none is given. -/
def searched (fields : List String) : List String := if fields.isEmpty then ["name"] else fields

/-- A search looks into some field. -/
theorem searched_ne_nil (fields : List String) : searched fields ≠ [] := by
  unfold searched
  split
  next => simp
  next hsome => simpa using hsome

/-- The statement. -/
def statement : Splicing → Statement
  | nodesLabeled label amount => NodeStatement.labeled label amount
  | searchNodes term fields label? amount => Statement.searchNodes term fields label? amount
  | createNode labels data => NodeStatement.create labels data
  | updateNode id labels data => NodeStatement.update id labels data
  | edgeBetween source target type? => EdgeStatement.between source target type?
  | edgesLabeled type amount => EdgeStatement.labeled type amount
  | createEdge source target type data => EdgeStatement.create source target type data
  | updateEdge id type? data => EdgeStatement.update id type? data

/-- The names in the text, in order. -/
def names : Splicing → List String
  | nodesLabeled label _ => [label]
  | searchNodes _ fields label? _ => label?.toList ++ (searched fields).filter (· ≠ "labels")
  | createNode labels _ => labels
  | updateNode _ labels _ => labels
  | edgeBetween _ _ type? => type?.toList
  | edgesLabeled type _ => [type]
  | createEdge _ _ type _ => [type]
  | updateEdge _ type? _ => type?.toList

/-- The shape: how many labels or types there are, which fields stand for the labels, and the
limit. -/
def shape : Splicing → Shape
  | nodesLabeled _ amount => .nodesLabeled amount.toInt
  | searchNodes _ fields label? amount =>
    .searchNodes ((searched fields).map fun field => decide (field = "labels"))
      label?.toList.length amount.toInt
  | createNode labels _ => .createNode labels.length
  | updateNode _ labels _ => .updateNode labels.length
  | edgeBetween _ _ type? => .edgeBetween type?.toList.length
  | edgesLabeled _ amount => .edgesLabeled amount.toInt
  | createEdge .. => .createEdge
  | updateEdge _ type? _ => .updateEdge type?.toList.length

open Slot in
/-- The slots of the statements of a shape. -/
def Shape.skeleton : Shape → List Slot
  | nodesLabeled amount => around ["MATCH", '(', "n"] 1 [')', "RETURN", "n"] ++ limit amount
  | searchNodes areLabels count amount =>
    around ["MATCH", '(', "n"] count [')', "WHERE"] ++ conditions areLabels ++
      (["RETURN", "n"] : List Slot) ++ limit amount
  | createNode count => around ["CREATE", '(', "n"] count [')', "SET", "n", '=', parameter "data"]
  | updateNode count =>
    around
      (List.flatten [matchedNode "n" "id", ["SET", "n", '=', parameter "data"],
        if count = 0 then [] else ["SET", "n"]])
      count ["RETURN", "n"]
  | edgeBetween count =>
    around
      (List.flatten [matchedNode "u" "sourceId", matchedNode "v" "targetId",
        ["MATCH", '(', "u", ')', '-', '[', "e"]])
      count
      [']', '-', '>', '(', "v", ')', "RETURN", "u", ',', "e", ',', "v", "LIMIT", number 1]
  | edgesLabeled amount =>
    around ["MATCH", '(', "u", ')', '-', '[', "e"] 1
      [']', '-', '>', '(', "v", ')', "RETURN", "u", ',', "e", ',', "v"] ++ limit amount
  | createEdge =>
    around
      (List.flatten [matchedNode "u" "sourceId", matchedNode "v" "targetId",
        ["CREATE", '(', "u", ')', '-', '[', "e"]])
      1
      [']', '-', '>', '(', "v", ')', "SET", "e", '=', parameter "data", "RETURN", "u", ',', "e",
        ',', "v"]
  | updateEdge count =>
    around ["MATCH", '(', "u", ')', '-', '[', "e"] count
      ['\x7b', "id", ':', parameter "id", '\x7d', ']', '-', '>', '(', "v", ')', "SET", "e", '=',
        parameter "data", "RETURN", "u", ',', "e", ',', "v"]

/-- The tokens of a search for nodes. -/
theorem lexes_searchNodes (term : String) (fields : List String) (label? : Option String)
    (amount : Int64) :
    Lexes (Statement.searchNodes term fields label? amount).text
      (searchNodes term fields label? amount).shape.skeleton
      (searchNodes term fields label? amount).names := by
  have hspace : Identifier.EndsName (" " ++ " OR ".intercalate
      ((searched fields).map Statement.fieldCondition)).toList :=
    Identifier.endsName_append (by decide +kernel) _
  have hmatch : Lexes "MATCH (n" ["MATCH", '(', "n"] [] := .of_fixed (by decide +kernel)
  have hwhere : Lexes ") WHERE" [')', "WHERE"] [] := .of_fixed (by decide +kernel)
  have hreturn : Lexes " RETURN n" ["RETURN", "n"] [] := .of_fixed (by decide +kernel)
  -- As between the conditions, the blank behind the word is counted to what follows.
  have hsplit (opening rest : String) :
      opening ++ ") WHERE " ++ rest = opening ++ ") WHERE" ++ (" " ++ rest) := by
    rw [show ") WHERE " = ") WHERE" ++ " " from rfl]
    simp only [String.append_assoc]
  rw [Statement.searchNodes, Statement.given, Statement.ofText, hsplit]
  exact (((hmatch.around_label? hwhere (by decide +kernel) label?).append
    (.conditions (searched_ne_nil fields)) hspace).append_fixed hreturn
      (by decide +kernel)).append_fixed (Lexes.limit amount).1 (Lexes.limit amount).2

/-- The tokens of a change of a node. -/
theorem lexes_updateNode (id : String) (labels : List String) (data : Properties) :
    Lexes (NodeStatement.update id labels data).text (updateNode id labels data).shape.skeleton
      labels := by
  cases labels with
  | nil =>
    exact (Lexes.of_fixed (by decide +kernel)).around_labels (.of_fixed (by decide +kernel))
      (by decide +kernel) []
  | cons label labels =>
    rw [NodeStatement.update, Statement.given, Statement.given, Statement.ofText, List.isEmpty_cons,
      if_neg Bool.false_ne_true, ← String.append_assoc, shape, Shape.skeleton,
      if_neg (List.length_eq_zero_iff.not.mpr (List.cons_ne_nil label labels))]
    exact .around_labels (.of_fixed (by decide +kernel)) (.of_fixed (by decide +kernel))
      (by decide +kernel) (label :: labels)

/-- The tokens of a statement are the skeleton of its shape, filled with its names. -/
theorem lexes_statement (splicing : Splicing) :
    Lexes splicing.statement.text splicing.shape.skeleton splicing.names := by
  cases splicing with
  | nodesLabeled label amount =>
    exact ((Lexes.of_fixed (by decide +kernel)).around_label (.of_fixed (by decide +kernel))
      (by decide +kernel) label).append_fixed (Lexes.limit amount).1 (Lexes.limit amount).2
  | searchNodes term fields label? amount => exact lexes_searchNodes term fields label? amount
  | createNode labels data =>
    exact (Lexes.of_fixed (by decide +kernel)).around_labels (.of_fixed (by decide +kernel))
      (by decide +kernel) labels
  | updateNode id labels data => exact lexes_updateNode id labels data
  | edgeBetween source target type? =>
    exact (Lexes.of_fixed (by decide +kernel)).around_label? (.of_fixed (by decide +kernel))
      (by decide +kernel) type?
  | edgesLabeled type amount =>
    exact ((Lexes.of_fixed (by decide +kernel)).around_label (.of_fixed (by decide +kernel))
      (by decide +kernel) type).append_fixed (Lexes.limit amount).1 (Lexes.limit amount).2
  | createEdge source target type data =>
    exact (Lexes.of_fixed (by decide +kernel)).around_label (.of_fixed (by decide +kernel))
      (by decide +kernel) type
  | updateEdge id type? data =>
    exact (Lexes.of_fixed (by decide +kernel)).around_label? (.of_fixed (by decide +kernel))
      (by decide +kernel) type?

/-- The statement of a text alone gives no values. -/
@[simp] theorem keys_ofText (text : String) : (Statement.ofText text).params.keys = [] := rfl

/-- A statement gives the values that were added to it. -/
@[simp] theorem mem_keys_given {base : Statement} {name key : String} {value : Datum} :
    key ∈ (base.given name value).params.keys ↔ key = name ∨ key ∈ base.params.keys :=
  SortedMap.mem_keys_insert

/-- The skeleton of a statement refers to the parameters that the statement gives values. -/
theorem parameter_mem_skeleton_iff (splicing : Splicing) (key : String) :
    Slot.parameter key ∈ splicing.shape.skeleton ↔ key ∈ splicing.statement.params.keys := by
  cases splicing with
  | nodesLabeled => simp [shape, Shape.skeleton, statement, NodeStatement.labeled]
  | searchNodes term fields =>
    have hsearched : (searched fields).map (fun field => decide (field = "labels")) ≠ [] := by
      simp [searched_ne_nil fields]
    simp [shape, Shape.skeleton, statement, Statement.searchNodes,
      Slot.parameter_mem_conditions key hsearched]
  | createNode => simp [shape, Shape.skeleton, statement, NodeStatement.create]
  | updateNode id labels =>
    cases labels <;> simp [shape, Shape.skeleton, statement, NodeStatement.update, or_comm]
  | edgeBetween => simp [shape, Shape.skeleton, statement, EdgeStatement.between, or_comm]
  | edgesLabeled => simp [shape, Shape.skeleton, statement, EdgeStatement.labeled]
  | createEdge => simp [shape, Shape.skeleton, statement, EdgeStatement.create, or_comm]
  | updateEdge => simp [shape, Shape.skeleton, statement, EdgeStatement.update, or_comm]

/-- Whatever names, values and amounts a statement is made from, the tokens of its text are a
skeleton that only the shape decides on, in which the names stand in order, each as one word that
says just the name. The references to parameters among the tokens are those that the statement gives
values. -/
theorem tokens_statement (splicing : Splicing) :
    ∃ tokens, Token.ofChars splicing.statement.text.toList = some tokens ∧
      Slot.fill splicing.shape.skeleton splicing.names = some tokens ∧
      ∀ key, .parameter key ∈ tokens ↔ key ∈ splicing.statement.params.keys := by
  obtain ⟨tokens, hlex, hfill⟩ := lexes_statement splicing
  refine ⟨tokens, hlex, hfill, fun key => ?_⟩
  rw [Slot.parameter_mem_iff_of_fill hfill, parameter_mem_skeleton_iff]

/-- A label that looks like the rest of another statement is one word. -/
example :
    Token.ofChars (NodeStatement.labeled "a`) SET n = $id //" (-5)).text.toList =
      some [.word "MATCH", .mark '(', .word "n", .mark ':', .word "a`) SET n = $id //", .mark ')',
        .word "RETURN", .word "n", .word "LIMIT", .mark '-', .number 5] := by
  decide +kernel

end Splicing

end GraphGateway
