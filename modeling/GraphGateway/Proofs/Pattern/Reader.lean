import GraphGateway.Pattern.Query
import GraphGateway.Proofs.Identifier.Reader
import Mathlib.Data.List.Basic

/-!
# Reading path queries

The grammar of the two shapes that a pattern query may have, and a reader of it. A query for nodes
is `MATCH (n:ID) RETURN n LIMIT k`, a query for paths is
`MATCH p=NODE (EDGE NODE)+ RETURN p LIMIT k`, where a node is `()` or `(:ID)`, an edge is `-->` or
`-[:ID]->`, an `ID` is any written name and `k` is a decimal number.

The reader takes the whole text and answers with exactly what the grammar lets the text say, so that
no text says two things.
-/

namespace GraphGateway

namespace StepKind

/-- The text of a step that selects anything. -/
def bare : StepKind → String
  | node => "()"
  | edge => "-->"

/-- What stands before the label of a step. -/
def opening : StepKind → String
  | node => "(:"
  | edge => "-[:"

/-- What stands behind the label of a step. -/
def closing : StepKind → String
  | node => ")"
  | edge => "]->"

/-- How a selector may be written as a step of a kind. -/
inductive Spelling (kind : StepKind) : Selector → List Char → Prop where
  | bare : Spelling kind .any kind.bare.toList
  | labeled {label : String} {name : List Char} (hname : Identifier.Spelling label.toList name) :
      Spelling kind (.labeled label) (kind.opening.toList ++ (name ++ kind.closing.toList))

end StepKind

/-- How steps are written one behind the other, from a kind on and up to a node. -/
inductive Pattern.Spelling : StepKind → List (StepKind × Selector) → List Char → Prop where
  | ended : Spelling .edge [] []
  | step {kind : StepKind} {selector : Selector} {text : List Char}
      {steps : List (StepKind × Selector)} {more : List Char}
      (hstep : kind.Spelling selector text) (hmore : Spelling kind.next steps more) :
      Spelling kind ((kind, selector) :: steps) (text ++ more)

/-- How a whole number is written in decimal digits. -/
inductive DecimalSpelling : Int → List Char → Prop where
  | natural {digits : List Char} (hsome : digits ≠ []) (hdigits : digits.all Char.isDigit = true) :
      DecimalSpelling (Nat.ofDigitChars 10 digits 0) digits
  | negative {digits : List Char} (hsome : digits ≠ []) (hdigits : digits.all Char.isDigit = true) :
      DecimalSpelling (-(Nat.ofDigitChars 10 digits 0 : Int)) ('-' :: digits)

/-- What a path query says: its steps with their kinds and selectors, and its limit. -/
structure PathReading where
  steps : List (StepKind × Selector)
  limit : Int
  deriving DecidableEq

namespace PathReading

/-- How a path query may be written. -/
inductive Spelling : PathReading → List Char → Prop where
  | nodes {label : String} {name : List Char} {limit : Int} {digits : List Char}
      (hname : Identifier.Spelling label.toList name) (hlimit : DecimalSpelling limit digits) :
      Spelling ⟨[(.node, .labeled label)], limit⟩
        ("MATCH (n:".toList ++ (name ++ (") RETURN n LIMIT ".toList ++ digits)))
  | paths {steps : List (StepKind × Selector)} {text : List Char} {limit : Int}
      {digits : List Char} (hsteps : Pattern.Spelling .node steps text)
      (hlength : 3 ≤ steps.length) (hlimit : DecimalSpelling limit digits) :
      Spelling ⟨steps, limit⟩
        ("MATCH p=".toList ++ (text ++ (" RETURN p LIMIT ".toList ++ digits)))

/-- Reads a fixed text and leaves what follows it. -/
def readText (text : String) (input : List Char) : Option (List Char) :=
  input.dropPrefix? text.toList

/-- Reads a decimal number that makes up a whole text. -/
def readNatural (digits : List Char) : Option Nat :=
  if digits ≠ [] ∧ digits.all Char.isDigit then some (Nat.ofDigitChars 10 digits 0) else none

/-- Reads a decimal number, perhaps below zero, that makes up a whole text. -/
def readInteger : List Char → Option Int
  | '-' :: digits => (readNatural digits).map fun (n : Nat) => -(n : Int)
  | digits => (readNatural digits).map fun (n : Nat) => (n : Int)

/-- Reads one step of a kind, bare or with a label, and leaves what follows it. -/
def readStep (kind : StepKind) (input : List Char) : Option (Selector × List Char) :=
  match readText kind.bare input with
  | some rest => some (.any, rest)
  | none => do
    let rest ← readText kind.opening input
    let (label, rest) ← Identifier.read rest
    let rest ← readText kind.closing rest
    return (.labeled (String.ofList label), rest)

/-- A fixed text is read where it stands. -/
theorem readText_append (text : String) (rest : List Char) :
    readText text (text.toList ++ rest) = some rest :=
  List.dropPrefix?_append_of_beq rest (beq_self_eq_true _)

/-- A fixed text that is read stands at the start. -/
theorem eq_append_of_readText {text : String} {input rest : List Char}
    (h : readText text input = some rest) : input = text.toList ++ rest := by
  obtain ⟨before, rfl, hbefore⟩ := List.dropPrefix?_eq_some_iff.mp h
  rw [eq_of_beq hbefore]

/-- Digits alone are read as the number they write. -/
theorem readNatural_eq_some_iff {digits : List Char} {n : Nat} :
    readNatural digits = some n ↔
      digits ≠ [] ∧ digits.all Char.isDigit = true ∧ Nat.ofDigitChars 10 digits 0 = n := by
  unfold readNatural
  split
  next h => simp [h]
  next h =>
    constructor
    · nofun
    · rintro ⟨hsome, hdigits, -⟩
      exact absurd ⟨hsome, hdigits⟩ h

/-- A number is read exactly where it is written. -/
theorem readInteger_eq_some_iff {digits : List Char} {n : Int} :
    readInteger digits = some n ↔ DecimalSpelling n digits := by
  constructor
  · intro h
    unfold readInteger at h
    split at h
    next digits =>
      obtain ⟨m, hm, rfl⟩ := Option.map_eq_some_iff.mp h
      obtain ⟨hsome, hdigits, rfl⟩ := readNatural_eq_some_iff.mp hm
      exact .negative hsome hdigits
    next =>
      obtain ⟨m, hm, rfl⟩ := Option.map_eq_some_iff.mp h
      obtain ⟨hsome, hdigits, rfl⟩ := readNatural_eq_some_iff.mp hm
      exact .natural hsome hdigits
  · intro h
    cases h with
    | natural hsome hdigits =>
      have hread := readNatural_eq_some_iff.mpr ⟨hsome, hdigits, rfl⟩
      unfold readInteger
      split
      next digits =>
        -- The minus sign is no digit.
        simp [show Char.isDigit '-' = false from rfl] at hdigits
      next => rw [hread, Option.map_some]
    | negative hsome hdigits =>
      rw [readInteger, readNatural_eq_some_iff.mpr ⟨hsome, hdigits, rfl⟩, Option.map_some]

/-- Behind the label of a step there is nothing that could belong to the label. -/
theorem endsName_closing (kind : StepKind) (rest : List Char) :
    Identifier.EndsName (kind.closing.toList ++ rest) := by
  intro c hc
  cases kind <;> cases hc <;> decide

/-- The start of a step with a label is not that of a bare one. -/
theorem readText_bare_opening (kind : StepKind) (rest : List Char) :
    readText kind.bare (kind.opening.toList ++ rest) = none := by
  cases kind <;> rfl

/-- A written step is read back and nothing of what follows is consumed. -/
theorem readStep_append_of_spelling {kind : StepKind} {selector : Selector} {text : List Char}
    (h : kind.Spelling selector text) (rest : List Char) :
    readStep kind (text ++ rest) = some (selector, rest) := by
  cases h with
  | bare => rw [readStep, readText_append]
  | labeled hname =>
    have hlabel := Identifier.read_append_of_spelling hname (endsName_closing kind rest)
    simp only [readStep, List.append_assoc, readText_bare_opening, readText_append, hlabel,
      Option.bind_eq_bind, Option.bind_some, String.ofList_toList, Option.pure_def]

/-- Every step that is read is written at the start of the text. -/
theorem exists_spelling_of_readStep {kind : StepKind} {input rest : List Char}
    {selector : Selector} (h : readStep kind input = some (selector, rest)) :
    ∃ text, kind.Spelling selector text ∧ input = text ++ rest := by
  unfold readStep at h
  split at h
  next left hbare =>
    cases h
    exact ⟨_, .bare, eq_append_of_readText hbare⟩
  next =>
    simp only [Option.bind_eq_bind, Option.bind_eq_some_iff] at h
    obtain ⟨inner, hopening, ⟨label, behind⟩, hlabel, left, hclosing, h⟩ := h
    cases h
    obtain ⟨name, hname, rfl⟩ := Identifier.exists_spelling_of_read hlabel
    refine ⟨_, .labeled (by rwa [String.toList_ofList]), ?_⟩
    rw [eq_append_of_readText hopening, show behind = _ from eq_append_of_readText hclosing,
      List.append_assoc, List.append_assoc]

/-- No step is written without a character. -/
theorem length_pos_of_spelling {kind : StepKind} {selector : Selector} {text : List Char}
    (h : kind.Spelling selector text) : 0 < text.length := by
  cases h with
  | bare => cases kind <;> decide
  | labeled =>
    rw [List.length_append]
    exact Nat.lt_of_lt_of_le (by cases kind <;> decide) (Nat.le_add_right _ _)

/-- Every step that is read takes some characters. -/
theorem length_of_readStep {kind : StepKind} {input rest : List Char} {selector : Selector}
    (h : readStep kind input = some (selector, rest)) : rest.length < input.length := by
  obtain ⟨text, htext, rfl⟩ := exists_spelling_of_readStep h
  have hpositive := length_pos_of_spelling htext
  rw [List.length_append]
  omega

/-- Reads steps of alternating kinds as far as they go. A path may end before an edge, not before a
node. -/
def readSteps (kind : StepKind) (input : List Char) :
    Option (List (StepKind × Selector) × List Char) :=
  match _hstep : readStep kind input with
  | none => if kind = .edge then some ([], input) else none
  | some (selector, rest) =>
    (readSteps kind.next rest).map fun (steps, left) => ((kind, selector) :: steps, left)
termination_by input.length
decreasing_by exact length_of_readStep _hstep

/-- Written steps are read back up to a text that does not start with an edge. -/
theorem readSteps_append_of_spelling {kind : StepKind} {steps : List (StepKind × Selector)}
    {text rest : List Char} (h : Pattern.Spelling kind steps text)
    (hrest : readStep .edge rest = none) : readSteps kind (text ++ rest) = some (steps, rest) := by
  induction h with
  | ended =>
    rw [readSteps, List.nil_append]
    split
    next => rw [if_pos rfl]
    next hstep => cases hrest.symm.trans hstep
  | step hstep hmore ih =>
    have hread := readStep_append_of_spelling hstep
    rw [readSteps, List.append_assoc]
    split
    next hnone => cases (hread _).symm.trans hnone
    next hsome =>
      cases (hread _).symm.trans hsome
      rw [ih, Option.map_some]

/-- All steps that are read are written at the start of the text. -/
theorem exists_spelling_of_readSteps {kind : StepKind} {input rest : List Char}
    {steps : List (StepKind × Selector)} (h : readSteps kind input = some (steps, rest)) :
    ∃ text, Pattern.Spelling kind steps text ∧ input = text ++ rest := by
  fun_induction readSteps kind input generalizing steps rest with
  | case1 input hstep =>
    cases h
    exact ⟨[], .ended, rfl⟩
  | case2 => cases h
  | case3 kind input selector left hstep ih =>
    obtain ⟨⟨others, behind⟩, hread, heq⟩ := Option.map_eq_some_iff.mp h
    cases heq
    obtain ⟨first, hfirst, rfl⟩ := exists_spelling_of_readStep hstep
    obtain ⟨more, hmore, rfl⟩ := ih hread
    exact ⟨first ++ more, .step hfirst hmore, (List.append_assoc _ _ _).symm⟩

/-- Reads a query for the nodes with a label. -/
def readNodes (input : List Char) : Option PathReading := do
  let rest ← readText "MATCH (n:" input
  let (label, rest) ← Identifier.read rest
  let rest ← readText ") RETURN n LIMIT " rest
  let limit ← readInteger rest
  return { steps := [(.node, .labeled (String.ofList label))], limit }

/-- Reads a query for paths, of at least one edge. -/
def readPaths (input : List Char) : Option PathReading := do
  let rest ← readText "MATCH p=" input
  let (steps, rest) ← readSteps .node rest
  let rest ← readText " RETURN p LIMIT " rest
  let limit ← readInteger rest
  if 3 ≤ steps.length then return { steps, limit } else none

/-- Reads a path query, which makes up the whole text. -/
def ofText (text : String) : Option PathReading :=
  (readNodes text.toList).or (readPaths text.toList)

/-- A query for nodes is read exactly where one is written. -/
theorem spelling_of_readNodes {input : List Char} {reading : PathReading}
    (h : readNodes input = some reading) : reading.Spelling input := by
  simp only [readNodes, Option.bind_eq_bind, Option.bind_eq_some_iff] at h
  obtain ⟨first, hfirst, ⟨label, second⟩, hlabel, digits, hmiddle, limit, hlimit, h⟩ := h
  cases h
  obtain ⟨name, hname, rfl⟩ := Identifier.exists_spelling_of_read hlabel
  rw [eq_append_of_readText hfirst, show second = _ from eq_append_of_readText hmiddle]
  exact .nodes (by rwa [String.toList_ofList]) (readInteger_eq_some_iff.mp hlimit)

/-- A query for paths is read only where one is written. -/
theorem spelling_of_readPaths {input : List Char} {reading : PathReading}
    (h : readPaths input = some reading) : reading.Spelling input := by
  simp only [readPaths, Option.bind_eq_bind, Option.bind_eq_some_iff] at h
  obtain ⟨first, hfirst, ⟨steps, second⟩, hsteps, digits, hmiddle, limit, hlimit, h⟩ := h
  split at h
  next hlength =>
    cases h
    obtain ⟨text, htext, rfl⟩ := exists_spelling_of_readSteps hsteps
    rw [eq_append_of_readText hfirst, show second = _ from eq_append_of_readText hmiddle]
    exact .paths htext hlength (readInteger_eq_some_iff.mp hlimit)
  next => cases h

/-- A written query for nodes is read back. -/
theorem readNodes_of_spelling {label : String} {name : List Char} {limit : Int}
    {digits : List Char} (hname : Identifier.Spelling label.toList name)
    (hlimit : DecimalSpelling limit digits) :
    readNodes ("MATCH (n:".toList ++ (name ++ (") RETURN n LIMIT ".toList ++ digits))) =
      some ⟨[(.node, .labeled label)], limit⟩ := by
  have hends : Identifier.EndsName (") RETURN n LIMIT ".toList ++ digits) := by
    intro c hc
    cases hc
    decide
  simp only [readNodes, readText_append, Identifier.read_append_of_spelling hname hends,
    readInteger_eq_some_iff.mpr hlimit, Option.bind_eq_bind, Option.bind_some,
    String.ofList_toList, Option.pure_def]

/-- A written query for paths is read back. -/
theorem readPaths_of_spelling {steps : List (StepKind × Selector)} {text : List Char} {limit : Int}
    {digits : List Char} (hsteps : Pattern.Spelling .node steps text) (hlength : 3 ≤ steps.length)
    (hlimit : DecimalSpelling limit digits) :
    readPaths ("MATCH p=".toList ++ (text ++ (" RETURN p LIMIT ".toList ++ digits))) =
      some ⟨steps, limit⟩ := by
  have hend : readStep .edge (" RETURN p LIMIT ".toList ++ digits) = none := rfl
  simp only [readPaths, readText_append, readSteps_append_of_spelling hsteps hend,
    readInteger_eq_some_iff.mpr hlimit, if_pos hlength, Option.bind_eq_bind, Option.bind_some,
    Option.pure_def]

/-- A text is read as a query exactly if it is a way to write that query. -/
theorem ofText_eq_some_iff {text : String} {reading : PathReading} :
    ofText text = some reading ↔ reading.Spelling text.toList := by
  constructor
  · intro h
    rcases Option.or_eq_some_iff.mp h with hnodes | ⟨-, hpaths⟩
    · exact spelling_of_readNodes hnodes
    · exact spelling_of_readPaths hpaths
  · intro h
    unfold ofText
    generalize text.toList = input at h
    cases h with
    | nodes hname hlimit => rw [readNodes_of_spelling hname hlimit, Option.some_or]
    | paths hsteps hlength hlimit =>
      have hother : ∀ rest, readNodes ("MATCH p=".toList ++ rest) = none := fun _ => rfl
      rw [readPaths_of_spelling hsteps hlength hlimit, hother, Option.none_or]

end PathReading

end GraphGateway
