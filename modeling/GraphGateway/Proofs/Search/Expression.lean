import Mathlib.Computability.Language

/-!
# Regular expressions

The regular expressions that a store reads, as far as searches use them. Behind the flag `(?s)` a
dot is any character, line breaks included. A star allows any number of repetitions of what stands
before it. Operators stand for themselves behind a backslash, and all other characters do so without
one. A text in which another operator is at work, or in which a star or a backslash lacks what it
belongs to, is no such expression. An expression matches the texts of its language as a whole.
-/

namespace GraphGateway.Regex

open scoped Computability

/-- The characters that stand for themselves only behind a backslash. -/
def operators : List Char :=
  ['\\', '.', '+', '*', '?', '(', ')', '|', '[', ']', '\x7b', '\x7d', '^', '$']

/-- What one character of a text may be. -/
inductive Atom where
  /-- Any character. -/
  | any
  /-- Just the given character. -/
  | literal (c : Char)
  deriving DecidableEq, Repr

/-- A part of an expression. -/
inductive Factor where
  /-- One character. -/
  | once (atom : Atom)
  /-- Any number of characters, none of them included. -/
  | repeated (atom : Atom)
  deriving DecidableEq, Repr

/-!
## Reading
-/

/-- What is written in an expression: an atom, or the star that belongs to the atom before it. -/
inductive Mark where
  | atom (atom : Atom)
  | star
  deriving DecidableEq, Repr

/-- The mark that a character is without a backslash. -/
def bareMark? (c : Char) : Option Mark :=
  if c = '.' then some (.atom .any)
  else if c = '*' then some .star
  else if c ∈ operators then none
  else some (.atom (.literal c))

/-- The marks that a text is made of. -/
def readMarks : List Char → Option (List Mark)
  | [] => some []
  | '\\' :: c :: rest =>
    if c ∈ operators then (readMarks rest).map (.atom (.literal c) :: ·) else none
  | c :: rest => (bareMark? c).bind fun mark => (readMarks rest).map (mark :: ·)

/-- The factors that marks are made of. -/
def readFactors : List Mark → Option (List Factor)
  | [] => some []
  | .atom atom :: .star :: rest => (readFactors rest).map (.repeated atom :: ·)
  | .atom atom :: rest => (readFactors rest).map (.once atom :: ·)
  | .star :: _ => none

/-- The expression that a text is, as its factors one behind the other. -/
def read : List Char → Option (List Factor)
  | '(' :: '?' :: 's' :: ')' :: rest => (readMarks rest).bind readFactors
  | _ => none

/-- A character that is no operator is its own mark. -/
theorem bareMark?_of_notMem {c : Char} (h : c ∉ operators) :
    bareMark? c = some (.atom (.literal c)) := by
  have hdot : c ≠ '.' := fun heq => h (heq ▸ by decide)
  have hstar : c ≠ '*' := fun heq => h (heq ▸ by decide)
  rw [bareMark?, if_neg hdot, if_neg hstar, if_neg h]

/-- A character that is no operator is read as itself. -/
theorem readMarks_cons_of_notMem {c : Char} (h : c ∉ operators) (rest : List Char) :
    readMarks (c :: rest) = (readMarks rest).map (.atom (.literal c) :: ·) := by
  have hc : c ≠ '\\' := fun heq => h (heq ▸ by decide)
  rw [readMarks.eq_3 c rest fun _ _ heq => absurd heq hc, bareMark?_of_notMem h, Option.bind_some]

/-- An operator behind a backslash is read as itself. -/
theorem readMarks_escaped {c : Char} (h : c ∈ operators) (rest : List Char) :
    readMarks ('\\' :: c :: rest) = (readMarks rest).map (.atom (.literal c) :: ·) := by
  rw [readMarks, if_pos h]

/-- An atom that no star follows stands for one character. -/
theorem readFactors_atom {marks : List Mark} (h : marks.head? ≠ some .star) (atom : Atom) :
    readFactors (.atom atom :: marks) = (readFactors marks).map (.once atom :: ·) := by
  cases marks with
  | nil => rfl
  | cons mark rest =>
    cases mark with
    | atom next => rw [readFactors]; nofun
    | star => exact absurd rfl h

/-- Characters that no star follows are read one by one. -/
theorem readFactors_literals {marks : List Mark} (h : marks.head? ≠ some .star)
    (chars : List Char) :
    readFactors (chars.map (fun c => .atom (.literal c)) ++ marks) =
      (readFactors marks).map (chars.map (fun c => .once (.literal c)) ++ ·) := by
  induction chars with
  | nil => simp
  | cons c chars ih =>
    have hnext : (chars.map (fun c => Mark.atom (.literal c)) ++ marks).head? ≠ some .star := by
      cases chars with
      | nil => exact h
      | cons => simp
    rw [List.map_cons, List.cons_append, readFactors_atom hnext, ih, Option.map_map]
    rfl

/-!
## Matching
-/

/-- The texts of one character that an atom allows. -/
def Atom.language : Atom → Language Char
  | any => (Set.range fun c => [c] : Set (List Char))
  | literal c => {[c]}

/-- The texts that a factor allows. -/
def Factor.language : Factor → Language Char
  | once atom => atom.language
  | repeated atom => atom.language∗

/-- The texts that an expression allows. -/
def language : List Factor → Language Char
  | [] => 1
  | factor :: rest => factor.language * language rest

/-- A text is an expression that matches another text as a whole. -/
def Matches (pattern text : String) : Prop :=
  ∃ expression, read pattern.toList = some expression ∧ text.toList ∈ language expression

/-- Any text is some number of any characters. -/
theorem mem_any_language_kstar (text : List Char) : text ∈ Atom.any.language∗ := by
  refine Language.mem_kstar.mpr ⟨text.map ([·]), ?_, ?_⟩
  · rw [← List.flatMap_def, List.flatMap_singleton']
  · intro part hpart
    obtain ⟨c, -, rfl⟩ := List.mem_map.mp hpart
    exact ⟨c, rfl⟩

/-- Behind any number of any characters stands a text that the rest of an expression allows. -/
theorem mem_language_repeated_any_iff {text : List Char} {rest : List Factor} :
    text ∈ language (.repeated .any :: rest) ↔ ∃ tail ∈ language rest, tail <:+ text := by
  rw [language, Factor.language, Language.mem_mul]
  constructor
  · rintro ⟨before, -, tail, htail, rfl⟩
    exact ⟨tail, htail, List.suffix_append before tail⟩
  · rintro ⟨tail, htail, before, rfl⟩
    exact ⟨before, mem_any_language_kstar before, tail, htail, rfl⟩

/-- Given characters allow just the texts that start with them, if the rest of an expression allows
what follows. -/
theorem mem_language_literals_iff {text chars : List Char} {rest : List Factor} :
    text ∈ language (chars.map (fun c => .once (.literal c)) ++ rest) ↔
      ∃ tail ∈ language rest, chars ++ tail = text := by
  induction chars generalizing text with
  | nil => simp
  | cons c chars ih =>
    rw [List.map_cons, List.cons_append, language, Language.mem_mul]
    constructor
    · rintro ⟨_, rfl, behind, hbehind, rfl⟩
      obtain ⟨tail, htail, rfl⟩ := ih.mp hbehind
      exact ⟨tail, htail, rfl⟩
    · rintro ⟨tail, htail, rfl⟩
      exact ⟨[c], rfl, chars ++ tail, ih.mpr ⟨tail, htail, rfl⟩, rfl⟩

/-- Given characters between any others allow just the texts that hold them side by side. -/
theorem mem_language_literals_anywhere_iff {text chars : List Char} :
    text ∈ language (.repeated .any ::
        (chars.map (fun c => .once (.literal c)) ++ [.repeated .any])) ↔ chars <:+: text := by
  rw [mem_language_repeated_any_iff, List.infix_iff_prefix_suffix]
  simp only [mem_language_literals_iff, language, Factor.language, mul_one]
  constructor
  · rintro ⟨tail, ⟨behind, -, rfl⟩, hsuffix⟩
    exact ⟨chars ++ behind, List.prefix_append chars behind, hsuffix⟩
  · rintro ⟨tail, ⟨behind, rfl⟩, hsuffix⟩
    exact ⟨chars ++ behind, ⟨behind, mem_any_language_kstar behind, rfl⟩, hsuffix⟩

end GraphGateway.Regex
