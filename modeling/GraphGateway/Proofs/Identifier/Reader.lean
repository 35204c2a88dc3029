import GraphGateway.Identifier
import Mathlib.Data.List.Basic

/-!
# Reading identifiers

How a query language writes names, and a reader of it: a plain name as far as it goes, or a name
between backticks in which two backticks stand for one. What the reader answers is told by how the
text is written. It takes exactly the identifier wherever the text that follows neither starts with
a backtick nor could continue a plain name.
-/

namespace GraphGateway

/-- A text is cut where its first run of characters of one class ends. -/
theorem span_eq_iff (keep : Char → Bool) (text : List Char) {run left : List Char} :
    (text.takeWhile keep = run ∧ text.dropWhile keep = left) ↔
      text = run ++ left ∧ (∀ c ∈ run, keep c = true) ∧ ∀ c ∈ left.head?, keep c = false := by
  constructor
  · rintro ⟨rfl, rfl⟩
    refine ⟨List.takeWhile_append_dropWhile.symm, List.all_eq_true.mp List.all_takeWhile, ?_⟩
    intro c hc
    have hstop := List.head?_dropWhile_not keep text
    rwa [Option.mem_def.mp hc] at hstop
  · rintro ⟨rfl, hrun, hstop⟩
    rw [List.takeWhile_append_of_pos hrun, List.dropWhile_append_of_pos hrun]
    cases left with
    | nil => simp
    | cons c left => simp [hstop c rfl]

/-- What is so for the first characters of two texts is so for the first of both in a row. -/
theorem forall_mem_head?_append {P : Char → Prop} {left rest : List Char}
    (hleft : ∀ c ∈ left.head?, P c) (hrest : ∀ c ∈ rest.head?, P c) :
    ∀ c ∈ (left ++ rest).head?, P c := by
  cases left with
  | nil => exact hrest
  | cons => exact hleft

/-- A run of characters of one class reaches as far with more text behind it that does not start
with a character of the class. -/
theorem span_append_of_stop {keep : Char → Bool} {rest : List Char}
    (hrest : ∀ c ∈ rest.head?, keep c = false) (text : List Char) :
    (text ++ rest).takeWhile keep = text.takeWhile keep ∧
      (text ++ rest).dropWhile keep = text.dropWhile keep ++ rest := by
  obtain ⟨htext, hrun, hstop⟩ := (span_eq_iff keep text).mp ⟨rfl, rfl⟩
  refine (span_eq_iff keep _).mpr ⟨?_, hrun, forall_mem_head?_append hstop hrest⟩
  rw [← List.append_assoc, ← htext]

namespace Identifier

/-- How a name may be written: a plain name as it stands, and any name between backticks. -/
inductive Spelling (name : List Char) : List Char → Prop where
  | plain (hplain : isPlain name = true) : Spelling name name
  | quoted : Spelling name (backtick :: (doubleBackticks name ++ [backtick]))

/-- Reads the rest of a name between backticks. Two backticks stand for one; a single one ends the
name. -/
def readQuoted : List Char → Option (List Char × List Char)
  | [] => none
  | [c] => if c = backtick then some ([], []) else none
  | c :: d :: rest =>
    if c ≠ backtick then (readQuoted (d :: rest)).map fun (name, left) => (c :: name, left)
    else if d = backtick then (readQuoted rest).map fun (name, left) => (backtick :: name, left)
    else some ([], d :: rest)

/-- Reads one identifier and leaves what follows it. -/
def read : List Char → Option (List Char × List Char)
  | [] => none
  | c :: rest =>
    if c = backtick then readQuoted rest
    else if startsPlain c then
      some (c :: rest.takeWhile continuesPlain, rest.dropWhile continuesPlain)
    else none

/-- A text that can follow an identifier without being taken for a part of it. -/
def EndsName (rest : List Char) : Prop :=
  ∀ c ∈ rest.head?, c ≠ backtick ∧ continuesPlain c = false

instance (rest : List Char) : Decidable (EndsName rest) :=
  match rest with
  | [] => isTrue nofun
  | c :: rest =>
    decidable_of_iff (c ≠ backtick ∧ continuesPlain c = false) (by simp [EndsName])

/-- Where a text ends, a name ends. -/
theorem endsName_nil : EndsName [] := by simp [EndsName]

/-- A text ends a name if its first character does. -/
theorem endsName_cons {c : Char} (hc : c ≠ backtick ∧ continuesPlain c = false)
    (rest : List Char) : EndsName (c :: rest) := by
  intro first hfirst
  obtain rfl : c = first := Option.some.inj hfirst
  exact hc

/-- Whether a text could be taken for a part of a name before it is up to its start. -/
theorem endsName_append {text : String} (h : EndsName text.toList ∧ text.toList ≠ [])
    (rest : String) : EndsName (text ++ rest).toList := by
  intro c hc
  rw [String.toList_append, List.head?_append_of_ne_nil _ h.2] at hc
  exact h.1 c hc

/-- No plain name starts with a backtick. -/
theorem ne_backtick_of_startsPlain {c : Char} (h : startsPlain c = true) : c ≠ backtick := by
  rintro rfl
  exact absurd h (by decide)

/-- Before more text, a character other than the backtick is taken as it stands. -/
theorem readQuoted_cons {c : Char} (hc : c ≠ backtick) {text : List Char} (htext : text ≠ []) :
    readQuoted (c :: text) = (readQuoted text).map fun (name, left) => (c :: name, left) := by
  cases text with
  | nil => exact absurd rfl htext
  | cons d rest => rw [readQuoted, if_pos hc]

/-- Doubled backticks are read back as single ones, up to the backtick that stands alone. -/
theorem readQuoted_doubleBackticks (name : List Char) {rest : List Char}
    (hrest : ∀ c ∈ rest.head?, c ≠ backtick) :
    readQuoted (doubleBackticks name ++ backtick :: rest) = some (name, rest) := by
  -- The pairs of a run of backticks are taken from its front, so that the one that is left over at
  -- its end is the one that closes the name.
  induction name with
  | nil =>
    cases rest with
    | nil => simp [doubleBackticks, readQuoted]
    | cons d rest =>
      have hd : d ≠ backtick := hrest d rfl
      simp [doubleBackticks, readQuoted, hd]
  | cons c name ih =>
    by_cases hc : c = backtick
    · simp [doubleBackticks, hc, readQuoted, ih]
    · rw [doubleBackticks, if_neg hc, List.cons_append, readQuoted_cons hc (by simp), ih]
      rfl

/-- What is read between backticks is a name with its backticks doubled, up to the backtick that
stands alone. -/
theorem readQuoted_eq_some_iff {text name left : List Char} :
    readQuoted text = some (name, left) ↔
      text = doubleBackticks name ++ backtick :: left ∧ ∀ c ∈ left.head?, c ≠ backtick := by
  constructor
  · intro h
    fun_induction readQuoted text generalizing name left with
    | case1 => cases h
    | case2 =>
      cases h
      exact ⟨rfl, by simp⟩
    | case3 => cases h
    | case4 c d rest hc ih =>
      obtain ⟨⟨inner, behind⟩, hread, heq⟩ := Option.map_eq_some_iff.mp h
      cases heq
      obtain ⟨htext, hstop⟩ := ih hread
      rw [htext, doubleBackticks, if_neg hc, List.cons_append]
      exact ⟨rfl, hstop⟩
    | case5 c rest hc ih =>
      obtain ⟨⟨inner, behind⟩, hread, heq⟩ := Option.map_eq_some_iff.mp h
      cases heq
      obtain ⟨htext, hstop⟩ := ih hread
      rw [htext, doubleBackticks, if_pos rfl, Decidable.not_not.mp hc, List.cons_append,
        List.cons_append]
      exact ⟨rfl, hstop⟩
    | case6 c d rest hc hd =>
      cases h
      rw [Decidable.not_not.mp hc, doubleBackticks, List.nil_append]
      refine ⟨rfl, fun first hfirst => ?_⟩
      obtain rfl : d = first := Option.some.inj hfirst
      exact hd
  · rintro ⟨rfl, hstop⟩
    exact readQuoted_doubleBackticks name hstop

/-- What is read is a plain name that goes no further, or a name between backticks with no further
one behind it. -/
theorem read_eq_some_iff {text name left : List Char} :
    read text = some (name, left) ↔
      (isPlain name = true ∧ text = name ++ left ∧
        ∀ c ∈ left.head?, continuesPlain c = false) ∨
      (text = backtick :: (doubleBackticks name ++ backtick :: left) ∧
        ∀ c ∈ left.head?, c ≠ backtick) := by
  constructor
  · intro h
    cases text with
    | nil => cases h
    | cons c rest =>
      rw [read] at h
      split at h
      next hquote =>
        obtain ⟨htext, hstop⟩ := readQuoted_eq_some_iff.mp h
        exact .inr ⟨by rw [hquote, htext], hstop⟩
      next =>
        split at h
        next hfirst =>
          cases h
          obtain ⟨htext, hrun, hstop⟩ := (span_eq_iff continuesPlain rest).mp ⟨rfl, rfl⟩
          refine .inl ⟨?_, by rw [List.cons_append, ← htext], hstop⟩
          rw [isPlain, hfirst, Bool.true_and, List.all_eq_true]
          exact hrun
        next => cases h
  · rintro (⟨hplain, rfl, hstop⟩ | ⟨rfl, hstop⟩)
    · cases name with
      | nil => cases hplain
      | cons first others =>
        simp only [isPlain, Bool.and_eq_true, List.all_eq_true] at hplain
        obtain ⟨hfirst, hothers⟩ := hplain
        obtain ⟨htake, hdrop⟩ := (span_eq_iff continuesPlain _).mpr ⟨rfl, hothers, hstop⟩
        rw [List.cons_append, read, if_neg (ne_backtick_of_startsPlain hfirst), if_pos hfirst,
          htake, hdrop]
    · rw [read, if_pos rfl]
      exact readQuoted_eq_some_iff.mpr ⟨rfl, hstop⟩

/-- Quoting writes the name it is given. -/
theorem spelling_quoteChars (name : List Char) : Spelling name (quoteChars name) := by
  unfold quoteChars
  split
  next hplain => exact .plain hplain
  next => exact .quoted

/-- A written name is read back and nothing of what follows is consumed. -/
theorem read_append_of_spelling {name text rest : List Char} (h : Spelling name text)
    (hrest : EndsName rest) : read (text ++ rest) = some (name, rest) := by
  rw [read_eq_some_iff]
  cases h with
  | plain hplain => exact .inl ⟨hplain, rfl, fun c hc => (hrest c hc).2⟩
  | quoted =>
    refine .inr ⟨?_, fun c hc => (hrest c hc).1⟩
    rw [List.cons_append, List.append_assoc, List.singleton_append]

/-- Every identifier that is read is written at the start of the text. -/
theorem exists_spelling_of_read {text name left : List Char} (h : read text = some (name, left)) :
    ∃ written, Spelling name written ∧ text = written ++ left := by
  rcases read_eq_some_iff.mp h with ⟨hplain, htext, -⟩ | ⟨htext, -⟩
  · exact ⟨name, .plain hplain, htext⟩
  · refine ⟨_, .quoted, ?_⟩
    rw [htext, List.cons_append, List.append_assoc, List.singleton_append]

end Identifier

end GraphGateway
