import GraphGateway.Proofs.Identifier.Reader
import GraphGateway.Text.Blank
import Mathlib.Data.List.Basic

/-!
# Words, numbers, parameters and marks

The tokens of the query language, as far as statements use them, and a lexer for them: names, plain
or between backticks, are words; digits are numbers; a name behind a dollar sign refers to a
parameter; punctuation stands for itself; white space only separates. A text with anything else in
it, such as a name between backticks that does not end, has no tokens.

Texts are lexed part by part: where a part neither starts with a backtick nor could continue a plain
name, the tokens before it and its own tokens do not mix.
-/

namespace GraphGateway

namespace Identifier

/-- A name is read alike with more text behind it that cannot be taken for a part of it. -/
theorem read_append {text name left rest : List Char} (h : read text = some (name, left))
    (hrest : EndsName rest) : read (text ++ rest) = some (name, left ++ rest) := by
  rw [read_eq_some_iff] at h ⊢
  rcases h with ⟨hplain, rfl, hstop⟩ | ⟨rfl, hstop⟩
  · refine .inl ⟨hplain, List.append_assoc _ _ _, ?_⟩
    exact forall_mem_head?_append hstop fun c hc => (hrest c hc).2
  · refine .inr ⟨?_, forall_mem_head?_append hstop fun c hc => (hrest c hc).1⟩
    rw [List.cons_append, List.append_assoc, List.cons_append]

/-- A name that is read takes some characters. -/
theorem length_of_read {text name left : List Char} (h : read text = some (name, left)) :
    left.length < text.length := by
  obtain ⟨written, hwritten, rfl⟩ := exists_spelling_of_read h
  have hpositive : 0 < written.length := by
    cases hwritten with
    | plain hplain =>
      cases name with
      | nil => cases hplain
      | cons => simp
    | quoted => simp
  rw [List.length_append]
  omega

/-- Where no name starts, none starts with other text behind the first character. -/
theorem read_cons_eq_none {c : Char} {text : List Char} (hc : c ≠ backtick)
    (h : read (c :: text) = none) (other : List Char) : read (c :: other) = none := by
  rw [read, if_neg hc] at h ⊢
  split at h
  next => cases h
  next hfirst => rw [if_neg hfirst]

/-- Digits are the ten characters from 0 to 9. -/
theorem exists_ofNat_of_isDigit {c : Char} (h : c.isDigit = true) :
    ∃ n < 58, 48 ≤ n ∧ Char.ofNat n = c := by
  simp only [Char.isDigit, Bool.and_eq_true, decide_eq_true_eq, ge_iff_le,
    UInt32.le_iff_toNat_le] at h
  exact ⟨c.toNat, Nat.lt_succ_of_le h.2, h.1, Char.ofNat_toNat c⟩

/-- A digit may continue a plain name, so what may not is no digit. -/
theorem isDigit_of_continuesPlain_eq_false {c : Char} (h : continuesPlain c = false) :
    c.isDigit = false := by
  have hdigits : ∀ n < 58, 48 ≤ n → continuesPlain (Char.ofNat n) = true := by decide +kernel
  by_contra hdigit
  obtain ⟨n, hhigh, hlow, rfl⟩ := exists_ofNat_of_isDigit (Bool.not_eq_false _ ▸ hdigit)
  cases (hdigits n hhigh hlow).symm.trans h

/-- No name starts with a digit. -/
theorem read_of_isDigit {c : Char} (h : c.isDigit = true) (rest : List Char) :
    read (c :: rest) = none := by
  have hdigits : ∀ n < 58, 48 ≤ n →
      Char.ofNat n ≠ backtick ∧ startsPlain (Char.ofNat n) = false := by decide +kernel
  obtain ⟨n, hhigh, hlow, rfl⟩ := exists_ofNat_of_isDigit h
  obtain ⟨hquote, hplain⟩ := hdigits n hhigh hlow
  rw [read, if_neg hquote, if_neg (by simp [hplain])]

end Identifier

/-- A token of the query language. A word is a keyword or a name, without its backticks. -/
inductive Token where
  | word (name : String)
  | number (value : Nat)
  | parameter (name : String)
  | mark (c : Char)
  deriving DecidableEq, Repr

namespace Token

/-- The punctuation of statements. -/
def marks : List Char := "()[]\x7b\x7d:,.=~<>-".toList

/-- Reads a token that is no word. -/
def readSymbol (c : Char) (rest : List Char) : Option (Token × List Char) :=
  if c = '$' then
    (Identifier.read rest).map fun (name, left) => (.parameter (String.ofList name), left)
  else if c.isDigit then
    some (.number (Nat.ofDigitChars 10 (c :: rest.takeWhile Char.isDigit) 0),
      rest.dropWhile Char.isDigit)
  else if marks.contains c then some (.mark c, rest)
  else none

/-- Reads the token at the start of a text, which must not be white space. -/
def read : List Char → Option (Token × List Char)
  | [] => none
  | c :: rest =>
    match Identifier.read (c :: rest) with
    | some (name, left) => some (.word (String.ofList name), left)
    | none => readSymbol c rest

/-- A token that is read takes some characters. -/
theorem length_of_read {text left : List Char} {token : Token}
    (h : read text = some (token, left)) : left.length < text.length := by
  cases text with
  | nil => cases h
  | cons c rest =>
    rw [read] at h
    split at h
    next hword =>
      cases h
      exact Identifier.length_of_read hword
    next =>
      rw [List.length_cons, Nat.lt_succ_iff]
      unfold readSymbol at h
      split at h
      · obtain ⟨⟨name, behind⟩, hname, heq⟩ := Option.map_eq_some_iff.mp h
        cases heq
        exact Nat.le_of_lt (Identifier.length_of_read hname)
      · split at h
        · cases h
          exact (List.dropWhile_sublist Char.isDigit).length_le
        · split at h <;> cases h
          exact Nat.le_refl _

/-- The tokens of a text, if it is made of tokens and white space alone. -/
def ofChars : List Char → Option (List Token)
  | [] => some []
  | c :: rest =>
    match _hread : read (c :: rest) with
    | some (token, left) => (ofChars left).map (token :: ·)
    | none => if Text.isBlank c then ofChars rest else none
termination_by text => text.length
decreasing_by
  · exact length_of_read _hread
  · exact Nat.lt_succ_self _

/-- A token is read alike with more text behind it that cannot be taken for a part of it. -/
theorem readSymbol_append {c : Char} {text left rest : List Char} {token : Token}
    (h : readSymbol c text = some (token, left)) (hrest : Identifier.EndsName rest) :
    readSymbol c (text ++ rest) = some (token, left ++ rest) := by
  unfold readSymbol at h ⊢
  split at h
  next hdollar =>
    obtain ⟨⟨name, behind⟩, hname, heq⟩ := Option.map_eq_some_iff.mp h
    cases heq
    rw [if_pos hdollar, Identifier.read_append hname hrest]
    rfl
  next hdollar =>
    rw [if_neg hdollar]
    split at h
    next hdigit =>
      have hstop : ∀ d ∈ rest.head?, d.isDigit = false := fun d hd =>
        Identifier.isDigit_of_continuesPlain_eq_false (hrest d hd).2
      obtain ⟨htake, hdrop⟩ := span_append_of_stop hstop text
      cases h
      rw [if_pos hdigit, htake, hdrop]
    next hdigit =>
      rw [if_neg hdigit]
      split at h
      next hmark =>
        cases h
        rw [if_pos hmark]
      next => cases h

/-- A token is read alike with more text behind it that cannot be taken for a part of it. -/
theorem read_append {text left rest : List Char} {token : Token}
    (h : read text = some (token, left)) (hrest : Identifier.EndsName rest) :
    read (text ++ rest) = some (token, left ++ rest) := by
  cases text with
  | nil => cases h
  | cons c text =>
    rw [read] at h
    rw [List.cons_append, read]
    split at h
    next name behind hname =>
      cases h
      rw [← List.cons_append, Identifier.read_append hname hrest]
    next hname =>
      have hquote : c ≠ Identifier.backtick := by
        rintro rfl
        cases h
      rw [Identifier.read_cons_eq_none hquote hname]
      exact readSymbol_append h hrest

/-- An identifier is read as a word. -/
theorem read_word {text name left : List Char} (h : Identifier.read text = some (name, left)) :
    read text = some (.word (String.ofList name), left) := by
  cases text with
  | nil => cases h
  | cons c rest => rw [read, h]

/-- Whether a character is punctuation, and neither starts a word, a number nor a reference. -/
def isMark (c : Char) : Bool :=
  c != Identifier.backtick && !Identifier.startsPlain c && c != '$' && !c.isDigit &&
    marks.contains c

/-- Punctuation is read as it stands. -/
theorem read_mark {c : Char} (h : isMark c = true) (rest : List Char) :
    read (c :: rest) = some (.mark c, rest) := by
  simp only [isMark, Bool.and_eq_true, bne_iff_ne, Bool.not_eq_true', ne_eq] at h
  obtain ⟨⟨⟨⟨hquote, hword⟩, hdollar⟩, hdigit⟩, hmark⟩ := h
  rw [read, Identifier.read, if_neg hquote, if_neg (by simp [hword])]
  dsimp only
  rw [readSymbol, if_neg hdollar, if_neg (by simp [hdigit]), if_pos hmark]

/-- Digits are read as the number they write. -/
theorem read_number {digits : List Char} (hsome : digits ≠ [])
    (hdigits : ∀ c ∈ digits, c.isDigit = true) :
    read digits = some (.number (Nat.ofDigitChars 10 digits 0), []) := by
  obtain ⟨c, rest, rfl⟩ := List.exists_cons_of_ne_nil hsome
  have hc : c.isDigit = true := hdigits c List.mem_cons_self
  have hrest : ∀ d ∈ rest, d.isDigit = true := fun d hd => hdigits d (List.mem_cons_of_mem _ hd)
  have hdollar : c ≠ '$' := by
    rintro rfl
    cases hc
  rw [read, Identifier.read_of_isDigit hc]
  dsimp only
  rw [readSymbol, if_neg hdollar, if_pos hc, ← List.append_nil rest,
    List.takeWhile_append_of_pos hrest, List.dropWhile_append_of_pos hrest]
  rfl

/-- The tokens of a text are the one at its start and those behind it. -/
theorem ofChars_of_read {text left : List Char} {token : Token}
    (h : read text = some (token, left)) : ofChars text = (ofChars left).map (token :: ·) := by
  cases text with
  | nil => cases h
  | cons c rest =>
    rw [ofChars]
    split
    next hread =>
      cases h.symm.trans hread
      rfl
    next hread => cases h.symm.trans hread

/-- White space at the start of a text is passed over. -/
theorem ofChars_of_isBlank {c : Char} {rest : List Char} (hblank : Text.isBlank c = true)
    (h : read (c :: rest) = none) : ofChars (c :: rest) = ofChars rest := by
  rw [ofChars]
  split
  next hread => cases h.symm.trans hread
  next => rw [if_pos hblank]

/-- What starts a blank starts no token, whatever follows. -/
theorem read_cons_eq_none {c : Char} {text : List Char} (hblank : Text.isBlank c = true)
    (h : read (c :: text) = none) (other : List Char) : read (c :: other) = none := by
  have hquote : c ≠ Identifier.backtick := by
    rintro rfl
    exact absurd hblank (by decide)
  have hdollar : c ≠ '$' := by
    rintro rfl
    exact absurd hblank (by decide)
  rw [read] at h ⊢
  split at h
  next => cases h
  next hname =>
    rw [Identifier.read_cons_eq_none hquote hname]
    dsimp only
    unfold readSymbol at h ⊢
    rw [if_neg hdollar] at h ⊢
    split at h
    next => cases h
    next hdigit =>
      rw [if_neg hdigit]
      split at h
      next => cases h
      next hmark => rw [if_neg hmark]

/-- The tokens of a text come before those of a part behind it that starts apart from it. -/
theorem ofChars_append {text rest : List Char} {tokens : List Token}
    (h : ofChars text = some tokens) (hrest : Identifier.EndsName rest) :
    ofChars (text ++ rest) = (ofChars rest).map (tokens ++ ·) := by
  fun_induction ofChars text generalizing tokens with
  | case1 =>
    cases h
    simp
  | case2 c text token left hread ih =>
    obtain ⟨others, hothers, rfl⟩ := Option.map_eq_some_iff.mp h
    rw [ofChars_of_read (read_append hread hrest), ih hothers, Option.map_map]
    rfl
  | case3 c text hread hblank ih =>
    rw [List.cons_append, ofChars_of_isBlank hblank (read_cons_eq_none hblank hread _)]
    exact ih h
  | case4 => cases h

end Token

end GraphGateway
