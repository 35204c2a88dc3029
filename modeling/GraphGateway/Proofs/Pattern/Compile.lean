import GraphGateway.Pattern.Query

/-!
# Which tokens compile, and to what

A pattern is accepted exactly if no token is blank and their number is odd; its selectors depend on
the trimmed tokens alone. A pattern compiles to a query for nodes if it is one label, and to a query
for paths if it has three steps or more.
-/

namespace GraphGateway

/-- A computation in two stages succeeds exactly if both stages do. -/
theorem bind_eq_ok_iff {α β ε : Type} {first : Except ε α} {second : α → Except ε β} {b : β} :
    first >>= second = .ok b ↔ ∃ a, first = .ok a ∧ second a = .ok b := by
  cases first with
  | error e => simp [bind, Except.bind]
  | ok a => simp [bind, Except.bind]

/-- A computation in two stages fails exactly if the first stage does or the second does on what the
first one gives. -/
theorem bind_eq_error_iff {α β ε : Type} {first : Except ε α} {second : α → Except ε β} {e : ε} :
    first >>= second = .error e ↔
      first = .error e ∨ ∃ a, first = .ok a ∧ second a = .error e := by
  cases first with
  | error found => simp [bind, Except.bind]
  | ok a => simp [bind, Except.bind]

namespace Selector

/-- The selector that a trimmed token stands for. -/
def ofTrimmed (trimmed : String) : Selector :=
  if trimmed = wildcard then any else labeled trimmed

/-- A selector keeps the trimmed token it was made of. -/
theorem token_ofTrimmed (trimmed : String) : (ofTrimmed trimmed).token = trimmed := by
  unfold ofTrimmed
  split
  next h => exact h.symm
  next => rfl

/-- Only the wildcard token selects anything. -/
theorem ofTrimmed_eq_any_iff {trimmed : String} :
    ofTrimmed trimmed = any ↔ trimmed = wildcard := by
  unfold ofTrimmed
  split <;> simp [*]

/-- A token is accepted unless it is blank, and its selector depends on the trimmed token alone. -/
theorem parse_eq_ok_iff {token : String} {selector : Selector} :
    parse token = .ok selector ↔ Text.trim token ≠ "" ∧ ofTrimmed (Text.trim token) = selector := by
  unfold parse ofTrimmed
  by_cases hempty : Text.trim token = ""
  · simp [hempty]
  · simp only [String.isEmpty_iff, hempty, if_false, ne_eq, not_false_eq_true, true_and]
    split <;> exact ⟨Except.ok.inj, congrArg Except.ok⟩

/-- Tokens are accepted one by one. -/
theorem mapM_parse_eq_ok_iff {tokens : List String} {selectors : List Selector} :
    tokens.mapM parse = .ok selectors ↔
      (∀ token ∈ tokens, Text.trim token ≠ "") ∧
        tokens.map (fun token => ofTrimmed (Text.trim token)) = selectors := by
  induction tokens generalizing selectors with
  | nil => simp [List.mapM_nil, pure, Except.pure]
  | cons token tokens ih =>
    simp only [List.mapM_cons, bind_eq_ok_iff, parse_eq_ok_iff, ih, List.forall_mem_cons,
      List.map_cons]
    constructor
    · rintro ⟨first, ⟨hfirst, rfl⟩, others, ⟨hothers, rfl⟩, h⟩
      exact ⟨⟨hfirst, hothers⟩, Except.ok.inj h⟩
    · rintro ⟨⟨hfirst, hothers⟩, rfl⟩
      exact ⟨_, ⟨hfirst, rfl⟩, _, ⟨hothers, rfl⟩, rfl⟩

end Selector

namespace Pattern

/-- Tokens are accepted exactly if none of them is blank and their number is odd, and the pattern
depends on the trimmed tokens alone. -/
theorem parse_eq_ok_iff {tokens : List String} {pattern : Pattern} :
    parse tokens = .ok pattern ↔
      (∀ token ∈ tokens, Text.trim token ≠ "") ∧
        tokens.map (fun token => Selector.ofTrimmed (Text.trim token)) = pattern.selectors := by
  obtain ⟨selectors, hodd⟩ := pattern
  simp only [parse, bind_eq_ok_iff, Selector.mapM_parse_eq_ok_iff]
  constructor
  · rintro ⟨parsed, ⟨htokens, rfl⟩, h⟩
    refine ⟨htokens, ?_⟩
    split at h
    next => cases h
    next =>
      split at h
      next => exact congrArg Pattern.selectors (Except.ok.inj h)
      next => cases h
  · rintro ⟨htokens, rfl⟩
    refine ⟨_, ⟨htokens, rfl⟩, ?_⟩
    rw [if_neg, dif_pos hodd]
    intro hempty
    rw [List.isEmpty_iff.mp hempty] at hodd
    cases hodd

/-- A pattern of one label compiles to a query for nodes, a pattern of three steps or more to a
query for paths, and nothing else compiles. -/
theorem compile_eq_ok_iff {pattern : Pattern} {limit : Int64} {query : PathQuery} :
    pattern.compile limit = .ok query ↔
      (∃ label, pattern.selectors = [.labeled label] ∧ PathQuery.ofLabel label limit = query) ∨
        (3 ≤ pattern.size ∧ PathQuery.ofSteps pattern limit = query) := by
  obtain ⟨selectors, hodd⟩ := pattern
  unfold compile size
  match selectors, hodd with
  | [], hodd => cases hodd
  | [.any], _ => simp
  | [.labeled label], _ => simp
  | [first, second], hodd => simp at hodd
  | first :: second :: third :: more, _ => simp

end Pattern

end GraphGateway
