import GraphGateway.Text.Lowercase
import Mathlib.Data.List.Basic

/-!
# Lowercase inside a text

Lowercase is taken character by character, but for the capital sigma, whose small form depends on
the nearest characters on both sides that are not passed over. So a text need not look alike in
lowercase by itself and as a part of another text. Main statement: it does wherever it stands just
if it is settled, which means that it decides the forms of its capital sigmas itself.
-/

namespace GraphGateway.Text

/-- Whether the first character that is not passed over takes part in case distinctions; nothing
where all are passed over. -/
def firstCased? (text : List Char) : Option Bool :=
  (text.dropWhile isCaseIgnorable).head?.map isCased

/-- The small form of a capital sigma between the characters before it, the nearest first, and the
characters behind it. -/
def smallForm (before after : List Char) : Char :=
  if startsCased before && !startsCased after then finalSigma else smallSigma

/-- The lowercase of one character in its place. -/
def lowerIn (before after : List Char) (c : Char) : List Char :=
  if c = capitalSigma then [smallForm before after] else lowerChar c

/-- The lowercase of a text in its place. -/
def lowerBetween (before after : List Char) : List Char → List Char
  | [] => []
  | c :: rest => lowerIn before (rest ++ after) c ++ lowerBetween (c :: before) after rest

/-- A text starts with a cased character if the first one that counts is one. -/
theorem startsCased_iff {text : List Char} :
    startsCased text = true ↔ firstCased? text = some true := by
  rw [startsCased, firstCased?]
  cases text.dropWhile isCaseIgnorable with
  | nil => simp
  | cons c rest => simp

/-- The characters behind a text count only where all of the text is passed over. -/
theorem firstCased?_append (text rest : List Char) :
    firstCased? (text ++ rest) = (firstCased? text).or (firstCased? rest) := by
  rw [firstCased?, firstCased?, firstCased?, List.dropWhile_append]
  cases text.dropWhile isCaseIgnorable with
  | nil => simp
  | cons c rest => simp

/-- A capital sigma becomes the final form behind a cased character unless one follows. -/
theorem smallForm_eq_finalSigma_iff {before after : List Char} :
    smallForm before after = finalSigma ↔
      firstCased? before = some true ∧ firstCased? after ≠ some true := by
  have hforms : smallSigma ≠ finalSigma := by decide
  rw [← startsCased_iff, ne_eq, ← startsCased_iff, smallForm]
  cases startsCased before <;> cases startsCased after <;> simp [hforms]

/-- A capital sigma becomes the inner form where it does not become the final one. -/
theorem smallForm_eq_smallSigma_iff {before after : List Char} :
    smallForm before after = smallSigma ↔ smallForm before after ≠ finalSigma := by
  have hforms : smallSigma ≠ finalSigma := by decide
  rw [smallForm]
  split
  next => simp [hforms.symm]
  next => simp [hforms]

/-!
## Parts of a text
-/

/-- The lowercase of a text is that of its characters in their places. -/
theorem lowerAfter_eq_lowerBetween (before text : List Char) :
    lowerAfter before text = lowerBetween before [] text := by
  induction text generalizing before with
  | nil => rfl
  | cons c rest ih =>
    rw [lowerAfter, lowerBetween, ih, List.append_nil]
    rfl

/-- The lowercase of two texts one behind the other is that of each in its place. -/
theorem lowerBetween_append (before after first second : List Char) :
    lowerBetween before after (first ++ second) =
      lowerBetween before (second ++ after) first ++
        lowerBetween (first.reverse ++ before) after second := by
  induction first generalizing before with
  | nil => rfl
  | cons c rest ih =>
    rw [List.cons_append, lowerBetween, lowerBetween, ih, List.reverse_cons, List.append_assoc,
      List.append_assoc, List.append_assoc]
    rfl

/-- The characters of a lowercase text. -/
theorem toList_lower (text : String) : (lower text).toList = lowerBetween [] [] text.toList := by
  rw [lower, String.toList_ofList, lowerAfter_eq_lowerBetween]

/-- A text looks alike in lowercase in two places if its capital sigmas do. -/
theorem lowerBetween_congr {before after before' after' text : List Char}
    (h : ∀ left right, text = left ++ capitalSigma :: right →
      smallForm (left.reverse ++ before) (right ++ after) =
        smallForm (left.reverse ++ before') (right ++ after')) :
    lowerBetween before after text = lowerBetween before' after' text := by
  induction text generalizing before before' with
  | nil => rfl
  | cons c rest ih =>
    have hfirst : lowerIn before (rest ++ after) c = lowerIn before' (rest ++ after') c := by
      unfold lowerIn
      split
      next hc => exact congrArg ([·]) (h [] rest (congrArg (· :: rest) hc))
      next => rfl
    have hrest : lowerBetween (c :: before) after rest = lowerBetween (c :: before') after' rest := by
      refine ih fun left right heq => ?_
      simpa using h (c :: left) right (congrArg (c :: ·) heq)
    rw [lowerBetween, lowerBetween, hfirst, hrest]

/-- Of a form of the sigma there are not more in one place than in another if every capital sigma
that gets it there also gets it in the other. -/
theorem count_lowerBetween_le {before after before' after' text : List Char} {form : Char}
    (h : ∀ left right, text = left ++ capitalSigma :: right →
      smallForm (left.reverse ++ before) (right ++ after) = form →
        smallForm (left.reverse ++ before') (right ++ after') = form) :
    (lowerBetween before after text).count form ≤ (lowerBetween before' after' text).count form := by
  induction text generalizing before before' with
  | nil => exact Nat.le_refl _
  | cons c rest ih =>
    have hfirst : (lowerIn before (rest ++ after) c).count form ≤
        (lowerIn before' (rest ++ after') c).count form := by
      unfold lowerIn
      split
      next hc =>
        by_cases hhere : smallForm before (rest ++ after) = form
        · have hthere : smallForm before' (rest ++ after') = form :=
            h [] rest (congrArg (· :: rest) hc) hhere
          simp [hhere, hthere]
        · simp [hhere]
      next => exact Nat.le_refl _
    have hrest : (lowerBetween (c :: before) after rest).count form ≤
        (lowerBetween (c :: before') after' rest).count form := by
      refine ih fun left right heq => ?_
      simpa using h (c :: left) right (congrArg (c :: ·) heq)
    rw [lowerBetween, lowerBetween, List.count_append, List.count_append]
    exact Nat.add_le_add hfirst hrest

/-- Of a form of the sigma there are fewer in one place than in another if moreover some capital
sigma gets it only in the other. -/
theorem count_lowerBetween_lt {before after before' after' left right : List Char} {form : Char}
    (h : ∀ first second, left ++ capitalSigma :: right = first ++ capitalSigma :: second →
      smallForm (first.reverse ++ before) (second ++ after) = form →
        smallForm (first.reverse ++ before') (second ++ after') = form)
    (hhere : smallForm (left.reverse ++ before) (right ++ after) ≠ form)
    (hthere : smallForm (left.reverse ++ before') (right ++ after') = form) :
    (lowerBetween before after (left ++ capitalSigma :: right)).count form <
      (lowerBetween before' after' (left ++ capitalSigma :: right)).count form := by
  have hleft : (lowerBetween before (capitalSigma :: right ++ after) left).count form ≤
      (lowerBetween before' (capitalSigma :: right ++ after') left).count form := by
    refine count_lowerBetween_le fun first second heq => ?_
    simpa using h first (second ++ capitalSigma :: right) (by simp [heq])
  have hright :
      (lowerBetween (capitalSigma :: (left.reverse ++ before)) after right).count form ≤
        (lowerBetween (capitalSigma :: (left.reverse ++ before')) after' right).count form := by
    refine count_lowerBetween_le fun first second heq => ?_
    simpa using h (left ++ capitalSigma :: first) second (by simp [heq])
  have hmiddle : (lowerIn (left.reverse ++ before) (right ++ after) capitalSigma).count form <
      (lowerIn (left.reverse ++ before') (right ++ after') capitalSigma).count form := by
    simp [lowerIn, hhere, hthere]
  simp only [lowerBetween_append, lowerBetween, List.count_append]
  omega

/-!
## Settled texts
-/

/-- The capital sigmas of a text get the forms in a place that they get in the text by itself. -/
def KeepsForms (before after text : List Char) : Prop :=
  ∀ left right, text = left ++ capitalSigma :: right →
    smallForm (left.reverse ++ before) (right ++ after) = smallForm left.reverse right

/-- A text decides the forms of its capital sigmas: each of them has on one side a nearest character
in the text that rules the final form out, or on both sides ones that ask for it. -/
def Settled (text : List Char) : Prop :=
  ∀ left right, text = left ++ capitalSigma :: right →
    firstCased? left.reverse = some false ∨ firstCased? right = some true ∨
      firstCased? left.reverse = some true ∧ firstCased? right = some false

/-- A text without capital sigmas is settled. -/
theorem settled_of_notMem {text : List Char} (h : capitalSigma ∉ text) : Settled text :=
  fun _ _ heq => absurd (heq ▸ List.mem_append_right _ List.mem_cons_self) h

/-- A text whose capital sigmas keep their forms looks in its place as it does by itself. -/
theorem KeepsForms.lowerBetween_eq {before after text : List Char}
    (h : KeepsForms before after text) :
    lowerBetween before after text = lowerBetween [] [] text := by
  refine lowerBetween_congr fun left right heq => ?_
  rw [h left right heq, List.append_nil, List.append_nil]

/-- The capital sigmas of a settled text keep their forms wherever it stands. -/
theorem Settled.keepsForms {text : List Char} (h : Settled text) (before after : List Char) :
    KeepsForms before after text := by
  intro left right heq
  have hfinal : smallForm (left.reverse ++ before) (right ++ after) = finalSigma ↔
      smallForm left.reverse right = finalSigma := by
    simp only [smallForm_eq_finalSigma_iff, firstCased?_append]
    rcases h left right heq with hbefore | hafter | ⟨hbefore, hafter⟩
    · simp [hbefore]
    · simp [hafter]
    · simp [hbefore, hafter]
  by_cases hform : smallForm left.reverse right = finalSigma
  · rw [hfinal.mpr hform, hform]
  · rw [smallForm_eq_smallSigma_iff.mpr hform,
      smallForm_eq_smallSigma_iff.mpr (mt hfinal.mp hform)]

/-- A text that is not settled looks different in lowercase behind a letter or before one: there it
has fewer sigmas of one form than by itself. -/
theorem exists_count_lt_of_not_settled {text : List Char} (h : ¬Settled text) :
    (lowerBetween ['a'] [] text).count smallSigma < (lowerBetween [] [] text).count smallSigma ∨
      (lowerBetween [] ['a'] text).count finalSigma <
        (lowerBetween [] [] text).count finalSigma := by
  simp only [Settled, not_forall, not_or, not_and] at h
  obtain ⟨left, right, rfl, hbefore, hafter, hboth⟩ := h
  have hletter : firstCased? ['a'] = some true := by decide
  -- Where nothing in the text stands before the sigma, a letter before the text makes it final.
  cases hleft : firstCased? left.reverse with
  | none =>
    refine Or.inl (count_lowerBetween_lt (fun first second _ => ?_) ?_ ?_)
    · simp only [smallForm_eq_smallSigma_iff, ne_eq, smallForm_eq_finalSigma_iff, List.append_nil,
        firstCased?_append, hletter]
      rintro hnot ⟨hfirst, hsecond⟩
      exact hnot ⟨by simp [hfirst], hsecond⟩
    · simp [smallForm_eq_smallSigma_iff, smallForm_eq_finalSigma_iff, firstCased?_append, hletter,
        hleft, hafter]
    · simp [smallForm_eq_smallSigma_iff, smallForm_eq_finalSigma_iff, hleft]
  | some cased =>
    -- Otherwise it is final by itself, and no longer with a letter behind the text.
    have hcased : firstCased? left.reverse = some true := by
      cases cased with
      | false => exact absurd hleft hbefore
      | true => exact hleft
    have hright : firstCased? right = none := by
      cases hright : firstCased? right with
      | none => rfl
      | some cased =>
        cases cased with
        | false => exact absurd hright (hboth hcased)
        | true => exact absurd hright hafter
    refine Or.inr (count_lowerBetween_lt (fun first second _ => ?_) ?_ ?_)
    · simp only [smallForm_eq_finalSigma_iff, List.append_nil, firstCased?_append, hletter]
      rintro ⟨hfirst, hsecond⟩
      exact ⟨hfirst, fun hcased => hsecond (by simp [hcased])⟩
    · simp [smallForm_eq_finalSigma_iff, firstCased?_append, hletter, hright]
    · simp [smallForm_eq_finalSigma_iff, hcased, hright]

end GraphGateway.Text
