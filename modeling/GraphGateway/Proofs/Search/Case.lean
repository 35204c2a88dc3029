import GraphGateway.Proofs.Search.Substring
import GraphGateway.Proofs.Text.Lowercase

/-!
# Searches whatever the case

A search compares the lowercase of the term by itself with the lowercase of the stored texts. Main
statement: a text that holds the term is found where the capital sigmas of the term get the same
small forms in it as in the term by itself. So the terms that are found in every text that holds
them are those that settle the forms of their capital sigmas, such as all terms without one. A Greek
word in capitals that ends on a sigma is missed inside a longer word.
-/

namespace GraphGateway.Statement

/-- A text that holds the term of a search is found if the capital sigmas of the term keep their
forms in it. -/
theorem matches_lower_of_keepsForms {term text : String} {before after : List Char}
    (htext : text.toList = before ++ (Text.trim term).toList ++ after)
    (hforms : Text.KeepsForms before.reverse after (Text.trim term).toList) :
    Regex.Matches (searchPattern term) (Text.lower text) := by
  rw [matches_searchPattern_iff, Text.toList_lower, Text.toList_lower, htext]
  simp only [Text.lowerBetween_append, List.append_nil, hforms.lowerBetween_eq]
  exact List.infix_append _ _ _

/-- A term that is not settled is missed behind a letter or before one. -/
theorem exists_not_matches_of_not_settled {term : String}
    (h : ¬Text.Settled (Text.trim term).toList) :
    ∃ text : String, (Text.trim term).toList <:+: text.toList ∧
      ¬Regex.Matches (searchPattern term) (Text.lower text) := by
  -- A text with fewer sigmas of one form than the term has in lowercase does not hold it.
  have hmissed {text : String} (form : Char)
      (hcount : (Text.lower text).toList.count form <
        (Text.lower (Text.trim term)).toList.count form) :
      ¬Regex.Matches (searchPattern term) (Text.lower text) := by
    rw [matches_searchPattern_iff]
    intro hholds
    exact Nat.not_le.mpr hcount (hholds.sublist.count_le form)
  have hletter : "a".toList = ['a'] := rfl
  rcases Text.exists_count_lt_of_not_settled h with hbefore | hafter
  · refine ⟨"a" ++ Text.trim term, ?_, hmissed Text.smallSigma ?_⟩
    · rw [String.toList_append]
      exact (List.suffix_append _ _).isInfix
    · have hcount : (Text.lowerBetween [] (Text.trim term).toList ['a']).count Text.smallSigma = 0 :=
        rfl
      rwa [Text.toList_lower, Text.toList_lower, String.toList_append, hletter,
        Text.lowerBetween_append, List.append_nil, List.count_append, hcount, Nat.zero_add]
  · refine ⟨Text.trim term ++ "a", ?_, hmissed Text.finalSigma ?_⟩
    · rw [String.toList_append]
      exact (List.prefix_append _ _).isInfix
    · have hcount (before : List Char) :
          (Text.lowerBetween before [] ['a']).count Text.finalSigma = 0 := rfl
      rwa [Text.toList_lower, Text.toList_lower, String.toList_append, hletter,
        Text.lowerBetween_append, List.append_nil, List.count_append, hcount, Nat.add_zero]

/-- A text that holds the term of a search, trimmed, is found in lowercase wherever the capital
sigmas of the term get the same forms in it as in the term by itself. The terms that are found in
every text that holds them are just those that settle the forms of their capital sigmas, and so all
terms without one. -/
theorem found_where_sigmas_keep_forms (term : String) :
    (∀ (text : String) (before after : List Char),
      text.toList = before ++ (Text.trim term).toList ++ after →
      Text.KeepsForms before.reverse after (Text.trim term).toList →
      Regex.Matches (searchPattern term) (Text.lower text)) ∧
    ((∀ text : String, (Text.trim term).toList <:+: text.toList →
      Regex.Matches (searchPattern term) (Text.lower text)) ↔
        Text.Settled (Text.trim term).toList) ∧
    (Text.capitalSigma ∉ (Text.trim term).toList → ∀ text : String,
      (Text.trim term).toList <:+: text.toList →
      Regex.Matches (searchPattern term) (Text.lower text)) := by
  have hfound (hsettled : Text.Settled (Text.trim term).toList) (text : String)
      (hholds : (Text.trim term).toList <:+: text.toList) :
      Regex.Matches (searchPattern term) (Text.lower text) := by
    obtain ⟨before, after, htext⟩ := hholds
    exact matches_lower_of_keepsForms htext.symm (hsettled.keepsForms _ _)
  refine ⟨fun text before after => matches_lower_of_keepsForms, ⟨fun hall => ?_, hfound⟩,
    fun hsigma => hfound (Text.settled_of_notMem hsigma)⟩
  by_contra hsettled
  obtain ⟨text, hholds, hmissed⟩ := exists_not_matches_of_not_settled hsettled
  exact hmissed (hall text hholds)

/-- A term that is not blank is missed in a longer word that starts with it, because the sigma at its
end becomes the final form in the term alone. -/
theorem longer_word_is_missed :
    ¬∀ term text : String, Text.isBlankText term = false →
      (Text.trim term).toList <:+: text.toList →
      Regex.Matches (searchPattern term) (Text.lower text) := by
  intro hfound
  have hmatches := hfound "ΟΔΟΣ" "ΟΔΟΣΗΜΑΝΣΗ" (by decide) (by decide +kernel)
  rw [matches_searchPattern_iff] at hmatches
  exact absurd hmatches (by decide +kernel)

end GraphGateway.Statement
