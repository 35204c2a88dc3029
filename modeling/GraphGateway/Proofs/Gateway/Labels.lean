import GraphGateway.Gateway.Edges
import GraphGateway.Gateway.Nodes
import GraphGateway.Proofs.Statement.Proper
import Mathlib.Data.List.Basic

/-!
# Checked labels

A label that passes the check is trimmed and not blank, and so is the type of every new edge.
-/

namespace GraphGateway

namespace Text

/-- Characters that start with no white space are not all white space, unless there are none. -/
private theorem eq_nil_of_all_dropWhile {text : List Char}
    (h : (text.dropWhile isBlank).all isBlank = true) : text.dropWhile isBlank = [] := by
  cases hrest : text.dropWhile isBlank with
  | nil => rfl
  | cons c rest =>
    have hvisible : isBlank c = false := by
      have hhead := List.head?_dropWhile_not isBlank text
      rw [hrest] at hhead
      simpa using hhead
    rw [hrest, List.all_cons, hvisible] at h
    cases h

/-- A trimmed text is blank only if it is empty. -/
theorem isBlankText_trim (text : String) : isBlankText (trim text) = (trim text).isEmpty := by
  rw [Bool.eq_iff_iff, String.isEmpty_iff]
  constructor
  · intro h
    rw [trim, trimChars, isBlankText, String.toList_ofList, List.all_reverse] at h
    rw [trim, trimChars, eq_nil_of_all_dropWhile h, List.reverse_nil, String.ofList_nil]
  · intro h
    rw [h]
    rfl

/-- Nothing is left of a text that is trimmed just where it is blank. -/
theorem isEmpty_trim (text : String) : (trim text).isEmpty = isBlankText text := by
  rw [Bool.eq_iff_iff, String.isEmpty_iff]
  constructor
  · intro h
    have hchars : trimChars text.toList = [] := by simpa [trim] using congrArg String.toList h
    rw [trimChars, List.reverse_eq_nil_iff, List.dropWhile_eq_nil_iff] at hchars
    have hrest : text.toList.dropWhile isBlank = [] :=
      eq_nil_of_all_dropWhile (List.all_eq_true.mpr fun c hc => hchars c (List.mem_reverse.mpr hc))
    exact List.all_eq_true.mpr (List.dropWhile_eq_nil_iff.mp hrest)
  · intro h
    have hrest : text.toList.dropWhile isBlank = [] :=
      List.dropWhile_eq_nil_iff.mpr (List.all_eq_true.mp h)
    rw [trim, trimChars, hrest]
    rfl

end Text

/-- A label passes the check, trimmed, if there is something left of it. -/
theorem checkLabel_eq_ok_iff {label checked : String} :
    checkLabel label = .ok checked ↔
      checked = Text.trim label ∧ Text.isBlankText checked = false := by
  have hcheck : checkLabel label = if Text.isBlankText (Text.trim label) = true then
      .error (.invalidInput .blankLabel) else .ok (Text.trim label) := by
    rw [Text.isBlankText_trim]
    rfl
  rw [hcheck]
  split
  next hblank =>
    constructor
    · intro h
      cases h
    · rintro ⟨rfl, hvisible⟩
      exact absurd hblank (Bool.eq_false_iff.mp hvisible)
  next hvisible =>
    rw [Except.ok.injEq]
    constructor
    · rintro rfl
      exact ⟨rfl, Bool.eq_false_iff.mpr hvisible⟩
    · rintro ⟨rfl, -⟩
      rfl

/-- A label that is not blank passes the check, trimmed. -/
theorem checkLabel_of_not_blank {label : String} (h : Text.isBlankText label = false) :
    checkLabel label = .ok (Text.trim label) :=
  checkLabel_eq_ok_iff.mpr ⟨rfl, by rw [Text.isBlankText_trim, Text.isEmpty_trim, h]⟩

/-- A label that passes the check is proper. -/
theorem ProperLabel.of_checkLabel {label checked : String} (h : checkLabel label = .ok checked) :
    ProperLabel checked := by
  obtain ⟨rfl, hvisible⟩ := checkLabel_eq_ok_iff.mp h
  refine .of_trim fun hempty => ?_
  rw [hempty] at hvisible
  cases hvisible

/-- Labels that pass the check one by one are proper. -/
theorem ProperLabel.of_mapM_checkLabel {labels checked : List String}
    (h : labels.mapM checkLabel = .ok checked) : ∀ label ∈ checked, ProperLabel label := by
  induction labels generalizing checked with
  | nil =>
    cases h
    exact List.forall_mem_nil _
  | cons label labels ih =>
    rw [List.mapM_cons] at h
    obtain ⟨first, hfirst, h⟩ := bind_eq_ok_iff.mp h
    obtain ⟨others, hothers, h⟩ := bind_eq_ok_iff.mp h
    cases h
    exact List.forall_mem_cons.mpr ⟨.of_checkLabel hfirst, ih hothers⟩

/-- A label that is there and passes the check is proper. -/
theorem ProperLabel.of_some_checkLabel {label : String} {checked? : Option String}
    (h : some <$> checkLabel label = .ok checked?) : ∀ checked ∈ checked?, ProperLabel checked := by
  cases hlabel : checkLabel label with
  | error error =>
    rw [hlabel] at h
    cases h
  | ok checked =>
    rw [hlabel] at h
    cases h
    rintro _ ⟨⟩
    exact .of_checkLabel hlabel

/-- A label that may be left out is proper if it passes the check. -/
theorem ProperLabel.of_mapM_checkLabel? {label? checked? : Option String}
    (h : label?.mapM checkLabel = .ok checked?) : ∀ checked ∈ checked?, ProperLabel checked := by
  cases label? with
  | none =>
    cases h
    exact nofun
  | some label => exact of_some_checkLabel h

/-- The type of an edge is proper if it passes the check. -/
theorem ProperLabel.of_checkType {labels : List String} {type? : Option String}
    (h : checkType labels = .ok type?) : ∀ type ∈ type?, ProperLabel type := by
  rcases labels with _ | ⟨label, _ | ⟨other, rest⟩⟩
  · cases h
    exact nofun
  · exact of_some_checkLabel h
  · cases h

namespace Gateway

/-- The configured type is checked as a label where none is given. -/
theorem typeOfNew_nil (gateway : Gateway) :
    typeOfNew gateway [] = checkLabel gateway.settings.defaultEdgeLabel := by
  simp only [typeOfNew, checkType, bind, Except.bind]

/-- A type that is given is checked as a label. -/
theorem typeOfNew_singleton (gateway : Gateway) (label : String) :
    typeOfNew gateway [label] = checkLabel label := by
  rw [typeOfNew, checkType]
  cases checkLabel label <;> rfl

/-- The type of a new edge is not blank. -/
theorem isBlankText_typeOfNew {gateway : Gateway} {labels : List String} {type : String}
    (h : typeOfNew gateway labels = .ok type) : Text.isBlankText type = false := by
  rcases labels with _ | ⟨label, _ | ⟨other, rest⟩⟩
  · rw [typeOfNew_nil] at h
    exact (checkLabel_eq_ok_iff.mp h).2
  · rw [typeOfNew_singleton] at h
    exact (checkLabel_eq_ok_iff.mp h).2
  · cases h

/-- The type of a new edge is proper, also where it is the configured one. -/
theorem properLabel_typeOfNew {gateway : Gateway} {labels : List String} {type : String}
    (h : typeOfNew gateway labels = .ok type) : ProperLabel type := by
  rcases labels with _ | ⟨label, _ | ⟨other, rest⟩⟩
  · rw [typeOfNew_nil] at h
    exact .of_checkLabel h
  · rw [typeOfNew_singleton] at h
    exact .of_checkLabel h
  · cases h

/-- The labels of a new node are proper, also where there is but the configured one. -/
theorem properLabel_labelsOfNew {gateway : Gateway} {labels checked : List String}
    (h : labelsOfNew gateway labels = .ok checked) : ∀ label ∈ checked, ProperLabel label := by
  unfold labelsOfNew at h
  split at h
  next =>
    cases hlabel : checkLabel gateway.settings.defaultNodeLabel with
    | error error =>
      rw [hlabel] at h
      cases h
    | ok label =>
      rw [hlabel] at h
      cases h
      exact List.forall_mem_singleton.mpr (.of_checkLabel hlabel)
  next => exact .of_mapM_checkLabel h

end Gateway

end GraphGateway
