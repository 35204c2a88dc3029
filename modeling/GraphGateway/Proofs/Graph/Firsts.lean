/-!
# First elements under their keys

The elements of a list whose key has not occurred before, in order. A collection that ignores an
element with a known key and appends every other holds exactly these.
-/

namespace GraphGateway

variable {α : Type}

/-- The first element under each key, in the order of the list. -/
def firstsBy (key : α → String) : List α → List α
  | [] => []
  | first :: rest => first :: (firstsBy key rest).filter fun other => key other != key first

/-- Every key that occurs has a first element. -/
theorem mem_map_firstsBy {key : α → String} {values : List α} {name : String} :
    name ∈ (firstsBy key values).map key ↔ name ∈ values.map key := by
  induction values with
  | nil => rfl
  | cons first rest ih =>
    by_cases heq : name = key first
    · simp [firstsBy, heq]
    · rw [List.map_cons, List.mem_cons, ← ih]
      simp only [firstsBy, List.map_cons, List.mem_cons, heq, false_or, List.mem_map,
        List.mem_filter, bne_iff_ne]
      constructor
      · rintro ⟨value, ⟨hvalue, -⟩, hkey⟩
        exact ⟨value, hvalue, hkey⟩
      · rintro ⟨value, hvalue, hkey⟩
        exact ⟨value, ⟨hvalue, hkey ▸ heq⟩, hkey⟩

/-- No key has two first elements. -/
theorem nodup_map_firstsBy (key : α → String) (values : List α) :
    ((firstsBy key values).map key).Nodup := by
  induction values with
  | nil => exact List.nodup_nil
  | cons first rest ih =>
    rw [firstsBy, List.map_cons, List.nodup_cons]
    constructor
    · simp
    · exact List.Sublist.nodup (List.filter_sublist.map key) ih

/-- Every first element is one of the elements. -/
theorem mem_of_mem_firstsBy {key : α → String} {values : List α} {value : α}
    (h : value ∈ firstsBy key values) : value ∈ values := by
  induction values with
  | nil => exact h
  | cons first rest ih =>
    rcases List.mem_cons.mp h with rfl | hrest
    · exact List.mem_cons_self
    · exact List.mem_cons_of_mem _ (ih (List.mem_filter.mp hrest).1)

/-- Where elements with one key are equal, every element is a first one. -/
theorem mem_firstsBy_iff {key : α → String} {values : List α}
    (hagree : ∀ a ∈ values, ∀ b ∈ values, key a = key b → a = b) {value : α} :
    value ∈ firstsBy key values ↔ value ∈ values := by
  refine ⟨mem_of_mem_firstsBy, fun hmem => ?_⟩
  have hkey : key value ∈ (firstsBy key values).map key :=
    mem_map_firstsBy.mpr (List.mem_map_of_mem hmem)
  obtain ⟨first, hfirst, heq⟩ := List.mem_map.mp hkey
  rwa [hagree value hmem first (mem_of_mem_firstsBy hfirst) heq.symm]

/-- A value at the end of a list counts just when its key is new. -/
theorem firstsBy_append_singleton (key : α → String) (values : List α) (value : α) :
    firstsBy key (values ++ [value]) =
      if key value ∈ values.map key then firstsBy key values
      else firstsBy key values ++ [value] := by
  induction values with
  | nil => simp [firstsBy]
  | cons first rest ih =>
    by_cases heq : key value = key first
    · have hdropped : (firstsBy key (rest ++ [value])).filter (fun other => key other != key first)
          = (firstsBy key rest).filter fun other => key other != key first := by
        rw [ih]
        split
        · rfl
        · simp [heq]
      simp [firstsBy, hdropped, heq]
    · simp only [List.cons_append, firstsBy, ih, List.map_cons, List.mem_cons, heq, false_or]
      split
      · rfl
      · simp [heq]

/-- A look-up among the first values finds the first value with a key. -/
theorem find?_firstsBy (key : α → String) (values : List α) (name : String) :
    (firstsBy key values).find? (fun value => key value == name) =
      values.find? fun value => key value == name := by
  induction values with
  | nil => rfl
  | cons first rest ih =>
    rw [firstsBy, List.find?_cons, List.find?_cons, ← ih]
    by_cases heq : key first = name
    · simp only [heq, beq_self_eq_true]
    · -- Nothing that is looked for was dropped for having the key of the first value.
      have hkept (value : α) :
          (key value != key first) = true ∧ (key value == name) = true ↔
            (key value == name) = true :=
        and_iff_right_of_imp fun hname => bne_iff_ne.mpr fun hfirst =>
          heq (hfirst.symm.trans (beq_iff_eq.mp hname))
      simp only [beq_eq_false_iff_ne.mpr heq, List.find?_filter, hkept, Bool.decide_eq_true]

/-- Where no key occurs twice, a look-up finds the value with a key. -/
theorem find?_key_eq_some_iff {key : α → String} {values : List α}
    (hnodup : (values.map key).Nodup) {name : String} {value : α} :
    values.find? (fun other => key other == name) = some value ↔
      value ∈ values ∧ key value = name := by
  induction values with
  | nil => simp
  | cons first rest ih =>
    obtain ⟨hfirst, hrest⟩ := List.nodup_cons.mp hnodup
    rw [List.find?_cons, List.mem_cons]
    by_cases heq : key first = name
    · have hbeq : (key first == name) = true := beq_iff_eq.mpr heq
      simp only [hbeq, Option.some.injEq]
      constructor
      · rintro rfl
        exact ⟨Or.inl rfl, heq⟩
      · rintro ⟨rfl | hmem, hkey⟩
        · rfl
        · exact absurd (List.mem_map.mpr ⟨value, hmem, hkey.trans heq.symm⟩) hfirst
    · have hbeq : (key first == name) = false := beq_eq_false_iff_ne.mpr heq
      simp only [hbeq, ih hrest]
      constructor
      · exact fun ⟨hmem, hkey⟩ => ⟨Or.inr hmem, hkey⟩
      · rintro ⟨rfl | hmem, hkey⟩
        · exact absurd hkey heq
        · exact ⟨hmem, hkey⟩

end GraphGateway
