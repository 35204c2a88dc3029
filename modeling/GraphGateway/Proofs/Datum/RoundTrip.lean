import GraphGateway.Proofs.Datum.Finite

/-!
# Values through JSON, and documents through values

Writing a value as JSON and reading it back loses the numbers that are not finite, and only them;
reading a document as a value and writing it back loses the numbers that no value can hold as they
are, and only them. Main statement: both ways, what comes back is the same just where there are no
such numbers, at any depth.
-/

namespace GraphGateway

namespace Datum

mutual

/-- Every double-precision number in the value is finite, at any depth. -/
def AllFinite : Datum → Prop
  | null => True
  | boolean _ => True
  | integer _ => True
  | float value => value.isFinite = true
  | text _ => True
  | list items => AllFiniteItems items
  | map entries => AllFiniteEntries entries

/-- Every double-precision number in the items is finite. -/
def AllFiniteItems : List Datum → Prop
  | [] => True
  | item :: rest => AllFinite item ∧ AllFiniteItems rest

/-- Every double-precision number in the entries is finite. -/
def AllFiniteEntries : List (String × Datum) → Prop
  | [] => True
  | (_, value) :: rest => AllFinite value ∧ AllFiniteEntries rest

end

mutual

/-- Nothing has to be replaced just where all numbers are finite. -/
theorem finite_eq_self_iff : ∀ value : Datum, value.finite = value ↔ value.AllFinite
  | null => by simp only [finite, AllFinite]
  | boolean _ => by simp only [finite, AllFinite]
  | integer _ => by simp only [finite, AllFinite]
  | float value => by
    cases hfinite : value.isFinite <;> simp [finite, AllFinite, hfinite]
  | text _ => by simp only [finite, AllFinite]
  | list items => by rw [finite, list.injEq, finiteItems_eq_self_iff items, AllFinite]
  | map entries => by rw [finite, map.injEq, finiteEntries_eq_self_iff entries, AllFinite]

/-- No item has to be changed just where all numbers are finite. -/
theorem finiteItems_eq_self_iff :
    ∀ items : List Datum, finiteItems items = items ↔ AllFiniteItems items
  | [] => by simp only [finiteItems, AllFiniteItems]
  | item :: rest => by
    rw [finiteItems, List.cons.injEq, finite_eq_self_iff item, finiteItems_eq_self_iff rest,
      AllFiniteItems]

/-- No entry has to be changed just where all numbers are finite. -/
theorem finiteEntries_eq_self_iff :
    ∀ entries : List (String × Datum), finiteEntries entries = entries ↔ AllFiniteEntries entries
  | [] => by simp only [finiteEntries, AllFiniteEntries]
  | (key, value) :: rest => by
    rw [finiteEntries, List.cons.injEq, Prod.mk.injEq, finite_eq_self_iff value,
      finiteEntries_eq_self_iff rest, AllFiniteEntries, eq_self, true_and]

end

/-- The numbers in entries are finite just where those in each of their values are. -/
theorem allFiniteEntries_iff {entries : List (String × Datum)} :
    AllFiniteEntries entries ↔ ∀ entry ∈ entries, entry.2.AllFinite := by
  induction entries with
  | nil => simp [AllFiniteEntries]
  | cons entry rest ih => rw [AllFiniteEntries, ih, List.forall_mem_cons]

/-- A value without numbers that are not finite is read back from its JSON form. -/
theorem ofJson_toJson_of_allFinite {value : Datum} (h : value.AllFinite) :
    ofJson value.toJson = value := by
  rw [ofJson_toJson, (finite_eq_self_iff value).mpr h]

end Datum

namespace Json

mutual

/-- Every number in the document is one that a value can hold as it is, at any depth: an integer of
64 bits, or a double-precision number, of which only the finite ones can be written in JSON. -/
def Storable : Json → Prop
  | null => True
  | bool _ => True
  | integer value => Int64.minValue.toInt ≤ value ∧ value ≤ Int64.maxValue.toInt
  | double value => value.isFinite = true
  | string _ => True
  | array items => StorableItems items
  | object members => StorableMembers members

/-- Every number in the items is one that a value can hold. -/
def StorableItems : List Json → Prop
  | [] => True
  | item :: rest => Storable item ∧ StorableItems rest

/-- Every number in the members is one that a value can hold. -/
def StorableMembers : List (String × Json) → Prop
  | [] => True
  | (_, value) :: rest => Storable value ∧ StorableMembers rest

end

end Json

namespace Datum

/-- The 64-bit integer that stands for an integer is equal to it. -/
theorem toInt_of_int64? {n : Int} {value : Int64} (h : int64? n = some value) :
    value.toInt = n := by
  unfold int64? at h
  split at h
  next hrange =>
    obtain ⟨hlow, hhigh⟩ := hrange
    have hmin : Int64.minValue.toInt = -2 ^ 63 := by decide
    have hmax : Int64.maxValue.toInt = 2 ^ 63 - 1 := by decide
    rw [← Option.some.inj h]
    exact Int64.toInt_ofInt_of_le (by omega) (by omega)
  next => cases h

/-- An integer is read and written back just where it has 64 bits; a larger one becomes a
double-precision number. -/
theorem toJson_ofJson_integer_iff (n : Int) :
    (ofJson (.integer n)).toJson = .integer n ↔ (Json.integer n).Storable := by
  rw [ofJson, Json.Storable]
  by_cases hrange : Int64.minValue.toInt ≤ n ∧ n ≤ Int64.maxValue.toInt
  · have hread : int64? n = some (Int64.ofInt n) := if_pos hrange
    simp only [hread, toJson, toInt_of_int64? hread, hrange, and_self]
  · have hread : int64? n = none := if_neg hrange
    simp only [hread, toJson, hrange, iff_false]
    split <;> nofun

mutual

/-- A document is read as a value and written back just where a value can hold its numbers. -/
theorem toJson_ofJson_iff : ∀ json : Json, (ofJson json).toJson = json ↔ json.Storable
  | .null => by simp only [ofJson, toJson, Json.Storable]
  | .bool _ => by simp only [ofJson, toJson, Json.Storable]
  | .integer n => toJson_ofJson_integer_iff n
  | .double value => by
    cases hfinite : value.isFinite <;> simp [ofJson, toJson, Json.Storable, hfinite]
  | .string _ => by simp only [ofJson, toJson, Json.Storable]
  | .array items => by
    rw [ofJson, toJson, Json.array.injEq, itemsToJson_itemsOfJson_iff items, Json.Storable]
  | .object members => by
    rw [ofJson, toJson, Json.object.injEq, entriesToJson_entriesOfJson_iff members, Json.Storable]

/-- Items are read and written back just where values can hold their numbers. -/
theorem itemsToJson_itemsOfJson_iff :
    ∀ items : List Json, itemsToJson (itemsOfJson items) = items ↔ Json.StorableItems items
  | [] => by simp only [itemsOfJson, itemsToJson, Json.StorableItems]
  | item :: rest => by
    rw [itemsOfJson, itemsToJson, List.cons.injEq, toJson_ofJson_iff item,
      itemsToJson_itemsOfJson_iff rest, Json.StorableItems]

/-- Members are read and written back just where values can hold their numbers. -/
theorem entriesToJson_entriesOfJson_iff :
    ∀ members : List (String × Json),
      entriesToJson (entriesOfJson members) = members ↔ Json.StorableMembers members
  | [] => by simp only [entriesOfJson, entriesToJson, Json.StorableMembers]
  | (key, value) :: rest => by
    rw [entriesOfJson, entriesToJson, List.cons.injEq, Prod.mk.injEq, toJson_ofJson_iff value,
      entriesToJson_entriesOfJson_iff rest, Json.StorableMembers, eq_self, true_and]

end

/-- A value that is written as JSON and read back has null in place of exactly the numbers that are
not finite, at any depth, and is the same just where there are none: all integers stay integers, and
finite double-precision numbers, whole ones too, stay what they are to the bit. A document that is
read as a value and written back is the same just where a value can hold its numbers. -/
theorem lossless_up_to_numbers :
    (∀ value : Datum, ofJson value.toJson = value.finite ∧
      (ofJson value.toJson = value ↔ value.AllFinite)) ∧
    (∀ n : Int64, ofJson (integer n).toJson = integer n) ∧
    (∀ x : Binary64, ofJson (float x).toJson = if x.isFinite then float x else null) ∧
    ∀ json : Json, (ofJson json).toJson = json ↔ json.Storable := by
  refine ⟨fun value => ⟨ofJson_toJson value, ?_⟩, fun n => ?_, fun x => ?_, toJson_ofJson_iff⟩
  · rw [ofJson_toJson, finite_eq_self_iff]
  · exact ofJson_toJson_of_allFinite trivial
  · rw [ofJson_toJson, finite]

end Datum

end GraphGateway
