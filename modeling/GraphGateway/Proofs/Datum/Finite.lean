import GraphGateway.Datum.Json

/-!
# What JSON keeps of a value

Of a property value, JSON keeps everything but the numbers that are not finite: they become null, at
any depth, and so are told apart neither from each other nor from null. Integers stay integers and
double-precision numbers stay what they are, to the bit. Main statement: two values have one JSON
form just when they agree up to such numbers.
-/

namespace GraphGateway.Datum

mutual

/-- The value with null in place of every number that is not finite. -/
def finite : Datum → Datum
  | null => null
  | boolean value => boolean value
  | integer value => integer value
  | float value => if value.isFinite then float value else null
  | text value => text value
  | list items => list (finiteItems items)
  | map entries => map (finiteEntries entries)

/-- The items with null in place of every number that is not finite. -/
def finiteItems : List Datum → List Datum
  | [] => []
  | item :: rest => finite item :: finiteItems rest

/-- The entries with null in place of every number that is not finite. -/
def finiteEntries : List (String × Datum) → List (String × Datum)
  | [] => []
  | (key, value) :: rest => (key, finite value) :: finiteEntries rest

end

/-- A 64-bit integer is read back as itself. -/
theorem int64?_toInt (n : Int64) : int64? n.toInt = some n := by
  rw [int64?, if_pos ⟨Int64.le_toInt n, Int64.toInt_le n⟩, Int64.ofInt_toInt]

mutual

/-- Reading the JSON form of a value gives the value back, up to numbers that are not finite. -/
theorem ofJson_toJson : ∀ value : Datum, ofJson value.toJson = value.finite
  | null => rfl
  | boolean _ => rfl
  | integer value => by rw [toJson, ofJson, int64?_toInt, finite]
  | float value => by
    rw [toJson, finite]
    split <;> rfl
  | text _ => rfl
  | list items => by rw [toJson, ofJson, itemsOfJson_itemsToJson items, finite]
  | map entries => by rw [toJson, ofJson, entriesOfJson_entriesToJson entries, finite]

/-- Reading the JSON forms of items gives the items back, up to numbers that are not finite. -/
theorem itemsOfJson_itemsToJson :
    ∀ items : List Datum, itemsOfJson (itemsToJson items) = finiteItems items
  | [] => rfl
  | item :: rest => by
    rw [itemsToJson, itemsOfJson, ofJson_toJson item, itemsOfJson_itemsToJson rest, finiteItems]

/-- Reading the JSON forms of entries gives the entries back, up to numbers that are not finite. -/
theorem entriesOfJson_entriesToJson :
    ∀ entries : List (String × Datum),
      entriesOfJson (entriesToJson entries) = finiteEntries entries
  | [] => rfl
  | (key, value) :: rest => by
    rw [entriesToJson, entriesOfJson, ofJson_toJson value, entriesOfJson_entriesToJson rest,
      finiteEntries]

end

mutual

/-- A number that is not finite has the JSON form of null. -/
theorem toJson_finite : ∀ value : Datum, value.finite.toJson = value.toJson
  | null => rfl
  | boolean _ => rfl
  | integer _ => rfl
  | float value => by
    rw [toJson, finite]
    split
    next hfinite => rw [toJson, if_pos hfinite]
    · rfl
  | text _ => rfl
  | list items => by rw [finite, toJson, itemsToJson_finiteItems items, toJson]
  | map entries => by rw [finite, toJson, entriesToJson_finiteEntries entries, toJson]

/-- Among items, a number that is not finite has the JSON form of null. -/
theorem itemsToJson_finiteItems :
    ∀ items : List Datum, itemsToJson (finiteItems items) = itemsToJson items
  | [] => rfl
  | item :: rest => by
    rw [finiteItems, itemsToJson, toJson_finite item, itemsToJson_finiteItems rest, itemsToJson]

/-- Among entries, a number that is not finite has the JSON form of null. -/
theorem entriesToJson_finiteEntries :
    ∀ entries : List (String × Datum), entriesToJson (finiteEntries entries) = entriesToJson entries
  | [] => rfl
  | (key, value) :: rest => by
    rw [finiteEntries, entriesToJson, toJson_finite value, entriesToJson_finiteEntries rest,
      entriesToJson]

end

/-- Two values have one JSON form just when they agree up to numbers that are not finite. -/
theorem toJson_eq_toJson_iff {a b : Datum} : a.toJson = b.toJson ↔ a.finite = b.finite := by
  constructor
  · intro h
    rw [← ofJson_toJson a, h, ofJson_toJson b]
  · intro h
    rw [← toJson_finite a, h, toJson_finite b]

/-- Two values, either of which may be missing, have one JSON form just when they agree up to numbers
that are not finite. -/
theorem map_toJson_eq_map_toJson_iff {a? b? : Option Datum} :
    a?.map toJson = b?.map toJson ↔ a?.map finite = b?.map finite := by
  cases a? <;> cases b? <;> simp [toJson_eq_toJson_iff]

end GraphGateway.Datum
