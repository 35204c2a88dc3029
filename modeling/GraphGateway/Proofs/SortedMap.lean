import GraphGateway.Datum.Basic

/-!
# Looking up what was inserted

Maps described by their look-ups alone: what insertion, dropping keys and replacing values change
about them, and which keys there are.
-/

namespace GraphGateway

variable {α : Type}

/-- After inserting into entries, the inserted key has its value and every other key what it had. -/
theorem lookupEntry_insertEntry (key other : String) (value : α) (entries : List (String × α)) :
    lookupEntry other (insertEntry key value entries) =
      if other = key then some value else lookupEntry other entries := by
  induction entries with
  | nil => simp [insertEntry, lookupEntry, eq_comm]
  | cons entry rest ih =>
    obtain ⟨k, v⟩ := entry
    rw [insertEntry]
    by_cases hother : other = key
    · subst hother
      split
      next => simp [lookupEntry]
      next hkey =>
        split
        next => simp [lookupEntry]
        next => simp [lookupEntry, Ne.symm hkey, ih]
    · split
      next hkey => simp [lookupEntry, Ne.symm hother, ← hkey]
      next =>
        split
        next => simp [lookupEntry, Ne.symm hother]
        next => simp [lookupEntry, hother, ih]

/-- After dropping keys, the kept ones have what they had. -/
theorem lookupEntry_filter (keep : String → Bool) (key : String) (entries : List (String × α)) :
    lookupEntry key (entries.filter fun entry => keep entry.1) =
      if keep key then lookupEntry key entries else none := by
  induction entries with
  | nil => simp [lookupEntry]
  | cons entry rest ih =>
    obtain ⟨k, v⟩ := entry
    by_cases heq : k = key
    · subst heq
      cases hkeep : keep k <;> simp [lookupEntry, hkeep, ih]
    · cases hkeep : keep k <;> simp [lookupEntry, hkeep, ih, heq]

/-- After replacing the values, a key has the image of what it had. -/
theorem lookupEntry_map {β : Type} (f : α → β) (key : String) (entries : List (String × α)) :
    lookupEntry key (entries.map fun entry => (entry.1, f entry.2)) =
      (lookupEntry key entries).map f := by
  induction entries with
  | nil => rfl
  | cons entry rest ih =>
    simp only [List.map_cons, lookupEntry, ih]
    split <;> rfl

/-- After inserting into entries, the inserted key is there besides the old ones. -/
theorem mem_keys_insertEntry (key other : String) (value : α) (entries : List (String × α)) :
    other ∈ (insertEntry key value entries).map (·.1) ↔
      other = key ∨ other ∈ entries.map (·.1) := by
  induction entries with
  | nil => simp [insertEntry]
  | cons entry rest ih =>
    obtain ⟨k, v⟩ := entry
    rw [insertEntry]
    split
    next heq => simp [heq]
    next =>
      split
      next => simp
      next => rw [List.map_cons, List.mem_cons, ih, List.map_cons, List.mem_cons, or_left_comm]

/-- A key before all keys of the entries is not found. -/
theorem lookupEntry_eq_none_of_lt {key : String} {entries : List (String × α)}
    (h : ∀ entry ∈ entries, key < entry.1) : lookupEntry key entries = none := by
  induction entries with
  | nil => rfl
  | cons entry rest ih =>
    have hne : entry.1 ≠ key := fun heq => String.lt_irrefl _ (heq ▸ h entry List.mem_cons_self)
    rw [lookupEntry, if_neg hne]
    exact ih fun other hother => h other (List.mem_cons_of_mem _ hother)

/-- A key that no entry has is not found. -/
theorem lookupEntry_eq_none_of_notMem {key : String} {entries : List (String × α)}
    (h : key ∉ entries.map (·.1)) : lookupEntry key entries = none := by
  induction entries with
  | nil => rfl
  | cons entry rest ih =>
    rw [List.map_cons, List.mem_cons, not_or] at h
    rw [lookupEntry, if_neg (Ne.symm h.1)]
    exact ih h.2

/-- Among entries with distinct keys, a key is found with the value that stands beside it. -/
theorem lookupEntry_eq_some_iff {key : String} {value : α} {entries : List (String × α)}
    (hnodup : (entries.map (·.1)).Nodup) :
    lookupEntry key entries = some value ↔ (key, value) ∈ entries := by
  induction entries with
  | nil => simp [lookupEntry]
  | cons entry rest ih =>
    obtain ⟨k, v⟩ := entry
    obtain ⟨hfirst, hrest⟩ := List.nodup_cons.mp hnodup
    rw [lookupEntry, List.mem_cons, Prod.mk.injEq]
    by_cases heq : k = key
    · have hother : (key, value) ∉ rest := by
        intro hmem
        apply hfirst
        exact List.mem_map.mpr ⟨(key, value), hmem, heq.symm⟩
      simp [heq, hother, eq_comm]
    · simp [heq, Ne.symm heq, ih hrest]

/-- No key that is found stands before the first of sorted entries. -/
private theorem le_of_lookupEntry_eq_some {key : String} {value : α} {first : String × α}
    {rest : List (String × α)} (hsorted : (first :: rest).Pairwise fun a b => a.1 < b.1)
    (h : lookupEntry key (first :: rest) = some value) : first.1 ≤ key := by
  refine String.not_lt.mp fun hlt => ?_
  have habove : ∀ entry ∈ first :: rest, key < entry.1 :=
    List.forall_mem_cons.mpr
      ⟨hlt, fun entry hentry => String.lt_trans hlt (List.rel_of_pairwise_cons hsorted hentry)⟩
  rw [lookupEntry_eq_none_of_lt habove] at h
  cases h

/-- Sorted entries with the same look-ups are the same. -/
theorem eq_of_lookupEntry_eq {a b : List (String × α)} (ha : a.Pairwise fun a b => a.1 < b.1)
    (hb : b.Pairwise fun a b => a.1 < b.1) (h : ∀ key, lookupEntry key a = lookupEntry key b) :
    a = b := by
  induction a generalizing b with
  | nil =>
    cases b with
    | nil => rfl
    | cons first rest => simpa [lookupEntry] using h first.1
  | cons head tail ih =>
    cases b with
    | nil => simpa [lookupEntry] using h head.1
    | cons first rest =>
      have hhead : lookupEntry head.1 (head :: tail) = some head.2 := by simp [lookupEntry]
      have hfirst : lookupEntry first.1 (first :: rest) = some first.2 := by simp [lookupEntry]
      have hkeys : head.1 = first.1 :=
        String.le_antisymm (le_of_lookupEntry_eq_some ha ((h _).trans hfirst))
          (le_of_lookupEntry_eq_some hb ((h _).symm.trans hhead))
      have hvalues : head.2 = first.2 := by
        rw [h, hkeys, hfirst] at hhead
        exact (Option.some.inj hhead).symm
      have htails : tail = rest := by
        refine ih ha.of_cons hb.of_cons fun key => ?_
        by_cases heq : head.1 = key
        · rw [lookupEntry_eq_none_of_lt fun entry hentry =>
              heq ▸ List.rel_of_pairwise_cons ha hentry,
            lookupEntry_eq_none_of_lt fun entry hentry =>
              heq ▸ hkeys ▸ List.rel_of_pairwise_cons hb hentry]
        · have hkey := h key
          rwa [lookupEntry, if_neg heq, lookupEntry, if_neg (hkeys ▸ heq)] at hkey
      rw [htails, Prod.ext hkeys hvalues]

namespace SortedMap

/-- Maps with the same look-ups are the same. -/
theorem ext_get? {a b : SortedMap α} (h : ∀ key, a.get? key = b.get? key) : a = b := by
  obtain ⟨entries, hsorted⟩ := a
  obtain ⟨others, hothers⟩ := b
  obtain rfl : entries = others := eq_of_lookupEntry_eq hsorted hothers h
  rfl

/-- The inserted key has its value and every other key what it had. -/
theorem get?_insert (map : SortedMap α) (key other : String) (value : α) :
    (map.insert key value).get? other = if other = key then some value else map.get? other :=
  lookupEntry_insertEntry key other value map.entries

/-- The kept keys have what they had. -/
theorem get?_filterKeys (keep : String → Bool) (map : SortedMap α) (key : String) :
    (map.filterKeys keep).get? key = if keep key then map.get? key else none :=
  lookupEntry_filter keep key map.entries

/-- A key has the image of what it had. -/
theorem get?_mapValues {β : Type} (f : α → β) (map : SortedMap α) (key : String) :
    (map.mapValues f).get? key = (map.get? key).map f :=
  lookupEntry_map f key map.entries

/-- The keys of a map are distinct. -/
theorem nodup_keys (map : SortedMap α) : map.keys.Nodup := by
  rw [keys, List.Nodup, List.pairwise_map]
  apply map.sorted.imp
  intro a b hlt heq
  rw [heq] at hlt
  exact String.lt_irrefl _ hlt

/-- The entries of a map are its keys beside their values. -/
theorem mem_entries_iff {map : SortedMap α} {key : String} {value : α} :
    (key, value) ∈ map.entries ↔ map.get? key = some value :=
  (lookupEntry_eq_some_iff map.nodup_keys).symm

/-- The keys of a map are those that have a value. -/
theorem mem_keys_iff {map : SortedMap α} {key : String} :
    key ∈ map.keys ↔ (map.get? key).isSome = true := by
  rw [keys, List.mem_map, Option.isSome_iff_exists]
  constructor
  · rintro ⟨⟨found, value⟩, hmem, rfl⟩
    exact ⟨value, mem_entries_iff.mp hmem⟩
  · rintro ⟨value, hvalue⟩
    exact ⟨(key, value), mem_entries_iff.mpr hvalue, rfl⟩

/-- Inserting entries with distinct keys one after the other gives each key the value beside it. -/
private theorem get?_foldl_insert {entries : List (String × α)}
    (hnodup : (entries.map (·.1)).Nodup) (map : SortedMap α) (key : String) :
    (entries.foldl (fun map entry => map.insert entry.1 entry.2) map).get? key =
      (lookupEntry key entries).or (map.get? key) := by
  induction entries generalizing map with
  | nil => rfl
  | cons entry rest ih =>
    obtain ⟨hfirst, hrest⟩ := List.nodup_cons.mp hnodup
    rw [List.foldl_cons, ih hrest, get?_insert, lookupEntry]
    by_cases heq : key = entry.1
    · have hnone : lookupEntry entry.1 rest = none := lookupEntry_eq_none_of_notMem hfirst
      simp [heq, hnone]
    · simp [heq, Ne.symm heq]

/-- The map of entries with distinct keys has what stands beside each key. -/
theorem get?_ofList {entries : List (String × α)} (hnodup : (entries.map (·.1)).Nodup)
    (key : String) : (ofList entries).get? key = lookupEntry key entries := by
  rw [ofList, get?_foldl_insert hnodup]
  exact Option.or_none

/-- The inserted key is there besides the old ones. -/
@[simp] theorem mem_keys_insert {map : SortedMap α} {key other : String} {value : α} :
    other ∈ (map.insert key value).keys ↔ other = key ∨ other ∈ map.keys :=
  mem_keys_insertEntry key other value map.entries

/-- The map without entries has no keys. -/
@[simp] theorem keys_empty : keys ({} : SortedMap α) = [] := rfl

end SortedMap

/-- Without the reserved keys, the others have what they had. -/
theorem Properties.get?_withoutReserved (properties : Properties) (key : String) :
    properties.withoutReserved.get? key =
      if key = "id" ∨ key = "labels" then none else properties.get? key := by
  rw [withoutReserved, SortedMap.get?_filterKeys]
  by_cases hreserved : key = "id" ∨ key = "labels"
  · rw [if_pos hreserved]
    rcases hreserved with rfl | rfl <;> rfl
  · have hkept : (!reservedKeys.contains key) = true := by simpa [reservedKeys] using hreserved
    rw [if_neg hreserved, if_pos hkept]

end GraphGateway
