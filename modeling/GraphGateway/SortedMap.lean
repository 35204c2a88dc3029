/-!
# Maps with sorted text keys

A finite map from texts to values, held as its entries in the order of the keys, each key once. The
order is that of the code points, which is also the byte order of the encoded texts. Two maps with
the same look-ups are equal, so a map is its contents and remembers nothing of how it was built.
-/

namespace GraphGateway

/-- The value of the first entry with a key. -/
def lookupEntry {α : Type} (key : String) : List (String × α) → Option α
  | [] => none
  | (k, value) :: rest => if k = key then some value else lookupEntry key rest

/-- Entries with one more, put in its place; an entry with the same key is replaced. -/
def insertEntry {α : Type} (key : String) (value : α) : List (String × α) → List (String × α)
  | [] => [(key, value)]
  | (k, v) :: rest =>
    if key = k then (key, value) :: rest
    else if key < k then (key, value) :: (k, v) :: rest
    else (k, v) :: insertEntry key value rest

/-- An inserted list holds nothing but the new entry and the old ones. -/
theorem mem_insertEntry {α : Type} {key : String} {value : α} {entry : String × α}
    {entries : List (String × α)} (h : entry ∈ insertEntry key value entries) :
    entry = (key, value) ∨ entry ∈ entries := by
  induction entries with
  | nil => simpa [insertEntry] using h
  | cons head rest ih =>
    obtain ⟨k, v⟩ := head
    rw [insertEntry] at h
    split at h
    · rcases List.mem_cons.1 h with h | h
      · exact .inl h
      · exact .inr (List.mem_cons_of_mem _ h)
    · split at h
      · rcases List.mem_cons.1 h with h | h
        · exact .inl h
        · exact .inr h
      · rcases List.mem_cons.1 h with h | h
        · exact .inr (h ▸ List.mem_cons_self)
        · rcases ih h with h | h
          · exact .inl h
          · exact .inr (List.mem_cons_of_mem _ h)

/-- Insertion keeps the keys in strict order. -/
theorem pairwise_insertEntry {α : Type} (key : String) (value : α) {entries : List (String × α)}
    (h : entries.Pairwise (fun a b => a.1 < b.1)) :
    (insertEntry key value entries).Pairwise (fun a b => a.1 < b.1) := by
  induction entries with
  | nil => simp [insertEntry]
  | cons head rest ih =>
    obtain ⟨k, v⟩ := head
    obtain ⟨hhead, hrest⟩ := List.pairwise_cons.1 h
    rw [insertEntry]
    split
    next heq => exact List.pairwise_cons.2 ⟨fun b hb => heq ▸ hhead b hb, hrest⟩
    next hne =>
      split
      next hlt =>
        refine List.pairwise_cons.2 ⟨fun b hb => ?_, h⟩
        rcases List.mem_cons.1 hb with rfl | hb
        · exact hlt
        · exact String.lt_trans hlt (hhead b hb)
      next hge =>
        refine List.pairwise_cons.2 ⟨fun b hb => ?_, ih hrest⟩
        rcases mem_insertEntry hb with rfl | hb
        · exact String.not_le.1 fun hle => hne (String.le_antisymm hle (String.not_lt.1 hge))
        · exact hhead b hb

/-- A finite map from texts to values, its entries in the strict order of the keys. -/
structure SortedMap (α : Type) where
  entries : List (String × α)
  sorted : entries.Pairwise (fun a b => a.1 < b.1) := by simp

namespace SortedMap

variable {α β : Type}

/-- The map without entries. -/
def empty : SortedMap α := { entries := [] }

instance : EmptyCollection (SortedMap α) := ⟨empty⟩

instance : Inhabited (SortedMap α) := ⟨empty⟩

/-- The value under a key. -/
def get? (map : SortedMap α) (key : String) : Option α := lookupEntry key map.entries

/-- The map with a value under a key, whatever was there before. -/
def insert (map : SortedMap α) (key : String) (value : α) : SortedMap α :=
  ⟨insertEntry key value map.entries, pairwise_insertEntry key value map.sorted⟩

/-- The map of a list of entries; of two with one key the later counts. -/
def ofList (entries : List (String × α)) : SortedMap α :=
  entries.foldl (fun map entry => map.insert entry.1 entry.2) empty

/-- The keys, in order. -/
def keys (map : SortedMap α) : List String := map.entries.map (·.1)

/-- The number of entries. -/
def size (map : SortedMap α) : Nat := map.entries.length

/-- The entries whose key is kept. -/
def filterKeys (keep : String → Bool) (map : SortedMap α) : SortedMap α :=
  ⟨map.entries.filter fun entry => keep entry.1, map.sorted.filter _⟩

/-- The map with every value replaced by its image. -/
def mapValues (f : α → β) (map : SortedMap α) : SortedMap β :=
  ⟨map.entries.map fun entry => (entry.1, f entry.2), by
    rw [List.pairwise_map]
    exact map.sorted⟩

end SortedMap

end GraphGateway
