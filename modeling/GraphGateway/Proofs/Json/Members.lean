import GraphGateway.Json.Basic
import GraphGateway.Proofs.SortedMap

/-!
# Documents told by their parts

An object is told by what stands under each of its keys, and an array by its items. What was put
into a document under distinct keys, or item by item, is read back from it.
-/

namespace GraphGateway.Json

/-!
## Objects
-/

/-- The document is an object of just the members that are told, each key once. -/
def Holds (json : Json) (told : String → Option Json) : Prop :=
  ∃ members, json = object members ∧ (members.map (·.1)).Nodup ∧
    ∀ key value, (key, value) ∈ members ↔ told key = some value

/-- The object of a map holds what stands under its keys. -/
theorem holds_ofMap {map : SortedMap Json} {told : String → Option Json}
    (h : ∀ key, map.get? key = told key) : (ofMap map).Holds told := by
  refine ⟨map.entries, rfl, map.nodup_keys, ?_⟩
  intro key value
  rw [SortedMap.mem_entries_iff, h]

/-- A look-up among members with distinct keys finds what is told of them. -/
theorem lookupEntry_of_told {members : List (String × Json)} {told : String → Option Json}
    (hnodup : (members.map (·.1)).Nodup)
    (h : ∀ key value, (key, value) ∈ members ↔ told key = some value) (key : String) :
    lookupEntry key members = told key := by
  apply Option.ext
  intro value
  rw [lookupEntry_eq_some_iff hnodup, h]

/-- Under each key of an object stands what is told. -/
theorem Holds.member?_eq {json : Json} {told : String → Option Json} (h : json.Holds told)
    (key : String) : json.member? key = told key := by
  obtain ⟨members, rfl, hnodup, htold⟩ := h
  exact lookupEntry_of_told hnodup htold key

/-- Under each key of an object stands the member that it was made with. -/
theorem member?_ofMembers {members : List (String × Json)} (hnodup : (members.map (·.1)).Nodup)
    (key : String) : (ofMembers members).member? key = lookupEntry key members :=
  SortedMap.get?_ofList hnodup key

/-!
## Parts read back
-/

/-- The text, if the document is one. -/
def text? : Json → Option String
  | string value => some value
  | _ => none

/-- The natural number, if the document is one. -/
def natural? : Json → Option Nat
  | integer value => value.toNat?
  | _ => none

/-- The items, if the document is an array. -/
def items? : Json → Option (List Json)
  | array items => some items
  | _ => none

/-- Values that are each read back from what they were written as are read back together. -/
theorem mapM_map_eq_some {α : Type} {read : Json → Option α} {write : α → Json} {values : List α}
    (h : ∀ value ∈ values, read (write value) = some value) :
    (values.map write).mapM read = some values := by
  induction values with
  | nil => rfl
  | cons value rest ih =>
    obtain ⟨hvalue, hrest⟩ := List.forall_mem_cons.mp h
    rw [List.map_cons, List.mapM_cons, hvalue, ih hrest]
    rfl

/-- Texts are read back from the items that they were written as. -/
theorem mapM_text?_map_string (texts : List String) : (texts.map string).mapM text? = some texts :=
  mapM_map_eq_some fun _ _ => rfl

end GraphGateway.Json
