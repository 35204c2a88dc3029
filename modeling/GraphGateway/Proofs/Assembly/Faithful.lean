import GraphGateway.Proofs.Assembly.Outcome
import GraphGateway.Proofs.Assembly.Supply

/-!
# Ids tell elements apart

A supply whose ids are distinct, and differ from all that the elements carry, gives no two
identities the same new id. So two named elements have one id just when they have one identity or
their identities carry the same id. Nodes and relationships draw on one supply, but each kind is
looked at by itself: the laws are stated for a list of named elements of any kind.
-/

namespace GraphGateway

/-!
## Named elements of one kind
-/

section Kind

variable {α : Type} {identityOf : α → StoreId} {carriedOf : α → Option String}
  {start current : IdSupply} {named : List (α × String)} {value : α}

/-- Two of the elements are one and the same: they have one identity, or their identities carry the
same id. -/
def SameElement (identityOf : α → StoreId) (carriedOf : α → Option String) (values : List α)
    (a b : α) : Prop :=
  identityOf a = identityOf b ∨
    ∃ a' ∈ values, ∃ b' ∈ values, ∃ id, identityOf a' = identityOf a ∧
      identityOf b' = identityOf b ∧ carriedOf a' = some id ∧ carriedOf b' = some id

/-- The ids of named elements tell them apart, as far as they carry none: an identity has one id,
which is the one that it carries or else was drawn for it alone. -/
structure Faithful (identityOf : α → StoreId) (carriedOf : α → Option String)
    (start current : IdSupply) (named : List (α × String)) : Prop where
  same : ∀ {a b : α} {x y : String}, (a, x) ∈ named → (b, y) ∈ named →
    identityOf a = identityOf b → x = y
  carried : ∀ {a : α} {x id : String}, (a, x) ∈ named → carriedOf a = some id → id = x
  origin : ∀ {a : α} {x : String}, (a, x) ∈ named →
    (∃ b, (b, x) ∈ named ∧ identityOf b = identityOf a ∧ carriedOf b = some x) ∨
      ∃ n, start.used ≤ n ∧ n < current.used ∧ x = start.id n
  alone : ∀ {a b : α} {n : Nat}, start.used ≤ n → (a, start.id n) ∈ named →
    (b, start.id n) ∈ named → identityOf a = identityOf b

/-- What stands in a list with one more named element. -/
private theorem mem_append_named {other : α} {id x : String} :
    (other, x) ∈ named ++ [(value, id)] ↔ (other, x) ∈ named ∨ other = value ∧ x = id := by
  rw [List.mem_append, List.mem_singleton, Prod.mk.injEq]

namespace Faithful

/-- Nothing named is named faithfully. -/
theorem nil : Faithful identityOf carriedOf start current [] where
  same h := absurd h List.not_mem_nil
  carried h := absurd h List.not_mem_nil
  origin h := absurd h List.not_mem_nil
  alone _ h := absurd h List.not_mem_nil

/-- Ids drawn for elements of another kind change nothing. -/
theorem later {after : IdSupply} (hfaithful : Faithful identityOf carriedOf start current named)
    (hused : current.used ≤ after.used) :
    Faithful identityOf carriedOf start after named where
  same := hfaithful.same
  carried := hfaithful.carried
  origin hmem := (hfaithful.origin hmem).imp_right fun ⟨n, hstart, hdrawn, heq⟩ =>
    ⟨n, hstart, hdrawn.trans_le hused, heq⟩
  alone := hfaithful.alone

/-- A further element of a known identity is named like the earlier one. -/
theorem append_known (hfaithful : Faithful identityOf carriedOf start current named)
    {earlier : α} {id : String} (hearlier : (earlier, id) ∈ named)
    (hidentity : identityOf earlier = identityOf value)
    (hcarried : ∀ other, carriedOf value = some other → other = id) :
    Faithful identityOf carriedOf start current (named ++ [(value, id)]) := by
  -- Every entry of the longer list has a stand-in among the earlier ones.
  have hstand {a : α} {x : String} (hmem : (a, x) ∈ named ++ [(value, id)]) :
      ∃ b, (b, x) ∈ named ∧ identityOf b = identityOf a := by
    rcases mem_append_named.mp hmem with hold | ⟨rfl, rfl⟩
    · exact ⟨a, hold, rfl⟩
    · exact ⟨earlier, hearlier, hidentity⟩
  refine ⟨fun ha hb heq => ?_, fun ha hid => ?_, fun ha => ?_, fun hn ha hb => ?_⟩
  · obtain ⟨a', ha', haeq⟩ := hstand ha
    obtain ⟨b', hb', hbeq⟩ := hstand hb
    exact hfaithful.same ha' hb' (haeq.trans (heq.trans hbeq.symm))
  · rcases mem_append_named.mp ha with hold | ⟨rfl, rfl⟩
    · exact hfaithful.carried hold hid
    · exact hcarried _ hid
  · obtain ⟨a', ha', haeq⟩ := hstand ha
    rcases hfaithful.origin ha' with ⟨b, hb, hbeq, hid⟩ | hdrawn
    · exact Or.inl ⟨b, List.mem_append_left _ hb, hbeq.trans haeq, hid⟩
    · exact Or.inr hdrawn
  · obtain ⟨a', ha', haeq⟩ := hstand ha
    obtain ⟨b', hb', hbeq⟩ := hstand hb
    exact haeq.symm.trans ((hfaithful.alone hn ha' hb').trans hbeq)

/-- A further element of a new identity is named faithfully by any id that is its own or drawn for
it. -/
theorem append_new (hfaithful : Faithful identityOf carriedOf start current named) {id : String}
    (hnew : ∀ other x, (other, x) ∈ named → identityOf other ≠ identityOf value)
    (hcarried : ∀ other, carriedOf value = some other → other = id)
    (horigin : carriedOf value = some id ∨
      ∃ n, start.used ≤ n ∧ n < current.used ∧ id = start.id n)
    (halone : ∀ other n, start.used ≤ n → id = start.id n → (other, id) ∉ named) :
    Faithful identityOf carriedOf start current (named ++ [(value, id)]) := by
  refine ⟨fun ha hb heq => ?_, fun ha hid => ?_, fun ha => ?_, fun hn ha hb => ?_⟩
  · rcases mem_append_named.mp ha with hold | ⟨rfl, rfl⟩ <;>
      rcases mem_append_named.mp hb with hold' | ⟨rfl, rfl⟩
    · exact hfaithful.same hold hold' heq
    · exact absurd heq (hnew _ _ hold)
    · exact absurd heq.symm (hnew _ _ hold')
    · rfl
  · rcases mem_append_named.mp ha with hold | ⟨rfl, rfl⟩
    · exact hfaithful.carried hold hid
    · exact hcarried _ hid
  · rcases mem_append_named.mp ha with hold | ⟨rfl, rfl⟩
    · rcases hfaithful.origin hold with ⟨b, hb, hbeq, hid⟩ | hdrawn
      · exact Or.inl ⟨b, List.mem_append_left _ hb, hbeq, hid⟩
      · exact Or.inr hdrawn
    · exact horigin.imp_left fun hid => ⟨_, ha, rfl, hid⟩
  · rcases mem_append_named.mp ha with hold | ⟨rfl, hid⟩ <;>
      rcases mem_append_named.mp hb with hold' | ⟨rfl, hid'⟩
    · exact hfaithful.alone hn hold hold'
    · exact absurd (hid' ▸ hold) (halone _ _ hn hid'.symm)
    · exact absurd (hid ▸ hold') (halone _ _ hn hid.symm)
    · rfl

/-- An id not yet drawn has not been given to anything. -/
theorem not_mem_of_undrawn (hfaithful : Faithful identityOf carriedOf start current named)
    (hcontinues : current.Continues start) (hdistinct : start.Distinct)
    (hfresh : start.AvoidsCarried carriedOf (named.map (·.1))) (other : α) :
    (other, start.id current.used) ∉ named := by
  intro hmem
  rcases hfaithful.origin hmem with ⟨b, hb, -, hid⟩ | ⟨n, hstart, hdrawn, heq⟩
  · exact hfresh b (List.mem_map_of_mem hb) _ hid current.used hcontinues.used_le rfl
  · exact hdrawn.ne (hdistinct hcontinues.used_le hstart heq).symm

/-- Naming a further element as the identities before it, what it carries and the supply decide
keeps the naming faithful. -/
theorem append (hfaithful : Faithful identityOf carriedOf start current named)
    (hcontinues : current.Continues start) (hdistinct : start.Distinct)
    (hfresh : start.AvoidsCarried carriedOf (named.map (·.1)))
    (hvalue : ∀ id, carriedOf value = some id → start.Avoids id) {given? : Option String}
    (hgiven : (named.map fun entry => (identityOf entry.1, entry.2)).lookup (identityOf value) =
      given?)
    (hagrees : Agrees given? (carriedOf value)) :
    Faithful identityOf carriedOf start (current.choose given? (carriedOf value)).2
      (named ++ [(value, (current.choose given? (carriedOf value)).1)]) := by
  rcases given? with _ | given
  · have hnew : ∀ other x, (other, x) ∈ named → identityOf other ≠ identityOf value :=
      Naming.lookup_named_eq_none_iff.mp hgiven
    rcases hcarries : carriedOf value with _ | id
    · have hid : current.id current.used = start.id current.used := by rw [hcontinues.id_eq]
      refine (hfaithful.later (Nat.le_succ _)).append_new hnew (by simp [hcarries]) ?_ ?_
      · exact Or.inr ⟨current.used, hcontinues.used_le, Nat.lt_succ_self _, hid⟩
      · intro other n _ _ hmem
        exact hfaithful.not_mem_of_undrawn hcontinues hdistinct hfresh other (hid ▸ hmem)
    · refine hfaithful.append_new hnew ?_ (Or.inl hcarries) ?_
      · intro other hother
        exact Option.some.inj (hother.symm.trans hcarries)
      · intro other n hn heq
        exact absurd heq.symm (hvalue id hcarries n hn)
  · obtain ⟨earlier, hearlier, hidentity⟩ := Naming.exists_named_of_lookup hgiven
    exact hfaithful.append_known hearlier hidentity fun other hother =>
      hagrees given other rfl hother

/-- Two named elements have one id just when they are the same element. -/
theorem id_eq_iff (hfaithful : Faithful identityOf carriedOf start current named)
    (hfresh : start.AvoidsCarried carriedOf (named.map (·.1)))
    {a b : α} {x y : String} (ha : (a, x) ∈ named) (hb : (b, y) ∈ named) :
    x = y ↔ SameElement identityOf carriedOf (named.map (·.1)) a b := by
  constructor
  · rintro rfl
    rcases hfaithful.origin ha with ⟨a', ha', hidentity, hid⟩ | ⟨n, hn, -, rfl⟩
    · rcases hfaithful.origin hb with ⟨b', hb', hidentity', hid'⟩ | ⟨n, hn, -, rfl⟩
      · exact Or.inr ⟨a', List.mem_map_of_mem ha', b', List.mem_map_of_mem hb', x, hidentity,
          hidentity', hid, hid'⟩
      · exact absurd rfl (hfresh a' (List.mem_map_of_mem ha') _ hid n hn)
    · exact Or.inl (hfaithful.alone hn ha hb)
  · rintro (heq | ⟨a', ha', b', hb', id, hidentity, hidentity', hid, hid'⟩)
    · exact hfaithful.same ha hb heq
    · obtain ⟨⟨a', x'⟩, hx', rfl⟩ := List.mem_map.mp ha'
      obtain ⟨⟨b', y'⟩, hy', rfl⟩ := List.mem_map.mp hb'
      calc
        x = x' := hfaithful.same ha hx' hidentity.symm
        _ = id := (hfaithful.carried hx' hid).symm
        _ = y' := hfaithful.carried hy' hid'
        _ = y := hfaithful.same hy' hb hidentity'

end Faithful

end Kind

/-!
## Occurrences of both kinds
-/

/-- The id that an occurrence carries. -/
def Occurrence.carriedId? : Occurrence → Option String
  | node n => n.carriedId?
  | relationship r => r.carriedId?

namespace IdSupply.AvoidsCarried

variable {supply : IdSupply} {occurrences more : List Occurrence}

theorem of_append
    (hfresh : supply.AvoidsCarried Occurrence.carriedId? (occurrences ++ more)) :
    supply.AvoidsCarried Occurrence.carriedId? occurrences :=
  fun occurrence hmem => hfresh occurrence (List.mem_append_left more hmem)

/-- The ids of the nodes that occur are among those avoided. -/
theorem nodes (hfresh : supply.AvoidsCarried Occurrence.carriedId? occurrences) :
    supply.AvoidsCarried StoreNode.carriedId?
      ((Naming.ofOccurrences supply occurrences).nodes.map (·.1)) := by
  rw [Naming.map_fst_nodes_ofOccurrences]
  exact fun node hnode => hfresh (.node node) (Occurrence.mem_filterMap_node?.mp hnode)

/-- The ids of the relationships that occur are among those avoided. -/
theorem relationships (hfresh : supply.AvoidsCarried Occurrence.carriedId? occurrences) :
    supply.AvoidsCarried StoreRelationship.carriedId?
      ((Naming.ofOccurrences supply occurrences).relationships.map (·.1)) := by
  rw [Naming.map_fst_relationships_ofOccurrences]
  exact fun relationship hrelationship => hfresh (.relationship relationship)
    (Occurrence.mem_filterMap_relationship?.mp hrelationship)

end IdSupply.AvoidsCarried

open Assembly in
/-- Occurrences of which none is bad are named faithfully, of either kind. -/
theorem Naming.faithful_ofOccurrences {supply : IdSupply} {occurrences : List Occurrence}
    (hdistinct : supply.Distinct)
    (hfresh : supply.AvoidsCarried Occurrence.carriedId? occurrences)
    (hgood : AllGood supply occurrences) :
    (ofOccurrences supply occurrences).supply.Continues supply ∧
      Faithful StoreNode.identity StoreNode.carriedId? supply
        (ofOccurrences supply occurrences).supply (ofOccurrences supply occurrences).nodes ∧
      Faithful StoreRelationship.identity StoreRelationship.carriedId? supply
        (ofOccurrences supply occurrences).supply
        (ofOccurrences supply occurrences).relationships := by
  induction occurrences using List.reverseRecOn with
  | nil => exact ⟨.refl supply, .nil, .nil⟩
  | append_singleton occurrences occurrence ih =>
    obtain ⟨hcontinues, hnodes, hrelationships⟩ := ih hfresh.of_append hgood.of_append
    have hlast := hgood occurrences occurrence [] rfl
    have hcarried := hfresh occurrence (List.mem_append_right _ List.mem_cons_self)
    rw [ofOccurrences_append_singleton]
    cases occurrence with
    | node node =>
      have hagrees := Occurrence.agrees_of_node_not_bad hlast
      exact ⟨hcontinues.choose _ _,
        hnodes.append hcontinues hdistinct hfresh.of_append.nodes hcarried rfl hagrees,
        hrelationships.later (IdSupply.used_le_choose _ _ _)⟩
    | relationship relationship =>
      have hagrees := Occurrence.agrees_of_relationship_not_bad hlast
      exact ⟨hcontinues.choose _ _, hnodes.later (IdSupply.used_le_choose _ _ _),
        hrelationships.append hcontinues hdistinct hfresh.of_append.relationships hcarried rfl
          hagrees⟩

end GraphGateway
