import GraphGateway.Proofs.Assembly.Follows

/-!
# The outcome of a whole assembly

Placing pieces is placing their occurrences one by one. It fails just when some occurrence is bad,
with the error of the first bad one, and where it succeeds the graph and the supply are those of the
naming of all occurrences.
-/

namespace GraphGateway

namespace Assembly

/-- Placing pieces and then more pieces is placing all of them. -/
theorem placeAll_append (assembly : Assembly) (pieces more : List Piece) :
    assembly.placeAll (pieces ++ more) =
      match assembly.placeAll pieces with
      | (.error error, after) => (.error error, after)
      | (.ok (), after) => after.placeAll more := by
  induction pieces generalizing assembly with
  | nil => rfl
  | cons piece rest ih =>
    rw [List.cons_append, placeAll, placeAll]
    rcases assembly.place piece with ⟨answer, after⟩
    cases answer with
    | error error => rfl
    | ok placed => exact ih after

/-- Placing one piece and no more is placing it. -/
theorem placeAll_singleton (assembly : Assembly) (piece : Piece) :
    assembly.placeAll [piece] = assembly.place piece := by
  simp only [placeAll]
  rcases assembly.place piece with ⟨_ | _, after⟩ <;> rfl

/-- Placing a piece is placing its occurrences. -/
theorem place_eq_placeAll_occurrences (assembly : Assembly) (piece : Piece) :
    assembly.place piece = assembly.placeAll (piece.occurrences.map Occurrence.piece) := by
  cases piece with
  | node node => exact (placeAll_singleton assembly (.node node)).symm
  | relationship relationship =>
    exact (placeAll_singleton assembly (.relationship relationship)).symm
  | hop hop =>
    simp only [Piece.occurrences, List.map, Occurrence.piece, placeAll, place, placeHop]
    rcases assembly.placeNode hop.start with ⟨answer, afterStart⟩
    cases answer with
    | error error => rfl
    | ok start =>
      simp only [Except.map]
      rcases afterStart.placeNode hop.finish with ⟨answer, afterFinish⟩
      cases answer with
      | error error => rfl
      | ok finish =>
        dsimp only
        rcases afterFinish.placeRelationship hop.relationship with ⟨answer, after⟩
        cases answer <;> rfl

/-- Placing pieces is placing their occurrences. -/
theorem placeAll_eq_placeAll_occurrences (assembly : Assembly) (pieces : List Piece) :
    assembly.placeAll pieces =
      assembly.placeAll ((pieces.flatMap Piece.occurrences).map Occurrence.piece) := by
  induction pieces generalizing assembly with
  | nil => rfl
  | cons piece rest ih =>
    rw [List.flatMap_cons, List.map_append, placeAll_append, ← place_eq_placeAll_occurrences,
      placeAll]
    rcases assembly.place piece with ⟨answer, after⟩
    cases answer with
    | error error => rfl
    | ok placed => exact ih after

/-- No occurrence is bad after those before it. -/
def AllGood (supply : IdSupply) (occurrences : List Occurrence) : Prop :=
  ∀ before occurrence after, occurrences = before ++ occurrence :: after →
    ∀ error, ¬occurrence.Bad supply before error

/-- Where no occurrence is bad, none is among the first ones. -/
theorem AllGood.of_append {supply : IdSupply} {occurrences more : List Occurrence}
    (hgood : AllGood supply (occurrences ++ more)) : AllGood supply occurrences :=
  fun before other after hsplit => hgood before other (after ++ more) (by simp [hsplit])

/-- Some occurrence is bad after those before it, with the error, and none before is bad. -/
def FirstBad (supply : IdSupply) (occurrences : List Occurrence) (error : Error) : Prop :=
  ∃ before occurrence after, occurrences = before ++ occurrence :: after ∧
    occurrence.Bad supply before error ∧ AllGood supply before

/-- Where no occurrence is bad all are placed, and the assembly follows their naming. -/
theorem placeAll_of_allGood {supply : IdSupply} {occurrences : List Occurrence}
    (hgood : AllGood supply occurrences) :
    ∃ after, ({ supply } : Assembly).placeAll (occurrences.map Occurrence.piece) = (.ok (), after) ∧
      Follows after (Naming.ofOccurrences supply occurrences) := by
  induction occurrences using List.reverseRecOn with
  | nil => exact ⟨{ supply }, rfl, Follows.start supply⟩
  | append_singleton occurrences occurrence ih =>
    obtain ⟨reached, hplaced, hfollows⟩ := ih hgood.of_append
    obtain ⟨after, hlast, hafter⟩ :=
      hfollows.place_of_not_bad (hgood occurrences occurrence [] rfl)
    refine ⟨after, ?_, hafter⟩
    rw [List.map_append, placeAll_append, hplaced, List.map_singleton]
    simp only [placeAll, hlast]

/-- An assembly that has placed further occurrences follows their naming too. -/
theorem Follows.of_placeAll_ok {supply : IdSupply} {before occurrences : List Occurrence}
    {assembly after : Assembly} (hfollows : Follows assembly (Naming.ofOccurrences supply before))
    (h : assembly.placeAll (occurrences.map Occurrence.piece) = (.ok (), after)) :
    Follows after (Naming.ofOccurrences supply (before ++ occurrences)) := by
  induction occurrences generalizing before assembly with
  | nil =>
    cases h
    rwa [List.append_nil]
  | cons occurrence rest ih =>
    have hgood : ∀ error, ¬occurrence.Bad supply before error := by
      intro error hbad
      have hrefused := hfollows.place_of_bad hbad
      rw [List.map_cons, placeAll] at h
      rcases hplaced : assembly.place occurrence.piece with ⟨answer, reached⟩
      rw [hplaced] at hrefused h
      subst hrefused
      cases h
    obtain ⟨reached, hplaced, hreached⟩ := hfollows.place_of_not_bad hgood
    rw [List.map_cons, placeAll, hplaced] at h
    simpa using ih hreached h

/-- The first bad occurrence ends the assembly with its error. -/
theorem placeAll_of_firstBad {supply : IdSupply} {occurrences : List Occurrence} {error : Error}
    (hbad : FirstBad supply occurrences error) :
    (({ supply } : Assembly).placeAll (occurrences.map Occurrence.piece)).1 = .error error := by
  obtain ⟨before, occurrence, after, rfl, hbad, hgood⟩ := hbad
  obtain ⟨reached, hplaced, hfollows⟩ := placeAll_of_allGood hgood
  have hrefused := hfollows.place_of_bad hbad
  rw [List.map_append, placeAll_append, hplaced, List.map_cons]
  simp only [placeAll]
  rcases hlast : reached.place occurrence.piece with ⟨answer, last⟩
  rw [hlast] at hrefused
  subst hrefused
  rfl

/-- Of bad occurrences there is a first one. -/
theorem exists_firstBad {supply : IdSupply} {occurrences before after : List Occurrence}
    {occurrence : Occurrence} {error : Error}
    (hsplit : occurrences = before ++ occurrence :: after)
    (hbad : occurrence.Bad supply before error) : ∃ error, FirstBad supply occurrences error := by
  induction hlength : before.length using Nat.strongRecOn
    generalizing before occurrence after error with
  | ind length ih =>
    by_cases hgood : AllGood supply before
    · exact ⟨error, before, occurrence, after, hsplit, hbad, hgood⟩
    · simp only [AllGood, not_forall, not_not] at hgood
      obtain ⟨earlier, other, later, hearlier, worse, hworse⟩ := hgood
      have hsooner : occurrences = earlier ++ other :: (later ++ occurrence :: after) := by
        simp [hsplit, hearlier]
      have hshorter : earlier.length < length := by
        rw [← hlength, hearlier]
        simp
      exact ih earlier.length hshorter hsooner hworse rfl

/-- Either no occurrence is bad or one of them is the first. -/
theorem allGood_or_firstBad (supply : IdSupply) (occurrences : List Occurrence) :
    AllGood supply occurrences ∨ ∃ error, FirstBad supply occurrences error := by
  by_cases hgood : AllGood supply occurrences
  · exact Or.inl hgood
  · simp only [AllGood, not_forall, not_not] at hgood
    obtain ⟨before, occurrence, after, hsplit, error, hbad⟩ := hgood
    exact Or.inr (exists_firstBad hsplit hbad)

end Assembly

open Assembly

/-- Where no occurrence is bad, the graph and the supply are those of the naming. -/
theorem Graph.ofPieces_of_allGood {supply : IdSupply} {pieces : List Piece}
    (hgood : AllGood supply (pieces.flatMap Piece.occurrences)) :
    ∃ graph, (Naming.ofOccurrences supply (pieces.flatMap Piece.occurrences)).graph? = some graph ∧
      Graph.ofPieces supply pieces =
        (.ok graph, (Naming.ofOccurrences supply (pieces.flatMap Piece.occurrences)).supply) := by
  obtain ⟨after, hplaced, hfollows⟩ := placeAll_of_allGood hgood
  refine ⟨after.graph, hfollows.graph, ?_⟩
  rw [Graph.ofPieces, placeAll_eq_placeAll_occurrences, hplaced, ← hfollows.supply]
  rfl

/-- The first bad occurrence decides the error. -/
theorem Graph.ofPieces_of_firstBad {supply : IdSupply} {pieces : List Piece} {error : Error}
    (hbad : FirstBad supply (pieces.flatMap Piece.occurrences) error) :
    (Graph.ofPieces supply pieces).1 = .error error := by
  rw [Graph.ofPieces, placeAll_eq_placeAll_occurrences, Assembly.finish, placeAll_of_firstBad hbad]
  rfl

/-- A successful assembly has no bad occurrence. -/
theorem allGood_of_ofPieces {supply : IdSupply} {pieces : List Piece} {graph : Graph}
    (h : (Graph.ofPieces supply pieces).1 = .ok graph) :
    AllGood supply (pieces.flatMap Piece.occurrences) := by
  rcases allGood_or_firstBad supply (pieces.flatMap Piece.occurrences) with hgood | ⟨error, hbad⟩
  · exact hgood
  · rw [Graph.ofPieces_of_firstBad hbad] at h
    cases h

/-- A successful assembly follows the naming of all occurrences to the end. -/
theorem follows_of_ofPieces {supply : IdSupply} {pieces : List Piece} {graph : Graph}
    (h : (Graph.ofPieces supply pieces).1 = .ok graph) :
    Follows (({ supply } : Assembly).placeAll pieces).2
        (Naming.ofOccurrences supply (pieces.flatMap Piece.occurrences)) ∧
      (({ supply } : Assembly).placeAll pieces).2.graph = graph := by
  obtain ⟨after, hplaced, hfollows⟩ := placeAll_of_allGood (allGood_of_ofPieces h)
  rw [← placeAll_eq_placeAll_occurrences] at hplaced
  rw [Graph.ofPieces, hplaced] at h
  rw [hplaced]
  exact ⟨hfollows, Except.ok.inj h⟩

/-- A failed assembly has a first bad occurrence. -/
theorem firstBad_of_ofPieces {supply : IdSupply} {pieces : List Piece} {error : Error}
    (h : (Graph.ofPieces supply pieces).1 = .error error) :
    FirstBad supply (pieces.flatMap Piece.occurrences) error := by
  rcases allGood_or_firstBad supply (pieces.flatMap Piece.occurrences) with hgood | ⟨first, hbad⟩
  · obtain ⟨graph, -, hplaced⟩ := Graph.ofPieces_of_allGood hgood
    rw [hplaced] at h
    cases h
  · rw [Graph.ofPieces_of_firstBad hbad, Except.error.injEq] at h
    exact h ▸ hbad

/-- The graph of an assembly that succeeds is read off the naming of the flattened pieces: the first
occurrence under each stable id, in order, and nothing else. The supply is used as often as the
naming uses it. So no element is lost, made up, merged or changed by a later occurrence. -/
theorem graph?_of_ofPieces {supply : IdSupply} {pieces : List Piece} {graph : Graph}
    (h : (Graph.ofPieces supply pieces).1 = .ok graph) :
    let naming := Naming.ofOccurrences supply (pieces.flatMap Piece.occurrences)
    naming.graph? = some graph ∧ (Graph.ofPieces supply pieces).2 = naming.supply ∧
      (graph.nodeIds.Nodup ∧ ∀ id, id ∈ graph.nodeIds ↔ ∃ node, (node, id) ∈ naming.nodes) ∧
      (graph.edgeIds.Nodup ∧
        ∀ id, id ∈ graph.edgeIds ↔ ∃ relationship, (relationship, id) ∈ naming.relationships) := by
  intro naming
  obtain ⟨placed, hgraph, hplaced⟩ := Graph.ofPieces_of_allGood (allGood_of_ofPieces h)
  rw [hplaced] at h
  cases h
  have hnodup := Naming.nodup_of_graph? hgraph
  exact ⟨hgraph, by rw [hplaced], ⟨hnodup.1, fun _ => Naming.mem_nodeIds_of_graph? hgraph⟩,
    ⟨hnodup.2, fun _ => Naming.mem_edgeIds_of_graph? hgraph⟩⟩

/-- A hop against the direction of its relationship, one of its nodes without an id, and a second
node under an id in use: two nodes and one edge, which points backward. -/
theorem graph?_of_ofPieces_backward_hop :
    let start : StoreNode := ⟨⟨"1"⟩, ["Person", "Person"], .ofList [("id", .text "a")]⟩
    let finish : StoreNode := ⟨⟨"2"⟩, [], .ofList [("name", .text "Bob")]⟩
    let relationship : StoreRelationship := ⟨⟨"10"⟩, ⟨"2"⟩, ⟨"1"⟩, some "KNOWS", {}⟩
    let twin : StoreNode := ⟨⟨"3"⟩, ["City"], .ofList [("id", .text "a")]⟩
    let pieces := [Piece.hop ⟨start, relationship, finish⟩, .node twin]
    let supply : IdSupply := { id := fun n => if n = 0 then "x" else "y" }
    let graph : Graph :=
      { nodes := [⟨"a", ["Person"], {}⟩, ⟨"x", [], .ofList [("name", .text "Bob")]⟩]
        edges := [⟨"y", "x", "a", some "KNOWS", {}⟩] }
    (Graph.ofPieces supply pieces).1 = .ok graph ∧
      (Naming.ofOccurrences supply (pieces.flatMap Piece.occurrences)).graph? = some graph := by
  intro start finish relationship twin pieces supply graph
  have h : (Graph.ofPieces supply pieces).1 = .ok graph := by rfl
  exact ⟨h, (graph?_of_ofPieces h).1⟩

/-- The nodes of a hop occur before its relationship. -/
private theorem ends_occur_of_hops {hops : List Hop} {before after : List Occurrence}
    {relationship : StoreRelationship}
    (h : (hops.map Piece.hop).flatMap Piece.occurrences =
      before ++ .relationship relationship :: after) :
    ∃ hop ∈ hops, hop.relationship = relationship ∧
      .node hop.start ∈ before ∧ .node hop.finish ∈ before := by
  induction hops generalizing before with
  | nil => simp at h
  | cons hop rest ih =>
    rw [List.map_cons, List.flatMap_cons] at h
    rcases before with _ | ⟨start, _ | ⟨finish, _ | ⟨middle, before⟩⟩⟩
    · simp [Piece.occurrences] at h
    · simp [Piece.occurrences] at h
    · simp only [Piece.occurrences, List.cons_append, List.nil_append, List.cons.injEq,
        Occurrence.relationship.injEq] at h
      obtain ⟨rfl, rfl, hrelationship, -⟩ := h
      exact ⟨hop, List.mem_cons_self, hrelationship, by simp, by simp⟩
    · simp only [Piece.occurrences, List.cons_append, List.nil_append, List.cons.injEq] at h
      obtain ⟨-, -, -, hrest⟩ := h
      obtain ⟨other, hother, hrelationship, hstart, hfinish⟩ := ih hrest
      refine ⟨other, List.mem_cons_of_mem _ hother, hrelationship, ?_, ?_⟩
      · simp [hstart]
      · simp [hfinish]

/-- Hops that bring the ends of their relationships along leave no end missing. -/
theorem not_dangling_of_hops {supply : IdSupply} {hops : List Hop}
    (hends : ∀ hop ∈ hops,
      hop.relationship.start ∈ [hop.start.identity, hop.finish.identity] ∧
      hop.relationship.finish ∈ [hop.start.identity, hop.finish.identity])
    (id endpoint : String) :
    ¬FirstBad supply ((hops.map Piece.hop).flatMap Piece.occurrences)
      (.danglingEndpoint id endpoint) := by
  rintro ⟨before, occurrence, after, hsplit, hbad, -⟩
  have hpresent {relationship : StoreRelationship} {identity : StoreId}
      (hoccurs : occurrence = .relationship relationship)
      (hend : identity = relationship.start ∨ identity = relationship.finish)
      (hmissing : ∀ node, .node node ∈ before → node.identity ≠ identity) : False := by
    rw [hoccurs] at hsplit
    obtain ⟨hop, hhop, rfl, hstart, hfinish⟩ := ends_occur_of_hops hsplit
    have hmem : identity ∈ [hop.start.identity, hop.finish.identity] := by
      rcases hend with rfl | rfl
      · exact (hends hop hhop).1
      · exact (hends hop hhop).2
    rcases List.mem_cons.mp hmem with heq | hrest
    · exact hmissing _ hstart heq.symm
    · exact hmissing _ hfinish (List.mem_singleton.mp hrest).symm
  generalize herror : Error.danglingEndpoint id endpoint = error at hbad
  cases hbad with
  | nodeConflict => cases herror
  | relationshipConflict => cases herror
  | danglingStart agrees missing => exact hpresent rfl (Or.inl rfl) missing
  | danglingFinish agrees present missing => exact hpresent rfl (Or.inr rfl) missing

/-- An assembly fails just when some occurrence is bad, and then with the error of the first bad
one. Hops that bring the ends of their relationships along never leave an end missing. -/
theorem ofPieces_eq_error_iff (supply : IdSupply) (pieces : List Piece) :
    (∀ error, (Graph.ofPieces supply pieces).1 = .error error ↔
      FirstBad supply (pieces.flatMap Piece.occurrences) error) ∧
    ((∃ error, (Graph.ofPieces supply pieces).1 = .error error) ↔
      ∃ before occurrence after error,
        pieces.flatMap Piece.occurrences = before ++ occurrence :: after ∧
        occurrence.Bad supply before error) ∧
    ∀ hops : List Hop,
      (∀ hop ∈ hops,
        hop.relationship.start ∈ [hop.start.identity, hop.finish.identity] ∧
        hop.relationship.finish ∈ [hop.start.identity, hop.finish.identity]) →
      ∀ id endpoint,
        (Graph.ofPieces supply (hops.map .hop)).1 ≠ .error (.danglingEndpoint id endpoint) := by
  refine ⟨fun error => ⟨firstBad_of_ofPieces, Graph.ofPieces_of_firstBad⟩, ⟨?_, ?_⟩, ?_⟩
  · rintro ⟨error, h⟩
    obtain ⟨before, occurrence, after, hsplit, hbad, -⟩ := firstBad_of_ofPieces h
    exact ⟨before, occurrence, after, error, hsplit, hbad⟩
  · rintro ⟨before, occurrence, after, error, hsplit, hbad⟩
    obtain ⟨first, hfirst⟩ := exists_firstBad hsplit hbad
    exact ⟨first, Graph.ofPieces_of_firstBad hfirst⟩
  · intro hops hends id endpoint h
    exact not_dangling_of_hops hends id endpoint (firstBad_of_ofPieces h)

end GraphGateway
