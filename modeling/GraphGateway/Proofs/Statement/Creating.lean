import GraphGateway.Proofs.Identifier.Quoting
import GraphGateway.Proofs.SortedMap
import GraphGateway.Proofs.Statement.Lexer
import GraphGateway.Statement.Edges
import GraphGateway.Statement.Nodes

/-!
# What a statement creates

The text of a statement that creates an element says its labels or its type, and its parameters say
the rest: two statements that create alike are the same only if they create the same. So it makes
sense to speak of the labels, the type and the data of such a statement.
-/

namespace GraphGateway

/-- Nothing is lost when properties become a value. -/
theorem Datum.ofProperties_inj {properties others : Properties} :
    Datum.ofProperties properties = .ofProperties others ↔ properties = others := by
  constructor
  · intro h
    obtain ⟨entries, hsorted⟩ := properties
    obtain ⟨entries', hsorted'⟩ := others
    obtain rfl : entries = entries' := Datum.map.inj h
    rfl
  · rintro rfl
    rfl

namespace Statement

/-- The characters of a label behind its colon. -/
theorem toList_labelSuffix (label : String) :
    (labelSuffix label).toList = ':' :: Identifier.quoteChars label.toList := by
  simp [labelSuffix, Identifier.quote]

/-- The characters of labels behind colons, one label after the other. -/
theorem toList_labelSuffixes_cons (label : String) (labels : List String) :
    (labelSuffixes (label :: labels)).toList =
      (labelSuffix label).toList ++ (labelSuffixes labels).toList := by
  simp [labelSuffixes]

/-- A label behind a colon ends where a text follows that is no part of a name. -/
theorem labelSuffix_append_inj {label other : String} {rest rest' : List Char}
    (hrest : Identifier.EndsName rest) (hrest' : Identifier.EndsName rest')
    (h : (labelSuffix label).toList ++ rest = (labelSuffix other).toList ++ rest') :
    label = other ∧ rest = rest' := by
  rw [toList_labelSuffix, toList_labelSuffix, List.cons_append, List.cons_append,
    List.cons.injEq] at h
  obtain ⟨hlabel, hleft⟩ := Identifier.quoteChars_append_inj hrest hrest' h.2
  exact ⟨String.toList_inj.mp hlabel, hleft⟩

/-- What follows a label in a list of labels is no part of it. -/
theorem endsName_labelSuffixes (labels : List String) {rest : List Char}
    (hrest : Identifier.EndsName rest) :
    Identifier.EndsName ((labelSuffixes labels).toList ++ rest) := by
  cases labels with
  | nil => exact hrest
  | cons label labels =>
    rw [toList_labelSuffixes_cons, toList_labelSuffix]
    exact Identifier.endsName_cons (by decide +kernel) _

/-- Labels behind colons end where a closing bracket follows. -/
theorem labelSuffixes_append_inj {labels others : List String} {rest rest' : List Char}
    (h : (labelSuffixes labels).toList ++ ')' :: rest =
      (labelSuffixes others).toList ++ ')' :: rest') : labels = others := by
  have hbracket (text : List Char) : Identifier.EndsName (')' :: text) :=
    Identifier.endsName_cons (by decide +kernel) text
  -- A colon and a closing bracket tell whether there is a further label.
  induction labels generalizing others with
  | nil =>
    cases others with
    | nil => rfl
    | cons other others =>
      rw [toList_labelSuffixes_cons, toList_labelSuffix] at h
      cases h
  | cons label labels ih =>
    cases others with
    | nil =>
      rw [toList_labelSuffixes_cons, toList_labelSuffix] at h
      cases h
    | cons other others =>
      rw [toList_labelSuffixes_cons, toList_labelSuffixes_cons, List.append_assoc,
        List.append_assoc] at h
      obtain ⟨rfl, hothers⟩ := labelSuffix_append_inj
        (endsName_labelSuffixes labels (hbracket rest))
        (endsName_labelSuffixes others (hbracket rest')) h
      rw [ih hothers]

end Statement

/-- A statement that creates a node says its labels and its data. -/
theorem NodeStatement.create_inj {labels others : List String} {data data' : Properties} :
    create labels data = create others data' ↔ labels = others ∧ data = data' := by
  constructor
  · intro h
    have htext := congrArg (fun statement => statement.text.toList) h
    simp only [create, Statement.given, Statement.ofText, String.toList_append,
      List.append_assoc, List.append_cancel_left_eq] at htext
    have hdata := congrArg (fun statement => statement.params.get? "data") h
    simp only [create, Statement.given, SortedMap.get?_insert, if_true, Option.some.injEq] at hdata
    exact ⟨Statement.labelSuffixes_append_inj htext, Datum.ofProperties_inj.mp hdata⟩
  · rintro ⟨rfl, rfl⟩
    rfl

/-- A statement that creates an edge says the ids of its ends, its type and its data. -/
theorem EdgeStatement.create_inj {source source' target target' type type' : String}
    {data data' : Properties} :
    create source target type data = create source' target' type' data' ↔
      source = source' ∧ target = target' ∧ type = type' ∧ data = data' := by
  constructor
  · intro h
    have htext := congrArg (fun statement => statement.text.toList) h
    have hparams (key : String) := congrArg (fun statement => statement.params.get? key) h
    have hends : Identifier.EndsName "]->(v) SET e = $data RETURN u, e, v".toList := by
      decide +kernel
    simp only [create, Statement.given, Statement.ofText, String.toList_append,
      List.append_assoc, List.append_cancel_left_eq] at htext
    simp only [create, Statement.given, SortedMap.get?_insert] at hparams
    have hsource := hparams "sourceId"
    have htarget := hparams "targetId"
    have hdata := hparams "data"
    simp only [String.reduceEq, if_true, if_false, Option.some.injEq, Datum.text.injEq]
      at hsource htarget hdata
    exact ⟨hsource, htarget, (Statement.labelSuffix_append_inj hends hends htext).1,
      Datum.ofProperties_inj.mp hdata⟩
  · rintro ⟨rfl, rfl, rfl, rfl⟩
    rfl

end GraphGateway
