import GraphGateway.Proofs.Identifier.Reader

/-!
# Quoted names are read back

A quoted name is one identifier and says the name, whatever stands in the name and whatever follows
it that cannot be taken for a part of a name. No other text can follow all quoted names. As a quoted
name says its name, no two names are quoted alike.
-/

namespace GraphGateway.Identifier

/-- The characters of a quoted name. -/
theorem toList_quote (name : String) : (quote name).toList = quoteChars name.toList :=
  String.toList_ofList

/-- A quoted name is a way to write the name. -/
theorem spelling_quote (name : String) : Spelling name.toList (quote name).toList := by
  rw [toList_quote]
  exact spelling_quoteChars name.toList

/-- A quoted name is read back and nothing of what follows is consumed. -/
theorem read_quoteChars_append (name : List Char) {rest : List Char} (hrest : EndsName rest) :
    read (quoteChars name ++ rest) = some (name, rest) :=
  read_append_of_spelling (spelling_quoteChars name) hrest

/-- A text that starts with a quoted name says the name and where it ends. -/
theorem quoteChars_append_inj {name other rest rest' : List Char} (hrest : EndsName rest)
    (hrest' : EndsName rest') (h : quoteChars name ++ rest = quoteChars other ++ rest') :
    name = other ∧ rest = rest' := by
  have hread := read_quoteChars_append name hrest
  rw [h, read_quoteChars_append other hrest'] at hread
  obtain ⟨hname, hleft⟩ := Prod.mk.inj (Option.some.inj hread)
  exact ⟨hname.symm, hleft.symm⟩

/-- No two names are quoted alike. -/
theorem quote_injective : Function.Injective quote := by
  intro name other h
  have hchars : quoteChars name.toList = quoteChars other.toList := by
    rw [← toList_quote, h, toList_quote]
  obtain ⟨hname, -⟩ := quoteChars_append_inj endsName_nil endsName_nil
    (congrArg (· ++ []) hchars)
  exact String.toList_inj.mp hname

/-- Only a text that ends a name is left alone behind every quoted name. -/
theorem endsName_of_read_quoteChars_append {rest : List Char}
    (h : ∀ name, read (quoteChars name ++ rest) = some (name, rest)) : EndsName rest := by
  -- One name of each spelling is enough: the empty one has backticks, an underscore is plain.
  refine fun c hc => ⟨?_, ?_⟩
  · rcases read_eq_some_iff.mp (h []) with ⟨hplain, -, -⟩ | ⟨-, hstop⟩
    · cases hplain
    · exact hstop c hc
  · rcases read_eq_some_iff.mp (h ['_']) with ⟨-, -, hstop⟩ | ⟨htext, -⟩
    · exact hstop c hc
    · exact absurd (List.cons.inj htext).1 (by decide)

/-- Behind a quoted name the name is read back and the text that follows is left alone, whatever the
name, exactly if that text neither starts with a backtick nor continues a plain name. No two names
are quoted alike. -/
theorem quoted_names_read_back :
    (∀ rest : String, EndsName rest.toList ↔
      ∀ name : String, read (quote name ++ rest).toList = some (name.toList, rest.toList)) ∧
    Function.Injective quote := by
  refine ⟨fun rest => ⟨fun hrest name => ?_, fun h => ?_⟩, quote_injective⟩
  · rw [String.toList_append, toList_quote]
    exact read_quoteChars_append name.toList hrest
  · refine endsName_of_read_quoteChars_append fun name => ?_
    have hname := h (String.ofList name)
    rwa [String.toList_append, toList_quote, String.toList_ofList] at hname

/-- Backticks at the end of a name do not mix with the one that closes it. -/
theorem quoted_names_read_back_backticks :
    EndsName ") RETURN n".toList ∧ quote "n``" = "`n`````" ∧
      read "`n`````) RETURN n".toList = some ("n``".toList, ") RETURN n".toList) := by
  have hends : EndsName ") RETURN n".toList := by decide +kernel
  exact ⟨hends, by decide +kernel, (quoted_names_read_back.1 ") RETURN n").mp hends "n``"⟩

end GraphGateway.Identifier
