import GraphGateway.CommandLine.Csv

/-!
# Reading comma-separated values

A reader that takes one character after the other. Commas end cells, and a line feed ends a record,
alone or behind a carriage return. Between quotes both are characters like others, and two quotes
are one. Main statement: what is written for records is read back as the same records, whatever
their cells hold, unless the last cell of a record ends in a carriage return and has no quotes
around it: the line end takes it.
-/

namespace GraphGateway.CommandLine.Csv

/-!
## The reader
-/

/-- Where a reader stands in a cell. -/
inductive Place where
  /-- In front of its first character. -/
  | start
  /-- Behind a character, without quotes around it. -/
  | bare
  /-- Behind an opening quote. -/
  | quoted
  /-- Behind a quote that closes the cell, unless one more follows. -/
  | closed
  deriving DecidableEq

/-- What has been read of a text: whole records, the whole cells of one more, and the characters of
one more cell. -/
structure Reading where
  records : List (List String) := []
  cells : List String := []
  chars : List Char := []
  place : Place := .start

namespace Reading

/-- One more character in the cell. -/
def push (reading : Reading) (c : Char) (place : Place) : Reading :=
  { reading with chars := reading.chars ++ [c], place := place }

/-- The cell is over, but not its record. -/
def endCell (reading : Reading) : Reading where
  records := reading.records
  cells := reading.cells ++ [String.ofList reading.chars]

/-- The cell and its record are over. -/
def endRecord (reading : Reading) : Reading where
  records := reading.records ++ [reading.endCell.cells]

/-- What has been read with one character more, unless a quote stands where none can. The character
behind it tells whether a carriage return belongs to a line end. -/
def step (reading : Reading) (c : Char) (next? : Option Char) : Option Reading :=
  if reading.place = .quoted then
    some (if c = '"' then { reading with place := .closed } else reading.push c .quoted)
  else if c = ',' then some reading.endCell
  else if c = '\n' then some reading.endRecord
  else if c = '\r' ∧ next? = some '\n' then some reading
  else match reading.place with
    | .start => some (if c = '"' then { reading with place := .quoted } else reading.push c .bare)
    | .bare => if c = '"' then none else some (reading.push c .bare)
    | .quoted | .closed => if c = '"' then some (reading.push c .quoted) else none

/-- What has been read with characters more. -/
def run (reading : Reading) : List Char → Option Reading
  | [] => some reading
  | c :: rest => (reading.step c rest.head?).bind fun next => next.run rest

/-- The records of a text that ends here, unless a quote is open. The last one may lack its line
end. -/
def finish? (reading : Reading) : Option (List (List String)) :=
  if reading.place = .quoted then none
  else if reading.place = .start ∧ reading.cells = [] then some reading.records
  else some reading.endRecord.records

end Reading

/-- The records in a text. -/
def read (text : String) : Option (List (List String)) :=
  (Reading.run {} text.toList).bind Reading.finish?

/-!
## Cells
-/

namespace Reading

variable {records : List (List String)} {cells : List String} {chars rest : List Char}
  {place : Place} {c : Char} {next? : Option Char}

/-- A comma that is not quoted ends a cell. -/
theorem step_comma (hplace : place ≠ .quoted) :
    step ⟨records, cells, chars, place⟩ ',' next? =
      some ⟨records, cells ++ [String.ofList chars], [], .start⟩ := by
  rw [step, if_neg hplace, if_pos rfl]
  rfl

/-- A line feed that is not quoted ends a record. -/
theorem step_lineFeed (hplace : place ≠ .quoted) :
    step ⟨records, cells, chars, place⟩ '\n' next? =
      some ⟨records ++ [cells ++ [String.ofList chars]], [], [], .start⟩ := by
  rw [step, if_neg hplace, if_neg (by decide), if_pos rfl]
  rfl

/-- A plain character that does not belong to a line end goes on a cell without quotes. -/
theorem step_plain (hplace : place = .start ∨ place = .bare) (hplain : needsQuotes [c] = false)
    (hreturn : c = '\r' → next? ≠ some '\n') :
    step ⟨records, cells, chars, place⟩ c next? =
      some ⟨records, cells, chars ++ [c], .bare⟩ := by
  have hother : (c ≠ ',' ∧ c ≠ '"') ∧ c ≠ '\n' := by simpa [needsQuotes] using hplain
  obtain ⟨⟨hcomma, hquote⟩, hline⟩ := hother
  have hend : ¬(c = '\r' ∧ next? = some '\n') := fun ⟨hc, hnext⟩ => hreturn hc hnext
  rcases hplace with rfl | rfl <;>
    simp [step, push, hcomma, hquote, hline, hend]

/-- A cell without quotes is read to its end. -/
theorem run_bare (chars : List Char) {text : List Char} (hplace : place = .start ∨ place = .bare)
    (hplain : needsQuotes text = false)
    (hend : text.getLast? = some '\r' → rest.head? ≠ some '\n') :
    ∃ last, last ≠ Place.quoted ∧ run ⟨records, cells, chars, place⟩ (text ++ rest) =
      run ⟨records, cells, chars ++ text, last⟩ rest := by
  induction text generalizing chars place with
  | nil =>
    refine ⟨place, ?_, by rw [List.append_nil, List.nil_append]⟩
    rcases hplace with rfl | rfl <;> decide
  | cons c text ih =>
    obtain ⟨hc, htext⟩ : needsQuotes [c] = false ∧ needsQuotes text = false := by
      simpa [needsQuotes] using hplain
    -- A line feed can only follow behind the cell: there is none in it.
    have hreturn : c = '\r' → (text ++ rest).head? ≠ some '\n' := by
      rintro rfl
      cases text with
      | nil => exact hend rfl
      | cons d text =>
        rintro hd
        cases Option.some.inj hd
        simp [needsQuotes] at htext
    have hlater : text.getLast? = some '\r' → rest.head? ≠ some '\n' := fun hlast =>
      hend (by rw [List.getLast?_cons, hlast, Option.getD_some])
    obtain ⟨last, hlast, hrun⟩ := ih (chars ++ [c]) (Or.inr rfl) htext hlater
    refine ⟨last, hlast, ?_⟩
    rw [List.cons_append, run, step_plain hplace hc hreturn, Option.bind_some, hrun,
      List.append_assoc, List.singleton_append]

/-- A quoted text is read to the quote that closes it, with its quotes undoubled. -/
theorem run_quoted (text : List Char) :
    run ⟨records, cells, chars, .quoted⟩ (doubleQuotes text ++ '"' :: rest) =
      run ⟨records, cells, chars ++ text, .closed⟩ rest := by
  induction text generalizing chars with
  | nil =>
    rw [doubleQuotes, List.nil_append, List.append_nil]
    rfl
  | cons c text ih =>
    have hpush : chars ++ c :: text = (chars ++ [c]) ++ text := List.append_cons chars c text
    rw [doubleQuotes, hpush, ← ih]
    by_cases hc : c = '"'
    · rw [if_pos hc, hc]
      rfl
    · rw [if_neg hc, List.cons_append, run, step, if_pos rfl, if_neg hc]
      rfl

/-- A cell that is written is read to its end, if no line end takes a carriage return from it. -/
theorem run_cellChars (records : List (List String)) (cells : List String) (text rest : List Char)
    (hend : needsQuotes text = false → text.getLast? = some '\r' → rest.head? ≠ some '\n') :
    ∃ last, last ≠ Place.quoted ∧ run ⟨records, cells, [], .start⟩ (cellChars text ++ rest) =
      run ⟨records, cells, text, last⟩ rest := by
  rw [cellChars]
  cases hquotes : needsQuotes text with
  | false => simpa using run_bare [] (Or.inl rfl) hquotes (hend hquotes)
  | true =>
    refine ⟨.closed, by decide, ?_⟩
    rw [if_pos rfl, List.cons_append, List.append_assoc, List.singleton_append, run]
    exact run_quoted text

/-- A cell in front of a comma is read as it is. -/
theorem run_cell_comma (text : String) :
    run ⟨records, cells, [], .start⟩ (cellChars text.toList ++ ',' :: rest) =
      run ⟨records, cells ++ [text], [], .start⟩ rest := by
  obtain ⟨last, hlast, hrun⟩ :=
    run_cellChars records cells text.toList (',' :: rest) fun _ _ => by simp
  rw [hrun, run, step_comma hlast, Option.bind_some, String.ofList_toList]

/-- A cell in front of a line feed is read as it is, if it does not end in a bare carriage
return. -/
theorem run_cell_lineFeed {text : String}
    (hend : needsQuotes text.toList = false → text.toList.getLast? ≠ some '\r') :
    run ⟨records, cells, [], .start⟩ (cellChars text.toList ++ '\n' :: rest) =
      run ⟨records ++ [cells ++ [text]], [], [], .start⟩ rest := by
  obtain ⟨last, hlast, hrun⟩ := run_cellChars records cells text.toList ('\n' :: rest)
    fun hbare hreturn => absurd hreturn (hend hbare)
  rw [hrun, run, step_lineFeed hlast, Option.bind_some, String.ofList_toList]

end Reading

/-!
## Records
-/

/-- A record keeps its cells in a text: there are some, and the line end takes nothing from the
last. -/
inductive Keeps : List String → Prop where
  | last {cell : String}
      (hend : needsQuotes cell.toList = false → cell.toList.getLast? ≠ some '\r') : Keeps [cell]
  | cons {cell : String} {cells : List String} (hcells : Keeps cells) : Keeps (cell :: cells)

/-- The line of a single cell. -/
theorem toList_line_singleton (cell : String) :
    (line [cell]).toList = cellChars cell.toList ++ ['\n'] := by
  simp [line, Csv.cell]

/-- The line of several cells is the first one, a comma and the line of the others. -/
theorem toList_line_cons_cons (first second : String) (cells : List String) :
    (line (first :: second :: cells)).toList =
      cellChars first.toList ++ ',' :: (line (second :: cells)).toList := by
  simp [line, Csv.cell, String.intercalate_cons_cons]

/-- The line of a record is read as that record. -/
theorem run_line {cells : List String} (h : Keeps cells) {records : List (List String)}
    {before : List String} {rest : List Char} :
    Reading.run ⟨records, before, [], .start⟩ ((line cells).toList ++ rest) =
      Reading.run ⟨records ++ [before ++ cells], [], [], .start⟩ rest := by
  induction h generalizing before with
  | last hend =>
    rw [toList_line_singleton, List.append_assoc, List.singleton_append,
      Reading.run_cell_lineFeed hend]
  | @cons first cells hcells ih =>
    have hsplit : (line (first :: cells)).toList =
        cellChars first.toList ++ ',' :: (line cells).toList := by
      cases hcells <;> exact toList_line_cons_cons first _ _
    rw [hsplit, List.append_assoc, List.cons_append, Reading.run_cell_comma, ih,
      List.append_assoc, List.singleton_append]

/-- What is written for records is read as these records. -/
theorem read_render {records : List (List String)} (h : ∀ cells ∈ records, Keeps cells) :
    read (render records) = some records := by
  have hrun (before : List (List String)) :
      Reading.run ⟨before, [], [], .start⟩ (render records).toList =
        some ⟨before ++ records, [], [], .start⟩ := by
    induction records generalizing before with
    | nil => rw [List.append_nil]; rfl
    | cons cells records ih =>
      obtain ⟨hcells, hrecords⟩ := List.forall_mem_cons.mp h
      have hjoin : (render (cells :: records)).toList =
          (line cells).toList ++ (render records).toList := by
        simp [render]
      rw [hjoin, run_line hcells, ih hrecords, List.nil_append, List.append_assoc,
        List.singleton_append]
  rw [read, hrun []]
  rfl

/-- A line end takes a bare carriage return from the last cell of its record. -/
example : read (render [["a\r", "b\r"]]) = some [["a\r", "b"]] := by decide

end GraphGateway.CommandLine.Csv
