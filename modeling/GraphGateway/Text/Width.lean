import GraphGateway.Text.Width.Follower

/-!
# Display width

The number of columns that a line of text takes on a terminal. The line is read from its end, since
a character may combine with what stands behind it.
-/

namespace GraphGateway.Text

/-- The columns that characters take, and what they are to a character before them. -/
def columns (chars : List Char) : Int × Context :=
  chars.foldr
    (fun c (sum, context) =>
      let (added, context) := context.step c
      (sum + added, context))
    (0, {})

/-- The columns that a line of text takes. -/
def width (line : String) : Nat := (columns line.toList).1.toNat

end GraphGateway.Text
