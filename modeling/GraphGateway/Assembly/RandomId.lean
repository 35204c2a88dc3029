import GraphGateway.Assembly.Identities

/-!
# Random ids

An id of 122 random bits in the usual form of 36 characters: 32 hexadecimal digits in five groups,
of which one digit tells how the id was made (4: at random) and one begins with the bits 10.
-/

namespace GraphGateway.RandomId

/-- A hexadecimal digit, in lowercase. -/
def digit (n : Nat) : Char := Nat.digitChar (n % 16)

/-- The 128 bits of an id, given as many random bits: those with a meaning of their own are set. -/
def stamp (random : BitVec 128) : BitVec 128 :=
  (random &&& ~~~(0xf000_c000_0000_0000_0000#128)) ||| 0x4000_8000_0000_0000_0000#128

/-- The hexadecimal digits of 128 bits, from the highest. -/
def digits (bits : BitVec 128) : List Char :=
  (List.range 32).map fun place => digit (bits.toNat >>> (4 * (31 - place)))

/-- The sizes of the groups of digits. -/
def groupSizes : List Nat := [8, 4, 4, 4, 12]

/-- Cuts a list into groups of given sizes. -/
def groups : List Nat → List Char → List (List Char)
  | [], _ => []
  | size :: sizes, chars => chars.take size :: groups sizes (chars.drop size)

/-- The id that random bits make. -/
def ofBits (random : BitVec 128) : String :=
  "-".intercalate ((groups groupSizes (digits (stamp random))).map String.ofList)

/-- Whether a character is a lowercase hexadecimal digit. -/
def isDigit (c : Char) : Bool := ('0' ≤ c && c ≤ '9') || ('a' ≤ c && c ≤ 'f')

/-- Whether the character at a place of an id may stand there. -/
def fits (place : Nat) (c : Char) : Bool :=
  if [8, 13, 18, 23].contains place then c = '-'
  else if place = 14 then c = '4'
  else if place = 19 then ['8', '9', 'a', 'b'].contains c
  else isDigit c

/-- Whether a text has the form of a random id. -/
def isShaped (id : String) : Bool :=
  id.length = 36 && id.toList.zipIdx.all fun (c, place) => fits place c

/-- The supply that draws its ids from a sequence of random bits. -/
def supply (random : Nat → BitVec 128) : IdSupply where
  id n := ofBits (random n)

end GraphGateway.RandomId
