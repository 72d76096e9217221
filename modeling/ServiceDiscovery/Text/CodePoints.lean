import ServiceDiscovery.Net.AddressText

/-!
# Tables of code points

Which characters have a property is laid down by the Unicode standard, in tables.  Here a table is
a text: rows stand between blanks, and a row is one or more numbers in hexadecimal with hyphens
between them.  Most tables are ranges of code points; a row of a single number is a range of one.
-/

namespace ServiceDiscovery.Text

/-- The numbers in a row. -/
def readRow (row : List Char) : List Nat :=
  (row.splitOn '-').map fun digits => (readDigits? hexValue? 16 digits).getD 0

/-- The rows of a table. -/
def readRows (table : String) : List (List Nat) :=
  ((table.toList.splitOnP Char.isWhitespace).filter (· ≠ [])).map readRow

/-- The first and the last code point of each range in a table. -/
def readRanges (table : String) : List (Nat × Nat) :=
  (readRows table).filterMap fun
    | [c] => some (c, c)
    | [first, last] => some (first, last)
    | _ => none

/-- Whether a character lies in one of the ranges. -/
def liesIn (ranges : List (Nat × Nat)) (c : Char) : Bool :=
  ranges.any fun (first, last) => first ≤ c.toNat && c.toNat ≤ last

end ServiceDiscovery.Text
