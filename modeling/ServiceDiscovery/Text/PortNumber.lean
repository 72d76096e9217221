import ServiceDiscovery.Text.Quoted

/-!
# Port numbers in text

A port is given as text: a decimal number of at most 65535, perhaps behind a plus sign, with blanks
around it.  Blanks are the characters with Unicode's White_Space property.  The text is read from
the left, and what makes it unreadable first is what is reported: a character that is no digit, or
the digit at which the number gets too large.
-/

namespace ServiceDiscovery.Text

/-- Characters with the White_Space property. -/
def isBlank (c : Char) : Bool :=
  let n := c.toNat
  (9 ≤ n && n ≤ 13) || n == 0x20 || n == 0x85 || n == 0xa0 || n == 0x1680
    || (0x2000 ≤ n && n ≤ 0x200a) || n == 0x2028 || n == 0x2029 || n == 0x202f || n == 0x205f
    || n == 0x3000

/-- The text without the blanks at its ends. -/
def strip (cs : List Char) : List Char :=
  ((cs.dropWhile isBlank).reverse.dropWhile isBlank).reverse

/-- Why a text is not a port number. -/
inductive PortFault
  | empty
  | invalidDigit
  | tooLarge
deriving DecidableEq, Repr

def PortFault.message : PortFault → String
  | empty => "cannot parse integer from empty string"
  | invalidDigit => "invalid digit found in string"
  | tooLarge => "number too large to fit in target type"

/-- One more digit behind a number. -/
def appendDigit (n : Nat) (c : Char) : Except PortFault Nat :=
  match decimalValue? c with
  | none => .error .invalidDigit
  | some d => if 10 * n + d < 65536 then .ok (10 * n + d) else .error .tooLarge

/-- The number that the characters spell. -/
def readPort : List Char → Except PortFault Nat
  | [] => .error .empty
  | ['+'] => .error .invalidDigit
  | '+' :: cs => cs.foldlM appendDigit 0
  | cs => cs.foldlM appendDigit 0

/-- The port a text names. -/
def parsePort (text : String) : Except PortFault UInt16 :=
  (readPort (strip text.toList)).map UInt16.ofNat

end ServiceDiscovery.Text
