import ServiceDiscovery.Dns.Name
import ServiceDiscovery.Text.Idna

/-!
# The text of a name

A name is shown as its labels with a dot behind each, the root as a single dot.  ASCII letters,
digits, `_`, `-` (not as the first octet of a label) and `*` (only as the first) stand for
themselves.  Any other octet that shows is written behind a backslash, so that a dot inside a label
can be told from the dots between labels; the rest are written as a backslash and three octal
digits.  An internationalized label is shown as what it stands for.
-/

namespace ServiceDiscovery.Dns

/-- Whether an octet is an ASCII letter or digit. -/
def isAlphanumeric (b : UInt8) : Bool :=
  (48 ≤ b && b ≤ 57) || (65 ≤ b && b ≤ 90) || (97 ≤ b && b ≤ 122)

/-- Three octal digits. -/
def octal3 (b : UInt8) : List Char :=
  let n := b.toNat
  [n / 64, n / 8 % 8, n % 8].map Nat.digitChar

/-- How an octet of a label is shown. -/
def spellOctet (first : Bool) (b : UInt8) : List Char :=
  let c := Char.ofNat b.toNat
  if isAlphanumeric b || c == '_' || (c == '-' && !first) || (c == '*' && first) then [c]
  else if 0x21 ≤ b && b ≤ 0x7e then ['\\', c]
  else '\\' :: octal3 b

/-- How a label is shown octet by octet. -/
def Label.spellOctets : Label → List Char
  | [] => []
  | b :: bs => spellOctet true b ++ bs.flatMap (spellOctet false)

/-- Whether a label is marked as internationalized, by `xn--` in small letters. -/
def Label.isInternationalized (l : Label) : Bool := l.take 4 == [0x78, 0x6e, 0x2d, 0x2d]

/-- How a label is shown: as what it stands for if it is an internationalized one, otherwise octet
by octet. -/
def Label.spell (l : Label) : List Char :=
  if l.isInternationalized then (Idna.unicode? (Utf8.decodeLossy l)).getD l.spellOctets
  else l.spellOctets

namespace Name

def spell (n : Name) : List Char :=
  match n.labels with
  | [] => ['.']
  | labels => labels.flatMap fun l => Label.spell l ++ ['.']

def text (n : Name) : String := String.ofList n.spell

/-- The text without the dots at its end. -/
def hostText (n : Name) : String :=
  String.ofList (n.spell.reverse.dropWhile (· == '.')).reverse

end Name

end ServiceDiscovery.Dns
