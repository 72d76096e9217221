import ServiceDiscovery.Net.IpAddress

/-!
# The text of an address

An IPv4 address is written as four decimal octets with dots.  An IPv6 address is written as
RFC 5952 asks: groups in lower-case hexadecimal without leading zeros, colons between them, and
the longest run of zero groups left out if it has at least two, the leftmost of several equally
long ones (`zeroRun`).  Only an address that embeds an IPv4 address behind `::ffff:` ends in the
dotted form.

`Ipv4.parse?` and `Ipv6.parse?` read every text that is written this way, and the other spellings
of RFC 4291: upper-case digits, leading zeros up to four digits, any one run of zero groups left
out, a dotted tail behind any prefix.
-/

namespace ServiceDiscovery

/-! ### Writing -/

/-- The digits of a number in lower-case hexadecimal. -/
def hexDigits (n : Nat) : List Char := Nat.toDigits 16 n

/-- The digits of a number in base ten. -/
def decimalDigits (n : Nat) : List Char := Nat.toDigits 10 n

/-- Groups in hexadecimal with colons between them. -/
def Ipv6.spellGroups : List UInt16 → List Char
  | [] => []
  | [g] => hexDigits g.toNat
  | g :: h :: gs => hexDigits g.toNat ++ ':' :: Ipv6.spellGroups (h :: gs)

/-- Where the first of the longest runs of zero groups starts, and its length. -/
def Ipv6.zeroRun (groups : List UInt16) : Nat × Nat :=
  (List.range groups.length).foldl
    (fun best i =>
      let n := ((groups.drop i).takeWhile (· == 0)).length
      if best.2 < n then (i, n) else best)
    (0, 0)

/-- The IPv4 address an IPv6 address carries behind the groups `::ffff`. -/
def Ipv6.mapped? (x : Ipv6) : Option Ipv4 :=
  match x.octets with
  | [0, 0, 0, 0, 0, 0, 0, 0, 0, 0, 255, 255, a, b, c, d] => some ⟨a, b, c, d⟩
  | _ => none

def Ipv4.spell (x : Ipv4) : List Char :=
  decimalDigits x.a.toNat ++ '.' :: decimalDigits x.b.toNat ++ '.' ::
    decimalDigits x.c.toNat ++ '.' :: decimalDigits x.d.toNat

def Ipv6.spell (x : Ipv6) : List Char :=
  match x.mapped? with
  | some y => "::ffff:".toList ++ y.spell
  | none =>
    let groups := x.groups.toList
    let (start, length) := Ipv6.zeroRun groups
    if 2 ≤ length then
      spellGroups (groups.take start) ++ "::".toList ++ spellGroups (groups.drop (start + length))
    else spellGroups groups

def Ipv4.text (x : Ipv4) : String := String.ofList x.spell

def Ipv6.text (x : Ipv6) : String := String.ofList x.spell

def IpAddress.text : IpAddress → String
  | .v4 x => x.text
  | .v6 x => x.text

/-! ### Reading -/

/-- The value of a hexadecimal digit of either case. -/
def hexValue? (c : Char) : Option Nat :=
  if '0' ≤ c ∧ c ≤ '9' then some (c.toNat - 48)
  else if 'a' ≤ c ∧ c ≤ 'f' then some (c.toNat - 87)
  else if 'A' ≤ c ∧ c ≤ 'F' then some (c.toNat - 55)
  else none

/-- The value of a decimal digit. -/
def decimalValue? (c : Char) : Option Nat :=
  if '0' ≤ c ∧ c ≤ '9' then some (c.toNat - 48) else none

/-- The number that digits of a base spell, most significant first. -/
def readDigits? (value? : Char → Option Nat) (base : Nat) (cs : List Char) : Option Nat :=
  cs.foldlM (fun n c => (value? c).map (base * n + ·)) 0

/-- A decimal octet: one to three digits, no leading zero, at most 255. -/
def readOctet? (cs : List Char) : Option UInt8 :=
  if cs = [] ∨ 3 < cs.length ∨ (1 < cs.length ∧ cs.head? = some '0') then none
  else (readDigits? decimalValue? 10 cs).bind fun n =>
    if n < 256 then some (UInt8.ofNat n) else none

/-- A group of one to four hexadecimal digits. -/
def readGroup? (cs : List Char) : Option UInt16 :=
  if cs = [] ∨ 4 < cs.length then none
  else (readDigits? hexValue? 16 cs).map UInt16.ofNat

def Ipv4.read? (cs : List Char) : Option Ipv4 :=
  match (cs.splitOn '.').mapM readOctet? with
  | some [a, b, c, d] => some ⟨a, b, c, d⟩
  | _ => none

/-- Groups between colons, of which the last may be a dotted IPv4 address. -/
def Ipv6.readParts? : List (List Char) → Option (List UInt16)
  | [] => some []
  | [part] =>
    if '.' ∈ part then
      (Ipv4.read? part).map fun x =>
        [UInt16.ofNat (256 * x.a.toNat + x.b.toNat), UInt16.ofNat (256 * x.c.toNat + x.d.toNat)]
    else (readGroup? part).map ([·])
  | part :: parts => do return (← readGroup? part) :: (← Ipv6.readParts? parts)

/-- No characters are no groups; otherwise groups between colons. -/
def Ipv6.readRun? (cs : List Char) : Option (List UInt16) :=
  if cs = [] then some [] else Ipv6.readParts? (cs.splitOn ':')

/-- The texts before and after the first double colon. -/
def Ipv6.splitAtGap? : List Char → Option (List Char × List Char)
  | ':' :: ':' :: cs => some ([], cs)
  | c :: cs => (Ipv6.splitAtGap? cs).map fun (front, back) => (c :: front, back)
  | [] => none

/-- The address whose groups these are, if there are eight. -/
def Ipv6.ofList? (groups : List UInt16) : Option Ipv6 :=
  if h : groups.length = 8 then some ⟨⟨groups.toArray, by simpa using h⟩⟩ else none

def Ipv6.read? (cs : List Char) : Option Ipv6 :=
  match Ipv6.splitAtGap? cs with
  | none => (Ipv6.readRun? cs).bind Ipv6.ofList?
  | some (front, back) => do
    let front ← Ipv6.readRun? front
    let back ← Ipv6.readRun? back
    if front.length + back.length < 8 then
      Ipv6.ofList? (front ++ List.replicate (8 - front.length - back.length) 0 ++ back)
    else none

def Ipv4.parse? (text : String) : Option Ipv4 := Ipv4.read? text.toList

def Ipv6.parse? (text : String) : Option Ipv6 := Ipv6.read? text.toList

def IpAddress.parse? (text : String) : Option IpAddress :=
  match Ipv4.parse? text with
  | some x => some (.v4 x)
  | none => (Ipv6.parse? text).map .v6

end ServiceDiscovery
