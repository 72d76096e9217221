/-!
# UTF-8

`Utf8.encode` writes characters as octets.  `Utf8.decodeLossy` reads octets as characters and
never fails: a run of octets that begins like a character but cannot be continued to one stands
for a single replacement character, and reading goes on at the octet that broke the run.  A run
ends where the ranges of RFC 3629 rule every continuation out, so an octet that can start nothing
is a run by itself.

Octets are valid UTF-8 exactly when encoding what they read as gives them back; that is how
`Utf8.decode?` decides.
-/

namespace ServiceDiscovery.Utf8

/-- The octets of characters. -/
def encode (cs : List Char) : List UInt8 :=
  cs.flatMap String.utf8EncodeChar

/-- The octets of a text. -/
def bytes (text : String) : List UInt8 := encode text.toList

/-- The character that stands for octets that are none. -/
def replacement : Char := '\uFFFD'

/-- A character of which some octets have been read. -/
structure Begun where
  /-- How many octets are still owed, at least one. -/
  owed : Nat
  /-- The least octet that may come next. -/
  low : UInt8
  /-- The greatest octet that may come next. -/
  high : UInt8
  /-- The number spelled by the octets so far. -/
  value : Nat
deriving DecidableEq, Repr

/-- The character an octet of two or more begins. -/
def begin? (b : UInt8) : Option Begun :=
  let v := b.toNat
  if 0xc2 ≤ v ∧ v ≤ 0xdf then some ⟨1, 0x80, 0xbf, v - 0xc0⟩
  else if v = 0xe0 then some ⟨2, 0xa0, 0xbf, 0⟩
  else if v = 0xed then some ⟨2, 0x80, 0x9f, 13⟩
  else if 0xe1 ≤ v ∧ v ≤ 0xef then some ⟨2, 0x80, 0xbf, v - 0xe0⟩
  else if v = 0xf0 then some ⟨3, 0x90, 0xbf, 0⟩
  else if 0xf1 ≤ v ∧ v ≤ 0xf3 then some ⟨3, 0x80, 0xbf, v - 0xf0⟩
  else if v = 0xf4 then some ⟨3, 0x80, 0x8f, 4⟩
  else none

/-- The number after one more octet. -/
def Begun.extend (p : Begun) (b : UInt8) : Nat := p.value * 64 + (b.toNat - 0x80)

/-- What an octet that does not continue a character completes and begins. -/
def fresh (b : UInt8) : List Char × Option Begun :=
  if b < 0x80 then ([Char.ofNat b.toNat], none)
  else
    match begin? b with
    | some p => ([], some p)
    | none => ([replacement], none)

/-- What an octet completes, and the character it leaves begun. -/
def step : Option Begun → UInt8 → List Char × Option Begun
  | none, b => fresh b
  | some p, b =>
    if p.low ≤ b ∧ b ≤ p.high then
      if p.owed ≤ 1 then ([Char.ofNat (p.extend b)], none)
      else ([], some ⟨p.owed - 1, 0x80, 0xbf, p.extend b⟩)
    else (replacement :: (fresh b).1, (fresh b).2)

/-- Reads octets, perhaps in the middle of a character. -/
def decodeFrom : Option Begun → List UInt8 → List Char
  | none, [] => []
  | some _, [] => [replacement]
  | begun, b :: bs => (step begun b).1 ++ decodeFrom (step begun b).2 bs

/-- The characters octets stand for, with replacement characters where they stand for none. -/
def decodeLossy (bs : List UInt8) : List Char := decodeFrom none bs

/-- The text octets stand for, with replacement characters where they stand for none. -/
def textLossy (bs : List UInt8) : String := String.ofList (decodeLossy bs)

/-- The text octets stand for, if they are valid. -/
def decode? (bs : List UInt8) : Option String :=
  if encode (decodeLossy bs) = bs then some (textLossy bs) else none

end ServiceDiscovery.Utf8
