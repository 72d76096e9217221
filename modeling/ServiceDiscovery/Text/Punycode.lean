/-!
# Punycode

Punycode (RFC 3492) writes a label with arbitrary characters in ASCII: its ASCII characters stand
before the last hyphen, and behind it stands where the others are inserted, in the order of their
code points.  Each insertion is a number, which counts how far to go on from the insertion before,
over all places in the label and then over the code points.  The number is written in digits of
base 36, least significant first; a digit below a threshold is its last.  Thresholds follow a bias,
which adapts to how far apart the insertions are.

`decode?` reads the digits one by one (`Insertion.digit?`), so it ends with the text.
-/

namespace ServiceDiscovery.Punycode

/-- The value of a digit: letters of either case are 0 to 25, and the ten digits follow. -/
def digitValue? (c : Char) : Option Nat :=
  if 'a' ≤ c ∧ c ≤ 'z' then some (c.toNat - 97)
  else if 'A' ≤ c ∧ c ≤ 'Z' then some (c.toNat - 65)
  else if '0' ≤ c ∧ c ≤ '9' then some (c.toNat - 48 + 26)
  else none

/-- Below which value the digit at a position is the last of its number; positions count in steps
of 36. -/
def threshold (position bias : Nat) : Nat :=
  if position ≤ bias then 1 else if bias + 26 ≤ position then 26 else position - bias

/-- How often a distance is divided by 35 until it is small, times 36, and what is left. -/
def shrink (distance : Nat) : Nat × Nat :=
  if 455 < distance then
    let (steps, rest) := shrink (distance / 35)
    (steps + 36, rest)
  else (0, distance)
termination_by distance
decreasing_by exact Nat.div_lt_self (by omega) (by omega)

/-- The bias after an insertion that made a label of some length. -/
def adapt (distance length : Nat) (first : Bool) : Nat :=
  let distance := if first then distance / 700 else distance / 2
  let (steps, rest) := shrink (distance + distance / length)
  steps + 36 * rest / (rest + 38)

/-- Numbers do not go beyond 32 bits. -/
def limit : Nat := 4294967296

/-- A label into which characters are being inserted. -/
structure Insertion where
  label : List Char
  /-- The code point of the last insertion. -/
  codePoint : Nat
  /-- The place behind the last insertion, from which the next number counts on. -/
  place : Nat
  bias : Nat
  /-- The number that is being read, with the place it counts on from. -/
  number : Nat
  /-- How much the next digit counts. -/
  weight : Nat
  /-- The position of the next digit, 36 for the first. -/
  position : Nat

namespace Insertion

/-- Before the first insertion. -/
def start (label : List Char) : Insertion :=
  { label, codePoint := 128, place := 0, bias := 72, number := 0, weight := 1, position := 36 }

/-- Inserts the character that the number says. -/
def insert? (s : Insertion) : Option Insertion :=
  let length := s.label.length + 1
  let codePoint := s.codePoint + s.number / length
  let place := s.number % length
  if codePoint.isValidChar then
    some {
      label := s.label.insertIdx place (Char.ofNat codePoint)
      codePoint
      place := place + 1
      bias := adapt (s.number - s.place) length (s.place == 0)
      number := place + 1
      weight := 1
      position := 36 }
  else none

/-- Takes in a digit. -/
def digit? (s : Insertion) (c : Char) : Option Insertion := do
  let digit ← digitValue? c
  let t := threshold s.position s.bias
  let s := { s with number := s.number + digit * s.weight }
  if limit ≤ s.number then none
  else if digit < t then s.insert?
  else
    let weight := s.weight * (36 - t)
    if limit ≤ weight then none
    else some { s with weight, position := s.position + 36 }

end Insertion

/-- Inserts characters into a label. -/
def insertAll? (label digits : List Char) : Option (List Char) :=
  (digits.foldlM Insertion.digit? (.start label)).bind fun s =>
    if s.position = 36 then some s.label else none

/-- The label that a text stands for.  A hyphen with nothing before it separates nothing. -/
def decode? (cs : List Char) : Option (List Char) :=
  match cs.reverse.span (· ≠ '-') with
  | (digits, []) => insertAll? [] digits.reverse
  | (_, [_]) => none
  | (digits, _ :: label) =>
    if label.all (·.toNat < 128) then insertAll? label.reverse digits.reverse else none

end ServiceDiscovery.Punycode
