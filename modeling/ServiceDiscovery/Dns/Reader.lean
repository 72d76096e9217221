import ServiceDiscovery.Dns.Draft

/-!
# Reading messages

A `Reader` goes from a place in a packet to a value and the next place, or fails; one failure
makes the whole packet unreadable.

A name is read label by label up to a zero octet or a pointer, which goes on with the name at an
earlier place (`labelsAt`).  A pointer must lead before the start of the name it is in, and the
name it leads to must be over before that start, so following pointers ends: the start falls with
each of them, and between two of them the place rises.  A name whose length is 255 or more is
refused, so that of a name that just fits a `Name` is not readable though it may be written through
a pointer.

The data of a record must take exactly as many octets as the record says; none at all is allowed
for every type and is then no data.
-/

namespace ServiceDiscovery.Dns

/-- A step of reading a packet: from a place to a value and the next place. -/
abbrev Reader := ReaderT Packet (StateT Nat Option)

/-- The labels of a name that starts at `start`, read from place `i`, where every label, pointer
or final zero must start before `limit`; and the place after the name. -/
def labelsAt (p : Packet) (start limit i : Nat) : Option (List Label × Nat) :=
  if i < limit then
    match p[i]? with
    | none => none
    | some b =>
      if b = 0 then some ([], i + 1)
      else if b < 0x40 then
        let next := i + 1 + b.toNat
        if next ≤ p.size then
          (labelsAt p start limit next).map fun (ls, j) => ((p.extract (i + 1) next).toList :: ls, j)
        else none
      else if 0xc0 ≤ b then
        match p[i + 1]? with
        | none => none
        | some low =>
          let target := (b.toNat - 0xc0) * 256 + low.toNat
          if target < start then (labelsAt p target start target).map fun (ls, _) => (ls, i + 2)
          else none
      else none
  else none
termination_by (start, limit - i)

namespace Reader

/-- Gives up. -/
def refuse {α : Type} : Reader α := fun _ _ => none

def octet : Reader UInt8 := fun p i => p[i]?.map (·, i + 1)

/-- Two octets as a number, high octet first. -/
def word : Reader UInt16 := do
  let high ← octet
  let low ← octet
  return high.toUInt16 <<< 8 ||| low.toUInt16

/-- Four octets as a number, high octet first. -/
def doubleWord : Reader UInt32 := do
  let high ← word
  let low ← word
  return high.toUInt32 <<< 16 ||| low.toUInt32

/-- The next octets, as many as asked for. -/
def octets (n : Nat) : Reader (List UInt8) := fun p i =>
  if i + n ≤ p.size then some ((p.extract i (i + n)).toList, i + n) else none

/-- The current place. -/
def place : Reader Nat := fun _ i => some (i, i)

/-- How many octets are left. -/
def remaining : Reader Nat := fun p i => some (p.size - i, i)

def name : Reader Name := fun p i =>
  (labelsAt p i p.size i).bind fun (labels, j) =>
    if 255 ≤ labelsLength labels then none else (Name.ofLabels? labels).map (·, j)

/-- As many items as asked for. -/
def many {α : Type} (item : Reader α) : Nat → Reader (List α)
  | 0 => return []
  | n + 1 => return (← item) :: (← many item n)

/-! ### Questions and records -/

/-- Classes that are known, leaving out the top bit. -/
def knownClass (c : UInt16) : Bool :=
  [1, 3, 4, 254, 255].contains (c &&& 0x7fff)

/-- Operations that are known. -/
def knownOpcode (c : UInt16) : Bool := [0, 2, 4, 5].contains c

def question : Reader Question := do
  let name ← name
  let type ← word
  let cls ← word
  if knownClass cls then return { name, type, unicast := cls &&& 0x8000 != 0 } else refuse

/-- Octets taken apart into strings, each behind an octet with its length. -/
def strings? : List UInt8 → Option (List (List UInt8))
  | [] => some []
  | n :: rest =>
    if n.toNat ≤ rest.length then
      (strings? (rest.drop n.toNat)).map (rest.take n.toNat :: ·)
    else none
termination_by octets => octets.length
decreasing_by simp only [List.length_drop, List.length_cons]; omega

def address4 : Reader Ipv4 :=
  return ⟨← octet, ← octet, ← octet, ← octet⟩

def address6 : Reader Ipv6 :=
  return .ofGroups (← word) (← word) (← word) (← word) (← word) (← word) (← word) (← word)

/-- Data of some octets, of which there is at least one, that are not to be looked at. -/
def unseenData (type : RecordType) (n : Nat) : Reader RecordData := do
  let _ ← octets n
  return .other type

/-- The data of a record, given the number of its octets, not 0. -/
def dataOf (type : RecordType) (n : Nat) : Reader RecordData :=
  if type = .ptr then return .ptr (← name)
  else if type = .srv then return .srv (← word) (← word) (← word) (← name)
  else if type = .txt then do
    match strings? (← octets n) with
    | some entries => return .txt entries
    | none => refuse
  else if type = .a then return .a (← address4)
  else if type = .aaaa then return .aaaa (← address6)
  else if type = .ns ∨ type = .cname then do
    let _ ← name
    return .other type
  else if type = .mx then do
    let _ ← word
    let _ ← name
    return .other type
  else if type = .hinfo then do
    match strings? (← octets n) with
    | some [_, _] => return .other type
    | _ => refuse
  else if type = .zero ∨ type = .any ∨ type = .axfr ∨ type = .ixfr then refuse
  else unseenData type n

/-- The data of a record, which must take exactly the number of octets given. -/
def data (type : RecordType) (n : Nat) : Reader RecordData := do
  if n = 0 then return .other type
  else if (← remaining) < n then refuse
  else
    let start ← place
    let d ← dataOf type n
    if (← place) = start + n then return d else refuse

/-- A record.  The class of the extension record says something else and is not looked at; its
owner must be the root. -/
def record : Reader Record := do
  let owner ← name
  let type ← word
  let cls ← word
  if type = RecordType.opt then
    if owner ≠ Name.root then refuse
  else if !knownClass cls then refuse
  let ttl ← doubleWord
  let n ← word
  return { owner, ttl, cacheFlush := cls &&& 0x8000 != 0, data := ← data type n.toNat }

/-- Whether a record carries extensions. -/
def isExtension (r : Record) : Bool := r.data.type == .opt

/-- A whole message.  Extension records among the additionals are no records of the message, and
there may be only one. -/
def message : Reader Message := do
  let _ ← word
  let flags ← word
  if !knownOpcode ((flags >>> 11) &&& 0xf) then refuse
  let questions ← word
  let answers ← word
  let authorities ← word
  let additionals ← word
  let questions ← many question questions.toNat
  let answers ← many record answers.toNat
  let _ ← many record authorities.toNat
  let additionals ← many record additionals.toNat
  if 1 < additionals.countP isExtension then refuse
  return {
    isResponse := flags &&& 0x8000 != 0
    truncated := flags &&& 0x0200 != 0
    questions
    answers
    additionals := additionals.filter (!isExtension ·) }

end Reader

/-- The message that a packet holds; octets behind it do not matter. -/
def Message.decode? (p : Packet) : Option Message :=
  (Reader.message p 0).map (·.1)

end ServiceDiscovery.Dns
