import ServiceDiscovery.Dns.Message

/-!
# Writing messages

A `Draft` is a packet being written: its octets so far, and the places at which endings of names
start.  Names share endings.  A name is first written label by label; if one of its endings has a
known place, the first such ending gives way to a pointer to the earliest place known for it, and
the endings before it become known at their own places (`shorten`).  Pointers hold fourteen bits,
so places are only learnt while the name ends below offset 0x3fff.  The target of a service record
is written in lower case and always in full; its endings become known unless they already are.

A packet holds at most 65535 octets.  It is filled piece by piece (`Draft.put`): a piece that does
not fit is not begun, and writing stops with what is there (`Stop.full`).  A record that stops in
the middle stays in the packet unfinished, but is not counted; the rest of its section is left
out, and the message is marked truncated (`Message.encode`).
-/

namespace ServiceDiscovery.Dns

/-- A message as octets. -/
abbrev Packet := Array UInt8

/-- The most octets a packet holds. -/
def packetLimit : Nat := 65535

/-- Names that end at this offset or later leave no places behind. -/
def placeLimit : Nat := 0x3fff

/-- A packet being written. -/
structure Draft where
  octets : Packet
  /-- Endings of names and where they start, earliest first. -/
  places : List (List Label × Nat)

/-- Why writing stops. -/
inductive Stop
  /-- The next piece does not fit; this is what was written before it. -/
  | full (left : Draft)
  /-- A name takes this many octets, more than a name may. -/
  | nameTooLong (octets : Nat)

/-- A name as octets, without the final zero. -/
def nameOctets (labels : List Label) : List UInt8 :=
  labels.flatMap fun l => UInt8.ofNat l.length :: l

/-- A number as two octets, high octet first. -/
def octets16 (n : UInt16) : List UInt8 := [(n >>> 8).toUInt8, n.toUInt8]

/-- A number as four octets, high octet first. -/
def octets32 (n : UInt32) : List UInt8 :=
  [(n >>> 24).toUInt8, (n >>> 16).toUInt8, (n >>> 8).toUInt8, n.toUInt8]

namespace Draft

/-- The length of the packet so far. -/
def size (d : Draft) : Nat := d.octets.size

/-- Writes a piece, if it fits. -/
def put (piece : List UInt8) (d : Draft) : Except Stop Draft :=
  if d.size + piece.length ≤ packetLimit then .ok { d with octets := d.octets ++ piece }
  else .error (.full d)

/-- Writes pieces one after the other. -/
def putAll (pieces : List (List UInt8)) (d : Draft) : Except Stop Draft :=
  pieces.foldlM (fun d piece => d.put piece) d

/-- Writes octets behind an octet with their number. -/
def putCounted (octets : List UInt8) (d : Draft) : Except Stop Draft :=
  d.putAll [[UInt8.ofNat octets.length], octets]

/-- Writes labels, each behind its length. -/
def putLabels (labels : List Label) (d : Draft) : Except Stop Draft :=
  labels.foldlM (fun d l => d.putCounted l) d

/-- Overwrites two octets that have been written. -/
def patch16 (place : Nat) (n : UInt16) (d : Draft) : Draft :=
  { d with
    octets := (d.octets.setIfInBounds place (n >>> 8).toUInt8).setIfInBounds (place + 1) n.toUInt8 }

/-! ### Names -/

/-- Goes through the endings of a name written at `start`.  Learns the places of those that are
not known (if `learning`), up to the first that is; says where that one starts and to which place
it can point. -/
def shorten (learning : Bool) (places : List (List Label × Nat)) :
    (start : Nat) → List Label → List (List Label × Nat) × Option (Nat × Nat)
  | _, [] => (places, none)
  | start, l :: ls =>
    match places.lookup (l :: ls) with
    | some place => (places, some (start, place))
    | none =>
      shorten learning (if learning then places ++ [(l :: ls, start)] else places)
        (start + l.length + 1) ls

/-- Learns the places of all endings that are not known of a name written at `start`. -/
def learn (learning : Bool) (places : List (List Label × Nat)) :
    (start : Nat) → List Label → List (List Label × Nat)
  | _, [] => places
  | start, l :: ls =>
    learn learning
      (if learning && (places.lookup (l :: ls)).isNone then places ++ [(l :: ls, start)] else places)
      (start + l.length + 1) ls

/-- Ends a name that was begun at `start` and is written in full. -/
def endName (start : Nat) (d : Draft) : Except Stop Draft := do
  let d ← d.put [0]
  if 255 < d.size - start then throw (.nameTooLong (d.size - start)) else return d

/-- Writes a name, with a pointer for an ending that has a known place. -/
def putName (n : Name) (d : Draft) : Except Stop Draft := do
  let start := d.size
  let d ← d.putLabels n.labels
  match shorten (d.size < placeLimit) d.places start n.labels with
  | (places, some (cut, place)) =>
    put (octets16 (0xc000 ||| UInt16.ofNat place)) { octets := d.octets.take cut, places }
  | (places, none) => endName start { d with places }

/-- Writes a name in lower case and in full. -/
def putTarget (n : Name) (d : Draft) : Except Stop Draft := do
  let start := d.size
  let d ← d.putLabels n.lower.labels
  endName start { d with places := learn (d.size < placeLimit) d.places start n.lower.labels }

/-! ### Questions and records -/

/-- The class IN, perhaps with the top bit that multicast DNS uses. -/
def classIn (mark : Bool) : UInt16 := if mark then 0x8001 else 1

def putQuestion (q : Question) (d : Draft) : Except Stop Draft := do
  let d ← d.putName q.name
  d.putAll [octets16 q.type, octets16 (classIn q.unicast)]

def putData (data : RecordData) (d : Draft) : Except Stop Draft :=
  match data with
  | .ptr target => d.putName target
  | .srv priority weight port target => do
    let d ← d.putAll [octets16 priority, octets16 weight, octets16 port]
    d.putTarget target
  | .txt entries => entries.foldlM (fun d entry => d.putCounted entry) d
  | .a address => d.putAll (address.octets.map ([·]))
  | .aaaa address => d.putAll (address.groups.toList.map octets16)
  | .other _ => return d

/-- Writes a record.  The length of its data is filled in once the data is written. -/
def putRecord (r : Record) (d : Draft) : Except Stop Draft := do
  let d ← d.putName r.owner
  let d ← d.putAll
    [octets16 r.data.type, octets16 (classIn r.cacheFlush), octets32 r.ttl]
  let place := d.size
  let d ← d.put [0, 0]
  let d ← d.putData r.data
  return d.patch16 place (UInt16.ofNat (d.size - (place + 2)))

/-- Writes the items of a section until one does not fit; says how many are complete. -/
def putSection {α : Type} (putItem : α → Draft → Except Stop Draft) (items : List α) (d : Draft) :
    Except Nat (Draft × Nat) :=
  go items 0 d
where
  go : List α → Nat → Draft → Except Nat (Draft × Nat)
  | [], count, d => .ok (d, count)
  | item :: items, count, d =>
    match putItem item d with
    | .ok d => go items (count + 1) d
    | .error (.full left) => .ok (left, count)
    | .error (.nameTooLong octets) => .error octets

end Draft

namespace Message

/-- The flags of a message: responses are authoritative, and everything else is left clear. -/
def flags (isResponse truncated : Bool) : UInt16 :=
  (if isResponse then 0x8400 else 0) ||| (if truncated then 0x0200 else 0)

/-- The twelve octets before the sections: the flags and the numbers of items. -/
def header (flags : UInt16) (questions answers additionals : Nat) : List UInt8 :=
  [0, flags, UInt16.ofNat questions, UInt16.ofNat answers, 0, UInt16.ofNat additionals].flatMap octets16

/-- The packet of a message, or the number of octets that a name in it would take if that is too
many. -/
def encode (m : Message) : Except Nat Packet := do
  let blank : Draft := { octets := (header 0 0 0 0).toArray, places := [] }
  let (d, questions) ← blank.putSection Draft.putQuestion m.questions
  let (d, answers) ← d.putSection Draft.putRecord m.answers
  let (d, additionals) ← d.putSection Draft.putRecord m.additionals
  let cut := questions < m.questions.length || answers < m.answers.length ||
    additionals < m.additionals.length
  return (header (flags m.isResponse (m.truncated || cut)) questions answers additionals).toArray ++
    d.octets.extract 12

end Message

end ServiceDiscovery.Dns
