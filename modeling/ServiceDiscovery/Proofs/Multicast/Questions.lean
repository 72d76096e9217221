import ServiceDiscovery.Multicast.Responder
import ServiceDiscovery.Proofs.Multicast.Announcement

/-!
# Questions and the services they are about

A question about a name that can be read has a packet, which is small, and is read as the question
(`questionPacket_ok`).  Two of these questions are about a service: the one for pointers from its
type, and the one for the place of its name, each in any letter case (`LocalService.answers_type`,
`LocalService.answers_name`).  The name has a label more than the type, so that the two are not
mistaken for each other (`LocalService.not_same_type`).

Whoever receives such a question, and has published the service, answers with its announcement, once
(`Responder.receive_question`).
-/

namespace ServiceDiscovery

open Dns (Label Name Packet Question Message RecordType)

/-! ### Packets of questions -/

namespace Dns

open Draft

theorem takes_putQuestion {known : List Label} {q : Question} (h_short : q.name.length < 255) :
    Takes known (putQuestion q) (q.name.length + 1 + 4) :=
  (takes_putName (.inl h_short)).bind
    (takes_putAll [octets16 q.type, octets16 (classIn q.unicast)])

/-- All that a query says is its question. -/
theorem putBody_query (q : Question) : putBody (.query q) = putQuestion q := by
  funext d
  simp [putBody, putEach, Message.query]

/-- **Questions are read as they are asked.** -/
theorem exists_query_encode {q : Question} (h_short : q.name.length < 255) :
    ∃ p, (Message.query q).encode = .ok p ∧ p.size < 272 ∧
      Message.decode? p = some (.query q) := by
  have h_nothing : Knows [] blankDraft := fun h => absurd rfl h
  have h_blank : blankDraft.size = 12 := rfl
  obtain ⟨d, h_put, h_size, -⟩ | ⟨left, -, h_room, -⟩ :=
    takes_putQuestion h_short blankDraft h_nothing
  · -- the question is put, so what is encoded is what was put after the header
    rw [← putBody_query] at h_put
    obtain ⟨d', h_body, h_encode⟩ | ⟨left, h_body, -⟩ | ⟨octets, h_body, -⟩ :=
      encode_cases (.query q) rfl
    · obtain rfl := Except.ok.inj (h_put.symm.trans h_body)
      have h_clear : marksTruncation ((fullHeader (.query q)).toArray ++ d.octets.extract 12) =
          false := by
        rw [fullHeader, marksTruncation_header]
        rfl
      have h_legible : (Message.query q).Legible := {
        questions := fun q' hq' => List.mem_singleton.mp hq' ▸ h_short
        answers := fun _ hr => absurd hr List.not_mem_nil
        additionals := fun _ hr => absurd hr List.not_mem_nil }
      refine ⟨_, h_encode, ?_, Message.decode?_encode h_legible rfl h_encode h_clear⟩
      have h_header : (fullHeader (.query q)).toArray.size = 12 := rfl
      have h_octets : d.octets.size = d.size := rfl
      rw [Array.size_append, Array.size_extract]
      omega
    · exact absurd (h_put.symm.trans h_body) (by simp)
    · exact absurd (h_put.symm.trans h_body) (by simp)
  · -- there is room enough for a single name
    have h_limit : packetLimit = 65535 := rfl
    omega

/-- Names that are the same take the same room. -/
theorem Name.length_of_same {a b : Name} (h : a.same b = true) : a.length = b.length := by
  have h_lower : ∀ n : Name, n.lower.length = n.length := fun n =>
    Name.labelsLength_map_lower n.labels
  rw [← h_lower a, ← h_lower b, Name.same_iff.mp h]

end Dns

theorem questionPacket_ok {name : Name} (h_short : name.length < 255) (type : RecordType)
    (unicast : Bool) :
    ∃ p, questionPacket name type unicast = .ok p ∧ p.size ≤ receiveLimit ∧
      Message.decode? p = some (.query { name, type, unicast }) := by
  obtain ⟨p, h_encode, h_size, h_decode⟩ :=
    Dns.exists_query_encode (q := { name, type, unicast }) h_short
  refine ⟨p, LocalService.mapError_eq_ok.mpr h_encode, ?_, h_decode⟩
  exact Nat.le_of_lt (Nat.lt_trans h_size (by decide))

/-! ### Questions about a service -/

namespace LocalService

variable {s : LocalService} {name type : Name}

/-- A packet asks a question about the service, whose answer is to go to all: whoever receives it
reads a query with this question. -/
structure AskedBy (p : Packet) (s : LocalService) : Prop where
  fits : p.size ≤ receiveLimit
  question : ∃ q : Question, Message.decode? p = some (.query q) ∧ q.unicast = false ∧
    s.answers q = true

theorem answers_type (h : name.same s.type = true) (unicast : Bool) :
    s.answers { name, type := .ptr, unicast } = true := by
  unfold answers
  rw [if_pos rfl]
  exact h

theorem answers_name (h : name.same s.name = true) (unicast : Bool) :
    s.answers { name, type := .srv, unicast } = true := by
  unfold answers
  rw [if_neg (show ¬ RecordType.srv = RecordType.ptr by decide), if_pos (.inl rfl)]
  exact h

/-- A packet of a question about a service asks for it. -/
theorem askedBy_of_answers {recordType : RecordType} (h_short : name.length < 255)
    (h_answers : s.answers { name, type := recordType, unicast := false } = true) {p : Packet}
    (h : questionPacket name recordType false = .ok p) : s.AskedBy p := by
  obtain ⟨p', h_ok, h_fits, h_decode⟩ := questionPacket_ok h_short recordType false
  obtain rfl := Except.ok.inj (h.symm.trans h_ok)
  exact ⟨h_fits, _, h_decode, rfl, h_answers⟩

/-- The name of a service is longer than its type, in whatever letter case they are. -/
theorem not_same_type {label : Label} (h : s.name.labels = label :: s.type.labels)
    (h_name : name.same s.name = true) (h_type : type.same s.type = true) :
    name.same type = false := by
  rw [Bool.eq_false_iff]
  intro h_same
  have h_length : s.name.length = s.type.length :=
    calc s.name.length = name.length := (Name.length_of_same h_name).symm
      _ = type.length := Name.length_of_same h_same
      _ = s.type.length := Name.length_of_same h_type
  -- a label takes room, if only for its length
  rw [Name.length, h, Dns.labelsLength] at h_length
  have h_tail : Dns.labelsLength s.type.labels = s.type.length := rfl
  omega

end LocalService

/-! ### Answers -/

namespace Responder

variable {s : LocalService} {q : Question} {source : SocketAddress}

theorem answersTo_append (m : Message) (source : SocketAddress) (front back : List LocalService) :
    answersTo m source (front ++ back) = answersTo m source front ++ answersTo m source back := by
  simp [answersTo]

/-- A service that is asked for answers once, to the group of the family over which the question
came. -/
theorem answersTo_singleton (h_answers : s.answers q = true) (h_unicast : q.unicast = false)
    (h_scope : s.scope.includes source.scope = true) :
    answersTo (.query q) source [s] = [(s.announcement, .groups source.scope)] := by
  simp [answersTo, Message.query, h_answers, h_unicast, h_scope]

/-- A question is answered, and changes nothing else. -/
theorem receive_question {p : Packet} (h_fits : p.size ≤ receiveLimit)
    (h_decode : Message.decode? p = some (.query q)) (r : Responder) :
    r.receive p source =
      { r with outgoing := r.outgoing ++ answersTo (.query q) source r.services } := by
  -- what is received is the whole packet
  have h_all : p.take receiveLimit = p := by
    rw [Array.take_eq_extract]
    exact Array.extract_eq_self_of_le h_fits
  unfold receive
  rw [h_all, h_decode]
  rfl

end Responder

end ServiceDiscovery
