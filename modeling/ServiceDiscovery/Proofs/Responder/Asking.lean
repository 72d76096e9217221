import ServiceDiscovery.Proofs.Multicast.Origins
import ServiceDiscovery.Proofs.Multicast.Questions
import ServiceDiscovery.Proofs.Responder.Confinement
import ServiceDiscovery.Proofs.Responder.Learning

/-!
# Questions that are asked and answered

A responder that browses asks for all instances of a type, again and again.  To resolve an instance
it asks for the place of the name under which it knows it, which is in lower case, or for all
instances if it knows none.  A responder that has published a service answers questions about the
type, the name and the host of the service, whatever letter case they are in.

Questions fail to be asked only for names that are too long.  A type is shorter than the names of
its instances, and the name of an entry was read from a packet, so it is short enough.  That is so
for as long as the entry is there (`PeerTable.Lasting`, `Responder.tableHas_after`).  From this
`Responder.questions_are_answered`: what is asked about a service is answered by whoever has
published it.
-/

namespace ServiceDiscovery

open Dns (Name Packet Question Message)

/-- What a table has when it is empty, and keeps whatever it takes in. -/
structure PeerTable.Lasting (P : PeerTable → Prop) : Prop where
  empty (type : Name) (typeText : String) : P (.empty type typeText)
  takeIn {t : PeerTable} {p : Packet} {m : Message} (source : SocketAddress) :
    Message.decode? p = some m → P t → P (t.takeIn m.records source).1
  age {t : PeerTable} (tolerated : UInt8) : P t → P (t.age tolerated).1

namespace Responder

open LocalService (benchServer)

variable {P : PeerTable → Prop} {r r' : Responder}

/-! ### What a table keeps -/

/-- What was heard, if anything, has a property. -/
def TableHas (P : PeerTable → Prop) (r : Responder) : Prop := ∀ t, r.table? = some t → P t

namespace TableHas

theorem of_eq (h : r.TableHas P) (h_same : r'.table? = r.table?) : r'.TableHas P :=
  fun t ht => h t (h_same.symm.trans ht)

/-- Announcements do not touch what was heard. -/
theorem announceDue (h : r.TableHas P) (now : Nat) : (r.announceDue now).TableHas P := by
  refine announceDue_induction (fun r' announcements h => h.of_eq rfl) (fun r' place h => ?_) now h
  obtain h_eq | ⟨service, -, h_eq | h_eq⟩ := announce_cases place r' <;> rw [h_eq]
  · exact h
  · exact h.of_eq rfl
  · exact h.of_eq rfl

/-- Peers age as a query goes out. -/
theorem queryDue (hP : PeerTable.Lasting P) (h : r.TableHas P) (now : Nat) :
    (r.queryDue now).TableHas P := by
  obtain h_eq | ⟨b, hb, -, h_eq⟩ := queryDue_cases now r <;> rw [h_eq]
  · exact h
  · intro t ht
    obtain rfl := Option.some.inj ht
    exact hP.age _ (h b.table (table?_of_browsing hb))

theorem settleDue (h : r.TableHas P) (now : Nat) : (r.settleDue now).TableHas P := by
  obtain h_eq | ⟨b, hb, h_eq⟩ := settleDue_cases now r <;> rw [h_eq]
  · exact h
  · exact h.of_eq (table?_of_browsing hb).symm

theorem flushSome (h : r.TableHas P) (count : Nat) : (r.flushSome count).2.TableHas P := by
  obtain h_eq | ⟨t, -, h_eq⟩ := flushSome_cases count r <;> rw [h_eq]
  · exact h
  · exact h.of_eq rfl

/-- A response is taken in. -/
theorem receive (hP : PeerTable.Lasting P) (h : r.TableHas P) (octets : Packet)
    (source : SocketAddress) : (r.receive octets source).TableHas P := by
  obtain h_eq | ⟨m, h_decode, -, ⟨-, h_eq⟩ | ⟨-, h_eq⟩⟩ := receive_cases octets source r <;> rw [h_eq]
  · exact h
  · -- names that others claim do not touch the table
    obtain h_eq | ⟨b, hb, -, h_eq⟩ := takeIn_cases m source r <;> rw [h_eq]
    · exact h.of_eq rfl
    · intro t ht
      obtain rfl := Option.some.inj ht
      exact hP.takeIn source h_decode (h b.table (table?_of_browsing hb))
  · exact h.of_eq rfl

end TableHas

/-- What lasts is kept by everything that a responder does by itself. -/
theorem upheld_tableHas (hP : PeerTable.Lasting P) : Upheld (TableHas P) where
  announceDue now _ h := h.announceDue now
  queryDue now _ _ h := h.queryDue hP now
  settleDue now _ h := h.settleDue now
  expireDue _ _ h := h.of_eq rfl
  flushSome count _ h := h.flushSome count
  receive octets source _ _ h := h.receive hP octets source
  -- attached or not, the table is not touched by the sockets
  attach ha h := by
    obtain ⟨t, -, rfl⟩ | ⟨t, -, rfl⟩ := attach_cases ha
    · exact h
    · exact h.of_eq rfl
  fail h := h.of_eq rfl
  machine _ _ h := h.of_eq rfl

/-- Browsing begins with a table in which nothing is known. -/
theorem TableHas.browse (hP : PeerTable.Lasting P) (h : r.TableHas P) (type : String)
    (scope : IpScope) : (r.browse type scope).2.TableHas P := by
  obtain ⟨refusal, h_eq⟩ | ⟨b, -, -, hb, h_eq⟩ := browse_cases type scope r <;> rw [h_eq]
  · exact h
  · intro t ht
    obtain rfl := Option.some.inj ht
    show P b.table
    rw [table_beginBrowsing hb]
    exact hP.empty _ _

theorem TableHas.step (hP : PeerTable.Lasting P) (h : r.TableHas P) (input : Input) :
    (r.step input).1.TableHas P := by
  cases input with
  | publish ad =>
    show (r.publish ad).2.TableHas P
    obtain ⟨refusal, h_eq⟩ | ⟨host, service, -, -, -, h_eq⟩ := publish_cases ad r <;> rw [h_eq]
    · -- refused, nothing has changed; accepted, only the services and what is announced have
      exact h
    · exact h.of_eq rfl
  | browse type scope => exact h.browse hP type scope
  | resolve k q =>
    rw [(step_resolve k q r).1]
    obtain ⟨_, h_eq⟩ | ⟨_, h_eq⟩ | ⟨b, -, -, ⟨c, -, h_eq⟩ | ⟨packet, -, -, h_eq⟩⟩ :=
      resolve_cases k q r <;> rw [h_eq]
    · -- each outcome of a resolution keeps the browsing, and so its table
      exact h
    · exact h.of_eq rfl
    · exact h.of_eq rfl
    · exact h.of_eq rfl
  | release id => exact h.of_eq rfl
  | poll =>
    -- the turn keeps it, and taking out an event does not look at the table
    obtain ⟨r', h', h_step | ⟨event, events, -, h_step⟩⟩ := step_poll ((upheld_tableHas hP).turn h)
    · rw [h_step]
      exact h'
    · rw [h_step]
      exact h'.of_eq rfl
  | outside happening => exact (upheld_tableHas hP).undergo happening h

/-- **What a table keeps.** Whatever a responder is asked for, and whatever arrives, its table has
what lasts. -/
theorem tableHas_after (hP : PeerTable.Lasting P) (os : OperatingSystem) (settings : Settings)
    (opened : Opened) (inputs : List Input) :
    ((Dealings.ofResponder (.on os settings opened)).after inputs).responder.TableHas P := by
  induction inputs using List.reverseRecOn with
  | nil => exact fun t ht => absurd (show none = some t from ht) (by simp)
  | append_singleton inputs input ih =>
    rw [Dealings.after_concat]
    exact ih.step hP input

/-- Pointers that create entries are read from packets. -/
theorem lasting_traced : PeerTable.Lasting PeerTable.Traced where
  empty := .empty
  takeIn source h_decode h :=
    h.takeIn source fun _ hr => Message.pointsShort_of_decode? h_decode hr
  age tolerated h := h.age tolerated

/-! ### Questions -/

variable {s : LocalService} {b : Browsing} {k : Sighting} {p : IpScope} {packet : Packet}

/-- The name of a service is a label in front of its type. -/
theorem labels_of_vouched (h : s.Vouched) : ∃ label, s.name.labels = label :: s.type.labels := by
  obtain ⟨ad, host, addresses, ttl, h_create, -⟩ := h
  exact ⟨_, (LocalService.accepted_of_create h_create).name⟩

/-- Nothing is known of an instance, or what is known began with a pointer to the service. -/
def Awaits (k : Sighting) (s : LocalService) (t : PeerTable) : Prop :=
  k ∉ t.peers ∨ ∃ target, target.same s.name = true ∧ t.CreatedBy target k

/-- Where nothing is known, all instances are asked for. -/
theorem missingQuestion_of_none (h : b.table.name? k = none) :
    missingQuestion k b = questionPacket b.type .ptr false := by
  unfold missingQuestion
  dsimp only
  rw [h, Option.getD_none, Name.same_self, if_pos rfl]

/-- Otherwise the place of the name is asked for. -/
theorem missingQuestion_of_some {name : Name} (h : b.table.name? k = some name)
    (h_ne : name.same b.type = false) : missingQuestion k b = questionPacket name .srv false := by
  unfold missingQuestion
  dsimp only
  rw [h, Option.getD_some, h_ne]
  rfl

/-- What is missing to resolve an instance is asked of its service. -/
theorem askedBy_missingQuestion (h_traced : b.table.Traced) (h_vouched : s.Vouched)
    (h_type : b.type.same s.type = true) (h_awaits : Awaits k s b.table) :
    ∃ packet, missingQuestion k b = .ok packet ∧ s.AskedBy packet := by
  obtain ⟨label, h_label⟩ := labels_of_vouched h_vouched
  obtain h_none | ⟨target, h_target, h_created⟩ := h_awaits
  · -- the type is shorter than the name of the service, which was made from it
    have h_short : b.type.length < 255 := by
      rw [Name.length_of_same h_type]
      exact LocalService.type_length_lt h_label
    obtain ⟨packet, h_ok, -⟩ := questionPacket_ok h_short .ptr false
    have h_name : b.table.name? k = none := by
      rw [PeerTable.name?, Std.ExtTreeMap.getElem?_eq_none h_none, Option.map_none]
    exact ⟨packet, (missingQuestion_of_none h_name).trans h_ok,
      LocalService.askedBy_of_answers h_short (LocalService.answers_type h_type false) h_ok⟩
  · have h_name : target.lower.same s.name = true := by
      rw [Name.same_iff, Name.lower_lower]
      exact Name.same_iff.mp h_target
    -- the pointer that created the entry was read, so its name can be asked about
    have h_short : target.lower.length < 255 := by
      obtain ⟨peer, h_peer, -⟩ := Option.map_eq_some_iff.mp h_created.name?
      obtain ⟨a, ha, h_created'⟩ := h_traced k (PeerTable.mem_of_peer h_peer)
      have h_same : target.lower.same a = true := by
        rw [Name.same_iff, Name.lower_lower]
        exact Name.same_iff.mp (h_created.same h_created')
      rw [Name.length_of_same h_same]
      exact ha
    obtain ⟨packet, h_ok, -⟩ := questionPacket_ok h_short .srv false
    have h_ne := LocalService.not_same_type h_label h_name h_type
    exact ⟨packet, (missingQuestion_of_some h_created.name? h_ne).trans h_ok,
      LocalService.askedBy_of_answers h_short (LocalService.answers_name h_name false) h_ok⟩

/-- A resolution asks for what is missing, if anything is. -/
theorem resolve_asks (hb : r.browsing = some b) (h_missing : missingQuestion k b = .ok packet)
    (p : IpScope) :
    if r.state = .failure ∨ (b.table.contact? k p).isSome then
      (r.resolve k p).2.outgoing = r.outgoing
    else
      (r.resolve k p).1 = .ok r.nextResolution ∧
        (r.resolve k p).2.outgoing = r.outgoing ++ [(packet, .groups p)] := by
  unfold resolve
  by_cases h_failed : r.state = .failure
  · -- a responder that has failed answers at once
    simp [h_failed]
  · cases h_contact : b.table.contact? k p with
    -- so does one that knows the contact: it has nothing to ask for
    | some contact => simp [h_failed, hb, h_contact]
    | none => simp [h_failed, hb, h_contact, h_missing]

/-- The periodic question. -/
theorem queryDue_asks (hb : r.browsing = some b) {now : Nat} (h_due : b.queryAt ≤ now) :
    (r.queryDue now).outgoing = r.outgoing ++ [(b.query, .groups b.scope)] := by
  unfold queryDue
  rw [hb]
  dsimp only
  rw [if_pos h_due]

/-! ### Answers -/

/-- **Questions reach their subject.** Two responders are set up on sockets, and then each is asked
for anything in any order, while packets arrive, the clock goes on and the system refuses what it
likes. One comes to browse for the type of a service that the other has published.

* The question that is asked again and again is about the service.  So is the question that is asked
  by a resolution, if nothing is known of the instance, or what is known began with a pointer to the
  service; it is asked unless the contact is known, or the responder has failed.
* Whoever has published the service, and receives a question about it over a family in its scope,
  answers with its announcement, to the group of that family.  Other services answer for themselves,
  so the announcement is sent once, unless another service has the same one. -/
theorem questions_are_answered (os os' : OperatingSystem) (settings settings' : Settings)
    (opened opened' : Opened) (inputs inputs' : List Input) :
    let asker := ((Dealings.ofResponder (.on os settings opened)).after inputs).responder
    let publisher := ((Dealings.ofResponder (.on os' settings' opened')).after inputs').responder
    ∀ b s, asker.browsing = some b → s ∈ publisher.services → b.type.same s.type = true →
      (s.AskedBy b.query ∧ ∀ now, b.queryAt ≤ now →
        (asker.queryDue now).outgoing = asker.outgoing ++ [(b.query, .groups b.scope)]) ∧
      (∀ k p, Awaits k s b.table →
        if asker.state = .failure ∨ (b.table.contact? k p).isSome then
          (asker.resolve k p).2.outgoing = asker.outgoing
        else
          ∃ id packet, s.AskedBy packet ∧ (asker.resolve k p).1 = .ok id ∧
            (asker.resolve k p).2.outgoing = asker.outgoing ++ [(packet, .groups p)]) ∧
      ∀ packet source, s.AskedBy packet → s.scope.includes source.scope = true →
        ∃ m, Message.decode? packet = some m ∧
          ∀ front back, publisher.services = front ++ s :: back →
            publisher.receive packet source =
              { publisher with
                outgoing := publisher.outgoing ++ (answersTo m source front ++
                  (s.announcement, .groups source.scope) :: answersTo m source back) } ∧
            ((∀ s' ∈ front ++ back, s'.announcement ≠ s.announcement) → ∀ destination,
              (s.announcement, destination) ∉ answersTo m source front ++ answersTo m source back) := by
  intro asker publisher b s hb hs h_type
  -- both responders are reachable ones: what was asked for and what was published was accepted
  have h_asks : Confined (Heard inputs) asker := confined_after os settings opened inputs
  have h_vouched : s.Vouched := (confined_after os' settings' opened' inputs').vouched s hs
  have h_traced : b.table.Traced := by
    refine tableHas_after lasting_traced os settings opened inputs b.table ?_
    show asker.browsing.map (·.table) = some b.table
    rw [hb, Option.map_some]
  refine ⟨⟨?_, fun now h_due => queryDue_asks hb h_due⟩, fun k p h_awaits => ?_, ?_⟩
  · -- the packet that is sent again and again was made when browsing began
    obtain ⟨label, h_label⟩ := labels_of_vouched h_vouched
    have h_short : b.type.length < 255 := by
      rw [Name.length_of_same h_type]
      exact LocalService.type_length_lt h_label
    have h_query : questionPacket b.type .ptr false = .ok b.query := by
      refine h_asks.search b.type b.scope b.query ?_
      rw [search, hb, Option.map_some]
    exact LocalService.askedBy_of_answers h_short (LocalService.answers_type h_type false) h_query
  · -- what is asked for an instance names a record of the service, since its name was read off one
    obtain ⟨packet, h_missing, h_asked⟩ :=
      askedBy_missingQuestion h_traced h_vouched h_type h_awaits
    have h_resolve := resolve_asks hb h_missing p
    split
    · -- the resolution ended at once, and nothing went out
      next h_idle => rwa [if_pos h_idle] at h_resolve
    · next h_busy =>
      rw [if_neg h_busy] at h_resolve
      exact ⟨_, packet, h_asked, h_resolve.1, h_resolve.2⟩
  · -- who answers needs to know nothing of who asked but the packet
    intro packet source h_asked h_scope
    obtain ⟨q, h_decode, h_unicast, h_answers⟩ := h_asked.question
    refine ⟨.query q, h_decode, fun front back h_services => ⟨?_, fun h_others destination h_mem => ?_⟩⟩
    · -- the line is cut at the service: its answer stands between those before it and after it
      rw [receive_question h_asked.fits h_decode, h_services, List.append_cons, answersTo_append,
        answersTo_append, answersTo_singleton h_answers h_unicast h_scope, List.append_assoc,
        List.singleton_append]
    · -- an answer that equals the announcement is some service's own announcement
      rw [← answersTo_append] at h_mem
      obtain ⟨s', hs', -, question, -, h_eq⟩ := mem_answersTo h_mem
      exact h_others s' hs' (Prod.mk.inj h_eq).1.symm

/-- A host called "bench" with one address. -/
def benchSystem : OperatingSystem where
  hostName := .ok (Utf8.bytes "bench")
  interfaces := [{ name := "eth0", index := 2, address := some (.v4 ⟨192, 168, 1, 7⟩) }]
  listingFault := none
  refuses _ _ := none

/-- The responder of this host, on a socket for IPv4. -/
def benchResponder : Responder := .on benchSystem {} { transport := .v4 }

/-- The server is accepted there. -/
theorem exists_publish_bench : ∃ s,
    benchResponder.publish benchServer = (.ok (), benchResponder.addService s) ∧
      s.scope = .any ∧ typeName serverType = .ok s.type ∧ s.type.length = 18 := by
  -- what the host is called and where it is reachable is computed
  have h_name : benchResponder.hostName = "bench" := by decide
  have h_advertised : LocalService.advertised benchServer benchResponder.advertised =
      [.v4 ⟨192, 168, 1, 7⟩] := by decide
  have h_some : LocalService.advertised benchServer benchResponder.advertised ≠ [] := by
    rw [h_advertised]
    simp
  obtain ⟨host, s, h_host, h_create, h_length⟩ :=
    LocalService.exists_create_bench h_some (by rw [h_advertised]; decide)
  refine ⟨s, ?_, (LocalService.asPublished_of_create h_create).2,
    (LocalService.accepted_of_create h_create).type, h_length⟩
  -- the name and the service are made in one go, as `publish` makes them
  have h_made : (hostNameOf benchResponder.hostName >>= fun host =>
      LocalService.create benchServer host benchResponder.advertised benchResponder.settings.ttl) =
        .ok s := by
    have h_ttl : benchResponder.settings.ttl = 120 := rfl
    rw [h_name, h_host, h_ttl]
    simp only [Bind.bind, Except.bind]
    exact h_create
  unfold publish
  rw [if_neg (by decide)]
  simp only [h_made]

/-- Whoever browses there asks for a type that is short enough. -/
theorem exists_browse_bench {type : Name} (h_type : typeName serverType = .ok type)
    (h_short : type.length < 255) : ∃ b,
      (benchResponder.browse serverType .any).2.browsing = some b ∧ b.type = type := by
  obtain ⟨query, h_query, -⟩ := questionPacket_ok h_short .ptr false
  have h_begins : ∃ b, benchResponder.beginBrowsing serverType .any = .ok b ∧ b.type = type := by
    simp [beginBrowsing, h_type, h_query, Bind.bind, Except.bind, Except.mapError, pure,
      Except.pure]
  obtain ⟨b, hb, hb_type⟩ := h_begins
  refine ⟨b, ?_, hb_type⟩
  unfold browse
  rw [if_neg (by decide), if_neg (by decide), hb]

theorem after_browse (type : String) (scope : IpScope) (r : Responder) :
    ((Dealings.ofResponder r).after [.browse type scope]).responder = (r.browse type scope).2 := by
  rw [Dealings.after, List.foldl_cons, List.foldl_nil]
  rfl

theorem after_publish (ad : Advertisement) (r : Responder) :
    ((Dealings.ofResponder r).after [.publish ad]).responder = (r.publish ad).2 := by
  rw [Dealings.after, List.foldl_cons, List.foldl_nil]
  rfl

/-- Of two responders of this host, one publishes the server, and the other browses for its type.
What the second asks is answered by the first, once. -/
theorem bench_is_answered :
    let asker := ((Dealings.ofResponder benchResponder).after [.browse serverType .any]).responder
    let publisher := ((Dealings.ofResponder benchResponder).after [.publish benchServer]).responder
    ∃ b s, asker.browsing = some b ∧ publisher.services = [s] ∧
      (publisher.receive b.query LocalService.benchSource).outgoing =
        [(s.announcement, .groups .v4)] := by
  obtain ⟨s, h_publish, h_scope, h_type, h_length⟩ := exists_publish_bench
  obtain ⟨b, hb, hb_type⟩ := exists_browse_bench h_type (by rw [h_length]; decide)
  have h_services : (benchResponder.addService s).services = [] ++ s :: [] := rfl
  have h_answered := questions_are_answered benchSystem benchSystem {} {} { transport := .v4 }
    { transport := .v4 } [.browse serverType .any] [.publish benchServer] b s
  have h_bench : Responder.on benchSystem {} { transport := .v4 } = benchResponder := rfl
  -- both responders are the same one before it is told anything
  simp only [h_bench, after_browse, after_publish, h_publish] at h_answered ⊢
  obtain ⟨⟨h_asked, -⟩, -, h_answers⟩ := h_answered hb (h_services ▸ List.mem_singleton_self s)
    (by rw [hb_type, Name.same_self])
  obtain ⟨m, -, h_all⟩ := h_answers b.query LocalService.benchSource h_asked (by rw [h_scope]; rfl)
  refine ⟨b, s, hb, h_services, ?_⟩
  rw [(h_all [] [] h_services).1]
  rfl

end Responder
end ServiceDiscovery
