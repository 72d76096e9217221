import ServiceDiscovery.Proofs.Dns.Limits

/-!
# Packets that are cut

Where there is no room for a piece, writing stops in the middle of an item, and what was written of
it stays in the packet, though it is not counted.  So what a packet says that is marked as truncated
has to be looked at as well.

Writing that stops for want of room leaves what was written before as it was (`Leaves`).  So a
section that is cut begins with the items that are counted (`putSection_cut`).  If only the last
section is cut, as in a response with a single answer, then nothing is read of the item in the
middle of which writing stopped: the packet holds the message without the items that are not counted
(`Message.holds_cutTo`).  If that answer and the first record behind it are short enough, then the
packet was only written because the target of that record can be read
(`Message.target_length_lt_of_room`).
-/

namespace ServiceDiscovery.Dns

open Draft

/-! ### Writing that stops -/

/-- Where writing stops for want of room, it leaves what was there, and stays within the limit. -/
def Leaves (put : Draft → Except Stop Draft) : Prop :=
  ∀ d left, put d = .error (.full left) →
    d.octets.toList <+: left.octets.toList ∧ (d.size ≤ packetLimit → left.size ≤ packetLimit)

/-- What ends badly began badly, or went bad later. -/
theorem bind_eq_error {ε α β : Type} {x : Except ε α} {f : α → Except ε β} {e : ε} :
    x >>= f = .error e ↔ x = .error e ∨ ∃ a, x = .ok a ∧ f a = .error e := by
  cases x with
  | error e' => simp [Bind.bind, Except.bind]
  | ok a => simp [Bind.bind, Except.bind]

theorem Writes.extends {f : Draft → Except Stop Draft} {a : Layout} (hf : Writes f a) {d d' : Draft}
    (h : f d = .ok d') : d.octets.toList <+: d'.octets.toList :=
  ⟨_, (hf d d' h).1.symm⟩

namespace Leaves

variable {f g : Draft → Except Stop Draft} {a : Layout}

/-- Where writing does not stop for want of room. -/
theorem of_never (h : ∀ d left, f d ≠ .error (.full left)) : Leaves f :=
  fun d left h_stop => absurd h_stop (h d left)

/-- It stops in the first item, or in the next. -/
theorem bind (hf : Leaves f) (hw : Writes f a) (hg : Leaves g) : Leaves (fun d => f d >>= g) := by
  intro d left h
  obtain h_first | ⟨d', h_ok, h_next⟩ := bind_eq_error.mp h
  · exact hf d left h_first
  · obtain ⟨h_left, h_limit⟩ := hg d' left h_next
    exact ⟨(hw.extends h_ok).trans h_left, fun h_le => h_limit ((hw d d' h_ok).2.2 h_le)⟩

/-- Changing what is left in the end changes nothing where writing stops before. -/
theorem bind_pure (hf : Leaves f) (change : Draft → Draft → Draft) :
    Leaves (fun d => do let d' ← f d; return change d d') := by
  intro d left h
  obtain h_first | ⟨d', -, h_ok⟩ := bind_eq_error.mp h
  · exact hf d left h_first
  · exact absurd h_ok (by simp [pure, Except.pure])

end Leaves

theorem leaves_put (piece : List UInt8) : Leaves (put piece) := by
  intro d left h
  unfold put at h
  split at h
  · exact absurd h (by simp)
  · obtain rfl := Stop.full.inj (Except.error.inj h)
    exact ⟨List.prefix_refl _, id⟩

theorem leaves_putAll (pieces : List (List UInt8)) : Leaves (putAll pieces) := by
  induction pieces with
  | nil => exact .of_never fun _ _ => by simp [putAll, pure, Except.pure]
  | cons piece pieces ih => exact (leaves_put piece).bind (writes_put piece) ih

theorem leaves_foldlM_putCounted (entries : List (List UInt8)) :
    Leaves (fun d => entries.foldlM (fun d entry => d.putCounted entry) d) := by
  induction entries with
  | nil => exact .of_never fun _ _ => by simp [pure, Except.pure]
  | cons entry entries ih => exact (leaves_putAll _).bind (writes_putCounted entry) ih

/-- Ending a name stops for want of room only before its final zero. -/
theorem endName_full {start : Nat} {d left : Draft} (h : endName start d = .error (.full left)) :
    put [0] d = .error (.full left) := by
  unfold endName at h
  obtain h_first | ⟨d', -, h_end⟩ := bind_eq_error.mp h
  · exact h_first
  · split at h_end
    · exact absurd h_end (by simp [throw, throwThe, MonadExceptOf.throw])
    · exact absurd h_end (by simp [pure, Except.pure])

/-- A name that is cut back to a pointer is cut back to its own start at most. -/
theorem leaves_putName (n : Name) : Leaves (putName n) := by
  intro d left h
  unfold putName at h
  have h_labels : Leaves (putLabels n.labels) := leaves_foldlM_putCounted n.labels
  obtain h_first | ⟨d', h_ok, h_end⟩ := bind_eq_error.mp h
  · -- the labels do not fit
    exact h_labels d left h_first
  · -- the labels fit, and a pointer or the zero octet does not
    obtain ⟨h_octets, -, h_limit⟩ := writes_putLabels n.labels d d' h_ok
    have h_start := (writes_putLabels n.labels).extends h_ok
    split at h_end
    · next places cut place h_shorten =>
      obtain ⟨h_left, h_size⟩ := leaves_put _ _ left h_end
      -- the cut is not before the start of the name
      have h_cut : d.size ≤ cut := by
        rcases shorten_snd (d'.size < placeLimit) d'.places d.size n.labels with
          ⟨h_none, -⟩ | ⟨before, ending, place', -, -, h_some, -⟩
        · rw [h_shorten] at h_none
          exact absurd h_none (by simp)
        · rw [h_shorten] at h_some
          rw [(Prod.mk.inj (Option.some.inj h_some)).1]
          exact Nat.le_add_right _ _
      -- what was there before the name is not cut off
      have h_take : d.octets.toList <+: (d'.octets.take cut).toList := by
        have h_toList : (d'.octets.take cut).toList = d'.octets.toList.take cut := by simp
        rw [h_toList]
        refine List.prefix_take_iff.mpr ⟨h_start, ?_⟩
        rw [Array.length_toList]
        exact h_cut
      refine ⟨h_take.trans h_left, fun h_le => h_size ?_⟩
      refine Nat.le_trans ?_ (h_limit h_le)
      show (d'.octets.take cut).size ≤ d'.octets.size
      rw [Array.take_eq_extract, Array.size_extract, Nat.sub_zero]
      exact Nat.min_le_right _ _
    · -- no ending is known
      next places h_shorten =>
      obtain ⟨h_left, h_size⟩ := leaves_put _ _ left (endName_full h_end)
      exact ⟨h_start.trans h_left, fun h_le => h_size (h_limit h_le)⟩

theorem leaves_putTarget (n : Name) : Leaves (putTarget n) := by
  intro d left h
  unfold putTarget at h
  have h_labels : Leaves (putLabels n.lower.labels) := leaves_foldlM_putCounted n.lower.labels
  obtain h_first | ⟨d', h_ok, h_end⟩ := bind_eq_error.mp h
  · -- the labels do not fit
    exact h_labels d left h_first
  · -- they do, and the zero octet does not
    obtain ⟨-, -, h_limit⟩ := writes_putLabels n.lower.labels d d' h_ok
    obtain ⟨h_left, h_size⟩ := leaves_put _ _ left (endName_full h_end)
    exact ⟨((writes_putLabels n.lower.labels).extends h_ok).trans h_left,
      fun h_le => h_size (h_limit h_le)⟩

theorem leaves_putData (data : RecordData) : Leaves (putData data) := by
  -- one case for each kind of data
  cases data with
  | ptr target => exact leaves_putName target
  | srv priority weight port target =>
    exact (leaves_putAll _).bind (writes_putAll _) (leaves_putTarget target)
  | txt entries => exact leaves_foldlM_putCounted entries
  | a address => exact leaves_putAll _
  | aaaa address => exact leaves_putAll _
  | other type => exact .of_never fun _ _ => by simp [putData, pure, Except.pure]

/-- A record in the middle of which writing stops stays unfinished. -/
theorem leaves_putRecord (r : Record) : Leaves (putRecord r) := by
  have h_data : Leaves fun d => put [0, 0] d >>= putData r.data :=
    (leaves_put _).bind (writes_put _) (leaves_putData r.data)
  rw [putRecord_eq]
  exact (leaves_putName r.owner).bind (writes_putName r.owner) <|
    (leaves_putAll _).bind (writes_putAll _) <|
      h_data.bind_pure fun d d' => d'.patch16 d.size (UInt16.ofNat (d'.size - (d.size + 2)))

/-! ### Sections that are cut -/

/-- **Cut sections.** A section begins with the items that are counted, and keeps what was before
it. -/
theorem putSection_cut {α : Type} {putItem : α → Draft → Except Stop Draft}
    (h_leaves : ∀ item, Leaves (putItem item)) {items : List α} {d d' : Draft} {count : Nat}
    (h : putSection putItem items d = .ok (d', count)) :
    count ≤ items.length ∧ ∃ whole, putEach putItem (items.take count) d = .ok whole ∧
      whole.octets.toList <+: d'.octets.toList ∧
      (whole.size ≤ packetLimit → d'.size ≤ packetLimit) := by
  -- counting from `n`, as the section does on its way
  suffices h_go : ∀ (items : List α) (n : Nat) (d : Draft),
      putSection.go putItem items n d = .ok (d', count) → n ≤ count ∧ count ≤ n + items.length ∧
        ∃ whole, putEach putItem (items.take (count - n)) d = .ok whole ∧
          whole.octets.toList <+: d'.octets.toList ∧
          (whole.size ≤ packetLimit → d'.size ≤ packetLimit) by
    obtain ⟨-, h_count, h_whole⟩ := h_go items 0 d h
    exact ⟨Nat.zero_add items.length ▸ h_count, h_whole⟩
  intro items
  induction items with
  | nil =>
    intro n d h
    obtain ⟨rfl, rfl⟩ := Prod.mk.inj (Except.ok.inj h)
    exact ⟨Nat.le_refl _, Nat.le_refl _, d, by simp [putEach, pure, Except.pure],
      List.prefix_refl _, id⟩
  | cons item items ih =>
    intro n d h
    unfold putSection.go at h
    cases h_item : putItem item d with
    -- the item is put, and the rest is counted behind it
    | ok d₁ =>
      rw [h_item] at h
      obtain ⟨h_le, h_count, whole, h_each, h_rest⟩ := ih (n + 1) d₁ h
      refine ⟨Nat.le_of_succ_le h_le, ?_, whole, ?_, h_rest⟩
      · rw [List.length_cons]
        omega
      · have h_one : count - n = (count - (n + 1)) + 1 := by omega
        rw [h_one, List.take_succ_cons, putEach, List.foldlM_cons]
        exact bind_eq_ok.mpr ⟨d₁, h_item, h_each⟩
    | error stop =>
      rw [h_item] at h
      cases stop with
      | nameTooLong octets => exact absurd h (by simp)
      | full left =>
        -- nothing of this item is counted
        obtain ⟨rfl, rfl⟩ := Prod.mk.inj (Except.ok.inj h)
        exact ⟨Nat.le_refl _, Nat.le_add_right _ _, d, by simp [putEach, pure, Except.pure],
          h_leaves item d _ h_item⟩

/-! ### Packets that are cut -/

/-- A message without the additional records behind the first `count`, perhaps marked. -/
def Message.cutTo (m : Message) (cut : Bool) (count : Nat) : Message :=
  { m with truncated := cut, additionals := m.additionals.take count }

/-- **Cut packets.** Where there is no question and room for all answers, a packet holds a message
that leaves out at most some of the additional records. -/
theorem Message.holds_cutTo {m : Message} (h_questions : m.questions = []) {d : Draft}
    (h_answers : putEach putRecord m.answers blankDraft = .ok d) {p : Packet}
    (h : m.encode = .ok p) : ∃ cut count,
      p.size ≤ packetLimit ∧
        Holds p 0 (fullHeader (m.cutTo cut count) ++ (bodyLayout (m.cutTo cut count) 12 []).1) := by
  obtain ⟨d₁, questions, d₂, answers, d₃, count, h₁, h₂, h₃, rfl⟩ := encode_ok h
  -- the first two sections are complete
  rw [h_questions] at h₁
  obtain ⟨rfl, rfl⟩ := Prod.mk.inj (Except.ok.inj h₁)
  rcases putSection_cases putRecord m.answers blankDraft with
    ⟨d', h_each, h_section⟩ | ⟨left, n, h_each, -⟩ | ⟨octets, h_each, -⟩
  rotate_left
  · rw [h_answers] at h_each
    exact absurd h_each (by simp)
  · rw [h_answers] at h_each
    exact absurd h_each (by simp)
  obtain rfl := Except.ok.inj (h_answers.symm.trans h_each)
  obtain ⟨rfl, rfl⟩ := Prod.mk.inj (Except.ok.inj (h_section.symm.trans h₂))
  -- and the last one begins with what is counted
  obtain ⟨h_count, whole, h_whole, h_start, h_limit⟩ := putSection_cut leaves_putRecord h₃
  generalize h_cut : (m.truncated || _) = cut
  -- the message with the cut is the one whose body is written in full
  have h_body : putBody (m.cutTo cut count) blankDraft = .ok whole := by
    unfold putBody cutTo
    rw [h_questions]
    exact bind_eq_ok.mpr ⟨blankDraft, rfl, bind_eq_ok.mpr ⟨d, h_answers, h_whole⟩⟩
  obtain ⟨h_octets, -, h_small⟩ := writes_putBody _ blankDraft whole h_body
  obtain ⟨rest, h_rest⟩ := h_start
  rw [h_octets] at h_rest
  -- the header counts what the message with the cut has
  have h_header : (fullHeader (m.cutTo cut count)) = Message.header (Message.flags m.isResponse cut)
      m.questions.length m.answers.length count := by
    unfold fullHeader cutTo
    rw [List.length_take, Nat.min_eq_left h_count]
  have h_blank : blankDraft.octets.toList.length = 12 := rfl
  -- the packet has the body of the cut message behind its header, and some rest
  have h_behind : (d₃.octets.extract 12).toList =
      (bodyLayout (m.cutTo cut count) 12 []).1 ++ rest := by
    have h_drop : (d₃.octets.extract 12).toList = d₃.octets.toList.drop 12 := by
      rw [Array.toList_extract, List.extract_eq_take_drop]
      exact List.take_of_length_le (by simp)
    rw [h_drop, ← h_rest, ← h_blank, List.append_assoc, List.drop_left]
    rfl
  have h_size : d₃.octets.size ≤ packetLimit := h_limit (h_small (by decide))
  refine ⟨cut, count, ?_, ?_⟩
  · -- the rest is within the limit
    have h_le := congrArg List.length h_rest
    simp only [List.length_append, h_blank, Array.length_toList] at h_le
    have h_head : (Message.header (Message.flags m.isResponse cut) 0 m.answers.length
        count).length = 12 := rfl
    rw [Array.size_append, List.size_toArray, Array.size_extract, h_head]
    omega
  · refine ⟨rest, ?_⟩
    rw [List.drop_zero, Array.toList_append, h_behind, h_header, h_questions, List.append_assoc]
    rfl

/-! ### Targets in packets that are cut -/

/-- Writing stops for want of room only where there is not so much room; if it ends well it takes no
more.  It may also stop for the length of a name. -/
def Spares (known : List Label) (put : Draft → Except Stop Draft) (room : Nat) : Prop :=
  ∀ d, Knows known d → (∀ d', put d = .ok d' → d'.size ≤ d.size + room ∧ Knows known d') ∧
    ∀ left, put d = .error (.full left) → packetLimit < d.size + room

section Spares

variable {known : List Label} {f g : Draft → Except Stop Draft} {a b : Nat}

theorem Takes.spares (h : Takes known f a) : Spares known f a := by
  intro d h_known
  rcases h d h_known with ⟨d', h_ok, h_taken⟩ | ⟨left, h_full, h_room, -⟩
  · rw [h_ok]
    exact ⟨fun _ h => Except.ok.inj h ▸ h_taken, fun _ h => absurd h (by simp)⟩
  · rw [h_full]
    exact ⟨fun _ h => absurd h (by simp), fun _ _ => h_room⟩

theorem Spares.bind (hf : Spares known f a) (hg : Spares known g b) :
    Spares known (fun d => f d >>= g) (a + b) := by
  intro d h_known
  obtain ⟨hf_ok, hf_full⟩ := hf d h_known
  constructor
  · -- both fit
    intro d'' h
    obtain ⟨d', h_first, h_second⟩ := bind_eq_ok.mp h
    obtain ⟨h_size, h_known'⟩ := hf_ok d' h_first
    obtain ⟨h_size', h_known''⟩ := (hg d' h_known').1 d'' h_second
    exact ⟨by omega, h_known''⟩
  · -- the first does not fit, or the second does not
    intro left h
    obtain h_first | ⟨d', h_first, h_second⟩ := bind_eq_error.mp h
    · have h_room := hf_full left h_first
      omega
    · obtain ⟨h_size, h_known'⟩ := hf_ok d' h_first
      have h_room := (hg d' h_known').2 left h_second
      omega

/-- A target of any length stops for want of room only where there is not room for it. -/
theorem spares_putTarget (n : Name) : Spares known (putTarget n) (n.length + 1) := by
  intro d h_known
  constructor
  · -- what is written is short enough
    intro d' h
    exact (takes_putTarget (length_lt_of_putTarget h)).spares d h_known |>.1 d' h
  · intro left h
    have h_lower : labelsLength n.lower.labels = n.length := Name.labelsLength_map_lower n.labels
    unfold putTarget at h
    obtain h_labels | ⟨d', h_labels, h_end⟩ := bind_eq_error.mp h
    · have h_room := ((takes_putLabels n.lower.labels).spares d h_known).2 left h_labels
      omega
    · have h_size : d'.size = d.size + n.length := by
        rw [(writes_putLabels n.lower.labels).size h_labels, ← h_lower]
        exact congrArg _ (length_nameOctets _)
      have h_same : ({ d' with
        places := learn (d'.size < placeLimit) d'.places d.size n.lower.labels } : Draft).size =
          d'.size := rfl
      -- only the final zero is missing
      have h_nothing : Knows [] { d' with
        places := learn (d'.size < placeLimit) d'.places d.size n.lower.labels } :=
          fun h => absurd rfl h
      have h_room := ((takes_put [0]).spares _ h_nothing).2 left (endName_full h_end)
      rw [h_same, h_size, List.length_singleton] at h_room
      omega

/-- So does a service record whose owner ends in what is known. -/
theorem spares_putRecord {r : Record} {priority weight port : UInt16} {target : Name}
    (h_data : r.data = .srv priority weight port target) (h_owner : r.owner.Writable known) :
    Spares known (putRecord r) r.room := by
  have h_target : Spares known (putData r.data) r.data.room := by
    rw [h_data]
    exact (takes_putAll [octets16 priority, octets16 weight, octets16 port]).spares.bind
      (spares_putTarget target)
  have h_measured : Spares known
      (fun d => do
        let d' ← (put [0, 0] d >>= putData r.data)
        return d'.patch16 d.size (UInt16.ofNat (d'.size - (d.size + 2))))
      (2 + r.data.room) := by
    intro d h_known
    obtain ⟨h_ok, h_full⟩ := ((takes_put [0, 0]).spares.bind h_target) d h_known
    constructor
    · -- the data is put, and the length set in front of it
      intro d' h
      obtain ⟨e, h_put, h⟩ := bind_eq_ok.mp h
      obtain ⟨h_size, h_known'⟩ := h_ok e h_put
      obtain rfl := Except.ok.inj h
      refine ⟨?_, h_known'⟩
      simpa [patch16, Draft.size] using h_size
    · -- the data does not fit
      intro left h
      obtain h_put | ⟨e, -, h⟩ := bind_eq_error.mp h
      · exact h_full left h_put
      · exact absurd h (by simp [pure, Except.pure])
  rw [putRecord_eq]
  exact (takes_putName h_owner).spares.bind <|
    (takes_putAll [octets16 r.data.type, octets16 (classIn r.cacheFlush), octets32 r.ttl]).spares.bind
      h_measured

end Spares

/-- Where there is room for the answers and for the first of the additional records, which says
where a service runs, its target can be read, be the packet cut or not. -/
theorem Message.target_length_lt_of_room {m : Message} {r srv : Record} {rest more : List Record}
    (h : ({ m with additionals := [] } : Message).Shares r rest)
    (h_additionals : m.additionals = srv :: more) {priority weight port : UInt16} {target : Name}
    (h_data : srv.data = .srv priority weight port target)
    (h_owner : srv.owner.Writable r.owner.labels)
    (h_room : 12 + (m.answers.map Record.room).sum + srv.room ≤ packetLimit) {p : Packet}
    (h_encode : m.encode = .ok p) : target.length < 255 := by
  obtain ⟨d₁, questions, d₂, answers, d₃, additionals, h₁, h₂, h₃, -⟩ := encode_ok h_encode
  have h_blank : blankDraft.size = 12 := rfl
  have h_questions : m.questions = [] := h.questions
  -- there are no questions, so the answers come first
  rw [h_questions] at h₁
  obtain ⟨rfl, rfl⟩ := Prod.mk.inj (Except.ok.inj h₁)
  obtain ⟨d, h_answers, h_size, h_known⟩ | ⟨left, -, h_full, -⟩ := takesAt_answers h
  · obtain ⟨d', h_each, h_section⟩ | ⟨left, n, h_each, -⟩ | ⟨octets, h_each, -⟩ :=
      putSection_cases putRecord m.answers blankDraft
    · obtain rfl := Except.ok.inj (h_answers.symm.trans h_each)
      obtain ⟨rfl, rfl⟩ := Prod.mk.inj (Except.ok.inj (h_section.symm.trans h₂))
      -- the answers are complete, so the service record comes next
      rw [h_additionals, putSection, putSection.go] at h₃
      cases h_record : putRecord srv d with
      | ok d' => exact length_lt_of_putRecord h_data h_record
      | error stop =>
        cases stop with
        | nameTooLong octets =>
          rw [h_record] at h₃
          exact absurd h₃ (by simp)
        | full left =>
          have h_full := (spares_putRecord h_data h_owner d h_known).2 left h_record
          have h_sum : d.size ≤ blankDraft.size + (m.answers.map Record.room).sum := h_size
          omega
    · exact absurd (h_answers.symm.trans h_each) (by simp)
    · exact absurd (h_answers.symm.trans h_each) (by simp)
  · have h_sum : packetLimit < blankDraft.size + (m.answers.map Record.room).sum := h_full
    omega

end ServiceDiscovery.Dns
