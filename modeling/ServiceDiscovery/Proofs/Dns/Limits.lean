import Mathlib.Data.Nat.Bitwise
import ServiceDiscovery.Proofs.Dns.RoundTrip

/-!
# What does not fit

Two limits stand between a message and its reader.

A name of 255 octets is a name, and may be written if it ends in a pointer, but no reader takes it.
One such name makes the whole message unreadable (`Message.decode?_eq_none_of_long_target`).

A packet holds at most 65535 octets.  Every item takes some room (`Takes`): what it takes when all
its names are written in full, which is how names are first written.  A name that ends in one with
a known place is never too long to be written, so a message whose names end in the first that is
written, or are short, always has a packet (`Message.exists_encode`), and the packet is complete if
there is the room (`Message.clear_of_room`).  A packet that is complete has at least eleven octets
for every record (`Message.count_le_of_encode`).  Readers can tell, since what they see as the mark
of truncation is the mark that was set (`Message.truncated_of_decode?`).

What a reader takes can be asked for: a pointer that was read leads to a name that is short enough
(`Message.pointsShort_of_decode?`).
-/

namespace ServiceDiscovery.Dns

open Draft

/-! ### Names that are too long to be read -/

/-- Wherever a packet holds the layout, and the endings that are known can be read, the reader
fails. -/
def Refuses {α : Type} (x : Reader α) (layout : Layout) : Prop :=
  ∀ p start places, p.size ≤ packetLimit → Sound p places start →
    Holds p start (layout start places).1 → x p start = none

namespace Refuses

variable {α β : Type} {x : Reader α} {f : α → Reader β} {a b : Layout} {v : α}

/-- A failure at the first item is a failure of all. -/
theorem first (h : Refuses x a) : Refuses (x >>= f) (a.andThen b) := by
  intro p start places h_size h_sound h_holds
  rw [Reader.bind_apply, h p start places h_size h_sound h_holds.left, Option.bind_none]

/-- A failure behind an item that was read. -/
theorem second (h : Recovers x a v) (h' : Refuses (f v) b) : Refuses (x >>= f) (a.andThen b) := by
  intro p start places h_size h_sound h_holds
  obtain ⟨h_read, h_sound'⟩ := h p start places h_size h_sound h_holds.left
  rw [Reader.bind_apply, h_read, Option.bind_some]
  exact h' p _ _ h_size h_sound' h_holds.right

end Refuses

theorem refuses_name {n : Name} (h_long : 255 ≤ n.length) :
    Refuses Reader.name (nameLayout n) := by
  intro p start places _ h_sound h_holds
  rw [name_of_labelsAt (labelsAt_nameLayout h_sound h_holds), if_pos h_long]

/-- Data whose reader fails makes the record fail. -/
theorem data_eq_none {type : RecordType} {n : Nat} {p : Packet} {i : Nat} (h_ne : n ≠ 0)
    (h : Reader.dataOf type n p i = none) : Reader.data type n p i = none := by
  rw [Reader.data, if_neg h_ne, Reader.bind_apply, Reader.remaining_apply, Option.bind_some]
  split
  · rfl
  · rw [Reader.bind_apply, Reader.place_apply, Option.bind_some, Reader.bind_apply, h,
      Option.bind_none]

/-- A pointer to a name of 255 octets cannot be read. -/
theorem refuses_pointer {r : Record} {target : Name} (h_data : r.data = .ptr target)
    (h_owner : r.owner.length < 255) (h_long : 255 ≤ target.length) :
    Refuses Reader.record (recordLayout r) := by
  -- a record that is read as an extension would have another type
  have h_type : r.data.type ≠ .opt := by
    rw [h_data]
    have h_root : (RecordData.ptr Name.root).Legible := by
      show 0 < 255
      decide
    exact h_root.type_ne_opt
  -- owner, type, class and age are read, and then the data is refused
  rw [recordLayout, Layout.fixed_append_andThen, Layout.fixed_append_andThen]
  refine .second (recovers_name h_owner) <| .second (.fixed (reads_word _)) <|
    .second (.fixed (reads_word _)) ?_
  rw [if_neg h_type, knownClass_classIn, h_data]
  refine .second (.fixed (reads_doubleWord _)) ?_
  intro p start places h_size h_sound h_holds
  -- the count in front of the data is what the reader is told of its length
  obtain ⟨h_count, h_length⟩ := word_measured h_size h_holds
  -- the data is the name alone
  have h_name : Reader.name p (start + 2) = none :=
    refuses_name h_long p _ places h_size (h_sound.mono (Nat.le_add_right start 2)) h_holds.right
  have h_dataOf : ∀ n, Reader.dataOf (RecordData.ptr target).type n p (start + 2) = none := by
    intro n
    change (Reader.name >>= fun n => pure (RecordData.ptr n)) p (start + 2) = none
    rw [Reader.bind_apply, h_name, Option.bind_none]
  -- there is some data, so the reader does look for a name
  have h_ne : (dataLayout (.ptr target) (start + 2) places).1.length ≠ 0 :=
    fun h => nameText_ne_nil _ _ (List.length_eq_zero_iff.mp h)
  rw [h_count, Reader.bind_apply, h_length, data_eq_none h_ne (h_dataOf _), Option.bind_none]

theorem refuses_many {α β : Type} {item : Reader β} {layout : α → Layout} {x : α} {items : List α}
    (h : Refuses item (layout x)) :
    Refuses (Reader.many item (x :: items).length) (.all layout (x :: items)) :=
  h.first

/-- **Long names.** A packet that holds a message whose first record points to a name of 255 octets
cannot be read. -/
theorem Message.decode?_eq_none_of_holds {m : Message} {r : Record} {rest : List Record}
    {target : Name} (h_questions : m.questions = []) (h_answers : m.answers = r :: rest)
    (h_data : r.data = .ptr target) (h_owner : r.owner.length < 255) (h_long : 255 ≤ target.length)
    {p : Packet} (h_size : p.size ≤ packetLimit)
    (h_holds : Holds p 0 (fullHeader m ++ (bodyLayout m 12 []).1)) : Message.decode? p = none := by
  -- there are no questions, and the first answer is already refused
  have h_refuses : Refuses (bodyReader m) (bodyLayout m) := by
    rw [bodyReader, bodyLayout, h_questions, h_answers]
    exact .second (v := []) (.fixed (.pure [])) <|
      .first <| refuses_many <| refuses_pointer h_data h_owner h_long
  rw [Message.decode?, message_of_holds h_size h_holds,
    h_refuses p 12 [] h_size (.nil p 12) h_holds.right]
  rfl

theorem Message.decode?_eq_none_of_long_target {m : Message} {r : Record} {rest : List Record}
    {target : Name} (h_questions : m.questions = []) (h_answers : m.answers = r :: rest)
    (h_data : r.data = .ptr target) (h_owner : r.owner.length < 255) (h_long : 255 ≤ target.length)
    (h_whole : m.truncated = false) {p : Packet} (h : m.encode = .ok p)
    (h_clear : marksTruncation p = false) : Message.decode? p = none := by
  obtain ⟨h_size, h_holds⟩ := holds_of_encode h_whole h h_clear
  exact decode?_eq_none_of_holds h_questions h_answers h_data h_owner h_long h_size h_holds

/-- All items that were written one behind the other were written. -/
theorem exists_of_putEach {α : Type} {putItem : α → Draft → Except Stop Draft} {items : List α}
    {d d' : Draft} (h : putEach putItem items d = .ok d') {item : α} (h_mem : item ∈ items) :
    ∃ e e', putItem item e = .ok e' := by
  -- every item is put into some draft on the way
  induction items generalizing d with
  | nil => exact absurd h_mem List.not_mem_nil
  | cons first items ih =>
    rw [putEach, List.foldlM_cons] at h
    obtain ⟨e, h_first, h_rest⟩ := bind_eq_ok.mp h
    rcases List.mem_cons.mp h_mem with rfl | h_mem
    · exact ⟨d, e, h_first⟩
    · exact ih h_rest h_mem

/-- The target of a service record that is written can be read: it is never written with a
pointer. -/
theorem length_lt_of_putRecord {r : Record} {priority weight port : UInt16} {target : Name}
    (h_data : r.data = .srv priority weight port target) {d d' : Draft}
    (h : putRecord r d = .ok d') : target.length < 255 := by
  -- the target is the last thing that is written of its record
  rw [putRecord_eq, h_data] at h
  obtain ⟨d₁, -, h⟩ := bind_eq_ok.mp h
  obtain ⟨d₂, -, h⟩ := bind_eq_ok.mp h
  obtain ⟨d₃, h_measured, -⟩ := bind_eq_ok.mp h
  obtain ⟨d₄, -, h_putData⟩ := bind_eq_ok.mp h_measured
  obtain ⟨d₅, -, h_target⟩ := bind_eq_ok.mp h_putData
  exact length_lt_of_putTarget h_target

/-- So can the targets of a packet that is not marked as truncated. -/
theorem target_length_lt {m : Message} (h_whole : m.truncated = false) {p : Packet}
    (h : m.encode = .ok p) (h_clear : marksTruncation p = false) {r : Record}
    (h_mem : r ∈ m.additionals) {priority weight port : UInt16} {target : Name}
    (h_data : r.data = .srv priority weight port target) : target.length < 255 := by
  rcases encode_cases m h_whole with ⟨d, h_body, -⟩ | ⟨left, -, h_marked⟩ | ⟨octets, -, h_error⟩
  · -- the body was written in full, so each of the records was put
    obtain ⟨d₁, -, h_body⟩ := bind_eq_ok.mp h_body
    obtain ⟨d₂, -, h_additionals⟩ := bind_eq_ok.mp h_body
    obtain ⟨e, e', h_record⟩ := exists_of_putEach h_additionals h_mem
    exact length_lt_of_putRecord h_data h_record
  · -- a body that did not fit is marked, and one with an endless name is no packet
    rw [h_marked p h] at h_clear
    exact absurd h_clear (by simp)
  · rw [h] at h_error
    exact absurd h_error (by simp)

/-! ### The mark of truncation -/

/-- All that the reader may read has a property. -/
def Yields {α : Type} (x : Reader α) (P : α → Prop) : Prop :=
  ∀ p i a j, x p i = some (a, j) → P a

namespace Yields

variable {α β : Type} {x : Reader α} {f : α → Reader β} {a : α} {P : β → Prop}

theorem pure {b : β} (h : P b) : Yields (pure b : Reader β) P := by
  intro p i b' j h_read
  rw [Reader.pure_apply] at h_read
  rwa [← (Prod.mk.inj (Option.some.inj h_read)).1]

theorem refuse_bind : Yields (Reader.refuse >>= f) P :=
  fun _ _ _ _ h_read => absurd h_read (by simp)

/-- What is read first may be known to have a property when the rest is read. -/
theorem bind_of {Q : α → Prop} (hx : Yields x Q) (h : ∀ a, Q a → Yields (f a) P) :
    Yields (x >>= f) P := by
  intro p i b j h_read
  rw [Reader.bind_apply, Option.bind_eq_some_iff] at h_read
  obtain ⟨⟨a, k⟩, h_first, h_read⟩ := h_read
  exact h a (hx p i a k h_first) p k b j h_read

theorem bind (h : ∀ a, Yields (f a) P) : Yields (x >>= f) P :=
  bind_of (fun _ _ _ _ _ => trivial) fun a _ => h a

end Yields

theorem word_eq_some {p : Packet} {i j : Nat} {n : UInt16} (h : Reader.word p i = some (n, j)) :
    ∃ high low : UInt8, p[i]? = some high ∧ n = high.toUInt16 <<< 8 ||| low.toUInt16 ∧
      j = i + 2 := by
  simp only [Reader.word, Reader.octet, Reader.bind_apply, Reader.pure_apply,
    Option.bind_eq_some_iff, Option.map_eq_some_iff] at h
  obtain ⟨-, ⟨high, h_high, rfl⟩, -, ⟨low, -, rfl⟩, h⟩ := h
  obtain ⟨rfl, rfl⟩ := Prod.mk.inj (Option.some.inj h)
  exact ⟨high, low, h_high, rfl, rfl⟩

/-- The bit that marks truncation, in the flags and in their high octet. -/
theorem truncation_bit (high low : UInt8) :
    ((high.toUInt16 <<< 8 ||| low.toUInt16) &&& 0x0200 != 0) = (high &&& 2 != 0) := by
  have h_low : low.toNat < 256 := low.toNat_lt
  have h_high : high.toNat < 256 := high.toNat_lt
  -- seen as numbers, both tests look for the one bit of the first octet
  have h_word : ((high.toUInt16 <<< 8 ||| low.toUInt16) &&& 0x0200).toNat =
      (high.toNat.testBit 1).toNat * 2 ^ 9 := by
    rw [UInt16.toNat_and, UInt16.toNat_or, UInt16.toNat_shiftLeft, UInt8.toNat_toUInt16,
      UInt8.toNat_toUInt16]
    -- the lower octet has nothing to say about that bit
    change ((high.toNat <<< 8 % 65536) ||| low.toNat) &&& 2 ^ 9 = _
    rw [Nat.and_two_pow, Nat.testBit_or, Nat.mod_eq_of_lt (by rw [Nat.shiftLeft_eq]; omega),
      Nat.testBit_shiftLeft, Nat.testBit_lt_two_pow (x := low.toNat) (i := 9) (by omega)]
    simp
  have h_octet : (high &&& 2).toNat = (high.toNat.testBit 1).toNat * 2 ^ 1 := by
    rw [UInt8.toNat_and]
    exact Nat.and_two_pow high.toNat 1
  have h_iff : (high.toUInt16 <<< 8 ||| low.toUInt16) &&& 0x0200 = 0 ↔ high &&& 2 = 0 := by
    rw [← UInt16.toNat_inj, ← UInt8.toNat_inj, h_word, h_octet]
    simp
  simp only [bne, beq_eq_decide, h_iff]

/-- A message says that it is truncated if its packet is marked so. -/
theorem Message.truncated_of_decode? {p : Packet} {m : Message} (h : Message.decode? p = some m) :
    m.truncated = marksTruncation p := by
  obtain ⟨⟨m', j⟩, h_read, rfl⟩ := Option.map_eq_some_iff.mp h
  -- the flags are the second number
  rw [Reader.message, Reader.bind_apply, Option.bind_eq_some_iff] at h_read
  obtain ⟨⟨id, i₁⟩, h_id, h_read⟩ := h_read
  rw [Reader.bind_apply, Option.bind_eq_some_iff] at h_read
  obtain ⟨⟨flags, i₂⟩, h_flags, h_read⟩ := h_read
  obtain ⟨-, -, -, -, rfl⟩ := word_eq_some h_id
  obtain ⟨high, low, h_high, rfl, rfl⟩ := word_eq_some h_flags
  have h_mark : marksTruncation p = (high &&& 2 != 0) := by
    unfold marksTruncation
    rw [show p[2]? = some high from h_high, Option.any_some]
  rw [h_mark, ← truncation_bit high low]
  generalize high.toUInt16 <<< 8 ||| low.toUInt16 = flags at h_read ⊢
  -- nothing that is read behind them changes what they say
  refine (?_ : Yields _ fun m : Message => m.truncated = (flags &&& 0x0200 != 0)) p _ m' j h_read
  split
  · exact .refuse_bind
  · refine .bind fun _ => .bind fun _ => .bind fun _ => .bind fun _ => .bind fun _ => .bind fun _ =>
      .bind fun _ => .bind fun _ => ?_
    dsimp only
    split
    · exact .refuse_bind
    · exact .pure rfl

/-! ### Names that are read -/

/-- Items that are read one by one all have what each of them has. -/
theorem yields_many {α : Type} {item : Reader α} {P : α → Prop} (h : Yields item P) (n : Nat) :
    Yields (Reader.many item n) fun items => ∀ x ∈ items, P x := by
  -- on the count: every item that is read has the property
  induction n with
  | zero => exact .pure fun _ h_mem => absurd h_mem List.not_mem_nil
  | succ n ih =>
    refine h.bind_of fun x hx => ih.bind_of fun items h_items => .pure fun y hy => ?_
    rcases List.mem_cons.mp hy with rfl | hy
    · exact hx
    · exact h_items y hy

/-- A name that is read is shorter than 255 octets. -/
theorem yields_name : Yields Reader.name fun n => n.length < 255 := by
  intro p i n j h_read
  unfold Reader.name at h_read
  obtain ⟨⟨labels, k⟩, -, h_read⟩ := Option.bind_eq_some_iff.mp h_read
  dsimp only at h_read
  -- a name of 255 octets or more is refused
  split at h_read
  · exact absurd h_read (by simp)
  · next h_short =>
    obtain ⟨n', h_name, h_eq⟩ := Option.map_eq_some_iff.mp h_read
    obtain ⟨rfl, -⟩ := Prod.mk.inj h_eq
    -- the labels make a name as they are
    unfold Name.ofLabels? at h_name
    split at h_name
    · rw [← Option.some.inj h_name]
      exact Nat.lt_of_not_le h_short
    · exact absurd h_name (by simp)

/-- The data of a record points to no name of 255 octets. -/
def RecordData.PointsShort (data : RecordData) : Prop :=
  ∀ target, data = .ptr target → target.length < 255

theorem RecordData.PointsShort.of_ne {data : RecordData} (h : ∀ target, data ≠ .ptr target) :
    data.PointsShort :=
  fun target h_eq => absurd h_eq (h target)

theorem yields_dataOf (type : RecordType) (n : Nat) :
    Yields (Reader.dataOf type n) RecordData.PointsShort := by
  have h_other : ∀ type, (RecordData.other type).PointsShort := fun _ => .of_ne (by simp)
  unfold Reader.dataOf
  -- one branch for each type; the data of the others has no target
  split
  · -- the target of a pointer is a name that is read
    refine yields_name.bind_of fun name h_name => .pure fun target h_eq => ?_
    exact RecordData.ptr.inj h_eq ▸ h_name
  split
  · exact .bind fun _ => .bind fun _ => .bind fun _ => .bind fun _ => .pure (.of_ne (by simp))
  split
  · refine .bind fun _ => ?_
    split
    · exact .pure (.of_ne (by simp))
    · exact fun _ _ _ _ h_read => absurd h_read (by simp)
  split
  · exact .bind fun _ => .pure (.of_ne (by simp))
  split
  · exact .bind fun _ => .pure (.of_ne (by simp))
  split
  · exact .bind fun _ => .pure (h_other type)
  split
  · exact .bind fun _ => .bind fun _ => .pure (h_other type)
  split
  · refine .bind fun _ => ?_
    split
    · exact .pure (h_other type)
    · exact fun _ _ _ _ h_read => absurd h_read (by simp)
  split
  · exact fun _ _ _ _ h_read => absurd h_read (by simp)
  · exact .bind fun _ => .pure (h_other type)

theorem yields_data (type : RecordType) (n : Nat) :
    Yields (Reader.data type n) RecordData.PointsShort := by
  unfold Reader.data
  split
  · -- data that is empty is left unread
    exact .pure (.of_ne (by simp))
  · refine .bind fun _ => ?_
    split
    · exact fun _ _ _ _ h_read => absurd h_read (by simp)
    · refine .bind fun _ => (yields_dataOf type n).bind_of fun data h => .bind fun _ => ?_
      split
      · exact .pure h
      · exact fun _ _ _ _ h_read => absurd h_read (by simp)

theorem yields_record : Yields Reader.record fun r => r.data.PointsShort := by
  -- whatever its class is, a record ends with its data
  have h_rest : ∀ (owner : Name) (type : RecordType) (cls : UInt16),
      Yields (do
        let ttl ← Reader.doubleWord
        let n ← Reader.word
        return ({ owner, ttl, cacheFlush := cls &&& 0x8000 != 0
                  data := ← Reader.data type n.toNat } : Record))
        fun r => r.data.PointsShort :=
    fun owner type cls => .bind fun _ => .bind fun _ => (yields_data type _).bind_of fun _ h => .pure h
  unfold Reader.record
  refine .bind fun owner => .bind fun type => .bind fun cls => ?_
  dsimp only
  split
  · split
    · exact .refuse_bind
    · exact h_rest owner type cls
  · split
    · exact .refuse_bind
    · exact h_rest owner type cls

/-- **Pointers that are read** lead to names shorter than 255 octets. -/
theorem Message.pointsShort_of_decode? {p : Packet} {m : Message} (h : Message.decode? p = some m)
    {r : Record} (hr : r ∈ m.records) : r.data.PointsShort := by
  obtain ⟨⟨m', j⟩, h_read, rfl⟩ := Option.map_eq_some_iff.mp h
  have h_message : Yields Reader.message fun m => ∀ r ∈ m.records, r.data.PointsShort := by
    unfold Reader.message
    -- questions are read past, and the two sections keep what each record yields
    refine .bind fun _ => .bind fun flags => ?_
    dsimp only
    split
    · exact .refuse_bind
    · refine .bind fun _ => .bind fun _ => .bind fun _ => .bind fun _ => .bind fun _ =>
        (yields_many yields_record _).bind_of fun answers h_answers => .bind fun _ =>
          (yields_many yields_record _).bind_of fun additionals h_additionals => ?_
      split
      · exact .refuse_bind
      · -- what is kept of the extensions is a part of what is read
        refine .pure fun r hr => ?_
        rcases List.mem_append.mp hr with hr | hr
        · exact h_answers r hr
        · exact h_additionals r (List.mem_filter.mp hr).1
  exact h_message p 0 m' j h_read r hr

/-! ### Room -/

/-- The ending has a known place, unless it is empty. -/
def Knows (known : List Label) (d : Draft) : Prop :=
  known ≠ [] → (d.places.lookup known).isSome

/-- From this draft writing succeeds if there is so much room, and takes no more; it stops only
where there is less, and not for the length of a name.  Either way the ending has a known place
then. -/
def TakesAt (known : List Label) (put : Draft → Except Stop Draft) (room : Nat) (d : Draft) :
    Prop :=
  (∃ d', put d = .ok d' ∧ d'.size ≤ d.size + room ∧ Knows known d') ∨
    ∃ left, put d = .error (.full left) ∧ packetLimit < d.size + room ∧ Knows known left

/-- The same from any draft in which the ending has a known place. -/
def Takes (known : List Label) (put : Draft → Except Stop Draft) (room : Nat) : Prop :=
  ∀ d, Knows known d → TakesAt known put room d

section Room

variable {known : List Label}

theorem lookup_isSome_of_prefix {places places' : Places} (h : places <+: places')
    (h_known : (places.lookup known).isSome) : (places'.lookup known).isSome := by
  obtain ⟨more, rfl⟩ := h
  rw [List.lookup_append, Option.isSome_or, h_known, Bool.true_or]

theorem Knows.of_prefix {d d' : Draft} (h : d.places <+: d'.places) (h_known : Knows known d) :
    Knows known d' :=
  fun h_ne => lookup_isSome_of_prefix h (h_known h_ne)

section Steps

variable {f g : Draft → Except Stop Draft} {a b : Nat}

/-- First one item, then the next. -/
theorem TakesAt.bind {d : Draft} (hf : TakesAt known f a d) (hg : Takes known g b) :
    TakesAt known (fun d => f d >>= g) (a + b) d := by
  unfold TakesAt
  -- it fits so far, and the next item comes behind it
  rcases hf with ⟨d', h_first, h_size, h_known⟩ | ⟨left, h_first, h_room, h_known⟩
  · dsimp only
    rw [h_first]
    rcases hg d' h_known with
      ⟨d'', h_second, h_size', h_known'⟩ | ⟨left, h_second, h_room, h_known'⟩
    · exact .inl ⟨d'', h_second, by omega, h_known'⟩
    · exact .inr ⟨left, h_second, by omega, h_known'⟩
  · -- it is full already, and what is next is not even tried
    dsimp only
    rw [h_first]
    exact .inr ⟨left, rfl, by omega, h_known⟩

theorem Takes.bind (hf : Takes known f a) (hg : Takes known g b) :
    Takes known (fun d => f d >>= g) (a + b) :=
  fun d h_known => (hf d h_known).bind hg

theorem Takes.nothing : Takes known (fun d => .ok d) 0 :=
  fun d h_known => .inl ⟨d, rfl, Nat.le_refl _, h_known⟩

end Steps

theorem takes_put (piece : List UInt8) : Takes known (put piece) piece.length := by
  intro d h_known
  unfold TakesAt put
  split
  · exact .inl ⟨_, rfl, Nat.le_of_eq (size_append d piece), h_known⟩
  · next h_room => exact .inr ⟨d, rfl, Nat.lt_of_not_le h_room, h_known⟩

theorem takes_putAll (pieces : List (List UInt8)) :
    Takes known (putAll pieces) (pieces.map List.length).sum := by
  induction pieces with
  | nil => exact .nothing
  | cons piece pieces ih => exact (takes_put piece).bind ih

/-- Counted octets one after the other take their number and one octet each. -/
theorem takes_foldlM_putCounted (entries : List (List UInt8)) :
    Takes known (fun d => entries.foldlM (fun d entry => d.putCounted entry) d)
      (labelsLength entries) := by
  induction entries with
  | nil => exact .nothing
  | cons entry entries ih =>
    -- an entry is put as the octet with its length and the octets behind it
    have h_entry : Takes known (putCounted entry) (entry.length + 1) := by
      have h : Takes known (putCounted entry) _ :=
        takes_putAll [[UInt8.ofNat entry.length], entry]
      rwa [List.map_cons, List.map_cons, List.map_nil, List.sum_cons, List.sum_cons, List.sum_nil,
        List.length_singleton, Nat.add_zero, Nat.add_comm] at h
    exact h_entry.bind ih

theorem takes_putLabels (ls : List Label) : Takes known (putLabels ls) (labelsLength ls) :=
  takes_foldlM_putCounted ls

/-- A name that has been written in full is ended unless it is too long. -/
theorem takes_endName {start : Nat} {d : Draft} (h_known : Knows known d)
    (h_short : d.size - start < 255) : TakesAt known (endName start) 1 d := by
  unfold TakesAt endName
  rcases takes_put [0] d h_known with
    ⟨d', h_put, h_size, h_known'⟩ | ⟨left, h_put, h_room, h_known'⟩
  · -- the zero octet fits, and then the length of the name is looked at
    rw [List.length_singleton] at h_size
    refine .inl ⟨d', ?_, h_size, h_known'⟩
    rw [h_put]
    simp only [Bind.bind, Except.bind]
    rw [if_neg (by omega)]
    rfl
  · -- there is no room for the zero octet
    exact .inr ⟨left, by rw [h_put]; rfl, h_room, h_known'⟩

/-! ### Room for names -/

/-- A name that is never too long where the ending is known. -/
def Name.Writable (known : List Label) (n : Name) : Prop :=
  n.length < 255 ∨ known ≠ [] ∧ known <:+ n.labels

theorem prefix_shorten (learning : Bool) (places : Places) (start : Nat) (ls : List Label) :
    places <+: (shorten learning places start ls).1 := by
  induction ls generalizing places start with
  | nil => exact List.prefix_refl _
  | cons l ls ih =>
    unfold shorten
    split
    · exact List.prefix_refl _
    · refine List.IsPrefix.trans ?_ (ih _ _)
      split
      · exact List.prefix_append _ _
      · exact List.prefix_refl _

theorem prefix_learn (learning : Bool) (places : Places) (start : Nat) (ls : List Label) :
    places <+: learn learning places start ls := by
  induction ls generalizing places start with
  | nil => exact List.prefix_refl _
  | cons l ls ih =>
    refine List.IsPrefix.trans ?_ (ih _ _)
    split
    · exact List.prefix_append _ _
    · exact List.prefix_refl _

/-- A name with an ending that is known is cut. -/
theorem shorten_ne_none {learning : Bool} {places : Places} {start : Nat} {ls : List Label}
    (h_ne : known ≠ []) (h_suffix : known <:+ ls) (h_known : (places.lookup known).isSome) :
    (shorten learning places start ls).2 ≠ none := by
  -- on the labels: the ending that is known is reached at the latest where it begins
  induction ls generalizing places start with
  | nil => exact absurd (List.suffix_nil.mp h_suffix) h_ne
  | cons l ls ih =>
    unfold shorten
    cases h_lookup : places.lookup (l :: ls) with
    | some place => exact Option.some_ne_none _
    | none =>
      rcases List.suffix_cons_iff.mp h_suffix with rfl | h_suffix
      · -- it begins here, and would have been found
        rw [h_lookup] at h_known
        exact absurd h_known (by simp)
      · -- it begins further on, and what is learnt here does not hide it
        refine ih h_suffix ?_
        split
        · exact lookup_isSome_of_prefix (List.prefix_append _ _) h_known
        · exact h_known

/-- A name of which places are learnt is known itself. -/
theorem lookup_shorten_isSome {places : Places} {start : Nat} {ls : List Label} (h_ne : ls ≠ []) :
    ((shorten true places start ls).1.lookup ls).isSome := by
  cases ls with
  | nil => exact absurd rfl h_ne
  | cons l ls =>
    unfold shorten
    cases h_lookup : places.lookup (l :: ls) with
    -- the name is known in full already
    | some place =>
      dsimp only
      rw [h_lookup]
      rfl
    | none =>
      -- it is learnt with its first label, and stays known while the rest is written
      refine lookup_isSome_of_prefix (prefix_shorten _ _ _ _) ?_
      rw [if_pos rfl, List.lookup_append, List.lookup_cons, beq_self_eq_true, Option.isSome_or]
      exact Bool.or_true _

/-- An ending that gives way to a pointer has at least as many octets as the pointer. -/
theorem two_le_labelsLength {ls : List Label} (h_fit : ∀ l ∈ ls, l.Fits) (h_ne : ls ≠ []) :
    2 ≤ labelsLength ls := by
  cases ls with
  | nil => exact absurd rfl h_ne
  | cons l ls =>
    have h_one : 1 ≤ l.length := (h_fit l (List.mem_cons_self ..)).1
    rw [labelsLength]
    omega

/-- A name takes as much as in full even where it ends in a pointer, as it is written in full
first. -/
theorem takes_putName {n : Name} (h : n.Writable known) :
    Takes known (putName n) (n.length + 1) := by
  intro d h_known
  unfold TakesAt putName
  -- the labels are written in full first, whether or not a pointer follows
  rcases takes_putLabels n.labels d h_known with ⟨d', hl, -⟩ | ⟨left, hl, h_room, h_known'⟩
  · have h_size : d'.size = d.size + n.length := by
      rw [(writes_putLabels n.labels).size hl]
      exact congrArg _ (length_nameOctets _)
    -- what is learnt on the way comes from the layout of the name
    obtain ⟨-, h_places, -⟩ := writes_putLabels n.labels d d' hl
    simp only [Layout.fixed] at h_places
    rw [hl]
    simp only [Bind.bind, Except.bind, h_size, h_places]
    -- it does not matter here from which place on nothing is learnt any more
    generalize decide (d.size + n.length < placeLimit) = learning
    have h_cut := shorten_snd learning d.places d.size n.labels
    have h_prefix := prefix_shorten learning d.places d.size n.labels
    -- an ending that was known before is found again, so there will be a pointer
    have h_some : known ≠ [] → known <:+ n.labels → (d.places.lookup known).isSome →
      (shorten learning d.places d.size n.labels).2 ≠ none := shorten_ne_none
    rcases hs : shorten learning d.places d.size n.labels with ⟨places, cut⟩
    rw [hs] at h_cut h_prefix h_some
    -- places are only added, so what was known stays known
    have h_known' : ∀ octets, Knows known { octets, places } :=
      fun octets h_ne => lookup_isSome_of_prefix h_prefix (h_known h_ne)
    rcases h_cut with ⟨h_none, -⟩ | ⟨before, ending, place, h_labels, h_ne, h_some, -⟩
    · -- no ending is known, so the name is short
      obtain rfl : cut = none := h_none
      -- without a pointer the zero octet ends it, and the length is looked at
      have h_short : n.length < 255 := by
        rcases h with h_short | ⟨h_ne, h_suffix⟩
        · exact h_short
        · exact absurd rfl (h_some h_ne h_suffix (h_known h_ne))
      have h_same : ({ d' with places } : Draft).size = d'.size := rfl
      have h_end : TakesAt known (endName d.size) 1 { d' with places } :=
        takes_endName (h_known' _) (by omega)
      unfold TakesAt at h_end
      rwa [h_same, h_size, Nat.add_assoc] at h_end
    · -- the pointer takes the place of an ending
      obtain rfl : cut = some (d.size + labelsLength before, place) := h_some
      -- the two octets of the pointer are no more than those of the ending
      have h_length : n.length = labelsLength before + labelsLength ending := by
        rw [Name.length, h_labels, labelsLength_append]
      have h_ending : 2 ≤ labelsLength ending := by
        refine two_le_labelsLength (fun l h_mem => n.labels_fit l ?_) h_ne
        rw [h_labels]
        exact List.mem_append_right _ h_mem
      -- the draft is cut back to where the ending begins
      have h_taken :
          ({ octets := d'.octets.take (d.size + labelsLength before), places } : Draft).size =
            d.size + labelsLength before := by
        have h_octets : d'.octets.size = d.size + n.length := h_size
        rw [Draft.size, Array.take_eq_extract, Array.size_extract]
        omega
      have h_put : TakesAt known (put (pointer place)) (pointer place).length
        { octets := d'.octets.take (d.size + labelsLength before), places } :=
          takes_put _ _ (h_known' _)
      unfold TakesAt at h_put
      rw [h_taken, length_pointer] at h_put
      -- the pointer fits in there, or the draft was full before
      rcases h_put with ⟨d'', h_put, h_size', h_known''⟩ | ⟨left, h_put, h_room, h_known''⟩
      · exact .inl ⟨d'', h_put, by omega, h_known''⟩
      · exact .inr ⟨left, h_put, by omega, h_known''⟩
  · -- there was no room for the labels
    rw [hl]
    exact .inr ⟨left, rfl, Nat.lt_succ_of_lt h_room, h_known'⟩

/-- A target takes as much as its name. -/
theorem takes_putTarget {n : Name} (h_short : n.length < 255) :
    Takes known (putTarget n) (n.length + 1) := by
  intro d h_known
  unfold TakesAt putTarget
  -- a target is written in lower case, and in full
  have h_lower : labelsLength n.lower.labels = n.length := Name.labelsLength_map_lower n.labels
  rcases takes_putLabels n.lower.labels d h_known with
    ⟨d', hl, -, h_known'⟩ | ⟨left, hl, h_room, h_known'⟩
  · -- the labels fit
    have h_size : d'.size = d.size + n.length := by
      rw [(writes_putLabels n.lower.labels).size hl, ← h_lower]
      exact congrArg _ (length_nameOctets _)
    rw [hl]
    simp only [Bind.bind, Except.bind]
    have h_prefix := prefix_learn (d'.size < placeLimit) d'.places d.size n.lower.labels
    generalize learn (d'.size < placeLimit) d'.places d.size n.lower.labels = places at h_prefix ⊢
    have h_same : ({ d' with places } : Draft).size = d'.size := rfl
    have h_end : TakesAt known (endName d.size) 1 { d' with places } :=
      -- what is learnt from a target comes behind what was known
      takes_endName (h_known'.of_prefix h_prefix) (by omega)
    unfold TakesAt at h_end
    rwa [h_same, h_size, Nat.add_assoc] at h_end
  · -- there was no room for the labels
    rw [hl]
    exact .inr ⟨left, rfl, by omega, h_known'⟩

/-! ### Room of the items of a message -/

/-- How much room the data of a record takes. -/
def RecordData.room : RecordData → Nat
  | .ptr target => target.length + 1
  | .srv _ _ _ target => 6 + (target.length + 1)
  | .txt entries => labelsLength entries
  | .a _ => 4
  | .aaaa _ => 16
  | .other _ => 0

/-- How much room a record takes, its owner in full. -/
def Record.room (r : Record) : Nat := (r.owner.length + 1) + (8 + (2 + r.data.room))

/-- How much room the records of a message take. -/
def Message.room (m : Message) : Nat :=
  (m.answers.map Record.room).sum + (m.additionals.map Record.room).sum

/-- Data whose names are never too long where the ending is known. -/
def RecordData.Writable (known : List Label) : RecordData → Prop
  | .ptr target => target.Writable known
  | .srv _ _ _ target => target.length < 255
  | _ => True

/-- A record whose names are never too long where the ending is known. -/
def Record.Writable (known : List Label) (r : Record) : Prop :=
  r.owner.Writable known ∧ r.data.Writable known

theorem takes_putData {data : RecordData} (h : data.Writable known) :
    Takes known (putData data) data.room := by
  -- one case for each kind of data
  cases data with
  | ptr target => exact takes_putName h
  | srv priority weight port target =>
    exact (takes_putAll [octets16 priority, octets16 weight, octets16 port]).bind
      (takes_putTarget h)
  | txt entries => exact takes_foldlM_putCounted entries
  | a address => exact takes_putAll (address.octets.map ([·]))
  | aaaa address =>
    -- an address takes sixteen octets, as it has eight groups
    obtain ⟨g₀, g₁, g₂, g₃, g₄, g₅, g₆, g₇, -, h_groups⟩ := Ipv6.eq_ofGroups address
    have h_sum : ((address.groups.toList.map octets16).map List.length).sum = 16 := by
      rw [h_groups]
      rfl
    have h_put : Takes known (putData (.aaaa address)) _ :=
      takes_putAll (address.groups.toList.map octets16)
    rw [h_sum] at h_put
    exact h_put
  | other type => exact .nothing

/-- The length in front of some data takes two octets, and filling it in takes none. -/
theorem takes_measured {data : RecordData} (h : data.Writable known) :
    Takes known
      (fun d => do
        let d' ← (put [0, 0] d >>= putData data)
        return d'.patch16 d.size (UInt16.ofNat (d'.size - (d.size + 2))))
      (2 + data.room) := by
  intro d h_known
  -- the count that is set afterwards takes no more room
  have h_same : ∀ (d' : Draft) (place : Nat) (n : UInt16), (d'.patch16 place n).size = d'.size :=
    fun d' place n => by simp [patch16, Draft.size]
  unfold TakesAt
  rcases ((takes_put [0, 0]).bind (takes_putData h)) d h_known with
    ⟨d', h_put, h_size, h_known'⟩ | ⟨left, h_put, h_room, h_known'⟩
  · -- the data fits, and its count is set
    refine .inl ⟨d'.patch16 d.size (UInt16.ofNat (d'.size - (d.size + 2))), ?_, ?_, h_known'⟩
    · dsimp only at h_put ⊢
      rw [h_put]
      rfl
    · rw [h_same]
      exact h_size
  · -- the data does not fit
    refine .inr ⟨left, ?_, h_room, h_known'⟩
    dsimp only at h_put ⊢
    rw [h_put]
    rfl

/-- What stands behind the owner of a record. -/
theorem takes_behindOwner {r : Record} (h : r.data.Writable known) :
    Takes known
      (fun d => putAll [octets16 r.data.type, octets16 (classIn r.cacheFlush), octets32 r.ttl] d >>=
        fun d => do
          let d' ← (put [0, 0] d >>= putData r.data)
          return d'.patch16 d.size (UInt16.ofNat (d'.size - (d.size + 2))))
      (8 + (2 + r.data.room)) :=
  (takes_putAll [octets16 r.data.type, octets16 (classIn r.cacheFlush), octets32 r.ttl]).bind
    (takes_measured h)

theorem takes_putRecord {r : Record} (h : r.Writable known) : Takes known (putRecord r) r.room := by
  rw [putRecord_eq]
  exact (takes_putName h.1).bind (takes_behindOwner h.2)

theorem takes_putEach {records : List Record} (h : ∀ r ∈ records, r.Writable known) :
    Takes known (putEach putRecord records) (records.map Record.room).sum := by
  induction records with
  | nil => exact .nothing
  | cons r records ih =>
    have h_records := ih fun r' h' => h r' (List.mem_cons_of_mem _ h')
    exact (takes_putRecord (h r (List.mem_cons_self ..))).bind h_records

end Room

/-! ### Room for messages -/

/-- A message without questions whose names are either short or end in the name that is written
first. -/
structure Message.Shares (m : Message) (r : Record) (rest : List Record) : Prop where
  questions : m.questions = []
  answers : m.answers = r :: rest
  owner : r.owner.length < 255
  owner_ne : r.owner.labels ≠ []
  data : r.data.Writable r.owner.labels
  others : ∀ r' ∈ rest ++ m.additionals, r'.Writable r.owner.labels

/-- At the start of a packet there is room for a name, and it is known then. -/
theorem putName_blankDraft {n : Name} (h_short : n.length < 255) (h_ne : n.labels ≠ []) :
    ∃ d', putName n blankDraft = .ok d' ∧ d'.size ≤ blankDraft.size + (n.length + 1) ∧
      Knows n.labels d' := by
  have h_nothing : Knows [] blankDraft := fun h => absurd rfl h
  have h_blank : blankDraft.size = 12 := rfl
  rcases takes_putName (.inl h_short) blankDraft h_nothing with
    ⟨d', h_put, h_size, -⟩ | ⟨left, -, h_room, -⟩
  · refine ⟨d', h_put, h_size, fun _ => ?_⟩
    obtain ⟨-, h_places, -⟩ := writes_putName n blankDraft d' h_put
    -- the name begins early enough for its place to be learnt
    have h_learns : blankDraft.size + n.length < placeLimit := by
      rw [h_blank]
      exact Nat.lt_trans (Nat.add_lt_add_left h_short 12) (by decide)
    rw [h_places, nameLayout, decide_eq_true h_learns]
    exact lookup_shorten_isSome h_ne
  · -- a name alone always fits
    have h_limit : packetLimit = 65535 := rfl
    omega

section Messages

variable {m : Message} {r : Record} {rest : List Record}

theorem takesAt_answers (h : m.Shares r rest) :
    TakesAt r.owner.labels (putEach putRecord m.answers) (m.answers.map Record.room).sum
      blankDraft := by
  -- the owner of the first record is the name that the others share
  have h_owner : TakesAt r.owner.labels (putName r.owner) (r.owner.length + 1) blankDraft :=
    .inl (putName_blankDraft h.owner h.owner_ne)
  have h_first : TakesAt r.owner.labels (putRecord r) r.room blankDraft := by
    rw [putRecord_eq]
    exact h_owner.bind (takes_behindOwner h.data)
  rw [h.answers]
  exact h_first.bind (takes_putEach fun r' hr' => h.others r' (List.mem_append_left _ hr'))

/-- A section is written, perhaps in part, if none of its names is too long. -/
theorem putSection_of_takesAt {known : List Label} {records : List Record} {room : Nat} {d : Draft}
    (h : TakesAt known (putEach putRecord records) room d) :
    ∃ d' count, putSection putRecord records d = .ok (d', count) ∧ Knows known d' := by
  -- the section as it is put item by item, and as it is counted
  rcases putSection_cases putRecord records d with
    ⟨d', h_each, h_section⟩ | ⟨left, count, h_each, h_section, -⟩ | ⟨octets, h_each, -⟩
  · -- everything fits
    rcases h with ⟨d'', h_ok, -, h_known⟩ | ⟨left, h_full, -⟩
    · obtain rfl := Except.ok.inj (h_each.symm.trans h_ok)
      exact ⟨d', _, h_section, h_known⟩
    · rw [h_each] at h_full
      exact absurd h_full (by simp)
  · -- some of it fits, and what is left is shared by the rest
    rcases h with ⟨d', h_ok, -⟩ | ⟨left', h_full, -, h_known⟩
    · rw [h_each] at h_ok
      exact absurd h_ok (by simp)
    · obtain rfl := Stop.full.inj (Except.error.inj (h_each.symm.trans h_full))
      exact ⟨left, count, h_section, h_known⟩
  · -- no name is endless here
    rcases h with ⟨d', h_ok, -⟩ | ⟨left, h_full, -⟩
    · rw [h_each] at h_ok
      exact absurd h_ok (by simp)
    · rw [h_each] at h_full
      exact absurd h_full (by simp)

/-- **Acceptance.** A message whose names are short, or end in the name that is written first, has
a packet. -/
theorem Message.exists_encode (h : m.Shares r rest) : ∃ p, m.encode = .ok p := by
  -- the answers are put in full or cut, and the owner is known either way
  obtain ⟨d₂, answers, h₂, h_known⟩ := putSection_of_takesAt (takesAt_answers h)
  obtain ⟨d₃, additionals, h₃, -⟩ := putSection_of_takesAt
    (takes_putEach (fun r' hr' => h.others r' (List.mem_append_right _ hr')) d₂ h_known)
  have h₁ : putSection putQuestion m.questions blankDraft = .ok (blankDraft, 0) := by
    rw [h.questions]
    rfl
  unfold Message.encode
  unfold blankDraft at h₁ h₂
  simp only [h₁, h₂, h₃, Bind.bind, Except.bind, pure, Except.pure]
  exact ⟨_, rfl⟩

/-- **Room.** The packet of such a message is marked as truncated only if the message takes more
room than there is. -/
theorem Message.clear_of_room (h : m.Shares r rest) (h_whole : m.truncated = false)
    (h_room : 12 + m.room ≤ packetLimit) {p : Packet} (h_encode : m.encode = .ok p) :
    marksTruncation p = false := by
  -- the whole body has room
  have h_body : TakesAt r.owner.labels (putBody m) m.room blankDraft := by
    have h_additionals : Takes r.owner.labels (putEach putRecord m.additionals) _ :=
      takes_putEach fun r' hr' => h.others r' (List.mem_append_right _ hr')
    have h_records := (takesAt_answers h).bind h_additionals
    unfold putBody
    rw [h.questions]
    exact h_records
  rcases h_body with ⟨d, h_body, -⟩ | ⟨left, -, h_full, -⟩
  · rcases encode_cases m h_whole with ⟨d', -, h_ok⟩ | ⟨left, h_left, -⟩ | ⟨octets, h_long, -⟩
    · -- it was written in full, so nothing marks the packet
      obtain rfl := Except.ok.inj (h_ok.symm.trans h_encode)
      rw [fullHeader, marksTruncation_header]
      exact h_whole
    · rw [h_body] at h_left
      exact absurd h_left (by simp)
    · rw [h_body] at h_long
      exact absurd h_long (by simp)
  · -- it would not have had room
    have h_blank : blankDraft.size = 12 := rfl
    omega

/-- **Records are limited.** A packet that is not marked as truncated has eleven octets for each of
its records. -/
theorem Message.count_le_of_encode (h_whole : m.truncated = false) {p : Packet}
    (h : m.encode = .ok p) (h_clear : marksTruncation p = false) :
    12 + 11 * (m.answers.length + m.additionals.length) ≤ packetLimit := by
  obtain ⟨h_list, h_size⟩ := toList_of_encode h h_whole h_clear
  -- each record takes eleven octets, and the header twelve
  have h_length := congrArg List.length h_list
  rw [List.length_append, Array.length_toList] at h_length
  have h_header : (fullHeader m).length = 12 := rfl
  have h_count := count_le_length_body m 12 []
  omega

end Messages

end ServiceDiscovery.Dns
