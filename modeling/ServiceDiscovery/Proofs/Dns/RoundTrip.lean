import ServiceDiscovery.Proofs.Dns.Layout

/-!
# Reading what was written

A packet that holds the layout of an item is read as that item: this is shown for names first, and
from there for data, records, sections and whole messages (`Message.decode?_encode`).

The one thing that a layout does not show by itself is that pointers lead somewhere.  The invariant
is `Sound p places limit`: every ending that is known can be read at its place, from octets before
`limit`.  A pointer to such a place is followed to the ending for which it stands
(`labelsAt_nameText`), so the endings of a name that has just been written can be read at their
places too, which keeps the invariant.

What is read differs from what was written in three ways (`Message.received`): targets of service
records come in lower case, data without octets is no data, and names of 255 octets cannot be read
at all, although they may be written behind a pointer (`Message.decode?_eq_none_of_long_answer`).
-/

namespace ServiceDiscovery.Dns

/-! ### Following pointers -/

section LabelsAt

variable {p : Packet} {start limit i : Nat}

theorem labelsAt_zero (h_room : i < limit) (h : p[i]? = some 0) :
    labelsAt p start limit i = some ([], i + 1) := by
  rw [labelsAt, if_pos h_room, h]
  rfl

theorem labelsAt_label {b : UInt8} (h_room : i < limit) (h : p[i]? = some b) (h_ne : ¬ b = 0)
    (h_lt : b < 0x40) (h_le : i + 1 + b.toNat ≤ p.size) :
    labelsAt p start limit i = (labelsAt p start limit (i + 1 + b.toNat)).map fun rest =>
      ((p.extract (i + 1) (i + 1 + b.toNat)).toList :: rest.1, rest.2) := by
  rw [labelsAt, if_pos h_room, h]
  simp only [if_neg h_ne, if_pos h_lt, if_pos h_le]

theorem labelsAt_pointer {b low : UInt8} (h_room : i < limit) (h : p[i]? = some b)
    (h_ne : ¬ b = 0) (h_ge : ¬ b < 0x40) (h_mark : 0xc0 ≤ b) (h_low : p[i + 1]? = some low)
    (h_before : (b.toNat - 0xc0) * 256 + low.toNat < start) :
    labelsAt p start limit i =
      (labelsAt p ((b.toNat - 0xc0) * 256 + low.toNat) start
        ((b.toNat - 0xc0) * 256 + low.toNat)).map fun rest => (rest.1, i + 2) := by
  rw [labelsAt, if_pos h_room, h]
  simp only [if_neg h_ne, if_neg h_ge, if_pos h_mark, h_low, if_pos h_before]

/-- A name is read from octets before the limit. -/
theorem lt_of_labelsAt {read : List Label × Nat} (h : labelsAt p start limit i = some read) :
    i < limit := by
  by_cases h_room : i < limit
  · exact h_room
  · rw [labelsAt, if_neg h_room] at h
    exact absurd h (by simp)

/-- What can be read with less room can be read with more. -/
theorem labelsAt_mono {read : List Label × Nat} (h : labelsAt p start limit i = some read)
    {start' limit' : Nat} (h_start : start ≤ start') (h_limit : limit ≤ limit') :
    labelsAt p start' limit' i = some read := by
  fun_induction labelsAt p start limit i generalizing read start' limit'
  case case2 h_room hb =>
    rw [labelsAt_zero (Nat.lt_of_lt_of_le h_room h_limit) hb]
    exact h
  case case3 h_room b hb h_ne h_lt next h_le ih =>
    obtain ⟨rest, h_rest, h_read⟩ := Option.map_eq_some_iff.mp h
    rw [labelsAt_label (Nat.lt_of_lt_of_le h_room h_limit) hb h_ne h_lt h_le,
      ih h_rest h_start h_limit, Option.map_some, ← h_read]
  case case6 h_room b hb h_ne h_ge h_mark low h_low target h_before ih =>
    obtain ⟨rest, h_rest, h_read⟩ := Option.map_eq_some_iff.mp h
    -- the name it points to must be over before the start, which has become later
    have h_target := ih h_rest (Nat.le_refl _) h_start
    rw [labelsAt_pointer (Nat.lt_of_lt_of_le h_room h_limit) hb h_ne h_ge h_mark h_low
      (Nat.lt_of_lt_of_le h_before h_start), h_target, Option.map_some, ← h_read]
  all_goals exact absurd h (by simp)

end LabelsAt

/-- Every ending that is known can be read at its place, from octets before a limit. -/
def Sound (p : Packet) (places : Places) (limit : Nat) : Prop :=
  ∀ ending place, (ending, place) ∈ places →
    place < placeLimit ∧ ∃ j, labelsAt p place limit place = some (ending, j)

theorem Sound.nil (p : Packet) (limit : Nat) : Sound p [] limit :=
  fun _ _ h => absurd h List.not_mem_nil

theorem Sound.mono {p : Packet} {places : Places} {limit limit' : Nat} (h : Sound p places limit)
    (h_limit : limit ≤ limit') : Sound p places limit' := by
  intro ending place h_mem
  obtain ⟨h_place, j, h_read⟩ := h ending place h_mem
  exact ⟨h_place, j, labelsAt_mono h_read (Nat.le_refl _) h_limit⟩

/-- A place that is found for an ending is among those that are known. -/
theorem mem_of_lookup {places : Places} {ending : List Label} {place : Nat}
    (h : places.lookup ending = some place) : (ending, place) ∈ places := by
  induction places with
  | nil => exact absurd h (by simp)
  | cons entry places ih =>
    obtain ⟨key, start⟩ := entry
    rw [List.lookup_cons] at h
    split at h
    · next h_key =>
      rw [beq_iff_eq.mp h_key, Option.some.inj h]
      exact List.mem_cons_self ..
    · exact List.mem_cons_of_mem _ (ih h)

/-- The two octets of a pointer, which is told from a label by its first. -/
theorem pointer_eq {place : Nat} (h : place < placeLimit) :
    ∃ b low : UInt8, pointer place = [b, low] ∧ ¬ b = 0 ∧ ¬ b < 0x40 ∧ 0xc0 ≤ b ∧
      (b.toNat - 0xc0) * 256 + low.toNat = place := by
  have h_lt : place < 16383 := h
  -- the two upper bits of the first octet mark a pointer, the rest is the place
  have h_word : (0xc000 ||| UInt16.ofNat place).toNat = 49152 + place := by
    rw [UInt16.toNat_or, UInt16.toNat_ofNat', Nat.mod_eq_of_lt (by omega)]
    exact (Nat.shiftLeft_add_eq_or_of_lt (i := 14) (b := place) (by omega) 3).symm
  refine ⟨_, _, rfl, ?_, ?_, ?_, ?_⟩
  all_goals
    simp only [← UInt8.toNat_inj, UInt8.lt_iff_toNat_lt, UInt8.le_iff_toNat_le,
      UInt16.toNat_toUInt8, UInt16.toNat_shiftRight, h_word, UInt8.reduceToNat,
      UInt16.reduceToNat, Nat.reduceMod, Nat.shiftRight_eq_div_pow, Nat.reducePow]
    omega

/-- **Names are read as they were written.** Where the endings that are known can be read, so can a
name that is written with pointers to them. -/
theorem labelsAt_nameText {p : Packet} {places : Places} {start : Nat}
    (h_sound : Sound p places start)
    {labels : List Label} (h_fit : ∀ l ∈ labels, l.Fits) {i start' limit : Nat}
    (h_start : start ≤ start') (h_holds : Holds p i (nameText places labels))
    (h_limit : i + (nameText places labels).length ≤ limit) :
    labelsAt p start' limit i = some (labels, i + (nameText places labels).length) := by
  -- on the labels: as they are written, up to an ending whose place is known
  induction labels generalizing i with
  | nil =>
    rw [nameText] at h_holds h_limit ⊢
    exact labelsAt_zero h_limit h_holds.getElem?_zero
  | cons l labels ih =>
    unfold nameText at h_holds h_limit ⊢
    cases h_lookup : places.lookup (l :: labels) with
    | some place =>
      -- the ending is known, and what stands at its place is the rest of the name
      simp only [h_lookup] at h_holds h_limit ⊢
      obtain ⟨h_place, j, h_read⟩ := h_sound _ _ (mem_of_lookup h_lookup)
      have h_before : place < start' := Nat.lt_of_lt_of_le (lt_of_labelsAt h_read) h_start
      obtain ⟨b, low, h_pointer, h_ne, h_ge, h_mark, h_target⟩ := pointer_eq h_place
      rw [h_pointer] at h_holds h_limit ⊢
      -- the pointer leads back to where the ending was read before
      rw [List.length_cons, List.length_cons, List.length_nil] at h_limit ⊢
      rw [labelsAt_pointer (by omega) h_holds.getElem?_zero h_ne h_ge h_mark
        h_holds.tail.getElem?_zero (by rw [h_target]; exact h_before), h_target,
        labelsAt_mono h_read (Nat.le_refl _) h_start, Option.map_some]
    | none =>
      -- the label stands behind its length, and the rest of the name behind it
      simp only [h_lookup] at h_holds h_limit ⊢
      obtain ⟨h_one, h_most⟩ := h_fit l (List.mem_cons_self ..)
      have h_length : (UInt8.ofNat l.length).toNat = l.length := by
        rw [UInt8.toNat_ofNat', Nat.mod_eq_of_lt (by omega)]
      have h_label : Holds p (i + 1) l := Holds.tail (Holds.left h_holds)
      have h_rest : Holds p (i + 1 + l.length) (nameText places labels) := by
        have h := h_holds.right
        rwa [length_counted, ← Nat.add_assoc, Nat.add_right_comm] at h
      have h_le : i + 1 + l.length ≤ p.size :=
        h_label.length_le (List.length_pos_iff.mp h_one)
      rw [List.length_append, length_counted] at h_limit ⊢
      have h_room : i < limit := by omega
      have h_count : p[i]? = some (UInt8.ofNat l.length) := (Holds.left h_holds).getElem?_zero
      have h_ne : ¬ UInt8.ofNat l.length = 0 := by
        rw [← UInt8.toNat_inj, h_length]
        exact Nat.ne_of_gt h_one
      have h_lt : UInt8.ofNat l.length < 0x40 := by
        rw [UInt8.lt_iff_toNat_lt, h_length]
        exact Nat.lt_succ_of_le h_most
      -- the octet tells a label of this length, and the rest is read by the hypothesis
      rw [labelsAt_label h_room h_count h_ne h_lt (by rw [h_length]; exact h_le), h_length,
        ih (fun l' h' => h_fit l' (List.mem_cons_of_mem _ h')) h_rest (by omega),
        Option.map_some, h_label.extract]
      simp only [Option.some.injEq, Prod.mk.injEq, true_and]
      omega

/-! ### Learning places -/

/-- What is learnt from a name are endings of it, at the places where they are written. -/
theorem mem_shorten {learning : Bool} {places : Places} {start : Nat} {labels : List Label}
    {entry : List Label × Nat} (h : entry ∈ (Draft.shorten learning places start labels).1) :
    entry ∈ places ∨ learning = true ∧ ∃ before ending, labels = before ++ ending ∧
      entry = (ending, start + labelsLength before) ∧
      nameText places labels = nameOctets before ++ nameText places ending := by
  -- on the labels: each is learnt with what follows it
  induction labels generalizing places start with
  | nil => exact .inl h
  | cons l labels ih =>
    unfold Draft.shorten at h
    cases h_lookup : places.lookup (l :: labels) with
    | some place =>
      rw [h_lookup] at h
      exact .inl h
    | none =>
      simp only [h_lookup] at h
      rcases ih h with h_old | ⟨rfl, before, ending, rfl, rfl, h_text⟩
      · -- nothing more is learnt behind the first label
        cases learning with
        | false => exact .inl h_old
        | true =>
          rcases List.mem_append.mp h_old with h_old | h_new
          · exact .inl h_old
          · exact .inr ⟨rfl, [], l :: labels, rfl, List.mem_singleton.mp h_new, rfl⟩
      · -- an ending of the rest is one of the whole, behind one label more
        rw [nameText_learning, if_pos rfl] at h_text
        have h_shorter : ending.length < (l :: (before ++ ending)).length := by
          rw [List.length_cons, List.length_append]
          omega
        rw [nameText_concat_of_length h_shorter] at h_text
        refine .inr ⟨rfl, l :: before, ending, rfl, ?_, ?_⟩
        · rw [labelsLength, ← Nat.add_assoc, ← Nat.add_assoc]
        · rw [nameText, h_lookup]
          change counted l ++ nameText places (before ++ ending) = _
          rw [h_text, nameOctets_cons, List.append_assoc]

/-- What is learnt from a name in full are endings of it, at the places where they are written. -/
theorem mem_learn {learning : Bool} {places : Places} {start : Nat} {labels : List Label}
    {entry : List Label × Nat} (h : entry ∈ Draft.learn learning places start labels) :
    entry ∈ places ∨ learning = true ∧ ∃ before ending, labels = before ++ ending ∧
      entry = (ending, start + labelsLength before) := by
  induction labels generalizing places start with
  | nil => exact .inl h
  | cons l labels ih =>
    -- what is learnt behind the first label, or with it
    rcases ih h with h_old | ⟨rfl, before, ending, rfl, rfl⟩
    · split at h_old
      · next h_learns =>
        rcases List.mem_append.mp h_old with h_old | h_new
        · exact .inl h_old
        · exact .inr ⟨(Bool.and_eq_true_iff.mp h_learns).1, [], l :: labels, rfl,
            List.mem_singleton.mp h_new⟩
      · exact .inl h_old
    · -- an ending of the rest is one of the whole, behind one label more
      refine .inr ⟨rfl, l :: before, ending, rfl, ?_⟩
      rw [labelsLength, ← Nat.add_assoc, ← Nat.add_assoc]

section Learning

variable {p : Packet} {places : Places} {start : Nat} {n : Name}

/-- A name that has been written leaves only endings behind that can be read. -/
theorem Sound.nameLayout (h_sound : Sound p places start)
    (h_holds : Holds p start (nameLayout n start places).1) :
    Sound p (nameLayout n start places).2 (start + (nameLayout n start places).1.length) := by
  intro ending place h_mem
  rcases mem_shorten h_mem with h_old | ⟨h_learns, before, ending', h_labels, h_entry, h_text⟩
  · -- what was known before stands where it stood
    exact h_sound.mono (Nat.le_add_right _ _) ending place h_old
  · -- what is learnt with this name stands in it, as the name is laid out
    obtain ⟨rfl, rfl⟩ := Prod.mk.inj h_entry
    have h_room : start + n.length < placeLimit := of_decide_eq_true h_learns
    have h_length : n.length = labelsLength before + labelsLength ending := by
      rw [Name.length, h_labels, labelsLength_append]
    refine ⟨by omega, _, labelsAt_nameText h_sound ?_ (Nat.le_add_right _ _) ?_ ?_⟩
    · exact fun l h_l => n.labels_fit l (h_labels ▸ List.mem_append_right _ h_l)
    · have h := h_holds
      rw [ServiceDiscovery.Dns.nameLayout, h_text] at h
      simpa using h.right
    · simp [ServiceDiscovery.Dns.nameLayout, h_text, Nat.add_assoc]

/-- So does a name in full. -/
theorem Sound.targetLayout (h_sound : Sound p places start)
    (h_holds : Holds p start (targetLayout n start places).1) :
    Sound p (targetLayout n start places).2 (start + (targetLayout n start places).1.length) := by
  intro ending place h_mem
  rcases mem_learn h_mem with h_old | ⟨h_learns, before, ending', h_labels, h_entry⟩
  · -- what was known before stands where it stood
    exact h_sound.mono (Nat.le_add_right _ _) ending place h_old
  · obtain ⟨rfl, rfl⟩ := Prod.mk.inj h_entry
    have h_room : start + n.lower.length < placeLimit := of_decide_eq_true h_learns
    have h_length : n.lower.length = labelsLength before + labelsLength ending := by
      rw [Name.length, h_labels, labelsLength_append]
    -- a target is written in full, so the text of the ending follows the labels before it
    have h_text : (ServiceDiscovery.Dns.targetLayout n start places).1 =
        nameOctets before ++ nameText [] ending := by
      rw [ServiceDiscovery.Dns.targetLayout, h_labels, nameText_nil, nameText_nil,
        nameOctets_append, List.append_assoc]
    rw [h_text] at h_holds ⊢
    refine ⟨by omega, _, labelsAt_nameText (.nil p start) ?_ (Nat.le_add_right _ _) ?_ ?_⟩
    · exact fun l h_l => n.lower.labels_fit l (h_labels ▸ List.mem_append_right _ h_l)
    · simpa using h_holds.right
    · simp [Nat.add_assoc]

end Learning

/-! ### Reading a layout -/

/-- Wherever a packet holds the layout, and the endings that are known can be read, the reader
reads this value, goes on behind it, and so can the endings that are known then. -/
def Recovers {α : Type} (x : Reader α) (layout : Layout) (value : α) : Prop :=
  ∀ p start places, p.size ≤ packetLimit → Sound p places start →
    Holds p start (layout start places).1 →
    x p start = some (value, start + (layout start places).1.length) ∧
      Sound p (layout start places).2 (start + (layout start places).1.length)

namespace Recovers

variable {α β : Type} {x : Reader α} {f : α → Reader β} {a b : Layout} {v : α} {w : β}

/-- A piece that means the same everywhere teaches nothing. -/
theorem fixed {piece : List UInt8} (h : Reads x piece v) : Recovers x (.fixed piece) v :=
  fun p start _ _ h_sound h_holds => ⟨h p start h_holds, h_sound.mono (Nat.le_add_right _ _)⟩

/-- First one item, then the next. -/
theorem bind (h : Recovers x a v) (h' : Recovers (f v) b w) :
    Recovers (x >>= f) (a.andThen b) w := by
  intro p start places h_size h_sound h_holds
  obtain ⟨h_first, h_sound'⟩ := h p start places h_size h_sound h_holds.left
  obtain ⟨h_second, h_sound''⟩ := h' p _ _ h_size h_sound' h_holds.right
  rw [Layout.andThen, List.length_append, ← Nat.add_assoc]
  exact ⟨by rw [Reader.bind_apply, h_first, Option.bind_some, h_second], h_sound''⟩

/-- What is made of an item that has been read. -/
theorem map (h : Recovers x a v) (g : α → β) : Recovers (x >>= fun v => pure (g v)) a (g v) := by
  intro p start places h_size h_sound h_holds
  obtain ⟨h_first, h_sound'⟩ := h p start places h_size h_sound h_holds
  exact ⟨by rw [Reader.bind_apply, h_first, Option.bind_some, Reader.pure_apply], h_sound'⟩

end Recovers

/-- Items that are read one by one are read one behind the other. -/
theorem recovers_many {α β : Type} {item : Reader β} {layout : α → Layout} {received : α → β}
    {items : List α} (h : ∀ x ∈ items, Recovers item (layout x) (received x)) :
    Recovers (Reader.many item items.length) (.all layout items) (items.map received) := by
  induction items with
  | nil => exact .fixed (.pure [])
  | cons x items ih =>
    have h_items := ih fun x' h' => h x' (List.mem_cons_of_mem _ h')
    exact (h x (List.mem_cons_self ..)).bind (h_items.map (received x :: ·))

theorem Name.ofLabels?_labels (n : Name) : Name.ofLabels? n.labels = some n :=
  dif_pos ⟨n.labels_fit, n.length_le⟩

/-- A name whose labels can be read is refused only for its length. -/
theorem name_of_labelsAt {p : Packet} {i j : Nat} {n : Name}
    (h : labelsAt p i p.size i = some (n.labels, j)) :
    Reader.name p i = if 255 ≤ n.length then none else some (n, j) := by
  rw [Reader.name, h, Option.bind_some]
  dsimp only
  rw [Name.ofLabels?_labels]
  rfl

/-- What a packet holds of a name is read as its labels. -/
theorem labelsAt_nameLayout {p : Packet} {start : Nat} {places : Places} {n : Name}
    (h_sound : Sound p places start) (h_holds : Holds p start (nameLayout n start places).1) :
    labelsAt p start p.size start =
      some (n.labels, start + (nameLayout n start places).1.length) :=
  labelsAt_nameText h_sound n.labels_fit (Nat.le_refl _) h_holds
    (h_holds.length_le (nameText_ne_nil _ _))

/-- A name that is shorter than 255 octets is read as it was written. -/
theorem recovers_name {n : Name} (h_short : n.length < 255) :
    Recovers Reader.name (nameLayout n) n := by
  intro p start places _ h_sound h_holds
  refine ⟨?_, h_sound.nameLayout h_holds⟩
  rw [name_of_labelsAt (labelsAt_nameLayout h_sound h_holds), if_neg (Nat.not_le_of_lt h_short)]

/-- A target comes in lower case. -/
theorem recovers_target {n : Name} (h_short : n.length < 255) :
    Recovers Reader.name (targetLayout n) n.lower := by
  intro p start places _ h_sound h_holds
  -- nothing stands for an ending of a target, so it is read label by label
  have h_read : labelsAt p start p.size start =
      some (n.lower.labels, start + (targetLayout n start places).1.length) :=
    labelsAt_nameText (.nil p start) n.lower.labels_fit (Nat.le_refl _) h_holds
      (h_holds.length_le (nameText_ne_nil _ _))
  have h_lower : n.lower.length = n.length := Name.labelsLength_map_lower n.labels
  refine ⟨?_, h_sound.targetLayout h_holds⟩
  rw [name_of_labelsAt h_read, if_neg (by omega)]

/-! ### Questions and data -/

theorem knownClass_classIn (mark : Bool) : Reader.knownClass (Draft.classIn mark) = true := by
  cases mark <;> rfl

/-- The top bit of a class, which carries a mark. -/
theorem marked_classIn (mark : Bool) : (Draft.classIn mark &&& 0x8000 != 0) = mark := by
  cases mark <;> rfl

theorem recovers_question {q : Question} (h_short : q.name.length < 255) :
    Recovers Reader.question (questionLayout q) q := by
  refine (recovers_name h_short).bind (.fixed fun p i h => ?_)
  have h_type := reads_word q.type p i h.left
  have h_class := reads_word (Draft.classIn q.unicast) p _ h.right
  simp only [Reader.bind_apply, h_type, h_class, Option.bind_some, if_pos (knownClass_classIn _),
    marked_classIn, Reader.pure_apply]
  rw [List.length_append, Nat.add_assoc]

/-- What is read of the data of a record: a target in lower case, and no data of a text without
entries. -/
def RecordData.received : RecordData → RecordData
  | .srv priority weight port target => .srv priority weight port target.lower
  | .txt [] => .other .txt
  | data => data

/-- Data that can be read.  Names of 255 octets, entries of more, and records that carry extensions
cannot. -/
def RecordData.Legible : RecordData → Prop
  | .ptr target => target.length < 255
  | .srv _ _ _ target => target.length < 255
  | .txt entries => ∀ entry ∈ entries, entry.length ≤ 255
  | .other type => type ≠ .opt
  | _ => True

@[simp] theorem RecordData.received_type (data : RecordData) : data.received.type = data.type := by
  cases data with
  | txt entries => cases entries <;> rfl
  | _ => rfl

theorem RecordData.Legible.type_ne_opt {data : RecordData} (h : data.Legible) :
    data.type ≠ .opt := by
  cases data with
  | other type => exact h
  | _ =>
    simp [RecordData.type, RecordType.ptr, RecordType.srv, RecordType.txt, RecordType.a,
      RecordType.aaaa, RecordType.opt]

theorem Layout.fixed_append_andThen (piece rest : List UInt8) (a : Layout) :
    (fixed (piece ++ rest)).andThen a = (fixed piece).andThen ((fixed rest).andThen a) := by
  funext start places
  simp [fixed, andThen, List.append_assoc, Nat.add_assoc]

/-- Data that takes octets is read by the reader for its type. -/
theorem dataOf_received {data : RecordData} (h : data.Legible) {p : Packet} {start : Nat}
    {places : Places} (h_size : p.size ≤ packetLimit) (h_sound : Sound p places start)
    (h_holds : Holds p start (dataLayout data start places).1)
    (h_ne : (dataLayout data start places).1 ≠ []) :
    Reader.dataOf data.type (dataLayout data start places).1.length p start =
        some (data.received, start + (dataLayout data start places).1.length) ∧
      Sound p (dataLayout data start places).2
        (start + (dataLayout data start places).1.length) := by
  -- one case for each kind of data
  cases data with
  | ptr target =>
    exact (recovers_name h).map RecordData.ptr p start places h_size h_sound h_holds
  | srv priority weight port target =>
    have h_target := (recovers_target h).map (RecordData.srv priority weight port)
    -- the three words come first, then the target
    have h_all : Recovers (Reader.dataOf .srv 0)
        (dataLayout (.srv priority weight port target))
        (.srv priority weight port target.lower) := by
      rw [dataLayout, Layout.fixed_append_andThen, Layout.fixed_append_andThen]
      exact (Recovers.fixed (reads_word priority)).bind <|
        (Recovers.fixed (reads_word weight)).bind <|
          (Recovers.fixed (reads_word port)).bind h_target
    exact h_all p start places h_size h_sound h_holds
  | txt entries =>
    have h_octets := reads_octets _ h_ne p start h_holds
    -- the entries are read as they were counted
    have h_entries : Reader.strings? (entries.flatMap counted) = some entries :=
      strings?_flatMap_counted h
    refine ⟨?_, h_sound.mono (Nat.le_add_right _ _)⟩
    -- there is an entry, or the data would be empty
    have h_received : (RecordData.txt entries).received = .txt entries := by
      cases entries with
      | nil => exact absurd rfl h_ne
      | cons entry entries => rfl
    rw [h_received]
    change (Reader.octets _ >>= fun read => _) p start = _
    rw [Reader.bind_apply]
    rw [h_octets, Option.bind_some]
    dsimp only
    rw [dataLayout, Layout.fixed, h_entries]
    rfl
  | a address =>
    exact ((Recovers.fixed (reads_address4 address)).map RecordData.a) p start places h_size h_sound
      h_holds
  | aaaa address =>
    exact ((Recovers.fixed (reads_address6 address)).map RecordData.aaaa) p start places h_size
      h_sound h_holds
  | other type => exact absurd rfl h_ne

/-- Data that takes no octets is no data. -/
theorem received_of_layout_eq_nil {data : RecordData} {start : Nat} {places : Places}
    (h : (dataLayout data start places).1 = []) :
    data.received = .other data.type ∧ (dataLayout data start places).2 = places := by
  -- only a text without entries and an unknown type have no data
  cases data with
  | ptr target => exact absurd h (nameText_ne_nil _ _)
  | srv priority weight port target => exact absurd h (List.cons_ne_nil _ _)
  | txt entries =>
    cases entries with
    | nil => exact ⟨rfl, rfl⟩
    | cons entry entries => exact absurd h (List.cons_ne_nil _ _)
  | a address => exact absurd h (List.cons_ne_nil _ _)
  | aaaa address =>
    obtain ⟨g₀, g₁, g₂, g₃, g₄, g₅, g₆, g₇, -, h_groups⟩ := Ipv6.eq_ofGroups address
    rw [dataLayout, Layout.fixed, h_groups] at h
    exact absurd h (List.cons_ne_nil _ _)
  | other type => exact ⟨rfl, rfl⟩

/-- Data is read where as many octets as it takes are announced. -/
theorem data_received {data : RecordData} (h : data.Legible) {p : Packet} {start : Nat}
    {places : Places} (h_size : p.size ≤ packetLimit) (h_sound : Sound p places start)
    (h_holds : Holds p start (dataLayout data start places).1) :
    Reader.data data.type (dataLayout data start places).1.length p start =
        some (data.received, start + (dataLayout data start places).1.length) ∧
      Sound p (dataLayout data start places).2
        (start + (dataLayout data start places).1.length) := by
  -- data without octets is not looked at
  by_cases h_nil : (dataLayout data start places).1 = []
  · obtain ⟨h_received, h_places⟩ := received_of_layout_eq_nil h_nil
    rw [h_nil, h_places, h_received]
    exact ⟨rfl, h_sound⟩
  · obtain ⟨h_read, h_sound'⟩ := dataOf_received h h_size h_sound h_holds h_nil
    -- what the data is read from is all that was counted
    have h_room := h_holds.length_le h_nil
    have h_pos := List.length_pos_iff.mpr h_nil
    refine ⟨?_, h_sound'⟩
    rw [Reader.data, if_neg (Nat.ne_of_gt h_pos), Reader.bind_apply, Reader.remaining_apply,
      Option.bind_some, if_neg (by omega)]
    simp only [Reader.bind_apply, Reader.place_apply, Option.bind_some, h_read, if_true,
      Reader.pure_apply]

/-- The number of octets in front of an item is read as such, and what follows begins behind it. -/
theorem word_measured {α : Type} {f : UInt16 → Reader α} {a : Layout} {p : Packet} {start : Nat}
    {places : Places} (h_size : p.size ≤ packetLimit)
    (h_holds : Holds p start (a.measured start places).1) :
    (Reader.word >>= f) p start =
        f (UInt16.ofNat (a (start + 2) places).1.length) p (start + 2) ∧
      (UInt16.ofNat (a (start + 2) places).1.length).toNat = (a (start + 2) places).1.length := by
  refine ⟨(reads_word _).step h_holds.left, ?_⟩
  -- the data is within the packet, so its length fits into a word
  have h_le := h_holds.length_le (List.cons_ne_nil _ _)
  rw [Layout.measured, List.length_append, length_octets16] at h_le
  have h_limit : p.size < 65536 := Nat.lt_succ_of_le h_size
  exact UInt16.toNat_ofNat_of_lt' (show _ < 65536 by omega)

/-- Data is read behind the number of its octets. -/
theorem recovers_measured {data : RecordData} (h : data.Legible) :
    Recovers (do let n ← Reader.word; Reader.data data.type n.toNat) (dataLayout data).measured
      data.received := by
  intro p start places h_size h_sound h_holds
  -- the length is read first, and then the data of this length
  obtain ⟨h_count, h_length⟩ :=
    word_measured (f := fun n => Reader.data data.type n.toNat) h_size h_holds
  obtain ⟨h_read, h_sound'⟩ := data_received h h_size (h_sound.mono (Nat.le_add_right start 2))
    h_holds.right
  unfold Layout.measured
  rw [List.length_append, length_octets16, ← Nat.add_assoc]
  refine ⟨?_, h_sound'⟩
  rw [h_count, h_length, h_read]

/-! ### Records -/

/-- What is read of a record. -/
def Record.received (r : Record) : Record := { r with data := r.data.received }

/-- A record that can be read. -/
def Record.Legible (r : Record) : Prop := r.owner.length < 255 ∧ r.data.Legible

theorem recovers_record {r : Record} (h : r.Legible) :
    Recovers Reader.record (recordLayout r) r.received := by
  -- what stands behind the class, with the length in front of the data
  have h_fields : Recovers
      (do
        let ttl ← Reader.doubleWord
        let n ← Reader.word
        return {
          owner := r.owner, ttl, cacheFlush := Draft.classIn r.cacheFlush &&& 0x8000 != 0
          data := ← Reader.data r.data.type n.toNat : Record })
      ((Layout.fixed (octets32 r.ttl)).andThen (dataLayout r.data).measured) r.received := by
    refine (Recovers.fixed (reads_doubleWord r.ttl)).bind ?_
    have h_data := (recovers_measured h.2).map fun data =>
      ({ owner := r.owner, ttl := r.ttl, cacheFlush := r.cacheFlush, data } : Record)
    -- the class tells whether what is cached is flushed
    rw [marked_classIn]
    rwa [bind_assoc] at h_data
  rw [recordLayout, Layout.fixed_append_andThen, Layout.fixed_append_andThen]
  refine (recovers_name h.1).bind <| (Recovers.fixed (reads_word _)).bind <|
    (Recovers.fixed (reads_word _)).bind ?_
  -- the type is none of an extension
  rw [if_neg h.2.type_ne_opt, knownClass_classIn]
  exact h_fields

/-! ### Messages -/

/-- What is read of a message. -/
def Message.received (m : Message) : Message where
  isResponse := m.isResponse
  truncated := m.truncated
  questions := m.questions
  answers := m.answers.map Record.received
  additionals := m.additionals.map Record.received

/-- A message that can be read. -/
structure Message.Legible (m : Message) : Prop where
  questions : ∀ q ∈ m.questions, q.name.length < 255
  answers : ∀ r ∈ m.answers, r.Legible
  additionals : ∀ r ∈ m.additionals, r.Legible

/-- Items that take so many octets each take as many times more together. -/
theorem mul_length_le_of_all {α : Type} {layout : α → Layout} {k : Nat}
    (h : ∀ item start places, k ≤ (layout item start places).1.length) (items : List α)
    (start : Nat) (places : Places) :
    k * items.length ≤ (Layout.all layout items start places).1.length := by
  -- on the items: each of them takes at least `k`
  induction items generalizing start places with
  | nil => exact Nat.zero_le _
  | cons item items ih =>
    have h_item := h item start places
    have h_items := ih (start + (layout item start places).1.length) (layout item start places).2
    simp only [Layout.all, Layout.andThen, List.length_cons, List.length_append, Nat.mul_succ]
    omega

/-- Records that can be read carry no extensions. -/
theorem isExtension_received {r : Record} (h : r.Legible) :
    Reader.isExtension r.received = false := by
  have h_type : r.received.data.type = r.data.type := r.data.received_type
  rw [Reader.isExtension, h_type]
  exact beq_eq_false_iff_ne.mpr h.2.type_ne_opt

/-- The sections of a message, read one behind the other, and the message made of them. -/
def bodyReader (m : Message) : Reader Message := do
  let questions ← Reader.many Reader.question m.questions.length
  let answers ← Reader.many Reader.record m.answers.length
  let _ ← Reader.many Reader.record 0
  let additionals ← Reader.many Reader.record m.additionals.length
  if 1 < additionals.countP Reader.isExtension then Reader.refuse
  return {
    isResponse := m.isResponse
    truncated := m.truncated
    questions
    answers
    additionals := additionals.filter (!Reader.isExtension ·) }

theorem recovers_body {m : Message} (h : m.Legible) :
    Recovers (bodyReader m) (bodyLayout m) m.received := by
  -- the sections are read one after the other
  have h_questions : Recovers (Reader.many Reader.question m.questions.length)
      (.all questionLayout m.questions) (m.questions.map id) :=
    recovers_many fun q hq => recovers_question (h.questions q hq)
  have h_answers := recovers_many fun r hr => recovers_record (h.answers r hr)
  have h_additionals := recovers_many fun r hr => recovers_record (h.additionals r hr)
  -- none of the additional records is read as an extension
  have h_plain : ∀ r ∈ m.additionals.map Record.received, Reader.isExtension r = false := by
    intro r hr
    obtain ⟨r', hr', rfl⟩ := List.mem_map.mp hr
    exact isExtension_received (h.additionals r' hr')
  -- so none is counted as one, and none is dropped
  have h_count : (m.additionals.map Record.received).countP Reader.isExtension = 0 :=
    List.countP_eq_zero.mpr fun r hr => by rw [h_plain r hr]; exact Bool.false_ne_true
  have h_filter : (m.additionals.map Record.received).filter (!Reader.isExtension ·) =
      m.additionals.map Record.received :=
    List.filter_eq_self.mpr fun r hr => by rw [h_plain r hr]; rfl
  rw [List.map_id] at h_questions
  refine h_questions.bind <| h_answers.bind ?_
  intro p start places h_size h_sound h_holds
  obtain ⟨h_read, h_sound'⟩ := h_additionals p start places h_size h_sound h_holds
  refine ⟨?_, h_sound'⟩
  -- there is no section of authorities
  have h_none : Reader.many Reader.record 0 = pure [] := rfl
  rw [h_none, pure_bind, Reader.bind_apply, h_read, Option.bind_some]
  dsimp only
  rw [h_count, h_filter]
  rfl

/-- The flags of a message, read again. -/
theorem flags_read (isResponse truncated : Bool) :
    Reader.knownOpcode ((Message.flags isResponse truncated >>> 11) &&& 0xf) = true ∧
      (Message.flags isResponse truncated &&& 0x8000 != 0) = isResponse ∧
      (Message.flags isResponse truncated &&& 0x0200 != 0) = truncated := by
  cases isResponse <;> cases truncated <;> exact ⟨rfl, rfl, rfl⟩

theorem one_le_length_question (q : Question) (start : Nat) (places : Places) :
    1 ≤ (questionLayout q start places).1.length :=
  List.length_pos_iff.mpr (List.append_ne_nil_of_left_ne_nil (nameText_ne_nil _ _) _)

/-- A record takes an octet for its owner, eight for type, class and time to live, and two for the
length of its data. -/
theorem eleven_le_length_record (r : Record) (start : Nat) (places : Places) :
    11 ≤ (recordLayout r start places).1.length := by
  have h_owner := List.length_pos_iff.mpr (nameText_ne_nil places r.owner.labels)
  simp only [recordLayout, nameLayout, Layout.andThen, Layout.fixed, Layout.measured,
    List.length_append, length_octets16, length_octets32]
  omega

/-- There are not more items in a message than the octets in its sections allow. -/
theorem count_le_length_body (m : Message) (start : Nat) (places : Places) :
    m.questions.length + 11 * (m.answers.length + m.additionals.length) ≤
      (bodyLayout m start places).1.length := by
  -- a question takes an octet at least, and a record eleven
  have h_questions := mul_length_le_of_all one_le_length_question m.questions start places
  have h_answers := mul_length_le_of_all eleven_le_length_record m.answers
  have h_additionals := mul_length_le_of_all eleven_le_length_record m.additionals
  unfold bodyLayout Layout.andThen
  rw [List.length_append, List.length_append, Nat.mul_add]
  rw [Nat.one_mul] at h_questions
  exact Nat.add_le_add h_questions (Nat.add_le_add (h_answers _ _) (h_additionals _ _))

/-- Behind the header of a message, a packet is read as the sections of the message, if it holds
them there. -/
theorem message_of_holds {m : Message} {p : Packet} (h_size : p.size ≤ packetLimit)
    (h₀ : Holds p 0 (fullHeader m ++ (bodyLayout m 12 []).1)) :
    Reader.message p 0 = bodyReader m p 12 := by
  -- the numbers of items are less than the packet is long
  have h_length := h₀.length_le (List.append_ne_nil_of_left_ne_nil (List.cons_ne_nil _ _) _)
  rw [List.length_append] at h_length
  have h_limit : p.size ≤ 65535 := h_size
  have h_count := count_le_length_body m 12 []
  have h_questions : (UInt16.ofNat m.questions.length).toNat = m.questions.length :=
    UInt16.toNat_ofNat_of_lt' (show _ < 65536 by omega)
  have h_answers : (UInt16.ofNat m.answers.length).toNat = m.answers.length :=
    UInt16.toNat_ofNat_of_lt' (show _ < 65536 by omega)
  have h_additionals : (UInt16.ofNat m.additionals.length).toNat = m.additionals.length :=
    UInt16.toNat_ofNat_of_lt' (show _ < 65536 by omega)
  -- the header is six numbers
  obtain ⟨h_opcode, h_response, h_truncated⟩ := flags_read m.isResponse m.truncated
  have h₁ : Holds p 0 (octets16 0 ++ (octets16 (Message.flags m.isResponse m.truncated) ++
      (octets16 (UInt16.ofNat m.questions.length) ++ (octets16 (UInt16.ofNat m.answers.length) ++
        (octets16 0 ++ octets16 (UInt16.ofNat m.additionals.length)))))) := h₀.left
  have h₂ := h₁.right
  have h₃ := h₂.right
  have h₄ := h₃.right
  have h₅ := h₄.right
  rw [Reader.message, (reads_word _).step h₁.left, (reads_word _).step h₂.left, h_opcode,
    if_neg (by decide)]
  dsimp only
  rw [(reads_word _).step h₃.left, (reads_word _).step h₄.left, (reads_word _).step h₅.left,
    (reads_word _).step h₅.right, h_questions, h_answers, h_additionals, h_response, h_truncated]
  rfl

/-- **Messages are read as they were written.** A packet that holds a message that can be read,
behind the header of the message, is read as the message. -/
theorem Message.decode?_of_holds {m : Message} (h_legible : m.Legible) {p : Packet}
    (h_size : p.size ≤ packetLimit) (h_holds : Holds p 0 (fullHeader m ++ (bodyLayout m 12 []).1)) :
    Message.decode? p = some m.received := by
  obtain ⟨h_read, -⟩ := recovers_body h_legible p 12 [] h_size (.nil p 12) h_holds.right
  rw [Message.decode?, message_of_holds h_size h_holds, h_read]
  rfl

/-- A packet that is not marked as truncated holds its message. -/
theorem holds_of_encode {m : Message} (h_whole : m.truncated = false) {p : Packet}
    (h : m.encode = .ok p) (h_clear : marksTruncation p = false) :
    p.size ≤ packetLimit ∧ Holds p 0 (fullHeader m ++ (bodyLayout m 12 []).1) := by
  obtain ⟨h_list, h_size⟩ := toList_of_encode h h_whole h_clear
  refine ⟨h_size, ?_⟩
  rw [← h_list]
  exact List.prefix_refl _

/-- So if a message can be read at all, and its packet is not marked as truncated, then the packet
is read as the message. -/
theorem Message.decode?_encode {m : Message} (h_legible : m.Legible) (h_whole : m.truncated = false)
    {p : Packet} (h : m.encode = .ok p) (h_clear : marksTruncation p = false) :
    Message.decode? p = some m.received := by
  obtain ⟨h_size, h_holds⟩ := holds_of_encode h_whole h h_clear
  exact decode?_of_holds h_legible h_size h_holds

end ServiceDiscovery.Dns
