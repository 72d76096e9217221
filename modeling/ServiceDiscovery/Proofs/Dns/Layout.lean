import ServiceDiscovery.Proofs.Dns.Pieces

/-!
# What is written where

What an item of a message becomes depends on where it is written and on the endings of names that
have known places by then.  A `Layout` is that function, from a place and the known endings to the
octets of the item and the endings known behind it.  Layouts are put one behind the other
(`Layout.andThen`), and so there is one for every item of a message: names, data, records, sections.

Writing an item that fits appends the octets of its layout and learns the places of its layout
(`Writes`).  For a name this says that writing it in full first, then cutting it back to a pointer,
comes to the same as looking every ending up before it is written (`writes_putName`).
-/

namespace ServiceDiscovery.Dns

/-- Endings of names and where they start, earliest first. -/
abbrev Places := List (List Label × Nat)

/-- What an item becomes at a place where some endings are known: its octets, and the endings that
are known behind it. -/
abbrev Layout := Nat → Places → List UInt8 × Places

namespace Layout

/-- Octets that are the same everywhere. -/
def fixed (piece : List UInt8) : Layout := fun _ places => (piece, places)

/-- One item behind the other. -/
def andThen (a b : Layout) : Layout := fun start places =>
  ((a start places).1 ++ (b (start + (a start places).1.length) (a start places).2).1,
    (b (start + (a start places).1.length) (a start places).2).2)

/-- The number of its octets in front of an item. -/
def measured (a : Layout) : Layout := fun start places =>
  (octets16 (UInt16.ofNat (a (start + 2) places).1.length) ++ (a (start + 2) places).1,
    (a (start + 2) places).2)

/-- Items one behind the other. -/
def all {α : Type} (layout : α → Layout) : List α → Layout
  | [] => fixed []
  | item :: items => (layout item).andThen (all layout items)

end Layout

/-! ### Layouts of the items of a message -/

/-- A pointer to a place. -/
def pointer (place : Nat) : List UInt8 := octets16 (0xc000 ||| UInt16.ofNat place)

/-- The octets of a name where some endings are known: its labels up to the first ending that is,
then a pointer, or a zero octet if there is none. -/
def nameText (places : Places) : List Label → List UInt8
  | [] => [0]
  | l :: ls =>
    match places.lookup (l :: ls) with
    | some place => pointer place
    | none => counted l ++ nameText places ls

/-- A name that is ended by a pointer where that can be. -/
def nameLayout (n : Name) : Layout := fun start places =>
  (nameText places n.labels,
    (Draft.shorten (start + n.length < placeLimit) places start n.labels).1)

/-- A name in lower case and in full. -/
def targetLayout (n : Name) : Layout := fun start places =>
  (nameText [] n.lower.labels,
    Draft.learn (start + n.lower.length < placeLimit) places start n.lower.labels)

def questionLayout (q : Question) : Layout :=
  (nameLayout q.name).andThen (.fixed (octets16 q.type ++ octets16 (Draft.classIn q.unicast)))

def dataLayout : RecordData → Layout
  | .ptr target => nameLayout target
  | .srv priority weight port target =>
    (Layout.fixed (octets16 priority ++ (octets16 weight ++ octets16 port))).andThen
      (targetLayout target)
  | .txt entries => .fixed (entries.flatMap counted)
  | .a address => .fixed address.octets
  | .aaaa address => .fixed (address.groups.toList.flatMap octets16)
  | .other _ => .fixed []

def recordLayout (r : Record) : Layout :=
  (nameLayout r.owner).andThen <|
    (Layout.fixed (octets16 r.data.type ++
      (octets16 (Draft.classIn r.cacheFlush) ++ octets32 r.ttl))).andThen <|
    (dataLayout r.data).measured

/-! ### The text of a name -/

@[simp] theorem length_counted (entry : List UInt8) : (counted entry).length = entry.length + 1 :=
  rfl

@[simp] theorem length_pointer (place : Nat) : (pointer place).length = 2 := rfl

theorem nameOctets_cons (l : Label) (ls : List Label) :
    nameOctets (l :: ls) = counted l ++ nameOctets ls := rfl

theorem nameOctets_append (a b : List Label) :
    nameOctets (a ++ b) = nameOctets a ++ nameOctets b :=
  List.flatMap_append

@[simp] theorem length_nameOctets (ls : List Label) : (nameOctets ls).length = labelsLength ls := by
  induction ls with
  | nil => rfl
  | cons l ls ih =>
    rw [nameOctets_cons, List.length_append, length_counted, ih]
    rfl

theorem labelsLength_append (a b : List Label) :
    labelsLength (a ++ b) = labelsLength a + labelsLength b := by
  rw [← length_nameOctets, nameOctets_append, List.length_append, length_nameOctets,
    length_nameOctets]

/-- Without known endings a name is written in full. -/
theorem nameText_nil (ls : List Label) : nameText [] ls = nameOctets ls ++ [0] := by
  induction ls with
  | nil => rfl
  | cons l ls ih =>
    rw [nameOctets_cons, List.append_assoc, ← ih]
    rfl

theorem nameText_ne_nil (places : Places) (ls : List Label) : nameText places ls ≠ [] := by
  cases ls with
  | nil => exact List.cons_ne_nil _ _
  | cons l ls =>
    unfold nameText
    split
    · exact List.cons_ne_nil _ _
    · exact List.cons_ne_nil _ _

/-- A place that is learnt for a longer ending does not matter. -/
theorem lookup_concat_of_length {places : Places} {key ls : List Label} {start : Nat}
    (h : ls.length < key.length) :
    (places ++ [(key, start)]).lookup ls = places.lookup ls := by
  have h_ne : (ls == key) = false := by
    refine beq_eq_false_iff_ne.mpr ?_
    rintro rfl
    exact Nat.lt_irrefl _ h
  rw [List.lookup_append, List.lookup_cons, h_ne, List.lookup_nil, Option.or_none]

theorem nameText_concat_of_length {places : Places} {key ls : List Label} {start : Nat}
    (h : ls.length < key.length) :
    nameText (places ++ [(key, start)]) ls = nameText places ls := by
  induction ls with
  | nil => rfl
  | cons l ls ih =>
    unfold nameText
    rw [lookup_concat_of_length h, ih (Nat.lt_of_succ_lt h)]

/-- What is learnt on the way does not change how the rest of a name is written. -/
theorem nameText_learning {learning : Bool} {places : Places} {l : Label} {ls : List Label}
    {start : Nat} :
    nameText (if learning then places ++ [(l :: ls, start)] else places) ls =
      nameText places ls := by
  cases learning with
  | true => exact nameText_concat_of_length (Nat.lt_succ_self _)
  | false => rfl

/-- Where a name is cut, its text is a pointer; a name that is not cut is written in full. -/
theorem shorten_snd (learning : Bool) (places : Places) (start : Nat) (ls : List Label) :
    ((Draft.shorten learning places start ls).2 = none ∧
      nameText places ls = nameOctets ls ++ [0]) ∨
    ∃ before ending place, ls = before ++ ending ∧ ending ≠ [] ∧
      (Draft.shorten learning places start ls).2 = some (start + labelsLength before, place) ∧
      nameText places ls = nameOctets before ++ pointer place := by
  -- on the labels: the first ending that is known is cut off
  induction ls generalizing places start with
  | nil => exact .inl ⟨rfl, rfl⟩
  | cons l ls ih =>
    unfold Draft.shorten nameText
    cases h : places.lookup (l :: ls) with
    -- the ending is known from here on
    | some place => exact .inr ⟨[], l :: ls, place, rfl, List.cons_ne_nil _ _, rfl, rfl⟩
    | none =>
      dsimp only
      -- the rest of the name, written behind this label
      rcases ih (if learning then places ++ [(l :: ls, start)] else places) (start + l.length + 1)
        with ⟨h_cut, h_text⟩ | ⟨before, ending, place, rfl, h_ne, h_cut, h_text⟩
      · rw [nameText_learning] at h_text
        exact .inl ⟨h_cut, by rw [h_text, nameOctets_cons, List.append_assoc]⟩
      · rw [nameText_learning] at h_text
        refine .inr ⟨l :: before, ending, place, rfl, h_ne, ?_, ?_⟩
        · rw [h_cut, labelsLength]
          congr 2
          omega
        · rw [h_text, nameOctets_cons, List.append_assoc]

/-! ### Writing a layout -/

/-- What ends well began well. -/
theorem bind_eq_ok {ε α β : Type} {x : Except ε α} {f : α → Except ε β} {b : β} :
    x >>= f = .ok b ↔ ∃ a, x = .ok a ∧ f a = .ok b := by
  cases x with
  | error e => exact ⟨fun h => absurd h (by simp [Bind.bind, Except.bind]), by simp⟩
  | ok a => exact ⟨fun h => ⟨a, rfl, h⟩, fun ⟨_, h, h'⟩ => Except.ok.inj h ▸ h'⟩

/-- Writing that succeeds appends the layout, and stays within the limit of a packet. -/
def Writes (put : Draft → Except Stop Draft) (layout : Layout) : Prop :=
  ∀ d d', put d = .ok d' →
    d'.octets.toList = d.octets.toList ++ (layout d.size d.places).1 ∧
    d'.places = (layout d.size d.places).2 ∧ (d.size ≤ packetLimit → d'.size ≤ packetLimit)

namespace Writes

variable {f g : Draft → Except Stop Draft} {a b : Layout}

theorem size {d d' : Draft} (h : Writes f a) (hf : f d = .ok d') :
    d'.size = d.size + (a d.size d.places).1.length := by
  obtain ⟨h_octets, -, -⟩ := h d d' hf
  have h_len := congrArg List.length h_octets
  rwa [List.length_append, Array.length_toList, Array.length_toList] at h_len

/-- First one item, then the next. -/
theorem bind (hf : Writes f a) (hg : Writes g b) : Writes (fun d => f d >>= g) (a.andThen b) := by
  intro d d'' h
  -- what is written second starts where the first has ended
  obtain ⟨d', h₁, h₂⟩ := bind_eq_ok.mp h
  obtain ⟨h_octets, h_places, h_limit⟩ := hf d d' h₁
  obtain ⟨h_octets', h_places', h_limit'⟩ := hg d' d'' h₂
  have h_size := hf.size h₁
  rw [h_octets, h_size, h_places] at h_octets'
  rw [h_size, h_places] at h_places'
  exact ⟨by rw [h_octets', List.append_assoc]; rfl, h_places', fun h => h_limit' (h_limit h)⟩

theorem nothing : Writes (fun d => .ok d) (.fixed []) := by
  intro d d' h
  rw [← Except.ok.inj h]
  exact ⟨(List.append_nil _).symm, rfl, id⟩

end Writes

open Draft

theorem put_ok {piece : List UInt8} {d d' : Draft} (h : put piece d = .ok d') :
    d' = { d with octets := d.octets ++ piece } ∧ d.size + piece.length ≤ packetLimit := by
  unfold put at h
  split at h
  · next h_fits => exact ⟨(Except.ok.inj h).symm, h_fits⟩
  · exact absurd h (by simp)

theorem size_append (d : Draft) (piece : List UInt8) :
    ({ d with octets := d.octets ++ piece } : Draft).size = d.size + piece.length := by
  simp [Draft.size, ← Array.length_toList]

theorem writes_put (piece : List UInt8) : Writes (put piece) (.fixed piece) := by
  intro d d' h
  obtain ⟨rfl, h_fits⟩ := put_ok h
  refine ⟨by simp [Layout.fixed], rfl, fun _ => ?_⟩
  rw [size_append]
  exact h_fits

theorem writes_putAll (pieces : List (List UInt8)) :
    Writes (putAll pieces) (.fixed pieces.flatten) := by
  induction pieces with
  | nil => exact .nothing
  | cons piece pieces ih =>
    exact (writes_put piece).bind ih

theorem writes_putCounted (entry : List UInt8) :
    Writes (putCounted entry) (.fixed (counted entry)) := by
  have h := writes_putAll [[UInt8.ofNat entry.length], entry]
  rwa [List.flatten_cons, List.flatten_cons, List.flatten_nil, List.append_nil] at h

/-- Counted octets one after the other, as labels and as attributes. -/
theorem writes_foldlM_putCounted (entries : List (List UInt8)) :
    Writes (fun d => entries.foldlM (fun d entry => d.putCounted entry) d)
      (.fixed (entries.flatMap counted)) := by
  induction entries with
  | nil => exact .nothing
  | cons entry entries ih =>
    exact (writes_putCounted entry).bind ih

theorem writes_putLabels (ls : List Label) : Writes (putLabels ls) (.fixed (nameOctets ls)) :=
  writes_foldlM_putCounted ls

/-- A name that is ended takes at most 255 octets. -/
theorem endName_ok {start : Nat} {d d' : Draft} (h : endName start d = .ok d') :
    put [0] d = .ok d' ∧ d'.size - start ≤ 255 := by
  unfold endName at h
  obtain ⟨d₁, hp, h⟩ := bind_eq_ok.mp h
  -- a name that is too long is an error
  split at h
  · exact absurd h (by simp [throw, throwThe, MonadExceptOf.throw])
  · next h_short =>
    obtain rfl := Except.ok.inj h
    exact ⟨hp, Nat.le_of_not_lt h_short⟩

/-- **Writing a name.** Writing it in full and cutting it back comes to its layout. -/
theorem writes_putName (n : Name) : Writes (putName n) (nameLayout n) := by
  intro d d'' h
  unfold putName at h
  -- the labels are written in full, and then the ending is looked for
  obtain ⟨d', hl, h⟩ := bind_eq_ok.mp h
  obtain ⟨h_octets, h_places, -⟩ := writes_putLabels n.labels d d' hl
  have h_size : d'.size = d.size + n.length := by
    rw [(writes_putLabels n.labels).size hl]
    exact congrArg _ (length_nameOctets _)
  simp only [Layout.fixed] at h_octets h_places
  simp only [h_size, h_places] at h
  unfold nameLayout
  rcases shorten_snd (d.size + n.length < placeLimit) d.places d.size n.labels with
    ⟨h_cut, h_text⟩ | ⟨before, ending, place, h_labels, -, h_cut, h_text⟩
  · -- no ending is known, so the name is ended with a zero octet
    rcases hs : shorten (d.size + n.length < placeLimit) d.places d.size n.labels with ⟨places, cut⟩
    rw [hs] at h h_cut
    obtain rfl : cut = none := h_cut
    obtain ⟨h_put, -⟩ := endName_ok h
    obtain ⟨rfl, h_fits⟩ := put_ok h_put
    refine ⟨?_, rfl, fun _ => ?_⟩
    · simp [h_octets, h_text]
    · rw [size_append]
      exact h_fits
  · -- the ending gives way to a pointer
    rcases hs : shorten (d.size + n.length < placeLimit) d.places d.size n.labels with ⟨places, cut⟩
    rw [hs] at h h_cut
    obtain rfl : cut = some (d.size + labelsLength before, place) := h_cut
    have h_put : put (pointer place)
        { octets := d'.octets.take (d.size + labelsLength before), places } = .ok d'' := h
    obtain ⟨rfl, h_fits⟩ := put_ok h_put
    -- what is left of the labels is what comes before the ending
    have h_take : (d'.octets.take (d.size + labelsLength before)).toList =
        d.octets.toList ++ nameOctets before := by
      have h_len : d.size + labelsLength before =
          (d.octets.toList ++ nameOctets before).length := by
        simp [Draft.size]
      have h_toList : (d'.octets.take (d.size + labelsLength before)).toList =
          d'.octets.toList.take (d.size + labelsLength before) := by simp
      rw [h_toList, h_octets, h_labels, nameOctets_append, ← List.append_assoc, h_len,
        List.take_left]
    refine ⟨?_, rfl, fun _ => ?_⟩
    · rw [Array.toList_appendList, h_take, h_text, List.append_assoc]
    · rw [size_append]
      exact h_fits

theorem writes_putTarget (n : Name) : Writes (putTarget n) (targetLayout n) := by
  intro d d'' h
  unfold putTarget at h
  obtain ⟨d', hl, h⟩ := bind_eq_ok.mp h
  obtain ⟨h_octets, h_places, -⟩ := writes_putLabels n.lower.labels d d' hl
  have h_size : d'.size = d.size + n.lower.length := by
    rw [(writes_putLabels n.lower.labels).size hl]
    exact congrArg _ (length_nameOctets _)
  -- in a target no ending is looked for
  simp only [Layout.fixed] at h_octets h_places
  simp only [h_size, h_places] at h
  obtain ⟨h_put, -⟩ := endName_ok h
  obtain ⟨rfl, h_fits⟩ := put_ok h_put
  refine ⟨?_, rfl, fun _ => ?_⟩
  · simp [h_octets, targetLayout, nameText_nil]
  · rw [size_append]
    exact h_fits

/-- A target that is written is short enough to be read. -/
theorem length_lt_of_putTarget {n : Name} {d d' : Draft} (h : putTarget n d = .ok d') :
    n.length < 255 := by
  -- what is put has the octets of the labels and the zero octet
  have h_size := (writes_putTarget n).size h
  have h_text : (targetLayout n d.size d.places).1.length = n.length + 1 := by
    unfold targetLayout
    rw [nameText_nil, List.length_append, length_nameOctets]
    exact congrArg (· + 1) (Name.labelsLength_map_lower n.labels)
  unfold putTarget at h
  obtain ⟨d₁, -, h⟩ := bind_eq_ok.mp h
  obtain ⟨-, h_short⟩ := endName_ok h
  -- and with it the name was not too long
  omega

theorem writes_putQuestion (q : Question) : Writes (putQuestion q) (questionLayout q) := by
  have h := (writes_putName q.name).bind
    (writes_putAll [octets16 q.type, octets16 (classIn q.unicast)])
  rw [List.flatten_cons, List.flatten_cons, List.flatten_nil, List.append_nil] at h
  exact h

theorem writes_putData (data : RecordData) : Writes (putData data) (dataLayout data) := by
  -- one case for each kind of data
  cases data with
  | ptr target => exact writes_putName target
  | srv priority weight port target =>
    have h := (writes_putAll [octets16 priority, octets16 weight, octets16 port]).bind
      (writes_putTarget target)
    rw [List.flatten_cons, List.flatten_cons, List.flatten_cons, List.flatten_nil,
      List.append_nil] at h
    exact h
  | txt entries => exact writes_foldlM_putCounted entries
  | a address =>
    have h := writes_putAll (address.octets.map ([·]))
    rwa [← List.flatMap_def, List.flatMap_singleton'] at h
  | aaaa address =>
    have h := writes_putAll (address.groups.toList.map octets16)
    rwa [← List.flatMap_def] at h
  | other type => exact .nothing

/-- The length in front of some data is filled in once the data is written. -/
theorem writes_measured (data : RecordData) :
    Writes
      (fun d => do
        let d' ← (put [0, 0] d >>= putData data)
        return d'.patch16 d.size (UInt16.ofNat (d'.size - (d.size + 2))))
      (dataLayout data).measured := by
  intro d d'' h
  -- two octets for the length, then the data
  have h_pair := (writes_put [0, 0]).bind (writes_putData data)
  obtain ⟨d', hd, h⟩ := bind_eq_ok.mp h
  obtain rfl := Except.ok.inj h
  obtain ⟨h_octets, h_places, h_limit⟩ := h_pair d d' hd
  have h_size := h_pair.size hd
  simp only [Layout.andThen, Layout.fixed, List.length_append, List.length_cons,
    List.length_nil, Nat.zero_add, Nat.reduceAdd] at h_octets h_places h_size
  refine ⟨?_, h_places, ?_⟩
  · -- the length that is set is that of the data
    have h_length : d'.size - (d.size + 2) = (dataLayout data (d.size + 2) d.places).1.length := by
      omega
    have h_place : d.size = d.octets.toList.length := Array.length_toList.symm
    simp only [patch16, Array.toList_setIfInBounds, h_octets, h_length, Layout.measured]
    generalize (dataLayout data (d.size + 2) d.places).1 = text
    -- the two zeros stand right behind what was written before
    rw [h_place, List.set_append_right _ _ (Nat.le_refl _),
      List.set_append_right _ _ (Nat.le_succ _)]
    simp [octets16]
  · -- the length does not change the size
    intro h_le
    have h_same : (d'.patch16 d.size (UInt16.ofNat (d'.size - (d.size + 2)))).size = d'.size := by
      simp [patch16, Draft.size]
    rw [h_same]
    exact h_limit h_le

/-- A record is its owner, its head, and its data behind the number of its octets. -/
theorem putRecord_eq (r : Record) : putRecord r = fun d => putName r.owner d >>= fun d =>
    putAll [octets16 r.data.type, octets16 (classIn r.cacheFlush), octets32 r.ttl] d >>= fun d => do
      let d' ← (put [0, 0] d >>= putData r.data)
      return d'.patch16 d.size (UInt16.ofNat (d'.size - (d.size + 2))) := by
  funext d
  simp [putRecord]

theorem writes_putRecord (r : Record) : Writes (putRecord r) (recordLayout r) := by
  have h := (writes_putName r.owner).bind <|
    (writes_putAll [octets16 r.data.type, octets16 (classIn r.cacheFlush), octets32 r.ttl]).bind
      (writes_measured r.data)
  rw [List.flatten_cons, List.flatten_cons, List.flatten_cons, List.flatten_nil,
    List.append_nil] at h
  rw [putRecord_eq]
  exact h

/-! ### Sections -/

/-- Writes items one behind the other, and stops where one does not fit. -/
def putEach {α : Type} (putItem : α → Draft → Except Stop Draft) (items : List α) (d : Draft) :
    Except Stop Draft :=
  items.foldlM (fun d item => putItem item d) d

theorem writes_putEach {α : Type} {putItem : α → Draft → Except Stop Draft} {layout : α → Layout}
    (h : ∀ item, Writes (putItem item) (layout item)) (items : List α) :
    Writes (putEach putItem items) (.all layout items) := by
  induction items with
  | nil => exact .nothing
  | cons item items ih => exact (h item).bind ih

/-- **Sections.** A section is complete if all its items can be written, and otherwise has fewer
items than there are, unless a name is too long. -/
theorem putSection_cases {α : Type} (putItem : α → Draft → Except Stop Draft) (items : List α)
    (d : Draft) :
    (∃ d', putEach putItem items d = .ok d' ∧
      putSection putItem items d = .ok (d', items.length)) ∨
    (∃ left count, putEach putItem items d = .error (.full left) ∧
      putSection putItem items d = .ok (left, count) ∧ count < items.length) ∨
    (∃ octets, putEach putItem items d = .error (.nameTooLong octets) ∧
      putSection putItem items d = .error octets) := by
  -- counting from `n`, as the section does on its way
  have h_go : ∀ (items : List α) (n : Nat) (d : Draft),
      (∃ d', putEach putItem items d = .ok d' ∧
        putSection.go putItem items n d = .ok (d', n + items.length)) ∨
      (∃ left count, putEach putItem items d = .error (.full left) ∧
        putSection.go putItem items n d = .ok (left, count) ∧ count < n + items.length) ∨
      (∃ octets, putEach putItem items d = .error (.nameTooLong octets) ∧
        putSection.go putItem items n d = .error octets) := by
    intro items
    induction items with
    | nil => exact fun n d => .inl ⟨d, rfl, rfl⟩
    | cons item items ih =>
      intro n d
      rw [List.length_cons, Nat.add_comm items.length 1, ← Nat.add_assoc]
      unfold putEach putSection.go
      rw [List.foldlM_cons]
      -- the item fits, does not fit, or has an endless name
      cases h : putItem item d with
      | ok d' => exact ih (n + 1) d'
      | error stop =>
        cases stop with
        | full left => exact .inr (.inl ⟨left, n, rfl, rfl, by omega⟩)
        | nameTooLong octets => exact .inr (.inr ⟨octets, rfl, rfl⟩)
  have h := h_go items 0 d
  rwa [Nat.zero_add] at h

/-! ### Messages -/

/-- The sections of a message, one behind the other. -/
def bodyLayout (m : Message) : Layout :=
  (Layout.all questionLayout m.questions).andThen <|
    (Layout.all recordLayout m.answers).andThen (Layout.all recordLayout m.additionals)

/-- Writes the sections of a message, and stops where an item does not fit. -/
def putBody (m : Message) (d : Draft) : Except Stop Draft :=
  putEach putQuestion m.questions d >>= fun d =>
    putEach putRecord m.answers d >>= putEach putRecord m.additionals

theorem writes_putBody (m : Message) : Writes (putBody m) (bodyLayout m) :=
  (writes_putEach writes_putQuestion m.questions).bind <|
    (writes_putEach writes_putRecord m.answers).bind (writes_putEach writes_putRecord m.additionals)

/-- The draft with which a packet begins: twelve octets for the header. -/
def blankDraft : Draft := { octets := (Message.header 0 0 0 0).toArray, places := [] }

/-- Whether a packet says that records are missing for want of room. -/
def marksTruncation (p : Packet) : Bool := (p[2]?).any fun b => b &&& 2 != 0

/-- The header of a message that is complete. -/
def fullHeader (m : Message) : List UInt8 :=
  Message.header (Message.flags m.isResponse m.truncated) m.questions.length m.answers.length
    m.additionals.length

theorem marksTruncation_header (isResponse truncated : Bool) (questions answers additionals : Nat)
    (body : Packet) :
    marksTruncation ((Message.header (Message.flags isResponse truncated) questions answers
      additionals).toArray ++ body) = truncated := by
  -- the mark is in the third octet
  have h_get : ((Message.header (Message.flags isResponse truncated) questions answers
      additionals).toArray ++ body)[2]? =
        some (Message.flags isResponse truncated >>> 8).toUInt8 := by
    rw [Array.getElem?_append_left (by simp [Message.header, octets16])]
    rfl
  unfold marksTruncation
  rw [h_get]
  cases isResponse <;> cases truncated <;> rfl

/-- A packet has three sections, and is marked if one of them is cut. -/
theorem encode_ok {m : Message} {p : Packet} (h : m.encode = .ok p) :
    ∃ d₁ questions d₂ answers d₃ additionals,
      putSection putQuestion m.questions blankDraft = .ok (d₁, questions) ∧
      putSection putRecord m.answers d₁ = .ok (d₂, answers) ∧
      putSection putRecord m.additionals d₂ = .ok (d₃, additionals) ∧
      p = (Message.header (Message.flags m.isResponse (m.truncated ||
        (decide (questions < m.questions.length) || decide (answers < m.answers.length) ||
          decide (additionals < m.additionals.length)))) questions answers additionals).toArray ++
        d₃.octets.extract 12 := by
  -- the three sections one after the other
  unfold Message.encode at h
  obtain ⟨⟨d₁, questions⟩, h₁, h⟩ := bind_eq_ok.mp h
  obtain ⟨⟨d₂, answers⟩, h₂, h⟩ := bind_eq_ok.mp h
  obtain ⟨⟨d₃, additionals⟩, h₃, h⟩ := bind_eq_ok.mp h
  exact ⟨d₁, questions, d₂, answers, d₃, additionals, h₁, h₂, h₃, (Except.ok.inj h).symm⟩

/-- **Complete packets.** If all items of a message can be written, its packet is its header and
its body, and not marked as truncated.  Otherwise there is no packet, or it is marked. -/
theorem encode_cases (m : Message) (h_whole : m.truncated = false) :
    (∃ d, putBody m blankDraft = .ok d ∧
      m.encode = .ok ((fullHeader m).toArray ++ d.octets.extract 12)) ∨
    (∃ left, putBody m blankDraft = .error (.full left) ∧
      ∀ p, m.encode = .ok p → marksTruncation p = true) ∨
    (∃ octets, putBody m blankDraft = .error (.nameTooLong octets) ∧ m.encode = .error octets) := by
  -- the first section that is not complete decides
  unfold putBody
  rcases putSection_cases putQuestion m.questions blankDraft with
    ⟨d₁, h₁, hs₁⟩ | ⟨left, count, h₁, hs₁, h_cut⟩ | ⟨octets, h₁, hs₁⟩
  · -- the questions are complete
    rw [h₁]
    rcases putSection_cases putRecord m.answers d₁ with
      ⟨d₂, h₂, hs₂⟩ | ⟨left, count, h₂, hs₂, h_cut⟩ | ⟨octets, h₂, hs₂⟩
    · -- the answers are complete
      rcases putSection_cases putRecord m.additionals d₂ with
        ⟨d₃, h₃, hs₃⟩ | ⟨left, count, h₃, hs₃, h_cut⟩ | ⟨octets, h₃, hs₃⟩
      · -- the additional records are complete, so nothing is marked
        refine .inl ⟨d₃, by simp [h₂, h₃, Bind.bind, Except.bind], ?_⟩
        unfold blankDraft at hs₁
        simp [Message.encode, hs₁, hs₂, hs₃, fullHeader, h_whole, Bind.bind, Except.bind, pure,
          Except.pure]
      · -- they are cut, which the header marks
        refine .inr (.inl ⟨left, by simp [h₂, h₃, Bind.bind, Except.bind], fun p hp => ?_⟩)
        obtain ⟨e₁, _, e₂, _, e₃, _, he₁, he₂, he₃, rfl⟩ := encode_ok hp
        obtain ⟨rfl, rfl⟩ := Prod.mk.inj (Except.ok.inj (hs₁.symm.trans he₁))
        obtain ⟨rfl, rfl⟩ := Prod.mk.inj (Except.ok.inj (hs₂.symm.trans he₂))
        obtain ⟨rfl, rfl⟩ := Prod.mk.inj (Except.ok.inj (hs₃.symm.trans he₃))
        rw [marksTruncation_header]
        simp [h_cut]
      · -- one of their names is endless
        refine .inr (.inr ⟨octets, by simp [h₂, h₃, Bind.bind, Except.bind], ?_⟩)
        unfold blankDraft at hs₁
        simp [Message.encode, hs₁, hs₂, hs₃, Bind.bind, Except.bind]
    · -- the answers are cut, which the header marks
      refine .inr (.inl ⟨left, by simp [h₂, Bind.bind, Except.bind], fun p hp => ?_⟩)
      obtain ⟨e₁, _, e₂, _, e₃, _, he₁, he₂, -, rfl⟩ := encode_ok hp
      obtain ⟨rfl, rfl⟩ := Prod.mk.inj (Except.ok.inj (hs₁.symm.trans he₁))
      obtain ⟨rfl, rfl⟩ := Prod.mk.inj (Except.ok.inj (hs₂.symm.trans he₂))
      rw [marksTruncation_header]
      simp [h_cut]
    · -- one of their names is endless
      refine .inr (.inr ⟨octets, by simp [h₂, Bind.bind, Except.bind], ?_⟩)
      unfold blankDraft at hs₁
      simp [Message.encode, hs₁, hs₂, Bind.bind, Except.bind]
  · -- the questions are cut, which the header marks
    rw [h₁]
    refine .inr (.inl ⟨left, rfl, fun p hp => ?_⟩)
    obtain ⟨e₁, _, e₂, _, e₃, _, he₁, -, -, rfl⟩ := encode_ok hp
    obtain ⟨rfl, rfl⟩ := Prod.mk.inj (Except.ok.inj (hs₁.symm.trans he₁))
    rw [marksTruncation_header]
    simp [h_cut]
  · -- one of their names is endless
    rw [h₁]
    refine .inr (.inr ⟨octets, rfl, ?_⟩)
    unfold blankDraft at hs₁
    simp [Message.encode, hs₁, Bind.bind, Except.bind]

/-- A packet that is not marked is the header and the body of its message. -/
theorem toList_of_encode {m : Message} {p : Packet} (h : m.encode = .ok p)
    (h_whole : m.truncated = false) (h_clear : marksTruncation p = false) :
    p.toList = fullHeader m ++ (bodyLayout m 12 []).1 ∧ p.size ≤ packetLimit := by
  rcases encode_cases m h_whole with
    ⟨d, h_body, h_encode⟩ | ⟨left, -, h_marked⟩ | ⟨octets, -, h_error⟩
  · -- the body is in full what follows the header
    obtain ⟨h_octets, -, h_limit⟩ := writes_putBody m blankDraft d h_body
    have h_size := (writes_putBody m).size h_body
    have h_blank : blankDraft.octets.toList.length = 12 := rfl
    obtain rfl := Except.ok.inj (h_encode.symm.trans h)
    constructor
    · -- behind the header stands the body
      have h_drop : (d.octets.extract 12).toList = (bodyLayout m 12 []).1 := by
        rw [Array.toList_extract, List.extract_eq_take_drop, h_octets, ← h_blank, List.drop_left]
        refine List.take_of_length_le ?_
        change (bodyLayout m 12 []).1.length ≤ d.size - 12
        have h_size' : d.size = 12 + (bodyLayout m 12 []).1.length := h_size
        omega
      rw [Array.toList_append, h_drop]
    · -- the body keeps within the limit, and the header is as long as the blank one
      have h_le : d.size ≤ packetLimit := h_limit (by decide)
      have h_header : (fullHeader m).length = 12 := rfl
      have h_size' : d.octets.size = 12 + (bodyLayout m 12 []).1.length := h_size
      have h_le' : d.octets.size ≤ packetLimit := h_le
      simp only [Array.size_append, List.size_toArray, h_header, Array.size_extract]
      omega
  · -- what is cut is marked, and this packet is not
    rw [h_marked p h] at h_clear
    exact absurd h_clear (by simp)
  · rw [h] at h_error
    exact absurd h_error (by simp)

end ServiceDiscovery.Dns
