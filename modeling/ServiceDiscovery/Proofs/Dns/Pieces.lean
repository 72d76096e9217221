import ServiceDiscovery.Dns.Reader

/-!
# Pieces of a packet

A packet is written piece by piece, and read piece by piece.  `Holds p i piece` says that the packet
`p` has the octets of a piece at place `i`.  A reader that yields a value wherever a packet holds a
piece, and goes on behind it, reads that piece as that value (`Reads`); readers of longer pieces are
put together from readers of shorter ones (`Reads.bind`).

The pieces here are those that mean the same wherever they stand: numbers, addresses, and octets
that are counted.  Names are different, as a pointer means what stands elsewhere.
-/

namespace ServiceDiscovery.Dns

/-- The packet has these octets at this place. -/
def Holds (p : Packet) (i : Nat) (piece : List UInt8) : Prop :=
  piece <+: p.toList.drop i

namespace Holds

variable {p : Packet} {i : Nat} {a b : List UInt8}

theorem nil (p : Packet) (i : Nat) : Holds p i [] := List.nil_prefix

theorem left (h : Holds p i (a ++ b)) : Holds p i a :=
  (List.prefix_append a b).trans h

theorem right (h : Holds p i (a ++ b)) : Holds p (i + a.length) b := by
  obtain ⟨rest, h⟩ := h
  refine ⟨rest, ?_⟩
  rw [← List.drop_drop, ← h, List.append_assoc, List.drop_left]

theorem tail {x : UInt8} (h : Holds p i (x :: b)) : Holds p (i + 1) b :=
  right (a := [x]) h

/-- A piece that is held lies within the packet. -/
theorem length_le (h : Holds p i a) (ha : a ≠ []) : i + a.length ≤ p.size := by
  have h_len : a.length ≤ p.size - i := by
    have h_len := List.IsPrefix.length_le h
    rwa [List.length_drop, Array.length_toList] at h_len
  have h_pos : 0 < a.length := List.length_pos_iff.mpr ha
  omega

theorem getElem?_zero {x : UInt8} (h : Holds p i (x :: b)) : p[i]? = some x := by
  obtain ⟨rest, h⟩ := h
  have h_get := congrArg (·[0]?) h
  simpa using h_get.symm

/-- The octets of a piece, cut out of the packet. -/
theorem extract (h : Holds p i a) : (p.extract i (i + a.length)).toList = a := by
  obtain ⟨rest, h⟩ := h
  rw [Array.toList_extract, List.extract_eq_take_drop, Nat.add_sub_cancel_left, ← h,
    List.take_left]

end Holds

/-! ### Readers of pieces -/

/-- The reader reads the piece as this value, wherever it stands. -/
def Reads {α : Type} (x : Reader α) (piece : List UInt8) (value : α) : Prop :=
  ∀ p i, Holds p i piece → x p i = some (value, i + piece.length)

section Steps

variable {α β : Type} (p : Packet) (i : Nat)

@[simp] theorem Reader.pure_apply (a : α) : (pure a : Reader α) p i = some (a, i) := rfl

@[simp] theorem Reader.bind_apply (x : Reader α) (f : α → Reader β) :
    (x >>= f) p i = (x p i).bind fun read => f read.1 p read.2 := rfl

@[simp] theorem Reader.refuse_apply : (Reader.refuse : Reader α) p i = none := rfl

@[simp] theorem Reader.place_apply : Reader.place p i = some (i, i) := rfl

@[simp] theorem Reader.remaining_apply : Reader.remaining p i = some (p.size - i, i) := rfl

end Steps

namespace Reads

variable {α β : Type} {x : Reader α} {f : α → Reader β} {piece rest : List UInt8} {a : α} {b : β}

theorem pure (a : α) : Reads (pure a : Reader α) [] a := fun _ _ _ => rfl

/-- Behind a piece that has been read, reading goes on with its value. -/
theorem step {p : Packet} {i : Nat} (h : Reads x piece a) (h_holds : Holds p i piece) :
    (x >>= f) p i = f a p (i + piece.length) := by
  rw [Reader.bind_apply, h p i h_holds, Option.bind_some]

/-- First one piece, then the next. -/
theorem bind (h : Reads x piece a) (h' : Reads (f a) rest b) :
    Reads (x >>= f) (piece ++ rest) b := by
  intro p i h_holds
  have h_rest : f a p (i + piece.length) = some (b, i + piece.length + rest.length) :=
    h' p _ h_holds.right
  rw [h.step h_holds.left, h_rest, List.length_append, Nat.add_assoc]

end Reads

/-! ### Numbers -/

@[simp] theorem length_octets16 (n : UInt16) : (octets16 n).length = 2 := rfl

@[simp] theorem length_octets32 (n : UInt32) : (octets32 n).length = 4 := rfl

theorem reads_octet (b : UInt8) : Reads Reader.octet [b] b := by
  intro p i h
  simp [Reader.octet, h.getElem?_zero]

/-- The high octet of a number, put back in front of the low one. -/
theorem toUInt16_octets (n : UInt16) :
    (n >>> 8).toUInt8.toUInt16 <<< 8 ||| n.toUInt8.toUInt16 = n := by
  apply UInt16.toNat_inj.mp
  have h_lt := n.toNat_lt
  -- the upper octet counts the multiples of 256, the lower one the rest
  have h_high : ((n >>> 8).toUInt8.toUInt16 <<< 8).toNat = (n.toNat / 256) <<< 8 := by
    simp [Nat.shiftRight_eq_div_pow, Nat.shiftLeft_eq]
    omega
  have h_low : n.toUInt8.toUInt16.toNat = n.toNat % 256 := by simp
  rw [UInt16.toNat_or, h_high, h_low, ← Nat.shiftLeft_add_eq_or_of_lt (by omega), Nat.shiftLeft_eq]
  omega

/-- The high half of a number, put back in front of the low one. -/
theorem toUInt32_words (n : UInt32) :
    (n >>> 16).toUInt16.toUInt32 <<< 16 ||| n.toUInt16.toUInt32 = n := by
  apply UInt32.toNat_inj.mp
  have h_lt := n.toNat_lt
  -- the upper word counts the multiples of 65536, the lower one the rest
  have h_high : ((n >>> 16).toUInt16.toUInt32 <<< 16).toNat = (n.toNat / 65536) <<< 16 := by
    simp [Nat.shiftRight_eq_div_pow, Nat.shiftLeft_eq]
    omega
  have h_low : n.toUInt16.toUInt32.toNat = n.toNat % 65536 := by simp
  rw [UInt32.toNat_or, h_high, h_low, ← Nat.shiftLeft_add_eq_or_of_lt (by omega), Nat.shiftLeft_eq]
  omega

/-- Four octets are the two halves of the number, one after the other. -/
theorem octets32_eq (n : UInt32) :
    octets32 n = octets16 (n >>> 16).toUInt16 ++ octets16 n.toUInt16 := by
  -- the octets of the two words, one by one
  have h_first : (n >>> 24).toUInt8 = ((n >>> 16).toUInt16 >>> 8).toUInt8 := by
    have h_lt := n.toNat_lt
    apply UInt8.toNat_inj.mp
    simp [Nat.shiftRight_eq_div_pow]
    omega
  have h_second : (n >>> 16).toUInt8 = (n >>> 16).toUInt16.toUInt8 := by
    apply UInt8.toNat_inj.mp
    simp [Nat.shiftRight_eq_div_pow]
  have h_third : (n >>> 8).toUInt8 = (n.toUInt16 >>> 8).toUInt8 := by
    apply UInt8.toNat_inj.mp
    simp [Nat.shiftRight_eq_div_pow]
    omega
  have h_fourth : n.toUInt8 = n.toUInt16.toUInt8 := by simp
  unfold octets32 octets16
  rw [h_first, h_second, h_third, h_fourth]
  rfl

theorem reads_word (n : UInt16) : Reads Reader.word (octets16 n) n := by
  intro p i h
  have h_high : Reader.octet p i = some ((n >>> 8).toUInt8, i + 1) := reads_octet _ p i h.left
  have h_low : Reader.octet p (i + 1) = some (n.toUInt8, i + 1 + 1) := reads_octet _ p _ h.tail
  simp only [Reader.word, Reader.bind_apply, h_high, Option.bind_some, h_low, Reader.pure_apply,
    toUInt16_octets]
  rfl

theorem reads_doubleWord (n : UInt32) : Reads Reader.doubleWord (octets32 n) n := by
  rw [octets32_eq]
  intro p i h
  have h_high := reads_word (n >>> 16).toUInt16 p i h.left
  have h_low := reads_word n.toUInt16 p _ h.right
  simp only [Reader.doubleWord, Reader.bind_apply, h_high, Option.bind_some, h_low,
    Reader.pure_apply, toUInt32_words]
  rfl

/-! ### Octets and addresses -/

theorem reads_octets (piece : List UInt8) (h_ne : piece ≠ []) :
    Reads (Reader.octets piece.length) piece piece := by
  intro p i h
  have h_le := h.length_le h_ne
  rw [Reader.octets, if_pos h_le, h.extract]

theorem reads_address4 (x : Ipv4) : Reads Reader.address4 x.octets x :=
  (reads_octet x.a).bind <| (reads_octet x.b).bind <| (reads_octet x.c).bind <|
    (reads_octet x.d).bind <| .pure _

theorem reads_address6 (x : Ipv6) :
    Reads Reader.address6 (x.groups.toList.flatMap octets16) x := by
  obtain ⟨a, b, c, d, e, f, g, h, rfl, h_groups⟩ := Ipv6.eq_ofGroups x
  rw [h_groups]
  exact (reads_word a).bind <| (reads_word b).bind <| (reads_word c).bind <|
    (reads_word d).bind <| (reads_word e).bind <| (reads_word f).bind <|
    (reads_word g).bind <| (reads_word h).bind <| .pure _

/-- A number of octets in front of them. -/
def counted (entry : List UInt8) : List UInt8 := UInt8.ofNat entry.length :: entry

/-- Octets that are counted one after the other are taken apart again. -/
theorem strings?_flatMap_counted {entries : List (List UInt8)}
    (h : ∀ entry ∈ entries, entry.length ≤ 255) :
    Reader.strings? (entries.flatMap counted) = some entries := by
  -- on the entries: the octet in front tells where the next one begins
  induction entries with
  | nil => simp [Reader.strings?]
  | cons entry entries ih =>
    have h_entry : entry.length ≤ 255 := h entry (List.mem_cons_self ..)
    have h_count : (UInt8.ofNat entry.length).toNat = entry.length := by
      rw [UInt8.toNat_ofNat', Nat.mod_eq_of_lt (by omega)]
    have h_rest := ih fun entry' h' => h entry' (List.mem_cons_of_mem _ h')
    rw [List.flatMap_cons, counted, List.cons_append, Reader.strings?, h_count,
      if_pos (by simp), List.drop_left, List.take_left, h_rest, Option.map_some]

end ServiceDiscovery.Dns
