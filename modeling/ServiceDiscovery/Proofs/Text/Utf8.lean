import ServiceDiscovery.Text.Utf8

/-!
# Texts survive UTF-8

Octets that encode characters are read as these characters (`Utf8.decodeLossy_encode`), so a text
comes back unchanged (`Utf8.textLossy_bytes`).

A character takes one to four octets.  The first of them says how many follow and leaves a character
begun; each of the others lies in the range that it leaves open, which is narrower behind a few
first octets: there the range is what keeps surrogates and overlong forms out, and no character is
either.

For the same reason octets that begin a longer character never read as one that takes a single
octet; so an asterisk is read off the octet of an asterisk alone (`Utf8.textLossy_eq_asterisk`).
-/

namespace ServiceDiscovery.Utf8

/-- An octet of a longer character that begins it. -/
theorem decodeFrom_begin {b : UInt8} {p : Begun} (h : begin? b = some p) (bs : List UInt8) :
    decodeFrom none (b :: bs) = decodeFrom (some p) bs := by
  -- an octet below 128 begins nothing, since it is a character by itself
  have h_high : ¬ b < 0x80 := by
    intro h_low
    have h_lt : b.toNat < 128 := UInt8.lt_iff_toNat_lt.mp h_low
    simp only [begin?] at h
    rw [if_neg (by omega), if_neg (by omega), if_neg (by omega), if_neg (by omega),
      if_neg (by omega), if_neg (by omega), if_neg (by omega)] at h
    exact absurd h (by simp)
  have h_step : step none b = ([], some p) := by
    simp only [step, fresh, if_neg h_high, h]
  rw [decodeFrom, h_step, List.nil_append]

/-- An octet in the range that is left open continues the character that is begun. -/
theorem decodeFrom_continue {p : Begun} {b : UInt8} (h : p.low ≤ b ∧ b ≤ p.high)
    (h_owed : 1 < p.owed)
    (bs : List UInt8) :
    decodeFrom (some p) (b :: bs) =
      decodeFrom (some ⟨p.owed - 1, 0x80, 0xbf, p.extend b⟩) bs := by
  have h_step : step (some p) b = ([], some ⟨p.owed - 1, 0x80, 0xbf, p.extend b⟩) := by
    simp only [step, if_pos h, if_neg (Nat.not_le_of_lt h_owed)]
  rw [decodeFrom, h_step, List.nil_append]

/-- The last octet that is owed completes the character. -/
theorem decodeFrom_complete {p : Begun} {b : UInt8} (h : p.low ≤ b ∧ b ≤ p.high)
    (h_owed : p.owed = 1)
    (bs : List UInt8) :
    decodeFrom (some p) (b :: bs) = Char.ofNat (p.extend b) :: decodeFrom none bs := by
  have h_step : step (some p) b = ([Char.ofNat (p.extend b)], none) := by
    simp only [step, if_pos h, if_pos (Nat.le_of_eq h_owed)]
  rw [decodeFrom, h_step, List.singleton_append]

section Octets

variable {v : Nat}

theorem toNat_ofNat_of_lt {n : Nat} (h : n < 256) : (UInt8.ofNat n).toNat = n :=
  UInt8.toNat_ofNat_of_lt' h

/-- An octet that continues a character is in range where nothing narrower is asked for. -/
theorem mem_range (n : Nat) :
    (0x80 : UInt8) ≤ .ofNat (n % 64 + 128) ∧ .ofNat (n % 64 + 128) ≤ (0xbf : UInt8) := by
  have h_octet : (UInt8.ofNat (n % 64 + 128)).toNat = n % 64 + 128 :=
    toNat_ofNat_of_lt (by omega)
  simp only [UInt8.le_iff_toNat_le, h_octet, UInt8.reduceToNat]
  omega

/-- What an octet that continues a character adds to it. -/
theorem extend_ofNat (p : Begun) (n : Nat) :
    p.extend (.ofNat (n % 64 + 128)) = p.value * 64 + n % 64 := by
  have h_octet : (UInt8.ofNat (n % 64 + 128)).toNat = n % 64 + 128 :=
    toNat_ofNat_of_lt (by omega)
  have h_low : (UInt8.ofNat (n % 64 + 128)).toNat - 0x80 = n % 64 := by omega
  exact congrArg (p.value * 64 + ·) h_low

/-- The first octet of two. -/
theorem begin?_two (h : 127 < v) (h' : v ≤ 2047) :
    begin? (.ofNat (v / 64 % 32 + 192)) = some ⟨1, 0x80, 0xbf, v / 64⟩ := by
  have h_octet : (UInt8.ofNat (v / 64 % 32 + 192)).toNat = v / 64 + 192 := by
    rw [toNat_ofNat_of_lt (by omega)]
    omega
  simp only [begin?, h_octet]
  rw [if_pos (by omega), Nat.add_sub_cancel]

/-- The first octet of three leaves the second in a range that holds it. -/
theorem begin?_three (h : 2047 < v) (h' : v ≤ 65535) (h_valid : v < 0xd800 ∨ 0xdfff < v) :
    ∃ low high, begin? (.ofNat (v / 4096 % 16 + 224)) = some ⟨2, low, high, v / 4096⟩ ∧
      low ≤ .ofNat (v / 64 % 64 + 128) ∧ .ofNat (v / 64 % 64 + 128) ≤ high := by
  have h_octet : (UInt8.ofNat (v / 4096 % 16 + 224)).toNat = v / 4096 + 224 := by
    rw [toNat_ofNat_of_lt (by omega)]
    omega
  have h_next : (UInt8.ofNat (v / 64 % 64 + 128)).toNat = v / 64 % 64 + 128 :=
    toNat_ofNat_of_lt (by omega)
  simp only [begin?, h_octet, UInt8.le_iff_toNat_le, h_next]
  rw [if_neg (by omega)]
  by_cases h_least : v / 4096 = 0
  · -- characters below take two octets
    rw [if_pos (by omega), h_least]
    refine ⟨_, _, rfl, ?_⟩
    simp only [UInt8.reduceToNat]
    omega
  rw [if_neg (by omega)]
  by_cases h_surrogate : v / 4096 = 13
  · -- surrogates lie above, and are no characters
    rw [if_pos (by omega), h_surrogate]
    refine ⟨_, _, rfl, ?_⟩
    simp only [UInt8.reduceToNat]
    omega
  rw [if_neg (by omega), if_pos (by omega), Nat.add_sub_cancel]
  refine ⟨_, _, rfl, ?_⟩
  simp only [UInt8.reduceToNat]
  omega

/-- The first octet of four leaves the second in a range that holds it. -/
theorem begin?_four (h : 65535 < v) (h' : v < 0x110000) :
    ∃ low high, begin? (.ofNat (v / 262144 % 8 + 240)) = some ⟨3, low, high, v / 262144⟩ ∧
      low ≤ .ofNat (v / 4096 % 64 + 128) ∧ .ofNat (v / 4096 % 64 + 128) ≤ high := by
  have h_octet : (UInt8.ofNat (v / 262144 % 8 + 240)).toNat = v / 262144 + 240 := by
    rw [toNat_ofNat_of_lt (by omega)]
    omega
  have h_next : (UInt8.ofNat (v / 4096 % 64 + 128)).toNat = v / 4096 % 64 + 128 :=
    toNat_ofNat_of_lt (by omega)
  simp only [begin?, h_octet, UInt8.le_iff_toNat_le, h_next]
  rw [if_neg (by omega), if_neg (by omega), if_neg (by omega), if_neg (by omega)]
  by_cases h_least : v / 262144 = 0
  · -- characters below take three octets
    rw [if_pos (by omega), h_least]
    refine ⟨_, _, rfl, ?_⟩
    simp only [UInt8.reduceToNat]
    omega
  rw [if_neg (by omega)]
  by_cases h_last : v / 262144 = 4
  · -- there are no characters above
    rw [if_neg (by omega), if_pos (by omega), h_last]
    refine ⟨_, _, rfl, ?_⟩
    simp only [UInt8.reduceToNat]
    omega
  rw [if_pos (by omega), Nat.add_sub_cancel]
  refine ⟨_, _, rfl, ?_⟩
  simp only [UInt8.reduceToNat]
  omega

end Octets

/-- The octets of one character are read as that character. -/
theorem decodeFrom_encodeChar (c : Char) (bs : List UInt8) :
    decodeFrom none (String.utf8EncodeChar c ++ bs) = c :: decodeFrom none bs := by
  have h_char : Char.ofNat c.val.toNat = c := Char.ofNat_toNat c
  have h_valid : c.val.toNat < 0xd800 ∨ 0xdfff < c.val.toNat ∧ c.val.toNat < 0x110000 := c.valid
  unfold String.utf8EncodeChar
  generalize c.val.toNat = v at *
  dsimp only
  -- a character takes as many octets as its code asks for: one
  by_cases h₁ : v ≤ 127
  · have h_octet : (UInt8.ofNat v).toNat = v := toNat_ofNat_of_lt (by omega)
    have h_low : UInt8.ofNat v < 0x80 := by
      rw [UInt8.lt_iff_toNat_lt, h_octet]
      exact Nat.lt_succ_of_le h₁
    have h_step : step none (.ofNat v) = ([c], none) := by
      simp only [step, fresh, if_pos h_low, h_octet, h_char]
    rw [if_pos h₁, List.singleton_append, decodeFrom, h_step, List.singleton_append]
  rw [if_neg h₁]
  -- two octets
  by_cases h₂ : v ≤ 2047
  · have h_sum : v / 64 * 64 + v % 64 = v := by omega
    rw [if_pos h₂, List.cons_append, List.singleton_append,
      decodeFrom_begin (begin?_two (Nat.lt_of_not_le h₁) h₂),
      decodeFrom_complete (mem_range v) rfl, extend_ofNat, h_sum, h_char]
  rw [if_neg h₂]
  -- three octets
  by_cases h₃ : v ≤ 65535
  · obtain ⟨low, high, h_begin, h_range⟩ := begin?_three (Nat.lt_of_not_le h₂) h₃ (by omega)
    have h_sum : (v / 4096 * 64 + v / 64 % 64) * 64 + v % 64 = v := by omega
    rw [if_pos h₃, List.cons_append, List.cons_append, List.singleton_append,
      decodeFrom_begin h_begin, decodeFrom_continue h_range (Nat.lt_succ_self 1), extend_ofNat,
      decodeFrom_complete (mem_range v) rfl, extend_ofNat, h_sum, h_char]
  -- four octets
  obtain ⟨low, high, h_begin, h_range⟩ := begin?_four (v := v) (Nat.lt_of_not_le h₃) (by omega)
  have h_sum : ((v / 262144 * 64 + v / 4096 % 64) * 64 + v / 64 % 64) * 64 + v % 64 = v := by omega
  rw [if_neg h₃, List.cons_append, List.cons_append, List.cons_append, List.singleton_append,
    decodeFrom_begin h_begin, decodeFrom_continue h_range (Nat.lt_add_of_pos_left Nat.two_pos),
    extend_ofNat, decodeFrom_continue (mem_range (v / 64)) (Nat.lt_succ_self 1), extend_ofNat,
    decodeFrom_complete (mem_range v) rfl, extend_ofNat, h_sum, h_char]

/-- **Characters survive.** What encodes characters is read as these characters. -/
theorem decodeLossy_encode (cs : List Char) : decodeLossy (encode cs) = cs := by
  unfold decodeLossy encode
  induction cs with
  | nil => rfl
  | cons c cs ih => rw [List.flatMap_cons, decodeFrom_encodeChar, ih]

/-- **Texts survive.** The octets of a text stand for that text. -/
theorem textLossy_bytes (text : String) : textLossy (bytes text) = text := by
  unfold textLossy bytes
  rw [decodeLossy_encode, String.ofList_toList]

/-! ### What reads as an asterisk -/

/-- A character that is begun is not one that a single octet could have spelled: its number is
positive, or has to become so with the next octet, of which there is more to come. -/
def Begun.Long (p : Begun) : Prop := 1 ≤ p.value ∨ 2 ≤ p.owed ∧ 0x80 < p.low

theorem long_of_begin? {b : UInt8} {p : Begun} (h : begin? b = some p) : p.Long := by
  unfold begin? at h
  dsimp only at h
  -- one branch for each range of first octets, and the others begin nothing
  repeat' split at h
  all_goals first
    | obtain rfl := Option.some.inj h
    | exact absurd h (by simp)
  · exact .inl (by dsimp only; omega)
  · exact .inr (by decide)
  · exact .inl (by decide)
  · exact .inl (by dsimp only; omega)
  · exact .inr (by decide)
  · exact .inl (by dsimp only; omega)
  · exact .inl (by decide)

/-- Another octet keeps it so, and the last one makes a number of more than six bits. -/
theorem Begun.Long.extend {p : Begun} (h : p.Long) {b : UInt8} (h_low : p.low ≤ b) :
    1 ≤ p.extend b ∧ (p.owed ≤ 1 → 64 ≤ p.extend b) := by
  have h_low' := UInt8.le_iff_toNat_le.mp h_low
  unfold Begun.extend
  rcases h with h_value | ⟨h_owed, h_range⟩
  · -- the value goes up by the octets that have come in
    omega
  · have h_range' := UInt8.lt_iff_toNat_lt.mp h_range
    simp only [UInt8.reduceToNat] at h_range'
    omega

/-- A number is that of a character, or no character has it. -/
theorem toNat_ofNat_eq (n : Nat) :
    (Char.ofNat n).toNat = n ∨ ¬ n.isValidChar ∧ (Char.ofNat n).toNat = 0 := by
  -- a number that is no code of a character becomes the null character
  by_cases h : n.isValidChar
  · have h_char : Char.ofNat n = Char.ofNatAux n h := dif_pos h
    rw [h_char]
    exact .inl rfl
  · have h_none : Char.ofNat n = ⟨0, .inl (by decide)⟩ := dif_neg h
    rw [h_none]
    exact .inr ⟨h, rfl⟩

theorem ofNat_ne_asterisk {n : Nat} (h : 64 ≤ n) : Char.ofNat n ≠ '*' := by
  intro h_eq
  have h_star : '*'.toNat = 42 := rfl
  have h_cases := toNat_ofNat_eq n
  rw [h_eq, h_star] at h_cases
  omega

/-- What was begun is not read as an asterisk, nor as nothing. -/
theorem decodeFrom_some_head {p : Begun} (h : p.Long) (bs : List UInt8) :
    ∃ c, (decodeFrom (some p) bs).head? = some c ∧ c ≠ '*' := by
  -- on the octets: the one that is next belongs to the sequence, or breaks it off
  induction bs generalizing p with
  | nil => exact ⟨replacement, rfl, by decide⟩
  | cons b bs ih =>
    rw [decodeFrom, step]
    split
    · next h_range =>
      obtain ⟨h_one, h_last⟩ := h.extend h_range.1
      split
      · next h_owed => exact ⟨_, rfl, ofNat_ne_asterisk (h_last h_owed)⟩
      · exact ih (.inl h_one)
    · -- a sequence that is broken off leaves a replacement
      exact ⟨replacement, rfl, by decide⟩

theorem decodeLossy_eq_nil {bs : List UInt8} (h : decodeLossy bs = []) : bs = [] := by
  cases bs with
  | nil => rfl
  | cons b bs =>
    exfalso
    rw [decodeLossy, decodeFrom, step, fresh] at h
    split at h
    · -- an octet by itself leaves a character
      exact absurd h (by simp)
    · split at h
      · -- a sequence leaves one as well, or a replacement
        next p h_begin =>
        obtain ⟨c, h_head, -⟩ := decodeFrom_some_head (long_of_begin? h_begin) bs
        rw [List.nil_append] at h
        rw [h] at h_head
        exact absurd h_head (by simp)
      · exact absurd h (by simp)

/-- **Asterisks.** Only the octet of an asterisk is read as an asterisk. -/
theorem textLossy_eq_asterisk {bs : List UInt8} : textLossy bs = "*" ↔ bs = [42] := by
  -- only an octet by itself can give an asterisk
  refine ⟨fun h => ?_, fun h => by rw [h]; decide⟩
  have h_chars : decodeLossy bs = ['*'] := by
    have h_list := congrArg String.toList h
    rwa [textLossy, String.toList_ofList] at h_list
  cases bs with
  | nil => exact absurd h_chars (by decide)
  | cons b bs =>
    rw [decodeLossy, decodeFrom, step, fresh] at h_chars
    -- an octet by itself is its own code, and nothing follows
    split at h_chars
    · next h_low =>
      obtain ⟨h_char, h_rest⟩ := List.cons.inj h_chars
      have h_nat := congrArg Char.toNat h_char
      have h_lt : b.toNat < 128 := UInt8.lt_iff_toNat_lt.mp h_low
      have h_self : (Char.ofNat b.toNat).toNat = b.toNat :=
        (toNat_ofNat_eq b.toNat).resolve_right fun h => h.1 (.inl (by omega))
      rw [h_self] at h_nat
      rw [decodeLossy_eq_nil h_rest, UInt8.toNat_inj.mp (show b.toNat = (42 : UInt8).toNat from h_nat)]
    · split at h_chars
      · -- what comes of a sequence is no asterisk
        next p h_begin =>
        obtain ⟨c, h_head, h_ne⟩ := decodeFrom_some_head (long_of_begin? h_begin) bs
        rw [List.nil_append] at h_chars
        rw [h_chars] at h_head
        exact absurd (Option.some.inj h_head).symm h_ne
      · exact absurd h_chars (by simp [replacement])

end ServiceDiscovery.Utf8
