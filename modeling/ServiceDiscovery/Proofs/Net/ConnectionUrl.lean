import Mathlib.Data.List.Basic
import Mathlib.Data.List.Induction
import Mathlib.Data.List.TakeWhile
import ServiceDiscovery.Discovery.ConnectionUrl

/-!
# Connection URLs are unambiguous

Two peers on one link may differ in nothing but the address, and one address may be seen on two
interfaces; a client tells them by their URLs.  The text of an address leaves out zeros and the
brackets, colons and percent signs between its parts are characters of one text, so it is not
obvious that nothing is lost.

It is not, because the readers of `Net.AddressText` and `Net.SocketAddress` read back what is
written (`Ipv4.read?_spell`, `Ipv6.read?_spell`, `SocketAddress.read?_spell`): digits are read as
the number they were written for, no separator is a digit, and a double colon stands just where zero
groups are left out, as many as are missing from eight.
-/

namespace ServiceDiscovery

/-! ### Numbers -/

section Digits

variable {value? : Char → Option Nat} {b n : Nat}

/-- A text that is read as a number consists of digits. -/
theorem value?_ne_none_of_readDigits? {cs : List Char} (h : readDigits? value? b cs = some n) :
    ∀ c ∈ cs, value? c ≠ none := by
  induction cs using List.reverseRecOn generalizing n with
  | nil => simp
  | append_singleton cs c ih =>
    rw [readDigits?, List.foldlM_append] at h
    obtain ⟨m, h_front, h_last⟩ := Option.bind_eq_some_iff.mp h
    intro c' h_mem h_none
    -- the last digit has a value, and those before it are read first
    rcases List.mem_append.mp h_mem with h_mem | h_mem
    · exact ih h_front c' h_mem h_none
    · obtain rfl := List.mem_singleton.mp h_mem
      simp [h_none] at h_last

variable (h_value : ∀ d < b, value? d.digitChar = some d)

include h_value

/-- The digits of a number are read as the number, where each digit has its value. -/
theorem readDigits?_toDigits (hb : 1 < b) (n : Nat) :
    readDigits? value? b (Nat.toDigits b n) = some n := by
  induction n using Nat.strongRecOn with
  | ind n ih =>
    rcases Nat.lt_or_ge n b with h_lt | h_le
    · -- a single digit
      rw [Nat.toDigits_of_lt_base h_lt]
      simp [readDigits?, h_value n h_lt]
    · -- the number without its last digit, and that digit
      have h_front : readDigits? value? b (Nat.toDigits b (n / b)) = some (n / b) :=
        ih _ (Nat.div_lt_self (by omega) hb)
      have h_last : value? (n % b).digitChar = some (n % b) := h_value _ (Nat.mod_lt _ (by omega))
      rw [readDigits?] at h_front
      rw [Nat.toDigits_of_base_le hb h_le, readDigits?, List.foldlM_append, h_front]
      simp [h_last, Nat.div_add_mod]

/-- What is no digit does not occur in a number. -/
theorem notMem_toDigits (hb : 1 < b) (n : Nat) {c : Char} (hc : value? c = none) :
    c ∉ Nat.toDigits b n :=
  fun h_mem => value?_ne_none_of_readDigits? (readDigits?_toDigits h_value hb n) c h_mem hc

end Digits

theorem hexValue?_digitChar : ∀ d < 16, hexValue? d.digitChar = some d := by decide

theorem decimalValue?_digitChar : ∀ d < 10, decimalValue? d.digitChar = some d := by decide

/-- A decimal digit is a hexadecimal one. -/
theorem decimalValue?_eq_none {c : Char} (h : hexValue? c = none) : decimalValue? c = none := by
  unfold hexValue? at h
  unfold decimalValue?
  split at h
  · simp at h
  · exact if_neg ‹_›

theorem notMem_hexDigits (n : Nat) {c : Char} (hc : hexValue? c = none) : c ∉ hexDigits n :=
  notMem_toDigits hexValue?_digitChar (by decide) n hc

theorem notMem_decimalDigits (n : Nat) {c : Char} (hc : decimalValue? c = none) :
    c ∉ decimalDigits n :=
  notMem_toDigits decimalValue?_digitChar (by decide) n hc

theorem readDigits?_decimalDigits (n : Nat) :
    readDigits? decimalValue? 10 (decimalDigits n) = some n :=
  readDigits?_toDigits decimalValue?_digitChar (by decide) n

/-- A number other than zero does not begin with a zero. -/
theorem head?_decimalDigits_ne_zero {n : Nat} (hn : 0 < n) :
    (decimalDigits n).head? ≠ some '0' := by
  induction n using Nat.strongRecOn with
  | ind n ih =>
    unfold decimalDigits at ih ⊢
    rcases Nat.lt_or_ge n 10 with h_lt | h_le
    · -- a single digit is not zero, as the number is not
      have h_digit : ∀ d < 10, 0 < d → d.digitChar ≠ '0' := by decide
      rw [Nat.toDigits_of_lt_base h_lt]
      simpa using h_digit n h_lt hn
    · -- the first digit is that of the number without its last one
      rw [Nat.toDigits_of_base_le (by decide) h_le,
        List.head?_append_of_ne_nil _ Nat.toDigits_ne_nil]
      exact ih (n / 10) (by omega) (by omega)

theorem readOctet?_decimalDigits (x : UInt8) : readOctet? (decimalDigits x.toNat) = some x := by
  have h_lt : x.toNat < 256 := x.toNat_lt
  have h_length : (decimalDigits x.toNat).length ≤ 3 :=
    (Nat.length_toDigits_le_iff (by decide) (by decide)).mpr (by omega)
  -- more than one digit begins with none that could be left out
  have h_zero : ¬(1 < (decimalDigits x.toNat).length ∧
      (decimalDigits x.toNat).head? = some '0') := by
    rintro ⟨h_long, h_head⟩
    -- zero is one digit, and any other number begins with no zero
    rcases Nat.eq_zero_or_pos x.toNat with h | h
    · rw [h] at h_long
      exact absurd h_long (by decide)
    · exact head?_decimalDigits_ne_zero h h_head
  have h_guard : ¬(decimalDigits x.toNat = [] ∨ 3 < (decimalDigits x.toNat).length ∨
      (1 < (decimalDigits x.toNat).length ∧ (decimalDigits x.toNat).head? = some '0')) :=
    not_or.mpr ⟨Nat.toDigits_ne_nil, not_or.mpr ⟨by omega, h_zero⟩⟩
  rw [readOctet?, if_neg h_guard, readDigits?_decimalDigits, Option.bind_some, if_pos h_lt]
  simp

theorem readGroup?_hexDigits (g : UInt16) : readGroup? (hexDigits g.toNat) = some g := by
  have h_lt : g.toNat < 65536 := g.toNat_lt
  -- a group takes four digits at most
  have h_length : (hexDigits g.toNat).length ≤ 4 :=
    (Nat.length_toDigits_le_iff (by decide) (by decide)).mpr (by omega)
  have h_digits : readDigits? hexValue? 16 (hexDigits g.toNat) = some g.toNat :=
    readDigits?_toDigits hexValue?_digitChar (by decide) _
  have h_guard : ¬(hexDigits g.toNat = [] ∨ 4 < (hexDigits g.toNat).length) :=
    not_or.mpr ⟨Nat.toDigits_ne_nil, by omega⟩
  rw [readGroup?, if_neg h_guard, h_digits]
  simp

theorem SocketAddress.readBelow?_decimalDigits {n limit : Nat} (h : n < limit) :
    readBelow? limit (decimalDigits n) = some n := by
  have h_ne : decimalDigits n ≠ [] := Nat.toDigits_ne_nil
  rw [readBelow?, if_neg h_ne, readDigits?_decimalDigits, Option.bind_some, if_pos h]

/-! ### IPv4 addresses -/

namespace Ipv4

/-- The text of an IPv4 address has digits and dots only. -/
theorem notMem_spell (x : Ipv4) {c : Char} (h_digit : decimalValue? c = none) (h_dot : c ≠ '.') :
    c ∉ x.spell := by
  simp [spell, notMem_decimalDigits _ h_digit, h_dot]

/-- **An IPv4 address is read back.** -/
theorem read?_spell (x : Ipv4) : read? x.spell = some x := by
  have h_dot : ∀ n, '.' ∉ decimalDigits n := fun n => notMem_decimalDigits n (by decide)
  have h_split : x.spell.splitOn '.' = [x.a, x.b, x.c, x.d].map (decimalDigits ·.toNat) := by
    simp only [spell, List.append_assoc, List.cons_append, List.map_cons, List.map_nil,
      List.splitOn_append_cons_self_of_not_mem (h_dot _), List.splitOn_eq_singleton (h_dot _)]
  rw [read?, h_split]
  simp [readOctet?_decimalDigits]

end Ipv4

/-! ### Groups of an IPv6 address -/

namespace Ipv6

theorem spellGroups_eq (gs : List UInt16) :
    spellGroups gs = [':'].intercalate (gs.map (hexDigits ·.toNat)) := by
  fun_induction spellGroups gs with
  | case1 => rfl
  | case2 g => simp
  | case3 g h gs ih => simp [ih, List.intercalate_cons_cons]

theorem readParts?_hexDigits (gs : List UInt16) :
    readParts? (gs.map (hexDigits ·.toNat)) = some gs := by
  fun_induction spellGroups gs with
  | case1 => rfl
  | case2 g => simp [readParts?, notMem_hexDigits _ (c := '.') (by decide), readGroup?_hexDigits]
  | case3 g h gs ih =>
    rw [List.map_cons] at ih
    simp [readParts?, readGroup?_hexDigits, ih]

theorem spellGroups_eq_nil {gs : List UInt16} : spellGroups gs = [] ↔ gs = [] := by
  fun_cases spellGroups gs <;> simp [hexDigits]

/-- Groups between colons are read back. -/
theorem readRun?_spellGroups (gs : List UInt16) : readRun? (spellGroups gs) = some gs := by
  rcases eq_or_ne gs [] with rfl | h_ne
  · rfl
  · -- the colons are between the groups, and none is in a group
    have h_colon : ∀ part ∈ gs.map (hexDigits ·.toNat), ':' ∉ part := by
      intro part h_part
      obtain ⟨g, -, rfl⟩ := List.mem_map.mp h_part
      exact notMem_hexDigits _ (by decide)
    rw [readRun?, if_neg (spellGroups_eq_nil.not.mpr h_ne), spellGroups_eq,
      List.splitOn_intercalate ':' h_colon (by simpa using h_ne), readParts?_hexDigits]

/-! ### The gap in an IPv6 address -/

theorem splitAtGap?_cons_of_ne {c : Char} {cs : List Char} (h : c = ':' → cs.head? ≠ some ':') :
    splitAtGap? (c :: cs) = (splitAtGap? cs).map fun (front, back) => (c :: front, back) := by
  rw [splitAtGap?]
  rintro rest rfl rfl
  exact h rfl rfl

/-- There is no gap in characters that are no colons. -/
theorem splitAtGap?_append {front : List Char} (h : ':' ∉ front) (tail : List Char) :
    splitAtGap? (front ++ tail) = (splitAtGap? tail).map fun p => (front ++ p.1, p.2) := by
  induction front with
  | nil => simp
  | cons c front ih =>
    rw [List.mem_cons, not_or] at h
    rw [List.cons_append, splitAtGap?_cons_of_ne fun h_eq => absurd h_eq.symm h.1, ih h.2,
      Option.map_map]
    rfl

/-- Groups have no gap: a colon stands before a digit. -/
theorem splitAtGap?_spellGroups_append (gs : List UInt16) (tail : List Char) :
    splitAtGap? (spellGroups gs ++ tail) =
      (splitAtGap? tail).map fun p => (spellGroups gs ++ p.1, p.2) := by
  have h_colon : ∀ n, ':' ∉ hexDigits n := fun n => notMem_hexDigits n (by decide)
  -- what comes after a colon of the groups is a digit, so there is no gap
  have h_head : ∀ n rest, (hexDigits n ++ rest).head? ≠ some ':' := by
    intro n rest h_eq
    rw [List.head?_append_of_ne_nil (hexDigits n) Nat.toDigits_ne_nil] at h_eq
    exact h_colon n (List.mem_of_mem_head? h_eq)
  -- by the groups, as they are spelled
  fun_induction spellGroups gs with
  | case1 => simp
  | case2 g => exact splitAtGap?_append (h_colon _) tail
  | case3 g h gs ih =>
    -- nothing begins with a colon after the first one
    have h_next : (spellGroups (h :: gs) ++ tail).head? ≠ some ':' := by
      rcases gs with _ | ⟨g', gs⟩
      · exact h_head _ _
      · rw [spellGroups, List.append_assoc]
        exact h_head _ _
    rw [List.append_assoc, List.cons_append, splitAtGap?_append (h_colon _),
      splitAtGap?_cons_of_ne fun _ => h_next, ih, Option.map_map, Option.map_map]
    simp [Function.comp_def]

/-! ### The longest run of zero groups -/

/-- Groups, split around the zero groups that start at a place. -/
theorem eq_zerosAt (groups : List UInt16) (i : Nat) :
    groups = groups.take i ++
      List.replicate ((groups.drop i).takeWhile (· == 0)).length 0 ++
        groups.drop (i + ((groups.drop i).takeWhile (· == 0)).length) := by
  have h_zeros : (groups.drop i).takeWhile (· == 0) =
      List.replicate ((groups.drop i).takeWhile (· == 0)).length 0 :=
    List.eq_replicate_iff.mpr ⟨rfl, fun g h_mem => by simpa using List.mem_takeWhile_imp h_mem⟩
  have h_split : (groups.drop i).takeWhile (· == 0) ++ (groups.drop i).dropWhile (· == 0) =
      groups.drop i := List.takeWhile_append_dropWhile
  -- what follows the zeros is what is left when they are dropped
  have h_rest : groups.drop (i + ((groups.drop i).takeWhile (· == 0)).length) =
      (groups.drop i).dropWhile (· == 0) := by
    rw [← List.drop_drop]
    exact (congrArg _ h_split).symm.trans (List.drop_left' rfl)
  rw [h_rest, ← h_zeros, List.append_assoc, h_split, List.take_append_drop]

/-- Groups, split around the longest run of zero groups. -/
theorem eq_zeroRun (groups : List UInt16) :
    groups = groups.take (zeroRun groups).1 ++ List.replicate (zeroRun groups).2 0 ++
      groups.drop ((zeroRun groups).1 + (zeroRun groups).2) := by
  unfold zeroRun
  -- which run is the longest does not matter, as each that is picked is one
  refine List.foldlRecOn (motive := fun best : Nat × Nat => groups = groups.take best.1 ++
    List.replicate best.2 0 ++ groups.drop (best.1 + best.2)) _ _ (by simp) ?_
  intro best h_best i _
  dsimp only
  split
  · exact eq_zerosAt groups i
  · exact h_best

/-! ### IPv6 addresses -/

/-- The text of an IPv6 address has hexadecimal digits, colons and dots only. -/
theorem notMem_spell (x : Ipv6) {c : Char} (h_digit : hexValue? c = none) (h_colon : c ≠ ':')
    (h_dot : c ≠ '.') : c ∉ x.spell := by
  -- a group is spelled with digits, and groups are separated by colons
  have h_groups : ∀ gs, c ∉ spellGroups gs := by
    intro gs
    fun_induction spellGroups gs with
    | case1 => simp
    | case2 g => exact notMem_hexDigits _ h_digit
    | case3 g h gs ih => simp [notMem_hexDigits _ h_digit, h_colon, ih]
  -- `f` is a digit, so the character is not that one
  have h_f : c ≠ 'f' := by rintro rfl; exact absurd h_digit (by decide)
  fun_cases spell x with
  | case1 y h_mapped =>
    simp [y.notMem_spell (decimalValue?_eq_none h_digit) h_dot, h_colon, h_f]
  | case2 h_mapped groups start length h_run h_long => simp [h_groups, h_colon]
  | case3 h_mapped groups start length h_run h_short => exact h_groups _

theorem ofList?_groups (x : Ipv6) : ofList? x.groups.toList = some x := by
  rw [ofList?, dif_pos (by simp)]
  rfl

/-- A group is given by its two octets. -/
theorem ofNat_octets (g : UInt16) :
    UInt16.ofNat (256 * (g >>> 8).toUInt8.toNat + g.toUInt8.toNat) = g := by
  apply UInt16.toNat_inj.mp
  have h_lt := g.toNat_lt
  simp [Nat.shiftRight_eq_div_pow]
  omega

/-- The groups of an address that carries an IPv4 address. -/
theorem groups_of_mapped? {x : Ipv6} {y : Ipv4} (h : x.mapped? = some y) :
    x.groups.toList = List.replicate 5 0 ++ [0xffff,
      UInt16.ofNat (256 * y.a.toNat + y.b.toNat), UInt16.ofNat (256 * y.c.toNat + y.d.toNat)] := by
  obtain ⟨g₀, g₁, g₂, g₃, g₄, g₅, g₆, g₇, -, h_groups⟩ := x.eq_ofGroups
  rw [mapped?, octets, h_groups] at h
  split at h
  · next a b c d h_octets =>
    obtain rfl := Option.some.inj h
    simp only [List.flatMap_cons, List.flatMap_nil, List.cons_append, List.nil_append,
      List.cons.injEq, and_true] at h_octets
    -- sixteen octets, the first ten of which are zero
    obtain ⟨h₀, h₀', h₁, h₁', h₂, h₂', h₃, h₃', h₄, h₄', h₅, h₅', rfl, rfl, rfl, rfl⟩ := h_octets
    -- two octets make a group
    rw [h_groups, ofNat_octets, ofNat_octets, ← ofNat_octets g₀, ← ofNat_octets g₁,
      ← ofNat_octets g₂, ← ofNat_octets g₃, ← ofNat_octets g₄, ← ofNat_octets g₅,
      h₀, h₀', h₁, h₁', h₂, h₂', h₃, h₃', h₄, h₄', h₅, h₅']
    rfl
  · exact absurd h (by simp)

/-- **An IPv6 address is read back.** -/
theorem read?_spell (x : Ipv6) : read? x.spell = some x := by
  fun_cases spell x with
  | case1 y h_mapped =>
    -- the gap is at the very beginning
    have h_gap : splitAtGap? ("::ffff:".toList ++ y.spell) =
        some ([], "ffff".toList ++ ':' :: y.spell) := rfl
    have h_colon : ':' ∉ y.spell := y.notMem_spell (by decide) (by decide)
    have h_dot : '.' ∈ y.spell := by simp [Ipv4.spell]
    -- what follows it is one group and an address with dots
    have h_back : readRun? ("ffff".toList ++ ':' :: y.spell) = some [0xffff,
        UInt16.ofNat (256 * y.a.toNat + y.b.toNat),
        UInt16.ofNat (256 * y.c.toNat + y.d.toNat)] := by
      have h_ffff : readGroup? "ffff".toList = some 0xffff := by decide
      rw [readRun?, if_neg (by simp), List.splitOn_append_cons_self_of_not_mem (by decide),
        List.splitOn_eq_singleton h_colon, readParts?, h_ffff, readParts?, if_pos h_dot,
        y.read?_spell]
      · rfl
      · simp
    -- three groups are written, and the five in front of them are left out
    calc Ipv6.read? ("::ffff:".toList ++ y.spell)
      _ = ofList? (List.replicate 5 0 ++ [0xffff,
            UInt16.ofNat (256 * y.a.toNat + y.b.toNat),
            UInt16.ofNat (256 * y.c.toNat + y.d.toNat)]) := by
          rw [read?, h_gap]
          simp only [h_back]
          rfl
      _ = ofList? x.groups.toList := by rw [groups_of_mapped? h_mapped]
      _ = some x := x.ofList?_groups
  | case2 h_mapped groups start length h_run h_long =>
    -- the longest run of zeros is what is left out
    have h_groups : groups.take start ++ List.replicate length 0 ++
        groups.drop (start + length) = x.groups.toList := by
      have h_zeros := eq_zeroRun groups
      rw [h_run] at h_zeros
      exact h_zeros.symm
    generalize groups.take start = front at h_groups ⊢
    generalize groups.drop (start + length) = back at h_groups ⊢
    have h_length : front.length + length + back.length = 8 := by
      simpa [Nat.add_assoc] using congrArg List.length h_groups
    -- there is no gap before the one that was written
    have h_gap : splitAtGap? (spellGroups front ++ "::".toList ++ spellGroups back) =
        some (spellGroups front, spellGroups back) := by
      rw [List.append_assoc, splitAtGap?_spellGroups_append]
      simp [splitAtGap?]
    -- as many groups are missing from eight as were left out
    have h_missing : 8 - front.length - back.length = length := by omega
    calc Ipv6.read? (spellGroups front ++ "::".toList ++ spellGroups back)
      _ = ofList? (front ++ List.replicate length 0 ++ back) := by
          rw [read?, h_gap]
          simp only [readRun?_spellGroups, Option.bind_eq_bind, Option.bind_some, h_missing]
          exact if_pos (by omega)
      _ = ofList? x.groups.toList := by rw [h_groups]
      _ = some x := x.ofList?_groups
  | case3 h_mapped groups start length h_run h_short =>
    -- nothing was left out
    have h_gap : splitAtGap? (spellGroups groups) = none := by
      simpa [splitAtGap?] using splitAtGap?_spellGroups_append groups []
    rw [read?, h_gap, readRun?_spellGroups]
    exact x.ofList?_groups

end Ipv6

/-! ### Socket addresses -/

namespace SocketAddress

theorem readHost?_spell (x : Ipv6) (i : UInt32) :
    readHost? (x.spell ++ if i = 0 then [] else '%' :: decimalDigits i.toNat) = some (x, i) := by
  -- the address has no percent sign, so the first one is the end of it
  have h_percent : '%' ∉ x.spell := x.notMem_spell (by decide) (by decide) (by decide)
  split
  · next h_zero =>
    rw [readHost?, List.append_nil, List.splitOn_eq_singleton h_percent]
    simp [x.read?_spell, h_zero]
  · -- the interface is a number
    have h_digits : '%' ∉ decimalDigits i.toNat := notMem_decimalDigits _ (by decide)
    rw [readHost?, List.splitOn_append_cons_self_of_not_mem h_percent,
      List.splitOn_eq_singleton h_digits]
    simp [x.read?_spell, readBelow?_decimalDigits i.toNat_lt]

/-- **A socket address is read back.** -/
theorem read?_spell (x : SocketAddress) : read? x.spell = some x := by
  cases x with
  | v4 x port =>
    have h_colon : ':' ∉ x.spell := x.notMem_spell (by decide) (by decide)
    have h_port : ':' ∉ decimalDigits port.toNat := notMem_decimalDigits _ (by decide)
    -- the text does not begin with a bracket, as no digit is one
    have h_bracket : ∀ cs, (v4 x port).spell ≠ '[' :: cs := by
      intro cs h_eq
      have h_mem : '[' ∈ x.spell := by
        have h_head := congrArg List.head? h_eq
        rw [spell, List.head?_append_of_ne_nil x.spell (by simp [Ipv4.spell])] at h_head
        exact List.mem_of_mem_head? h_head
      exact x.notMem_spell (by decide) (by decide) h_mem
    rw [read?.eq_2 _ h_bracket, spell, List.splitOn_append_cons_self_of_not_mem h_colon,
      List.splitOn_eq_singleton h_port]
    simp [x.read?_spell, readBelow?_decimalDigits port.toNat_lt]
  | v6 x port i =>
    -- neither the address nor the interface has a bracket in it
    have h_bracket : ']' ∉ x.spell ++ if i = 0 then [] else '%' :: decimalDigits i.toNat := by
      have h_spell : ']' ∉ x.spell := x.notMem_spell (by decide) (by decide) (by decide)
      have h_digits : ']' ∉ decimalDigits i.toNat := notMem_decimalDigits _ (by decide)
      split <;> simp [h_spell, h_digits]
    have h_port : ']' ∉ ':' :: decimalDigits port.toNat := by
      simp [notMem_decimalDigits _ (c := ']') (by decide)]
    rw [spell, List.cons_append, List.cons_append, read?,
      List.splitOn_append_cons_self_of_not_mem h_bracket, List.splitOn_eq_singleton h_port]
    simp [readHost?_spell, readBelow?_decimalDigits port.toNat_lt]

theorem parse?_text (x : SocketAddress) : parse? x.text = some x := by
  rw [parse?, text, String.toList_ofList, read?_spell]

theorem text_injective {x y : SocketAddress} (h : x.text = y.text) : x = y :=
  Option.some.inj (by rw [← parse?_text x, h, parse?_text])

end SocketAddress

/-! ### Connection URLs -/

theorem connectionAddress_inj {a a' : IpAddress} {n n' : UInt16} {p p' : IpScope}
    {i i' : UInt32} :
    connectionAddress a n p i = connectionAddress a' n' p' i' ↔
      a = a' ∧ n = n' ∧ effectiveInterface a p i = effectiveInterface a' p' i' := by
  have h_v4 : ∀ (x : Ipv4) (p : IpScope) (i : UInt32), effectiveInterface (.v4 x) p i = 0 := by
    rintro x (_ | _ | _) i <;> rfl
  cases a <;> cases a' <;> simp [connectionAddress, h_v4]

/-- A URL leads to one socket address, however it is read. -/
theorem connectionUrl_eq_iff {a : IpAddress} {n : UInt16} {p : IpScope} {i : UInt32}
    {x : SocketAddress} :
    connectionUrl a n p i = "tcp://" ++ x.text ↔ connectionAddress a n p i = x := by
  refine ⟨fun h => ?_, fun h => by rw [connectionUrl, h]⟩
  have h_list := congrArg String.toList h
  rw [connectionUrl, String.toList_append, String.toList_append] at h_list
  exact SocketAddress.text_injective (String.toList_injective (List.append_cancel_left h_list))

/-- **Connection URLs are unambiguous.** Two URLs are the same just if they lead to one address, one
port and one effective interface.  So IPv6 peers that were seen over IPv6 get the same URL just if
they have one address and one port and were seen on one interface. -/
theorem connectionUrls_are_unambiguous :
    (∀ (a a' : IpAddress) (n n' : UInt16) (p p' : IpScope) (i i' : UInt32),
      connectionUrl a n p i = connectionUrl a' n' p' i' ↔
        a = a' ∧ n = n' ∧ effectiveInterface a p i = effectiveInterface a' p' i') ∧
    ∀ (x x' : Ipv6) (n n' : UInt16) (i i' : UInt32),
      connectionUrl (.v6 x) n .v6 i = connectionUrl (.v6 x') n' .v6 i' ↔
        x = x' ∧ n = n' ∧ i = i' := by
  have h_all : ∀ (a a' : IpAddress) (n n' : UInt16) (p p' : IpScope) (i i' : UInt32),
      connectionUrl a n p i = connectionUrl a' n' p' i' ↔
        a = a' ∧ n = n' ∧ effectiveInterface a p i = effectiveInterface a' p' i' :=
    fun a a' n n' p p' i i' => connectionUrl_eq_iff.trans connectionAddress_inj
  refine ⟨h_all, fun x x' n n' i i' => ?_⟩
  rw [h_all, IpAddress.v6.injEq, effectiveInterface, effectiveInterface]

end ServiceDiscovery
