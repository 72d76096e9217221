import ServiceDiscovery.Proofs.Multicast.Hearing

/-!
# Names that are built and names that are recognised

Whoever publishes a service builds its name: the octets of the instance's text become the first
label, in front of the labels of the type.  Whoever browses takes a name for that of an instance if
it has one label more than the type and is the type behind its first label, and shows the first
label as text.  The text survives, and names are the same for DNS just if their texts are equal up
to the case of ASCII letters, as octets that are no letters are those of no letters
(`Utf8.encode_map_toLower`).

The two do not agree on all names, because labels are counted as if a first label `*` stood for any
label (`Dns.Name.depth`).  A name is recognised just if both the instance and the type begin with an
asterisk or neither does (`PeerTable.isOfType_iff`); so an instance that is called `*` can be
published, and nobody recognises it (`PeerTable.asterisk_is_not_recognised`).
-/

namespace ServiceDiscovery

open Dns (Name lowerOctet)

/-! ### Letter case in UTF-8 -/

namespace Utf8

theorem lowerOctet_of_high {b : UInt8} (h : 90 < b.toNat) : lowerOctet b = b := by
  unfold Dns.lowerOctet
  rw [if_neg]
  simp only [UInt8.le_iff_toNat_le, UInt8.reduceToNat]
  omega

/-- A character that is no ASCII character takes octets that are no letters. -/
theorem high_of_mem_encodeChar {c : Char} (h : 127 < c.val.toNat) {b : UInt8}
    (h_mem : b ∈ String.utf8EncodeChar c) : 90 < b.toNat := by
  -- two, three or four octets, each of them with an upper bit set
  have h_octet : ∀ n, 90 < n → n < 256 → 90 < (UInt8.ofNat n).toNat := fun n h_low h_high => by
    rwa [toNat_ofNat_of_lt h_high]
  unfold String.utf8EncodeChar at h_mem
  generalize c.val.toNat = v at *
  dsimp only at h_mem
  rw [if_neg (by omega)] at h_mem
  split at h_mem
  · simp only [List.mem_cons, List.not_mem_nil, or_false] at h_mem
    rcases h_mem with rfl | rfl <;> exact h_octet _ (by omega) (by omega)
  · split at h_mem
    · simp only [List.mem_cons, List.not_mem_nil, or_false] at h_mem
      rcases h_mem with rfl | rfl | rfl <;> exact h_octet _ (by omega) (by omega)
    · simp only [List.mem_cons, List.not_mem_nil, or_false] at h_mem
      rcases h_mem with rfl | rfl | rfl | rfl <;> exact h_octet _ (by omega) (by omega)

/-- A character in lower case takes the octets of the character, in lower case. -/
theorem encodeChar_toLower (c : Char) :
    String.utf8EncodeChar c.toLower = (String.utf8EncodeChar c).map lowerOctet := by
  by_cases h_ascii : c.toNat < 128
  · -- there are few enough ASCII characters to look at each of them
    have h_each : ∀ n < 128, String.utf8EncodeChar (Char.ofNat n).toLower =
        (String.utf8EncodeChar (Char.ofNat n)).map lowerOctet := by decide
    rw [← Char.ofNat_toNat c]
    exact h_each c.toNat h_ascii
  · have h_high : 127 < c.val.toNat := Nat.lt_of_succ_le (Nat.le_of_not_lt h_ascii)
    have h_same : c.toLower = c := by
      refine dif_neg fun h_letter => ?_
      have h_range : c.val.toNat ≤ 90 := h_letter.2
      omega
    rw [h_same]
    refine (List.map_congr_left fun b h_mem => ?_).trans (List.map_id _) |>.symm
    exact lowerOctet_of_high (high_of_mem_encodeChar h_high h_mem)

theorem encode_map_toLower (cs : List Char) :
    encode (cs.map Char.toLower) = (encode cs).map lowerOctet := by
  simp only [encode, List.flatMap_map, List.map_flatMap, encodeChar_toLower]

theorem toList_toLower (text : String) : text.toLower.toList = text.toList.map Char.toLower :=
  String.toList_map ..

theorem bytes_toLower (text : String) : bytes text.toLower = (bytes text).map lowerOctet := by
  rw [bytes, toList_toLower, encode_map_toLower, ← bytes]

/-- Different texts take different octets. -/
theorem bytes_injective : Function.Injective bytes :=
  Function.LeftInverse.injective textLossy_bytes

end Utf8

/-! ### Names of services -/

theorem bytes_asterisk : Utf8.bytes "*" = [42] := by decide

theorem bytes_eq_asterisk {text : String} : Utf8.bytes text = [42] ↔ text = "*" := by
  rw [← bytes_asterisk, Utf8.bytes_injective.eq_iff]

/-- The first label of a type is the first in its text, or that of the local domain. -/
theorem head?_of_typeName {serviceType : String} {type : Name}
    (h : typeName serviceType = .ok type) :
    type.head? = some [42] ↔ (labelsOf serviceType).head? = some [42] := by
  rw [Name.head?, LocalService.labels_of_nameOf h]
  cases labelsOf serviceType with
  | nil => exact iff_of_false (by decide) (by simp)
  | cons label labels => exact Iff.rfl

/-- The text of an instance is read back from its name. -/
theorem instanceText?_of_nameInType {text : String} {type name : Name}
    (h : nameInType text type = .ok name) : instanceText? name = some text := by
  rw [instanceText?, Name.head?, LocalService.labels_of_nameOf h, List.head?_cons, Option.map_some,
    Utf8.textLossy_bytes]

/-- **Same names.** Two instances of a type have the same name for DNS if their texts differ at most
in the case of ASCII letters. -/
theorem same_nameInType_iff {text text' : String} {type name name' : Name}
    (h : nameInType text type = .ok name) (h' : nameInType text' type = .ok name') :
    name.same name' = true ↔ text.toLower = text'.toLower := by
  rw [Name.same_iff, Name.ext_iff', Name.lower_labels, Name.lower_labels,
    LocalService.labels_of_nameOf h, LocalService.labels_of_nameOf h', List.map_cons,
    List.map_cons, List.cons_eq_cons, and_iff_left rfl, ← Utf8.bytes_toLower,
    ← Utf8.bytes_toLower, Utf8.bytes_injective.eq_iff]

namespace PeerTable

/-- **Names that are built are recognised**, if asterisks are left out.  Of the name of an instance
of any type, with any text that makes one, the text is read back as it was.  Whoever browses for the
type takes the name for that of an instance just if both the text and the first label of the type
are `*`, or neither is.  And any other text makes a name that is the same for DNS just if the two
texts are equal up to the case of ASCII letters. -/
theorem names_are_recognised {serviceType text : String} {type name : Name}
    (h_type : typeName serviceType = .ok type) (h_name : nameInType text type = .ok name) :
    instanceText? name = some text ∧
      (∀ t : PeerTable, t.type = type → (t.isOfType name = true ↔
        (text = "*" ↔ (labelsOf serviceType).head? = some (Utf8.bytes "*")))) ∧
      ∀ text' name', nameInType text' type = .ok name' →
        (name.same name' = true ↔ text.toLower = text'.toLower) := by
  -- the label of the instance is the text, and the rest is the type
  refine ⟨instanceText?_of_nameInType h_name, ?_, fun _ _ => same_nameInType_iff h_name⟩
  rintro t rfl
  rw [isOfType_iff (LocalService.labels_of_nameOf h_name) (Name.same_self _), bytes_eq_asterisk,
    head?_of_typeName h_type, bytes_asterisk]

/-- A text with dots and letters that are not ASCII is recognised, and in other letters as well. -/
theorem kitchen_is_recognised : ∃ type name name', typeName "_soapy._tcp" = .ok type ∧
    nameInType "Küche, 2.1" type = .ok name ∧ nameInType "küCHE, 2.1" type = .ok name' ∧
    instanceText? name = some "Küche, 2.1" ∧ (empty type "_soapy._tcp").isOfType name = true ∧
    name.same name' = true := by
  obtain ⟨type, name, name', h_type, h_name, h_name'⟩ : ∃ type name name',
      typeName "_soapy._tcp" = .ok type ∧ nameInType "Küche, 2.1" type = .ok name ∧
        nameInType "küCHE, 2.1" type = .ok name' := ⟨_, _, _, rfl, rfl, rfl⟩
  obtain ⟨h_text, h_instance, h_same⟩ := names_are_recognised h_type h_name
  -- the letters that have an upper and a lower case are those of the alphabet
  have h_case : "Küche, 2.1".toLower = "küCHE, 2.1".toLower := by
    rw [← String.toList_inj, Utf8.toList_toLower, Utf8.toList_toLower]
    decide
  -- neither label is an asterisk
  have h_none : ("Küche, 2.1" = "*" ↔ (labelsOf "_soapy._tcp").head? = some (Utf8.bytes "*")) :=
    iff_of_false (by decide) (by decide)
  exact ⟨type, name, name', h_type, h_name, h_name', h_text,
    (h_instance (empty type "_soapy._tcp") rfl).mpr h_none, (h_same _ name' h_name').mpr h_case⟩

/-- **An instance called `*`** can be published, and nobody who browses for its type recognises it:
whatever is known of others, a pointer to it changes nothing, and nothing is reported. -/
theorem asterisk_is_not_recognised : ∃ type name, typeName "_soapy._tcp" = .ok type ∧
    nameInType "*" type = .ok name ∧ ∀ t : PeerTable, t.type = type →
      t.isOfType name = false ∧ ∀ ttl cacheFlush source,
        t.takeIn [{ owner := type, ttl, cacheFlush, data := .ptr name }] source = (t, []) := by
  obtain ⟨type, name, h_type, h_name⟩ : ∃ type name, typeName "_soapy._tcp" = .ok type ∧
      nameInType "*" type = .ok name := ⟨_, _, rfl, rfl⟩
  refine ⟨type, name, h_type, h_name, fun t ht => ?_⟩
  -- the asterisk of the instance does not count, so the name seems to be the type
  have h_not : t.isOfType name = false := by
    subst ht
    rw [← Bool.not_eq_true, isOfType_iff (LocalService.labels_of_nameOf h_name) (Name.same_self _),
      head?_of_typeName h_type]
    decide
  refine ⟨h_not, fun ttl cacheFlush source => ?_⟩
  have h_sighting : t.sighting? source.interface source.scope name = none := by
    rw [sighting?, h_not]
    rfl
  simp [takeIn, takeFirst, takeSecond, h_sighting]

end PeerTable
end ServiceDiscovery
