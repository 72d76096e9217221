import ServiceDiscovery.Net.IpScope

/-!
# Internet addresses

An IPv4 address is four octets, an IPv6 address eight groups of sixteen bits.  Every IPv4
address comes before every IPv6 address, and within a family addresses are ordered by their
octets or groups, most significant first: that is the order of `IpAddress.sortKey`, which
determines the address (`IpAddress.sortKey_inj`).
-/

namespace ServiceDiscovery

/-- An IPv4 address, most significant octet first. -/
structure Ipv4 where
  a : UInt8
  b : UInt8
  c : UInt8
  d : UInt8
deriving DecidableEq, Repr

/-- An IPv6 address, most significant group first. -/
structure Ipv6 where
  groups : Vector UInt16 8
deriving DecidableEq, Repr

/-- An address of either family. -/
inductive IpAddress
  | v4 (address : Ipv4)
  | v6 (address : Ipv6)
deriving DecidableEq, Repr

namespace Ipv4

/-- The octets, most significant first. -/
def octets (x : Ipv4) : List UInt8 := [x.a, x.b, x.c, x.d]

theorem octets_inj {x y : Ipv4} : x.octets = y.octets ↔ x = y := by
  cases x; cases y; simp [octets]

/-- The address that stands for every interface. -/
def unspecified : Ipv4 := ⟨0, 0, 0, 0⟩

end Ipv4

namespace Ipv6

/-- The address with these groups, most significant first. -/
def ofGroups (a b c d e f g h : UInt16) : Ipv6 := ⟨#v[a, b, c, d, e, f, g, h]⟩

/-- An IPv6 address is its eight groups. -/
theorem eq_ofGroups (x : Ipv6) : ∃ a b c d e f g h,
    x = .ofGroups a b c d e f g h ∧ x.groups.toList = [a, b, c, d, e, f, g, h] := by
  obtain ⟨⟨⟨groups⟩, h_size⟩⟩ := x
  rcases groups with _ | ⟨a, _ | ⟨b, _ | ⟨c, _ | ⟨d, _ | ⟨e, _ | ⟨f, _ | ⟨g, _ |
    ⟨h, _ | ⟨i, groups⟩⟩⟩⟩⟩⟩⟩⟩⟩ <;>
    simp at h_size
  exact ⟨a, b, c, d, e, f, g, h, rfl, rfl⟩

/-- The address that stands for every interface. -/
def unspecified : Ipv6 := ofGroups 0 0 0 0 0 0 0 0

/-- The address of this host on itself. -/
def loopback : Ipv6 := ofGroups 0 0 0 0 0 0 0 1

/-- The sixteen octets, most significant first. -/
def octets (x : Ipv6) : List UInt8 :=
  x.groups.toList.flatMap fun (g : UInt16) => [(g >>> 8).toUInt8, g.toUInt8]

end Ipv6

namespace IpAddress

/-- The family the address belongs to. -/
def family : IpAddress → Family
  | v4 _ => .v4
  | v6 _ => .v6

/-- The scope that holds the address's family alone. -/
def scope (x : IpAddress) : IpScope := x.family.scope

/-- Whether the address only reaches the host itself. -/
def isLoopback : IpAddress → Bool
  | v4 x => x.a == 127
  | v6 x => x == Ipv6.loopback

/-- Whether the address starts with the octets fe 80. -/
def isLinkLocal : IpAddress → Bool
  | v4 _ => false
  | v6 x => x.groups[0] == 0xfe80

/-- The family, then the octets or groups. -/
def sortKey : IpAddress → List Nat
  | v4 x => 4 :: x.octets.map UInt8.toNat
  | v6 x => 6 :: x.groups.toList.map UInt16.toNat

theorem sortKey_inj {x y : IpAddress} : x.sortKey = y.sortKey ↔ x = y := by
  refine ⟨fun h => ?_, fun h => h ▸ rfl⟩
  cases x with
  | v4 x =>
    cases y with
    | v4 y =>
      simp only [sortKey, List.cons.injEq, true_and] at h
      rw [Ipv4.octets_inj.mp ((List.map_inj_right fun _ _ => UInt8.toNat_inj.mp).mp h)]
    | v6 y => simp [sortKey] at h
  | v6 x =>
    cases y with
    | v4 y => simp [sortKey] at h
    | v6 y =>
      simp only [sortKey, List.cons.injEq, true_and] at h
      have := (List.map_inj_right fun _ _ => UInt16.toNat_inj.mp).mp h
      have : x.groups = y.groups := Vector.toList_inj.mp this
      cases x; cases y; simp_all

/-- IPv4 comes before IPv6; within a family the most significant octets or groups decide. -/
instance : Ord IpAddress := ⟨compareOn sortKey⟩

instance : Std.TransOrd IpAddress :=
  inferInstanceAs (Std.TransCmp (compareOn sortKey))

instance : Std.LawfulEqOrd IpAddress where
  eq_of_compare h := sortKey_inj.mp (Std.LawfulEqOrd.eq_of_compare (α := List Nat) h)

end IpAddress

end ServiceDiscovery
