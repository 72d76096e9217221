import ServiceDiscovery.Net.IpScope
import Std.Data.ExtTreeSet

/-!
# Sightings

A browser that sees an instance of a service identifies it by where and as what it saw it: on
which interface and which family, under which instance name, service type and domain.  One
instance seen on two interfaces, or on both families, is two sightings.

Sightings are ordered by interface, family, name, type and domain, each deciding only between those
that agree so far; texts are ordered by code points.
-/

namespace ServiceDiscovery

/-- An instance of a service as a browser sees it. -/
structure Sighting where
  /-- The index of the interface, 0 when it is not known. -/
  interface : UInt32
  protocol : IpScope
  /-- The name of the instance. -/
  name : String
  serviceType : String
  domain : String
deriving DecidableEq, Repr

namespace Sighting

/-- The order of sightings: field after field. -/
instance : Ord Sighting :=
  ⟨compareLex (compareOn interface) <| compareLex (compareOn protocol) <|
    compareLex (compareOn name) <| compareLex (compareOn serviceType) (compareOn domain)⟩

instance : Std.TransOrd Sighting :=
  inferInstanceAs (Std.TransCmp
    (compareLex (compareOn interface) <| compareLex (compareOn protocol) <|
      compareLex (compareOn name) <| compareLex (compareOn serviceType) (compareOn domain)))

instance : Std.LawfulEqOrd Sighting where
  eq_of_compare {s t} h := by
    change compareLex (compareOn interface) (compareLex (compareOn protocol)
      (compareLex (compareOn name) (compareLex (compareOn serviceType) (compareOn domain)))) s t
        = .eq at h
    simp only [compareLex_eq_eq, compareOn, Std.LawfulEqOrd.compare_eq_iff_eq] at h
    cases s; cases t
    simp_all

/-- Sightings in order, each of them once. -/
def sorted (sightings : List Sighting) : List Sighting :=
  (Std.ExtTreeSet.ofList sightings).toList

/-- How a sighting is shown. -/
def text (s : Sighting) : String :=
  s.name ++ "." ++ s.serviceType ++ "." ++ s.domain ++ " (" ++ s.protocol.label ++
    " on interface " ++ toString s.interface.toNat ++ ")"

end Sighting

end ServiceDiscovery
