import ServiceDiscovery.Discovery.Sighting
import Std.Data.ExtTreeMap

/-!
# The directory of servers

The servers that are known, under the sighting through which each was found.  Clients ask by
identity tag: `Directory.urls` groups the URLs by tag and, for each tag, by the family they were
seen on.  Where several listings share a tag and a family, the one with the greatest sighting is
shown, whatever the order in which they were entered.
-/

namespace ServiceDiscovery

/-- A server that was found. -/
structure Listing where
  /-- The identity tag, never empty. -/
  tag : String
  /-- The family the server was seen on. -/
  version : IpScope
  url : String
deriving DecidableEq, Repr

/-- URLs by identity tag and family. -/
abbrev Urls := Std.ExtTreeMap String (Std.ExtTreeMap IpScope String)

/-- Listings by sighting. -/
structure Directory where
  listings : Std.ExtTreeMap Sighting Listing

namespace Directory

/-- The directory that lists nobody. -/
def empty : Directory := ⟨∅⟩

instance : Inhabited Directory := ⟨empty⟩

def get? (d : Directory) (s : Sighting) : Option Listing := d.listings[s]?

/-- Lists a server, in place of what was listed under the same sighting. -/
def insert (s : Sighting) (l : Listing) (d : Directory) : Directory := ⟨d.listings.insert s l⟩

def erase (s : Sighting) (d : Directory) : Directory := ⟨d.listings.erase s⟩

/-- Enters a listing into a view, in place of another of the same tag and family. -/
def enter (urls : Urls) (l : Listing) : Urls :=
  urls.insert l.tag ((urls.getD l.tag ∅).insert l.version l.url)

/-- The URLs of all listings, grouped by tag and family. -/
def urls (d : Directory) : Urls :=
  d.listings.foldl (fun urls _ l => enter urls l) ∅

@[simp] theorem get?_empty (s : Sighting) : empty.get? s = none := by
  simp [get?, empty]

theorem get?_insert (s t : Sighting) (l : Listing) (d : Directory) :
    (d.insert s l).get? t = if s = t then some l else d.get? t := by
  simp [get?, insert, Std.ExtTreeMap.getElem?_insert]

theorem get?_erase (s t : Sighting) (d : Directory) :
    (d.erase s).get? t = if s = t then none else d.get? t := by
  simp [get?, erase, Std.ExtTreeMap.getElem?_erase]

theorem urls_eq (d : Directory) : d.urls = (d.listings.toList.map (·.2)).foldl enter ∅ := by
  simp only [urls, Std.ExtTreeMap.foldl_eq_foldl_toList, List.foldl_map]

end Directory

end ServiceDiscovery
