import Mathlib.Data.List.Induction
import Mathlib.Data.String.Basic
import ServiceDiscovery.Discovery.Directory

/-!
# The view of a directory

What is shown of a directory is computed by entering one listing after the other
(`Directory.urls`), so that a later one hides an earlier one of its tag and version.  Listings are
entered in the order of their sightings.  Hence the one that is shown is the one with the greatest
sighting (`Directory.url?_urls_eq_some_iff`), and the view says no more and no less than how the
listings fall into groups (`Urls.Groups`).

A view that groups some listings is determined by them (`Urls.Groups.unique`).  Therefore a
directory that was built by any edits shows what the edits have left, and nothing of how it was
built (`Directory.view_is_the_grouping`).
-/

namespace ServiceDiscovery

/-! ### The order of sightings -/

namespace Sighting

/-- One sighting comes before another: the first field in which they differ decides. -/
def Before (s t : Sighting) : Prop :=
  s.interface < t.interface ∨ s.interface = t.interface ∧
    (s.protocol.number < t.protocol.number ∨ s.protocol = t.protocol ∧
      (s.name < t.name ∨ s.name = t.name ∧
        (s.serviceType < t.serviceType ∨ s.serviceType = t.serviceType ∧ s.domain < t.domain)))

theorem compare_eq_lt_iff {s t : Sighting} : compare s t = .lt ↔ s.Before t := by
  change compareLex (compareOn interface) (compareLex (compareOn protocol)
    (compareLex (compareOn name) (compareLex (compareOn serviceType) (compareOn domain)))) s t
      = .lt ↔ _
  have h_protocol : compare s.protocol t.protocol = .lt ↔ s.protocol.number < t.protocol.number :=
    Nat.compare_eq_lt
  simp only [compareLex, compareOn, Ordering.then_eq_lt, Std.LawfulEqOrd.compare_eq_iff_eq,
    h_protocol, Std.compare_eq_lt (α := UInt32), compare_lt_iff_lt, Before]

theorem Before.asymm {s t : Sighting} (h : s.Before t) : ¬ t.Before s := by
  rw [← compare_eq_lt_iff] at h ⊢
  have h_swap : compare t s = (compare s t).swap := Std.OrientedCmp.eq_swap
  rw [h_swap, h]
  decide

end Sighting

/-! ### Views -/

/-- The URL under an identity tag and a version. -/
def Urls.url? (urls : Urls) (tag : String) (version : IpScope) : Option String :=
  urls[tag]?.bind (·[version]?)

/-- A view groups some listings: a tag has a group just if something is listed under it, a group
has a version just if something of that version is listed under the tag, and of these listings the
group shows the one with the greatest sighting. -/
structure Urls.Groups (listed : Sighting → Option Listing) (urls : Urls) : Prop where
  tags : ∀ tag, tag ∈ urls ↔ ∃ k l, listed k = some l ∧ l.tag = tag
  versions : ∀ tag group, urls[tag]? = some group → ∀ version,
    version ∈ group ↔ ∃ k l, listed k = some l ∧ l.tag = tag ∧ l.version = version
  filled : ∀ tag : String, urls[tag]? ≠ some ∅
  shown : ∀ tag version url, urls.url? tag version = some url ↔
    ∃ k l, listed k = some l ∧ l.tag = tag ∧ l.version = version ∧ l.url = url ∧
      ∀ k' l', listed k' = some l' → l'.tag = tag → l'.version = version → k' = k ∨ k'.Before k

/-- Listings are grouped in one way only. -/
theorem Urls.Groups.unique {listed : Sighting → Option Listing} {urls urls' : Urls}
    (h : urls.Groups listed) (h' : urls'.Groups listed) : urls = urls' := by
  -- the two show the same, and under the same tags
  have h_shown : ∀ tag version, urls.url? tag version = urls'.url? tag version := fun tag version =>
    Option.ext fun url => (h.shown tag version url).trans (h'.shown tag version url).symm
  have h_tags : ∀ tag, tag ∈ urls ↔ tag ∈ urls' := fun tag =>
    (h.tags tag).trans (h'.tags tag).symm
  refine Std.ExtTreeMap.ext_getElem? fun tag => ?_
  have h_tag := h_tags tag
  rw [Std.ExtTreeMap.mem_iff_isSome_getElem?, Std.ExtTreeMap.mem_iff_isSome_getElem?] at h_tag
  -- a tag is in both or in neither
  cases h_group : urls[tag]? with
  | none =>
    cases h_group' : urls'[tag]? with
    | none => rfl
    | some group' => exact absurd (h_tag.mpr (by rw [h_group']; rfl)) (by rw [h_group]; simp)
  | some group =>
    cases h_group' : urls'[tag]? with
    | none => exact absurd (h_tag.mp (by rw [h_group]; rfl)) (by rw [h_group']; simp)
    | some group' =>
      -- both groups show the same under every version
      refine congrArg some (Std.ExtTreeMap.ext_getElem? fun version => ?_)
      have h_version := h_shown tag version
      rw [url?, url?, h_group, h_group'] at h_version
      exact h_version

namespace Directory

/-! ### Entering listings -/

/-- Whether a listing belongs under a tag and a version. -/
def belongs (tag : String) (version : IpScope) (l : Listing) : Bool :=
  l.tag == tag && l.version == version

theorem belongs_iff {tag : String} {version : IpScope} {l : Listing} :
    belongs tag version l = true ↔ l.tag = tag ∧ l.version = version := by
  simp [belongs]

theorem mem_enter {urls : Urls} {l : Listing} {tag : String} :
    tag ∈ enter urls l ↔ l.tag = tag ∨ tag ∈ urls := by
  rw [enter, Std.ExtTreeMap.mem_insert, Std.LawfulEqOrd.compare_eq_iff_eq]

/-- A listing that is entered hides at most another of its tag and version. -/
theorem url?_enter (urls : Urls) (l : Listing) (tag : String) (version : IpScope) :
    (enter urls l).url? tag version =
      if belongs tag version l then some l.url else urls.url? tag version := by
  unfold Urls.url? enter
  rw [Std.ExtTreeMap.getElem?_insert]
  simp only [Std.LawfulEqOrd.compare_eq_iff_eq]
  by_cases h_tag : l.tag = tag
  · subst h_tag
    rw [if_pos rfl, Option.bind_some, Std.ExtTreeMap.getElem?_insert,
      Std.ExtTreeMap.getD_eq_getD_getElem?]
    simp only [Std.LawfulEqOrd.compare_eq_iff_eq, belongs_iff, true_and]
    split
    · rfl
    · -- under other versions everything stays
      cases urls[l.tag]? with
      | none => simp
      | some group => rfl
  · rw [if_neg h_tag, if_neg fun h => h_tag (belongs_iff.mp h).1]

/-- A tag has a group if something is listed under it. -/
theorem mem_foldl_enter {ls : List Listing} {tag : String} :
    tag ∈ ls.foldl enter ∅ ↔ ∃ l ∈ ls, l.tag = tag := by
  induction ls using List.reverseRecOn with
  | nil => simp
  | append_singleton ls l ih =>
    rw [List.foldl_append, List.foldl_cons, List.foldl_nil, mem_enter, ih]
    simp only [List.mem_append, List.mem_singleton, or_and_right, exists_or, exists_eq_left]
    exact or_comm

/-- What was entered last under a tag and a version is shown. -/
theorem url?_foldl_enter (ls : List Listing) (tag : String) (version : IpScope) :
    Urls.url? (ls.foldl enter ∅) tag version =
      (ls.reverse.find? (belongs tag version)).map (·.url) := by
  -- from the end: the last of the listings that belong there is shown
  induction ls using List.reverseRecOn with
  | nil => simp [Urls.url?]
  | append_singleton ls l ih =>
    rw [List.foldl_append, List.foldl_cons, List.foldl_nil, url?_enter, ih, List.reverse_append,
      List.reverse_singleton, List.singleton_append, List.find?_cons]
    cases belongs tag version l <;> rfl

/-! ### The greatest sighting is shown -/

/-- In a list in which each element comes before the later ones, the last with a property is the one
that all others with it come before. -/
theorem find?_reverse_eq_some_iff {α : Type} {before : α → α → Prop} {p : α → Bool} {xs : List α}
    {x : α} (h_order : xs.Pairwise before) (h_asymm : ∀ x y, before x y → ¬ before y x) :
    xs.reverse.find? p = some x ↔ x ∈ xs ∧ p x ∧ ∀ y ∈ xs, p y → y = x ∨ before y x := by
  have h_last : ∀ x, xs.reverse.find? p = some x →
      x ∈ xs ∧ p x ∧ ∀ y ∈ xs, p y → y = x ∨ before y x := by
    intro x h
    obtain ⟨hp, behind, ahead, h_split, h_none⟩ := List.find?_eq_some_iff_append.mp h
    -- `x` splits the list: what stands before it, and what stands behind
    have h_xs : xs = ahead.reverse ++ x :: behind.reverse := by
      rw [← List.reverse_reverse xs, h_split]
      simp
    refine ⟨h_xs ▸ by simp, hp, fun y hy hpy => ?_⟩
    rw [h_xs] at hy h_order
    -- what stands before it in the list comes before it
    rcases List.mem_append.mp hy with h_ahead | h_rest
    · exact .inr ((List.pairwise_append.mp h_order).2.2 y h_ahead x (List.mem_cons_self ..))
    · refine (List.mem_cons.mp h_rest).imp_right fun h_behind => ?_
      -- nothing behind it has the property
      have := h_none y (List.mem_reverse.mp h_behind)
      rw [hpy] at this
      exact absurd this (by decide)
  refine ⟨h_last x, fun ⟨h_mem, hp, h_greatest⟩ => ?_⟩
  -- conversely, the last one with the property is not before any other
  have h_some : (xs.reverse.find? p).isSome :=
    List.find?_isSome.mpr ⟨x, List.mem_reverse.mpr h_mem, hp⟩
  obtain ⟨y, hy⟩ := Option.isSome_iff_exists.mp h_some
  obtain ⟨h_mem', hp', h_greatest'⟩ := h_last y hy
  rw [hy]
  -- `x` and `y` come before each other unless they are the same
  rcases h_greatest y h_mem' hp' with rfl | h_before
  · rfl
  · rcases h_greatest' x h_mem hp with rfl | h_before'
    · rfl
    · exact absurd h_before' (h_asymm _ _ h_before)

theorem mem_listings {d : Directory} {k : Sighting} {l : Listing} :
    (k, l) ∈ d.listings.toList ↔ d.get? k = some l :=
  Std.ExtTreeMap.mem_toList_iff_getElem?_eq_some

theorem url?_urls (d : Directory) (tag : String) (version : IpScope) : d.urls.url? tag version =
    (d.listings.toList.reverse.find? fun e => belongs tag version e.2).map (·.2.url) := by
  rw [urls_eq, url?_foldl_enter, ← List.map_reverse, List.find?_map, Option.map_map]
  rfl

/-- Something is shown if anything is listed. -/
theorem isSome_url?_urls {d : Directory} {tag : String} {version : IpScope} :
    (d.urls.url? tag version).isSome ↔
      ∃ k l, d.get? k = some l ∧ l.tag = tag ∧ l.version = version := by
  rw [url?_urls, Option.isSome_map, List.find?_isSome]
  simp only [List.mem_reverse, Prod.exists, mem_listings, belongs_iff]

/-- **What is shown** under a tag and a version is the URL of the listing with the greatest
sighting. -/
theorem url?_urls_eq_some_iff {d : Directory} {tag : String} {version : IpScope} {url : String} :
    d.urls.url? tag version = some url ↔
      ∃ k l, d.get? k = some l ∧ l.tag = tag ∧ l.version = version ∧ l.url = url ∧
        ∀ k' l', d.get? k' = some l' → l'.tag = tag → l'.version = version →
          k' = k ∨ k'.Before k := by
  have h_order : d.listings.toList.Pairwise fun e e' => e.1.Before e'.1 :=
    Std.ExtTreeMap.ordered_keys_toList.imp fun h => Sighting.compare_eq_lt_iff.mp h
  rw [url?_urls, Option.map_eq_some_iff]
  simp only [find?_reverse_eq_some_iff h_order fun _ _ h => h.asymm, Prod.exists, Prod.forall,
    mem_listings, belongs_iff, Prod.mk.injEq]
  constructor
  · rintro ⟨k, l, ⟨h_listed, ⟨h_tag, h_version⟩, h_greatest⟩, h_url⟩
    exact ⟨k, l, h_listed, h_tag, h_version, h_url, fun k' l' h_listed' h_tag' h_version' =>
      (h_greatest k' l' h_listed' ⟨h_tag', h_version'⟩).imp_left And.left⟩
  · rintro ⟨k, l, h_listed, h_tag, h_version, h_url, h_greatest⟩
    refine ⟨k, l, ⟨h_listed, ⟨h_tag, h_version⟩, fun k' l' h_listed' h_belongs => ?_⟩, h_url⟩
    refine (h_greatest k' l' h_listed' h_belongs.1 h_belongs.2).imp_left fun h_eq => ?_
    -- there is one listing for a sighting
    subst h_eq
    exact ⟨rfl, Option.some.inj (h_listed'.symm.trans h_listed)⟩

/-- What is shown is listed. -/
theorem exists_listing {d : Directory} {tag : String} {version : IpScope} {url : String}
    (h : d.urls.url? tag version = some url) :
    ∃ k l, d.get? k = some l ∧ l.tag = tag ∧ l.version = version ∧ l.url = url := by
  obtain ⟨k, l, h_listed, h_tag, h_version, h_url, -⟩ := url?_urls_eq_some_iff.mp h
  exact ⟨k, l, h_listed, h_tag, h_version, h_url⟩

theorem mem_urls {d : Directory} {tag : String} :
    tag ∈ d.urls ↔ ∃ k l, d.get? k = some l ∧ l.tag = tag := by
  rw [urls_eq, mem_foldl_enter]
  simp only [List.mem_map, Prod.exists, exists_eq_right, mem_listings]
  exact ⟨fun ⟨l, ⟨k, h_listed⟩, h_tag⟩ => ⟨k, l, h_listed, h_tag⟩,
    fun ⟨k, l, h_listed, h_tag⟩ => ⟨l, ⟨k, h_listed⟩, h_tag⟩⟩

theorem groups (d : Directory) : d.urls.Groups d.get? := by
  have h_versions : ∀ tag group, d.urls[tag]? = some group → ∀ version,
      version ∈ group ↔ ∃ k l, d.get? k = some l ∧ l.tag = tag ∧ l.version = version := by
    intro tag group h_group version
    rw [← isSome_url?_urls, Urls.url?, h_group, Option.bind_some,
      Std.ExtTreeMap.mem_iff_isSome_getElem?]
  refine ⟨fun _ => mem_urls, h_versions, fun tag h_empty => ?_, fun _ _ _ => url?_urls_eq_some_iff⟩
  -- something is listed under the tag, so its version is in the group
  have h_mem : tag ∈ d.urls := by
    rw [Std.ExtTreeMap.mem_iff_isSome_getElem?, h_empty]
    rfl
  obtain ⟨k, l, h_listed, h_tag⟩ := mem_urls.mp h_mem
  exact Std.ExtTreeMap.not_mem_empty
    ((h_versions tag ∅ h_empty l.version).mpr ⟨k, l, h_listed, h_tag, rfl⟩)

/-! ### Directories that are built -/

/-- A change of a directory: what is listed under a sighting from then on, if anything. -/
structure Edit where
  sighting : Sighting
  listing? : Option Listing

def edit (d : Directory) (e : Edit) : Directory :=
  match e.listing? with
  | some l => d.insert e.sighting l
  | none => d.erase e.sighting

/-- The directory that some edits make, one after the other. -/
def built (edits : List Edit) : Directory := edits.foldl edit empty

/-- What the last edit under a sighting has left there. -/
def left (edits : List Edit) (k : Sighting) : Option Listing :=
  (edits.reverse.find? (·.sighting = k)).bind (·.listing?)

theorem get?_edit (d : Directory) (e : Edit) (k : Sighting) :
    (d.edit e).get? k = if e.sighting = k then e.listing? else d.get? k := by
  unfold edit
  split
  · next l h_listing => rw [get?_insert, h_listing]
  · next h_listing => rw [get?_erase, h_listing]

@[simp] theorem built_concat (edits : List Edit) (e : Edit) :
    built (edits ++ [e]) = (built edits).edit e := by
  simp only [built, List.foldl_append, List.foldl_cons, List.foldl_nil]

theorem left_concat (edits : List Edit) (e : Edit) (k : Sighting) :
    left (edits ++ [e]) k = if e.sighting = k then e.listing? else left edits k := by
  rw [left, List.reverse_append, List.reverse_singleton, List.singleton_append, List.find?_cons]
  by_cases h_sighting : e.sighting = k
  · simp [h_sighting]
  · simp [h_sighting, left]

theorem get?_built (edits : List Edit) (k : Sighting) : (built edits).get? k = left edits k := by
  induction edits using List.reverseRecOn with
  | nil => exact get?_empty k
  | append_singleton edits e ih => rw [built_concat, get?_edit, ih, left_concat]

/-- **The view is the grouping of what is stored.** Listings are entered under sightings and
removed, in any order and as often as one likes.  Then the view groups what the last edit under each
sighting has left there: the tags, the versions of each tag, and for these the URL with the greatest
sighting; no group is empty.  Edits that leave the same lead to the same view, and so does a removal
where nothing is listed. -/
theorem view_is_the_grouping :
    (∀ edits, (built edits).urls.Groups (left edits)) ∧
      (∀ edits edits', (∀ k, left edits k = left edits' k) →
        (built edits).urls = (built edits').urls) ∧
      ∀ edits k, left edits k = none → (built (edits ++ [⟨k, none⟩])).urls = (built edits).urls := by
  -- the view groups what is left, and the grouping is unique
  have h_groups : ∀ edits, (built edits).urls.Groups (left edits) := fun edits => by
    rw [← funext (get?_built edits)]
    exact groups _
  have h_alike : ∀ edits edits', (∀ k, left edits k = left edits' k) →
      (built edits).urls = (built edits').urls := by
    intro edits edits' h_left
    have h_groups' := h_groups edits'
    rw [← funext h_left] at h_groups'
    exact (h_groups edits).unique h_groups'
  refine ⟨h_groups, h_alike, fun edits k h_none => h_alike _ _ fun k' => ?_⟩
  rw [left_concat]
  split
  · -- dropping what is not there leaves the same
    next h_eq => rw [← h_eq, h_none]
  · rfl

/-- The server in the attic, as it is seen on an interface and listed under a URL. -/
def attic (interface : UInt32) (url : String) : Edit where
  sighting := ⟨interface, .v4, "SoapyRemote @ attic", "_soapy._tcp", "local"⟩
  listing? := some ⟨"7f0c", .v4, url⟩

/-- Seen on two interfaces, the attic is shown as on the greater one, in whichever order it was seen
on them, until it is gone there. -/
theorem view_of_attic :
    let second := attic 2 "tcp://10.0.0.2:55132"
    let third := attic 3 "tcp://10.0.0.3:55132"
    (∀ k, left [second, third] k = left [third, second] k) ∧
      (built [second, third]).urls = (built [third, second]).urls ∧
      (built [third, second]).urls.url? "7f0c" .v4 = some "tcp://10.0.0.3:55132" ∧
      (built [third, second, ⟨third.sighting, none⟩]).urls.url? "7f0c" .v4 =
        some "tcp://10.0.0.2:55132" := by
  intro second third
  have h_left : ∀ k, left [second, third] k = left [third, second] k := by
    intro k
    rw [← get?_built, ← get?_built]
    -- the two tables agree key by key, as the keys are different
    show ((empty.edit second).edit third).get? k = ((empty.edit third).edit second).get? k
    simp only [get?_edit]
    split
    · next h_third =>
      rw [if_neg (h_third ▸ by decide)]
    · rfl
  exact ⟨h_left, view_is_the_grouping.2.1 _ _ h_left, by decide +kernel, by decide +kernel⟩

end Directory

end ServiceDiscovery
