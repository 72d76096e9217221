import ServiceDiscovery.Multicast.Setup
import ServiceDiscovery.Proofs.Responder.LifeCycle

/-!
# Opening sockets

A dialogue that opens a socket ends well, or with the one call that is to blame: the last, which was
refused.  `Dialogue.Meets` says so, and says of a call to join the group when it is to blame; there
is one rule for each way in which dialogues are made.  Where as many interfaces as possible are to
be joined, only the last resort is ever to blame, and only after every interface was tried and
refused (`Dialogue.joinAny_meets`).

From this follows what keeps a responder from starting (`Responder.starts_without_ipv6`): trouble
with IPv6 does not, and neither does an interface that cannot be joined.
-/

namespace ServiceDiscovery

/-- Whether a call joins the multicast group. -/
def Call.joins : Call → Bool
  | .joinIpv4 _ | .joinIpv6 _ => true
  | _ => false

namespace Dialogue

variable {α β : Type} {os : OperatingSystem} {P : List Attempt → Prop}
  {blame : Call → List Attempt → Prop}

/-- How a dialogue may end, if `Q` holds of what it comes to and of all that was called by then:
well, or by a call that is refused.  If that was to join the group, `blame` holds of it and of what
was called before. -/
def Ends (Q : α → List Attempt → Prop) (blame : Call → List Attempt → Prop) :
    Except Errno α × Socket → Prop
  | (.ok a, s) => Q a s.history
  | (.error errno, s) =>
    ∃ earlier c, s.history = earlier ++ [⟨c, some errno⟩] ∧ (c.joins = true → blame c earlier)

/-- Where `P` holds of what was called before, the dialogue ends like this. -/
def Meets (P : List Attempt → Prop) (d : Dialogue α) (Q : α → List Attempt → Prop)
    (blame : Call → List Attempt → Prop) : Prop :=
  ∀ s : Socket, P s.history → Ends Q blame (d.run s)

/-! ### Running a dialogue -/

theorem run_bind (d : Dialogue α) (f : α → Dialogue β) (s : Socket) :
    (d >>= f).run s = match d.run s with
      | (.ok a, s') => (f a).run s'
      | (.error errno, s') => (.error errno, s') := by
  change (match d.run s with | (r, s') => ExceptT.bindCont f r s') = _
  rcases d.run s with ⟨errno | a, s'⟩ <;> rfl

theorem run_call (c : Call) (s : Socket) :
    (call os c).run s = match os.refuses s.history c with
      | none => (.ok (), ⟨s.history ++ [⟨c, none⟩]⟩)
      | some errno => (.error errno, ⟨s.history ++ [⟨c, some errno⟩]⟩) := by
  change s.attempt os c = _
  unfold Socket.attempt
  cases os.refuses s.history c <;> rfl

theorem run_granted (c : Call) (s : Socket) :
    (granted os c).run s =
      (.ok (os.refuses s.history c).isNone, ⟨s.history ++ [⟨c, os.refuses s.history c⟩]⟩) := by
  change granted os c s = _
  unfold granted Socket.attempt
  cases os.refuses s.history c <;> rfl

/-! ### Rules -/

namespace Meets

theorem pure {Q : α → List Attempt → Prop} {a : α} (h_post : ∀ h, P h → Q a h) :
    Meets P (pure a : Dialogue α) Q blame :=
  fun s hs => h_post s.history hs

/-- One dialogue after the other. -/
theorem bind {d : Dialogue α} {f : α → Dialogue β} {M : α → List Attempt → Prop}
    {Q : β → List Attempt → Prop} (hd : Meets P d M blame)
    (hf : ∀ a, Meets (M a) (f a) Q blame) : Meets P (d >>= f) Q blame := by
  intro s hs
  have h := hd s hs
  -- it ends with the first, or the second begins where the first has ended
  rw [run_bind]
  generalize d.run s = outcome at h ⊢
  rcases outcome with ⟨errno | a, s'⟩
  · exact h
  · exact hf a s' h

/-- Asking for more, and promising less. -/
theorem mono {d : Dialogue α} {P' : List Attempt → Prop} {Q Q' : α → List Attempt → Prop}
    (hd : Meets P d Q blame) (h_pre : ∀ h, P' h → P h)
    (h_post : ∀ a h, Q a h → Q' a h) : Meets P' d Q' blame := by
  intro s hs
  have h := hd s (h_pre _ hs)
  generalize d.run s = outcome at h ⊢
  rcases outcome with ⟨errno | a, s'⟩
  · exact h
  · exact h_post a _ h

/-- A call that is refused ends the dialogue. -/
theorem call {c : Call} {Q : Unit → List Attempt → Prop}
    (h_blame : c.joins = true → ∀ h, P h → blame c h)
    (h_post : ∀ h, P h → Q () (h ++ [⟨c, none⟩])) :
    Meets P (call os c) Q blame := by
  intro s hs
  rw [run_call]
  -- the call is granted, or the opening ends here and the call is to blame
  cases os.refuses s.history c with
  | none => exact h_post s.history hs
  | some errno => exact ⟨s.history, c, rfl, fun h => h_blame h s.history hs⟩

/-- Where it does not matter whether a call is granted, the dialogue goes on. -/
theorem granted {c : Call} {Q : Bool → List Attempt → Prop}
    (h_post : ∀ h r, P h → Q r.isNone (h ++ [⟨c, r⟩])) :
    Meets P (granted os c) Q blame := by
  intro s hs
  rw [run_granted]
  exact h_post s.history _ hs

/-- One dialogue for each element of a list.  The invariant is about the elements that were dealt
with, and what they came to. -/
theorem mapM {f : α → Dialogue β} {I : List α → List β → List Attempt → Prop} {xs : List α}
    (h_step : ∀ done, ∀ x ∈ xs, ∀ results,
      Meets (I done results) (f x) (fun b => I (done ++ [x]) (results ++ [b])) blame) :
    Meets (I [] []) (xs.mapM f) (I xs) blame := by
  -- by induction on the elements that are left, whatever was dealt with before
  have h_all : ∀ (rest : List α), (∀ x ∈ rest, x ∈ xs) → ∀ done results,
      Meets (I done results) (rest.mapM f) (fun bs => I (done ++ rest) (results ++ bs)) blame := by
    intro rest
    induction rest with
    | nil =>
      intro _ done results
      rw [List.mapM_nil, List.append_nil]
      exact pure fun h hI => by rwa [List.append_nil]
    | cons x rest ih =>
      intro h_mem done results
      obtain ⟨hx, h_rest⟩ := List.forall_mem_cons.mp h_mem
      rw [List.mapM_cons]
      refine bind (h_step done x hx results) fun b => ?_
      refine bind (ih h_rest (done ++ [x]) (results ++ [b])) fun bs => ?_
      refine pure fun h hI => ?_
      rwa [List.append_assoc, List.append_assoc] at hI
  exact h_all xs (fun _ h => h) [] []

/-- A call other than to join is never to blame. -/
theorem call_other {c : Call} (h_joins : c.joins = false)
    (h_pre : ∀ h, P h → P (h ++ [⟨c, none⟩])) :
    Meets P (Dialogue.call os c) (fun _ => P) blame :=
  call (fun h => absurd (h_joins.symm.trans h) Bool.false_ne_true) h_pre

/-- Where the blame is accepted anyway, a call may be to join. -/
theorem call_then {c : Call} {f : Unit → Dialogue β} {Q : β → List Attempt → Prop}
    (h_blame : ∀ h, blame c h) (hf : Meets (fun _ => True) (f ()) Q blame) :
    Meets P (Dialogue.call os c >>= f) Q blame :=
  bind (M := fun _ _ => True) (call (fun _ h _ => h_blame h) fun _ _ => trivial) fun _ => hf

end Meets

/-! ### Joining the group -/

/-- No call to join was granted. -/
def Unjoined (h : List Attempt) : Prop :=
  ∀ a ∈ h, a.call.joins = true → a.refusal ≠ none

/-- A call was made and refused. -/
def Refused (c : Call) (h : List Attempt) : Prop :=
  ∃ errno, ⟨c, some errno⟩ ∈ h

theorem Unjoined.nil : Unjoined [] := fun _ h => absurd h List.not_mem_nil

theorem Unjoined.append {h : List Attempt} {a : Attempt} (hu : Unjoined h)
    (ha : a.call.joins = true → a.refusal ≠ none) : Unjoined (h ++ [a]) := by
  intro b hb
  rcases List.mem_append.mp hb with hb | hb
  · exact hu b hb
  · exact List.mem_singleton.mp hb ▸ ha

theorem Unjoined.append_other {h : List Attempt} {c : Call} {refusal : Option Errno}
    (hu : Unjoined h) (h_joins : c.joins = false) : Unjoined (h ++ [⟨c, refusal⟩]) :=
  hu.append fun h => absurd (h_joins.symm.trans h) Bool.false_ne_true

theorem Refused.append {c : Call} {h : List Attempt} {a : Attempt} (hc : Refused c h) :
    Refused c (h ++ [a]) :=
  hc.imp fun _ h => List.mem_append_left _ h

/-- **Joining on any interface.** Only the last resort is to blame, and only after all other calls
were refused. -/
theorem joinAny_meets {F : List Attempt → Prop} {calls : List Call} {lastResort : Call}
    (h_frame : ∀ c ∈ calls, ∀ h refusal, F h → F (h ++ [⟨c, refusal⟩]))
    (h_blame : ∀ h, F h → Unjoined h → (∀ c ∈ calls, Refused c h) → blame lastResort h) :
    Meets (fun h => F h ∧ Unjoined h) (joinAny os calls lastResort) (fun _ _ => True) blame := by
  unfold joinAny
  -- as long as nothing was granted, all that was tried was refused
  refine .bind (.mono (.mapM (I := fun done results h => F h ∧
      (results.any id = false → Unjoined h ∧ ∀ c ∈ done, Refused c h)) ?_) ?_ fun _ _ h => h) ?_
  · -- one group more has been asked for
    rintro done c hc results
    refine .granted fun h refusal ⟨hF, hI⟩ => ⟨h_frame c hc h refusal hF, fun h_none => ?_⟩
    rw [List.any_append, Bool.or_eq_false_iff] at h_none
    obtain ⟨h_unjoined, h_done⟩ := hI h_none.1
    cases refusal with
    | none => simp at h_none
    | some errno =>
      -- it was refused, so nothing is joined yet
      refine ⟨h_unjoined.append fun _ => Option.some_ne_none errno, fun b hb => ?_⟩
      rcases List.mem_append.mp hb with hb | hb
      · exact (h_done b hb).append
      · -- and it is refused as the ones before
        exact List.mem_singleton.mp hb ▸ ⟨errno, List.mem_append_right _ (.head _)⟩
  · -- nothing has been tried yet
    exact fun h ⟨hF, hu⟩ => ⟨hF, fun _ => ⟨hu, fun _ h => absurd h List.not_mem_nil⟩⟩
  · intro results
    by_cases h_any : results.any id
    · -- one of the groups was joined
      rw [if_pos h_any]
      exact .pure fun _ _ => trivial
    · rw [if_neg h_any]
      rw [Bool.not_eq_true] at h_any
      -- all of them were refused, so the last resort is tried
      refine .call (fun _ h ⟨hF, hI⟩ => ?_) fun _ _ => trivial
      exact h_blame h hF (hI h_any).1 (hI h_any).2

end Dialogue

/-! ### Opening a socket -/

theorem mem_toList_ofList {α : Type} [BEq α] [LawfulBEq α] [Ord α] [Std.TransOrd α]
    [Std.LawfulEqOrd α] {x : α} {xs : List α} :
    x ∈ (Std.ExtTreeSet.ofList xs).toList ↔ x ∈ xs := by
  rw [Std.ExtTreeSet.mem_toList, Std.ExtTreeSet.mem_ofList, List.contains_iff_mem]

section
open Dialogue

variable (os : OperatingSystem) (loopback : Bool)

/-- If no interface can be joined, all external ones with an IPv4 address were tried. -/
theorem openIpv4_meets (target : Target Ipv4) :
    Meets (· = []) (openIpv4 os loopback target) (fun _ _ => True) fun c earlier =>
      target = .every → c = .joinIpv4 .unspecified ∧ Unjoined earlier ∧
        ∀ name i, (name, .v4 i) ∈ os.listed → (IpAddress.v4 i).isLoopback = false →
          Refused (.joinIpv4 i) earlier := by
  refine .mono (P := Unjoined) ?_ (fun h h_nil => h_nil ▸ .nil) fun _ _ h => h
  unfold openIpv4
  -- none of the first calls is about a group
  refine .bind (.call_other rfl fun h hu => hu.append_other rfl) fun _ => ?_
  refine .bind (.call_other rfl fun h hu => hu.append_other rfl) fun _ => ?_
  refine .bind (.call_other rfl fun h hu => hu.append_other rfl) fun _ => ?_
  refine .bind (.call_other rfl fun h hu => hu.append_other rfl) fun _ => ?_
  cases target with
  -- one group is asked for, and not every one
  | automatic | only _ =>
    exact .call_then (fun _ h => absurd h (by simp)) (.call_other rfl fun _ _ => trivial)
  | every =>
    -- all listed addresses are tried, and the last resort is to blame if none is granted
    refine .bind (.mono (joinAny_meets (F := fun _ => True) (fun _ _ _ _ _ => trivial) ?_)
      (fun h hu => ⟨trivial, hu⟩) fun _ _ h => h) fun _ => .call_other rfl fun _ _ => trivial
    refine fun h _ hu h_refused _ => ⟨rfl, hu, fun name i h_listed h_external => ?_⟩
    refine h_refused _ (List.mem_map_of_mem (List.mem_filterMap.mpr ⟨.v4 i, ?_, rfl⟩))
    rw [mem_toList_ofList, List.mem_filter]
    exact ⟨List.mem_map_of_mem h_listed, by rw [h_external]; rfl⟩

/-- Of the interfaces `names`, those that have an index and could be selected were `found`. -/
def Probed (os : OperatingSystem) (names : List String) (found : List (Option UInt32))
    (h : List Attempt) : Prop :=
  ∀ name ∈ names, ∀ i, os.indexOf name = .ok i → some i ∈ found ∨ Refused (.selectInterface i) h

theorem Probed.append {os : OperatingSystem} {names : List String} {found : List (Option UInt32)}
    {h : List Attempt} {a : Attempt} (hp : Probed os names found h) :
    Probed os names found (h ++ [a]) :=
  fun name h_name i h_index => (hp name h_name i h_index).imp_right (·.append)

theorem selectable?_meets {blame : Call → List Attempt → Prop} {names : List String}
    {found : List (Option UInt32)} {name : String} :
    Meets (fun h => Probed os names found h ∧ Unjoined h) (selectable? os name)
      (fun i? h => Probed os (names ++ [name]) (found ++ [i?]) h ∧ Unjoined h) blame := by
  -- what was found of the names before stays, and the new name has its answer behind it
  have h_more {i? : Option UInt32} {h : List Attempt} (hp : Probed os names found h)
      (h_last : ∀ i, os.indexOf name = .ok i → i? = some i ∨ Refused (.selectInterface i) h) :
      Probed os (names ++ [name]) (found ++ [i?]) h := by
    intro n hn i h_index
    rcases List.mem_append.mp hn with hn | hn
    · exact (hp n hn i h_index).imp_left (List.mem_append_left _)
    · rw [List.mem_singleton.mp hn] at h_index
      exact (h_last i h_index).imp_left fun h_some =>
        List.mem_append_right _ (List.mem_singleton.mpr h_some.symm)
  unfold selectable?
  cases h_index : os.indexOf name with
  -- a name without an index is passed over
  | error fault =>
    refine .pure fun h ⟨hp, hu⟩ => ⟨h_more hp fun i hi => ?_, hu⟩
    exact absurd (h_index.symm.trans hi) (by simp)
  | ok index =>
    -- a name with an index is granted or refused
    refine .bind (.granted (Q := fun granted h => (Probed os names found h ∧ Unjoined h) ∧
      (granted = false → Refused (.selectInterface index) h)) ?_) fun granted => .pure ?_
    · refine fun h refusal ⟨hp, hu⟩ => ⟨⟨hp.append, hu.append_other rfl⟩, fun h_none => ?_⟩
      cases refusal with
      | none => cases h_none
      | some errno => exact ⟨errno, List.mem_append_right _ (.head _)⟩
    · refine fun h ⟨⟨hp, hu⟩, h_refused⟩ => ⟨h_more hp fun i hi => ?_, hu⟩
      obtain rfl : index = i := Except.ok.inj (h_index.symm.trans hi)
      cases granted with
      | true => exact .inl rfl
      | false => exact .inr (h_refused rfl)

/-- Several interfaces are distinct, and more than one. -/
def Reach.Several : Reach → Prop
  | .single => True
  | .several interfaces => interfaces.Nodup ∧ 2 ≤ interfaces.length

theorem nodup_toList {α : Type} [Ord α] [Std.TransOrd α] (xs : Std.ExtTreeSet α) :
    xs.toList.Nodup :=
  Std.ExtTreeSet.distinct_toList.imp fun {_ _} h_ne h_eq => by
    subst h_eq
    exact h_ne Std.ReflCmp.compare_self

/-- Binding a socket that joined the group, and selecting its interfaces. -/
theorem bind_meets {blame : Call → List Attempt → Prop} {interfaces : List UInt32}
    (h_nodup : interfaces.Nodup) :
    Meets (fun _ => True)
      (show Dialogue Reach from do
        call os (.bind .v6)
        match interfaces with
        | [] => do
          call os (.selectInterface 0)
          return .single
        | [interface] => do
          call os (.selectInterface interface)
          return .single
        | interfaces => return .several interfaces)
      (fun reach _ => reach.Several) blame := by
  refine .bind (M := fun _ _ => True) (.call_other rfl fun _ _ => trivial) fun _ => ?_
  match interfaces with
  -- one interface at most is selected for good
  | [] | [_] => exact .bind (.call_other rfl fun _ _ => trivial) fun _ => .pure fun _ _ => trivial
  -- several are only listed, each of them once
  | i :: j :: rest => exact .pure fun _ _ => ⟨h_nodup, Nat.le_add_left 2 rest.length⟩

theorem mapM_selectable?_meets {blame : Call → List Attempt → Prop}
    (external : List (String × IpAddress)) :
    Meets Unjoined (external.mapM fun (name, _) => selectable? os name)
      (fun found h => Probed os (external.map (·.1)) found h ∧ Unjoined h) blame := by
  -- after each name, all names so far are answered
  refine .mono (.mapM (I := fun done found h => Probed os (done.map (·.1)) found h ∧ Unjoined h)
    fun done x _ found => ?_)
    (fun h hu => ⟨fun _ h => absurd h List.not_mem_nil, hu⟩) fun _ _ h => h
  rw [List.map_append]
  exact selectable?_meets os

/-- If no interface can be joined, all external ones with an IPv6 address and an index were tried,
of those through which multicasts can go. -/
theorem openIpv6_meets (target : Target UInt32) :
    Meets (· = []) (openIpv6 os loopback target) (fun reach _ => reach.Several) fun c earlier =>
      target = .every → c = .joinIpv6 0 ∧ Unjoined earlier ∧
        ∀ name x i, (name, x) ∈ os.listed → x.isLoopback = false → x.family = .v6 →
          os.indexOf name = .ok i →
            Refused (.selectInterface i) earlier ∨ Refused (.joinIpv6 i) earlier := by
  refine .mono (P := Unjoined) ?_ (fun h h_nil => h_nil ▸ .nil) fun _ _ h => h
  unfold openIpv6
  -- none of the first calls is about a group
  refine .bind (.call_other rfl fun h hu => hu.append_other rfl) fun _ => ?_
  refine .bind (.call_other rfl fun h hu => hu.append_other rfl) fun _ => ?_
  refine .bind (.call_other rfl fun h hu => hu.append_other rfl) fun _ => ?_
  refine .bind (.call_other rfl fun h hu => hu.append_other rfl) fun _ => ?_
  refine .bind (.call_other rfl fun h hu => hu.append_other rfl) fun _ => ?_
  cases target with
  | automatic =>
    -- the interfaces that are granted are not used
    refine .bind (mapM_selectable?_meets os _) fun _ =>
      .bind (M := fun _ _ => True) (.pure fun _ _ => trivial) fun _ => ?_
    exact .call_then (fun _ h => absurd h (by simp)) (bind_meets os List.nodup_nil)
  | only interface =>
    refine .bind (M := fun _ _ => True) (.pure fun _ _ => trivial) fun interfaces => ?_
    exact .call_then (fun _ h => absurd h (by simp)) (bind_meets os (nodup_toList interfaces))
  | every =>
    let names := (os.listed.filter fun (_, x) => !x.isLoopback && x.family = .v6).map (·.1)
    -- the interfaces that are granted are those that are joined
    refine .bind (mapM_selectable?_meets os _) fun found => .bind
      (M := fun interfaces h => Probed os names (interfaces.toList.map some) h ∧ Unjoined h)
      (.pure fun h ⟨hp, hu⟩ => ⟨fun name h_name i h_index => ?_, hu⟩) fun interfaces =>
      .bind (joinAny_meets (fun c hc h refusal hp => hp.append) fun h hp hu h_refused _ => ?_)
        fun _ => bind_meets os (nodup_toList interfaces)
    · -- what was found is among the interfaces
      refine (hp name h_name i h_index).imp_left fun h_found => List.mem_map_of_mem ?_
      rw [mem_toList_ofList]
      exact List.mem_filterMap.mpr ⟨some i, h_found, rfl⟩
    · -- an interface that was not refused was joined in vain
      refine ⟨rfl, hu, fun name x i h_listed h_external h_family h_index => ?_⟩
      have h_name : name ∈ names := List.mem_map_of_mem (f := Prod.fst) (a := (name, x))
        (List.mem_filter.mpr ⟨h_listed, by simp [h_external, h_family]⟩)
      refine (hp name h_name i h_index).symm.imp_right fun h_found => h_refused _ ?_
      obtain ⟨j, hj, h_some⟩ := List.mem_map.mp h_found
      exact Option.some.inj h_some ▸ List.mem_map_of_mem hj

end

/-! ### Starting -/

section

variable {os : OperatingSystem} {settings : Settings}

namespace Opening

theorem ipv4_fault {errno : Errno} (h : (ipv4 os settings).result = .error errno) :
    ∃ earlier c, (ipv4 os settings).trace = earlier ++ [⟨c, some errno⟩] ∧
      (c.joins = true → settings.ipv4 = .every →
        c = .joinIpv4 .unspecified ∧ Dialogue.Unjoined earlier ∧
          ∀ name i, (name, .v4 i) ∈ os.listed → (IpAddress.v4 i).isLoopback = false →
            Dialogue.Refused (.joinIpv4 i) earlier) := by
  -- what the opening meets, it meets as the socket is opened
  have h_meets := openIpv4_meets os settings.loopback settings.ipv4 .fresh rfl
  unfold ipv4 at h ⊢
  generalize (openIpv4 os settings.loopback settings.ipv4).run .fresh = outcome at h h_meets ⊢
  obtain ⟨errno' | _, socket⟩ := outcome
  · obtain rfl : errno' = errno := Except.error.inj h
    exact h_meets
  · cases h

theorem ipv6_fault {errno : Errno} (h : (ipv6 os settings).result = .error errno) :
    ∃ earlier c, (ipv6 os settings).trace = earlier ++ [⟨c, some errno⟩] ∧
      (c.joins = true → settings.ipv6 = .every →
        c = .joinIpv6 0 ∧ Dialogue.Unjoined earlier ∧
          ∀ name x i, (name, x) ∈ os.listed → x.isLoopback = false → x.family = .v6 →
            os.indexOf name = .ok i →
              Dialogue.Refused (.selectInterface i) earlier ∨
                Dialogue.Refused (.joinIpv6 i) earlier) := by
  have h_meets := openIpv6_meets os settings.loopback settings.ipv6 .fresh rfl
  unfold ipv6 at h ⊢
  generalize (openIpv6 os settings.loopback settings.ipv6).run .fresh = outcome at h h_meets ⊢
  -- an opening without a fault has nothing to blame
  obtain ⟨errno' | _, socket⟩ := outcome
  · obtain rfl : errno' = errno := Except.error.inj h
    exact h_meets
  · cases h

theorem ipv4_opened {opened : Opened} (h : (ipv4 os settings).result = .ok opened) :
    opened.transport = .v4 := by
  unfold ipv4 at h
  generalize (openIpv4 os settings.loopback settings.ipv4).run .fresh = outcome at h
  obtain ⟨_ | _, socket⟩ := outcome
  · cases h
  · exact (congrArg Opened.transport (Except.ok.inj h)).symm

theorem ipv6_opened {opened : Opened} (h : (ipv6 os settings).result = .ok opened) :
    ∃ reach, opened.transport = .v6 reach ∧ reach.Several := by
  have h_meets := openIpv6_meets os settings.loopback settings.ipv6 .fresh rfl
  unfold ipv6 at h
  generalize (openIpv6 os settings.loopback settings.ipv6).run .fresh = outcome at h h_meets
  obtain ⟨_ | reach, socket⟩ := outcome
  · cases h
  · exact ⟨reach, (congrArg Opened.transport (Except.ok.inj h)).symm, h_meets⟩

/-- What becomes of sockets for both families, by what becomes of those for each. -/
theorem result_any (os : OperatingSystem) (settings : Settings) :
    (forScope os settings .any).result =
      match (ipv4 os settings).result, (ipv6 os settings).result with
      | .error errno, _ => .error errno
      | .ok opened, .error _ => .ok opened
      | .ok opened4, .ok opened6 => .ok { opened6 with
          transport := (opened6.transport.reach?.map .both).getD .v4, v4 := opened4.v4 } := by
  -- the first family decides whether it opens, the second what it reaches
  unfold forScope both
  cases h4 : (ipv4 os settings).result with
  | error errno => simp only [h4]
  | ok opened4 => cases h6 : (ipv6 os settings).result <;> simp only [h4, h6, Except.map]

/-- The interfaces of sockets that were opened. -/
theorem several {scope : IpScope} {opened : Opened} {interfaces : List UInt32}
    (h : (forScope os settings scope).result = .ok opened)
    (h_reach : opened.transport.reach? = some (.several interfaces)) :
    interfaces.Nodup ∧ 2 ≤ interfaces.length := by
  -- IPv4 has no interfaces to send through
  have h_v4 {opened : Opened} (h : (ipv4 os settings).result = .ok opened) :
      opened.transport.reach? = none := by
    rw [ipv4_opened h]
    rfl
  -- over IPv6 the interfaces are as they were opened
  have h_v6 {opened : Opened} (h : (ipv6 os settings).result = .ok opened)
      (h_reach : opened.transport.reach? = some (.several interfaces)) :
      interfaces.Nodup ∧ 2 ≤ interfaces.length := by
    obtain ⟨reach, h_transport, h_several⟩ := ipv6_opened h
    rw [h_transport] at h_reach
    obtain rfl : reach = .several interfaces := Option.some.inj h_reach
    exact h_several
  -- with both families the reach is that of the second
  cases scope with
  | v4 => cases (h_v4 h).symm.trans h_reach
  | v6 => exact h_v6 h h_reach
  | any =>
    rw [result_any] at h
    cases h4 : (ipv4 os settings).result with
    | error errno => rw [h4] at h; cases h
    | ok opened4 =>
      cases h6 : (ipv6 os settings).result with
      | error errno =>
        rw [h4, h6] at h
        cases h
        cases (h_v4 h4).symm.trans h_reach
      | ok opened6 =>
        rw [h4, h6] at h
        cases h
        refine h_v6 h6 ?_
        obtain ⟨reach, h_transport, -⟩ := ipv6_opened h6
        rw [h_transport] at h_reach ⊢
        exact h_reach

end Opening

namespace Responder

/-- The sockets of an engine are those that were opened for it. -/
theorem eq_of_linkIn {t t' : Transport} {state : EngineState}
    (h : linkIn t state = .waiting t' ∨ linkIn t state = .attached t') : t' = t := by
  cases state <;> simp_all [linkIn]

theorem build_of_ok {scope : IpScope} {opened : Opened}
    (h : (Opening.forScope os settings scope).result = .ok opened) :
    (build os settings scope).2 = .ok (.on os settings opened) := by
  simp only [build, h]

theorem build_of_error {scope : IpScope} {errno : Errno}
    (h : (Opening.forScope os settings scope).result = .error errno) :
    (build os settings scope).2 = .error (.system errno) := by
  simp only [build, h]

/-- A responder for both families, by what becomes of one for each. -/
theorem build_any (os : OperatingSystem) (settings : Settings) :
    (∃ fault, (build os settings .any).2 = .error fault ∧
      (build os settings .v4).2 = .error fault) ∨
      ∃ r r4, (build os settings .any).2 = .ok r ∧ (build os settings .v4).2 = .ok r4 ∧
        r.scope = if (build os settings .v6).2.isOk then .any else .v4 := by
  have h_any := Opening.result_any os settings
  -- the first family decides whether it is built
  cases h4 : (Opening.ipv4 os settings).result with
  | error errno =>
    rw [h4] at h_any
    exact .inl ⟨.system errno, build_of_error h_any, build_of_error h4⟩
  | ok opened4 =>
    -- without the second family, the scope is that of the first
    cases h6 : (Opening.ipv6 os settings).result with
    | error errno =>
      rw [h4, h6] at h_any
      refine .inr ⟨_, _, build_of_ok h_any, build_of_ok h4, ?_⟩
      have h_v6 : (build os settings .v6).2 = .error (.system errno) := build_of_error h6
      rw [h_v6]
      exact congrArg Transport.scope (Opening.ipv4_opened h4)
    -- with it, the scope is the whole
    | ok opened6 =>
      rw [h4, h6] at h_any
      refine .inr ⟨_, _, build_of_ok h_any, build_of_ok h4, ?_⟩
      have h_v6 : (build os settings .v6).2 = .ok (.on os settings opened6) := build_of_ok h6
      rw [h_v6]
      obtain ⟨reach, h_transport, -⟩ := Opening.ipv6_opened h6
      rw [on, h_transport]
      rfl

/-- **Trouble with IPv6 never keeps a responder from starting.** Whatever the settings, the
interfaces and the answers of the operating system are, a responder for both families can be had
exactly if one for IPv4 can.  It then covers both families exactly if a responder for IPv6 could be
had as well, and IPv4 alone otherwise; if it cannot be had, the fault is that of IPv4.

If a family is to join on as many interfaces as possible and cannot be opened, there is a last call,
which was refused.  If this was to join, it was to join on the default interface; all calls to join
were refused, and there was one on each external interface of the family, other than those that have
no index or cannot be selected.

If a responder multicasts over IPv6 on several interfaces, then they are distinct and more than one,
at any moment of any turn, whatever happened to it. -/
theorem starts_without_ipv6 (os : OperatingSystem) (settings : Settings) :
    let opening scope := (Responder.build os settings scope).1
    let built scope := (Responder.build os settings scope).2
    (built .any).isOk = (built .v4).isOk ∧
    (∀ r, built .any = .ok r → r.scope = if (built .v6).isOk then .any else .v4) ∧
    (∀ fault, built .any = .error fault → built .v4 = .error fault) ∧
    (∀ errno, settings.ipv4 = .every → (opening .v4).result = .error errno →
      ∃ earlier c, (opening .v4).trace = earlier ++ [⟨c, some errno⟩] ∧
        (c.joins = true → c = .joinIpv4 .unspecified ∧
          (∀ a ∈ earlier, a.call.joins = true → a.refusal ≠ none) ∧
          ∀ name i, (name, .v4 i) ∈ os.listed → (IpAddress.v4 i).isLoopback = false →
            ∃ errno', ⟨.joinIpv4 i, some errno'⟩ ∈ earlier)) ∧
    (∀ errno, settings.ipv6 = .every → (opening .v6).result = .error errno →
      ∃ earlier c, (opening .v6).trace = earlier ++ [⟨c, some errno⟩] ∧
        (c.joins = true → c = .joinIpv6 0 ∧
          (∀ a ∈ earlier, a.call.joins = true → a.refusal ≠ none) ∧
          ∀ name x i, (name, x) ∈ os.listed → x.isLoopback = false → x.family = .v6 →
            os.indexOf name = .ok i →
              (∃ errno', ⟨.selectInterface i, some errno'⟩ ∈ earlier) ∨
                ∃ errno', ⟨.joinIpv6 i, some errno'⟩ ∈ earlier)) ∧
    ∀ scope r, built scope = .ok r → ∀ inputs r',
      ((Dealings.ofResponder r).after inputs).responder.Moves r' →
      ∀ t, r'.link = .waiting t ∨ r'.link = .attached t →
      ∀ interfaces, t.reach? = some (.several interfaces) →
        interfaces.Nodup ∧ 2 ≤ interfaces.length := by
  intro opening built
  have h_any := build_any os settings
  refine ⟨?_, ?_, ?_, ?_, ?_, ?_⟩
  · -- it is built for both families if it is built for the first
    obtain ⟨fault, h, h4⟩ | ⟨r, r4, h, h4, -⟩ := h_any
    · exact (congrArg Except.isOk h).trans (congrArg Except.isOk h4).symm
    · exact (congrArg Except.isOk h).trans (congrArg Except.isOk h4).symm
  · intro r h_ok
    obtain ⟨fault, h, -⟩ | ⟨r', r4, h, -, h_scope⟩ := h_any <;> cases h.symm.trans h_ok
    exact h_scope
  · intro fault h_fault
    obtain ⟨fault', h, h4⟩ | ⟨r, r4, h, -⟩ := h_any <;> cases h.symm.trans h_fault
    exact h4
  · -- what the socket blames is the last thing in its trace
    intro errno h_every h_fault
    obtain ⟨earlier, c, h_trace, h_blame⟩ := Opening.ipv4_fault h_fault
    exact ⟨earlier, c, h_trace, fun h_joins => h_blame h_joins h_every⟩
  · intro errno h_every h_fault
    obtain ⟨earlier, c, h_trace, h_blame⟩ := Opening.ipv6_fault h_fault
    exact ⟨earlier, c, h_trace, fun h_joins => h_blame h_joins h_every⟩
  · -- the link of a responder is as it was built
    intro scope r h_ok inputs r' h_moves t h_link interfaces h_reach
    cases h_result : (Opening.forScope os settings scope).result with
    | error errno => cases (build_of_error h_result).symm.trans h_ok
    | ok opened =>
      cases (build_of_ok h_result).symm.trans h_ok
      have h_lives := (((Dealings.Lives.fresh os settings opened).after inputs).moves h_moves).1
      rw [h_lives.link] at h_link
      exact Opening.several h_result (eq_of_linkIn h_link ▸ h_reach)

end Responder
end
end ServiceDiscovery
