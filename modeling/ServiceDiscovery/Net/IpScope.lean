/-!
# Address families and scopes

A `Family` is one of the two versions of the Internet protocol.  An `IpScope` says on which of
them something is published, browsed or seen: on both (`any`) or on a single one.

A scope *includes* another when everything the second asks for lies within the first; `any` is
included by `any` alone, since a single family cannot stand for both (`includes_any_right`).
Scopes are ordered by their version number, `any` first.
-/

namespace ServiceDiscovery

/-- A version of the Internet protocol. -/
inductive Family
  | v4
  | v6
deriving DecidableEq, Repr

/-- The families on which something is published, browsed or seen. -/
inductive IpScope
  /-- No preference: both families. -/
  | any
  /-- IPv4 only. -/
  | v4
  /-- IPv6 only. -/
  | v6
deriving DecidableEq, Repr, Inhabited

namespace IpScope

/-- `s.includes t` when everything on `t` is on `s`. -/
def includes (s t : IpScope) : Bool :=
  s == any || s == t

@[simp] theorem includes_self (s : IpScope) : s.includes s = true := by
  cases s <;> rfl

@[simp] theorem any_includes (t : IpScope) : any.includes t = true := rfl

@[simp] theorem includes_any_right (s : IpScope) : s.includes any = true ↔ s = any := by
  cases s <;> decide

/-- The version number, 0 when there is no preference. -/
def number : IpScope → Nat
  | any => 0
  | v4 => 4
  | v6 => 6

theorem number_inj {s t : IpScope} : s.number = t.number ↔ s = t := by
  cases s <;> cases t <;> decide

/-- Scopes are ordered by their number. -/
instance : Ord IpScope := ⟨compareOn number⟩

instance : Std.TransOrd IpScope :=
  inferInstanceAs (Std.TransCmp (compareOn number))

instance : Std.LawfulEqOrd IpScope where
  eq_of_compare h := number_inj.mp (Std.LawfulEqOrd.eq_of_compare (α := Nat) h)

/-- The name shown to people. -/
def label : IpScope → String
  | any => "IPv4/IPv6"
  | v4 => "IPv4"
  | v6 => "IPv6"

/-- Whether the scope reaches a family. -/
def covers (s : IpScope) : Family → Bool
  | .v4 => s.includes v4
  | .v6 => s.includes v6

end IpScope

/-- The scope that holds this family alone. -/
def Family.scope : Family → IpScope
  | .v4 => .v4
  | .v6 => .v6

@[simp] theorem IpScope.includes_scope (s : IpScope) (f : Family) :
    s.includes f.scope = s.covers f := by
  cases f <;> rfl

@[simp] theorem Family.scope_ne_any (f : Family) : f.scope ≠ .any := by
  cases f <;> decide

/-- How a family is called in the names of socket operations. -/
def Family.name : Family → String
  | .v4 => "v4"
  | .v6 => "v6"

end ServiceDiscovery
