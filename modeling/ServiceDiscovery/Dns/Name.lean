import ServiceDiscovery.Text.Utf8

/-!
# DNS names

A name is a sequence of labels, each of 1 to 63 octets; the sum of their lengths and their number
is at most 255.  The bounds are part of the type, so every name can be named in a message.  The
octets are arbitrary: a service instance is free text.

Two names are the same for DNS when they differ at most in the case of ASCII letters
(`Name.same`).  Names that are looked up are kept in lower case, where being the same is being
equal (`Name.same_iff`).

`Name.ofLabels` builds a name and says what is wrong when it cannot.  All labels are looked at
before the first complaint, except that more than 255 good ones are too many whatever the others
are.
-/

namespace ServiceDiscovery.Dns

/-- A label: the octets between two dots. -/
abbrev Label := List UInt8

/-- An ASCII letter in lower case, any other octet unchanged. -/
def lowerOctet (b : UInt8) : UInt8 :=
  if 65 ≤ b ∧ b ≤ 90 then b + 32 else b

theorem lowerOctet_lowerOctet (b : UInt8) : lowerOctet (lowerOctet b) = lowerOctet b := by
  unfold lowerOctet
  by_cases h : 65 ≤ b ∧ b ≤ 90
  · have : ¬ (65 ≤ b + 32 ∧ b + 32 ≤ 90) := by
      simp only [UInt8.le_iff_toNat_le, UInt8.toNat_add, UInt8.reduceToNat] at h ⊢
      omega
    rw [if_pos h, if_neg this]
  · rw [if_neg h, if_neg h]

/-- The lengths of the labels and their number, summed up. -/
def labelsLength : List Label → Nat
  | [] => 0
  | l :: ls => l.length + 1 + labelsLength ls

/-- A label that a name can have. -/
def Label.Fits (l : Label) : Prop := 1 ≤ l.length ∧ l.length ≤ 63

instance (l : Label) : Decidable l.Fits := inferInstanceAs (Decidable (_ ∧ _))

/-- A sequence of labels within the bounds that DNS sets. -/
structure Name where
  labels : List Label
  labels_fit : ∀ l ∈ labels, l.Fits
  length_le : labelsLength labels ≤ 255
deriving DecidableEq

namespace Name

theorem ext_iff' {m n : Name} : m = n ↔ m.labels = n.labels := by
  cases m; cases n; simp

/-- The name without labels. -/
def root : Name := ⟨[], by simp, by decide⟩

/-- The lengths of the labels and their number, summed up. -/
def length (n : Name) : Nat := labelsLength n.labels

/-- The name of these labels, if they are within the bounds. -/
def ofLabels? (labels : List Label) : Option Name :=
  if h : (∀ l ∈ labels, l.Fits) ∧ labelsLength labels ≤ 255 then some ⟨labels, h.1, h.2⟩ else none

/-! ### Letter case -/

theorem labelsLength_map_lower (labels : List Label) :
    labelsLength (labels.map (·.map lowerOctet)) = labelsLength labels := by
  induction labels with
  | nil => rfl
  | cons l ls ih => simp only [List.map_cons, labelsLength, List.length_map, ih]

/-- The name in lower case. -/
def lower (n : Name) : Name where
  labels := n.labels.map (·.map lowerOctet)
  labels_fit := by
    intro l h
    obtain ⟨l', h', rfl⟩ := List.mem_map.mp h
    simpa [Label.Fits] using n.labels_fit l' h'
  length_le := by simpa only [labelsLength_map_lower] using n.length_le

@[simp] theorem lower_labels (n : Name) : n.lower.labels = n.labels.map (·.map lowerOctet) := rfl

@[simp] theorem lower_lower (n : Name) : n.lower.lower = n.lower := by
  simp [ext_iff', Function.comp_def, lowerOctet_lowerOctet]

/-- Whether two names differ at most in the case of ASCII letters. -/
def same (m n : Name) : Bool := m.lower == n.lower

theorem same_iff {m n : Name} : m.same n = true ↔ m.lower = n.lower := by
  simp [same]

@[simp] theorem same_self (n : Name) : n.same n = true := by simp [same]

theorem same_comm (m n : Name) : m.same n = n.same m := by
  simp [same, Bool.beq_comm]

/-- Names are ordered by their labels, from the first on. -/
instance : Ord Name := ⟨compareOn labels⟩

instance : Std.TransOrd Name := inferInstanceAs (Std.TransCmp (compareOn labels))

instance : Std.LawfulEqOrd Name where
  eq_of_compare h := ext_iff'.mpr (Std.LawfulEqOrd.eq_of_compare (α := List Label) h)

/-! ### Parts -/

/-- The first label. -/
def head? (n : Name) : Option Label := n.labels.head?

/-- The name without its first label. -/
def base (n : Name) : Name where
  labels := n.labels.tail
  labels_fit := fun l h => n.labels_fit l (List.mem_of_mem_tail h)
  length_le := by
    refine Nat.le_trans ?_ n.length_le
    cases n.labels <;> simp [labelsLength]

@[simp] theorem base_labels (n : Name) : n.base.labels = n.labels.tail := rfl

/-- The number of labels, where a first label `*` does not count. -/
def depth (n : Name) : Nat :=
  if n.head? = some [42] then n.labels.length - 1 else n.labels.length

/-! ### Building -/

/-- What is wrong with a label. -/
inductive LabelFault
  | empty
  | tooLong (length : Nat)
deriving DecidableEq, Repr

def LabelFault.message : LabelFault → String
  | empty => "ProtoError \x7b kind: Message(\"Label requires a minimum length of 1\") \x7d"
  | tooLong length =>
    "ProtoError \x7b kind: Msg(\"Label exceeds maximum length 63: " ++ toString length ++ "\") \x7d"

/-- What is wrong with a sequence of labels. -/
inductive Fault
  | badLabels (faults : List LabelFault)
  | tooLong
deriving DecidableEq, Repr

def Fault.message : Fault → String
  | badLabels faults =>
    "error converting some labels: [" ++ ", ".intercalate (faults.map LabelFault.message) ++ "]"
  | tooLong => "labels exceed maximum length of 255"

/-- What keeps a label from being in a name. -/
def labelFault? (l : Label) : Option LabelFault :=
  if l.length = 0 then some .empty
  else if 63 < l.length then some (.tooLong l.length)
  else none

theorem labelFault?_eq_none_iff {l : Label} : labelFault? l = none ↔ l.Fits := by
  unfold labelFault? Label.Fits
  split
  · simp; omega
  · split
    · simp; omega
    · simp; omega

/-- The name of these labels, or what is wrong with them. -/
def ofLabels (labels : List Label) : Except Fault Name :=
  if 255 < labels.countP (fun l => (labelFault? l).isNone) then .error .tooLong
  else if h : labels.filterMap labelFault? = [] then
    if h' : labelsLength labels ≤ 255 then
      .ok ⟨labels, fun l hl => labelFault?_eq_none_iff.mp (List.filterMap_eq_nil_iff.mp h l hl), h'⟩
    else .error .tooLong
  else .error (.badLabels (labels.filterMap labelFault?))

end Name

end ServiceDiscovery.Dns
