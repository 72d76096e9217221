import Mathlib.Data.List.Induction

/-!
# What has been done since

A history is a list of occurrences that grows at its end.  `Since did undone history` says that at
some point of the history something was done, and that it was not undone at any point after it.
Whether an occurrence does or undoes something may depend on what occurred before it, so both
predicates also see the history up to that point.

Code keeps tables up to date one occurrence at a time.  `since_concat` is the same step on the side
of the history, so a table is shown to say what the history says by induction along a run.
-/

namespace ServiceDiscovery

variable {α : Type}

/-- At some point `did` held, and `undone` did not hold at any point after it. -/
def Since (did undone : List α → α → Prop) (history : List α) : Prop :=
  ∃ before a later, history = before ++ a :: later ∧ did before a ∧
    ∀ l b r, later = l ++ b :: r → ¬ undone (before ++ a :: l) b

variable {did undone : List α → α → Prop} {history : List α}

/-- A point of a history is its end, or lies before its end. -/
theorem concat_eq_append_cons {x a : α} {l r : List α} :
    history ++ [x] = l ++ a :: r ↔
      (history = l ∧ x = a ∧ r = []) ∨ ∃ r', r = r' ++ [x] ∧ history = l ++ a :: r' := by
  constructor
  · intro h
    rcases List.eq_nil_or_concat r with rfl | ⟨r', y, rfl⟩
    · -- nothing lies behind the point, so it is the end
      obtain ⟨rfl, hx⟩ := List.append_inj' h rfl
      exact .inl ⟨rfl, List.singleton_inj.mp hx, rfl⟩
    · -- what lies behind the point ends with the end
      rw [List.concat_eq_append, ← List.cons_append, ← List.append_assoc] at h
      obtain ⟨rfl, hx⟩ := List.append_inj' h rfl
      exact .inr ⟨r', by rw [List.concat_eq_append, hx], rfl⟩
  · rintro (⟨rfl, rfl, rfl⟩ | ⟨r', rfl, rfl⟩)
    · rfl
    · rw [List.append_assoc, List.cons_append]

/-- Nothing has been done yet. -/
theorem not_since_nil : ¬ Since did undone ([] : List α) := by
  rintro ⟨before, a, later, h, -⟩
  exact absurd h (by simp)

/-- **The last occurrence decides.** Something has been done and not undone if it was done just now,
or had been done before and was not undone just now. -/
theorem since_concat {x : α} :
    Since did undone (history ++ [x]) ↔
      did history x ∨ (Since did undone history ∧ ¬ undone history x) := by
  constructor
  · rintro ⟨before, a, later, h, h_did, h_kept⟩
    rcases concat_eq_append_cons.mp h with ⟨rfl, rfl, -⟩ | ⟨later, rfl, rfl⟩
    · exact .inl h_did
    · -- it was done earlier, so the last occurrence is among those that did not undo it
      refine .inr ⟨⟨before, a, later, rfl, h_did, ?_⟩, h_kept later x [] rfl⟩
      intro l b r hl
      exact h_kept l b (r ++ [x]) (concat_eq_append_cons.mpr (.inr ⟨r, rfl, hl⟩))
  · rintro (h_did | ⟨⟨before, a, later, rfl, h_did, h_kept⟩, h_last⟩)
    · -- just done, with nothing behind it that could have undone it
      refine ⟨history, x, [], rfl, h_did, ?_⟩
      intro l b r hl
      exact absurd hl (by simp)
    · refine ⟨before, a, later ++ [x], by simp, h_did, ?_⟩
      intro l b r hl
      -- an occurrence behind the point is the last one, or was there before
      rcases concat_eq_append_cons.mp hl with ⟨rfl, rfl, -⟩ | ⟨r', -, hl'⟩
      · exact h_last
      · exact h_kept l b r' hl'

end ServiceDiscovery
