/-!
# Runs

A run is a list of what was done, one thing after another. What is said of it is said of every step
in the light of those before it: for all `earlier`, `x` and `later` such that the run is
`earlier ++ x :: later`. Such a statement is proved along the run: the first step has none before
it, and a later one is a step of the rest, with the first step before all others
(`forall_split_cons`).
-/

namespace ArgScan

variable {α : Type _} {P : List α → α → Prop}

/-- What holds of the first step, and of every later step after the first, holds along the run. -/
theorem forall_split_cons {first : α} {rest : List α} (hfirst : P [] first)
    (hrest : ∀ earlier x later, rest = earlier ++ x :: later → P (first :: earlier) x) :
    ∀ earlier x later, first :: rest = earlier ++ x :: later → P earlier x := by
  intro earlier x later hsplit
  cases earlier with
  | nil =>
    obtain ⟨rfl, -⟩ := List.cons.inj hsplit
    exact hfirst
  | cons y earlier =>
    obtain ⟨rfl, hlater⟩ := List.cons.inj hsplit
    exact hrest earlier x later hlater

/-- Anything holds along a run of no steps. -/
theorem forall_split_nil :
    ∀ earlier x later, ([] : List α) = earlier ++ x :: later → P earlier x := by
  intro earlier x later hsplit
  exact absurd hsplit.symm (List.append_ne_nil_of_right_ne_nil earlier (List.cons_ne_nil x later))

end ArgScan
