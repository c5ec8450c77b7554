/-!
# Scripts of steps
-/

namespace Reactor.Session

/-- Takes steps one after the other and shows each answer with the state after it. -/
def scan {σ α ρ : Type} (take : σ → α → ρ × σ) : σ → List α → List (ρ × σ)
  | _, [] => []
  | state, step :: steps =>
      let shown := take state step
      shown :: scan take shown.2 steps

/-- The state after all steps. -/
def after {σ α ρ : Type} (take : σ → α → ρ × σ) (state : σ) (steps : List α) : σ :=
  steps.foldl (fun state step => (take state step).2) state

theorem scan_append {σ α ρ : Type} (take : σ → α → ρ × σ) (state : σ) (front back : List α) :
    scan take state (front ++ back) =
      scan take state front ++ scan take (after take state front) back := by
  induction front generalizing state with
  | nil => rfl
  | cons step steps ih => simp [scan, after, ih]

theorem after_append {σ α ρ : Type} (take : σ → α → ρ × σ) (state : σ) (front back : List α) :
    after take state (front ++ back) = after take (after take state front) back :=
  List.foldl_append

end Reactor.Session
