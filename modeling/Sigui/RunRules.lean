import Mathlib.Data.List.Basic

/-! Runs of a machine whose choices are all in its operations. The condition `ok` is asked of
every operation in the state it is issued in. -/
namespace Sigui

universe u v

section Runs

variable {σ : Type u} {α : Type v} (step : σ → α → σ) (ok : σ → α → Prop)

def runSteps (s : σ) (ops : List α) : σ :=
  ops.foldl step s

def RunOk : σ → List α → Prop
  | _, [] => True
  | s, op :: ops => ok s op ∧ RunOk (step s op) ops

instance [∀ s op, Decidable (ok s op)] : ∀ s ops, Decidable (RunOk step ok s ops)
  | _, [] => isTrue trivial
  | s, op :: ops =>
    have := instDecidableRunOk (step s op) ops
    inferInstanceAs (Decidable (ok s op ∧ RunOk step ok (step s op) ops))

variable {step ok}

theorem runSteps_append (s : σ) (xs ys : List α) :
    runSteps step s (xs ++ ys) = runSteps step (runSteps step s xs) ys :=
  List.foldl_append

theorem runOk_append {s : σ} {xs ys : List α} :
    RunOk step ok s (xs ++ ys) ↔ RunOk step ok s xs ∧ RunOk step ok (runSteps step s xs) ys := by
  induction xs generalizing s with
  | nil => exact ⟨fun h => ⟨trivial, h⟩, fun h => h.2⟩
  | cons op xs ih =>
    change ok s op ∧ RunOk step ok (step s op) (xs ++ ys) ↔
      (ok s op ∧ RunOk step ok (step s op) xs) ∧ _
    rw [ih, and_assoc]
    rfl

theorem runOk_of_forall {p : α → Prop} {s : σ} {ops : List α} (h : ∀ op ∈ ops, p op) :
    RunOk step (fun _ op => p op) s ops := by
  induction ops generalizing s with
  | nil => trivial
  | cons op ops ih =>
    exact ⟨h op List.mem_cons_self, ih fun op' hop' => h op' (List.mem_cons_of_mem _ hop')⟩

theorem run_invariant {Inv : σ → Prop} (hstep : ∀ s op, Inv s → ok s op → Inv (step s op))
    {s : σ} {ops : List α} (hok : RunOk step ok s ops) (hs : Inv s) :
    Inv (runSteps step s ops) := by
  induction ops generalizing s with
  | nil => exact hs
  | cons op ops ih =>
    obtain ⟨hop, hrest⟩ := hok
    exact ih hrest (hstep s op hs hop)

theorem run_always {Inv : σ → Prop} (hstep : ∀ s op, Inv s → Inv (step s op)) {s : σ}
    (ops : List α) (hs : Inv s) : Inv (runSteps step s ops) := by
  induction ops generalizing s with
  | nil => exact hs
  | cons op ops ih => exact ih (hstep s op hs)

end Runs

end Sigui
