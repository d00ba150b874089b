/-
  Runs of a deterministic machine `step : σ → ι → σ` over a list of inputs. Nothing here names
  a program.

  `run_invariant` is the induction "kept by one step, so kept by a run". `StepsSatisfy C`
  says that every step of a run meets a condition on its input and on the state before it;
  `run_invariant_of` carries an invariant along such a run, `stepsSatisfy_congr` exchanges a
  condition for one that is equivalent under an invariant that it keeps, `StepsSatisfy.mono` for
  one that follows from it. `stepsSatisfy_iff`, `stepsSatisfy_iff_of`, `stepsSatisfy_iff_under`: a
  condition that says of each step whether a law is kept says of a run whether the law holds
  throughout.
-/
import Mathlib.Data.List.Basic

namespace SaasChassis.Lib

variable {σ ι : Type}

/-- The state after the inputs `is`, taken in order. -/
def run (step : σ → ι → σ) (s : σ) (is : List ι) : σ := is.foldl step s

theorem run_append (step : σ → ι → σ) (s : σ) (is js : List ι) :
    run step s (is ++ js) = run step (run step s is) js := List.foldl_append

theorem run_invariant {step : σ → ι → σ} {I : σ → Prop} (hstep : ∀ s i, I s → I (step s i))
    {s : σ} (h0 : I s) (is : List ι) : I (run step s is) := by
  induction is generalizing s with
  | nil => exact h0
  | cons i is ih => exact ih (hstep s i h0)

theorem run_invariant_mem {step : σ → ι → σ} {I : σ → Prop} {is : List ι}
    (hstep : ∀ s, I s → ∀ i ∈ is, I (step s i)) {s : σ} (h0 : I s) : I (run step s is) :=
  List.foldlRecOn is step h0 hstep

/-- Every step of the run from `s` meets `C` at the state it starts from. -/
def StepsSatisfy (step : σ → ι → σ) (C : σ → ι → Prop) : σ → List ι → Prop
  | _, [] => True
  | s, i :: is => C s i ∧ StepsSatisfy step C (step s i) is

instance StepsSatisfy.decidable {step : σ → ι → σ} {C : σ → ι → Prop}
    [hc : ∀ s i, Decidable (C s i)] : ∀ s is, Decidable (StepsSatisfy step C s is)
  | _, [] => isTrue trivial
  | s, i :: is => @instDecidableAnd _ _ (hc s i) (StepsSatisfy.decidable (step s i) is)

theorem run_invariant_of {step : σ → ι → σ} {C : σ → ι → Prop} {I : σ → Prop}
    (hstep : ∀ s i, I s → C s i → I (step s i)) {s : σ} (h0 : I s) {is : List ι}
    (hc : StepsSatisfy step C s is) : I (run step s is) := by
  induction is generalizing s with
  | nil => exact h0
  | cons i is ih => exact ih (hstep s i h0 hc.1) hc.2

theorem stepsSatisfy_append {step : σ → ι → σ} {C : σ → ι → Prop} {s : σ} {is js : List ι} :
    StepsSatisfy step C s (is ++ js) ↔
      StepsSatisfy step C s is ∧ StepsSatisfy step C (run step s is) js := by
  induction is generalizing s with
  | nil => exact (and_iff_right trivial).symm
  | cons i is ih =>
    show C s i ∧ StepsSatisfy step C (step s i) (is ++ js) ↔ _
    rw [ih, ← and_assoc]
    rfl

theorem StepsSatisfy.take {step : σ → ι → σ} {C : σ → ι → Prop} {s : σ} {is : List ι}
    (hc : StepsSatisfy step C s is) (n : ℕ) : StepsSatisfy step C s (is.take n) := by
  rw [← List.take_append_drop n is] at hc
  exact (stepsSatisfy_append.mp hc).1

theorem stepsSatisfy_congr {step : σ → ι → σ} {C D : σ → ι → Prop} {I : σ → Prop}
    (hstep : ∀ s i, I s → C s i → I (step s i)) (hcd : ∀ s i, I s → (C s i ↔ D s i)) {s : σ}
    (h0 : I s) (is : List ι) : StepsSatisfy step C s is ↔ StepsSatisfy step D s is := by
  induction is generalizing s with
  | nil => exact Iff.rfl
  | cons i is ih =>
    calc C s i ∧ StepsSatisfy step C (step s i) is
        ↔ C s i ∧ StepsSatisfy step D (step s i) is :=
          and_congr_right fun hc => ih (hstep s i h0 hc)
      _ ↔ D s i ∧ StepsSatisfy step D (step s i) is := and_congr_left' (hcd s i h0)

theorem StepsSatisfy.mono {step : σ → ι → σ} {C D : σ → ι → Prop} {I : σ → Prop}
    (hstep : ∀ s i, I s → C s i → I (step s i)) (hcd : ∀ s i, I s → C s i → D s i) {s : σ}
    (h0 : I s) {is : List ι} (hc : StepsSatisfy step C s is) : StepsSatisfy step D s is := by
  induction is generalizing s with
  | nil => exact trivial
  | cons i is ih => exact ⟨hcd s i h0 hc.1, ih (hstep s i h0 hc.1) hc.2⟩

/-- A condition on the inputs alone. -/
theorem stepsSatisfy_of_forall {step : σ → ι → σ} {C : ι → Prop} {s : σ} {is : List ι}
    (h : ∀ i ∈ is, C i) : StepsSatisfy step (fun _ i => C i) s is := by
  induction is generalizing s with
  | nil => exact trivial
  | cons i is ih =>
    obtain ⟨hi, his⟩ := List.forall_mem_cons.mp h
    exact ⟨hi, ih his⟩

theorem StepsSatisfy.and {step : σ → ι → σ} {C D : σ → ι → Prop} {s : σ} {is : List ι}
    (hc : StepsSatisfy step C s is) (hd : StepsSatisfy step D s is) :
    StepsSatisfy step (fun s i => C s i ∧ D s i) s is := by
  induction is generalizing s with
  | nil => exact trivial
  | cons i is ih => exact ⟨⟨hc.1, hd.1⟩, ih hc.2 hd.2⟩

/-- A condition that says of each step whether it keeps the law `L`, as long as it has been met
    so far. -/
theorem stepsSatisfy_iff_of {step : σ → ι → σ} {C : σ → ι → Prop} {I L : σ → Prop}
    (hstep : ∀ s i, I s → C s i → I (step s i)) (hlaw : ∀ s i, I s → (C s i ↔ L (step s i))) {s : σ}
    (h0 : I s) (hl : L s) (is : List ι) :
    StepsSatisfy step C s is ↔ ∀ n, L (run step s (is.take n)) := by
  induction is generalizing s with
  | nil => simpa [StepsSatisfy, run] using hl
  | cons i is ih =>
    constructor
    · rintro ⟨hc, hrest⟩ n
      cases n with
      | zero => exact hl
      | succ n => exact (ih (hstep s i h0 hc) ((hlaw s i h0).mp hc)).mp hrest n
    · intro h
      have hnext : L (step s i) := h 1
      have hc := (hlaw s i h0).mpr hnext
      exact ⟨hc, (ih (hstep s i h0 hc) hnext).mpr fun n => h (n + 1)⟩

theorem stepsSatisfy_iff {step : σ → ι → σ} {C : σ → ι → Prop} {I L : σ → Prop}
    (hstep : ∀ s i, I s → I (step s i)) (hlaw : ∀ s i, I s → L s → (C s i ↔ L (step s i))) {s : σ}
    (h0 : I s) (hl : L s) (is : List ι) :
    StepsSatisfy step C s is ↔ ∀ n, L (run step s (is.take n)) :=
  stepsSatisfy_iff_of (I := fun s => I s ∧ L s)
    (fun s i hs hc => ⟨hstep s i hs.1, (hlaw s i hs.1 hs.2).mp hc⟩)
    (fun s i hs => hlaw s i hs.1 hs.2) ⟨h0, hl⟩ hl is

/-- The same for runs whose inputs meet `W`. -/
theorem stepsSatisfy_iff_under {step : σ → ι → σ} {C W : σ → ι → Prop} {I L : σ → Prop}
    (hstep : ∀ s i, I s → W s i → I (step s i))
    (hlaw : ∀ s i, I s → L s → W s i → (C s i ↔ L (step s i))) {s : σ} (h0 : I s) (hl : L s)
    {is : List ι} (hw : StepsSatisfy step W s is) :
    StepsSatisfy step C s is ↔ ∀ n, L (run step s (is.take n)) := by
  induction is generalizing s with
  | nil => simpa [StepsSatisfy, run] using hl
  | cons i is ih =>
    have hcons : (∀ n, L (run step s ((i :: is).take n))) ↔
        L (step s i) ∧ ∀ n, L (run step (step s i) (is.take n)) := by
      refine ⟨fun h => ⟨h 1, fun n => h (n + 1)⟩, fun h n => ?_⟩
      cases n with
      | zero => exact hl
      | succ n => exact h.2 n
    rw [hcons]
    refine Iff.trans (and_congr_left' (hlaw s i h0 hl hw.1)) (and_congr_right fun hnext => ?_)
    exact ih (hstep s i h0 hw.1) hnext hw.2

end SaasChassis.Lib
