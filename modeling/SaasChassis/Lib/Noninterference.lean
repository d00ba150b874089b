/-
  Machines with answers that several parties share, and what one party makes of them. Nothing here
  names a program.

  `view` is the part of the state that belongs to the party. `Unwinds`: the inputs of the others
  leave the view alone, and an own input does to the view, with the same answer, what it would do if
  the view were the whole state. Then a run of everybody's inputs shows the party the state and the
  answers of the run of its own inputs alone (`Unwinds.run`, `Unwinds.answerLog`). The conditions
  may need an invariant and a condition on each step. A machine that unwinds still does so behind a
  front that answers some inputs without the state (`Unwinds.behind`).
-/
import SaasChassis.Lib.Runs

namespace SaasChassis.Lib

variable {σ ι κ ω χ : Type}

/-- The state of a machine that also answers, after an input. -/
def afterInput (step : σ → ι → σ × ω) (s : σ) (i : ι) : σ := (step s i).1

/-- What a run answers, each answer with its input. -/
def answerLog (step : σ → ι → σ × ω) : σ → List ι → List (ι × ω)
  | _, [] => []
  | s, i :: is => (i, (step s i).2) :: answerLog step (step s i).1 is

theorem run_afterInput_cons (step : σ → ι → σ × ω) (s : σ) (i : ι) (is : List ι) :
    run (afterInput step) s (i :: is) = run (afterInput step) (step s i).1 is := rfl

theorem answerLog_cons (step : σ → ι → σ × ω) (s : σ) (i : ι) (is : List ι) :
    answerLog step s (i :: is) = (i, (step s i).2) :: answerLog step (step s i).1 is := rfl

/-- The machine behind a front that answers some inputs itself and hands on the others; `wrap` makes
    an answer of the machine one of both. -/
def behind (front : κ → χ ⊕ ι) (wrap : ω → χ) (step : σ → ι → σ × ω) (s : σ) (k : κ) : σ × χ :=
  match front k with
  | .inl a => (s, a)
  | .inr i => ((step s i).1, wrap (step s i).2)

section Behind

variable {front : κ → χ ⊕ ι} {wrap : ω → χ} {step : σ → ι → σ × ω} {k : κ}

theorem behind_inl {a : χ} (h : front k = .inl a) (s : σ) :
    behind front wrap step s k = (s, a) := by
  rw [behind, h]

theorem behind_inr {i : ι} (h : front k = .inr i) (s : σ) :
    behind front wrap step s k = ((step s i).1, wrap (step s i).2) := by
  rw [behind, h]

/-- Inputs the front cannot tell apart lead the machine through one run, with the same answers. -/
theorem run_behind_congr {ks ks' : List κ}
    (h : List.Forall₂ (fun k k' => front k' = front k) ks ks') (s : σ) :
    run (afterInput (behind front wrap step)) s ks' =
        run (afterInput (behind front wrap step)) s ks ∧
      (answerLog (behind front wrap step) s ks').map Prod.snd =
        (answerLog (behind front wrap step) s ks).map Prod.snd := by
  induction h generalizing s with
  | nil => exact ⟨rfl, rfl⟩
  | @cons k k' ks ks' hk hks ih =>
    have hstep : behind front wrap step s k' = behind front wrap step s k := by
      rw [behind, behind, hk]
    obtain ⟨hrun, hlog⟩ := ih (behind front wrap step s k).1
    constructor
    · rw [run_afterInput_cons, run_afterInput_cons, hstep, hrun]
    · rw [answerLog_cons, answerLog_cons, List.map_cons, List.map_cons, hstep, hlog]

end Behind

/-- What every step that keeps `I` answers. -/
theorem answerLog_forall {step : σ → ι → σ × ω} {I : σ → Prop} {C : ι → Prop} {P : ι → ω → Prop}
    (hkeep : ∀ s i, I s → C i → I (step s i).1) (hp : ∀ s i, I s → C i → P i (step s i).2) {s : σ}
    (h0 : I s) {is : List ι} (hc : ∀ i ∈ is, C i) {a : ι × ω} (ha : a ∈ answerLog step s is) :
    P a.1 a.2 := by
  induction is generalizing s with
  | nil => cases ha
  | cons i is ih =>
    obtain ⟨hi, his⟩ := List.forall_mem_cons.mp hc
    obtain rfl | hrest := List.mem_cons.mp ha
    · exact hp s i h0 hi
    · exact ih (hkeep s i h0 hi) his hrest

structure Unwinds (step : σ → ι → σ × ω) (mine : ι → Bool) (view : σ → σ) (I : σ → Prop)
    (C : σ → ι → Prop) : Prop where
  keeps : ∀ s i, I s → C s i → I (step s i).1
  others : ∀ s i, I s → C s i → mine i = false → view (step s i).1 = view s
  own : ∀ s i, I s → C s i → mine i = true → step (view s) i = (view (step s i).1, (step s i).2)

namespace Unwinds

variable {step : σ → ι → σ × ω} {mine : ι → Bool} {view : σ → σ} {I : σ → Prop}
  {C : σ → ι → Prop}

theorem run (h : Unwinds step mine view I C) {s : σ} (h0 : I s) {is : List ι}
    (hc : StepsSatisfy (afterInput step) C s is) :
    view (Lib.run (afterInput step) s is) =
      Lib.run (afterInput step) (view s) (is.filter mine) := by
  induction is generalizing s with
  | nil => rfl
  | cons i is ih =>
    have hrest := ih (h.keeps s i h0 hc.1) hc.2
    rw [run_afterInput_cons]
    by_cases hi : mine i = true
    · rw [List.filter_cons_of_pos hi, run_afterInput_cons, h.own s i h0 hc.1 hi]
      exact hrest
    · rw [List.filter_cons_of_neg hi, ← h.others s i h0 hc.1 (Bool.eq_false_iff.mpr hi)]
      exact hrest

theorem answerLog (h : Unwinds step mine view I C) {s : σ} (h0 : I s) {is : List ι}
    (hc : StepsSatisfy (afterInput step) C s is) :
    (Lib.answerLog step s is).filter (fun a => mine a.1) =
      Lib.answerLog step (view s) (is.filter mine) := by
  induction is generalizing s with
  | nil => rfl
  | cons i is ih =>
    have hrest := ih (h.keeps s i h0 hc.1) hc.2
    by_cases hi : mine i = true
    · simp only [answerLog_cons, List.filter_cons, hi, if_true, h.own s i h0 hc.1 hi, hrest]
    · rw [Bool.not_eq_true] at hi
      simp only [answerLog_cons, List.filter_cons, hi, Bool.false_eq_true, if_false]
      rw [hrest, h.others s i h0 hc.1 hi]

/-- A front that answers without the state, and hands on what belongs to a party for that party. -/
theorem behind (h : Unwinds step mine view I C) {front : κ → χ ⊕ ι} (wrap : ω → χ)
    {mine' : κ → Bool} {C' : σ → κ → Prop}
    (hfront : ∀ s k i, C' s k → front k = .inr i → mine i = mine' k ∧ C s i) :
    Unwinds (Lib.behind front wrap step) mine' view I C' where
  keeps s k hs hk := by
    cases hf : front k with
    | inl a => rwa [behind_inl hf]
    | inr i =>
      rw [behind_inr hf]
      exact h.keeps s i hs (hfront s k i hk hf).2
  others s k hs hk hmine := by
    cases hf : front k with
    | inl a => rw [behind_inl hf]
    | inr i =>
      obtain ⟨hi, hc⟩ := hfront s k i hk hf
      rw [behind_inr hf]
      exact h.others s i hs hc (hi.trans hmine)
  own s k hs hk hmine := by
    cases hf : front k with
    | inl a => rw [behind_inl hf, behind_inl hf]
    | inr i =>
      obtain ⟨hi, hc⟩ := hfront s k i hk hf
      rw [behind_inr hf, behind_inr hf, h.own s i hs hc (hi.trans hmine)]

end Unwinds

end SaasChassis.Lib
