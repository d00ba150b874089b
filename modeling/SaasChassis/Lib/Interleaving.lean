/-
  Threads that take turns on a shared state, one atomic step at a time. Nothing here names a
  program.

  `next s t` is the step of thread `t` at shared state `s`: the state it leaves and what the
  thread goes on as. A schedule is a list of thread numbers, and `run (Pool.step next)` follows
  it: any order, any number of threads.

  `Pool.Holds J A` is an invariant in two parts, `J` of the shared state and `A` of each thread
  against it. Its rule (`Holds.step`, `Holds.run`): the thread that moves keeps `J` and its own
  part, and no other thread's part is disturbed. `run_measure` counts the steps a thread still has
  to take; `run_replicate` is the thread that is not interrupted.
-/
import SaasChassis.Lib.Runs

namespace SaasChassis.Lib

/-- A shared state and the threads that work on it. -/
structure Pool (σ τ : Type) where
  shared : σ
  threads : List τ

namespace Pool

variable {σ τ : Type} {next : σ → τ → σ × τ}

/-- Thread `k` takes its next step; a number without a thread changes nothing. -/
def step (next : σ → τ → σ × τ) (p : Pool σ τ) (k : Nat) : Pool σ τ :=
  match p.threads[k]? with
  | some t => ⟨(next p.shared t).1, p.threads.set k (next p.shared t).2⟩
  | none => p

theorem step_some {p : Pool σ τ} {k : Nat} {t : τ} (h : p.threads[k]? = some t) :
    p.step next k = ⟨(next p.shared t).1, p.threads.set k (next p.shared t).2⟩ := by
  simp only [step, h]

theorem step_none {p : Pool σ τ} {k : Nat} (h : p.threads[k]? = none) : p.step next k = p := by
  simp only [step, h]

/-- The threads that do not move stay. -/
theorem mem_step_of_ne {p : Pool σ τ} {k : Nat} {t u : τ} (h : p.threads[k]? = some t)
    (hu : u ∈ p.threads) (hne : u ≠ t) : u ∈ (p.step next k).threads := by
  obtain ⟨j, hj⟩ := List.mem_iff_getElem?.mp hu
  rw [step_some h]
  refine List.mem_iff_getElem?.mpr ⟨j, ?_⟩
  rw [List.getElem?_set_ne, hj]
  rintro rfl
  exact hne (Option.some.inj (hj.symm.trans h))

theorem step_getElem? {p : Pool σ τ} {k j : Nat} {t : τ} (h : p.threads[j]? = some t) :
    (p.step next k).threads[j]? = some (if k = j then (next p.shared t).2 else t) := by
  by_cases hkj : k = j
  · subst hkj
    rw [step_some h, if_pos rfl, List.getElem?_set_self (List.getElem?_eq_some_iff.mp h).1]
  · rw [if_neg hkj]
    cases hk : p.threads[k]? with
    | none => rw [step_none hk, h]
    | some u => rw [step_some hk, List.getElem?_set_ne hkj, h]

/-- A count of threads changes by the thread that moves. -/
theorem countP_step {p : Pool σ τ} {k : Nat} {t : τ} (h : p.threads[k]? = some t) (q : τ → Bool) :
    (p.step next k).threads.countP q + (if q t then 1 else 0) =
      p.threads.countP q + (if q (next p.shared t).2 then 1 else 0) := by
  obtain ⟨hk, rfl⟩ := List.getElem?_eq_some_iff.mp h
  have hle : (if q p.threads[k] then 1 else 0) ≤ p.threads.countP q :=
    List.boole_getElem_le_countP hk
  rw [step_some h, List.countP_set hk]
  omega

/-- `C` holds of the step thread `k` is about to take. -/
def OnStep (C : σ → τ → Prop) (p : Pool σ τ) (k : Nat) : Prop :=
  ∀ t, p.threads[k]? = some t → C p.shared t

/-! ## Invariants -/

structure Holds (J : σ → Prop) (A : σ → τ → Prop) (p : Pool σ τ) : Prop where
  shared : J p.shared
  threads : ∀ t ∈ p.threads, A p.shared t

variable {J : σ → Prop} {A C : σ → τ → Prop}

theorem Holds.step
    (hnext : ∀ s t, J s → A s t → C s t →
      J (next s t).1 ∧ A (next s t).1 (next s t).2 ∧ ∀ u, A s u → A (next s t).1 u)
    {p : Pool σ τ} (h : p.Holds J A) {k : Nat} (hc : p.OnStep C k) :
    (p.step next k).Holds J A := by
  cases hk : p.threads[k]? with
  | none =>
    rw [step_none hk]
    exact h
  | some t =>
    obtain ⟨hj, hown, hother⟩ := hnext p.shared t h.shared (h.threads t (List.mem_of_getElem? hk))
      (hc t hk)
    rw [step_some hk]
    refine ⟨hj, fun u hu => ?_⟩
    rcases List.mem_or_eq_of_mem_set hu with hu | rfl
    · exact hother u (h.threads u hu)
    · exact hown

theorem Holds.run
    (hnext : ∀ s t, J s → A s t → C s t →
      J (next s t).1 ∧ A (next s t).1 (next s t).2 ∧ ∀ u, A s u → A (next s t).1 u)
    {p : Pool σ τ} (h : p.Holds J A) {schedule : List Nat}
    (hc : StepsSatisfy (Pool.step next) (OnStep C) p schedule) :
    (Lib.run (Pool.step next) p schedule).Holds J A :=
  run_invariant_of (fun _ _ hp hk => hp.step hnext hk) h hc

/-! ## Progress -/

/-- What a thread's own steps count down has gone down by as many as it has taken. -/
theorem run_measure {m : τ → Nat} (hm : ∀ s t, m (next s t).2 ≤ m t - 1) {p : Pool σ τ} {k : Nat}
    {t : τ} (h : p.threads[k]? = some t) (schedule : List Nat) :
    ∃ t', (Lib.run (Pool.step next) p schedule).threads[k]? = some t' ∧
      m t' ≤ m t - schedule.count k := by
  induction schedule generalizing p t with
  | nil => exact ⟨t, h, Nat.le_refl _⟩
  | cons j schedule ih =>
    obtain ⟨t', ht', hle⟩ := ih (step_getElem? h)
    refine ⟨t', ht', Nat.le_trans hle ?_⟩
    by_cases hj : j = k
    · have hown := hm p.shared t
      rw [if_pos hj, hj, List.count_cons_self]
      omega
    · have hcount : (j :: schedule).count k = schedule.count k := List.count_cons_of_ne hj
      exact Nat.le_of_eq (by rw [if_neg hj, hcount])

/-! ## Without interruption -/

/-- `n` steps of one thread, with nothing in between. -/
def alone (next : σ → τ → σ × τ) : Nat → σ → τ → σ × τ
  | 0, s, t => (s, t)
  | n + 1, s, t => alone next n (next s t).1 (next s t).2

theorem run_replicate (n : Nat) {p : Pool σ τ} {k : Nat} {t : τ} (h : p.threads[k]? = some t) :
    Lib.run (Pool.step next) p (List.replicate n k) =
      ⟨(alone next n p.shared t).1, p.threads.set k (alone next n p.shared t).2⟩ := by
  induction n generalizing p t with
  | zero =>
    obtain ⟨hk, rfl⟩ := List.getElem?_eq_some_iff.mp h
    show p = ⟨p.shared, p.threads.set k p.threads[k]⟩
    rw [List.set_getElem_self]
  | succ n ih =>
    have hk : k < p.threads.length := (List.getElem?_eq_some_iff.mp h).1
    show Lib.run (Pool.step next) (p.step next k) (List.replicate n k) = _
    rw [step_some h, ih (List.getElem?_set_self hk), List.set_set]
    rfl

end Pool

end SaasChassis.Lib
