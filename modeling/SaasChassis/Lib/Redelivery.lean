/-
  At-least-once delivery to a machine that drops what it has seen, and last writes. Nothing here
  names a program.

  `fresh key seen is` are the first occurrences, by key, of the inputs not seen before. A machine
  that skips what it has seen refines one that is given each of these once (`fresh_refines`).

  `lastWrite a ws` is a field that holds `a` and is then overwritten by those of `ws` that are
  not `none`. `lastWrite_eq` says when the order of the writes does not matter; `proj_run`
  reads a field of a machine's state as such a sequence of writes.
-/
import SaasChassis.Lib.Runs

namespace SaasChassis.Lib

variable {σ ι κ α : Type}

/-! ## Redelivery -/

section Fresh

variable [DecidableEq κ]

def fresh (key : ι → κ) : (κ → Bool) → List ι → List ι
  | _, [] => []
  | seen, i :: is =>
    if seen (key i) then fresh key seen is
    else i :: fresh key (fun k => seen k || k = key i) is

variable {key : ι → κ} {seen : κ → Bool} {is : List ι}

theorem mem_fresh {i : ι} (h : i ∈ fresh key seen is) : i ∈ is ∧ seen (key i) = false := by
  induction is generalizing seen with
  | nil => exact absurd h List.not_mem_nil
  | cons j is ih =>
    unfold fresh at h
    split at h
    · obtain ⟨hi, hs⟩ := ih h
      exact ⟨List.mem_cons_of_mem _ hi, hs⟩
    next hj =>
      obtain rfl | h := List.mem_cons.mp h
      · exact ⟨List.mem_cons_self, by simpa using hj⟩
      · obtain ⟨hi, hs⟩ := ih h
        exact ⟨List.mem_cons_of_mem _ hi, (Bool.or_eq_false_iff.mp hs).1⟩

theorem exists_fresh {i : ι} (h : i ∈ is) (hs : seen (key i) = false) :
    ∃ j ∈ fresh key seen is, key j = key i := by
  induction is generalizing seen with
  | nil => exact absurd h List.not_mem_nil
  | cons j is ih =>
    unfold fresh
    obtain rfl | h := List.mem_cons.mp h
    · rw [if_neg (by simp [hs])]
      exact ⟨i, List.mem_cons_self, rfl⟩
    · by_cases hj : key i = key j
      · rw [if_neg (by simp [← hj, hs])]
        exact ⟨j, List.mem_cons_self, hj.symm⟩
      · split
        · exact ih h hs
        · obtain ⟨j', hmem, hk⟩ := @ih (fun k => seen k || k = key j) h (by simp [hs, hj])
          exact ⟨j', List.mem_cons_of_mem _ hmem, hk⟩

theorem fresh_keys_nodup (key : ι → κ) (seen : κ → Bool) (is : List ι) :
    ((fresh key seen is).map key).Nodup := by
  induction is generalizing seen with
  | nil => exact List.nodup_nil
  | cons i is ih =>
    unfold fresh
    split
    · exact ih seen
    · rw [List.map_cons, List.nodup_cons]
      refine ⟨?_, ih _⟩
      rw [List.mem_map]
      rintro ⟨j, hj, hk⟩
      have hseen := (mem_fresh hj).2
      simp [hk] at hseen

/-- Of inputs with different keys, the fresh ones are those not seen. -/
theorem fresh_of_nodup (hnd : (is.map key).Nodup) :
    fresh key seen is = is.filter fun i => !seen (key i) := by
  induction is generalizing seen with
  | nil => rfl
  | cons i is ih =>
    rw [List.map_cons, List.nodup_cons] at hnd
    rw [fresh, List.filter_cons]
    cases hi : seen (key i) with
    | true =>
      rw [if_pos rfl, Bool.not_true, if_neg Bool.false_ne_true]
      exact ih hnd.2
    | false =>
      rw [if_neg Bool.false_ne_true, Bool.not_false, if_pos rfl, ih hnd.2]
      congr 1
      refine List.filter_congr fun j hj => ?_
      have hne : key j ≠ key i := fun he => hnd.1 (he ▸ List.mem_map_of_mem hj)
      simp [hne]

/-- A machine that skips what it has seen refines one that is given every input once. -/
theorem fresh_refines {τ : Type} {step : σ → ι → σ} {once : τ → ι → τ} {seenBy : σ → κ → Bool}
    {R : σ → τ → Prop} {C : ι → Prop}
    (hskip : ∀ s i, seenBy s (key i) = true → step s i = s)
    (hseen : ∀ s i, seenBy s (key i) = false →
      ∀ k, seenBy (step s i) k = (seenBy s k || decide (k = key i)))
    (hstep : ∀ s t i, C i → R s t → seenBy s (key i) = false → R (step s i) (once t i))
    {s : σ} {t : τ} (h : R s t) (hc : ∀ i ∈ is, C i) :
    R (run step s is) (run once t (fresh key (seenBy s) is)) := by
  induction is generalizing s t with
  | nil => exact h
  | cons i is ih =>
    rw [List.forall_mem_cons] at hc
    unfold fresh
    show R (run step (step s i) is) _
    cases hi : seenBy s (key i) with
    | true =>
      rw [hskip s i hi, if_pos rfl]
      exact ih h hc.2
    | false =>
      rw [if_neg (by decide), ← funext (hseen s i hi)]
      exact ih (hstep s t i hc.1 h hi) hc.2

end Fresh

/-! ## Last writes -/

def lastWrite (a : α) (ws : List (Option α)) : α := ws.foldl (fun a w => w.getD a) a

theorem lastWrite_concat (a : α) (ws : List (Option α)) (v : α) :
    lastWrite a (ws ++ [some v]) = v := by
  rw [lastWrite, List.foldl_append]
  rfl

/-- Writes of the value that is there leave it there. -/
theorem lastWrite_self {a : α} {ws : List (Option α)} (h : ∀ w, some w ∈ ws → w = a) :
    lastWrite a ws = a := by
  induction ws with
  | nil => rfl
  | cons w ws ih =>
    have hrest := ih fun v hv => h v (List.mem_cons_of_mem _ hv)
    cases w with
    | none => exact hrest
    | some v =>
      obtain rfl := h v List.mem_cons_self
      exact hrest

theorem lastWrite_of_mem {a v : α} {ws : List (Option α)} (hv : some v ∈ ws)
    (h : ∀ w, some w ∈ ws → w = v) : lastWrite a ws = v := by
  induction ws generalizing a with
  | nil => exact absurd hv List.not_mem_nil
  | cons w ws ih =>
    have hrest : ∀ w, some w ∈ ws → w = v := fun w hw => h w (List.mem_cons_of_mem _ hw)
    cases w with
    | none => exact ih (by simpa using hv) hrest
    | some w =>
      obtain rfl := h w List.mem_cons_self
      exact lastWrite_self hrest

/-- Two sequences of writes that agree, and that both write something or both nothing. -/
theorem lastWrite_eq {a : α} {ws vs : List (Option α)}
    (hagree : ∀ w v, some w ∈ ws → some v ∈ vs → w = v)
    (hsome : (∃ w, some w ∈ ws) ↔ ∃ v, some v ∈ vs) : lastWrite a ws = lastWrite a vs := by
  by_cases h : ∃ w, some w ∈ ws
  · obtain ⟨w, hw⟩ := h
    obtain ⟨v, hv⟩ := hsome.mp ⟨w, hw⟩
    obtain rfl := hagree w v hw hv
    rw [lastWrite_of_mem hw fun w' hw' => hagree w' w hw' hv,
      lastWrite_of_mem hv fun v' hv' => (hagree w v' hw hv').symm]
  · rw [lastWrite_self fun w hw => absurd ⟨w, hw⟩ h,
      lastWrite_self fun v hv => absurd (hsome.mpr ⟨v, hv⟩) h]

/-- A field that every step overwrites or leaves alone. -/
theorem proj_run {step : σ → ι → σ} {proj : σ → α} {field : ι → Option α}
    (h : ∀ s i, proj (step s i) = (field i).getD (proj s)) (s : σ) (is : List ι) :
    proj (run step s is) = lastWrite (proj s) (is.map field) := by
  induction is generalizing s with
  | nil => rfl
  | cons i is ih =>
    show proj (run step (step s i) is) = lastWrite ((field i).getD (proj s)) (is.map field)
    rw [ih, h]

end SaasChassis.Lib
