/-
  One program run twice, from two states in a relation. Nothing here names a program.

  `Coupled R x`: under the same faults both runs have the same outcome after the same number of
  calls, and end in related states. One rule for each way to build a program. A relation may hold
  a fact about either state, and what a query finds in related states may be used by what follows
  (`Coupled.query_bind`).
-/
import SaasChassis.Lib.Faults

namespace SaasChassis.Lib.Faulty

variable {σ ε α β : Type}

/-- Two runs that agree in all but the state, with the states related. -/
def SameRun (R : σ → σ → Prop) (r r' : Except ε α × ℕ × σ) : Prop :=
  r'.1 = r.1 ∧ r'.2.1 = r.2.1 ∧ R r.2.2 r'.2.2

def Coupled (R : σ → σ → Prop) (x : Faulty σ ε α) : Prop :=
  ∀ fault n s u, R s u → SameRun R (x fault n s) (x fault n u)

namespace Coupled

variable {R : σ → σ → Prop} {x : Faulty σ ε α}

theorem pure (a : α) : Coupled R (Pure.pure a : Faulty σ ε α) := fun _ _ _ _ h => ⟨rfl, rfl, h⟩

theorem throw (e : ε) : Coupled R (Faulty.throw e : Faulty σ ε α) := fun _ _ _ _ h => ⟨rfl, rfl, h⟩

theorem effect {f : σ → σ} (h : ∀ s u, R s u → R (f s) (f u)) :
    Coupled R (Faulty.effect f : Faulty σ ε Unit) := fun _ _ s u hsu => ⟨rfl, rfl, h s u hsu⟩

theorem call {f : σ → α × σ} (h : ∀ s u, R s u → (f u).1 = (f s).1 ∧ R (f s).2 (f u).2) :
    Coupled R (Faulty.call f : Faulty σ ε α) := by
  intro fault n s u hsu
  cases hn : fault n with
  | some e =>
    rw [call_error f hn, call_error f hn]
    exact ⟨rfl, rfl, hsu⟩
  | none =>
    rw [call_ok f hn, call_ok f hn]
    exact ⟨congrArg Except.ok (h s u hsu).1, rfl, (h s u hsu).2⟩

theorem query {f : σ → α} (h : ∀ s u, R s u → f u = f s) :
    Coupled R (Faulty.query f : Faulty σ ε α) := call fun s u hsu => ⟨h s u hsu, hsu⟩

theorem write {f : σ → σ} (h : ∀ s u, R s u → R (f s) (f u)) :
    Coupled R (Faulty.write f : Faulty σ ε Unit) := call fun s u hsu => ⟨rfl, h s u hsu⟩

theorem bind {f : α → Faulty σ ε β} (hx : Coupled R x) (hf : ∀ a, Coupled R (f a)) :
    Coupled R (x >>= f) := by
  intro fault n s u hsu
  obtain ⟨hout, hcalls, hrel⟩ := hx fault n s u hsu
  rcases hs : x fault n s with ⟨e | a, m, s'⟩
  · rw [hs] at hout hcalls hrel
    rw [bind_error f hs, bind_error f (show x fault n u = (.error e, m, (x fault n u).2.2) from
      Prod.ext hout (Prod.ext hcalls rfl))]
    exact ⟨rfl, rfl, hrel⟩
  · rw [hs] at hout hcalls hrel
    rw [bind_ok f hs, bind_ok f (show x fault n u = (.ok a, m, (x fault n u).2.2) from
      Prod.ext hout (Prod.ext hcalls rfl))]
    exact hf a fault m s' _ hrel

/-- What a query finds in related states. -/
theorem query_bind {f : σ → α} {k : α → Faulty σ ε β} {Q : α → Prop}
    (h : ∀ s u, R s u → f u = f s ∧ Q (f s)) (hk : ∀ a, Q a → Coupled R (k a)) :
    Coupled R (Faulty.query f >>= k) := by
  intro fault n s u hsu
  cases hn : fault n with
  | some e =>
    have hfail : ∀ t, (Faulty.query f >>= k) fault n t = (.error e, n + 1, t) :=
      fun t => bind_error k (call_error _ hn t)
    rw [hfail, hfail]
    exact ⟨rfl, rfl, hsu⟩
  | none =>
    have hread : ∀ t, (Faulty.query f >>= k) fault n t = k (f t) fault (n + 1) t :=
      fun t => bind_ok k (call_ok _ hn t)
    obtain ⟨hsame, hq⟩ := h s u hsu
    rw [hread, hread, hsame]
    exact hk _ hq fault (n + 1) s u hsu

theorem tryCatch {handler : ε → Faulty σ ε α} (hx : Coupled R x)
    (hh : ∀ e, Coupled R (handler e)) : Coupled R (x.tryCatch handler) := by
  intro fault n s u hsu
  obtain ⟨hout, hcalls, hrel⟩ := hx fault n s u hsu
  rcases hs : x fault n s with ⟨e | a, m, s'⟩
  · rw [hs] at hout hcalls hrel
    rw [tryCatch_error handler hs, tryCatch_error handler
      (show x fault n u = (.error e, m, (x fault n u).2.2) from
        Prod.ext hout (Prod.ext hcalls rfl))]
    exact hh e fault m s' _ hrel
  · rw [hs] at hout hcalls hrel
    rw [tryCatch_ok handler hs, tryCatch_ok handler
      (show x fault n u = (.ok a, m, (x fault n u).2.2) from
        Prod.ext hout (Prod.ext hcalls rfl))]
    exact ⟨rfl, rfl, hrel⟩

end Coupled

end SaasChassis.Lib.Faulty
