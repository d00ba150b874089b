/-
  Programs whose calls to stores may fail. Nothing here names a program.

  A `Faulty` program runs on a state and a schedule of faults: the error that the i-th call of
  the run raises, if any. A call that fails throws and writes nothing.

  `Runs x s n a t` says all about a program that throws for no other reason: it makes `n` calls
  and ends with the value `a` in the state `t`, unless one of the calls fails, and then it
  stops there with that error. `Keeps I x` is an invariant over all schedules. `Reads x k f` says
  that the program computes `f` of the state in `k` calls and writes nothing. `Strict x`: it catches
  nothing, so what succeeds is what happens without faults. Each has one rule for each way to build
  a program.
-/
import Mathlib.Data.Nat.Notation
import Mathlib.Tactic.Common

namespace SaasChassis.Lib

variable {σ ε α β : Type}

/-- The error of each call, by its number in the run. -/
abbrev Faults (ε : Type) := ℕ → Option ε

/-- From the number of calls made so far and a state to the outcome, and both afterwards. -/
def Faulty (σ ε α : Type) : Type := Faults ε → ℕ → σ → Except ε α × ℕ × σ

namespace Faulty

def noFaults : Faults ε := fun _ => none

instance : Monad (Faulty σ ε) where
  pure a := fun _ n s => (.ok a, n, s)
  bind x f := fun fault n s =>
    match x fault n s with
    | (.ok a, n, s) => f a fault n s
    | (.error e, n, s) => (.error e, n, s)

/-- One call. -/
def call (f : σ → α × σ) : Faulty σ ε α := fun fault n s =>
  match fault n with
  | some e => (.error e, n + 1, s)
  | none => (.ok (f s).1, n + 1, (f s).2)

def query (f : σ → α) : Faulty σ ε α := call fun s => (f s, s)

def write (f : σ → σ) : Faulty σ ε Unit := call fun s => ((), f s)

/-- A call that the state may refuse, and then it writes nothing either. -/
def execute (f : σ → Except ε σ) : Faulty σ ε Unit := fun fault n s =>
  match fault n with
  | some e => (.error e, n + 1, s)
  | none =>
    match f s with
    | .error e => (.error e, n + 1, s)
    | .ok t => (.ok (), n + 1, t)

def throw (e : ε) : Faulty σ ε α := fun _ n s => (.error e, n, s)

/-- A step that is no call and cannot fail. -/
def effect (f : σ → σ) : Faulty σ ε Unit := fun _ n s => (.ok (), n, f s)

def tryCatch (x : Faulty σ ε α) (handler : ε → Faulty σ ε α) : Faulty σ ε α := fun fault n s =>
  match x fault n s with
  | (.ok a, n, s) => (.ok a, n, s)
  | (.error e, n, s) => handler e fault n s

/-- Between two calls. -/
def bracket (x : Faulty σ ε α) : Faulty σ ε α := do
  query fun _ => ()
  let a ← x
  query fun _ => ()
  return a

/-- Between the calls that begin and commit it. An error undoes all its writes. -/
def transaction (x : Faulty σ ε α) : Faulty σ ε α := fun fault n s =>
  match bracket x fault n s with
  | (.error e, n, _) => (.error e, n, s)
  | (.ok a, n, t) => (.ok a, n, t)

/-! ## Evaluation -/

section Eval

variable {fault : Faults ε} {m n : ℕ} {s t : σ}

theorem bind_ok {x : Faulty σ ε α} {a : α} (f : α → Faulty σ ε β)
    (h : x fault m s = (.ok a, n, t)) : (x >>= f) fault m s = f a fault n t := by
  show (match x fault m s with | (.ok a, n, s) => f a fault n s
                               | (.error e, n, s) => (.error e, n, s)) = _
  rw [h]

theorem bind_error {x : Faulty σ ε α} {e : ε} (f : α → Faulty σ ε β)
    (h : x fault m s = (.error e, n, t)) : (x >>= f) fault m s = (.error e, n, t) := by
  show (match x fault m s with | (.ok a, n, s) => f a fault n s
                               | (.error e, n, s) => (.error e, n, s)) = _
  rw [h]

theorem call_ok (f : σ → α × σ) (h : fault m = none) (s : σ) :
    Faulty.call f fault m s = (.ok (f s).1, m + 1, (f s).2) := by
  rw [call, h]

theorem call_error (f : σ → α × σ) {e : ε} (h : fault m = some e) (s : σ) :
    Faulty.call f fault m s = (.error e, m + 1, s) := by
  rw [call, h]

theorem write_state (f : σ → σ) (fault : Faults ε) (m : ℕ) (s : σ) :
    (write f fault m s).2.2 = if fault m = none then f s else s := by
  cases hm : fault m with
  | none => exact congrArg (·.2.2) (call_ok (fun s => ((), f s)) hm s)
  | some e => exact congrArg (·.2.2) (call_error (fun s => ((), f s)) hm s)

theorem execute_ok {f : σ → Except ε σ} (h : fault m = none) (hf : f s = .ok t) :
    execute f fault m s = (.ok (), m + 1, t) := by
  rw [execute, h]
  simp only [hf]

theorem tryCatch_ok {x : Faulty σ ε α} {a : α} (handler : ε → Faulty σ ε α)
    (h : x fault m s = (.ok a, n, t)) : x.tryCatch handler fault m s = (.ok a, n, t) := by
  rw [tryCatch, h]

theorem tryCatch_error {x : Faulty σ ε α} {e : ε} (handler : ε → Faulty σ ε α)
    (h : x fault m s = (.error e, n, t)) : x.tryCatch handler fault m s = handler e fault n t := by
  rw [tryCatch, h]

theorem bind_assoc {γ : Type} (x : Faulty σ ε α) (f : α → Faulty σ ε β) (g : β → Faulty σ ε γ) :
    (x >>= f) >>= g = x >>= fun a => f a >>= g := by
  funext fault n s
  rcases hx : x fault n s with ⟨e | a, m, t⟩
  · rw [bind_error _ hx, bind_error g (bind_error f hx)]
  · rw [bind_ok _ hx]
    rcases hf : f a fault m t with ⟨e | b, k, u⟩
    · rw [bind_error g ((bind_ok f hx).trans hf), bind_error g hf]
    · rw [bind_ok g ((bind_ok f hx).trans hf), bind_ok g hf]

end Eval

/-! ## Without faults -/

section NoFaults

variable {n : ℕ} {s : σ}

@[simp] theorem pure_noFaults (a : α) :
    (Pure.pure a : Faulty σ ε α) noFaults n s = (.ok a, n, s) := rfl

@[simp] theorem query_bind_noFaults (f : σ → α) (k : α → Faulty σ ε β) :
    (query f >>= k) noFaults n s = k (f s) noFaults (n + 1) s := rfl

@[simp] theorem write_bind_noFaults (f : σ → σ) (k : Unit → Faulty σ ε β) :
    (write f >>= k) noFaults n s = k () noFaults (n + 1) (f s) := rfl

@[simp] theorem write_noFaults (f : σ → σ) :
    (write f : Faulty σ ε Unit) noFaults n s = (.ok (), n + 1, f s) := rfl

@[simp] theorem effect_bind_noFaults (f : σ → σ) (k : Unit → Faulty σ ε β) :
    (effect f >>= k) noFaults n s = k () noFaults n (f s) := rfl

theorem execute_bind_noFaults {f : σ → Except ε σ} {t : σ} (h : f s = .ok t)
    (k : Unit → Faulty σ ε β) : (execute f >>= k) noFaults n s = k () noFaults (n + 1) t :=
  bind_ok k (execute_ok rfl h)

theorem execute_bind_refused {f : σ → Except ε σ} {e : ε} (h : f s = .error e)
    (k : Unit → Faulty σ ε β) : (execute f >>= k) noFaults n s = (.error e, n + 1, s) := by
  refine bind_error k ?_
  unfold execute noFaults
  simp only [h]

end NoFaults

/-! ## Runs -/

/-- No call from the `m`-th up to the `n`-th, which is left out, fails. -/
def Clear (fault : Faults ε) (m n : ℕ) : Prop := ∀ i, m ≤ i → i < n → fault i = none

theorem clear_succ {fault : Faults ε} {k : ℕ} :
    Clear fault 0 (k + 1) ↔ Clear fault 0 k ∧ fault k = none := by
  constructor
  · exact fun h => ⟨fun i hi hlt => h i hi (by omega), h k k.zero_le k.lt_succ_self⟩
  · rintro ⟨h, hk⟩ i hi hlt
    obtain hlt | rfl : i < k ∨ i = k := by omega
    · exact h i hi hlt
    · exact hk

theorem clear_add {fault : Faults ε} {m n : ℕ} :
    Clear fault 0 (m + n) ↔ Clear fault 0 m ∧ Clear fault m (m + n) := by
  constructor
  · exact fun h => ⟨fun i hi hlt => h i hi (by omega), fun i _ hlt => h i i.zero_le hlt⟩
  · rintro ⟨hfirst, hrest⟩ i hi hlt
    obtain hlt' | hge : i < m ∨ m ≤ i := by omega
    · exact hfirst i hi hlt'
    · exact hrest i hge hlt

/-- The `i`-th call is the first from the `m`-th on that fails. -/
def FailsFirst (fault : Faults ε) (m i : ℕ) (e : ε) : Prop :=
  m ≤ i ∧ Clear fault m i ∧ fault i = some e

theorem FailsFirst.unique {fault : Faults ε} {m i j : ℕ} {e e' : ε} (hi : FailsFirst fault m i e)
    (hj : FailsFirst fault m j e') : i = j := by
  obtain ⟨him, hic, hie⟩ := hi
  obtain ⟨hjm, hjc, hje⟩ := hj
  obtain hlt | rfl | hgt := Nat.lt_trichotomy i j
  · rw [hjc i him hlt] at hie
    cases hie
  · rfl
  · rw [hic j hjm hgt] at hje
    cases hje

structure Runs (x : Faulty σ ε α) (s : σ) (n : ℕ) (a : α) (t : σ) : Prop where
  ok : ∀ fault m, Clear fault m (m + n) → x fault m s = (.ok a, m + n, t)
  error : ∀ fault m i e, FailsFirst fault m i e → i < m + n →
    ∃ u, x fault m s = (.error e, i + 1, u)

namespace Runs

theorem pure (s : σ) (a : α) : Runs (Pure.pure a : Faulty σ ε α) s 0 a s :=
  { ok := fun _ _ _ => rfl
    error := fun _ m i _ h hi => absurd h.1 (Nat.not_le.mpr (by simpa using hi)) }

theorem effect (f : σ → σ) (s : σ) : Runs (Faulty.effect f : Faulty σ ε Unit) s 0 () (f s) :=
  { ok := fun _ _ _ => rfl
    error := fun _ m i _ h hi => absurd h.1 (Nat.not_le.mpr (by simpa using hi)) }

theorem call (f : σ → α × σ) (s : σ) :
    Runs (Faulty.call f : Faulty σ ε α) s 1 (f s).1 (f s).2 := by
  constructor
  · intro fault m h
    exact call_ok f (h m (Nat.le_refl m) (Nat.lt_succ_self m)) s
  · intro fault m i e ⟨hm, _, hi⟩ hlt
    obtain rfl : i = m := by omega
    exact ⟨s, call_error f hi s⟩

theorem query (f : σ → α) (s : σ) : Runs (Faulty.query f : Faulty σ ε α) s 1 (f s) s :=
  call (fun s => (f s, s)) s

theorem write (f : σ → σ) (s : σ) : Runs (Faulty.write f : Faulty σ ε Unit) s 1 () (f s) :=
  call (fun s => ((), f s)) s

theorem bind {x : Faulty σ ε α} {f : α → Faulty σ ε β} {s t u : σ} {n k : ℕ} {a : α} {b : β}
    (hx : Runs x s n a t) (hf : Runs (f a) t k b u) : Runs (x >>= f) s (n + k) b u := by
  constructor
  · intro fault m h
    have hfirst := hx.ok fault m fun i hm hi => h i hm (by omega)
    have hrest := hf.ok fault (m + n) fun i hm hi => h i (by omega) (by omega)
    rw [bind_ok f hfirst, ← Nat.add_assoc]
    exact hrest
  · intro fault m i e ⟨hm, hclear, hi⟩ hlt
    by_cases hin : i < m + n
    · obtain ⟨v, hv⟩ := hx.error fault m i e ⟨hm, hclear, hi⟩ hin
      exact ⟨v, bind_error f hv⟩
    · -- the first program is through before the failing call
      have hfirst := hx.ok fault m fun j hj hjn => hclear j hj (by omega)
      have hlate : FailsFirst fault (m + n) i e :=
        ⟨by omega, fun j hj hji => hclear j (by omega) hji, hi⟩
      obtain ⟨v, hv⟩ := hf.error fault (m + n) i e hlate (by omega)
      exact ⟨v, (bind_ok f hfirst).trans hv⟩

theorem execute {f : σ → Except ε σ} {s t : σ} (hf : f s = .ok t) :
    Runs (Faulty.execute f) s 1 () t := by
  constructor
  · intro fault m h
    exact execute_ok (h m (Nat.le_refl m) (Nat.lt_succ_self m)) hf
  · intro fault m i e ⟨hm, _, hi⟩ hlt
    obtain rfl : i = m := by omega
    refine ⟨s, ?_⟩
    unfold Faulty.execute
    rw [hi]

theorem query_bind {f : σ → α} {k : α → Faulty σ ε β} {s t : σ} {n : ℕ} {b : β}
    (h : Runs (k (f s)) s n b t) : Runs (Faulty.query f >>= k) s (1 + n) b t :=
  (query f s).bind h

theorem write_bind {f : σ → σ} {k : Unit → Faulty σ ε β} {s t : σ} {n : ℕ} {b : β}
    (h : Runs (k ()) (f s) n b t) : Runs (Faulty.write f >>= k) s (1 + n) b t :=
  (write f s).bind h

theorem cast {x : Faulty σ ε α} {s t t' : σ} {n n' : ℕ} {a : α} (h : Runs x s n a t)
    (hn : n = n') (ht : t = t') : Runs x s n' a t' := by
  subst hn ht
  exact h

/-- Either all calls of a run succeed or one is the first to fail. -/
theorem clear_or_failsFirst (fault : Faults ε) (m n : ℕ) :
    Clear fault m (m + n) ∨ ∃ i e, FailsFirst fault m i e ∧ i < m + n := by
  induction n with
  | zero => exact Or.inl fun i hm hi => absurd hm (by omega)
  | succ n ih =>
    obtain hclear | ⟨i, e, hfirst, hi⟩ := ih
    · cases hn : fault (m + n) with
      | none =>
        refine Or.inl fun i hm hi => ?_
        obtain hlt | rfl : i < m + n ∨ i = m + n := by omega
        · exact hclear i hm hlt
        · exact hn
      | some e => exact Or.inr ⟨m + n, e, ⟨by omega, hclear, hn⟩, by omega⟩
    · exact Or.inr ⟨i, e, hfirst, by omega⟩

theorem not_clear {fault : Faults ε} {m n i : ℕ} {e : ε} (h : FailsFirst fault m i e)
    (hi : i < m + n) : ¬ Clear fault m (m + n) := by
  intro hclear
  have hnone := hclear i h.1 hi
  rw [h.2.2] at hnone
  cases hnone

/-- A run has a value exactly when none of its calls fails. -/
theorem isOk_iff {x : Faulty σ ε α} {s t : σ} {n : ℕ} {a : α} (hx : Runs x s n a t)
    (fault : Faults ε) (m : ℕ) : (x fault m s).1.isOk ↔ Clear fault m (m + n) := by
  obtain hclear | ⟨i, e, hfirst, hi⟩ := clear_or_failsFirst fault m n
  · rw [hx.ok fault m hclear]
    exact iff_of_true rfl hclear
  · obtain ⟨u, hu⟩ := hx.error fault m i e hfirst hi
    rw [hu]
    exact iff_of_false nofun (not_clear hfirst hi)

end Runs

/-! ## Invariants -/

/-- Whatever fails, the program keeps `I`. -/
def Keeps (I : σ → Prop) (x : Faulty σ ε α) : Prop :=
  ∀ fault n s, I s → I (x fault n s).2.2

namespace Keeps

variable {I : σ → Prop}

theorem pure (a : α) : Keeps I (Pure.pure a : Faulty σ ε α) := fun _ _ _ h => h

theorem throw (e : ε) : Keeps I (Faulty.throw e : Faulty σ ε α) := fun _ _ _ h => h

theorem effect {f : σ → σ} (hf : ∀ s, I s → I (f s)) :
    Keeps I (Faulty.effect f : Faulty σ ε Unit) :=
  fun _ _ s h => hf s h

theorem call {f : σ → α × σ} (hf : ∀ s, I s → I (f s).2) :
    Keeps I (Faulty.call f : Faulty σ ε α) := by
  intro fault n s h
  cases hn : fault n with
  | some e =>
    rw [call_error f hn]
    exact h
  | none =>
    rw [call_ok f hn]
    exact hf s h

theorem query (f : σ → α) : Keeps I (Faulty.query f : Faulty σ ε α) := call fun _ h => h

theorem write {f : σ → σ} (hf : ∀ s, I s → I (f s)) :
    Keeps I (Faulty.write f : Faulty σ ε Unit) :=
  call hf

theorem bind {x : Faulty σ ε α} {f : α → Faulty σ ε β} (hx : Keeps I x)
    (hf : ∀ a, Keeps I (f a)) : Keeps I (x >>= f) := by
  intro fault n s h
  have hs := hx fault n s h
  rcases hr : x fault n s with ⟨e | a, n', s'⟩
  · rw [bind_error f hr]
    rwa [hr] at hs
  · rw [bind_ok f hr]
    rw [hr] at hs
    exact hf a fault n' s' hs

theorem execute {f : σ → Except ε σ} (hf : ∀ s t, I s → f s = .ok t → I t) :
    Keeps I (Faulty.execute f) := by
  intro fault n s h
  unfold Faulty.execute
  cases fault n with
  | some e => exact h
  | none =>
    cases ht : f s with
    | error e => exact h
    | ok t => exact hf s t h ht

/-- What is read comes from a state with `I`. -/
theorem query_bind {f : σ → α} {k : α → Faulty σ ε β} (h : ∀ s, I s → Keeps I (k (f s))) :
    Keeps I (Faulty.query f >>= k) := by
  intro fault n s hs
  cases hn : fault n with
  | some e =>
    have hrun : (Faulty.query f >>= k) fault n s = (.error e, n + 1, s) :=
      bind_error k (call_error _ hn s)
    rw [hrun]
    exact hs
  | none =>
    have hrun : (Faulty.query f >>= k) fault n s = k (f s) fault (n + 1) s :=
      bind_ok k (call_ok _ hn s)
    rw [hrun]
    exact h s hs fault (n + 1) s hs

theorem tryCatch {x : Faulty σ ε α} {handler : ε → Faulty σ ε α} (hx : Keeps I x)
    (hh : ∀ e, Keeps I (handler e)) : Keeps I (x.tryCatch handler) := by
  intro fault n s h
  have hs := hx fault n s h
  rcases hr : x fault n s with ⟨e | a, n', s'⟩
  · rw [tryCatch_error handler hr]
    rw [hr] at hs
    exact hh e fault n' s' hs
  · rw [tryCatch_ok handler hr]
    rwa [hr] at hs

theorem transaction {x : Faulty σ ε α} (hx : Keeps I x) : Keeps I (Faulty.transaction x) := by
  intro fault n s h
  have hs := bind (query fun _ => ()) (fun _ => bind hx fun a => bind (query fun _ => ())
    fun _ => pure a) fault n s h
  unfold Faulty.transaction bracket
  split
  next => exact h
  next hr =>
    rw [hr] at hs
    exact hs

/-- What only reads goes on from the same state, or throws in it. -/
theorem read {x : Faulty σ ε α} {s : σ} {n : ℕ} {a : α} (hx : Runs x s n a s)
    (hk : Keeps (· = s) x) (fault : Faults ε) (m : ℕ) :
    (Clear fault m (m + n) ∧ x fault m s = (.ok a, m + n, s)) ∨
      (¬ Clear fault m (m + n) ∧ ∃ e k, x fault m s = (.error e, k, s)) := by
  obtain hclear | ⟨i, e, hfirst, hi⟩ := Runs.clear_or_failsFirst fault m n
  · exact Or.inl ⟨hclear, hx.ok fault m hclear⟩
  · obtain ⟨u, hu⟩ := hx.error fault m i e hfirst hi
    have hsame : u = s := by
      have hkept := hk fault m s rfl
      rwa [hu] at hkept
    exact Or.inr ⟨Runs.not_clear hfirst hi, e, i + 1, hsame ▸ hu⟩

end Keeps

/-- `I` is kept as long as the program throws. -/
def KeepsOnError (I : σ → Prop) (x : Faulty σ ε α) : Prop :=
  ∀ fault n s e, I s → (x fault n s).1 = .error e → I (x fault n s).2.2

namespace KeepsOnError

variable {I : σ → Prop}

/-- A call that fails writes nothing, whatever it would have written. -/
theorem call (f : σ → α × σ) : KeepsOnError I (Faulty.call f : Faulty σ ε α) := by
  intro fault n s e h he
  cases hn : fault n with
  | some e' =>
    rw [call_error f hn]
    exact h
  | none =>
    rw [call_ok f hn] at he
    cases he

theorem write (f : σ → σ) : KeepsOnError I (Faulty.write f : Faulty σ ε Unit) := call _

theorem execute (f : σ → Except ε σ) : KeepsOnError I (Faulty.execute f) := by
  intro fault n s e h he
  unfold Faulty.execute at he ⊢
  cases hn : fault n with
  | some e' => exact h
  | none =>
    cases ht : f s with
    | error e' => exact h
    | ok t =>
      simp only [hn, ht] at he
      cases he

theorem of_keeps {x : Faulty σ ε α} (hx : Keeps I x) : KeepsOnError I x :=
  fun fault n s _ h _ => hx fault n s h

/-- A value that is made of what the program has returned. -/
theorem map {x : Faulty σ ε α} (hx : KeepsOnError I x) (g : α → β) :
    KeepsOnError I (x >>= fun a => Pure.pure (g a)) := by
  intro fault n s e h he
  rcases hr : x fault n s with ⟨e' | a, m, t⟩
  · rw [bind_error _ hr]
    have ht := hx fault n s e' h (by rw [hr])
    rwa [hr] at ht
  · rw [bind_ok _ hr] at he
    cases he

/-- What keeps its state as long as it throws either ends as it does without faults or throws in
    the state it started in. -/
theorem outcome {x : Faulty σ ε α} {s t : σ} {n : ℕ} {a : α} (hr : Runs x s n a t)
    (hx : KeepsOnError (· = s) x) (fault : Faults ε) (m : ℕ) :
    (Clear fault m (m + n) ∧ x fault m s = (.ok a, m + n, t)) ∨
      (¬ Clear fault m (m + n) ∧ ∃ e k, x fault m s = (.error e, k, s)) := by
  obtain hclear | ⟨i, e, hfirst, hi⟩ := Runs.clear_or_failsFirst fault m n
  · exact Or.inl ⟨hclear, hr.ok fault m hclear⟩
  · obtain ⟨u, hu⟩ := hr.error fault m i e hfirst hi
    have hsame := hx fault m s e rfl (by rw [hu])
    rw [hu] at hsame
    exact Or.inr ⟨Runs.not_clear hfirst hi, e, i + 1, by rw [hu, ← hsame]⟩

theorem bind {x : Faulty σ ε α} {f : α → Faulty σ ε β} (hx : Keeps I x)
    (hf : ∀ a, KeepsOnError I (f a)) : KeepsOnError I (x >>= f) := by
  intro fault n s e h he
  have hs := hx fault n s h
  rcases hr : x fault n s with ⟨e' | a, n', s'⟩
  · rw [bind_error f hr]
    rwa [hr] at hs
  · rw [bind_ok f hr] at he ⊢
    rw [hr] at hs
    exact hf a fault n' s' e hs he

end KeepsOnError

/-! ## Programs that only read -/

/-- `k` calls that write nothing, and `f` of the state, unless one of the calls fails. -/
def Reads (x : Faulty σ ε α) (k : ℕ) (f : σ → Except ε α) : Prop :=
  ∀ fault m s,
    (∃ a, f s = .ok a ∧ Clear fault m (m + k) ∧ x fault m s = (.ok a, m + k, s)) ∨
    ∃ e n, x fault m s = (.error e, n, s) ∧ (Clear fault m (m + k) → f s = .error e)

/-- The outcome of a guard. -/
def ofExcept : Except ε α → Faulty σ ε α
  | .ok a => Pure.pure a
  | .error e => Faulty.throw e

namespace Reads

theorem query (f : σ → α) : Reads (Faulty.query f : Faulty σ ε α) 1 fun s => .ok (f s) := by
  intro fault m s
  cases hm : fault m with
  | none =>
    refine Or.inl ⟨f s, rfl, fun i hi hlt => ?_, call_ok _ hm s⟩
    obtain rfl : i = m := by omega
    exact hm
  | some e =>
    refine Or.inr ⟨e, m + 1, call_error _ hm s, fun hclear => ?_⟩
    rw [hclear m (Nat.le_refl m) (Nat.lt_succ_self m)] at hm
    cases hm

theorem ofExcept (r : Except ε α) :
    Reads (Faulty.ofExcept r : Faulty σ ε α) 0 fun _ => r := by
  intro fault m s
  cases r with
  | ok a => exact Or.inl ⟨a, rfl, fun i hi hlt => absurd hlt (by omega), rfl⟩
  | error e => exact Or.inr ⟨e, m, rfl, fun _ => rfl⟩

theorem congr {x : Faulty σ ε α} {k k' : ℕ} {f f' : σ → Except ε α} (h : Reads x k f)
    (hk : k = k') (hf : ∀ s, f s = f' s) : Reads x k' f' := by
  obtain rfl : f = f' := funext hf
  exact hk ▸ h

theorem pure (a : α) : Reads (Pure.pure a : Faulty σ ε α) 0 fun _ => .ok a := ofExcept (.ok a)

theorem bind {x : Faulty σ ε α} {g : α → Faulty σ ε β} {k l : ℕ} {f : σ → Except ε α}
    {h : α → σ → Except ε β} (hx : Reads x k f) (hg : ∀ a, Reads (g a) l (h a)) :
    Reads (x >>= g) (k + l) fun s => f s >>= fun a => h a s := by
  intro fault m s
  rcases hx fault m s with ⟨a, hf, hclear, hrun⟩ | ⟨e, n, hrun, herr⟩
  · rcases hg a fault (m + k) s with ⟨b, hb, hclear', hrun'⟩ | ⟨e, n, hrun', herr⟩
    · refine Or.inl ⟨b, ?_, fun i hi hlt => ?_, ?_⟩
      · show (f s >>= fun a => h a s) = .ok b
        rw [hf]
        exact hb
      · by_cases hin : i < m + k
        · exact hclear i hi hin
        · exact hclear' i (by omega) (by omega)
      · rw [bind_ok g hrun, hrun', Nat.add_assoc]
    · refine Or.inr ⟨e, n, (bind_ok g hrun).trans hrun', fun hall => ?_⟩
      show (f s >>= fun a => h a s) = .error e
      rw [hf]
      exact herr fun i hi hlt => hall i (by omega) (by omega)
  · refine Or.inr ⟨e, n, bind_error g hrun, fun hall => ?_⟩
    show (f s >>= fun a => h a s) = .error e
    rw [herr fun i hi hlt => hall i hi (by omega)]
    rfl

end Reads

/-! ## What succeeds -/

/-- A run that ends with a value is the run without faults. -/
def Strict (x : Faulty σ ε α) : Prop :=
  ∀ fault n s a m t, x fault n s = (.ok a, m, t) → x noFaults n s = (.ok a, m, t)

namespace Strict

theorem pure (a : α) : Strict (Pure.pure a : Faulty σ ε α) := fun _ _ _ _ _ _ h => h

theorem throw (e : ε) : Strict (Faulty.throw e : Faulty σ ε α) := fun _ _ _ _ _ _ h => h

theorem effect (f : σ → σ) : Strict (Faulty.effect f : Faulty σ ε Unit) := fun _ _ _ _ _ _ h => h

theorem call (f : σ → α × σ) : Strict (Faulty.call f : Faulty σ ε α) := by
  intro fault n s a m t h
  cases hn : fault n with
  | some e =>
    rw [call_error f hn] at h
    cases h
  | none =>
    rw [call_ok f hn] at h
    exact h

theorem query (f : σ → α) : Strict (Faulty.query f : Faulty σ ε α) := call _

theorem write (f : σ → σ) : Strict (Faulty.write f : Faulty σ ε Unit) := call _

theorem execute (f : σ → Except ε σ) : Strict (Faulty.execute f) := by
  intro fault n s a m t h
  unfold Faulty.execute at h ⊢
  cases hn : fault n with
  | some e =>
    rw [hn] at h
    cases h
  | none =>
    rw [hn] at h
    exact h

theorem bind {x : Faulty σ ε α} {f : α → Faulty σ ε β} (hx : Strict x)
    (hf : ∀ a, Strict (f a)) : Strict (x >>= f) := by
  intro fault n s b m t h
  rcases hr : x fault n s with ⟨e | a, n', s'⟩
  · rw [bind_error f hr] at h
    cases h
  · rw [bind_ok f hr] at h
    rw [bind_ok f (hx _ _ _ _ _ _ hr)]
    exact hf a _ _ _ _ _ _ h

theorem eq_noFaults {x : Faulty σ ε α} (hx : Strict x) {fault : Faults ε} {n : ℕ} {s : σ}
    (h : (x fault n s).1.isOk) : x fault n s = x noFaults n s := by
  rcases hr : x fault n s with ⟨e | a, m, t⟩
  · rw [hr] at h
    cases h
  · exact (hx _ _ _ _ _ _ hr).symm

end Strict

end Faulty

end SaasChassis.Lib
