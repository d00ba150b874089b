/-
  Pre- and postconditions of programs whose calls may fail. Nothing here names a program.

  `Triple P x Q E`: from a state with `P` and whatever calls fail, the program returns a value
  with `Q` or throws an error with `E`. One rule for each way to build a program; a call that
  fails throws from the state it was made in, so its rules ask `E` of every state with `P`.
-/
import SaasChassis.Lib.Faults

namespace SaasChassis.Lib.Faulty

variable {σ ε α β : Type}

def Triple (P : σ → Prop) (x : Faulty σ ε α) (Q : α → σ → Prop) (E : ε → σ → Prop) : Prop :=
  ∀ fault n s, P s →
    match x fault n s with
    | (.ok a, _, t) => Q a t
    | (.error e, _, t) => E e t

namespace Triple

variable {P P' : σ → Prop} {Q Q' : α → σ → Prop} {R : α → σ → Prop} {S : β → σ → Prop}
  {E E' : ε → σ → Prop} {x : Faulty σ ε α}

theorem ok (h : Triple P x Q E) {fault : Faults ε} {m n : ℕ} {s t : σ} {a : α} (hs : P s)
    (hx : x fault m s = (.ok a, n, t)) : Q a t := by
  have hpost := h fault m s hs
  rwa [hx] at hpost

theorem error (h : Triple P x Q E) {fault : Faults ε} {m n : ℕ} {s t : σ} {e : ε} (hs : P s)
    (hx : x fault m s = (.error e, n, t)) : E e t := by
  have hpost := h fault m s hs
  rwa [hx] at hpost

/-- What holds of every outcome holds of the state after the program. -/
theorem after {I : σ → Prop} (h : Triple P x (fun _ => I) fun _ => I) {s : σ} (hs : P s)
    (fault : Faults ε) (n : ℕ) : I (x fault n s).2.2 := by
  rcases hx : x fault n s with ⟨e | a, m, t⟩
  · exact h.error hs hx
  · exact h.ok hs hx

theorem conseq (h : Triple P' x Q' E') (hp : ∀ s, P s → P' s) (hq : ∀ a t, Q' a t → Q a t)
    (he : ∀ e t, E' e t → E e t) : Triple P x Q E := by
  intro fault n s hs
  rcases hx : x fault n s with ⟨e | a, m, t⟩
  · exact he e t (h.error (hp s hs) hx)
  · exact hq a t (h.ok (hp s hs) hx)

theorem of_keeps {I : σ → Prop} (h : Keeps I x) : Triple I x (fun _ => I) fun _ => I := by
  intro fault n s hs
  have ht := h fault n s hs
  rcases hx : x fault n s with ⟨e | a, m, t⟩
  · rwa [hx] at ht
  · rwa [hx] at ht

theorem any (x : Faulty σ ε α) : Triple (fun _ => True) x (fun _ _ => True) fun _ _ => True :=
  of_keeps fun _ _ _ h => h

theorem and (h : Triple P x Q E) (h' : Triple P' x Q' E') :
    Triple (fun s => P s ∧ P' s) x (fun a t => Q a t ∧ Q' a t) fun e t => E e t ∧ E' e t := by
  intro fault n s hs
  rcases hx : x fault n s with ⟨e | a, m, t⟩
  · exact ⟨h.error hs.1 hx, h'.error hs.2 hx⟩
  · exact ⟨h.ok hs.1 hx, h'.ok hs.2 hx⟩

/-- A condition that is not about the state. -/
theorem assume {p : Prop} (h : p → Triple P x Q E) : Triple (fun s => p ∧ P s) x Q E :=
  fun fault n s hs => h hs.1 fault n s hs.2

theorem pure {a : α} (h : ∀ s, P s → Q a s) : Triple P (Pure.pure a) Q E :=
  fun _ _ s hs => h s hs

theorem throw {e : ε} (h : ∀ s, P s → E e s) : Triple P (Faulty.throw e) Q E :=
  fun _ _ s hs => h s hs

theorem effect {f : σ → σ} {Q : Unit → σ → Prop} (h : ∀ s, P s → Q () (f s)) :
    Triple P (Faulty.effect f) Q E :=
  fun _ _ s hs => h s hs

theorem call {f : σ → α × σ} (h : ∀ s, P s → Q (f s).1 (f s).2) (he : ∀ e s, P s → E e s) :
    Triple P (Faulty.call f) Q E := by
  intro fault n s hs
  cases hn : fault n with
  | some e =>
    rw [call_error f hn]
    exact he e s hs
  | none =>
    rw [call_ok f hn]
    exact h s hs

theorem query {f : σ → α} (h : ∀ s, P s → Q (f s) s) (he : ∀ e s, P s → E e s) :
    Triple P (Faulty.query f) Q E := call h he

theorem write {f : σ → σ} {Q : Unit → σ → Prop} (h : ∀ s, P s → Q () (f s))
    (he : ∀ e s, P s → E e s) : Triple P (Faulty.write f) Q E := call h he

theorem execute {f : σ → Except ε σ} {Q : Unit → σ → Prop}
    (h : ∀ s t, P s → f s = .ok t → Q () t) (he : ∀ e s, P s → E e s) :
    Triple P (Faulty.execute f) Q E := by
  intro fault n s hs
  unfold Faulty.execute
  cases fault n with
  | some e => exact he e s hs
  | none =>
    cases hf : f s with
    | error e => exact he e s hs
    | ok t => exact h s t hs hf

theorem bind {f : α → Faulty σ ε β} (hx : Triple P x R E) (hf : ∀ a, Triple (R a) (f a) S E) :
    Triple P (x >>= f) S E := by
  intro fault n s hs
  rcases hr : x fault n s with ⟨e | a, m, t⟩
  · rw [bind_error f hr]
    exact hx.error hs hr
  · rw [bind_ok f hr]
    exact hf a fault m t (hx.ok hs hr)

/-- A reading call: the program goes on from the state that was read. -/
theorem query_bind {f : σ → α} {k : α → Faulty σ ε β}
    (h : ∀ a, Triple (fun s => P s ∧ f s = a) (k a) S E) (he : ∀ e s, P s → E e s) :
    Triple P (Faulty.query f >>= k) S E :=
  bind (query (fun _ hs => ⟨hs, rfl⟩) he) h

theorem tryCatch {handler : ε → Faulty σ ε α} (hx : Triple P x Q E')
    (hh : ∀ e, Triple (E' e) (handler e) Q E) : Triple P (x.tryCatch handler) Q E := by
  intro fault n s hs
  rcases hr : x fault n s with ⟨e | a, m, t⟩
  · rw [tryCatch_error handler hr]
    exact hh e fault m t (hx.error hs hr)
  · rw [tryCatch_ok handler hr]
    exact hx.ok hs hr

theorem bracket (h : Triple P x Q E) (he : ∀ e s, P s ∨ (∃ a, Q a s) → E e s) :
    Triple P (Faulty.bracket x) Q E := by
  refine bind (R := fun _ => P) (query (fun _ hs => hs) fun e s hs => he e s (Or.inl hs))
    fun _ => ?_
  refine bind h fun a => ?_
  refine bind (R := fun _ => Q a) (query (fun _ ht => ht) ?_) fun _ => pure fun _ ht => ht
  exact fun e t ht => he e t (Or.inr ⟨a, ht⟩)

/-- Of a transaction that throws nothing is left. -/
theorem transaction (hx : Triple P x Q E') (he : ∀ e s, P s → E e s) :
    Triple P (Faulty.transaction x) Q E := by
  intro fault n s hs
  have hbracket : Triple P (Faulty.bracket x) Q fun _ _ => True :=
    (hx.conseq (fun _ h => h) (fun _ _ h => h) fun _ _ _ => trivial).bracket fun _ _ _ => trivial
  unfold Faulty.transaction
  rcases hr : Faulty.bracket x fault n s with ⟨e | a, m, t⟩
  · exact he e s hs
  · exact hbracket.ok hs hr

end Triple

end SaasChassis.Lib.Faulty
