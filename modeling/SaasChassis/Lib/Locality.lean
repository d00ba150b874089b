/-
  Programs that work in one part of a state. Nothing here names a program.

  `own` cuts a state down to the part, `rest` is what lies outside it. `Local own rest P x`: the
  program leaves the outside alone, and where the outside satisfies `P` it does to the part, with
  the same outcome after the same number of calls, what it does to the whole state. One rule for
  each way to build a program. The outside does not change, so `P` need not be kept.
-/
import SaasChassis.Lib.Triples

namespace SaasChassis.Lib.Faulty

variable {σ ε α β ρ : Type}

/-- The outcome of a run, its state cut down. -/
def through (own : σ → σ) (r : Except ε α × ℕ × σ) : Except ε α × ℕ × σ := (r.1, r.2.1, own r.2.2)

def Local (own : σ → σ) (rest : σ → ρ) (P : ρ → Prop) (x : Faulty σ ε α) : Prop :=
  ∀ fault n s, rest (x fault n s).2.2 = rest s ∧
    (P (rest s) → x fault n (own s) = through own (x fault n s))

namespace Local

variable {own : σ → σ} {rest : σ → ρ} {P : ρ → Prop} {x : Faulty σ ε α}

theorem pure (a : α) : Local own rest P (Pure.pure a : Faulty σ ε α) :=
  fun _ _ _ => ⟨rfl, fun _ => rfl⟩

theorem throw (e : ε) : Local own rest P (Faulty.throw e : Faulty σ ε α) :=
  fun _ _ _ => ⟨rfl, fun _ => rfl⟩

theorem effect {f : σ → σ} (h : ∀ s, rest (f s) = rest s ∧ f (own s) = own (f s)) :
    Local own rest P (Faulty.effect f : Faulty σ ε Unit) := by
  intro fault n s
  refine ⟨(h s).1, fun _ => ?_⟩
  show (Except.ok (), n, f (own s)) = _
  rw [(h s).2]
  rfl

theorem call {f : σ → α × σ}
    (h : ∀ s, rest (f s).2 = rest s ∧ f (own s) = ((f s).1, own (f s).2)) :
    Local own rest P (Faulty.call f : Faulty σ ε α) := by
  intro fault n s
  cases hn : fault n with
  | some e =>
    rw [call_error f hn, call_error f hn]
    exact ⟨rfl, fun _ => rfl⟩
  | none =>
    rw [call_ok f hn, call_ok f hn, (h s).2]
    exact ⟨(h s).1, fun _ => rfl⟩

theorem query {f : σ → α} (h : ∀ s, f (own s) = f s) :
    Local own rest P (Faulty.query f : Faulty σ ε α) :=
  call fun s => ⟨rfl, by rw [h s]⟩

theorem write {f : σ → σ} (h : ∀ s, rest (f s) = rest s ∧ f (own s) = own (f s)) :
    Local own rest P (Faulty.write f : Faulty σ ε Unit) :=
  call fun s => ⟨(h s).1, by rw [(h s).2]⟩

/-- A call that the whole state refuses is refused in the part too, for the same reason. -/
theorem execute {f : σ → Except ε σ} (hrest : ∀ s t, f s = .ok t → rest t = rest s)
    (hown : ∀ s, P (rest s) → f (own s) = (f s).map own) :
    Local own rest P (Faulty.execute f) := by
  intro fault n s
  unfold Faulty.execute
  cases fault n with
  | some e => exact ⟨rfl, fun _ => rfl⟩
  | none =>
    dsimp only
    cases hf : f s with
    | error e =>
      refine ⟨rfl, fun hs => ?_⟩
      rw [hown s hs, hf]
      rfl
    | ok t =>
      refine ⟨hrest s t hf, fun hs => ?_⟩
      rw [hown s hs, hf]
      rfl

/-- What follows may rely on what every value of the first program satisfies. -/
theorem bind {Q : α → Prop} {f : α → Faulty σ ε β} (hx : Local own rest P x)
    (hq : Triple (fun _ => True) x (fun a _ => Q a) fun _ _ => True)
    (hf : ∀ a, Q a → Local own rest P (f a)) : Local own rest P (x >>= f) := by
  intro fault n s
  obtain ⟨hrest, hown⟩ := hx fault n s
  rcases hr : x fault n s with ⟨e | a, m, t⟩
  · rw [hr] at hrest hown
    rw [bind_error f hr]
    exact ⟨hrest, fun hs => bind_error f (hown hs)⟩
  · rw [hr] at hrest hown
    dsimp only at hrest
    obtain ⟨hrest', hown'⟩ := hf a (hq.ok trivial hr) fault m t
    rw [bind_ok f hr]
    exact ⟨hrest'.trans hrest, fun hs => (bind_ok f (hown hs)).trans (hown' (hrest.symm ▸ hs))⟩

theorem andThen {f : α → Faulty σ ε β} (hx : Local own rest P x)
    (hf : ∀ a, Local own rest P (f a)) : Local own rest P (x >>= f) :=
  hx.bind (Triple.any x) fun a _ => hf a

/-- What is read of some state. -/
theorem query_bind {f : σ → α} {k : α → Faulty σ ε β} (h : ∀ s, f (own s) = f s)
    (hk : ∀ s, Local own rest P (k (f s))) : Local own rest P (Faulty.query f >>= k) := by
  refine (query h).bind (Q := fun a => ∃ s, f s = a) (Triple.query (fun s _ => ⟨s, rfl⟩)
    fun _ _ _ => trivial) ?_
  rintro a ⟨s, rfl⟩
  exact hk s

theorem tryCatch {handler : ε → Faulty σ ε α} (hx : Local own rest P x)
    (hh : ∀ e, Local own rest P (handler e)) : Local own rest P (x.tryCatch handler) := by
  intro fault n s
  obtain ⟨hrest, hown⟩ := hx fault n s
  rcases hr : x fault n s with ⟨e | a, m, t⟩
  · rw [hr] at hrest hown
    dsimp only at hrest
    obtain ⟨hrest', hown'⟩ := hh e fault m t
    rw [tryCatch_error handler hr]
    exact ⟨hrest'.trans hrest,
      fun hs => (tryCatch_error handler (hown hs)).trans (hown' (hrest.symm ▸ hs))⟩
  · rw [hr] at hrest hown
    rw [tryCatch_ok handler hr]
    exact ⟨hrest, fun hs => tryCatch_ok handler (hown hs)⟩

theorem transaction (hx : Local own rest P x) : Local own rest P (Faulty.transaction x) := by
  have hcall : Local own rest P (Faulty.query fun _ => () : Faulty σ ε Unit) := query fun _ => rfl
  have hbracket : Local own rest P (bracket x) :=
    hcall.andThen fun _ => hx.andThen fun a => hcall.andThen fun _ => pure a
  intro fault n s
  obtain ⟨hrest, hown⟩ := hbracket fault n s
  unfold Faulty.transaction
  rcases hr : bracket x fault n s with ⟨e | a, m, t⟩
  · rw [hr] at hown
    refine ⟨rfl, fun hs => ?_⟩
    rw [hown hs]
    rfl
  · rw [hr] at hrest hown
    refine ⟨hrest, fun hs => ?_⟩
    rw [hown hs]
    rfl

end Local

end SaasChassis.Lib.Faulty
