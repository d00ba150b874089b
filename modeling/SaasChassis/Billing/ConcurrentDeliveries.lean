/-
  Deliveries of one event that run at the same time.

  A delivery looks its event up, stores it as unprocessed, handles it and marks it. The look-up
  claims nothing: two deliveries can both find the event new, and both handle it; the store of the
  later one takes the mark of the earlier one off again (`handled_twice`).

  `deliveries_once_iff`: an event takes effect once, and its mark stays, exactly when no delivery
  finds it new while another is between its look-up and its mark. The three stages of such a run
  are `Stage`; `committed` counts the look-ups that find the event new.
-/
import Mathlib.Algebra.Order.BigOperators.Group.List
import Mathlib.Algebra.Order.Group.Int
import SaasChassis.Billing.Answers
import SaasChassis.Lib.Interleaving

namespace SaasChassis.Billing

open SaasChassis.Lib Faulty

/-! ## The endpoint, step by step -/

/-- Where a delivery is, with the clock and the channel it finds. -/
inductive Delivery where
  | arrived (env : Env)
  | unprocessed (env : Env)
  | stored (env : Env)
  | handled (env : Env)
  | answered (reply : Reply)

namespace Delivery

def isArrived : Delivery → Bool
  | .arrived _ => true
  | _ => false

def isAnswered : Delivery → Bool
  | .answered _ => true
  | _ => false

/-- Between its look-up and its mark. -/
def busy : Delivery → Bool
  | .unprocessed _ | .stored _ | .handled _ => true
  | _ => false

/-- How often it is going to handle the event, which it has found new. -/
def toHandle : Delivery → ℤ
  | .unprocessed _ | .stored _ => 1
  | _ => 0

end Delivery

/-- The handler, none of whose calls fails. -/
def BillingDb.handle (env : Env) (event : StripeEvent) (db : BillingDb) : BillingDb :=
  ((do
    processEvent env event
    effect fun db => { db with handled := event.id :: db.handled } : Method Unit)
      noFaults 0 db).2.2

def BillingDb.mark (env : Env) (event : StripeEvent) (db : BillingDb) : BillingDb :=
  db.withWebhookEvents (updateWebhookEvent event.id (markProcessed env))

variable {event : StripeEvent}

def Delivery.next (event : StripeEvent) (db : BillingDb) : Delivery → BillingDb × Delivery
  | .arrived env =>
    if db.isProcessed event.id then (db, .answered duplicate) else (db, .unprocessed env)
  | .unprocessed env => (db.stored event, .stored env)
  | .stored env => (db.handle env event, .handled env)
  | .handled env => (db.mark env event, .answered received)
  | .answered reply => (db, .answered reply)

theorem handle_eq (env : Env) (db : BillingDb) : db.handle env event =
    { applyEvent env event db with handled := event.id :: (applyEvent env event db).handled } := by
  have hrun := (processEvent_runs env event db).ok noFaults 0 fun _ _ _ => rfl
  unfold BillingDb.handle
  rw [bind_ok _ hrun]
  rfl

theorem mark_handle (env : Env) (db : BillingDb) :
    ((db.stored event).handle env event).mark env event = db.processed env event := by
  rw [handle_eq]
  rfl

theorem next_duplicate {db : BillingDb} (env : Env) (h : db.isProcessed event.id = true) :
    Delivery.next event db (.arrived env) = (db, .answered duplicate) := if_pos h

theorem next_new {db : BillingDb} (env : Env) (h : db.isProcessed event.id = false) :
    Delivery.next event db (.arrived env) = (db, .unprocessed env) := if_neg (by simp [h])

/-- Without interruption the steps are the endpoint. -/
theorem handleWebhook_alone (env : Env) (db : BillingDb) :
    ∃ reply, (handleWebhook env (.ok event) noFaults 0 db).1 = .ok reply ∧
      Pool.alone (Delivery.next event) 4 db (.arrived env) =
        ((handleWebhook env (.ok event) noFaults 0 db).2.2, .answered reply) := by
  have h := handleWebhook_outcome env event noFaults db
  rw [Pool.alone]
  generalize handleWebhook env (.ok event) noFaults 0 db = r at h
  cases h with
  | duplicate _ done =>
    rw [next_duplicate env done]
    exact ⟨_, rfl, rfl⟩
  | processed _ new =>
    rw [next_new env new]
    refine ⟨_, rfl, ?_⟩
    show (((db.stored event).handle env event).mark env event, Delivery.answered received) = _
    rw [mark_handle]
  | lookupFails e h => cases h
  | storeFails e _ _ h => cases h
  | recorded i e u _ _ _ fails => cases fails.2.2
  | recordFails i e e' u _ _ _ fails => cases fails.2.2

/-! ## Statement -/

abbrev DeliveryPool := Pool BillingDb Delivery

/-- All but the rows of the events: what handlers write and publish, and the history. -/
def BillingDb.effects (db : BillingDb) : BillingDb := db.withWebhookEvents fun _ => []

/-- One of the deliveries has handled the event, unless it was processed before. -/
def TakesEffectOnce (event : StripeEvent) (start p : DeliveryPool) : Prop :=
  if start.shared.isProcessed event.id then p.shared.effects = start.shared.effects
  else ∃ env, .arrived env ∈ start.threads ∧
    p.shared.effects = (start.shared.handle env event).effects

/-- Once a delivery is answered, and so has found or set the mark, it is there. -/
def MarkStays (event : StripeEvent) (p : DeliveryPool) : Prop :=
  ∀ t ∈ p.threads, t.isAnswered → p.shared.isProcessed event.id

/-- A look-up that finds the event new finds no other delivery busy with it. -/
def LooksUpAlone (event : StripeEvent) (p : DeliveryPool) (k : ℕ) : Prop :=
  ∀ t ∈ p.threads[k]?, t.isArrived → p.shared.isProcessed event.id = false →
    ∀ u ∈ p.threads, u.busy = false

instance (p : DeliveryPool) : Decidable (MarkStays event p) :=
  inferInstanceAs (Decidable (∀ t ∈ p.threads, t.isAnswered → p.shared.isProcessed event.id))

instance (p : DeliveryPool) (k : ℕ) : Decidable (LooksUpAlone event p k) :=
  inferInstanceAs (Decidable (∀ t ∈ p.threads[k]?, t.isArrived →
    p.shared.isProcessed event.id = false → ∀ u ∈ p.threads, u.busy = false))

/-! ## One step -/

theorem effects_handle (env : Env) {db u : BillingDb} (h : db.effects = u.effects) :
    (db.handle env event).effects = (u.handle env event).effects := by
  have hto : ∀ v : BillingDb,
      (v.handle env event).effects = (v.effects.handle env event).effects := by
    intro v
    rw [handle_eq, handle_eq]
    unfold applyEvent BillingDb.send BillingDb.effects
    cases env.channel with
    | true => rfl
    | false => rfl
  rw [hto db, h, ← hto u]

theorem isProcessed_stored (db : BillingDb) : (db.stored event).isProcessed event.id = false := by
  rw [Bool.eq_false_iff]
  intro hp
  obtain ⟨row, hrow, hid, hprocessed⟩ := isProcessed_row hp
  rw [upsert_unprocessed hrow hid] at hprocessed
  cases hprocessed

def BillingDb.HasRow (event : StripeEvent) (db : BillingDb) : Prop :=
  ∃ row ∈ db.webhookEvents, row.stripeEventId = event.id

theorem isProcessed_mark (env : Env) {db : BillingDb} (h : db.HasRow event) :
    (db.mark env event).isProcessed event.id = true := any_processed_mark env h

theorem handle_webhookEvents (env : Env) (db : BillingDb) :
    (db.handle env event).webhookEvents = db.webhookEvents := by
  rw [handle_eq]
  exact (applyEvent_beside env event db).rows

/-- How far the one busy delivery has come. -/
inductive Doing (event : StripeEvent) (start db : BillingDb) (env : Env) : Delivery → Prop
  | unprocessed (effects : db.effects = start.effects) : Doing event start db env (.unprocessed env)
  | stored (effects : db.effects = start.effects) (row : db.HasRow event) :
      Doing event start db env (.stored env)
  | handled (effects : db.effects = (start.handle env event).effects) (row : db.HasRow event) :
      Doing event start db env (.handled env)

/-- Before the first look-up, up to the first mark, and after it. -/
inductive Stage (event : StripeEvent) (start p : DeliveryPool) : Prop
  | waiting (fresh : start.shared.isProcessed event.id = false)
      (new : p.shared.isProcessed event.id = false) (arrived : ∀ t ∈ p.threads, t.isArrived)
      (effects : p.shared.effects = start.shared.effects) : Stage event start p
  | working (fresh : start.shared.isProcessed event.id = false)
      (new : p.shared.isProcessed event.id = false) (k : ℕ) (t : Delivery) (env : Env)
      (own : .arrived env ∈ start.threads) (thread : p.threads[k]? = some t)
      (doing : Doing event start.shared p.shared env t)
      (others : ∀ j u, j ≠ k → p.threads[j]? = some u → u.isArrived) : Stage event start p
  | marked (done : p.shared.isProcessed event.id) (idle : ∀ t ∈ p.threads, t.busy = false)
      (once : TakesEffectOnce event start p) : Stage event start p

/-- A stage of the run, and the deliveries that have not started are those of the start. -/
structure Orderly (event : StripeEvent) (start p : DeliveryPool) : Prop where
  waits : ∀ env, .arrived env ∈ p.threads → .arrived env ∈ start.threads
  stage : Stage event start p

/-- The busy delivery takes its next step. -/
theorem Doing.next {start db : BillingDb} {env : Env} {t : Delivery}
    (h : Doing event start db env t) (new : db.isProcessed event.id = false) :
    (((t.next event db).1.isProcessed event.id = false ∧
        Doing event start (t.next event db).1 env (t.next event db).2) ∨
      ((t.next event db).1.isProcessed event.id = true ∧ (t.next event db).2 = .answered received ∧
        (t.next event db).1.effects = (start.handle env event).effects)) := by
  cases h with
  | unprocessed effects =>
    exact Or.inl ⟨isProcessed_stored db, .stored effects (upsert_row event db.webhookEvents)⟩
  | stored effects row =>
    have hrows := @handle_webhookEvents event env db
    refine Or.inl ⟨?_, .handled (effects_handle env effects) ?_⟩
    · show (db.handle env event).isProcessed event.id = false
      unfold BillingDb.isProcessed at new ⊢
      rw [hrows]
      exact new
    · show (db.handle env event).HasRow event
      unfold BillingDb.HasRow
      rw [hrows]
      exact row
  | handled effects row => exact Or.inr ⟨isProcessed_mark env row, rfl, effects⟩

theorem Doing.busy {start db : BillingDb} {env : Env} {t : Delivery}
    (h : Doing event start db env t) : t.busy = true := by
  cases h with
  | unprocessed _ => rfl
  | stored _ _ => rfl
  | handled _ _ => rfl

theorem arrived_of_isArrived {t : Delivery} (h : t.isArrived) : ∃ env, t = .arrived env := by
  cases t with
  | arrived env => exact ⟨env, rfl⟩
  | unprocessed env => cases h
  | stored env => cases h
  | handled env => cases h
  | answered reply => cases h

/-- A delivery never goes back to its start. -/
theorem next_not_arrived (db : BillingDb) (t : Delivery) (env : Env) :
    (t.next event db).2 ≠ .arrived env := by
  cases t with
  | arrived env' =>
    cases hp : db.isProcessed event.id with
    | true =>
      rw [next_duplicate env' hp]
      exact Delivery.noConfusion
    | false =>
      rw [next_new env' hp]
      exact Delivery.noConfusion
  | unprocessed env' => exact Delivery.noConfusion
  | stored env' => exact Delivery.noConfusion
  | handled env' => exact Delivery.noConfusion
  | answered reply => exact Delivery.noConfusion

theorem Orderly.waits_step {start p : DeliveryPool} (h : Orderly event start p) (k : ℕ) (env : Env)
    (hmem : .arrived env ∈ (p.step (Delivery.next event) k).threads) :
    .arrived env ∈ start.threads := by
  cases hk : p.threads[k]? with
  | none =>
    rw [Pool.step_none hk] at hmem
    exact h.waits env hmem
  | some t =>
    rw [Pool.step_some hk] at hmem
    rcases List.mem_or_eq_of_mem_set hmem with hmem | he
    · exact h.waits env hmem
    · exact absurd he.symm (next_not_arrived p.shared t env)

theorem Orderly.step {start p : DeliveryPool} (h : Orderly event start p) {k : ℕ}
    (halone : LooksUpAlone event p k) : Orderly event start (p.step (Delivery.next event) k) := by
  refine ⟨h.waits_step k, ?_⟩
  cases hk : p.threads[k]? with
  | none =>
    rw [Pool.step_none hk]
    exact h.stage
  | some t =>
    have hlt : k < p.threads.length := (List.getElem?_eq_some_iff.mp hk).1
    rw [Pool.step_some hk]
    cases h.stage with
    | waiting fresh new arrived effects =>
      obtain ⟨env, rfl⟩ := arrived_of_isArrived (arrived t (List.mem_of_getElem? hk))
      rw [next_new env new]
      refine .working fresh new k (.unprocessed env) env (h.waits env (List.mem_of_getElem? hk))
        (List.getElem?_set_self hlt) (.unprocessed effects) fun j u hj hu => ?_
      rw [List.getElem?_set_ne (Ne.symm hj)] at hu
      exact arrived u (List.mem_of_getElem? hu)
    | working fresh new k' t' env own thread doing others =>
      by_cases hkk : k = k'
      · subst hkk
        obtain rfl : t = t' := Option.some.inj (hk.symm.trans thread)
        obtain ⟨hnew, hdoing⟩ | ⟨hdone, hanswered, heffects⟩ := doing.next new
        · refine .working fresh hnew k _ env own (List.getElem?_set_self hlt) hdoing
            fun j u hj hu => ?_
          rw [List.getElem?_set_ne (Ne.symm hj)] at hu
          exact others j u hj hu
        · refine .marked hdone (fun u hu => ?_) ?_
          · obtain ⟨j, hj⟩ := List.mem_iff_getElem?.mp hu
            by_cases hjk : j = k
            · rw [hjk, List.getElem?_set_self hlt, hanswered] at hj
              obtain rfl := Option.some.inj hj
              rfl
            · rw [List.getElem?_set_ne (Ne.symm hjk)] at hj
              obtain ⟨env', rfl⟩ := arrived_of_isArrived (others j u hjk hj)
              rfl
          · unfold TakesEffectOnce
            rw [if_neg (by simp [fresh])]
            exact ⟨env, own, heffects⟩
      · have hbusy := halone t hk (others k t hkk hk) new t' (List.mem_of_getElem? thread)
        rw [doing.busy] at hbusy
        cases hbusy
    | marked done idle once =>
      cases t with
      | arrived env =>
        rw [next_duplicate env done]
        refine .marked done (fun u hu => ?_) once
        rcases List.mem_or_eq_of_mem_set hu with hu | rfl
        · exact idle u hu
        · rfl
      | answered reply =>
        show Stage event start ⟨p.shared, p.threads.set k (.answered reply)⟩
        rw [← show p.threads[k] = .answered reply from Option.some.inj
          ((List.getElem?_eq_getElem hlt).symm.trans hk), List.set_getElem_self]
        exact h.stage
      | unprocessed env => exact nomatch idle _ (List.mem_of_getElem? hk)
      | stored env => exact nomatch idle _ (List.mem_of_getElem? hk)
      | handled env => exact nomatch idle _ (List.mem_of_getElem? hk)

theorem Stage.isProcessed_of_answered {start p : DeliveryPool} (h : Stage event start p)
    {t : Delivery} (ht : t ∈ p.threads) (hanswered : t.isAnswered) :
    p.shared.isProcessed event.id ∧ TakesEffectOnce event start p := by
  cases h with
  | waiting fresh new arrived effects =>
    obtain ⟨env, rfl⟩ := arrived_of_isArrived (arrived t ht)
    cases hanswered
  | working fresh new k u env own thread doing others =>
    obtain ⟨j, hj⟩ := List.mem_iff_getElem?.mp ht
    by_cases hjk : j = k
    · rw [hjk, thread] at hj
      obtain rfl := Option.some.inj hj
      cases doing with
      | unprocessed _ => cases hanswered
      | stored _ _ => cases hanswered
      | handled _ _ => cases hanswered
    · obtain ⟨env', rfl⟩ := arrived_of_isArrived (others j t hjk hj)
      cases hanswered
  | marked done idle once => exact ⟨done, once⟩

theorem Stage.atMostOnce {start p : DeliveryPool} (h : Stage event start p) :
    p.shared.effects = start.shared.effects ∨ TakesEffectOnce event start p := by
  cases h with
  | waiting fresh new arrived effects => exact Or.inl effects
  | working fresh new k t env own thread doing others =>
    cases doing with
    | unprocessed effects => exact Or.inl effects
    | stored effects row => exact Or.inl effects
    | handled effects row =>
      refine Or.inr ?_
      unfold TakesEffectOnce
      rw [if_neg (by simp [fresh])]
      exact ⟨env, own, effects⟩
  | marked done idle once => exact Or.inr once

/-! ## Counting -/

/-- How often the event has been handled or is going to be. -/
def committed (p : DeliveryPool) : ℤ :=
  p.shared.handled.length + (p.threads.map (·.toHandle)).sum

/-- Thread `k` is about to find the event new. -/
def FindsNew (event : StripeEvent) (p : DeliveryPool) (k : ℕ) : Prop :=
  (∃ env, p.threads[k]? = some (.arrived env)) ∧ p.shared.isProcessed event.id = false

theorem committed_set {p : DeliveryPool} {k : ℕ} {t : Delivery} (hk : p.threads[k]? = some t)
    (u : BillingDb) (t' : Delivery) :
    committed ⟨u, p.threads.set k t'⟩ =
      committed p + (u.handled.length - p.shared.handled.length) + (t'.toHandle - t.toHandle) := by
  unfold committed
  rw [sum_map_set hk]
  dsimp only
  omega

theorem handle_handled (env : Env) (db : BillingDb) :
    (db.handle env event).handled = event.id :: db.handled := by
  rw [handle_eq]
  exact congrArg _ (send_handled env _ _)

/-- No step takes a commitment back, and a look-up that finds the event new makes one. -/
theorem committed_step (p : DeliveryPool) (k : ℕ) :
    committed p ≤ committed (p.step (Delivery.next event) k) ∧
      (FindsNew event p k → committed p < committed (p.step (Delivery.next event) k)) := by
  cases hk : p.threads[k]? with
  | none =>
    rw [Pool.step_none hk]
    exact ⟨Int.le_refl _, fun ⟨⟨env, henv⟩, _⟩ => nomatch hk.symm.trans henv⟩
  | some t =>
    rw [Pool.step_some hk]
    have hsame : ∀ {u : BillingDb} {t' : Delivery}, u.handled = p.shared.handled →
        t'.toHandle = t.toHandle → committed p = committed ⟨u, p.threads.set k t'⟩ := by
      intro u t' hu ht
      rw [committed_set hk, hu, ht]
      omega
    have hpast : ∀ {u : BillingDb} {t' : Delivery}, (∀ env, t ≠ .arrived env) →
        committed p = committed ⟨u, p.threads.set k t'⟩ →
        committed p ≤ committed ⟨u, p.threads.set k t'⟩ ∧
          (FindsNew event p k → committed p < committed ⟨u, p.threads.set k t'⟩) := by
      intro u t' ht he
      refine ⟨Int.le_of_eq he, fun ⟨⟨env, henv⟩, _⟩ => ?_⟩
      exact absurd (Option.some.inj (hk.symm.trans henv)) (ht env)
    cases t with
    | arrived env =>
      cases hp : p.shared.isProcessed event.id with
      | true =>
        rw [next_duplicate env hp]
        exact ⟨Int.le_of_eq (hsame rfl rfl), fun hnew => nomatch hp.symm.trans hnew.2⟩
      | false =>
        rw [next_new env hp]
        have h : committed ⟨p.shared, p.threads.set k (.unprocessed env)⟩ = committed p + 1 := by
          rw [committed_set hk]
          simp [Delivery.toHandle]
        have hlt : committed p < committed ⟨p.shared, p.threads.set k (.unprocessed env)⟩ := by
          omega
        exact ⟨Int.le_of_lt hlt, fun _ => hlt⟩
    | unprocessed env => exact hpast (fun _ => Delivery.noConfusion) (hsame rfl rfl)
    | stored env =>
      refine hpast (fun _ => Delivery.noConfusion) ?_
      show committed p = committed ⟨p.shared.handle env event, p.threads.set k (.handled env)⟩
      rw [committed_set hk, handle_handled]
      simp [Delivery.toHandle]
    | handled env => exact hpast (fun _ => Delivery.noConfusion) (hsame rfl rfl)
    | answered reply => exact hpast (fun _ => Delivery.noConfusion) (hsame rfl rfl)

theorem toHandle_nonneg (t : Delivery) : 0 ≤ t.toHandle := by
  cases t with
  | unprocessed env => exact Int.one_nonneg
  | stored env => exact Int.one_nonneg
  | arrived env => exact Int.le_refl 0
  | handled env => exact Int.le_refl 0
  | answered reply => exact Int.le_refl 0

theorem toHandle_le_sum {threads : List Delivery} {t : Delivery} (ht : t ∈ threads) :
    t.toHandle ≤ (threads.map (·.toHandle)).sum := by
  refine List.single_le_sum (fun n hn => ?_) _ (List.mem_map_of_mem ht)
  obtain ⟨u, -, rfl⟩ := List.mem_map.mp hn
  exact toHandle_nonneg u

theorem committed_of_none {p : DeliveryPool} (h : ∀ t ∈ p.threads, t.toHandle = 0) :
    committed p = p.shared.handled.length := by
  unfold committed
  rw [List.sum_eq_zero, Int.add_zero]
  intro n hn
  obtain ⟨t, ht, rfl⟩ := List.mem_map.mp hn
  exact h t ht

/-- A delivery at work has committed itself. -/
theorem Stage.committed_of_busy {start p : DeliveryPool} (h : Stage event start p)
    (new : p.shared.isProcessed event.id = false) {u : Delivery} (hu : u ∈ p.threads)
    (hbusy : u.busy = true) : (start.shared.handled.length : ℤ) < committed p := by
  cases h with
  | waiting fresh new arrived effects =>
    obtain ⟨env, rfl⟩ := arrived_of_isArrived (arrived u hu)
    cases hbusy
  | marked done idle once => exact nomatch done.symm.trans new
  | working fresh new k t env own thread doing others =>
    have hle := toHandle_le_sum (List.mem_of_getElem? thread)
    unfold committed
    cases doing with
    | unprocessed effects =>
      rw [show p.shared.handled = start.shared.handled from congrArg (·.handled) effects]
      exact Int.lt_add_of_pos_right _ hle
    | stored effects row =>
      rw [show p.shared.handled = start.shared.handled from congrArg (·.handled) effects]
      exact Int.lt_add_of_pos_right _ hle
    | handled effects row =>
      have hhandled : p.shared.handled = event.id :: start.shared.handled :=
        (congrArg (·.handled) effects).trans (handle_handled env start.shared)
      rw [hhandled, List.length_cons]
      have hnonneg : 0 ≤ (p.threads.map (·.toHandle)).sum := hle
      omega

theorem not_looksUpAlone {p : DeliveryPool} {k : ℕ} (h : ¬ LooksUpAlone event p k) :
    FindsNew event p k ∧ ∃ u ∈ p.threads, u.busy = true := by
  unfold LooksUpAlone at h
  push Not at h
  obtain ⟨t, ht, harrived, hnew, u, hu, hbusy⟩ := h
  obtain ⟨env, rfl⟩ := arrived_of_isArrived harrived
  exact ⟨⟨⟨env, ht⟩, hnew⟩, u, hu, by simpa using hbusy⟩

/-- Two look-ups that find the event new are two commitments. -/
theorem committed_twice {start p : DeliveryPool} (h : Orderly event start p) {schedule : List ℕ}
    (hnot : ¬ StepsSatisfy (Pool.step (Delivery.next event)) (LooksUpAlone event) p schedule) :
    (start.shared.handled.length : ℤ) + 1 <
      committed (run (Pool.step (Delivery.next event)) p schedule) := by
  induction schedule generalizing p with
  | nil => exact absurd trivial hnot
  | cons k schedule ih =>
    by_cases hk : LooksUpAlone event p k
    · exact ih (h.step hk) fun hrest => hnot ⟨hk, hrest⟩
    · obtain ⟨hnew, u, hu, hbusy⟩ := not_looksUpAlone hk
      have hone := h.stage.committed_of_busy hnew.2 hu hbusy
      have htwo := (committed_step p k).2 hnew
      refine run_invariant (I := fun q => (start.shared.handled.length : ℤ) + 1 < committed q)
        (fun q j hq => Int.lt_of_lt_of_le hq (committed_step q j).1) ?_ schedule
      omega

/-! ## Runs -/

theorem Orderly.start {start : DeliveryPool} (h : ∀ t ∈ start.threads, t.isArrived) :
    Orderly event start start := by
  refine ⟨fun _ hmem => hmem, ?_⟩
  cases hp : start.shared.isProcessed event.id with
  | false => exact .waiting hp hp h rfl
  | true =>
    refine .marked hp (fun t ht => ?_) ?_
    · obtain ⟨env, rfl⟩ := arrived_of_isArrived (h t ht)
      rfl
    · unfold TakesEffectOnce
      rw [if_pos hp]

theorem TakesEffectOnce.handled_le {start p : DeliveryPool} (h : TakesEffectOnce event start p) :
    p.shared.handled.length ≤ start.shared.handled.length + 1 := by
  unfold TakesEffectOnce at h
  split at h
  · rw [show p.shared.handled = start.shared.handled from congrArg (·.handled) h]
    exact Nat.le_succ _
  · obtain ⟨env, -, he⟩ := h
    have hhandled : p.shared.handled = event.id :: start.shared.handled :=
      (congrArg (·.handled) he).trans (handle_handled env start.shared)
    rw [hhandled]
    exact Nat.le_refl _

/-- For any number of deliveries of one event and any interleaving of their steps. As long as no
    look-up finds the event new while another delivery is busy with it, at most one has handled it
    and the mark stays. And once all are answered, one has handled it and the mark has stayed
    throughout if and only if there was no such look-up. -/
theorem deliveries_once_iff {start : DeliveryPool} (harrived : ∀ t ∈ start.threads, t.isArrived)
    (schedule : List ℕ) :
    let after := run (Pool.step (Delivery.next event)) start
    let alone := StepsSatisfy (Pool.step (Delivery.next event)) (LooksUpAlone event) start schedule
    (alone → (after schedule).shared.effects = start.shared.effects ∨
      TakesEffectOnce event start (after schedule)) ∧
    (alone → MarkStays event (after schedule)) ∧
    (start.threads ≠ [] → (∀ t ∈ (after schedule).threads, t.isAnswered) →
      (alone ↔ TakesEffectOnce event start (after schedule) ∧
        ∀ n, MarkStays event (after (schedule.take n)))) := by
  intro after alone
  have horderly : ∀ s, StepsSatisfy (Pool.step (Delivery.next event)) (LooksUpAlone event) start s →
      Orderly event start (after s) := fun s hs =>
    run_invariant_of (fun _ _ h hk => h.step hk) (Orderly.start harrived) hs
  have hmark : ∀ s, StepsSatisfy (Pool.step (Delivery.next event)) (LooksUpAlone event) start s →
      MarkStays event (after s) := fun s hs t ht hanswered =>
    ((horderly s hs).stage.isProcessed_of_answered ht hanswered).1
  refine ⟨fun h => (horderly _ h).stage.atMostOnce, hmark schedule, fun hne hall => ?_⟩
  constructor
  · intro h
    refine ⟨?_, fun n => hmark _ (h.take n)⟩
    -- any delivery will do, and there is one
    obtain ⟨t, ht⟩ := List.exists_mem_of_ne_nil _ hne
    obtain ⟨k, hk⟩ := List.mem_iff_getElem?.mp ht
    obtain ⟨t', ht', -⟩ := @Pool.run_measure _ _ (Delivery.next event) (fun _ => 0)
      (fun _ _ => Nat.le_refl 0) _ _ _ hk schedule
    have hmem := List.mem_of_getElem? ht'
    exact ((horderly _ h).stage.isProcessed_of_answered hmem (hall t' hmem)).2
  · rintro ⟨honce, -⟩
    by_contra hnot
    have htwice := committed_twice (Orderly.start harrived) hnot
    have hle := honce.handled_le
    have hnone : committed (after schedule) = (after schedule).shared.handled.length := by
      refine committed_of_none fun t ht => ?_
      have hanswered := hall t ht
      cases t with
      | answered reply => rfl
      | _ => cases hanswered
    change _ < committed (after schedule) at htwice
    omega

namespace Sample

def announced : StripeEvent :=
  { id := "evt_2", created := 0, data := .subscriptionCreated subscription }

def twoDeliveries : DeliveryPool := ⟨.empty, [.arrived env, .arrived env]⟩

end Sample

theorem deliveries_once_iff_sample :
    TakesEffectOnce Sample.announced Sample.twoDeliveries
      (run (Pool.step (Delivery.next Sample.announced)) Sample.twoDeliveries [0, 0, 0, 0, 1]) :=
  (((@deliveries_once_iff Sample.announced Sample.twoDeliveries (by decide)
    [0, 0, 0, 0, 1]).2.2 (by decide) (by decide +kernel)).mp (by decide +kernel)).1

/-- Both find the event new before either marks it. Both handle it, and the second's store takes
    the first's mark off again after the first has been answered. -/
theorem handled_twice :
    let after := run (Pool.step (Delivery.next Sample.announced)) Sample.twoDeliveries
    (∀ t ∈ (after [0, 1, 0, 0, 0, 1, 1, 1]).threads, t.isAnswered) ∧
      (after [0, 1, 0, 0, 0, 1, 1, 1]).shared.handled = ["evt_2", "evt_2"] ∧
      (after [0, 1, 0, 0, 0, 1, 1, 1]).shared.messages.length = 2 ∧
      ¬ TakesEffectOnce Sample.announced Sample.twoDeliveries
        (after [0, 1, 0, 0, 0, 1, 1, 1]) ∧
      (after [0, 1, 0, 0, 0]).shared.isProcessed "evt_2" = true ∧
      (after [0, 1, 0, 0, 0, 1]).shared.isProcessed "evt_2" = false := by
  refine ⟨by decide +kernel, by decide +kernel, by decide +kernel, ?_, by decide +kernel,
    by decide +kernel⟩
  intro h
  have hlength := h.handled_le
  revert hlength
  decide +kernel

end SaasChassis.Billing
