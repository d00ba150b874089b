/-
  The events of one subscription on one row, in any order.

  `rowStep` is what an event does to the row it is meant for: created links the row to the
  subscription, updated and deleted find it only when it is linked. Each event is a handful of
  writes to fields of the row (`statusOf` and the following), so the row after an order of
  events is given field by field by the last write of those that took effect (`effective`).
  `orders_agree_iff` turns that into the sets of events whose orders all agree.
-/
import Mathlib.Data.List.TakeWhile
import SaasChassis.Billing.Mirror
import SaasChassis.Lib.Redelivery

namespace SaasChassis.Billing

open SaasChassis.Lib

/-! ## Events as writes -/

def isCreated (event : StripeEvent) : Bool :=
  match event.data with
  | .subscriptionCreated _ => true
  | _ => false

/-- The event is one of these three, of the subscription `sid`. -/
def OfSubscription (sid : String) (event : StripeEvent) : Prop :=
  match event.data with
  | .subscriptionCreated sub | .subscriptionUpdated sub | .subscriptionDeleted sub => sub.id = sid
  | _ => False

/-- What the event writes to a row that it reaches. -/
def patchRow (row : Subscription) (event : StripeEvent) : Subscription :=
  match event.data with
  | .subscriptionCreated sub => sub.linkTo row
  | .subscriptionUpdated sub => sub.updateOf row
  | .subscriptionDeleted _ => cancelRow row
  | _ => row

/-- Only created reaches a row that is not linked. -/
def rowStep (sid : String) (row : Subscription) (event : StripeEvent) : Subscription :=
  if row.stripeSubscriptionId = some sid ∨ isCreated event then patchRow row event else row

def statusOf (event : StripeEvent) : Option SubscriptionStatus :=
  match event.data with
  | .subscriptionCreated sub | .subscriptionUpdated sub => some sub.status
  | .subscriptionDeleted _ => some .canceled
  | _ => none

def periodOf (event : StripeEvent) : Option (Option ℤ × Option ℤ) :=
  match event.data with
  | .subscriptionCreated sub | .subscriptionUpdated sub =>
    some (some (milliseconds sub.currentPeriodStart), some (milliseconds sub.currentPeriodEnd))
  | _ => none

def planOf (event : StripeEvent) : Option String :=
  match event.data with
  | .subscriptionUpdated sub => sub.planCode
  | _ => none

def cancelOf (event : StripeEvent) : Option Bool :=
  match event.data with
  | .subscriptionUpdated sub => some sub.cancelAtPeriodEnd
  | _ => none

def linkOf (event : StripeEvent) : Option (Option String) :=
  match event.data with
  | .subscriptionCreated sub => some (some sub.id)
  | _ => none

def Subscription.period (row : Subscription) : Option ℤ × Option ℤ :=
  (row.currentPeriodStart, row.currentPeriodEnd)

theorem patchRow_fields (row : Subscription) (event : StripeEvent) :
    (patchRow row event).status = (statusOf event).getD row.status ∧
    (patchRow row event).period = (periodOf event).getD row.period ∧
    (patchRow row event).planCode = (planOf event).getD row.planCode ∧
    (patchRow row event).cancelAtPeriodEnd = (cancelOf event).getD row.cancelAtPeriodEnd ∧
    (patchRow row event).stripeSubscriptionId =
      (linkOf event).getD row.stripeSubscriptionId := by
  unfold patchRow statusOf periodOf planOf cancelOf linkOf
  cases event.data <;> exact ⟨rfl, rfl, rfl, rfl, rfl⟩

theorem patchRow_owner (row : Subscription) (event : StripeEvent) :
    (patchRow row event).tenantId = row.tenantId ∧
    (patchRow row event).stripeCustomerId = row.stripeCustomerId := by
  unfold patchRow
  cases event.data <;> exact ⟨rfl, rfl⟩

/-! ## Statement -/

/-- The events write no two values of the field. -/
def Agree {α : Type} (field : StripeEvent → Option α) (events : List StripeEvent) : Prop :=
  ∀ e ∈ events, ∀ f ∈ events, ∀ v w, field e = some v → field f = some w → v = w

/-- The events cannot be told apart by what they write, nor, where the row is not linked yet,
    from the row's own plan and cancellation mark. -/
structure Indistinct (sid : String) (row : Subscription) (events : List StripeEvent) : Prop where
  status : Agree statusOf events
  period : Agree periodOf events
  plan : Agree planOf events
  cancel : Agree cancelOf events
  own : row.stripeSubscriptionId ≠ some sid → ∀ e ∈ events,
    (∀ p, planOf e = some p → p = row.planCode) ∧
    (∀ c, cancelOf e = some c → c = row.cancelAtPeriodEnd)

/-- Either none of the events reaches the row or all are alike. -/
def OrderIrrelevant (sid : String) (row : Subscription) (events : List StripeEvent) : Prop :=
  (row.stripeSubscriptionId ≠ some sid ∧ ∀ e ∈ events, isCreated e = false) ∨
  Indistinct sid row events

/-! ## The events that take effect -/

def effective (sid : String) (row : Subscription) (events : List StripeEvent) :
    List StripeEvent :=
  if row.stripeSubscriptionId = some sid then events
  else events.dropWhile fun e => !isCreated e

theorem rowStep_linked {sid : String} {row : Subscription} {event : StripeEvent}
    (hof : OfSubscription sid event) (h : row.stripeSubscriptionId = some sid ∨ isCreated event) :
    rowStep sid row event = patchRow row event ∧
      (patchRow row event).stripeSubscriptionId = some sid := by
  refine ⟨if_pos h, ?_⟩
  revert hof h
  unfold OfSubscription isCreated patchRow
  cases event.data with
  | subscriptionCreated sub => exact fun hof _ => congrArg some hof
  | subscriptionUpdated sub => exact fun _ h => h.resolve_right Bool.false_ne_true
  | subscriptionDeleted sub => exact fun _ h => h.resolve_right Bool.false_ne_true
  | invoicePaid inv => exact fun hof => hof.elim
  | invoicePaymentFailed inv => exact fun hof => hof.elim
  | customerCreated customer => exact fun hof => hof.elim
  | other eventType => exact fun hof => hof.elim

theorem run_rowStep_linked {sid : String} {row : Subscription} {events : List StripeEvent}
    (hof : ∀ e ∈ events, OfSubscription sid e) (h : row.stripeSubscriptionId = some sid) :
    run (rowStep sid) row events = run patchRow row events := by
  induction events generalizing row with
  | nil => rfl
  | cons e events ih =>
    rw [List.forall_mem_cons] at hof
    obtain ⟨hstep, hlink⟩ := rowStep_linked hof.1 (Or.inl h)
    show run (rowStep sid) (rowStep sid row e) events = run patchRow (patchRow row e) events
    rw [hstep]
    exact ih hof.2 hlink

/-- The row after an order of events. -/
theorem run_rowStep {sid : String} {row : Subscription} {events : List StripeEvent}
    (hof : ∀ e ∈ events, OfSubscription sid e) :
    run (rowStep sid) row events = run patchRow row (effective sid row events) := by
  unfold effective
  split
  next h => exact run_rowStep_linked hof h
  next h =>
    induction events with
    | nil => rfl
    | cons e events ih =>
      rw [List.forall_mem_cons] at hof
      rw [List.dropWhile_cons]
      cases hc : isCreated e with
      | true =>
        obtain ⟨hstep, hlink⟩ := @rowStep_linked sid row e hof.1 (Or.inr hc)
        rw [Bool.not_true, if_neg (by decide)]
        show run (rowStep sid) (rowStep sid row e) events = run patchRow (patchRow row e) events
        rw [hstep]
        exact run_rowStep_linked hof.2 hlink
      | false =>
        rw [Bool.not_false, if_pos rfl]
        show run (rowStep sid) (rowStep sid row e) events = _
        rw [show rowStep sid row e = row from if_neg (by simp [h, hc])]
        exact ih hof.2

theorem mem_effective {sid : String} {row : Subscription} {events : List StripeEvent}
    {e : StripeEvent} (h : e ∈ effective sid row events) : e ∈ events := by
  unfold effective at h
  split at h
  · exact h
  · exact (List.dropWhile_suffix _).subset h

/-- A created event always takes effect. -/
theorem mem_effective_of_created (sid : String) (row : Subscription)
    {events : List StripeEvent} {e : StripeEvent} (h : e ∈ events) (hc : isCreated e = true) :
    e ∈ effective sid row events := by
  unfold effective
  split
  · exact h
  · induction events with
    | nil => exact absurd h List.not_mem_nil
    | cons f events ih =>
      rw [List.dropWhile_cons]
      obtain rfl | h := List.mem_cons.mp h
      · rw [hc, Bool.not_true, if_neg (by decide)]
        exact List.mem_cons_self
      · split
        · exact ih h
        · exact List.mem_cons_of_mem _ h

/-- An event put at the end of an order comes last among those that take effect, unless nothing
    links the row. -/
theorem effective_concat {sid : String} {row : Subscription} {events : List StripeEvent}
    {e : StripeEvent} (h : row.stripeSubscriptionId = some sid ∨
      ∃ c ∈ events ++ [e], isCreated c = true) :
    ∃ before, effective sid row (events ++ [e]) = before ++ [e] := by
  unfold effective
  split
  · exact ⟨events, rfl⟩
  next hlink =>
    obtain ⟨c, hc, hcreated⟩ := h.resolve_left hlink
    rw [List.dropWhile_append]
    split
    next hempty =>
      have hnone : c ∉ events := by
        intro hmem
        have hkept := mem_effective_of_created sid row hmem hcreated
        unfold effective at hkept
        rw [if_neg hlink, List.isEmpty_iff.mp hempty] at hkept
        exact List.not_mem_nil hkept
      obtain rfl : c = e := by simpa [hnone] using hc
      exact ⟨[], by simp [hcreated]⟩
    next => exact ⟨_, rfl⟩

/-! ## Fields -/

section Field

variable {sid : String} {row : Subscription} {events : List StripeEvent} {α : Type}
  {field : StripeEvent → Option α}

/-- A field that every created event writes. -/
theorem written_eq (hagree : Agree field events)
    (hcreated : ∀ e, isCreated e = true → ∃ v, field e = some v)
    (h : row.stripeSubscriptionId = some sid ∨ ∃ c ∈ events, isCreated c = true)
    {order : List StripeEvent} (hperm : order.Perm events) (a : α) :
    lastWrite a ((effective sid row order).map field) =
      lastWrite a ((effective sid row events).map field) := by
  refine lastWrite_eq ?_ ?_
  · intro w v hw hv
    obtain ⟨e, he, hew⟩ := List.mem_map.mp hw
    obtain ⟨f, hf, hfv⟩ := List.mem_map.mp hv
    exact hagree e (hperm.mem_iff.mp (mem_effective he)) f (mem_effective hf) w v hew hfv
  · by_cases hlink : row.stripeSubscriptionId = some sid
    · unfold effective
      rw [if_pos hlink, if_pos hlink]
      simp only [List.mem_map, hperm.mem_iff]
    · obtain ⟨c, hc, hcc⟩ := h.resolve_left hlink
      obtain ⟨v, hv⟩ := hcreated c hcc
      have hleft := mem_effective_of_created sid row (hperm.mem_iff.mpr hc) hcc
      have hright := mem_effective_of_created sid row hc hcc
      exact ⟨fun _ => ⟨v, List.mem_map.mpr ⟨c, hright, hv⟩⟩,
        fun _ => ⟨v, List.mem_map.mpr ⟨c, hleft, hv⟩⟩⟩

/-- A field that only updated events write: on a row not linked yet, with its own value. -/
theorem updated_eq (hagree : Agree field events) (a : α)
    (hown : row.stripeSubscriptionId ≠ some sid → ∀ e ∈ events, ∀ v, field e = some v → v = a)
    {order : List StripeEvent} (hperm : order.Perm events) :
    lastWrite a ((effective sid row order).map field) =
      lastWrite a ((effective sid row events).map field) := by
  by_cases hlink : row.stripeSubscriptionId = some sid
  · refine lastWrite_eq ?_ ?_
    · intro w v hw hv
      obtain ⟨e, he, hew⟩ := List.mem_map.mp hw
      obtain ⟨f, hf, hfv⟩ := List.mem_map.mp hv
      exact hagree e (hperm.mem_iff.mp (mem_effective he)) f (mem_effective hf) w v hew hfv
    · unfold effective
      rw [if_pos hlink, if_pos hlink]
      simp only [List.mem_map, hperm.mem_iff]
  · have hself : ∀ es : List StripeEvent, (∀ e ∈ es, e ∈ events) →
        lastWrite a (es.map field) = a := by
      intro es hes
      refine lastWrite_self fun w hw => ?_
      obtain ⟨e, he, hew⟩ := List.mem_map.mp hw
      exact hown hlink e (hes e he) w hew
    rw [hself _ fun e he => hperm.mem_iff.mp (mem_effective he),
      hself _ fun e he => mem_effective he]

/-- Where all orders give the same row, every event's write is what the row ends with. -/
theorem written_of_orders {proj : Subscription → α}
    (hproj : ∀ row e, proj (patchRow row e) = (field e).getD (proj row))
    (hof : ∀ e ∈ events, OfSubscription sid e)
    (h : row.stripeSubscriptionId = some sid ∨ ∃ c ∈ events, isCreated c = true)
    (hall : ∀ order : List StripeEvent, order.Perm events →
      run (rowStep sid) row order = run (rowStep sid) row events)
    {e : StripeEvent} (he : e ∈ events) {v : α} (hv : field e = some v) :
    v = proj (run (rowStep sid) row events) := by
  obtain ⟨before, after, rfl⟩ := List.append_of_mem he
  have hperm : (before ++ after ++ [e]).Perm (before ++ e :: after) := by
    rw [List.append_assoc]
    exact (List.perm_append_singleton e after).append_left before
  have hlast : row.stripeSubscriptionId = some sid ∨
      ∃ c ∈ before ++ after ++ [e], isCreated c = true := by
    refine h.imp_right fun ⟨c, hc, hcc⟩ => ⟨c, hperm.mem_iff.mpr hc, hcc⟩
  obtain ⟨kept, hkept⟩ := effective_concat hlast
  rw [← hall _ hperm, run_rowStep fun f hf => hof f (hperm.mem_iff.mp hf), hkept,
    proj_run hproj, List.map_append, List.map_singleton, hv, lastWrite_concat]

end Field

/-! ## The law for one row -/

theorem subscription_ext {row row' : Subscription} (tenant : row.tenantId = row'.tenantId)
    (customer : row.stripeCustomerId = row'.stripeCustomerId)
    (link : row.stripeSubscriptionId = row'.stripeSubscriptionId)
    (plan : row.planCode = row'.planCode) (status : row.status = row'.status)
    (period : row.period = row'.period)
    (cancel : row.cancelAtPeriodEnd = row'.cancelAtPeriodEnd) : row = row' := by
  obtain ⟨hstart, hend⟩ := Prod.mk.inj period
  cases row
  cases row'
  simp_all

theorem run_patchRow_owner (row : Subscription) (events : List StripeEvent) :
    (run patchRow row events).tenantId = row.tenantId ∧
    (run patchRow row events).stripeCustomerId = row.stripeCustomerId := by
  refine run_invariant (I := fun r : Subscription => r.tenantId = row.tenantId ∧
    r.stripeCustomerId = row.stripeCustomerId) ?_ ⟨rfl, rfl⟩ events
  intro r e ⟨ht, hc⟩
  obtain ⟨ht', hc'⟩ := patchRow_owner r e
  exact ⟨ht'.trans ht, hc'.trans hc⟩

/-- The link written is the one subscription of all the events. -/
theorem linkOf_agree {sid : String} {events : List StripeEvent}
    (hof : ∀ e ∈ events, OfSubscription sid e) : ∀ e ∈ events, ∀ v, linkOf e = some v →
      v = some sid := by
  intro e he v
  have h := hof e he
  revert h
  unfold OfSubscription linkOf
  cases e.data with
  | subscriptionCreated sub => exact fun h hv => h ▸ (Option.some.inj hv).symm
  | subscriptionUpdated sub => exact fun _ hv => nomatch hv
  | subscriptionDeleted sub => exact fun _ hv => nomatch hv
  | invoicePaid inv => exact fun h => h.elim
  | invoicePaymentFailed inv => exact fun h => h.elim
  | customerCreated customer => exact fun h => h.elim
  | other eventType => exact fun h => h.elim

theorem created_writes {e : StripeEvent} (h : isCreated e = true) :
    (∃ v, statusOf e = some v) ∧ (∃ v, periodOf e = some v) ∧ (∃ v, linkOf e = some v) ∧
    planOf e = none ∧ cancelOf e = none := by
  revert h
  unfold isCreated statusOf periodOf linkOf planOf cancelOf
  cases e.data with
  | subscriptionCreated sub => exact fun _ => ⟨⟨_, rfl⟩, ⟨_, rfl⟩, ⟨_, rfl⟩, rfl, rfl⟩
  | _ => exact fun h => absurd h Bool.false_ne_true

theorem orders_agree_of_indistinct {sid : String} {row : Subscription}
    {events order : List StripeEvent} (hof : ∀ e ∈ events, OfSubscription sid e)
    (h : row.stripeSubscriptionId = some sid ∨ ∃ c ∈ events, isCreated c = true)
    (hsame : Indistinct sid row events) (hperm : order.Perm events) :
    run (rowStep sid) row order = run (rowStep sid) row events := by
  have hof' : ∀ e ∈ order, OfSubscription sid e := fun e he => hof e (hperm.mem_iff.mp he)
  obtain ⟨ht, hc⟩ := run_patchRow_owner row (effective sid row order)
  obtain ⟨ht', hc'⟩ := run_patchRow_owner row (effective sid row events)
  have hlinks : Agree linkOf events := fun e he f hf v w hv hw =>
    (linkOf_agree hof e he v hv).trans (linkOf_agree hof f hf w hw).symm
  rw [run_rowStep hof', run_rowStep hof]
  refine subscription_ext (ht.trans ht'.symm) (hc.trans hc'.symm) ?_ ?_ ?_ ?_ ?_
  · rw [proj_run fun r e => (patchRow_fields r e).2.2.2.2, proj_run fun r e =>
      (patchRow_fields r e).2.2.2.2]
    exact written_eq hlinks (fun e he => (created_writes he).2.2.1) h hperm _
  · rw [proj_run fun r e => (patchRow_fields r e).2.2.1, proj_run fun r e =>
      (patchRow_fields r e).2.2.1]
    exact updated_eq hsame.plan _ (fun hl e he => (hsame.own hl e he).1) hperm
  · rw [proj_run fun r e => (patchRow_fields r e).1, proj_run fun r e => (patchRow_fields r e).1]
    exact written_eq hsame.status (fun e he => (created_writes he).1) h hperm _
  · rw [proj_run fun r e => (patchRow_fields r e).2.1, proj_run fun r e =>
      (patchRow_fields r e).2.1]
    exact written_eq hsame.period (fun e he => (created_writes he).2.1) h hperm _
  · rw [proj_run fun r e => (patchRow_fields r e).2.2.2.1, proj_run fun r e =>
      (patchRow_fields r e).2.2.2.1]
    exact updated_eq hsame.cancel _ (fun hl e he => (hsame.own hl e he).2) hperm

/-- With the created events last, a row that was not linked keeps its plan and its mark. -/
theorem created_last {sid : String} {row : Subscription} {events : List StripeEvent}
    (hof : ∀ e ∈ events, OfSubscription sid e) (hlink : row.stripeSubscriptionId ≠ some sid) :
    ∃ order : List StripeEvent, order.Perm events ∧
      (run (rowStep sid) row order).planCode = row.planCode ∧
      (run (rowStep sid) row order).cancelAtPeriodEnd = row.cancelAtPeriodEnd := by
  let others := events.filter fun e => !isCreated e
  let created := events.filter fun e => !!isCreated e
  have hperm : (others ++ created).Perm events :=
    List.filter_append_perm (fun e => !isCreated e) events
  have hkept : ∀ e ∈ effective sid row (others ++ created), isCreated e = true := by
    intro e he
    unfold effective at he
    rw [if_neg hlink, List.dropWhile_append_of_pos fun f hf => (List.mem_filter.mp hf).2] at he
    simpa using (List.mem_filter.mp ((List.dropWhile_suffix _).subset he)).2
  have hnone : ∀ {α : Type} (field : StripeEvent → Option α) (a : α),
      (∀ e, isCreated e = true → field e = none) →
      lastWrite a ((effective sid row (others ++ created)).map field) = a := by
    intro α field a hfield
    refine lastWrite_self fun w hw => ?_
    obtain ⟨e, he, hew⟩ := List.mem_map.mp hw
    rw [hfield e (hkept e he)] at hew
    cases hew
  refine ⟨others ++ created, hperm, ?_, ?_⟩
  · rw [run_rowStep fun e he => hof e (hperm.mem_iff.mp he),
      proj_run fun r e => (patchRow_fields r e).2.2.1]
    exact hnone planOf _ fun e he => (created_writes he).2.2.2.1
  · rw [run_rowStep fun e he => hof e (hperm.mem_iff.mp he),
      proj_run fun r e => (patchRow_fields r e).2.2.2.1]
    exact hnone cancelOf _ fun e he => (created_writes he).2.2.2.2

theorem indistinct_of_orders {sid : String} {row : Subscription} {events : List StripeEvent}
    (hof : ∀ e ∈ events, OfSubscription sid e)
    (h : row.stripeSubscriptionId = some sid ∨ ∃ c ∈ events, isCreated c = true)
    (hall : ∀ order : List StripeEvent, order.Perm events →
      run (rowStep sid) row order = run (rowStep sid) row events) :
    Indistinct sid row events := by
  have hstatus := @written_of_orders sid row events _ statusOf (·.status)
    (fun r e => (patchRow_fields r e).1) hof h hall
  have hperiod := @written_of_orders sid row events _ periodOf (·.period)
    (fun r e => (patchRow_fields r e).2.1) hof h hall
  have hplan := @written_of_orders sid row events _ planOf (·.planCode)
    (fun r e => (patchRow_fields r e).2.2.1) hof h hall
  have hcancel := @written_of_orders sid row events _ cancelOf (·.cancelAtPeriodEnd)
    (fun r e => (patchRow_fields r e).2.2.2.1) hof h hall
  refine { status := ?_, period := ?_, plan := ?_, cancel := ?_, own := ?_ }
  · exact fun e he f hf v w hv hw => (hstatus he hv).trans (hstatus hf hw).symm
  · exact fun e he f hf v w hv hw => (hperiod he hv).trans (hperiod hf hw).symm
  · exact fun e he f hf v w hv hw => (hplan he hv).trans (hplan hf hw).symm
  · exact fun e he f hf v w hv hw => (hcancel he hv).trans (hcancel hf hw).symm
  · intro hlink e he
    obtain ⟨order, hperm, hp, hc⟩ := created_last hof hlink
    rw [hall order hperm] at hp hc
    exact ⟨fun p hv => (hplan he hv).trans hp, fun c hv => (hcancel he hv).trans hc⟩

/-- All orders of the events leave the same row exactly when the order is irrelevant. -/
theorem orders_agree_iff {sid : String} (row : Subscription) {events : List StripeEvent}
    (hof : ∀ e ∈ events, OfSubscription sid e) :
    (∀ order : List StripeEvent, order.Perm events →
      run (rowStep sid) row order = run (rowStep sid) row events) ↔
      OrderIrrelevant sid row events := by
  by_cases h : row.stripeSubscriptionId = some sid ∨ ∃ c ∈ events, isCreated c = true
  · constructor
    · exact fun hall => Or.inr (indistinct_of_orders hof h hall)
    · rintro (⟨hlink, hnone⟩ | hsame) order hperm
      · obtain ⟨c, hc, hcc⟩ := h.resolve_left hlink
        exact absurd (hcc.symm.trans (hnone c hc)) (by decide)
      · exact orders_agree_of_indistinct hof h hsame hperm
  · rw [not_or] at h
    have hnone : ∀ e ∈ events, isCreated e = false := by
      intro e he
      by_contra hc
      exact h.2 ⟨e, he, by simpa using hc⟩
    refine ⟨fun _ => Or.inl ⟨h.1, hnone⟩, fun _ order hperm => ?_⟩
    -- nothing reaches the row
    have hrest : ∀ es : List StripeEvent, (∀ e ∈ es, e ∈ events) →
        run (rowStep sid) row es = row := by
      intro es hes
      rw [run_rowStep fun e he => hof e (hes e he), effective, if_neg h.1,
        List.dropWhile_eq_nil_iff.mpr fun e he => by simp [hnone e (hes e he)]]
      rfl
    rw [hrest order fun e he => hperm.mem_iff.mp he, hrest events fun e he => he]

end SaasChassis.Billing
