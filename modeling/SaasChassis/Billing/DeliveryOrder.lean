/-
  Does a subscription's row depend on the order in which its events are delivered?

  Stripe delivers a subscription's events in any order, each at least once. The endpoint drops
  what it has processed, so a sequence of deliveries does to the row what the first deliveries
  of the events not processed before do in their order (`row_after`), and every order of these
  occurs (`every_order`). But each event overwrites the row with what it carries, whatever the
  row has from a later one, and an event of a subscription that is not linked yet reaches no
  row and is marked processed all the same. `delivery_order_iff` gives the histories whose
  order is irrelevant; `events_reordered` is one whose order is not.

  Deliveries meet no fault here.
-/
import SaasChassis.Billing.Answers
import SaasChassis.Billing.Orders

namespace SaasChassis.Billing

open SaasChassis.Lib Faulty

/-! ## Statement -/

def deliverAll (db : BillingDb) (deliveries : List (Env × StripeEvent)) : BillingDb :=
  run (fun db d => db.deliver d.1 d.2) db deliveries

/-- Events of one subscription, in the order of their creation. -/
structure History (stripe : Stripe) (sid : String) (history : List StripeEvent) : Prop where
  sent : ∀ e ∈ history, stripe.Says e.data
  ofSubscription : ∀ e ∈ history, OfSubscription sid e
  times : history.Pairwise (·.created < ·.created)
  ids : (history.map (·.id)).Nodup

/-- Every event of the history is delivered, and nothing else. -/
structure Delivers (deliveries : List (Env × StripeEvent)) (history : List StripeEvent) :
    Prop where
  only : ∀ d ∈ deliveries, d.2 ∈ history
  all : ∀ e ∈ history, ∃ d ∈ deliveries, d.2 = e

/-- The tenant's row ends as it does when the events are delivered in the order of creation. -/
def OrderIndependent (db : BillingDb) (tenantId : String) (history : List StripeEvent) : Prop :=
  ∀ env deliveries, Delivers deliveries history →
    byTenant tenantId (deliverAll db deliveries).subscriptions =
      byTenant tenantId (deliverAll db (history.map fun e => (env, e))).subscriptions

/-- The events that are still to be processed. -/
def pending (db : BillingDb) (history : List StripeEvent) : List StripeEvent :=
  history.filter fun e => !db.isProcessed e.id

/-! ## The endpoint refines the row -/

variable {stripe : Stripe} {sid : String}

/-- The row `row` is the one the subscription's events are meant for. -/
structure MeantFor (stripe : Stripe) (sid : String) (db : BillingDb) (row : Subscription) :
    Prop where
  schema : db.Schema
  mirrors : stripe.Mirrors db
  mem : row ∈ db.subscriptions
  customer : row.stripeCustomerId = stripe.customerOf sid

theorem MeantFor.byTenant {db : BillingDb} {row : Subscription} (h : MeantFor stripe sid db row) :
    byTenant row.tenantId db.subscriptions = some row := by
  unfold Billing.byTenant
  cases hf : db.subscriptions.find? (·.tenantId = row.tenantId) with
  | none => exact absurd (List.find?_eq_none.mp hf row h.mem) (by simp)
  | some q =>
    have ht : q.tenantId = row.tenantId := by simpa using List.find?_some hf
    rw [nodup_keys_inj h.schema.uq_subscription_tenant (List.mem_of_find?_eq_some hf) h.mem ht]

theorem mem_saveWith {rows : List Subscription} {row : Subscription} (h : row ∈ rows)
    (f : Subscription → Subscription) : f row ∈ saveWith (some row) f rows :=
  mem_updateKey.mpr (Or.inl ⟨row, h, rfl, rfl⟩)

/-- What an event does to the row it is meant for. -/
theorem MeantFor.rowStep_mem {db : BillingDb} {row : Subscription}
    (h : MeantFor stripe sid db row) {event : StripeEvent} (hsent : stripe.Says event.data)
    (hof : OfSubscription sid event) :
    rowStep sid row event ∈ subscriptionsAfter event.data db.subscriptions := by
  have hcustomer := Stripe.byCustomer_own h.schema h.mirrors h.mem h.customer
  have hsubscription := Stripe.bySubscription_own h.schema h.mirrors h.mem h.customer
  revert hsent hof
  unfold rowStep isCreated patchRow OfSubscription
  cases event.data with
  | subscriptionCreated sub =>
    intro hsent hof
    have hown : sub.customer.customerId = stripe.customerOf sid := hof ▸ hsent
    rw [if_pos (Or.inr rfl), subscriptionsAfter, hown, hcustomer]
    exact mem_saveWith h.mem _
  | subscriptionUpdated sub =>
    rintro - rfl
    simp only [Bool.false_eq_true, or_false, subscriptionsAfter, hsubscription]
    split
    · exact mem_saveWith h.mem _
    · exact h.mem
  | subscriptionDeleted sub =>
    rintro - rfl
    simp only [Bool.false_eq_true, or_false, subscriptionsAfter, hsubscription]
    split
    · exact mem_saveWith h.mem _
    · exact h.mem
  | invoicePaid inv => exact fun _ hof => hof.elim
  | invoicePaymentFailed inv => exact fun _ hof => hof.elim
  | customerCreated customer => exact fun _ hof => hof.elim
  | other eventType => exact fun _ hof => hof.elim

theorem rowStep_owner (sid : String) (row : Subscription) (event : StripeEvent) :
    (rowStep sid row event).tenantId = row.tenantId ∧
    (rowStep sid row event).stripeCustomerId = row.stripeCustomerId := by
  unfold rowStep
  split
  · exact patchRow_owner row event
  · exact ⟨rfl, rfl⟩

theorem MeantFor.deliver {db : BillingDb} {row : Subscription} (h : MeantFor stripe sid db row)
    {event : StripeEvent} (hsent : stripe.Says event.data) (hof : OfSubscription sid event)
    (env : Env) (new : db.isProcessed event.id = false) :
    MeantFor stripe sid (db.deliver env event) (rowStep sid row event) := by
  have hmirrors : stripe.Mirrors (db.deliver env event) :=
    Stripe.handleWebhook_mirrors env hsent _ 0 db h.mirrors
  have hrows : (db.deliver env event).subscriptions =
      subscriptionsAfter event.data db.subscriptions := by
    rw [deliver_new new, processed_subscriptions]
  refine ⟨⟨?_⟩, hmirrors, ?_, (rowStep_owner sid row event).2.trans h.customer⟩
  · rw [hrows, subscriptionsAfter_tenants]
    exact h.schema.uq_subscription_tenant
  · rw [hrows]
    exact h.rowStep_mem hsent hof

/-- The events whose delivery is processed, in the order of their first delivery. -/
def firstDeliveries (db : BillingDb) (deliveries : List (Env × StripeEvent)) : List StripeEvent :=
  (fresh (fun d : Env × StripeEvent => d.2.id) db.isProcessed deliveries).map (·.2)

/-- The row after any deliveries. -/
theorem row_after {db : BillingDb} {row : Subscription} (h : MeantFor stripe sid db row)
    {deliveries : List (Env × StripeEvent)}
    (hof : ∀ d ∈ deliveries, stripe.Says d.2.data ∧ OfSubscription sid d.2) :
    byTenant row.tenantId (deliverAll db deliveries).subscriptions =
      some (run (rowStep sid) row (firstDeliveries db deliveries)) := by
  have howner : ∀ r d, (rowStep sid r d).tenantId = r.tenantId := fun r d =>
    (rowStep_owner sid r d).1
  have hrefines := @fresh_refines _ _ _ _ (fun d : Env × StripeEvent => d.2.id) deliveries _
    (fun db d => db.deliver d.1 d.2) (fun r d => rowStep sid r d.2) BillingDb.isProcessed
    (MeantFor stripe sid) _ (fun _ _ done => deliver_again done)
    (fun _ _ new => isProcessed_deliver new)
    (fun _ _ d hd hr new => hr.deliver hd.1 hd.2 d.1 new) _ _ h hof
  have htenant : (run (rowStep sid) row (firstDeliveries db deliveries)).tenantId =
      row.tenantId :=
    run_invariant (I := fun r => r.tenantId = row.tenantId)
      (fun r d ht => (howner r d).trans ht) rfl _
  have hfirst : MeantFor stripe sid (deliverAll db deliveries)
      (run (rowStep sid) row (firstDeliveries db deliveries)) := by
    unfold run firstDeliveries
    rw [List.foldl_map]
    exact hrefines
  rw [← htenant]
  exact hfirst.byTenant

/-! ## The orders that occur -/

theorem mem_pending {db : BillingDb} {history : List StripeEvent} {e : StripeEvent} :
    e ∈ pending db history ↔ e ∈ history ∧ db.isProcessed e.id = false := by
  rw [pending, List.mem_filter, Bool.not_eq_true']

/-- Deliveries of different events. -/
theorem firstDeliveries_of_nodup (db : BillingDb) (env : Env) {events : List StripeEvent}
    (ids : (events.map (·.id)).Nodup) :
    firstDeliveries db (events.map fun e => (env, e)) = pending db events := by
  unfold firstDeliveries pending
  rw [fresh_of_nodup (by rwa [List.map_map]), List.filter_map, List.map_map]
  exact List.map_id _

theorem firstDeliveries_perm {db : BillingDb} {history : List StripeEvent}
    (ids : (history.map (·.id)).Nodup) {deliveries : List (Env × StripeEvent)}
    (h : Delivers deliveries history) :
    (firstDeliveries db deliveries).Perm (pending db history) := by
  have hnd : ((firstDeliveries db deliveries).map (·.id)).Nodup := by
    unfold firstDeliveries
    rw [List.map_map]
    exact fresh_keys_nodup _ _ deliveries
  refine (List.perm_ext_iff_of_nodup hnd.of_map ((ids.of_map).filter _)).mpr fun e => ?_
  unfold firstDeliveries
  rw [List.mem_map, ← pending, mem_pending]
  constructor
  · rintro ⟨d, hd, rfl⟩
    obtain ⟨hmem, hnew⟩ := mem_fresh hd
    exact ⟨h.only d hmem, hnew⟩
  · rintro ⟨he, hnew⟩
    obtain ⟨d, hd, rfl⟩ := h.all e he
    obtain ⟨j, hj, hid⟩ := @exists_fresh _ _ _ (fun d : Env × StripeEvent => d.2.id) _ _ _ hd hnew
    exact ⟨j, hj, nodup_keys_inj ids (h.only j (mem_fresh hj).1) he hid⟩

/-- Every order of the pending events is that of some deliveries. -/
theorem every_order {db : BillingDb} (env : Env) {history order : List StripeEvent}
    (ids : (history.map (·.id)).Nodup) (hperm : order.Perm (pending db history)) :
    ∃ deliveries, Delivers deliveries history ∧ firstDeliveries db deliveries = order := by
  -- those that were processed come first and are dropped
  let events := (history.filter fun e => !!db.isProcessed e.id) ++ order
  have hevents : events.Perm history := by
    refine (hperm.append_left _).trans ?_
    have hsplit := List.filter_append_perm (fun e => !db.isProcessed e.id) history
    exact List.perm_append_comm.trans hsplit
  refine ⟨events.map fun e => (env, e), ⟨?_, ?_⟩, ?_⟩
  · intro d hd
    obtain ⟨e, he, rfl⟩ := List.mem_map.mp hd
    exact hevents.mem_iff.mp he
  · intro e he
    exact ⟨(env, e), List.mem_map_of_mem (hevents.mem_iff.mpr he), rfl⟩
  · rw [firstDeliveries_of_nodup db env ((hevents.map _).nodup_iff.mpr ids), pending,
      List.filter_append, List.filter_filter]
    have hdone : history.filter (fun e => !db.isProcessed e.id && !!db.isProcessed e.id) = [] := by
      refine List.filter_eq_nil_iff.mpr fun e _ => ?_
      cases db.isProcessed e.id <;> decide
    rw [hdone, List.nil_append]
    refine List.filter_eq_self.mpr fun e he => ?_
    rw [(mem_pending.mp (hperm.mem_iff.mp he)).2]
    rfl

/-! ## The law -/

/-- In every state that Stripe's messages lead to, the row of the subscription's tenant does not
    depend on the order of delivery if and only if the pending events' order is irrelevant. -/
theorem delivery_order_iff {db : BillingDb} (hr : stripe.Reachable db) {row : Subscription}
    (hrow : row ∈ db.subscriptions) (hcustomer : row.stripeCustomerId = stripe.customerOf sid)
    {history : List StripeEvent} (hh : History stripe sid history) :
    OrderIndependent db row.tenantId history ↔ OrderIrrelevant sid row (pending db history) := by
  have hreach : Reachable db := hr.imp fun _ h => h.2
  have hmeant : MeantFor stripe sid db row :=
    ⟨(reachable_sound hreach).schema, Stripe.reachable_mirrors hr, hrow, hcustomer⟩
  have hof : ∀ deliveries, Delivers deliveries history →
      ∀ d ∈ deliveries, stripe.Says d.2.data ∧ OfSubscription sid d.2 := fun _ hd d hmem =>
    ⟨hh.sent _ (hd.only d hmem), hh.ofSubscription _ (hd.only d hmem)⟩
  have hcreation : ∀ env, byTenant row.tenantId
      (deliverAll db (history.map fun e => (env, e))).subscriptions =
      some (run (rowStep sid) row (pending db history)) := by
    intro env
    rw [row_after hmeant, firstDeliveries_of_nodup db env hh.ids]
    refine hof _ ⟨?_, fun e he => ⟨(env, e), List.mem_map_of_mem he, rfl⟩⟩
    intro d hd
    obtain ⟨e, he, rfl⟩ := List.mem_map.mp hd
    exact he
  rw [← orders_agree_iff row fun e he => hh.ofSubscription e (mem_pending.mp he).1]
  constructor
  · intro h order hperm
    let env : Env := { now := 0, channel := true }
    obtain ⟨deliveries, hd, hfirst⟩ := every_order env hh.ids hperm
    have hsame := h env deliveries hd
    rw [hcreation, row_after hmeant (hof _ hd), hfirst] at hsame
    exact Option.some.inj hsame
  · intro h env deliveries hd
    rw [hcreation, row_after hmeant (hof _ hd), h _ (firstDeliveries_perm hh.ids hd)]

namespace Sample

/-- One tenant and one customer. -/
def account : Stripe := { tenantOf := fun _ => "t1", customerOf := fun _ => "cus_1" }

/-- Tenant `t1` is provisioned as `cus_1` and takes a subscription. -/
def subscribing : List BillingInput :=
  [.provisioned env ⟨"t1", "acme", "pro", "admin@acme.com"⟩ "cus_1" noFaults,
   .webhook env (.ok ⟨"evt_1", 0, .subscriptionCreated subscription⟩) noFaults]

def subscribed : BillingDb := run BillingDb.step .empty subscribing

def subscribedRow : Subscription :=
  { tenantId := "t1", stripeCustomerId := "cus_1", stripeSubscriptionId := some "sub_1",
    planCode := "pro", status := .active, currentPeriodStart := some 0,
    currentPeriodEnd := some 2592000000, cancelAtPeriodEnd := false }

theorem subscribed_rows : subscribed.subscriptions = [subscribedRow] := by decide +kernel

theorem subscribed_reachable : account.Reachable subscribed := by
  refine ⟨subscribing, ⟨rfl, ?_, trivial⟩, rfl⟩
  exact show CustomerRef.customerId _ = _ from rfl

/-- An update, then the end of the subscription. -/
def ending : List StripeEvent :=
  [⟨"evt_2", 10, .subscriptionUpdated subscription⟩,
   ⟨"evt_3", 20, .subscriptionDeleted subscription⟩]

/-- Two updates with the same content. -/
def touched : List StripeEvent :=
  [⟨"evt_2", 10, .subscriptionUpdated subscription⟩,
   ⟨"evt_3", 20, .subscriptionUpdated subscription⟩]

theorem ending_history : History account "sub_1" ending :=
  { sent := by simp [ending, Stripe.Says, account, subscription, CustomerRef.customerId]
    ofSubscription := by simp [ending, OfSubscription, subscription]
    times := by simp [ending]
    ids := by simp [ending] }

theorem touched_history : History account "sub_1" touched :=
  { sent := by simp [touched, Stripe.Says, account, subscription, CustomerRef.customerId]
    ofSubscription := by simp [touched, OfSubscription, subscription]
    times := by simp [touched]
    ids := by simp [touched] }

theorem touched_pending : pending subscribed touched = touched := by decide +kernel

end Sample

theorem delivery_order_iff_sample : OrderIndependent Sample.subscribed "t1" Sample.touched := by
  refine (@delivery_order_iff _ "sub_1" _ Sample.subscribed_reachable Sample.subscribedRow ?_ rfl
    _ Sample.touched_history).mpr (Or.inr ?_)
  · rw [Sample.subscribed_rows]
    exact List.mem_singleton_self _
  · rw [Sample.touched_pending]
    refine { status := ?_, period := ?_, plan := ?_, cancel := ?_, own := fun h => absurd rfl h }
    all_goals
      intro e he f hf v w hv hw
      simp only [Sample.touched, List.mem_cons, List.not_mem_nil, or_false] at he hf
      obtain rfl | rfl := he <;> obtain rfl | rfl := hf <;> exact Option.some.inj (hv.symm.trans hw)

/-- Delivered after the end of the subscription, an earlier update makes the row active again. -/
theorem events_reordered :
    Sample.account.Reachable Sample.subscribed ∧
    Sample.subscribedRow ∈ Sample.subscribed.subscriptions ∧
    Sample.subscribedRow.stripeCustomerId = Sample.account.customerOf "sub_1" ∧
    History Sample.account "sub_1" Sample.ending ∧
    ¬ OrderIndependent Sample.subscribed "t1" Sample.ending := by
  refine ⟨Sample.subscribed_reachable, ?_, rfl, Sample.ending_history, fun h => ?_⟩
  · rw [Sample.subscribed_rows]
    exact List.mem_singleton_self _
  · have hd : Delivers (Sample.ending.reverse.map fun e => (Sample.env, e)) Sample.ending :=
      ⟨by simp [Sample.ending], by simp [Sample.ending]⟩
    have hlate : byTenant "t1" (deliverAll Sample.subscribed
        (Sample.ending.reverse.map fun e => (Sample.env, e))).subscriptions =
        some Sample.subscribedRow := by decide +kernel
    have hcreation : byTenant "t1" (deliverAll Sample.subscribed
        (Sample.ending.map fun e => (Sample.env, e))).subscriptions =
        some (cancelRow Sample.subscribedRow) := by decide +kernel
    have hsame := h Sample.env _ hd
    rw [hlate, hcreation] at hsame
    exact absurd hsame (by decide)

end SaasChassis.Billing
