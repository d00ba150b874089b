/-
  Does a published status agree with the stored one?

  The messages of an event name the tenant of its customer. A created subscription and the two
  invoice events also update the row of that customer, so their status is the stored one. But
  updated and deleted write to the row that carries the subscription's own id: once a customer
  has a second subscription, events of the first one reach no row and are published all the same.
  `published_status_iff` gives the states in which they are right.
-/
import SaasChassis.Billing.Answers

namespace SaasChassis.Billing

open SaasChassis.Lib Faulty

/-! ## Statement -/

/-- Every status published for a tenant by processing the event is then the stored one. -/
def PublishesStored (env : Env) (event : StripeEvent) (db : BillingDb) : Prop :=
  ∀ sent, (db.deliver env event).messages = db.messages ++ sent →
    ∀ t s plan, ⟨"chassis.billing", "subscription.status", .subscriptionStatus t s plan⟩ ∈ sent →
      ∃ row ∈ (db.deliver env event).subscriptions, row.tenantId = t ∧ row.status.text = s

/-- The customer's row is the one with this subscription, or has the status already. -/
def RowFollows (rows : List Subscription) (sub : StripeSubscription)
    (status : SubscriptionStatus) : Prop :=
  ∀ row, byCustomer sub.customer.customerId rows = some row →
    bySubscription sub.id rows = some row ∨ row.status = status

/-- An updated or deleted subscription is the one its customer's row follows. -/
def EventFollowed (rows : List Subscription) : EventData → Prop
  | .subscriptionUpdated sub => RowFollows rows sub sub.status
  | .subscriptionDeleted sub => RowFollows rows sub .canceled
  | _ => True

/-! ## Rows -/

theorem text_injective {s t : SubscriptionStatus} (h : s.text = t.text) : s = t := by
  revert h
  cases s <;> cases t <;> decide

/-- Saving the row `e` with its tenant and customer as they were. -/
theorem byCustomer_save {rows : List Subscription} (hnd : (rows.map (·.tenantId)).Nodup)
    {e : Subscription} (he : e ∈ rows) {f : Subscription → Subscription}
    (hf : ∀ row, (f row).stripeCustomerId = row.stripeCustomerId) (c : String) :
    byCustomer c (updateTenant e.tenantId (fun _ => f e) rows) =
      (byCustomer c rows).map fun row => if row.tenantId = e.tenantId then f row else row := by
  unfold updateTenant byCustomer
  rw [← updateKey_const hnd he]
  refine find?_updateKey fun row _ _ => ?_
  rw [hf]

/-- Every status in the messages is stored for its tenant. -/
def StatusesStored (rows : List Subscription) (messages : List Message) : Prop :=
  ∀ t s plan, ⟨"chassis.billing", "subscription.status", .subscriptionStatus t s plan⟩ ∈ messages →
    ∃ row ∈ rows, row.tenantId = t ∧ row.status.text = s

theorem statusMessage_stored_iff {rows : List Subscription}
    (hnd : (rows.map (·.tenantId)).Nodup) (c : String) (status : SubscriptionStatus)
    (plan : Option String) :
    StatusesStored rows (statusMessage rows c status plan) ↔
      ∀ row, byCustomer c rows = some row → row.status = status := by
  unfold StatusesStored statusMessage
  cases hc : byCustomer c rows with
  | none => simp
  | some row =>
    have hmem := (byCustomer_mem hc).1
    constructor
    · intro h row' hrow'
      obtain rfl := Option.some.inj hrow'
      obtain ⟨q, hq, ht, hs⟩ := h row.tenantId status.text _ (List.mem_singleton_self _)
      obtain rfl := nodup_keys_inj hnd hq hmem ht
      exact text_injective hs
    · intro h t s p hm
      obtain ⟨rfl, rfl, -⟩ : t = row.tenantId ∧ s = status.text ∧ p = truthy plan := by
        simpa using hm
      exact ⟨row, hmem, rfl, congrArg _ (h row rfl)⟩

/-! ## The law -/

/-- The row of the customer after a save of the row found by subscription id. -/
theorem followed_iff {rows : List Subscription} (hnd : (rows.map (·.tenantId)).Nodup)
    (sub : StripeSubscription) {status : SubscriptionStatus} {f : Subscription → Subscription}
    (hcustomer : ∀ row, (f row).stripeCustomerId = row.stripeCustomerId)
    (hstatus : ∀ row, (f row).status = status) :
    (∀ row, byCustomer sub.customer.customerId (saveWith (bySubscription sub.id rows) f rows) =
        some row → row.status = status) ↔ RowFollows rows sub status := by
  unfold RowFollows
  cases he : bySubscription sub.id rows with
  | none => simp [saveWith]
  | some e =>
    have hmem := (bySubscription_mem he).1
    simp only [saveWith, byCustomer_save hnd hmem hcustomer, Option.map_eq_some_iff]
    constructor
    · intro h row hrow
      by_cases ht : row.tenantId = e.tenantId
      · exact Or.inl (by rw [nodup_keys_inj hnd hmem (byCustomer_mem hrow).1 ht.symm])
      · exact Or.inr (by simpa [ht] using h row ⟨row, hrow, if_neg ht⟩)
    · rintro h _ ⟨row, hrow, rfl⟩
      obtain hfound | hs := h row hrow
      · rw [Option.some.inj hfound, if_pos rfl]
        exact hstatus row
      · split
        · exact hstatus row
        · exact hs

/-- A created subscription is linked to the row of its customer. -/
theorem created_stored {rows : List Subscription} (hnd : (rows.map (·.tenantId)).Nodup)
    (sub : StripeSubscription) {row : Subscription}
    (h : byCustomer sub.customer.customerId
      (subscriptionsAfter (.subscriptionCreated sub) rows) = some row) :
    row.status = sub.status := by
  simp only [subscriptionsAfter] at h
  cases he : byCustomer sub.customer.customerId rows with
  | none =>
    rw [he] at h
    simp [saveWith, he] at h
  | some e =>
    have hsaved := byCustomer_save hnd (byCustomer_mem he).1 (f := sub.linkTo) (fun _ => rfl)
      sub.customer.customerId
    rw [he, Option.map_some, if_pos rfl] at hsaved
    rw [he] at h
    rw [← Option.some.inj (hsaved.symm.trans h)]
    rfl

theorem setStatus_stored {rows : List Subscription} {c : String} {e row : Subscription}
    {status : SubscriptionStatus} (he : byCustomer c rows = some e)
    (h : byCustomer c (setStatus e.tenantId status rows) = some row) : row.status = status := by
  rw [byCustomer_setStatus, he, Option.map_some, if_pos rfl] at h
  rw [← Option.some.inj h]

theorem messagesOf_stored_iff {rows : List Subscription} (hnd : (rows.map (·.tenantId)).Nodup)
    (env : Env) (data : EventData) :
    StatusesStored (subscriptionsAfter data rows) (messagesOf env data rows) ↔
      EventFollowed rows data := by
  have hafter : ((subscriptionsAfter data rows).map (·.tenantId)).Nodup := by
    rw [subscriptionsAfter_tenants]
    exact hnd
  cases data with
  | subscriptionCreated sub =>
    refine ⟨fun _ => trivial, fun _ t s plan hm => ?_⟩
    obtain hm | hm := List.mem_append.mp hm
    · exact (statusMessage_stored_iff hafter _ _ _).mpr
        (fun _ => created_stored hnd sub) t s plan hm
    · exact absurd hm (by simp)
  | subscriptionUpdated sub =>
    exact (statusMessage_stored_iff hafter _ _ _).trans (followed_iff hnd sub (fun _ => rfl)
      fun _ => rfl)
  | subscriptionDeleted sub =>
    exact (statusMessage_stored_iff hafter _ _ _).trans (followed_iff hnd sub (fun _ => rfl)
      fun _ => rfl)
  | invoicePaid inv =>
    refine ⟨fun _ => trivial, fun _ t s plan hm => ?_⟩
    cases he : byCustomer inv.customerId rows with
    | none => simp [messagesOf, he] at hm
    | some e =>
      by_cases hdue : e.status = .pastDue
      · simp only [messagesOf, subscriptionsAfter, he, if_pos hdue, List.mem_cons] at hm hafter ⊢
        obtain hm | hm := hm
        · exact absurd hm (by simp)
        · exact (statusMessage_stored_iff hafter _ _ _).mpr
            (fun _ hrow => setStatus_stored he hrow) t s plan hm
      · simp [messagesOf, he, hdue] at hm
  | invoicePaymentFailed inv =>
    refine ⟨fun _ => trivial, fun _ t s plan hm => ?_⟩
    cases he : byCustomer inv.customerId rows with
    | none => simp [messagesOf, he] at hm
    | some e =>
      simp only [messagesOf, subscriptionsAfter, he] at hm hafter ⊢
      exact (statusMessage_stored_iff hafter _ _ _).mpr
        (fun _ hrow => setStatus_stored he hrow) t s plan hm
  | customerCreated customer =>
    exact ⟨fun _ => trivial, fun _ _ _ _ hm => absurd hm List.not_mem_nil⟩
  | other eventType => exact ⟨fun _ => trivial, fun _ _ _ _ hm => absurd hm List.not_mem_nil⟩

/-- In every state the status published for a tenant is the stored one if and only if the event
    is none of the two, or nothing is published, or the customer's row follows the subscription. -/
theorem published_status_iff {db : BillingDb} (hs : db.Schema) (env : Env) (event : StripeEvent) :
    PublishesStored env event db ↔
      (env.channel = true → db.isProcessed event.id = false →
        EventFollowed db.subscriptions event.data) := by
  unfold PublishesStored
  cases hp : db.isProcessed event.id with
  | true =>
    rw [deliver_again hp]
    simp
  | false =>
    rw [deliver_new hp, processed_subscriptions, processed_messages]
    cases env.channel with
    | false => simp
    | true =>
      rw [← messagesOf_stored_iff hs.uq_subscription_tenant env]
      simp only [if_true, List.append_cancel_left_eq, forall_eq', true_implies]
      rfl

namespace Sample

def second : StripeSubscription := { subscription with id := "sub_2" }

/-- Tenant `t1` is provisioned as `cus_1` and takes two subscriptions, one after the other. -/
def resubscribing : List BillingInput :=
  [.provisioned env ⟨"t1", "acme", "pro", "admin@acme.com"⟩ "cus_1" noFaults,
   .webhook env (.ok ⟨"evt_1", 0, .subscriptionCreated subscription⟩) noFaults,
   .webhook env (.ok ⟨"evt_2", 10, .subscriptionCreated second⟩) noFaults]

def resubscribed : BillingDb := run BillingDb.step .empty resubscribing

/-- The end of the first subscription. -/
def deleted : StripeEvent := ⟨"evt_3", 20, .subscriptionDeleted subscription⟩

/-- The row follows the second one. -/
def row : Subscription :=
  { tenantId := "t1", stripeCustomerId := "cus_1", stripeSubscriptionId := some "sub_2",
    planCode := "pro", status := .active, currentPeriodStart := some 0,
    currentPeriodEnd := some 2592000000, cancelAtPeriodEnd := false }

theorem resubscribed_rows : resubscribed.subscriptions = [row] := by decide +kernel

end Sample

theorem published_status_iff_sample :
    PublishesStored Sample.env ⟨"evt_4", 30, .subscriptionDeleted Sample.second⟩
      Sample.resubscribed := by
  have hreach : Reachable Sample.resubscribed := ⟨_, rfl⟩
  refine (published_status_iff (reachable_sound hreach).schema _ _).mpr fun _ _ row hrow => ?_
  rw [Sample.resubscribed_rows] at hrow ⊢
  exact Or.inl (hrow ▸ by decide)

/-- The end of a former subscription is published as the end of the present one. -/
theorem former_subscription_published :
    Reachable Sample.resubscribed ∧
    ¬ PublishesStored Sample.env Sample.deleted Sample.resubscribed := by
  refine ⟨⟨_, rfl⟩, fun h => ?_⟩
  have hnew : Sample.resubscribed.isProcessed Sample.deleted.id = false := by decide +kernel
  unfold PublishesStored at h
  rw [deliver_new hnew, processed_subscriptions, processed_messages,
    Sample.resubscribed_rows] at h
  obtain ⟨row, hrow, _, hs⟩ := h _ rfl "t1" "canceled" none (by decide)
  obtain rfl : row = Sample.row := by
    have hafter : subscriptionsAfter Sample.deleted.data [Sample.row] = [Sample.row] := by decide
    rwa [hafter, List.mem_singleton] at hrow
  exact absurd hs (by decide)

end SaasChassis.Billing
