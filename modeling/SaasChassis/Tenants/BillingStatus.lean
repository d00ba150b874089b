/-
  The billing engine and the tenant manager together: does a tenant's status follow its
  subscription's?

  The engine publishes a subscription's status with the routing key `subscription.status`, the
  tenant manager handles the pattern `subscription-status`. So no message arrives
  (`step_tenants_eq`), and after a message about a tenant the two statuses agree only if the
  tenant had the right one before (`follows_iff`). `canceled_not_followed` is a run in which it
  had not. (A message that arrived would not do either: the engine's `canceled`, `unpaid` and
  `trialing` are none of the strings the handler knows.)

  No call fails, and every message published is routed, once and in order.
-/
import SaasChassis.Billing.PublishedStatus
import SaasChassis.Tenants.Lifecycle

namespace SaasChassis.Tenants

open SaasChassis.Lib Faulty
open Billing (BillingDb StripeEvent EventData Subscription SubscriptionStatus byCustomer
  bySubscription subscriptionsAfter messagesOf statusMessage saveWith setStatus byCustomer_mem
  bySubscription_mem)

/-! ## The two services -/

/-- BillingEventsController: the handler registered for a message's routing key. -/
def handlerOf (env : Env) (m : Billing.Message) : Option (Method Unit) :=
  match m.routingKey, m.body with
  | "billing-synced", .billingSynced tenantId stripeCustomerId =>
    some (handleBillingSynced { tenantId, stripeCustomerId })
  | "subscription-status", .subscriptionStatus tenantId status plan =>
    some (handleSubscriptionStatus env { tenantId, status, plan })
  | _, _ => none

/-- A message without a handler is dropped. -/
def receive (env : Env) (db : TenantDb) (m : Billing.Message) : TenantDb :=
  match handlerOf env m with
  | some handler => (handler noFaults 0 db).2.2
  | none => db

structure Services where
  billing : BillingDb
  tenants : TenantDb

/-- A Stripe event, and when it is processed. -/
structure Delivery where
  now : ℤ
  event : StripeEvent

def Delivery.billingEnv (d : Delivery) : Billing.Env := { now := d.now, channel := true }

def Delivery.tenantEnv (d : Delivery) : Env :=
  { now := d.now, channel := true, identityService := true }

/-- What the engine publishes for the event. -/
def Services.published (s : Services) (d : Delivery) : List Billing.Message :=
  (s.billing.deliver d.billingEnv d.event).messages.drop s.billing.messages.length

/-- The engine processes the event, then the tenant manager receives what was published. -/
def Services.step (s : Services) (d : Delivery) : Services :=
  { billing := s.billing.deliver d.billingEnv d.event
    tenants := (s.published d).foldl (receive d.tenantEnv) s.tenants }

/-! ## Statement -/

/-- The tenant's status is the one for the subscription's. -/
def Agrees : SubscriptionStatus → TenantStatus → Prop
  | .canceled, status => status = .cancelled
  | .pastDue, status | .unpaid, status => status = .suspended
  | .active, status | .trialing, status => status = .active
  | _, _ => True

/-- The message is the status of a subscription of the tenant. -/
def IsAbout (tenantId : String) (m : Billing.Message) : Prop :=
  ∃ status plan, m = ⟨"chassis.billing", "subscription.status",
    .subscriptionStatus tenantId status plan⟩

/-- After a message about the tenant, its status is the one for its stored subscription. -/
def Follows (tenantId : String) (s : Services) (d : Delivery) : Prop :=
  (∃ m ∈ s.published d, IsAbout tenantId m) →
    ∀ sub ∈ (s.step d).billing.subscriptions, sub.tenantId = tenantId →
      ∀ t, tenantById tenantId (s.step d).tenants.tenants = some t → Agrees sub.status t.status

/-- A status message about the row's tenant is published. -/
def Notified (rows : List Subscription) (row : Subscription) : EventData → Prop
  | .subscriptionCreated sub | .subscriptionUpdated sub | .subscriptionDeleted sub =>
    byCustomer sub.customer.customerId rows = some row
  | .invoicePaid inv => byCustomer inv.customerId rows = some row ∧ row.status = .pastDue
  | .invoicePaymentFailed inv => byCustomer inv.customerId rows = some row
  | _ => False

/-- The status that the event leaves in the row of the tenant it is published for. -/
def statusLeft (rows : List Subscription) (row : Subscription) : EventData → SubscriptionStatus
  | .subscriptionCreated sub => sub.status
  | .subscriptionUpdated sub =>
    if bySubscription sub.id rows = some row then sub.status else row.status
  | .subscriptionDeleted sub =>
    if bySubscription sub.id rows = some row then .canceled else row.status
  | .invoicePaid _ => .active
  | .invoicePaymentFailed _ => .pastDue
  | _ => row.status

/-- The tenant has the status for what the event leaves already. -/
def FollowsAlready (tenantId : String) (s : Services) (d : Delivery) : Prop :=
  s.billing.isProcessed d.event.id = false →
    ∀ row ∈ s.billing.subscriptions, row.tenantId = tenantId →
      Notified s.billing.subscriptions row d.event.data →
      ∀ t, tenantById tenantId s.tenants.tenants = some t →
        Agrees (statusLeft s.billing.subscriptions row d.event.data) t.status

/-! ## What arrives -/

theorem statusMessage_key {rows : List Subscription} {c : String} {status : SubscriptionStatus}
    {plan : Option String} {m : Billing.Message} (h : m ∈ statusMessage rows c status plan) :
    m.routingKey = "subscription.status" := by
  unfold statusMessage at h
  split at h
  · rw [List.mem_singleton.mp h]
  · exact absurd h List.not_mem_nil

/-- The engine's routing keys for Stripe events. -/
theorem messagesOf_key {benv : Billing.Env} {data : EventData} {rows : List Subscription}
    {m : Billing.Message} (h : m ∈ messagesOf benv data rows) :
    m.routingKey = "subscription.status" ∨ m.routingKey = "billing.subscription.created" ∨
      m.routingKey = "billing.payment.succeeded" := by
  unfold messagesOf at h
  cases data with
  | subscriptionCreated sub =>
    obtain h | h := List.mem_append.mp h
    · exact Or.inl (statusMessage_key h)
    · exact Or.inr (Or.inl (by rw [List.mem_singleton.mp h]))
  | subscriptionUpdated sub => exact Or.inl (statusMessage_key h)
  | subscriptionDeleted sub => exact Or.inl (statusMessage_key h)
  | invoicePaid inv =>
    dsimp only at h
    split at h
    · obtain rfl | h := List.mem_cons.mp h
      · exact Or.inr (Or.inr rfl)
      · split at h
        · exact Or.inl (statusMessage_key h)
        · exact absurd h List.not_mem_nil
    · exact absurd h List.not_mem_nil
  | invoicePaymentFailed inv =>
    dsimp only at h
    split at h
    · exact Or.inl (statusMessage_key h)
    · exact absurd h List.not_mem_nil
  | customerCreated customer => exact absurd h List.not_mem_nil
  | other eventType => exact absurd h List.not_mem_nil

/-- None of them is a pattern of the tenant manager. -/
theorem receive_eq {env : Env} {db : TenantDb} {m : Billing.Message}
    (h : m.routingKey = "subscription.status" ∨ m.routingKey = "billing.subscription.created" ∨
      m.routingKey = "billing.payment.succeeded") : receive env db m = db := by
  have hnone : handlerOf env m = none := by
    unfold handlerOf
    obtain h | h | h := h
    all_goals
      rw [h]
      cases m.body <;> rfl
  unfold receive
  rw [hnone]

theorem published_eq (s : Services) (d : Delivery) :
    s.published d = if s.billing.isProcessed d.event.id then []
      else messagesOf d.billingEnv d.event.data s.billing.subscriptions := by
  unfold Services.published
  cases hp : s.billing.isProcessed d.event.id with
  | true =>
    rw [Billing.deliver_again hp, List.drop_length]
    rfl
  | false =>
    rw [Billing.deliver_new hp, Billing.processed_messages]
    exact List.drop_left

/-- So the tenants never change. -/
theorem step_tenants_eq (s : Services) (d : Delivery) : (s.step d).tenants = s.tenants := by
  have hkeys : ∀ m ∈ s.published d, m.routingKey = "subscription.status" ∨
      m.routingKey = "billing.subscription.created" ∨
      m.routingKey = "billing.payment.succeeded" := by
    intro m hm
    rw [published_eq] at hm
    split at hm
    · exact absurd hm List.not_mem_nil
    · exact messagesOf_key hm
  show (s.published d).foldl (receive d.tenantEnv) s.tenants = s.tenants
  generalize s.published d = messages at hkeys
  induction messages with
  | nil => rfl
  | cons m messages ih =>
    rw [List.forall_mem_cons] at hkeys
    rw [List.foldl_cons, receive_eq hkeys.1]
    exact ih hkeys.2

/-! ## What the engine stores and publishes -/

theorem audit_not_about {tenantId : String} {m : Billing.Message}
    (h : m.exchange = "chassis.audit") : ¬ IsAbout tenantId m := by
  rintro ⟨status, plan, rfl⟩
  exact absurd h (show "chassis.billing" ≠ "chassis.audit" by decide)

theorem exists_statusMessage {rows : List Subscription} {c : String} {status : SubscriptionStatus}
    {plan : Option String} {tenantId : String} :
    (∃ m ∈ statusMessage rows c status plan, IsAbout tenantId m) ↔
      (byCustomer c rows).map (·.tenantId) = some tenantId := by
  unfold statusMessage IsAbout
  cases byCustomer c rows with
  | none => simp
  | some row => simp [eq_comm]

section Stored

variable {rows : List Subscription} (hnd : (rows.map (·.tenantId)).Nodup)

include hnd

theorem saveWith_customer {found : Option Subscription} (hfound : ∀ e, found = some e → e ∈ rows)
    {f : Subscription → Subscription} (hcustomer : ∀ row, (f row).stripeCustomerId =
      row.stripeCustomerId) (htenant : ∀ row, (f row).tenantId = row.tenantId) (c : String) :
    (byCustomer c (saveWith found f rows)).map (·.tenantId) =
      (byCustomer c rows).map (·.tenantId) := by
  cases found with
  | none => rfl
  | some e =>
    rw [saveWith, Billing.byCustomer_save hnd (hfound e rfl) hcustomer, Option.map_map]
    congr 1
    funext row
    show (if row.tenantId = e.tenantId then f row else row).tenantId = row.tenantId
    split
    · exact htenant row
    · rfl

omit hnd in
theorem setStatus_customer (t : String) (status : SubscriptionStatus) (c : String) :
    (byCustomer c (setStatus t status rows)).map (·.tenantId) =
      (byCustomer c rows).map (·.tenantId) := by
  rw [Billing.byCustomer_setStatus, Option.map_map]
  congr 1
  funext row
  show (if row.tenantId = t then { row with status := status } else row).tenantId = row.tenantId
  split <;> rfl

omit hnd in
theorem exists_byCustomer {c tenantId : String} :
    (byCustomer c rows).map (·.tenantId) = some tenantId ↔
      ∃ row ∈ rows, row.tenantId = tenantId ∧ byCustomer c rows = some row := by
  rw [Option.map_eq_some_iff]
  exact ⟨fun ⟨row, h, ht⟩ => ⟨row, (byCustomer_mem h).1, ht, h⟩,
    fun ⟨row, _, ht, h⟩ => ⟨row, h, ht⟩⟩

/-- Saving a row does not change whom the status message that follows is about. -/
theorem exists_saved {found : Option Subscription} (hfound : ∀ e, found = some e → e ∈ rows)
    {f : Subscription → Subscription} (hcustomer : ∀ row, (f row).stripeCustomerId =
      row.stripeCustomerId) (htenant : ∀ row, (f row).tenantId = row.tenantId) {c : String}
    {status : SubscriptionStatus} {plan : Option String} {tenantId : String} :
    (∃ m ∈ statusMessage (saveWith found f rows) c status plan, IsAbout tenantId m) ↔
      ∃ row ∈ rows, row.tenantId = tenantId ∧ byCustomer c rows = some row := by
  rw [exists_statusMessage, saveWith_customer hnd hfound hcustomer htenant]
  exact exists_byCustomer

omit hnd in
theorem exists_set {t c : String} {before status : SubscriptionStatus} {plan : Option String}
    {tenantId : String} :
    (∃ m ∈ statusMessage (setStatus t before rows) c status plan, IsAbout tenantId m) ↔
      ∃ row ∈ rows, row.tenantId = tenantId ∧ byCustomer c rows = some row := by
  rw [exists_statusMessage, setStatus_customer]
  exact exists_byCustomer

/-- Which tenant an event's status message is about. -/
theorem exists_message {benv : Billing.Env} {data : EventData} {tenantId : String} :
    (∃ m ∈ messagesOf benv data rows, IsAbout tenantId m) ↔
      ∃ row ∈ rows, row.tenantId = tenantId ∧ Notified rows row data := by
  cases data with
  | subscriptionCreated sub =>
    have haudit : ¬ IsAbout tenantId ⟨"chassis.audit", "billing.subscription.created",
        .subscriptionCreated sub.id sub.customer.customerId sub.status.text benv.now⟩ :=
      audit_not_about rfl
    have hstatus : (∃ m ∈ messagesOf benv (.subscriptionCreated sub) rows, IsAbout tenantId m) ↔
        ∃ m ∈ statusMessage (saveWith (byCustomer sub.customer.customerId rows) sub.linkTo rows)
          sub.customer.customerId sub.status none, IsAbout tenantId m := by
      simp [messagesOf, subscriptionsAfter, or_and_right, exists_or, haudit]
    exact hstatus.trans (exists_saved hnd (fun _ he => (byCustomer_mem he).1) (f := sub.linkTo)
      (fun _ => rfl) fun _ => rfl)
  | subscriptionUpdated sub =>
    exact exists_saved hnd (fun _ he => (bySubscription_mem he).1) (f := sub.updateOf)
      (fun _ => rfl) fun _ => rfl
  | subscriptionDeleted sub =>
    exact exists_saved hnd (fun _ he => (bySubscription_mem he).1) (f := Billing.cancelRow)
      (fun _ => rfl) fun _ => rfl
  | invoicePaid inv =>
    have hpaid : ∀ t, ¬ IsAbout tenantId ⟨"chassis.audit", "billing.payment.succeeded",
        inv.paymentSucceeded benv t⟩ :=
      fun _ => audit_not_about rfl
    cases hc : byCustomer inv.customerId rows with
    | none => simp [messagesOf, Notified, hc]
    | some row =>
      by_cases hdue : row.status = .pastDue
      · have hstatus : (∃ m ∈ messagesOf benv (.invoicePaid inv) rows, IsAbout tenantId m) ↔
            ∃ m ∈ statusMessage (setStatus row.tenantId .active rows) inv.customerId .active none,
              IsAbout tenantId m := by
          simp [messagesOf, subscriptionsAfter, hc, hdue, hpaid]
        rw [hstatus, exists_set]
        refine exists_congr fun row' => and_congr_right fun _ => and_congr_right fun _ => ?_
        refine (and_iff_left_of_imp fun hrow' => ?_).symm
        rw [← Option.some.inj (hc.symm.trans hrow')]
        exact hdue
      · simp [messagesOf, Notified, hc, hdue, hpaid]
  | invoicePaymentFailed inv =>
    cases hc : byCustomer inv.customerId rows with
    | none => simp [messagesOf, Notified, hc]
    | some row =>
      have hstatus : messagesOf benv (.invoicePaymentFailed inv) rows =
          statusMessage (setStatus row.tenantId .pastDue rows) inv.customerId .pastDue none := by
        simp only [messagesOf, subscriptionsAfter, hc]
      rw [hstatus]
      exact exists_set
  | customerCreated customer => simp [messagesOf, Notified]
  | other eventType => simp [messagesOf, Notified]

/-- The customer's row after a save of the row found by subscription id. -/
theorem saved_row {row : Subscription} (hrow : row ∈ rows) {found : Option Subscription}
    (hfound : ∀ e, found = some e → e ∈ rows) {f : Subscription → Subscription}
    (hf : ∀ row, (f row).tenantId = row.tenantId) {status : SubscriptionStatus}
    (hstatus : ∀ row, (f row).status = status) :
    ∃ row' ∈ saveWith found f rows, row'.tenantId = row.tenantId ∧
      row'.status = if found = some row then status else row.status := by
  cases found with
  | none => exact ⟨row, hrow, rfl, rfl⟩
  | some e =>
    by_cases he : e = row
    · subst he
      refine ⟨f e, mem_updateKey.mpr (Or.inl ⟨e, hrow, rfl, rfl⟩), hf e, ?_⟩
      rw [hstatus, if_pos rfl]
    · refine ⟨row, mem_updateKey.mpr (Or.inr ⟨hrow, fun ht => he ?_⟩), rfl, ?_⟩
      · exact nodup_keys_inj hnd (hfound e rfl) hrow ht.symm
      · rw [if_neg fun h => he (Option.some.inj h)]

omit hnd in
theorem set_row {row : Subscription} (hrow : row ∈ rows) (status : SubscriptionStatus) :
    ∃ row' ∈ setStatus row.tenantId status rows, row'.tenantId = row.tenantId ∧
      row'.status = status :=
  ⟨_, mem_updateKey.mpr (Or.inl ⟨row, hrow, rfl, rfl⟩), rfl, rfl⟩

/-- The row of the tenant that is notified, after the event. -/
theorem status_left {row : Subscription} {data : EventData} (h : Notified rows row data) :
    ∃ row' ∈ subscriptionsAfter data rows, row'.tenantId = row.tenantId ∧
      row'.status = statusLeft rows row data := by
  cases data with
  | subscriptionCreated sub =>
    obtain ⟨row', hrow', ht, hs⟩ := saved_row hnd (byCustomer_mem h).1
      (fun _ he => (byCustomer_mem he).1) (f := sub.linkTo) (fun _ => rfl) fun _ => rfl
    exact ⟨row', hrow', ht, hs.trans (if_pos h)⟩
  | subscriptionUpdated sub =>
    exact saved_row hnd (byCustomer_mem h).1 (fun _ he => (bySubscription_mem he).1)
      (f := sub.updateOf) (fun _ => rfl) fun _ => rfl
  | subscriptionDeleted sub =>
    exact saved_row hnd (byCustomer_mem h).1 (fun _ he => (bySubscription_mem he).1)
      (f := Billing.cancelRow) (fun _ => rfl) fun _ => rfl
  | invoicePaid inv =>
    obtain ⟨hfound, hdue⟩ := h
    have hafter : subscriptionsAfter (.invoicePaid inv) rows =
        setStatus row.tenantId .active rows := by
      simp only [subscriptionsAfter, hfound, if_pos hdue]
    rw [hafter]
    exact set_row (byCustomer_mem hfound).1 .active
  | invoicePaymentFailed inv =>
    have hafter : subscriptionsAfter (.invoicePaymentFailed inv) rows =
        setStatus row.tenantId .pastDue rows := by
      simp only [subscriptionsAfter, show byCustomer inv.customerId rows = some row from h]
    rw [hafter]
    exact set_row (byCustomer_mem h).1 .pastDue
  | customerCreated customer => exact h.elim
  | other eventType => exact h.elim

end Stored

/-! ## The law -/

theorem follows_step_iff {s : Services} (hs : s.billing.Schema) (tenantId : String)
    (d : Delivery) : Follows tenantId s d ↔ FollowsAlready tenantId s d := by
  have hnd := hs.uq_subscription_tenant
  unfold Follows FollowsAlready
  rw [published_eq, step_tenants_eq]
  cases hp : s.billing.isProcessed d.event.id with
  | true => simp
  | false =>
    have hrows : (s.step d).billing.subscriptions =
        subscriptionsAfter d.event.data s.billing.subscriptions := by
      show (s.billing.deliver d.billingEnv d.event).subscriptions = _
      rw [Billing.deliver_new hp, Billing.processed_subscriptions]
    rw [if_neg Bool.false_ne_true, exists_message hnd, hrows]
    constructor
    · rintro h - row hrow htenant hnotified t ht
      obtain ⟨row', hrow', htenant', hstatus⟩ := status_left hnd hnotified
      rw [← hstatus]
      exact h ⟨row, hrow, htenant, hnotified⟩ row' hrow' (htenant'.trans htenant) t ht
    · rintro h ⟨row, hrow, htenant, hnotified⟩ sub hsub hsubTenant t ht
      obtain ⟨row', hrow', htenant', hstatus⟩ := status_left hnd hnotified
      have hafter : ((subscriptionsAfter d.event.data s.billing.subscriptions).map
          (·.tenantId)).Nodup := by
        rw [Billing.subscriptionsAfter_tenants]
        exact hnd
      have hsame : sub = row' :=
        nodup_keys_inj hafter hsub hrow' (hsubTenant.trans (htenant'.trans htenant).symm)
      rw [hsame, hstatus]
      exact h rfl row hrow htenant hnotified t ht

theorem Services.step_schema {s : Services} (hs : s.billing.Schema) (d : Delivery) :
    (s.step d).billing.Schema := by
  refine ⟨?_⟩
  show ((s.billing.deliver d.billingEnv d.event).subscriptions.map (·.tenantId)).Nodup
  cases hp : s.billing.isProcessed d.event.id with
  | true =>
    rw [Billing.deliver_again hp]
    exact hs.uq_subscription_tenant
  | false =>
    rw [Billing.deliver_new hp, Billing.processed_subscriptions,
      Billing.subscriptionsAfter_tenants]
    exact hs.uq_subscription_tenant

/-- From every state of the billing engine, whatever tenants are stored: along a run the tenant's
    status follows its subscription's if and only if, at each message about the tenant, it is
    the one for the new status already. -/
theorem follows_iff {s : Services} (hr : Billing.Reachable s.billing) (tenantId : String)
    (deliveries : List Delivery) :
    StepsSatisfy Services.step (Follows tenantId) s deliveries ↔
      StepsSatisfy Services.step (FollowsAlready tenantId) s deliveries :=
  stepsSatisfy_congr (I := fun s : Services => s.billing.Schema)
    (fun _ d hs _ => Services.step_schema hs d) (fun _ d hs => follows_step_iff hs tenantId d)
    (Billing.reachable_sound hr).schema deliveries

namespace Sample

/-- The tenant `t1`, provisioned in both services, with an active subscription. -/
def subscribed : Services :=
  { billing := run BillingDb.step .empty
      [.provisioned Billing.Sample.env ⟨"t1", "acme-0000", "free", "admin@acme.com"⟩ "cus_1"
         noFaults,
       .webhook Billing.Sample.env
         (.ok ⟨"evt_1", 0, .subscriptionCreated Billing.Sample.subscription⟩) noFaults]
    tenants := seed.step strings (.createTenant env dto "u1" { id := "t1", suffix := "0000" }
      noFaults) }

def renewed : Delivery :=
  { now := 2000, event := ⟨"evt_2", 1, .subscriptionUpdated Billing.Sample.subscription⟩ }

def ended : Delivery :=
  { now := 3000, event := ⟨"evt_3", 2, .subscriptionDeleted Billing.Sample.subscription⟩ }

/-- Its row, on the plan it was provisioned with. -/
def row : Subscription :=
  { tenantId := "t1", stripeCustomerId := "cus_1", stripeSubscriptionId := some "sub_1",
    planCode := "free", status := .active, currentPeriodStart := some 0,
    currentPeriodEnd := some 2592000000, cancelAtPeriodEnd := false }

theorem subscribed_rows : subscribed.billing.subscriptions = [row] := by decide +kernel

theorem renewed_rows :
    (subscribed.step renewed).billing.subscriptions = [{ row with planCode := "pro" }] := by
  decide +kernel

theorem subscribed_reachable : Billing.Reachable subscribed.billing := ⟨_, rfl⟩

def activeTenant : Tenant :=
  { archivedTenant with status := .active, cancelledAt := none }

theorem subscribed_tenant : tenantById "t1" subscribed.tenants.tenants = some activeTenant := by
  decide +kernel

end Sample

theorem follows_iff_sample :
    StepsSatisfy Services.step (Follows "t1") Sample.subscribed [Sample.renewed] := by
  refine (follows_iff Sample.subscribed_reachable "t1" _).mpr ⟨?_, trivial⟩
  intro _ row hrow _ _ t ht
  rw [Sample.subscribed_rows] at hrow ⊢
  rw [Sample.subscribed_tenant] at ht
  obtain rfl := List.mem_singleton.mp hrow
  obtain rfl := Option.some.inj ht
  rfl

/-- A tenant whose subscription ends stays active. -/
theorem canceled_not_followed :
    Billing.Reachable Sample.subscribed.billing ∧
    tenantById "t1" Sample.subscribed.tenants.tenants = some Sample.activeTenant ∧
    ¬ StepsSatisfy Services.step (Follows "t1") Sample.subscribed
      [Sample.renewed, Sample.ended] := by
  refine ⟨Sample.subscribed_reachable, Sample.subscribed_tenant, ?_⟩
  rintro ⟨_, hfollows, _⟩
  have hschema : (Sample.subscribed.step Sample.renewed).billing.Schema :=
    Services.step_schema (Billing.reachable_sound Sample.subscribed_reachable).schema _
  have hagrees := (follows_step_iff hschema "t1" Sample.ended).mp hfollows (by decide +kernel)
    { Sample.row with planCode := "pro" } ?_ rfl ?_ Sample.activeTenant ?_
  · rw [Sample.renewed_rows] at hagrees
    cases hagrees
  · rw [Sample.renewed_rows]
    exact List.mem_singleton_self _
  · rw [Sample.renewed_rows]
    rfl
  · rw [step_tenants_eq]
    exact Sample.subscribed_tenant

end SaasChassis.Tenants
