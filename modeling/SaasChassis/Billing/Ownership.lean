/-
  The part of the billing tables that belongs to one tenant, and the handlers at work in it.

  Stripe's customers, subscriptions, invoices and events each belong to one tenant or to none
  (`Owners`), and so do the rows that name them (`BillingDb.Owned`). `part` cuts the tables down to
  one owner. `Apart` relates a state with its part while the rest stays as it is; whatever is
  handled for the owner runs the same way from both (`handleWebhook_apart`,
  `onTenantProvisioned_apart`), whatever calls fail.
-/
import SaasChassis.Billing.Api
import SaasChassis.Lib.Coupling

namespace SaasChassis.Billing

open SaasChassis.Lib Faulty

/-! ## Owners -/

/-- The tenant that an object of Stripe belongs to, by its id. -/
structure Owners where
  customer : String → Option String
  subscription : String → Option String
  invoice : String → Option String
  event : String → Option String

/-- What an event is about belongs to `owner`. -/
def EventData.WellOwned (o : Owners) (owner : Option String) : EventData → Prop
  | .subscriptionCreated sub | .subscriptionUpdated sub | .subscriptionDeleted sub =>
    o.customer sub.customer.customerId = owner ∧ o.subscription sub.id = owner
  | .invoicePaid inv | .invoicePaymentFailed inv =>
    o.customer inv.customerId = owner ∧ o.invoice inv.id = owner
  | .customerCreated customer => o.customer customer.id = owner ∧ truthy customer.tenantId = owner
  | .other _ => True

def Message.owner (o : Owners) (m : Message) : Option String :=
  match m.body with
  | .subscriptionStatus tenantId _ _ => some tenantId
  | .subscriptionCreated _ stripeCustomerId _ _ => o.customer stripeCustomerId
  | .paymentSucceeded _ _ tenantId _ _ _ => some tenantId
  | .billingSynced tenantId _ => some tenantId

def Subscription.Owned (o : Owners) (row : Subscription) : Prop :=
  o.customer row.stripeCustomerId = some row.tenantId ∧
    ∀ id ∈ row.stripeSubscriptionId, o.subscription id = some row.tenantId

def Invoice.Owned (o : Owners) (row : Invoice) : Prop :=
  o.invoice row.stripeInvoiceId = some row.tenantId

structure BillingDb.Owned (o : Owners) (db : BillingDb) : Prop where
  subscriptions : ∀ row ∈ db.subscriptions, row.Owned o
  invoices : ∀ row ∈ db.invoices, row.Owned o

/-! ## Parts -/

/-- What belongs to `k`. -/
def part (o : Owners) (k : Option String) (db : BillingDb) : BillingDb :=
  { subscriptions := db.subscriptions.filter (some ·.tenantId = k)
    invoices := db.invoices.filter (some ·.tenantId = k)
    webhookEvents := db.webhookEvents.filter (o.event ·.stripeEventId = k)
    messages := db.messages.filter (·.owner o = k)
    handled := db.handled.filter (o.event · = k) }

/-- What does not. -/
def outside (o : Owners) (k : Option String) (db : BillingDb) : BillingDb :=
  { subscriptions := db.subscriptions.filter (some ·.tenantId ≠ k)
    invoices := db.invoices.filter (some ·.tenantId ≠ k)
    webhookEvents := db.webhookEvents.filter (o.event ·.stripeEventId ≠ k)
    messages := db.messages.filter (·.owner o ≠ k)
    handled := db.handled.filter (o.event · ≠ k) }

/-- `u` is the part of `s`, and `r` the rest of it. -/
structure Apart (o : Owners) (k : Option String) (r s u : BillingDb) : Prop where
  owned : s.Owned o
  part : u = part o k s
  rest : outside o k s = r

section Rules

variable {o : Owners} {k : Option String} {r s u : BillingDb}

/-! ### Writing -/

theorem Apart.withSubscriptions {f : List Subscription → List Subscription}
    (hin : ∀ rows, (f rows).filter (some ·.tenantId = k) = f (rows.filter (some ·.tenantId = k)))
    (hout : ∀ rows, (f rows).filter (some ·.tenantId ≠ k) = rows.filter (some ·.tenantId ≠ k))
    (howned : ∀ rows : List Subscription, (∀ row ∈ rows, row.Owned o) →
      ∀ row ∈ f rows, row.Owned o) (h : Apart o k r s u) :
    Apart o k r (s.withSubscriptions f) (u.withSubscriptions f) := by
  obtain ⟨hs, rfl, rfl⟩ := h
  refine ⟨⟨howned _ hs.subscriptions, hs.invoices⟩, ?_, ?_⟩
  · exact congrArg (fun rows => { Billing.part o k s with subscriptions := rows })
      (hin s.subscriptions).symm
  · exact congrArg (fun rows => { outside o k s with subscriptions := rows })
      (hout s.subscriptions)

theorem Apart.withInvoices {f : List Invoice → List Invoice}
    (hf : ∀ rows : List Invoice, (∀ row ∈ rows, row.Owned o) →
      (f rows).filter (some ·.tenantId = k) = f (rows.filter (some ·.tenantId = k)) ∧
        (f rows).filter (some ·.tenantId ≠ k) = rows.filter (some ·.tenantId ≠ k) ∧
          ∀ row ∈ f rows, row.Owned o) (h : Apart o k r s u) :
    Apart o k r (s.withInvoices f) (u.withInvoices f) := by
  obtain ⟨hs, rfl, rfl⟩ := h
  obtain ⟨hin, hout, howned⟩ := hf s.invoices hs.invoices
  refine ⟨⟨hs.subscriptions, howned⟩, ?_, ?_⟩
  · exact congrArg (fun rows => { Billing.part o k s with invoices := rows }) hin.symm
  · exact congrArg (fun rows => { outside o k s with invoices := rows }) hout

theorem Apart.withWebhookEvents {f : List WebhookEvent → List WebhookEvent}
    (hin : ∀ rows, (f rows).filter (o.event ·.stripeEventId = k) =
      f (rows.filter (o.event ·.stripeEventId = k)))
    (hout : ∀ rows, (f rows).filter (o.event ·.stripeEventId ≠ k) =
      rows.filter (o.event ·.stripeEventId ≠ k)) (h : Apart o k r s u) :
    Apart o k r (s.withWebhookEvents f) (u.withWebhookEvents f) := by
  obtain ⟨hs, rfl, rfl⟩ := h
  refine ⟨⟨hs.subscriptions, hs.invoices⟩, ?_, ?_⟩
  · exact congrArg (fun rows => { Billing.part o k s with webhookEvents := rows })
      (hin s.webhookEvents).symm
  · exact congrArg (fun rows => { outside o k s with webhookEvents := rows })
      (hout s.webhookEvents)

/-- An update of the owner's row. -/
theorem updateTenant_apart {t : String} (ht : some t = k) {g : Subscription → Subscription}
    (hg : ∀ row, row.tenantId = t → (g row).tenantId = t)
    (howned : ∀ row : Subscription, row.tenantId = t → row.Owned o → (g row).Owned o) :
    Coupled (Apart o k r) (write (·.withSubscriptions (updateTenant t g)) : Method Unit) := by
  refine Coupled.write fun s u h => h.withSubscriptions (fun rows => ?_) (fun rows => ?_) ?_
  · exact filter_updateKey_same fun row _ hrow => by simp [hrow, hg row hrow]
  · exact filter_updateKey_other (fun row hrow => by simp [hrow, hg row hrow, ht]) rows
  · intro rows hrows row hrow
    obtain ⟨q, hq, hqt, rfl⟩ | ⟨hold, _⟩ := mem_updateKey.mp hrow
    · exact howned q hqt (hrows q hq)
    · exact hrows row hold

theorem saveSubscription_apart {sub : Subscription} (ht : some sub.tenantId = k)
    (howned : sub.Owned o) :
    Coupled (Apart o k r) (write (·.withSubscriptions (saveSubscription sub)) : Method Unit) :=
  updateTenant_apart ht (fun _ _ => rfl) fun _ _ _ => howned

theorem insertSubscription_apart {sub : Subscription} (ht : some sub.tenantId = k)
    (howned : sub.Owned o) :
    Coupled (Apart o k r) (write (·.withSubscriptions (· ++ [sub])) : Method Unit) := by
  refine Coupled.write fun s u h => h.withSubscriptions (fun rows => ?_) (fun rows => ?_) ?_
  · rw [List.filter_append, List.filter_cons_of_pos (by simpa using ht), List.filter_nil]
  · rw [List.filter_append, List.filter_cons_of_neg (by simpa using ht), List.filter_nil,
      List.append_nil]
  · intro rows hrows row hrow
    obtain hold | hnew := List.mem_append.mp hrow
    · exact hrows row hold
    · rwa [List.mem_singleton.mp hnew]

/-- The row that is saved has the id of one tenant's invoice. -/
theorem saveInvoice_apart {invoice : Invoice} (ht : some invoice.tenantId = k)
    (howned : invoice.Owned o) :
    Coupled (Apart o k r) (write (·.withInvoices (saveInvoice invoice)) : Method Unit) := by
  refine Coupled.write fun s u h => h.withInvoices fun rows hrows => ?_
  have htenant : ∀ row ∈ rows, row.stripeInvoiceId = invoice.stripeInvoiceId →
      some row.tenantId = k := by
    intro row hrow hid
    have hrowned : o.invoice row.stripeInvoiceId = some row.tenantId := hrows row hrow
    rw [← ht, ← hrowned, hid]
    exact howned
  refine ⟨filter_updateKey_same fun row hrow hid => ?_, ?_, fun row hrow => ?_⟩
  · simp [htenant row hrow hid, ht]
  · refine (filter_updateKey_same fun row hrow hid => ?_).trans (updateKey_of_notMem ?_)
    · simp [htenant row hrow hid, ht]
    · intro row hrow hid
      obtain ⟨hmem, hother⟩ := List.mem_filter.mp hrow
      exact of_decide_eq_true hother (htenant row hmem hid)
  · obtain ⟨q, _, _, rfl⟩ | ⟨hold, _⟩ := mem_updateKey.mp hrow
    · exact howned
    · exact hrows row hold

theorem insertInvoice_apart {invoice : Invoice} (ht : some invoice.tenantId = k)
    (howned : invoice.Owned o) :
    Coupled (Apart o k r) (write (·.withInvoices (· ++ [invoice])) : Method Unit) := by
  refine Coupled.write fun s u h => h.withInvoices fun rows hrows => ⟨?_, ?_, fun row hrow => ?_⟩
  · rw [List.filter_append, List.filter_cons_of_pos (by simpa using ht), List.filter_nil]
  · rw [List.filter_append, List.filter_cons_of_neg (by simpa using ht), List.filter_nil,
      List.append_nil]
  · obtain hold | hnew := List.mem_append.mp hrow
    · exact hrows row hold
    · rwa [List.mem_singleton.mp hnew]

theorem updateWebhookEvent_apart {id : String} (hid : o.event id = k)
    {g : WebhookEvent → WebhookEvent} (hg : ∀ row, (g row).stripeEventId = row.stripeEventId) :
    Coupled (Apart o k r) (write (·.withWebhookEvents (updateWebhookEvent id g)) :
      Method Unit) := by
  refine Coupled.write fun s u h => h.withWebhookEvents (fun rows => ?_) fun rows => ?_
  · exact filter_updateKey_same fun row _ _ => by rw [hg]
  · exact filter_updateKey_other (fun row hrow => by simp [hrow, hg, hid]) rows

theorem upsertWebhookEvent_apart {event : StripeEvent} (hid : o.event event.id = k) :
    Coupled (Apart o k r) (write (·.withWebhookEvents (upsertWebhookEvent event)) :
      Method Unit) := by
  have hany : ∀ rows : List WebhookEvent,
      (rows.filter (o.event ·.stripeEventId = k)).any (·.stripeEventId = event.id) =
        rows.any (·.stripeEventId = event.id) := by
    intro rows
    rw [List.any_filter]
    congr 1
    funext row
    by_cases h : row.stripeEventId = event.id <;> simp [h, hid]
  refine Coupled.write fun s u h => h.withWebhookEvents (fun rows => ?_) fun rows => ?_
  · unfold upsertWebhookEvent
    rw [hany]
    split
    · exact filter_updateKey_same fun _ _ _ => rfl
    · rw [List.filter_append, List.filter_cons_of_pos (by simpa using hid), List.filter_nil]
  · unfold upsertWebhookEvent
    split
    · exact filter_updateKey_other (fun row hrow => by simp [hrow, hid]) rows
    · rw [List.filter_append, List.filter_cons_of_neg (by simpa using hid), List.filter_nil,
        List.append_nil]

theorem handled_apart {id : String} (hid : o.event id = k) :
    Coupled (Apart o k r) (effect fun db => { db with handled := id :: db.handled } :
      Method Unit) := by
  refine Coupled.effect fun s u h => ?_
  obtain ⟨hs, rfl, rfl⟩ := h
  refine ⟨⟨hs.subscriptions, hs.invoices⟩, ?_, ?_⟩
  · have hin := List.filter_cons_of_pos (p := (o.event · = k)) (l := s.handled)
      (decide_eq_true hid)
    exact congrArg (fun ids => { part o k s with handled := ids }) hin.symm
  · have hout := List.filter_cons_of_neg (p := (o.event · ≠ k)) (l := s.handled) (a := id)
      (by simpa using hid)
    exact congrArg (fun ids => { outside o k s with handled := ids }) hout

theorem publish_apart (env : Env) {exchange routingKey : String} {body : MessageBody}
    (hm : Message.owner o ⟨exchange, routingKey, body⟩ = k) :
    Coupled (Apart o k r) (publish env exchange routingKey body) := by
  have hin : ∀ ms : List Message,
      (ms ++ [(⟨exchange, routingKey, body⟩ : Message)]).filter (·.owner o = k) =
        ms.filter (·.owner o = k) ++ [⟨exchange, routingKey, body⟩] := by
    intro ms
    rw [List.filter_append, List.filter_cons_of_pos (by simpa using hm), List.filter_nil]
  have hout : ∀ ms : List Message,
      (ms ++ [(⟨exchange, routingKey, body⟩ : Message)]).filter (·.owner o ≠ k) =
        ms.filter (·.owner o ≠ k) := by
    intro ms
    rw [List.filter_append, List.filter_cons_of_neg (by simpa using hm), List.filter_nil,
      List.append_nil]
  refine Coupled.effect fun s u h => ?_
  split
  · obtain ⟨hs, rfl, rfl⟩ := h
    refine ⟨⟨hs.subscriptions, hs.invoices⟩, ?_, ?_⟩
    · exact congrArg (fun ms => { part o k s with messages := ms }) (hin s.messages).symm
    · exact congrArg (fun ms => { outside o k s with messages := ms }) (hout s.messages)
  · exact h

/-! ### Reading -/

/-- What was found, if anything, is the owner's. -/
def SubscriptionOf (o : Owners) (k : Option String) (found : Option Subscription) : Prop :=
  ∀ row ∈ found, some row.tenantId = k ∧ row.Owned o

def InvoiceOf (o : Owners) (k : Option String) (found : Option Invoice) : Prop :=
  ∀ row ∈ found, some row.tenantId = k ∧ row.Owned o

theorem byTenant_apart {t : String} (ht : some t = k) (h : Apart o k r s u) :
    byTenant t u.subscriptions = byTenant t s.subscriptions := by
  obtain ⟨_, rfl, rfl⟩ := h
  exact find?_filter_of fun row _ hrow => by simpa [of_decide_eq_true hrow] using ht

/-- The subscription of the owner's customer. -/
theorem byCustomer_apart {c : String} (hc : o.customer c = k) (h : Apart o k r s u) :
    byCustomer c u.subscriptions = byCustomer c s.subscriptions ∧
      SubscriptionOf o k (byCustomer c s.subscriptions) := by
  obtain ⟨hs, rfl, rfl⟩ := h
  have htenant : ∀ row ∈ s.subscriptions, row.stripeCustomerId = c → some row.tenantId = k := by
    intro row hrow hrc
    rw [← (hs.subscriptions row hrow).1, hrc, hc]
  refine ⟨find?_filter_of fun row hrow hrc => ?_, fun row hrow => ?_⟩
  · exact decide_eq_true (htenant row hrow (of_decide_eq_true hrc))
  · obtain ⟨hmem, hrc⟩ := byCustomer_mem hrow
    exact ⟨htenant row hmem hrc, hs.subscriptions row hmem⟩

theorem bySubscription_apart {id : String} (hid : o.subscription id = k) (h : Apart o k r s u) :
    bySubscription id u.subscriptions = bySubscription id s.subscriptions ∧
      SubscriptionOf o k (bySubscription id s.subscriptions) := by
  obtain ⟨hs, rfl, rfl⟩ := h
  have htenant : ∀ row ∈ s.subscriptions, row.stripeSubscriptionId = some id →
      some row.tenantId = k := by
    intro row hrow hrid
    rw [← (hs.subscriptions row hrow).2 id hrid, hid]
  refine ⟨find?_filter_of fun row hrow hrid => ?_, fun row hrow => ?_⟩
  · exact decide_eq_true (htenant row hrow (of_decide_eq_true hrid))
  · obtain ⟨hmem, hrid⟩ := bySubscription_mem hrow
    exact ⟨htenant row hmem hrid, hs.subscriptions row hmem⟩

theorem findInvoice_apart {id : String} (hid : o.invoice id = k) (h : Apart o k r s u) :
    findInvoice id u.invoices = findInvoice id s.invoices ∧
      InvoiceOf o k (findInvoice id s.invoices) := by
  obtain ⟨hs, rfl, rfl⟩ := h
  have htenant : ∀ row ∈ s.invoices, row.stripeInvoiceId = id → some row.tenantId = k := by
    intro row hrow hrid
    have howned : o.invoice row.stripeInvoiceId = some row.tenantId := hs.invoices row hrow
    rw [← howned, hrid, hid]
  refine ⟨find?_filter_of fun row hrow hrid => ?_, fun row hrow => ?_⟩
  · exact decide_eq_true (htenant row hrow (of_decide_eq_true hrid))
  · have hmem := List.mem_of_find?_eq_some hrow
    exact ⟨htenant row hmem (by simpa using List.find?_some hrow), hs.invoices row hmem⟩

theorem isProcessed_apart {id : String} (hid : o.event id = k) (h : Apart o k r s u) :
    u.isProcessed id = s.isProcessed id := by
  obtain ⟨_, rfl, rfl⟩ := h
  refine congrArg (Option.any _) (find?_filter_of fun row _ hrow => ?_)
  simpa [of_decide_eq_true hrow] using hid

/-! ## Handlers -/

theorem publishStatus_apart (env : Env) {c : String} (hc : o.customer c = k) (status : String)
    (plan : Option String) :
    Coupled (Apart o k r) (publishSubscriptionStatus env c status plan) := by
  refine Coupled.query_bind (fun _ _ h => byCustomer_apart hc h) fun found hfound => ?_
  cases found with
  | none => exact Coupled.pure ()
  | some localSub => exact publish_apart env (hfound localSub rfl).1

theorem linkSubscription_apart {c id : String} (hc : o.customer c = k)
    (hid : o.subscription id = k) (status : SubscriptionStatus) (start finish : ℤ) :
    Coupled (Apart o k r)
      (SubscriptionsService.linkStripeSubscription c id status start finish) := by
  refine Coupled.query_bind (fun _ _ h => byCustomer_apart hc h) fun found hfound => ?_
  cases found with
  | none => exact Coupled.pure ()
  | some sub =>
    obtain ⟨htenant, howned⟩ := hfound sub rfl
    refine saveSubscription_apart htenant ⟨howned.1, fun id' hid' => ?_⟩
    obtain rfl := Option.some.inj hid'
    exact hid.trans htenant.symm

theorem updateFromStripe_apart {dto : SubscriptionsService.UpdateSubscriptionFromStripeDto}
    (hid : o.subscription dto.stripeSubscriptionId = k) :
    Coupled (Apart o k r) (SubscriptionsService.updateFromStripe dto) := by
  refine Coupled.query_bind (fun _ _ h => bySubscription_apart hid h) fun found hfound => ?_
  cases found with
  | none => exact Coupled.pure ()
  | some sub =>
    obtain ⟨htenant, howned⟩ := hfound sub rfl
    exact saveSubscription_apart htenant howned

theorem updateStatus_apart {t : String} (ht : some t = k) (status : SubscriptionStatus) :
    Coupled (Apart o k r) (SubscriptionsService.updateStatusByTenantId t status) :=
  updateTenant_apart ht (fun _ h => h) fun _ _ h => h

theorem upsertFromStripe_apart {dto : Invoice} (ht : some dto.tenantId = k)
    (howned : dto.Owned o) : Coupled (Apart o k r) (upsertFromStripe dto) := by
  refine Coupled.query_bind (fun _ _ h => findInvoice_apart (howned.trans ht) h)
    fun found hfound => ?_
  cases found with
  | none => exact insertInvoice_apart ht howned
  | some existing =>
    obtain ⟨htenant, hexisting⟩ := hfound existing rfl
    exact saveInvoice_apart htenant hexisting

theorem invoicePaid_apart (env : Env) {inv : StripeInvoice} (hc : o.customer inv.customerId = k)
    (hid : o.invoice inv.id = k) : Coupled (Apart o k r) (handleInvoicePaid env inv) := by
  refine Coupled.query_bind (fun _ _ h => byCustomer_apart hc h) fun found hfound => ?_
  cases found with
  | none => exact Coupled.pure ()
  | some localSub =>
    obtain ⟨htenant, -⟩ := hfound localSub rfl
    have hpaid : (inv.paidRow env localSub.tenantId).Owned o := hid.trans htenant.symm
    refine (upsertFromStripe_apart htenant hpaid).bind fun _ =>
      Coupled.bind (publish_apart env htenant) fun _ => ?_
    split
    · exact (updateStatus_apart htenant _).bind fun _ => publishStatus_apart env hc _ _
    · exact Coupled.pure ()

theorem paymentFailed_apart (env : Env) {inv : StripeInvoice}
    (hc : o.customer inv.customerId = k) :
    Coupled (Apart o k r) (handleInvoicePaymentFailed env inv) := by
  refine Coupled.query_bind (fun _ _ h => byCustomer_apart hc h) fun found hfound => ?_
  cases found with
  | none => exact Coupled.pure ()
  | some localSub =>
    exact (updateStatus_apart (hfound localSub rfl).1 _).bind fun _ =>
      publishStatus_apart env hc _ _

theorem customerCreated_apart {customer : StripeCustomer} (hc : o.customer customer.id = k)
    (ht : truthy customer.tenantId = k) :
    Coupled (Apart o k r) (handleCustomerCreated customer) := by
  unfold handleCustomerCreated
  split
  next => exact Coupled.pure ()
  next tenantId htenant =>
    have hk : some tenantId = k := htenant.symm.trans ht
    refine updateTenant_apart hk (fun _ h => h) fun row hrow howned => ⟨?_, howned.2⟩
    exact hc.trans (hk.symm.trans (congrArg some hrow.symm))

theorem processEvent_apart (env : Env) {event : StripeEvent} (h : event.data.WellOwned o k) :
    Coupled (Apart o k r) (processEvent env event) := by
  unfold processEvent
  generalize event.data = data at h
  cases data with
  | subscriptionCreated sub =>
    obtain ⟨hc, hid⟩ := h
    exact (linkSubscription_apart hc hid _ _ _).bind fun _ =>
      (publishStatus_apart env hc _ _).bind fun _ => publish_apart env hc
  | subscriptionUpdated sub =>
    obtain ⟨hc, hid⟩ := h
    exact (updateFromStripe_apart hid).bind fun _ => publishStatus_apart env hc _ _
  | subscriptionDeleted sub =>
    obtain ⟨hc, hid⟩ := h
    exact (updateFromStripe_apart hid).bind fun _ => publishStatus_apart env hc _ _
  | invoicePaid inv =>
    obtain ⟨hc, hid⟩ := h
    exact invoicePaid_apart env hc hid
  | invoicePaymentFailed inv =>
    obtain ⟨hc, -⟩ := h
    exact paymentFailed_apart env hc
  | customerCreated customer =>
    obtain ⟨hc, ht⟩ := h
    exact customerCreated_apart hc ht
  | other eventType => exact Coupled.pure ()

/-- A delivery, handled for the owner of its event. -/
theorem handleWebhook_apart (env : Env) {event : StripeEvent} (hid : o.event event.id = k)
    (h : event.data.WellOwned o k) : Coupled (Apart o k r) (handleWebhook env (.ok event)) := by
  refine Coupled.query_bind (Q := fun _ => True)
    (fun s u hsu => ⟨isProcessed_apart hid hsu, trivial⟩) fun processed _ => ?_
  split
  · exact Coupled.pure _
  · refine (upsertWebhookEvent_apart hid).bind fun _ => Coupled.bind ?_ fun _ => Coupled.pure _
    refine Coupled.tryCatch ?_ fun message => updateWebhookEvent_apart hid fun _ => rfl
    exact (processEvent_apart env h).bind fun _ => (handled_apart hid).bind fun _ =>
      updateWebhookEvent_apart hid fun _ => rfl

theorem onTenantProvisioned_apart (env : Env) {msg : TenantProvisionedEvent} {customer : String}
    (ht : some msg.tenantId = k) (hc : o.customer customer = k) :
    Coupled (Apart o k r) (onTenantProvisioned env msg customer) := by
  refine Coupled.tryCatch ?_ fun _ => Coupled.pure ()
  refine Coupled.query_bind (Q := (· = customer)) (fun _ _ _ => ⟨rfl, rfl⟩) fun c hcustomer => ?_
  subst hcustomer
  refine Coupled.bind ?_ fun _ => publish_apart env ht
  refine Coupled.query_bind (Q := fun _ => True) (fun _ _ h => ⟨byTenant_apart ht h, trivial⟩)
    fun found _ => ?_
  cases found with
  | some sub => exact Coupled.throw _
  | none =>
    refine Coupled.bind (insertSubscription_apart ht ⟨hc.trans ht.symm, ?_⟩) fun _ =>
      Coupled.pure _
    intro id hnone
    cases hnone

end Rules

end SaasChassis.Billing
