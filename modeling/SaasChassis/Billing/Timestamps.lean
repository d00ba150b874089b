/-
  The rows with the columns the repositories fill in by themselves.

  An INSERT sets `created_at` and `updated_at`. `update()` sets `updated_at` whatever it changes.
  `save()` of a row that was read sends what differs and `updated_at` with it, and nothing at all
  when no column differs. A call reads one clock, once.

  `rowsOf` forgets the columns. What is left is what the services and the handlers do:
  `method_rowsOf`, `StampedDb.Shows.processEvent`.
-/
import SaasChassis.Billing.Effects

namespace SaasChassis.Billing

open SaasChassis.Lib Faulty

structure StampedSubscription where
  row : Subscription
  createdAt : ℤ
  updatedAt : ℤ
  deriving DecidableEq, Repr

structure StampedInvoice where
  row : Invoice
  createdAt : ℤ
  deriving DecidableEq, Repr

def rowsOf (rows : List StampedSubscription) : List Subscription := rows.map (·.row)

/-! ## The repositories -/

/-- What `subscriptionRepo.save` leaves of a row that was read and is now `new`. -/
def StampedSubscription.save (now : ℤ) (new : Subscription) (s : StampedSubscription) :
    StampedSubscription :=
  if s.row = new then s else { s with row := new, updatedAt := now }

/-- What `subscriptionRepo.update` leaves of a row. -/
def StampedSubscription.update (now : ℤ) (f : Subscription → Subscription)
    (s : StampedSubscription) : StampedSubscription :=
  { s with row := f s.row, updatedAt := now }

/-- The rows after a row that was found, if any, is saved with `f`. -/
def saveFound (now : ℤ) (found : Option Subscription) (f : Subscription → Subscription)
    (rows : List StampedSubscription) : List StampedSubscription :=
  match found with
  | none => rows
  | some sub => updateKey (·.row.tenantId) sub.tenantId (StampedSubscription.save now (f sub)) rows

def updateFound (now : ℤ) (tenantId : String) (f : Subscription → Subscription)
    (rows : List StampedSubscription) : List StampedSubscription :=
  updateKey (·.row.tenantId) tenantId (StampedSubscription.update now f) rows

/-- `upsertFromStripe`. -/
def upsertInvoice (now : ℤ) (dto : Invoice) (rows : List StampedInvoice) : List StampedInvoice :=
  match findInvoice dto.stripeInvoiceId (rows.map (·.row)) with
  | some existing =>
    updateKey (·.row.stripeInvoiceId) existing.stripeInvoiceId
      (fun s => { s with row := existing.paidAgain dto }) rows
  | none => rows ++ [{ row := dto, createdAt := now }]

/-! ## SubscriptionsService -/

/-- A call of the service. -/
inductive SubscriptionCall where
  | create (dto : SubscriptionsService.CreateSubscriptionDto)
  | updateFromStripe (dto : SubscriptionsService.UpdateSubscriptionFromStripeDto)
  | linkStripeSubscription (stripeCustomerId stripeSubscriptionId : String)
      (status : SubscriptionStatus) (currentPeriodStart currentPeriodEnd : ℤ)
  | updateStatusByTenantId (tenantId : String) (status : SubscriptionStatus)
  | linkStripeCustomerId (tenantId stripeCustomerId : String)

namespace SubscriptionCall

/-- The row `create` inserts. -/
def inserted (dto : SubscriptionsService.CreateSubscriptionDto) : Subscription :=
  { tenantId := dto.tenantId
    stripeCustomerId := dto.stripeCustomerId
    stripeSubscriptionId := dto.stripeSubscriptionId
    planCode := dto.planCode
    status := dto.status.getD .trialing
    currentPeriodStart := none
    currentPeriodEnd := none
    cancelAtPeriodEnd := false }

/-- The row `linkStripeSubscription` saves. -/
def linked (stripeSubscriptionId : String) (status : SubscriptionStatus)
    (currentPeriodStart currentPeriodEnd : ℤ) (sub : Subscription) : Subscription :=
  { sub with
    stripeSubscriptionId := some stripeSubscriptionId
    status := status
    currentPeriodStart := some currentPeriodStart
    currentPeriodEnd := some currentPeriodEnd }

def apply (now : ℤ) (call : SubscriptionCall) (rows : List StampedSubscription) :
    List StampedSubscription :=
  match call with
  | .create dto =>
    match byTenant dto.tenantId (rowsOf rows) with
    | some _ => rows
    | none => rows ++ [{ row := inserted dto, createdAt := now, updatedAt := now }]
  | .updateFromStripe dto =>
    saveFound now (bySubscription dto.stripeSubscriptionId (rowsOf rows)) dto.patch rows
  | .linkStripeSubscription stripeCustomerId stripeSubscriptionId status currentPeriodStart
      currentPeriodEnd =>
    saveFound now (byCustomer stripeCustomerId (rowsOf rows))
      (linked stripeSubscriptionId status currentPeriodStart currentPeriodEnd) rows
  | .updateStatusByTenantId tenantId status =>
    updateFound now tenantId ({ · with status := status }) rows
  | .linkStripeCustomerId tenantId stripeCustomerId =>
    updateFound now tenantId ({ · with stripeCustomerId := stripeCustomerId }) rows

/-- The method that is called. -/
def method : SubscriptionCall → Method Unit
  | .create dto => do
    let _ ← SubscriptionsService.create dto
    return
  | .updateFromStripe dto => SubscriptionsService.updateFromStripe dto
  | .linkStripeSubscription stripeCustomerId stripeSubscriptionId status currentPeriodStart
      currentPeriodEnd =>
    SubscriptionsService.linkStripeSubscription stripeCustomerId stripeSubscriptionId status
      currentPeriodStart currentPeriodEnd
  | .updateStatusByTenantId tenantId status =>
    SubscriptionsService.updateStatusByTenantId tenantId status
  | .linkStripeCustomerId tenantId stripeCustomerId =>
    SubscriptionsService.linkStripeCustomerId tenantId stripeCustomerId

end SubscriptionCall

/-! ## The handlers -/

@[ext] structure StampedDb where
  subscriptions : List StampedSubscription
  invoices : List StampedInvoice
  deriving DecidableEq, Repr

namespace StampedDb

def call (now : ℤ) (c : SubscriptionCall) (db : StampedDb) : StampedDb :=
  { db with subscriptions := c.apply now db.subscriptions }

def handleSubscriptionCreated (env : Env) (sub : StripeSubscription) (db : StampedDb) :
    StampedDb :=
  db.call env.now (.linkStripeSubscription sub.customer.customerId sub.id sub.status
    (milliseconds sub.currentPeriodStart) (milliseconds sub.currentPeriodEnd))

def handleSubscriptionUpdated (env : Env) (sub : StripeSubscription) (db : StampedDb) :
    StampedDb :=
  db.call env.now (.updateFromStripe
    { stripeSubscriptionId := sub.id
      planCode := sub.planCode
      status := some sub.status
      currentPeriodStart := some (milliseconds sub.currentPeriodStart)
      currentPeriodEnd := some (milliseconds sub.currentPeriodEnd)
      cancelAtPeriodEnd := some sub.cancelAtPeriodEnd })

def handleSubscriptionDeleted (env : Env) (sub : StripeSubscription) (db : StampedDb) :
    StampedDb :=
  db.call env.now (.updateFromStripe
    { stripeSubscriptionId := sub.id
      planCode := none
      status := some .canceled
      currentPeriodStart := none
      currentPeriodEnd := none
      cancelAtPeriodEnd := none })

def handleInvoicePaid (env : Env) (inv : StripeInvoice) (db : StampedDb) : StampedDb :=
  match byCustomer inv.customerId (rowsOf db.subscriptions) with
  | none => db
  | some localSub =>
    let paid :=
      { db with
        invoices := upsertInvoice env.now (inv.paidRow env localSub.tenantId) db.invoices }
    if localSub.status = .pastDue then
      paid.call env.now (.updateStatusByTenantId localSub.tenantId .active)
    else paid

def handleInvoicePaymentFailed (env : Env) (inv : StripeInvoice) (db : StampedDb) : StampedDb :=
  match byCustomer inv.customerId (rowsOf db.subscriptions) with
  | none => db
  | some localSub => db.call env.now (.updateStatusByTenantId localSub.tenantId .pastDue)

def handleCustomerCreated (env : Env) (customer : StripeCustomer) (db : StampedDb) : StampedDb :=
  match truthy customer.tenantId with
  | none => db
  | some tenantId => db.call env.now (.linkStripeCustomerId tenantId customer.id)

/-- What `processEvent` leaves of the two tables when no call fails. -/
def processEvent (env : Env) (event : StripeEvent) (db : StampedDb) : StampedDb :=
  match event.data with
  | .subscriptionCreated sub => db.handleSubscriptionCreated env sub
  | .subscriptionUpdated sub => db.handleSubscriptionUpdated env sub
  | .subscriptionDeleted sub => db.handleSubscriptionDeleted env sub
  | .invoicePaid inv => db.handleInvoicePaid env inv
  | .invoicePaymentFailed inv => db.handleInvoicePaymentFailed env inv
  | .customerCreated customer => db.handleCustomerCreated env customer
  | .other _ => db

end StampedDb

/-! ## Without the columns -/

theorem save_row (now : ℤ) (new : Subscription) (s : StampedSubscription) :
    (s.save now new).row = new := by
  unfold StampedSubscription.save
  split
  · assumption
  · rfl

theorem rowsOf_saveFound (now : ℤ) (found : Option Subscription) (f : Subscription → Subscription)
    (rows : List StampedSubscription) :
    rowsOf (saveFound now found f rows) = saveWith found f (rowsOf rows) := by
  cases found with
  | none => rfl
  | some sub => exact map_updateKey_of StampedSubscription.row (save_row now (f sub)) rows

theorem rowsOf_updateFound (now : ℤ) (tenantId : String) (f : Subscription → Subscription)
    (rows : List StampedSubscription) :
    rowsOf (updateFound now tenantId f rows) = updateTenant tenantId f (rowsOf rows) :=
  map_updateKey_of StampedSubscription.row (fun _ => rfl) rows

theorem rows_upsertInvoice (now : ℤ) (dto : Invoice) (rows : List StampedInvoice) :
    (upsertInvoice now dto rows).map (·.row) =
      match findInvoice dto.stripeInvoiceId (rows.map (·.row)) with
      | some existing => saveInvoice (existing.paidAgain dto) (rows.map (·.row))
      | none => rows.map (·.row) ++ [dto] := by
  unfold upsertInvoice
  cases findInvoice dto.stripeInvoiceId (rows.map (·.row)) with
  | none => rw [List.map_append, List.map_singleton]
  | some existing => exact map_updateKey_of StampedInvoice.row (fun _ => rfl) rows

theorem subscriptions_save (find : List Subscription → Option Subscription)
    (f : Subscription → Subscription) (hf : ∀ row, (f row).tenantId = row.tenantId) (n : ℕ)
    (db : BillingDb) :
    ((do
      match ← query fun db : BillingDb => find db.subscriptions with
      | none => return
      | some sub => write (·.withSubscriptions (saveSubscription (f sub))) : Method Unit)
        noFaults n db).2.2.subscriptions =
      saveWith (find db.subscriptions) f db.subscriptions :=
  congrArg (·.2.2.subscriptions) ((runs_save find f hf db).ok noFaults n fun _ _ _ => rfl)

/-- The service's methods leave the rows of the calls. -/
theorem method_rowsOf (call : SubscriptionCall) (now : ℤ) {rows : List StampedSubscription}
    {db : BillingDb} (h : db.subscriptions = rowsOf rows) (n : ℕ) :
    (call.method noFaults n db).2.2.subscriptions = rowsOf (call.apply now rows) := by
  cases call with
  | create dto =>
    rw [SubscriptionCall.apply, SubscriptionCall.method, ← h, SubscriptionsService.create,
      bind_assoc, query_bind_noFaults]
    cases byTenant dto.tenantId db.subscriptions with
    | some sub => exact h
    | none =>
      show db.subscriptions ++ [SubscriptionCall.inserted dto] = _
      rw [h, rowsOf, rowsOf, List.map_append, List.map_singleton]
  | updateFromStripe dto =>
    rw [SubscriptionCall.apply, rowsOf_saveFound, ← h]
    exact subscriptions_save (bySubscription dto.stripeSubscriptionId) dto.patch (fun _ => rfl) n db
  | linkStripeSubscription customer sid status periodStart periodEnd =>
    rw [SubscriptionCall.apply, rowsOf_saveFound, ← h]
    exact subscriptions_save (byCustomer customer)
      (SubscriptionCall.linked sid status periodStart periodEnd) (fun _ => rfl) n db
  | updateStatusByTenantId tenantId status =>
    rw [SubscriptionCall.apply, rowsOf_updateFound, ← h]
    rfl
  | linkStripeCustomerId tenantId customer =>
    rw [SubscriptionCall.apply, rowsOf_updateFound, ← h]
    rfl

namespace StampedDb

/-- The tables seen by code that does not read the columns. -/
structure Shows (s : StampedDb) (db : BillingDb) : Prop where
  subscriptions : db.subscriptions = rowsOf s.subscriptions
  invoices : db.invoices = s.invoices.map (·.row)

theorem rowsOf_processEvent (env : Env) (event : StripeEvent) (s : StampedDb) :
    rowsOf (s.processEvent env event).subscriptions =
      subscriptionsAfter event.data (rowsOf s.subscriptions) := by
  unfold processEvent
  cases event.data with
  | subscriptionCreated sub => exact rowsOf_saveFound env.now _ _ _
  | subscriptionUpdated sub => exact rowsOf_saveFound env.now _ _ _
  | subscriptionDeleted sub => exact rowsOf_saveFound env.now _ _ _
  | invoicePaid inv =>
    simp only [handleInvoicePaid, subscriptionsAfter]
    cases byCustomer inv.customerId (rowsOf s.subscriptions) with
    | none => rfl
    | some row =>
      by_cases hdue : row.status = .pastDue
      · simp only [hdue, if_true]
        exact rowsOf_updateFound env.now _ _ _
      · simp only [hdue, if_false]
  | invoicePaymentFailed inv =>
    simp only [handleInvoicePaymentFailed, subscriptionsAfter]
    cases byCustomer inv.customerId (rowsOf s.subscriptions) with
    | none => rfl
    | some row => exact rowsOf_updateFound env.now _ _ _
  | customerCreated customer =>
    simp only [handleCustomerCreated, subscriptionsAfter]
    cases truthy customer.tenantId with
    | none => rfl
    | some tenantId => exact rowsOf_updateFound env.now _ _ _
  | other eventType => rfl

theorem invoices_processEvent (env : Env) (event : StripeEvent) (s : StampedDb) :
    (s.processEvent env event).invoices.map (·.row) =
      invoicesAfter env event.data (rowsOf s.subscriptions) (s.invoices.map (·.row)) := by
  unfold processEvent
  cases event.data with
  | invoicePaid inv =>
    simp only [handleInvoicePaid, invoicesAfter]
    cases byCustomer inv.customerId (rowsOf s.subscriptions) with
    | none => rfl
    | some row =>
      by_cases hdue : row.status = .pastDue
      · simp only [hdue, if_true]
        exact rows_upsertInvoice env.now _ _
      · simp only [hdue, if_false]
        exact rows_upsertInvoice env.now _ _
  | invoicePaymentFailed inv =>
    simp only [handleInvoicePaymentFailed]
    cases byCustomer inv.customerId (rowsOf s.subscriptions) <;> rfl
  | customerCreated customer =>
    simp only [handleCustomerCreated]
    cases truthy customer.tenantId <;> rfl
  | _ => rfl

/-- The handlers leave the rows of the stamped ones. -/
theorem Shows.processEvent {s : StampedDb} {db : BillingDb} (h : s.Shows db) (env : Env)
    (event : StripeEvent) (n : ℕ) :
    (s.processEvent env event).Shows (Billing.processEvent env event noFaults n db).2.2 := by
  rw [(processEvent_runs env event db).ok noFaults n fun _ _ _ => rfl]
  constructor
  · rw [rowsOf_processEvent, ← h.subscriptions]
    exact send_subscriptions env _ _
  · rw [invoices_processEvent, ← h.subscriptions, ← h.invoices]
    exact send_invoices env _ _

end StampedDb

end SaasChassis.Billing
