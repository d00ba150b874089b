/-
  StripeWebhookController with the services behind it, call by call.

  Every repository call and the call to Stripe may throw. Publishing does not: a message
  without a channel is dropped, and what the channel throws is caught. An answer that is an
  exception is Nest's status 500.
-/
import SaasChassis.Billing.Database

namespace SaasChassis.Billing

open SaasChassis.Lib Faulty

/-! ## SubscriptionsService -/

namespace SubscriptionsService

structure CreateSubscriptionDto where
  tenantId : String
  stripeCustomerId : String
  planCode : String
  status : Option SubscriptionStatus
  stripeSubscriptionId : Option String

structure UpdateSubscriptionFromStripeDto where
  stripeSubscriptionId : String
  planCode : Option String
  status : Option SubscriptionStatus
  currentPeriodStart : Option ℤ
  currentPeriodEnd : Option ℤ
  cancelAtPeriodEnd : Option Bool

def findByStripeCustomerId (stripeCustomerId : String) : Method (Option Subscription) :=
  query fun db => byCustomer stripeCustomerId db.subscriptions

def create (dto : CreateSubscriptionDto) : Method Subscription := do
  match ← query fun db => byTenant dto.tenantId db.subscriptions with
  | some _ => throw s!"Subscription already exists for tenant {dto.tenantId}"
  | none =>
    let subscription : Subscription :=
      { tenantId := dto.tenantId
        stripeCustomerId := dto.stripeCustomerId
        stripeSubscriptionId := dto.stripeSubscriptionId
        planCode := dto.planCode
        status := dto.status.getD .trialing
        currentPeriodStart := none
        currentPeriodEnd := none
        cancelAtPeriodEnd := false }
    write (·.withSubscriptions (· ++ [subscription]))
    return subscription

/-- The row with the members of the request that are not undefined. -/
def UpdateSubscriptionFromStripeDto.patch (dto : UpdateSubscriptionFromStripeDto)
    (sub : Subscription) : Subscription :=
  { sub with
    planCode := dto.planCode.getD sub.planCode
    status := dto.status.getD sub.status
    currentPeriodStart := dto.currentPeriodStart <|> sub.currentPeriodStart
    currentPeriodEnd := dto.currentPeriodEnd <|> sub.currentPeriodEnd
    cancelAtPeriodEnd := dto.cancelAtPeriodEnd.getD sub.cancelAtPeriodEnd }

def updateFromStripe (dto : UpdateSubscriptionFromStripeDto) : Method Unit := do
  match ← query fun db => bySubscription dto.stripeSubscriptionId db.subscriptions with
  | none => return
  | some sub => write (·.withSubscriptions (saveSubscription (dto.patch sub)))

def linkStripeSubscription (stripeCustomerId stripeSubscriptionId : String)
    (status : SubscriptionStatus) (currentPeriodStart currentPeriodEnd : ℤ) : Method Unit := do
  match ← query fun db => byCustomer stripeCustomerId db.subscriptions with
  | none => return
  | some sub =>
    write (·.withSubscriptions (saveSubscription { sub with
      stripeSubscriptionId := some stripeSubscriptionId
      status := status
      currentPeriodStart := some currentPeriodStart
      currentPeriodEnd := some currentPeriodEnd }))

def updateStatusByTenantId (tenantId : String) (status : SubscriptionStatus) : Method Unit :=
  write (·.withSubscriptions (updateTenant tenantId ({ · with status := status })))

def linkStripeCustomerId (tenantId stripeCustomerId : String) : Method Unit :=
  write (·.withSubscriptions (updateTenant tenantId
    ({ · with stripeCustomerId := stripeCustomerId })))

end SubscriptionsService

/-! ## InvoicesService -/

/-- `existing` with what a repeated upsert changes. -/
def Invoice.paidAgain (existing dto : Invoice) : Invoice :=
  { existing with
    status := dto.status
    amountPaid := dto.amountPaid
    paidAt := dto.paidAt <|> existing.paidAt }

def upsertFromStripe (dto : Invoice) : Method Unit := do
  match ← query fun db => findInvoice dto.stripeInvoiceId db.invoices with
  | some existing => write (·.withInvoices (saveInvoice (existing.paidAgain dto)))
  | none => write (·.withInvoices (· ++ [dto]))

/-! ## Publishing -/

def publish (env : Env) (exchange routingKey : String) (body : MessageBody) : Method Unit :=
  effect fun db =>
    if env.channel then { db with messages := db.messages ++ [⟨exchange, routingKey, body⟩] }
    else db

/-- What is left of a string after `if (s)`: neither null nor the empty string. -/
def truthy : Option String → Option String
  | none | some "" => none
  | some s => some s

def publishSubscriptionStatus (env : Env) (stripeCustomerId status : String)
    (plan : Option String) : Method Unit := do
  match ← SubscriptionsService.findByStripeCustomerId stripeCustomerId with
  | none => return
  | some localSub =>
    publish env "chassis.billing" "subscription.status"
      (.subscriptionStatus localSub.tenantId status (truthy plan))

/-! ## Handlers -/

/-- `new Date(seconds * 1000)`. -/
def milliseconds (seconds : ℤ) : ℤ := seconds * 1000

def handleSubscriptionCreated (env : Env) (sub : StripeSubscription) : Method Unit := do
  let customerId := sub.customer.customerId
  SubscriptionsService.linkStripeSubscription customerId sub.id sub.status
    (milliseconds sub.currentPeriodStart) (milliseconds sub.currentPeriodEnd)
  publishSubscriptionStatus env customerId sub.status.text none
  publish env "chassis.audit" "billing.subscription.created"
    (.subscriptionCreated sub.id customerId sub.status.text env.now)

/-- The lookup key of the first item's price, else its id. -/
def StripeSubscription.planCode (sub : StripeSubscription) : Option String :=
  match sub.items with
  | some price :: _ => some (price.lookupKey.getD price.id)
  | _ => none

def handleSubscriptionUpdated (env : Env) (sub : StripeSubscription) : Method Unit := do
  SubscriptionsService.updateFromStripe
    { stripeSubscriptionId := sub.id
      planCode := sub.planCode
      status := some sub.status
      currentPeriodStart := some (milliseconds sub.currentPeriodStart)
      currentPeriodEnd := some (milliseconds sub.currentPeriodEnd)
      cancelAtPeriodEnd := some sub.cancelAtPeriodEnd }
  publishSubscriptionStatus env sub.customer.customerId sub.status.text sub.planCode

def handleSubscriptionDeleted (env : Env) (sub : StripeSubscription) : Method Unit := do
  SubscriptionsService.updateFromStripe
    { stripeSubscriptionId := sub.id
      planCode := none
      status := some .canceled
      currentPeriodStart := none
      currentPeriodEnd := none
      cancelAtPeriodEnd := none }
  publishSubscriptionStatus env sub.customer.customerId SubscriptionStatus.canceled.text none

def StripeInvoice.customerId (inv : StripeInvoice) : String :=
  (inv.customer.map CustomerRef.customerId).getD ""

/-- A period bound of 0 counts as missing. -/
def StripeInvoice.bound (seconds : ℤ) : Option ℤ :=
  if seconds = 0 then none else some (milliseconds seconds)

/-- The invoice row of a paid invoice, its amounts in cents. -/
def StripeInvoice.paidRow (env : Env) (tenantId : String) (inv : StripeInvoice) : Invoice :=
  { tenantId := tenantId
    stripeInvoiceId := inv.id
    stripeCustomerId := inv.customerId
    amountDue := inv.amountDue / 100
    amountPaid := inv.amountPaid / 100
    currency := inv.currency
    status := .paid
    invoiceUrl := inv.hostedInvoiceUrl
    invoicePdf := inv.invoicePdf
    periodStart := StripeInvoice.bound inv.periodStart
    periodEnd := StripeInvoice.bound inv.periodEnd
    paidAt := some env.now }

def StripeInvoice.paymentSucceeded (env : Env) (tenantId : String) (inv : StripeInvoice) :
    MessageBody :=
  .paymentSucceeded inv.id inv.customerId tenantId (inv.amountPaid / 100) inv.currency env.now

def handleInvoicePaid (env : Env) (inv : StripeInvoice) : Method Unit := do
  match ← SubscriptionsService.findByStripeCustomerId inv.customerId with
  | none => return
  | some localSub =>
    upsertFromStripe (inv.paidRow env localSub.tenantId)
    publish env "chassis.audit" "billing.payment.succeeded"
      (inv.paymentSucceeded env localSub.tenantId)
    -- Recover from past_due on payment success
    if localSub.status = .pastDue then
      SubscriptionsService.updateStatusByTenantId localSub.tenantId .active
      publishSubscriptionStatus env inv.customerId SubscriptionStatus.active.text none

def handleInvoicePaymentFailed (env : Env) (inv : StripeInvoice) : Method Unit := do
  match ← SubscriptionsService.findByStripeCustomerId inv.customerId with
  | none => return
  | some localSub =>
    SubscriptionsService.updateStatusByTenantId localSub.tenantId .pastDue
    publishSubscriptionStatus env inv.customerId SubscriptionStatus.pastDue.text none

def handleCustomerCreated (customer : StripeCustomer) : Method Unit :=
  match truthy customer.tenantId with
  | none => return
  | some tenantId => SubscriptionsService.linkStripeCustomerId tenantId customer.id

def processEvent (env : Env) (event : StripeEvent) : Method Unit :=
  match event.data with
  | .subscriptionCreated sub => handleSubscriptionCreated env sub
  | .subscriptionUpdated sub => handleSubscriptionUpdated env sub
  | .subscriptionDeleted sub => handleSubscriptionDeleted env sub
  | .invoicePaid inv => handleInvoicePaid env inv
  | .invoicePaymentFailed inv => handleInvoicePaymentFailed env inv
  | .customerCreated customer => handleCustomerCreated customer
  | .other _ => return

/-! ## The endpoint -/

structure Reply where
  status : ℕ
  body : Json

def BillingDb.isProcessed (db : BillingDb) (stripeEventId : String) : Bool :=
  (findWebhookEvent stripeEventId db.webhookEvents).any (·.processed)

def markProcessed (env : Env) (row : WebhookEvent) : WebhookEvent :=
  { row with processed := true, processedAt := some env.now }

def recordError (message : String) (row : WebhookEvent) : WebhookEvent :=
  { row with errorMessage := some message }

/-- `constructed` is the answer of `constructWebhookEvent` to body and signature. -/
def handleWebhook (env : Env) (constructed : Except String StripeEvent) : Method Reply :=
  match constructed with
  | .error _ => return { status := 400, body := .str "Webhook signature verification failed" }
  | .ok event => do
    -- Idempotency: skip already-processed events
    if ← query (·.isProcessed event.id) then
      return { status := 200, body := .obj [("received", .bool true), ("duplicate", .bool true)] }
    else
      -- Store event for audit trail
      write (·.withWebhookEvents (upsertWebhookEvent event))
      tryCatch
        (do
          processEvent env event
          -- for the history only
          effect fun db => { db with handled := event.id :: db.handled }
          write (·.withWebhookEvents (updateWebhookEvent event.id (markProcessed env))))
        (fun message =>
          write (·.withWebhookEvents (updateWebhookEvent event.id (recordError message))))
      return { status := 200, body := .obj [("received", .bool true)] }

/-- The status a caller sees. -/
def answerStatus : Except String Reply → ℕ
  | .ok reply => reply.status
  | .error _ => 500

/-! ## tenant.provisioned -/

structure TenantProvisionedEvent where
  tenantId : String
  slug : String
  plan : String
  adminEmail : String

/-- `customer` is the id Stripe gives the customer it makes; its name and address go to Stripe
    only. -/
def onTenantProvisioned (env : Env) (msg : TenantProvisionedEvent) (customer : String) :
    Method Unit :=
  tryCatch
    (do
      let customerId ← query fun _ => customer
      let _ ← SubscriptionsService.create
        { tenantId := msg.tenantId
          stripeCustomerId := customerId
          planCode := msg.plan
          status := some (if msg.plan = "free" then .active else .trialing)
          stripeSubscriptionId := none }
      publish env "chassis.tenants" "billing.synced" (.billingSynced msg.tenantId customerId))
    (fun _ => return)

end SaasChassis.Billing
