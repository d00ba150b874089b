/-
  The billing engine's tables and the Stripe objects it reads.

  Rows carry the columns the modelled code reads or writes, Stripe objects the members it
  reads. The type of an event decides the type of its object, so the two are one here
  (`EventData`). Times are in milliseconds, those of Stripe objects in seconds.

  A subscription row is known by its tenant, which is unique; its UUID is left out. Row-level
  security is left out: the queries are taken to see every row.
-/
import Mathlib.Data.Rat.Defs
import SaasChassis.Lib.Faults
import SaasChassis.Lib.Json
import SaasChassis.Lib.KeyedRows
import SaasChassis.Lib.Runs

namespace SaasChassis.Billing

open SaasChassis.Lib

/-! ## Stripe -/

/-- Stripe's values; the entity's type lacks the last two, which are cast past it. -/
inductive SubscriptionStatus where
  | active | trialing | pastDue | canceled | unpaid | incomplete | incompleteExpired | paused
  deriving DecidableEq, Repr

/-- As Stripe, the column and the messages have it. -/
def SubscriptionStatus.text : SubscriptionStatus → String
  | .active => "active"
  | .trialing => "trialing"
  | .pastDue => "past_due"
  | .canceled => "canceled"
  | .unpaid => "unpaid"
  | .incomplete => "incomplete"
  | .incompleteExpired => "incomplete_expired"
  | .paused => "paused"

/-- A customer, by id or in full. -/
inductive CustomerRef where
  | reference (id : String)
  | expanded (id : String)
  deriving DecidableEq, Repr

def CustomerRef.customerId : CustomerRef → String
  | .reference id => id
  | .expanded id => id

structure Price where
  lookupKey : Option String
  id : String
  deriving DecidableEq, Repr

structure StripeSubscription where
  id : String
  customer : CustomerRef
  status : SubscriptionStatus
  currentPeriodStart : ℤ
  currentPeriodEnd : ℤ
  cancelAtPeriodEnd : Bool
  /-- The prices of `items.data`. -/
  items : List (Option Price)
  deriving DecidableEq, Repr

structure StripeInvoice where
  id : String
  customer : Option CustomerRef
  amountDue : ℤ
  amountPaid : ℤ
  currency : String
  hostedInvoiceUrl : Option String
  invoicePdf : Option String
  periodStart : ℤ
  periodEnd : ℤ
  deriving DecidableEq, Repr

structure StripeCustomer where
  id : String
  /-- `metadata.tenantId`. -/
  tenantId : Option String
  deriving DecidableEq, Repr

inductive EventData where
  | subscriptionCreated (sub : StripeSubscription)
  | subscriptionUpdated (sub : StripeSubscription)
  | subscriptionDeleted (sub : StripeSubscription)
  | invoicePaid (inv : StripeInvoice)
  | invoicePaymentFailed (inv : StripeInvoice)
  | customerCreated (customer : StripeCustomer)
  /-- Any other type, with whatever object. -/
  | other (eventType : String)
  deriving DecidableEq, Repr

def EventData.type : EventData → String
  | .subscriptionCreated _ => "customer.subscription.created"
  | .subscriptionUpdated _ => "customer.subscription.updated"
  | .subscriptionDeleted _ => "customer.subscription.deleted"
  | .invoicePaid _ => "invoice.paid"
  | .invoicePaymentFailed _ => "invoice.payment_failed"
  | .customerCreated _ => "customer.created"
  | .other eventType => eventType

structure StripeEvent where
  id : String
  /-- When Stripe made it, in seconds. -/
  created : ℤ
  data : EventData
  deriving DecidableEq, Repr

/-! ## Rows -/

structure Subscription where
  tenantId : String
  stripeCustomerId : String
  stripeSubscriptionId : Option String
  planCode : String
  status : SubscriptionStatus
  currentPeriodStart : Option ℤ
  currentPeriodEnd : Option ℤ
  cancelAtPeriodEnd : Bool
  deriving DecidableEq, Repr

inductive InvoiceStatus where
  | draft | open | paid | void | uncollectible
  deriving DecidableEq, Repr

structure Invoice where
  tenantId : String
  stripeInvoiceId : String
  stripeCustomerId : String
  amountDue : ℚ
  amountPaid : ℚ
  currency : String
  status : InvoiceStatus
  invoiceUrl : Option String
  invoicePdf : Option String
  periodStart : Option ℤ
  periodEnd : Option ℤ
  paidAt : Option ℤ
  deriving DecidableEq, Repr

structure WebhookEvent where
  stripeEventId : String
  eventType : String
  payload : EventData
  processed : Bool
  processedAt : Option ℤ
  errorMessage : Option String
  deriving DecidableEq, Repr

inductive MessageBody where
  | subscriptionStatus (tenantId status : String) (plan : Option String)
  | subscriptionCreated (stripeSubscriptionId stripeCustomerId status : String) (occurredAt : ℤ)
  | paymentSucceeded (stripeInvoiceId stripeCustomerId tenantId : String) (amountPaid : ℚ)
      (currency : String) (occurredAt : ℤ)
  | billingSynced (tenantId stripeCustomerId : String)
  deriving DecidableEq, Repr

structure Message where
  exchange : String
  routingKey : String
  body : MessageBody
  deriving DecidableEq, Repr

structure BillingDb where
  subscriptions : List Subscription
  invoices : List Invoice
  webhookEvents : List WebhookEvent
  /-- What was published to RabbitMQ, in order. -/
  messages : List Message
  /-- History, which no code reads: the events whose handler has run to its end. -/
  handled : List String

def BillingDb.empty : BillingDb :=
  { subscriptions := [], invoices := [], webhookEvents := [], messages := [], handled := [] }

/-- What a call finds: clock and message channel. -/
structure Env where
  /-- `Date.now()`, in milliseconds. -/
  now : ℤ
  /-- Whether the publisher has a channel. -/
  channel : Bool

/-- A method of the service: calls to repositories and to Stripe, each of which may throw. -/
abbrev Method (α : Type) := Faulty BillingDb String α

/-! ## Statements -/

def byTenant (tenantId : String) (rows : List Subscription) : Option Subscription :=
  rows.find? (·.tenantId = tenantId)

/-- `findOne` without an order on a column that is not unique: of several rows the first of the
    table. -/
def byCustomer (stripeCustomerId : String) (rows : List Subscription) : Option Subscription :=
  rows.find? (·.stripeCustomerId = stripeCustomerId)

def bySubscription (stripeSubscriptionId : String) (rows : List Subscription) :
    Option Subscription :=
  rows.find? (·.stripeSubscriptionId = some stripeSubscriptionId)

theorem byCustomer_mem {c : String} {rows : List Subscription} {row : Subscription}
    (h : byCustomer c rows = some row) : row ∈ rows ∧ row.stripeCustomerId = c :=
  ⟨List.mem_of_find?_eq_some h, by simpa using List.find?_some h⟩

theorem bySubscription_mem {id : String} {rows : List Subscription} {row : Subscription}
    (h : bySubscription id rows = some row) :
    row ∈ rows ∧ row.stripeSubscriptionId = some id :=
  ⟨List.mem_of_find?_eq_some h, by simpa using List.find?_some h⟩

/-- `UPDATE subscriptions ... WHERE tenant_id = t`. -/
def updateTenant (tenantId : String) (f : Subscription → Subscription)
    (rows : List Subscription) : List Subscription :=
  updateKey (·.tenantId) tenantId f rows

/-- `subscriptionRepo.save` of a row that was read. -/
def saveSubscription (sub : Subscription) (rows : List Subscription) : List Subscription :=
  updateTenant sub.tenantId (fun _ => sub) rows

/-- `invoiceRepo.save` of a row that was read. -/
def saveInvoice (invoice : Invoice) (rows : List Invoice) : List Invoice :=
  updateKey (·.stripeInvoiceId) invoice.stripeInvoiceId (fun _ => invoice) rows

def findInvoice (stripeInvoiceId : String) (rows : List Invoice) : Option Invoice :=
  rows.find? (·.stripeInvoiceId = stripeInvoiceId)

def findWebhookEvent (stripeEventId : String) (rows : List WebhookEvent) : Option WebhookEvent :=
  rows.find? (·.stripeEventId = stripeEventId)

def updateWebhookEvent (stripeEventId : String) (f : WebhookEvent → WebhookEvent)
    (rows : List WebhookEvent) : List WebhookEvent :=
  updateKey (·.stripeEventId) stripeEventId f rows

/-- `webhookRepo.upsert` on a conflict of `stripeEventId`: columns not given stay. -/
def upsertWebhookEvent (event : StripeEvent) (rows : List WebhookEvent) : List WebhookEvent :=
  if rows.any (·.stripeEventId = event.id) then
    updateWebhookEvent event.id (fun row => { row with
      eventType := event.data.type
      payload := event.data
      processed := false }) rows
  else
    rows ++ [{ stripeEventId := event.id, eventType := event.data.type, payload := event.data,
               processed := false, processedAt := none, errorMessage := none }]

def BillingDb.withSubscriptions (db : BillingDb) (f : List Subscription → List Subscription) :
    BillingDb :=
  { db with subscriptions := f db.subscriptions }

def BillingDb.withInvoices (db : BillingDb) (f : List Invoice → List Invoice) : BillingDb :=
  { db with invoices := f db.invoices }

def BillingDb.withWebhookEvents (db : BillingDb) (f : List WebhookEvent → List WebhookEvent) :
    BillingDb :=
  { db with webhookEvents := f db.webhookEvents }

/-- The constraint the proofs rely on. -/
structure BillingDb.Schema (db : BillingDb) : Prop where
  uq_subscription_tenant : (db.subscriptions.map (·.tenantId)).Nodup

end SaasChassis.Billing
