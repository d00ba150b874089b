/-
  What is published to `chassis.audit`: the identity service's logins, impersonations and HTTP
  requests, the billing engine's subscriptions and payments, and the requests that the SDK's
  `AuditInterceptor` hands to `AuditPublisherService`.

  Every message is built by hand in its producer, here as the JSON it sends; `Published.action`
  is what the message reports. What a client or Stripe has sent as JSON, and what is written in
  the program's text, is any JavaScript string; header lines and URLs have no surrogates. The
  connection to RabbitMQ and the routing keys, which a fanout exchange ignores, are left out.
-/
import SaasChassis.Lib.Json
import SaasChassis.Lib.Postgres

namespace SaasChassis.Audit

open SaasChassis.Lib SaasChassis.Lib.Postgres

/-- `JSON.stringify` of an object: a member that is undefined is dropped. A lone surrogate is
    kept, as a `\u` escape. -/
def stringify (members : List (String × Option WireJson)) : WireJson :=
  .obj (members.filterMap fun m => m.2.map fun value => (m.1, value))

/-- A user acting in a tenant. -/
structure Actor where
  tenant : Uuid
  user : Uuid

/-! ## The identity service -/

/-- `AuthService.login`. -/
structure Login where
  email : Utf16
  ipAddress : Option String
  timestamp : String

def Login.event (l : Login) (a : Actor) : WireJson :=
  stringify
    [("userId", some (.str a.user.format)),
     ("action", some (.str "login")),
     ("meta", some (stringify
      [("email", some (.str l.email)),
       ("ipAddress", l.ipAddress.map .str)])),
     ("timestamp", some (.str l.timestamp))]

/-- `ImpersonationService.startImpersonation`; the acting user is the admin. -/
structure Impersonation where
  targetUserId : Uuid
  targetTenantId : Uuid
  reason : Utf16
  sessionId : Uuid
  timestamp : String

def Impersonation.event (i : Impersonation) (a : Actor) : WireJson :=
  stringify
    [("userId", some (.str a.user.format)),
     ("action", some (.str "impersonate")),
     ("meta", some (stringify
      [("targetUserId", some (.str i.targetUserId.format)),
       ("targetTenantId", some (.str i.targetTenantId.format)),
       ("reason", some (.str i.reason)),
       ("sessionId", some (.str i.sessionId.format))])),
     ("timestamp", some (.str i.timestamp))]

/-- A request with one of the methods that the identity service's interceptor audits. -/
structure HttpRequest where
  method : String
  mutating : method ∈ ["POST", "PUT", "PATCH", "DELETE"]
  url : String
  durationMs : ℤ
  isImpersonating : Bool
  realUserId : Option String
  timestamp : String

def HttpRequest.action (r : HttpRequest) : String := r.method.toLower ++ ":" ++ r.url

def HttpRequest.event (r : HttpRequest) (a : Actor) : WireJson :=
  stringify
    [("userId", some (.str a.user.format)),
     ("action", some (.str r.action)),
     ("meta", some (stringify
      [("url", some (.str r.url)),
       ("method", some (.str r.method)),
       ("durationMs", some (.num r.durationMs)),
       ("tenantId", some (.str a.tenant.format)),
       ("isImpersonating", some (.bool r.isImpersonating)),
       ("realUserId", r.realUserId.map .str)])),
     ("timestamp", some (.str r.timestamp))]

/-! ## The billing engine -/

/-- `handleSubscriptionCreated`. -/
structure SubscriptionCreated where
  stripeSubscriptionId : Utf16
  stripeCustomerId : Utf16
  status : Utf16
  occurredAt : String

def SubscriptionCreated.event (s : SubscriptionCreated) : WireJson :=
  stringify
    [("stripeSubscriptionId", some (.str s.stripeSubscriptionId)),
     ("stripeCustomerId", some (.str s.stripeCustomerId)),
     ("status", some (.str s.status)),
     ("occurredAt", some (.str s.occurredAt))]

/-- `handleInvoicePaid`, for the tenant of the local subscription. -/
structure PaymentSucceeded where
  stripeInvoiceId : Utf16
  stripeCustomerId : Utf16
  amountPaid : ℚ
  currency : Utf16
  occurredAt : String

def PaymentSucceeded.event (p : PaymentSucceeded) (a : Actor) : WireJson :=
  stringify
    [("stripeInvoiceId", some (.str p.stripeInvoiceId)),
     ("stripeCustomerId", some (.str p.stripeCustomerId)),
     ("tenantId", some (.str a.tenant.format)),
     ("amountPaid", some (.num p.amountPaid)),
     ("currency", some (.str p.currency)),
     ("occurredAt", some (.str p.occurredAt))]

/-! ## The SDK -/

/-- A handler with `@AuditLog(action)` has returned. -/
structure Decorated where
  auditAction : Utf16
  /-- The interceptor does nothing for an empty action. -/
  auditAction_ne : auditAction ≠ ""
  className : String
  responseData : Option WireJson
  body : Option WireJson
  /-- The `x-request-id` header as it came in. -/
  requestIdHeader : Option String
  /-- The id that `uuidv4` would make. -/
  uuidv4 : Uuid
  /-- `options?.serviceName`. -/
  serviceNameOption : Option Utf16
  timestamp : String

/-- `s.replace(pattern, '')`: the first occurrence. -/
def removeFirst (pattern : List Char) : List Char → List Char
  | [] => []
  | c :: cs =>
    if pattern.isPrefixOf (c :: cs) then (c :: cs).drop pattern.length
    else c :: removeFirst pattern cs

/-- `value?.key`. -/
def member (key : Utf16) : WireJson → Option WireJson
  | .obj members => members.lookup key
  | _ => none

namespace Decorated

variable (d : Decorated)

/-- `RequestIdMiddleware`, which runs before the interceptor. -/
def requestId : String :=
  match d.requestIdHeader with
  | none | some "" => d.uuidv4.format
  | some id => id

def resourceType : String := String.ofList (removeFirst "Controller".toList d.className.toList)

/-- `responseData?.data?.id`. -/
def resourceId : Option WireJson := (d.responseData.bind (member "data")).bind (member "id")

def changes : WireJson := stringify [("body", d.body)]

def serviceName : Utf16 :=
  match d.serviceNameOption with
  | none => "unknown"
  | some name => if name = "" then "unknown" else name

def event (a : Actor) : WireJson :=
  stringify
    [("tenantId", some (.str a.tenant.format)),
     ("userId", some (.str a.user.format)),
     ("action", some (.str d.auditAction)),
     ("resourceType", some (.str d.resourceType)),
     ("resourceId", d.resourceId),
     ("changes", some d.changes),
     ("requestId", some (.str d.requestId)),
     ("serviceName", some (.str d.serviceName)),
     ("timestamp", some (.str d.timestamp))]

end Decorated

/-! ## All of them -/

inductive Published where
  | login (a : Actor) (l : Login)
  | impersonate (a : Actor) (i : Impersonation)
  | httpRequest (a : Actor) (r : HttpRequest)
  | subscriptionCreated (a : Actor) (s : SubscriptionCreated)
  | paymentSucceeded (a : Actor) (p : PaymentSucceeded)
  | decorated (a : Actor) (d : Decorated)

namespace Published

def actor : Published → Actor
  | login a _ | impersonate a _ | httpRequest a _ | subscriptionCreated a _
  | paymentSucceeded a _ | decorated a _ => a

def message : Published → WireJson
  | login a l => l.event a
  | impersonate a i => i.event a
  | httpRequest a r => r.event a
  | subscriptionCreated _ s => s.event
  | paymentSucceeded a p => p.event a
  | decorated a d => d.event a

/-- The action reported; the billing engine names its own in the routing key alone. -/
def action : Published → Utf16
  | login _ _ => "login"
  | impersonate _ _ => "impersonate"
  | httpRequest _ r => r.action
  | subscriptionCreated _ _ => "billing.subscription.created"
  | paymentSucceeded _ _ => "billing.payment.succeeded"
  | decorated _ d => d.auditAction

end Published

end SaasChassis.Audit
