/-
  The routes of the billing engine for its users: SubscriptionsController, InvoicesController and
  RevenueController, beside the webhook and the broker's messages.

  `ApiRequest.handler` is a route: its guards, its own check of the caller, and what it then asks
  of the tables and of Stripe. `serve` is the service with all its inputs. The invoices of a
  tenant are paged newest first; rows made at the same time are taken in the order of the table.
  The churn rate of the summary is left out.
-/
import SaasChassis.Billing.Receipts
import SaasChassis.Lib.Decimal

namespace SaasChassis.Billing

open SaasChassis.Lib Faulty

/-! ## Callers -/

/-- The claims of the access token that the routes read. -/
structure JwtPayload where
  tenantId : Option String
  isPlatformAdmin : Bool
  permissions : Option (List String)

inductive ApiError where
  /-- An HttpException: its status, its name and its message. -/
  | exception (status : ℕ) (error message : String)
  /-- Whatever the database or Stripe throws. -/
  | failed (message : String)

namespace ApiError

def unauthorized (message : String) : ApiError := .exception 401 "Unauthorized" message

def forbidden (message : String) : ApiError := .exception 403 "Forbidden" message

def notFound (message : String) : ApiError := .exception 404 "Not Found" message

end ApiError

abbrev ApiMethod (α : Type) := Faulty BillingDb ApiError α

def jwtAuthGuard : Option JwtPayload → Except ApiError JwtPayload
  | none => .error (.unauthorized "Invalid or missing access token")
  | some user => .ok user

def permissionsGuard (required : List String) (user : JwtPayload) : Except ApiError Unit :=
  if required = [] then .ok ()
  -- Platform admins bypass permission checks
  else if user.isPlatformAdmin then .ok ()
  else if required.all (user.permissions.getD []).contains then .ok ()
  else .error (.forbidden ("Missing required permission(s): " ++ ", ".intercalate required))

def tenantContext (user : JwtPayload) : Except ApiError String :=
  match truthy user.tenantId with
  | none => .error (.forbidden "No tenant context in token")
  | some tenantId => .ok tenantId

/-! ## Services -/

def SubscriptionsService.findByTenantId (tenantId : String) : ApiMethod Subscription := do
  match ← query fun db => byTenant tenantId db.subscriptions with
  | none => throw (.notFound s!"No subscription found for tenant {tenantId}")
  | some sub => return sub

structure StripeConfig where
  successUrl : String
  cancelUrl : String
  portalReturnUrl : String

/-- What Stripe is asked for. -/
inductive SessionRequest where
  | checkout (customer mode : String) (paymentMethodTypes : List String) (tenantId : String)
      (successUrl cancelUrl : String) (lineItems : List (String × ℕ))
  | portal (customer returnUrl : String)
  deriving DecidableEq

def SessionRequest.customer : SessionRequest → String
  | .checkout customer .. => customer
  | .portal customer _ => customer

def createCheckoutSession (config : StripeConfig)
    (stripeCustomerId tenantId priceId : String) : SessionRequest :=
  .checkout stripeCustomerId "subscription" ["card"] tenantId
    (config.successUrl ++ "?session_id=\x7bCHECKOUT_SESSION_ID\x7d") config.cancelUrl [(priceId, 1)]

def createCustomerPortalSession (config : StripeConfig) (stripeCustomerId : String) :
    SessionRequest := .portal stripeCustomerId config.portalReturnUrl

structure InvoicePage where
  items : List Invoice
  total : ℕ
  page : ℕ
  limit : ℕ
  deriving DecidableEq

def InvoicesService.findByTenantId (tenantId : String) (page limit : ℕ) : ApiMethod InvoicePage :=
  query fun db =>
    let rows := db.invoices.filter (·.tenantId = tenantId)
    { items := (rows.reverse.drop ((page - 1) * limit)).take limit, total := rows.length
      page, limit }

/-- White space as `parseInt` skips it. -/
def isBlank (c : Char) : Bool := c = '\uFEFF' || (isSpace c && c ≠ '\u0085')

/-- `parseInt(s, 10)`; `none` is NaN. -/
def parseInt (s : String) : Option ℤ :=
  let digits (cs : List Char) : Option ℕ :=
    match cs.takeWhile Char.isDigit with
    | [] => none
    | ds => some (digitsVal ds)
  match s.toList.dropWhile isBlank with
  | '-' :: cs => (digits cs).map fun n => -n
  | '+' :: cs => (digits cs).map fun n => n
  | cs => (digits cs).map fun n => n

/-- `Math.max(1, parseInt(s, 10) || fallback)`. -/
def atLeastOne (s : String) (fallback : ℕ) : ℕ :=
  match parseInt s with
  | none => max 1 fallback
  | some n => if n = 0 then max 1 fallback else (max 1 n).toNat

inductive Period where
  | daily | monthly | yearly
  deriving DecidableEq

/-- The query parameter; what is not a period counts as monthly. -/
def safePeriod : Option String → Period
  | some "daily" => .daily
  | some "yearly" => .yearly
  | _ => .monthly

structure RevenueSummary where
  totalRevenue : ℚ
  activeSubscriptions : ℕ
  mrr : ℚ
  arrByPlan : List (String × ℚ)
  revenueByPeriod : List (String × ℚ)
  subscriptionsByPlan : List (String × ℕ)

structure ApiConfig where
  stripe : StripeConfig
  /-- `TO_CHAR` with the period's format. -/
  toChar : Period → ℤ → String
  /-- `DATE_TRUNC('month', ...)`. -/
  month : ℤ → ℤ

def getRevenueSummary (config : ApiConfig) (now : ℤ) (period : Period) :
    ApiMethod RevenueSummary := do
  -- `Promise.all` starts the reads together; one that throws before it asks the database ends it
  let arrRows ← ofExcept ((getArrByPlan config.month now).mapError .failed)
  let totalRevenue ← query getTotalRevenue
  let activeSubscriptions ← query getActiveSubscriptionCount
  let revenueByPeriod ← query (getRevenueByPeriod (config.toChar period))
  let subscriptionsByPlan ← query getSubscriptionsByPlan
  let arrByPlan ← query arrRows
  let mrr ← query (getCurrentMonthRevenue config.month now)
  return { totalRevenue, activeSubscriptions, mrr, arrByPlan, revenueByPeriod,
           subscriptionsByPlan }

/-! ## Routes -/

/-- The requests with the claims of the caller's token, if it has a valid one. `url` is what Stripe
    answers. -/
inductive ApiRequest where
  | getSubscription (user : Option JwtPayload)
  | createCheckout (user : Option JwtPayload) (priceId : String) (url : Option String)
  | createPortal (user : Option JwtPayload) (url : String)
  | listInvoices (user : Option JwtPayload) (page limit : Option String)
  | getRevenue (user : Option JwtPayload) (period : Option String)

inductive Answer where
  | subscription (row : Subscription)
  | session (request : SessionRequest) (url : String)
  | invoices (page : InvoicePage)
  | revenue (summary : RevenueSummary)

/-! ### Handlers, for the tenant of the token -/

def getSubscription (tenantId : String) : ApiMethod Answer := do
  return .subscription (← SubscriptionsService.findByTenantId tenantId)

def createCheckout (config : ApiConfig) (priceId : String) (url : Option String)
    (tenantId : String) : ApiMethod Answer := do
  let subscription ← SubscriptionsService.findByTenantId tenantId
  let request := createCheckoutSession config.stripe subscription.stripeCustomerId tenantId priceId
  return .session request (← query fun _ => url.getD "")

def createPortal (config : ApiConfig) (url tenantId : String) : ApiMethod Answer := do
  let subscription ← SubscriptionsService.findByTenantId tenantId
  let request := createCustomerPortalSession config.stripe subscription.stripeCustomerId
  return .session request (← query fun _ => url)

def listInvoices (page limit : Option String) (tenantId : String) : ApiMethod Answer := do
  let pageNum := atLeastOne (page.getD "1") 1
  let limitNum := min 100 (atLeastOne (limit.getD "20") 20)
  return .invoices (← InvoicesService.findByTenantId tenantId pageNum limitNum)

def getRevenue (config : ApiConfig) (now : ℤ) (period : Option String) : ApiMethod Answer := do
  return .revenue (← getRevenueSummary config now (safePeriod period))

namespace ApiRequest

def user : ApiRequest → Option JwtPayload
  | .getSubscription user | .createCheckout user _ _ | .createPortal user _
  | .listInvoices user _ _ | .getRevenue user _ => user

/-- What `RequirePermissions` asks for; InvoicesController and RevenueController have no
    PermissionsGuard. -/
def permissions : ApiRequest → List String
  | .getSubscription _ => ["billing:read"]
  | .createCheckout .. | .createPortal .. => ["billing:manage"]
  | .listInvoices .. | .getRevenue .. => []

/-- What a route does for the user that its guards have let through. -/
def body (config : ApiConfig) (now : ℤ) (user : JwtPayload) :
    ApiRequest → Except ApiError (ApiMethod Answer)
  | .getSubscription _ => (tenantContext user).map Billing.getSubscription
  | .createCheckout _ priceId url =>
    (tenantContext user).map (Billing.createCheckout config priceId url)
  | .createPortal _ url => (tenantContext user).map (Billing.createPortal config url)
  | .listInvoices _ page limit => (tenantContext user).map (Billing.listInvoices page limit)
  | .getRevenue _ period =>
    if !user.isPlatformAdmin then
      .error (.forbidden "Revenue analytics requires platform admin")
    else .ok (Billing.getRevenue config now period)

def handler (config : ApiConfig) (now : ℤ) (request : ApiRequest) :
    Except ApiError (ApiMethod Answer) := do
  let user ← jwtAuthGuard request.user
  permissionsGuard request.permissions user
  request.body config now user

end ApiRequest

/-! ## The service -/

/-- A delivery or a message, or a request with the time and the calls that fail. -/
inductive BillingCall where
  | input (input : BillingInput)
  | request (now : ℤ) (fault : Faults ApiError) (request : ApiRequest)

inductive BillingReply where
  | webhook (reply : Except String Reply)
  /-- Of a message from the broker. -/
  | consumed (result : Except String Unit)
  | api (answer : Except ApiError Answer)

def serve (config : ApiConfig) (db : BillingDb) : BillingCall → BillingDb × BillingReply
  | .input (.webhook env constructed fault) =>
    let r := handleWebhook env constructed fault 0 db
    (r.2.2, .webhook r.1)
  | .input (.provisioned env msg customer fault) =>
    let r := onTenantProvisioned env msg customer fault 0 db
    (r.2.2, .consumed r.1)
  | .request now fault request =>
    match request.handler config now with
    | .error e => (db, .api (.error e))
    | .ok method =>
      let r := method fault 0 db
      (r.2.2, .api r.1)

theorem serve_input (config : ApiConfig) (db : BillingDb) (i : BillingInput) :
    (serve config db (.input i)).1 = db.step i := by
  cases i <;> rfl

end SaasChassis.Billing
