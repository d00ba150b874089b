/-
  The requests of the tenant manager: TenantsController, FeaturesController and the messages that
  BillingEventsController takes from the broker.

  Each handler is its guard, its pipes, its own check of the caller and the service's method, in
  this order (`ApiRequest.handler`). What a method throws becomes the answer of the exception
  filter.
  `serve_update`: the route of the update is `patchTenant`. The listings of all tenants, plans and
  feature definitions are left out: they read, and name no tenant.
-/
import SaasChassis.Tenants.Http
import SaasChassis.Tenants.TenantsController

namespace SaasChassis.Tenants

open SaasChassis.Lib Faulty

/-! ## Refusals -/

inductive Refusal where
  /-- An HttpException: its status, its name and its message. -/
  | exception (status : ℕ) (error message : String)
  /-- What ValidationPipe throws, with the messages of the validators. -/
  | invalidBody
  | internalServerError
  deriving DecidableEq

namespace Refusal

def badRequest (message : String) : Refusal := .exception 400 "Bad Request" message

def unauthorized (message : String) : Refusal := .exception 401 "Unauthorized" message

def forbidden (message : String) : Refusal := .exception 403 "Forbidden" message

def notFound (message : String) : Refusal := .exception 404 "Not Found" message

def conflict (message : String) : Refusal := .exception 409 "Conflict" message

end Refusal

def TenantError.refusal : TenantError → Refusal
  | .notFound message => .notFound message
  | .badRequest message => .badRequest message
  | .conflict message => .conflict message
  | .queryFailed _ | .failed _ => .internalServerError

/-! ## Guards, pipes and checks -/

structure ApiConfig extends HttpConfig where
  isEmail : String → Bool

def ApiConfig.validators (config : ApiConfig) : Validators := ⟨config.isUuid, config.isEmail⟩

def CreateTenantDto.valid (validators : Validators) (dto : CreateTenantDto) : Bool :=
  dto.name ≠ "" && dto.name.length ≤ 200 && dto.adminEmail ≠ "" &&
    validators.isEmail dto.adminEmail && dto.plan.all (·.length ≤ 50) &&
    dto.phone.all (·.length ≤ 20) && dto.stripeCustomerId.all (·.length ≤ 100)

/-- `JwtAuthGuard`, with the payload of the token it has verified, if there was one. -/
def jwtAuthGuard : Option JwtPayload → Except Refusal JwtPayload
  | none => .error (.unauthorized "Invalid or missing access token")
  | some user => .ok user

def parseUuidPipe (config : ApiConfig) (id : String) : Except Refusal Unit :=
  if config.isUuid id then .ok ()
  else .error (.badRequest "Validation failed (uuid is expected)")

def validationPipe (valid : Bool) : Except Refusal Unit :=
  if valid then .ok () else .error .invalidBody

def platformAdminsOnly (message : String) (user : JwtPayload) : Except Refusal Unit :=
  if !user.isPlatformAdmin then .error (.forbidden message) else .ok ()

def ownTenantOnly (user : JwtPayload) (tenantId : String) : Except Refusal Unit :=
  if !user.isPlatformAdmin && user.tenantId ≠ some tenantId then
    .error (.forbidden "Access denied to this tenant")
  else .ok ()

/-! ## Requests -/

/-- The requests with the caller's token, where the route asks for one, and, for a new tenant, what
    is drawn for it. -/
inductive ApiRequest where
  | create (user : Option JwtPayload) (dto : CreateTenantDto) (drawn : Drawn)
  | findOne (user : Option JwtPayload) (id : String)
  | update (user : Option JwtPayload) (id : String) (dto : UpdateTenantDto)
  | suspend (user : Option JwtPayload) (id : String) (reason : Option String)
  | activate (user : Option JwtPayload) (id : String)
  | remove (user : Option JwtPayload) (id : String)
  | findTenantFeatures (user : Option JwtPayload) (tenantId : String)
  | toggleFeature (user : Option JwtPayload) (tenantId featureCode : String) (enabled : Bool)
  | checkFeature (headers : List (String × String)) (tenantId featureCode : String)
  | billingSynced (payload : BillingSyncedPayload)
  | subscriptionStatus (payload : SubscriptionStatusPayload)

/-- What a handler returns. -/
inductive Reply where
  | tenant (status : ℕ) (tenant : Tenant)
  | features (features : List FeatureWithStatus)
  | feature (saved : TenantFeature)
  | response (response : HttpResponse)
  | noContent
  /-- Of a message from the broker. -/
  | acknowledged

namespace ApiRequest

/-- The tenant that a request is about. -/
def tenantId : ApiRequest → String
  | .create _ _ drawn => drawn.id
  | .findOne _ id | .update _ id _ | .suspend _ id _ | .activate _ id | .remove _ id => id
  | .findTenantFeatures _ tenantId | .toggleFeature _ tenantId _ _ => tenantId
  | .checkFeature _ tenantId _ => tenantId
  | .billingSynced payload => payload.tenantId
  | .subscriptionStatus payload => payload.tenantId

def handler (config : ApiConfig) (strings : Strings) (env : Env) :
    ApiRequest → Except Refusal (Method Reply)
  | .create user dto drawn => do
    let user ← jwtAuthGuard user
    validationPipe (dto.valid config.validators)
    platformAdminsOnly "Only platform admins can provision tenants" user
    return do return .tenant 201 (← createTenant strings env dto user.sub drawn)
  | .findOne user id => do
    let user ← jwtAuthGuard user
    parseUuidPipe config id
    ownTenantOnly user id
    return do return .tenant 200 (← findById id)
  | .update user id dto => do
    let user ← jwtAuthGuard user
    parseUuidPipe config id
    validationPipe (dto.valid config.validators)
    -- the plan's check is the handler's second
    (authorizeUpdate user id dto).mapError .forbidden
    return do return .tenant 200 (← updateTenant strings env id dto)
  | .suspend user id reason => do
    let user ← jwtAuthGuard user
    parseUuidPipe config id
    platformAdminsOnly "Only platform admins can suspend tenants" user
    return do return .tenant 200 (← suspendTenant env id reason)
  | .activate user id => do
    let user ← jwtAuthGuard user
    parseUuidPipe config id
    platformAdminsOnly "Only platform admins can activate tenants" user
    return do return .tenant 200 (← activateTenant id)
  | .remove user id => do
    let user ← jwtAuthGuard user
    parseUuidPipe config id
    platformAdminsOnly "Only platform admins can archive tenants" user
    return do
      archiveTenant env id
      return .noContent
  | .findTenantFeatures user tenantId => do
    let user ← jwtAuthGuard user
    parseUuidPipe config tenantId
    ownTenantOnly user tenantId
    return do return .features (← Tenants.findTenantFeatures tenantId)
  | .toggleFeature user tenantId featureCode enabled => do
    let user ← jwtAuthGuard user
    parseUuidPipe config tenantId
    platformAdminsOnly "Only platform admins can toggle features" user
    return do return .feature (← Tenants.toggleFeature env tenantId featureCode enabled user.sub)
  -- with its guard and its pipe
  | .checkFeature headers tenantId featureCode => return do
      let response ← Tenants.checkFeature config.toHttpConfig env headers tenantId featureCode
      return .response response
  | .billingSynced payload => return do
      handleBillingSynced payload
      return .acknowledged
  | .subscriptionStatus payload => return do
      handleSubscriptionStatus env payload
      return .acknowledged

/-- Guards, pipes and the handler's check let the request through. -/
def admitted (config : ApiConfig) (strings : Strings) (env : Env) : ApiRequest → Bool
  | .checkFeature headers tenantId _ =>
    (internalServiceGuard config.internalServiceToken (header "X-Service-Token" headers)).isOk &&
      config.isUuid tenantId
  | request => (request.handler config strings env).isOk

end ApiRequest

/-! ## Serving -/

/-- A request with what its calls find and which of them fail. -/
structure ApiInput where
  env : Env
  fault : Faults TenantError
  request : ApiRequest

def serve (config : ApiConfig) (strings : Strings) (db : TenantDb) (i : ApiInput) :
    TenantDb × Except Refusal Reply :=
  match i.request.handler config strings i.env with
  | .error refusal => (db, .error refusal)
  | .ok method =>
    match method i.fault 0 db with
    | (.ok reply, _, u) => (u, .ok reply)
    | (.error e, _, u) => (u, .error e.refusal)

theorem ok_bind {α β : Type} (a : α) (f : α → Except Refusal β) :
    (Except.ok a >>= f) = f a := rfl

section Serve

variable (config : ApiConfig) (strings : Strings) (env : Env) (fault : Faults TenantError)
  (db : TenantDb)

theorem serve_error {i : ApiInput} {refusal : Refusal}
    (h : i.request.handler config strings i.env = .error refusal) :
    serve config strings db i = (db, .error refusal) := by
  rw [serve, h]

theorem serve_ok {i : ApiInput} {method : Method Reply}
    (h : i.request.handler config strings i.env = .ok method) :
    serve config strings db i = ((method i.fault 0 db).2.2,
      (method i.fault 0 db).1.mapError TenantError.refusal) := by
  rw [serve, h]
  rcases hr : method i.fault 0 db with ⟨e | reply, n, u⟩
  · simp only [hr]
    rfl
  · simp only [hr]
    rfl

theorem serve_update (user : JwtPayload) (id : String) (dto : UpdateTenantDto) :
    serve config strings db ⟨env, fault, .update (some user) id dto⟩ =
      match patchTenant config.validators strings env user id dto fault db with
      | (.badRequest, u) => (u, .error (if config.isUuid id then .invalidBody
          else .badRequest "Validation failed (uuid is expected)"))
      | (.forbidden message, u) => (u, .error (.forbidden message))
      | (.handled (.ok tenant), u) => (u, .ok (.tenant 200 tenant))
      | (.handled (.error e), u) => (u, .error e.refusal) := by
  have huuid : config.validators.isUuid id = config.isUuid id := rfl
  unfold patchTenant
  by_cases hid : config.isUuid id = true
  · by_cases hvalid : dto.valid config.validators = true
    · simp only [huuid, hid, hvalid, Bool.and_self, if_true]
      cases hauth : authorizeUpdate user id dto with
      | error message =>
        refine serve_error config strings db ?_
        simp only [ApiRequest.handler, jwtAuthGuard, parseUuidPipe, validationPipe, ok_bind, hid,
          hvalid, hauth, if_true]
        rfl
      | ok _ =>
        have hhandler : (ApiRequest.update (some user) id dto).handler config strings env =
            .ok (do return .tenant 200 (← updateTenant strings env id dto)) := by
          simp only [ApiRequest.handler, jwtAuthGuard, parseUuidPipe, validationPipe, ok_bind, hid,
            hvalid, hauth, if_true]
          rfl
        rw [serve_ok config strings db hhandler]
        rcases hr : updateTenant strings env id dto fault 0 db with ⟨e | tenant, n, u⟩
        · rw [bind_error _ hr]
          rfl
        · rw [bind_ok _ hr]
          rfl
    · have hvalid' : dto.valid config.validators = false := by simpa using hvalid
      simp only [huuid, hid, hvalid', Bool.and_false, if_true]
      refine serve_error config strings db ?_
      simp only [ApiRequest.handler, jwtAuthGuard, parseUuidPipe, validationPipe, ok_bind, hid,
        hvalid', if_true]
      rfl
  · have hid' : config.isUuid id = false := by simpa using hid
    simp only [huuid, hid', Bool.false_and]
    refine serve_error config strings db ?_
    simp only [ApiRequest.handler, jwtAuthGuard, parseUuidPipe, ok_bind, hid']
    rfl

end Serve

end SaasChassis.Tenants
