/-
  TenantsService, call by call, and the messages from billing it handles. Its methods do not
  check who calls them; the controllers do.
-/
import SaasChassis.Tenants.FeaturesService

namespace SaasChassis.Tenants

open SaasChassis.Lib Faulty

def findById (id : String) : Method Tenant := do
  match ← query fun db => tenantById id db.tenants with
  | some tenant => return tenant
  | none => throw (.notFound s!"Tenant with ID {id} not found")

/-- What is synced for a plan that includes nothing. -/
def planFeatures : List (String × List String) :=
  [("free", ["basic_reporting"]),
   ("starter", ["basic_reporting", "api_access", "webhooks"]),
   ("pro", ["basic_reporting", "api_access", "webhooks", "advanced_analytics", "sso"]),
   ("enterprise", ["basic_reporting", "api_access", "webhooks", "advanced_analytics", "sso",
      "custom_domain", "audit_logs"])]

/-- The members a JavaScript object inherits from `Object.prototype`: functions, and the
    prototype itself. None of them is iterable. -/
def objectPrototype : List String :=
  ["constructor", "__proto__", "__defineGetter__", "__defineSetter__", "__lookupGetter__",
   "__lookupSetter__", "hasOwnProperty", "isPrototypeOf", "propertyIsEnumerable",
   "toLocaleString", "toString", "valueOf"]

/-- `this.planFeatures[plan] ?? []`, or `none` where it is not iterable: the table is an object
    literal, so a code that is not its own may name an inherited member. -/
def staticFeatures (code : String) : Option (List String) :=
  match planFeatures.lookup code with
  | some features => some features
  | none => if code ∈ objectPrototype then none else some []

/-! ## Provisioning -/

structure CreateTenantDto where
  name : String
  adminEmail : String
  plan : Option String
  phone : Option String
  address : Option String
  stripeCustomerId : Option String

/-- What is drawn for a new tenant: its id, and the start of a UUID for its slug. -/
structure Drawn where
  id : String
  suffix : String

/-- Rows for the features that have none yet. -/
def enablePlanFeatures (tenantId createdByUserId : String) : List String → Method Unit
  | [] => return
  | featureCode :: featureCodes => do
    match ← query fun db => tenantFeature tenantId featureCode db.tenantFeatures with
    | some _ => pure ()
    | none => execute (insertTenantFeature
        { tenantId, featureCode, isEnabled := true, enabledBy := some createdByUserId })
    enablePlanFeatures tenantId createdByUserId featureCodes

def CreateTenantDto.provisioning (strings : Strings) (drawn : Drawn) (dto : CreateTenantDto) :
    Tenant :=
  { id := drawn.id
    name := dto.name
    slug := s!"{strings.slugify dto.name}-{drawn.suffix}"
    status := .provisioning
    stripeCustomerId := dto.stripeCustomerId
    currentPlan := dto.plan.getD "free"
    enabledFeatures := []
    adminEmail := strings.toLowerCase dto.adminEmail
    phone := dto.phone
    address := dto.address
    suspendedAt := none
    cancelledAt := none }

def provision (tenant : Tenant) (featureCodes : List String) (createdByUserId : String) :
    Method Tenant := do
  execute (insertTenant tenant)
  enablePlanFeatures tenant.id createdByUserId featureCodes
  let provisioned := { tenant with enabledFeatures := featureCodes, status := .active }
  write (·.withTenants (saveTenantRow provisioned))
  return provisioned

def createTenant (strings : Strings) (env : Env) (dto : CreateTenantDto)
    (createdByUserId : String) (drawn : Drawn) : Method Tenant := do
  let plan ← findByCode (dto.plan.getD "free")
  let tenant := dto.provisioning strings drawn
  let savedTenant ← tryCatch
    (transaction (provision tenant plan.includedFeatures createdByUserId))
    (fun e =>
      if e = .queryFailed uniqueViolation then
        throw (.conflict s!"Tenant slug '{tenant.slug}' is already taken")
      else throw e)
  -- the owner's membership, whatever comes of it
  if env.identityService then tryCatch (query fun _ => ()) fun _ => return
  publish env "tenant.provisioned"
    (.tenantProvisioned savedTenant.id savedTenant.slug savedTenant.currentPlan
      savedTenant.adminEmail env.now)
  return savedTenant

/-! ## Update -/

/-- Members that are not undefined; null is left out. -/
structure UpdateTenantDto where
  name : Option String
  adminEmail : Option String
  plan : Option String
  phone : Option String
  address : Option String
  stripeCustomerId : Option String

def UpdateTenantDto.patch (strings : Strings) (dto : UpdateTenantDto) (tenant : Tenant) :
    Tenant :=
  { tenant with
    name := dto.name.getD tenant.name
    adminEmail := (dto.adminEmail.map strings.toLowerCase).getD tenant.adminEmail
    phone := dto.phone <|> tenant.phone
    address := dto.address <|> tenant.address
    stripeCustomerId := dto.stripeCustomerId <|> tenant.stripeCustomerId }

/-- What `updateTenant` syncs for a plan: its features, else those of the static table. -/
def featuresToSync (code : String) (featureCodes : List String) : Option (List String) :=
  if featureCodes.isEmpty then staticFeatures code else some featureCodes

def updateTenant (strings : Strings) (env : Env) (id : String) (dto : UpdateTenantDto) :
    Method Tenant := do
  let tenant ← findById id
  let patched := dto.patch strings tenant
  match dto.plan.filter (· ≠ tenant.currentPlan) with
  | some code =>
    let newPlan ← findByCode code
    let featureCodes := newPlan.includedFeatures
    let saved := { patched with currentPlan := code, enabledFeatures := featureCodes }
    write (·.withTenants (saveTenantRow saved))
    replaceTenantFeatures id (featuresToSync code featureCodes) id
    invalidateTenantFeatureCache id
    publish env "tenant.plan-changed" (.tenantPlanChanged id tenant.currentPlan code env.now)
    return saved
  | none =>
    write (·.withTenants (saveTenantRow patched))
    return patched

/-! ## Lifecycle -/

def suspendTenant (env : Env) (id : String) (reason : Option String) : Method Tenant := do
  let tenant ← findById id
  if tenant.status = .suspended then throw (.badRequest "Tenant is already suspended")
  else if tenant.status = .cancelled then
    throw (.badRequest "Cannot suspend a cancelled tenant")
  else
    let saved := { tenant with status := .suspended, suspendedAt := some env.now }
    write (·.withTenants (saveTenantRow saved))
    publish env "tenant.suspended" (.tenantSuspended id reason env.now)
    return saved

def activateTenant (id : String) : Method Tenant := do
  let tenant ← findById id
  if tenant.status = .active then throw (.badRequest "Tenant is already active")
  else if tenant.status = .cancelled then
    throw (.badRequest "Cannot activate a cancelled tenant")
  else
    let saved := { tenant with status := .active, suspendedAt := none }
    write (·.withTenants (saveTenantRow saved))
    return saved

def archiveTenant (env : Env) (id : String) : Method Unit := do
  let tenant ← findById id
  if tenant.status = .cancelled then
    throw (.badRequest "Tenant is already archived/cancelled")
  else
    let saved := { tenant with status := .cancelled, cancelledAt := some env.now }
    write (·.withTenants (saveTenantRow saved))
    invalidateTenantFeatureCache id

/-! ## Messages from billing -/

structure BillingSyncedPayload where
  tenantId : String
  stripeCustomerId : String

/-- The status is whatever string the message holds. -/
structure SubscriptionStatusPayload where
  tenantId : String
  status : String
  plan : Option String

def handleBillingSynced (payload : BillingSyncedPayload) : Method Unit :=
  tryCatch
    (write (·.withTenants (updateTenantRow payload.tenantId
      ({ · with stripeCustomerId := some payload.stripeCustomerId }))))
    fun _ => return

/-- The branches of `handleSubscriptionStatus`; any other string changes no status. -/
def SubscriptionStatusPayload.applyStatus (payload : SubscriptionStatusPayload) (now : ℤ)
    (tenant : Tenant) : Tenant :=
  if payload.status = "active" then { tenant with status := .active, suspendedAt := none }
  else if payload.status = "suspended" ∨ payload.status = "past_due" then
    { tenant with status := .suspended, suspendedAt := some now }
  else if payload.status = "cancelled" then
    { tenant with status := .cancelled, cancelledAt := some now }
  else tenant

/-- A plan that is neither missing nor empty. -/
def SubscriptionStatusPayload.applyPlan (payload : SubscriptionStatusPayload) (tenant : Tenant) :
    Tenant :=
  match payload.plan with
  | none | some "" => tenant
  | some plan => { tenant with currentPlan := plan }

def followSubscription (env : Env) (payload : SubscriptionStatusPayload) : Method Unit := do
  match ← query fun db => tenantById payload.tenantId db.tenants with
  | none => return
  | some tenant =>
    write (·.withTenants (saveTenantRow (payload.applyPlan (payload.applyStatus env.now tenant))))

def handleSubscriptionStatus (env : Env) (payload : SubscriptionStatusPayload) : Method Unit :=
  tryCatch (followSubscription env payload) fun _ => return

end SaasChassis.Tenants
