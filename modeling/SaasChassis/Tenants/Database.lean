/-
  The tenant manager's tables, its Redis keys, and the statements its repositories make.

  Rows carry the columns the modelled code reads or writes; a tenant's metadata and the end of
  its trial, which are only stored, are left out. Times are in milliseconds.

  Row-level security is left out: the queries are taken to see every row. So is what a column
  refuses: a value too long, or with a NUL in it, is a call that fails.
-/
import SaasChassis.Lib.KeyedRows
import SaasChassis.Lib.Runs
import SaasChassis.Lib.Triples

namespace SaasChassis.Tenants

open SaasChassis.Lib Faulty

/-! ## Rows -/

inductive TenantStatus where
  | provisioning | active | suspended | cancelled | pastDue | archived
  deriving DecidableEq, Repr

structure Tenant where
  id : String
  name : String
  slug : String
  status : TenantStatus
  stripeCustomerId : Option String
  currentPlan : String
  /-- The snapshot of what the plan includes. -/
  enabledFeatures : List String
  adminEmail : String
  phone : Option String
  address : Option String
  suspendedAt : Option ℤ
  cancelledAt : Option ℤ
  deriving DecidableEq, Repr

structure Plan where
  code : String
  includedFeatures : List String
  deriving DecidableEq, Repr

structure FeatureDefinition where
  code : String
  defaultEnabled : Bool
  deriving DecidableEq, Repr

structure TenantFeature where
  tenantId : String
  featureCode : String
  isEnabled : Bool
  enabledBy : Option String
  deriving DecidableEq, Repr

/-- A Redis key with its value, until it expires. -/
structure CacheEntry where
  key : String
  value : String
  expiresAt : ℤ
  deriving DecidableEq, Repr

inductive MessageBody where
  | tenantProvisioned (tenantId slug plan adminEmail : String) (timestamp : ℤ)
  | tenantSuspended (tenantId : String) (reason : Option String) (timestamp : ℤ)
  | tenantPlanChanged (tenantId oldPlan newPlan : String) (timestamp : ℤ)
  | tenantFeatureToggled (tenantId featureCode : String) (enabled : Bool) (timestamp : ℤ)
  deriving DecidableEq, Repr

structure Message where
  exchange : String
  routingKey : String
  body : MessageBody
  deriving DecidableEq, Repr

structure TenantDb where
  tenants : List Tenant
  tenantFeatures : List TenantFeature
  featureDefinitions : List FeatureDefinition
  plans : List Plan
  redis : List CacheEntry
  /-- What was published to RabbitMQ, in order. -/
  messages : List Message

/-- Before the first tenant: the plans and features an operator has stored. -/
def TenantDb.seeded (plans : List Plan) (featureDefinitions : List FeatureDefinition) :
    TenantDb :=
  { tenants := [], tenantFeatures := [], featureDefinitions, plans, redis := [], messages := [] }

inductive TenantError where
  | notFound (message : String)
  | badRequest (message : String)
  | conflict (message : String)
  /-- TypeORM's error, with Postgres' code. -/
  | queryFailed (code : String)
  /-- Any other. -/
  | failed (message : String)
  deriving DecidableEq, Repr

/-- What a call finds: clock, message channel, and the identity service's address and token. -/
structure Env where
  /-- `Date.now()`, in milliseconds. -/
  now : ℤ
  /-- Whether the publisher has a channel. -/
  channel : Bool
  identityService : Bool
  deriving DecidableEq

/-- The libraries' string functions. -/
structure Strings where
  toLowerCase : String → String
  slugify : String → String

/-- A method of a service: calls to repositories, Redis and the identity service. -/
abbrev Method (α : Type) := Faulty TenantDb TenantError α

/-! ## Statements -/

def tenantById (id : String) (rows : List Tenant) : Option Tenant := rows.find? (·.id = id)

def planByCode (code : String) (rows : List Plan) : Option Plan := rows.find? (·.code = code)

def definitionByCode (code : String) (rows : List FeatureDefinition) : Option FeatureDefinition :=
  rows.find? (·.code = code)

def tenantFeature (tenantId featureCode : String) (rows : List TenantFeature) :
    Option TenantFeature :=
  rows.find? fun row => row.tenantId = tenantId && row.featureCode = featureCode

theorem tenantById_mem {id : String} {rows : List Tenant} {t : Tenant}
    (h : tenantById id rows = some t) : t ∈ rows ∧ t.id = id :=
  ⟨List.mem_of_find?_eq_some h, by simpa using List.find?_some h⟩

/-- `UPDATE tenants ... WHERE id = t`. -/
def updateTenantRow (id : String) (f : Tenant → Tenant) : List Tenant → List Tenant :=
  updateKey (·.id) id f

/-- `tenantRepo.save` of a row that was read. -/
def saveTenantRow (t : Tenant) : List Tenant → List Tenant := updateTenantRow t.id fun _ => t

def uniqueViolation : String := "23505"

def foreignKeyViolation : String := "23503"

def insertTenant (t : Tenant) (db : TenantDb) : Except TenantError TenantDb :=
  if db.tenants.any fun row => row.id = t.id || row.slug = t.slug then
    .error (.queryFailed uniqueViolation)
  else .ok { db with tenants := db.tenants ++ [t] }

def insertTenantFeature (row : TenantFeature) (db : TenantDb) : Except TenantError TenantDb :=
  if (tenantFeature row.tenantId row.featureCode db.tenantFeatures).isSome then
    .error (.queryFailed uniqueViolation)
  else if (tenantById row.tenantId db.tenants).isSome &&
      (definitionByCode row.featureCode db.featureDefinitions).isSome then
    .ok { db with tenantFeatures := db.tenantFeatures ++ [row] }
  else .error (.queryFailed foreignKeyViolation)

/-- `tenantFeatureRepo.save` of a row that was read. -/
def saveTenantFeatureRow (row : TenantFeature) : List TenantFeature → List TenantFeature :=
  updateKey (fun r => (r.tenantId, r.featureCode)) (row.tenantId, row.featureCode) fun _ => row

def TenantDb.withTenants (db : TenantDb) (f : List Tenant → List Tenant) : TenantDb :=
  { db with tenants := f db.tenants }

def TenantDb.withTenantFeatures (db : TenantDb) (f : List TenantFeature → List TenantFeature) :
    TenantDb :=
  { db with tenantFeatures := f db.tenantFeatures }

def TenantDb.withRedis (db : TenantDb) (f : List CacheEntry → List CacheEntry) : TenantDb :=
  { db with redis := f db.redis }

/-! ## Redis -/

/-- `GET key`. -/
def redisGet (now : ℤ) (key : String) (entries : List CacheEntry) : Option String :=
  (entries.find? fun e => e.key = key && now < e.expiresAt).map (·.value)

/-- `SETEX key seconds value`. -/
def redisSetex (now : ℤ) (key : String) (seconds : ℤ) (value : String)
    (entries : List CacheEntry) : List CacheEntry :=
  { key, value, expiresAt := now + seconds * 1000 } :: entries.filter (·.key ≠ key)

/-- `DEL keys`. -/
def redisDel (keys : List String) (entries : List CacheEntry) : List CacheEntry :=
  entries.filter fun e => !keys.contains e.key

/-- `SCAN MATCH start*`, all its rounds. The ids in `start` are UUIDs, so nothing in it is a
    pattern. -/
def redisScan (start : String) (entries : List CacheEntry) : List String :=
  (entries.map (·.key)).filter fun key => start.toList.isPrefixOf key.toList

end SaasChassis.Tenants
