/-
  PlansService and FeaturesService, call by call: a tenant's features and their cache.
-/
import SaasChassis.Tenants.Database

namespace SaasChassis.Tenants

open SaasChassis.Lib Faulty

/-- Publishing does not throw: a message without a channel is dropped, and what the channel
    throws is caught. -/
def publish (env : Env) (routingKey : String) (body : MessageBody) : Method Unit :=
  effect fun db =>
    if env.channel then
      { db with messages := db.messages ++ [⟨"chassis.tenants", routingKey, body⟩] }
    else db

/-! ## PlansService -/

/-- The plan of a database without plans. -/
def defaultPlan : Plan :=
  { code := "free", includedFeatures := ["module.financial_core", "module.universal_ledger"] }

/-- The plan with the code, else the free plan. -/
def findByCode (code : String) : Method Plan := do
  match ← query fun db => planByCode code db.plans with
  | some plan => return plan
  | none =>
    match ← query fun db => planByCode "free" db.plans with
    | some freePlan => return freePlan
    | none => return defaultPlan

/-! ## FeaturesService -/

def cacheTtlSeconds : ℤ := 300

def cacheKeys (tenantId : String) : String := s!"feature:{tenantId}:"

def cacheKey (tenantId featureCode : String) : String := cacheKeys tenantId ++ featureCode

def flag (enabled : Bool) : String := if enabled then "1" else "0"

/-- The columns the view adds to a definition, and its code and default. -/
structure FeatureWithStatus where
  code : String
  defaultEnabled : Bool
  isEnabled : Bool
  hasOverride : Bool
  deriving DecidableEq, Repr

/-- A definition with the tenant's override, if any. -/
def withStatus (overrides : List TenantFeature) (definition : FeatureDefinition) :
    FeatureWithStatus :=
  -- the map keeps the last row of a code
  let override := overrides.reverse.find? (·.featureCode = definition.code)
  { code := definition.code
    defaultEnabled := definition.defaultEnabled
    isEnabled := (override.map (·.isEnabled)).getD definition.defaultEnabled
    hasOverride := override.isSome }

/-- The merged view. Its order by category and the texts that are passed on are left out. -/
def findTenantFeatures (tenantId : String) : Method (List FeatureWithStatus) := do
  let definitions ← query (·.featureDefinitions)
  let overrides ← query fun db => db.tenantFeatures.filter (·.tenantId = tenantId)
  return definitions.map (withStatus overrides)

/-- Cache, then the tenant's row, then the feature's default. -/
def isFeatureEnabled (env : Env) (tenantId featureCode : String) : Method Bool := do
  let key := cacheKey tenantId featureCode
  match ← query fun db => redisGet env.now key db.redis with
  | some cached => return cached == "1"
  | none =>
    match ← query fun db => tenantFeature tenantId featureCode db.tenantFeatures with
    | some override =>
      write (·.withRedis (redisSetex env.now key cacheTtlSeconds (flag override.isEnabled)))
      return override.isEnabled
    | none =>
      let definition ← query fun db => definitionByCode featureCode db.featureDefinitions
      let enabled := (definition.map (·.defaultEnabled)).getD false
      write (·.withRedis (redisSetex env.now key cacheTtlSeconds (flag enabled)))
      return enabled

/-- The tenant's row with the new setting, or a new one. -/
def upsertTenantFeature (tenantId featureCode : String) (enabled : Bool) (userId : String) :
    Method TenantFeature := do
  match ← query fun db => tenantFeature tenantId featureCode db.tenantFeatures with
  | some row =>
    let saved := { row with isEnabled := enabled, enabledBy := some userId }
    write (·.withTenantFeatures (saveTenantFeatureRow saved))
    return saved
  | none =>
    let saved : TenantFeature :=
      { tenantId, featureCode, isEnabled := enabled, enabledBy := some userId }
    execute (insertTenantFeature saved)
    return saved

def toggleFeature (env : Env) (tenantId featureCode : String) (enabled : Bool)
    (toggledByUserId : String) : Method TenantFeature := do
  match ← query fun db => definitionByCode featureCode db.featureDefinitions with
  | none => throw (.notFound s!"Feature '{featureCode}' is not a known feature code")
  | some _ =>
    let saved ← upsertTenantFeature tenantId featureCode enabled toggledByUserId
    write (·.withRedis (redisDel [cacheKey tenantId featureCode]))
    publish env "tenant.feature-toggled"
      (.tenantFeatureToggled tenantId featureCode enabled env.now)
    return saved

def saveTenantFeatures (tenantId enabledByUserId : String) : List String → Method Unit
  | [] => return
  | featureCode :: featureCodes => do
    execute (insertTenantFeature
      { tenantId, featureCode, isEnabled := true, enabledBy := some enabledByUserId })
    saveTenantFeatures tenantId enabledByUserId featureCodes

/-- The loop over the codes starts after the rows are deleted; `none` stands for a value it
    cannot run over. -/
def replaceTenantFeatures (tenantId : String) (featureCodes : Option (List String))
    (enabledByUserId : String) : Method Unit := do
  write (·.withTenantFeatures (·.filter (·.tenantId ≠ tenantId)))
  match featureCodes with
  | some featureCodes => saveTenantFeatures tenantId enabledByUserId featureCodes
  | none => throw (.failed "featureCodes is not iterable")

def invalidateTenantFeatureCache (tenantId : String) : Method Unit := do
  let keys ← query fun db => redisScan (cacheKeys tenantId) db.redis
  if keys.isEmpty then return
  else write (·.withRedis (redisDel keys))

end SaasChassis.Tenants
