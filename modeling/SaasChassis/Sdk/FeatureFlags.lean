/-
  The SDK's feature gate against the tenant manager that answers it.

  `FeatureFlagService.isEnabled` asks for `/api/v1/tenants/:id/features/:code` and reads
  `data.isEnabled`; the tenant manager serves the check under `.../check` and writes
  `data.enabled`. Each slip alone makes every answer false (`respond_plain`, `decodeFlag_check`).
  `gate_agrees_iff`: the SDK agrees with the tenant manager exactly on what is off there.
-/
import SaasChassis.Tenants.Entitlements
import SaasChassis.Tenants.Http

namespace SaasChassis.Sdk

open SaasChassis.Lib Faulty
open SaasChassis.Tenants

/-! ## FeatureFlagService -/

/-- The options that the service reads. -/
structure ChassisOptions where
  tenantManagerUrl : Option String
  serviceToken : Option String
  enableFeatureGating : Option Bool

/-- The value is whatever the response held. -/
structure CachedFlag where
  value : Json
  expiresAt : ℤ

/-- The cache is a `Map`: one entry for each key, in the order of insertion. -/
structure FeatureFlagService where
  options : Option ChassisOptions
  cache : List (String × CachedFlag)

def cacheTtlMs : ℤ := 60000

def maxCacheSize : ℕ := 1000

/-- `Map.set`: a key that is there keeps its place. -/
def mapSet (key : String) (value : CachedFlag) (cache : List (String × CachedFlag)) :
    List (String × CachedFlag) :=
  if cache.any (·.1 = key) then cache.map fun entry => if entry.1 = key then (key, value) else entry
  else cache ++ [(key, value)]

/-- A full cache loses its first entry. -/
def setCacheEntry (key : String) (value : CachedFlag) (cache : List (String × CachedFlag)) :
    List (String × CachedFlag) :=
  mapSet key value (if cache.length ≥ maxCacheSize then cache.tail else cache)

/-- `value?.key`: of a key that is there twice the last counts. -/
def member (key : String) : Json → Option Json
  | .obj members => (members.reverse.find? (·.1 = key)).map (·.2)
  | _ => none

/-- `body?.data?.isEnabled ?? false`. -/
def decodeFlag (body : Json) : Json :=
  match (member "data" body).bind (member "isEnabled") with
  | none | some .null => .bool false
  | some value => value

namespace FeatureFlagService

/-- The entry for the key that has not expired. -/
def cached (now : ℤ) (key : String) (sdk : FeatureFlagService) : Option Json :=
  ((sdk.cache.find? (·.1 = key)).filter fun entry => now < entry.2.expiresAt).map (·.2.value)

def cacheKey (tenantId featureCode : String) : String := s!"{tenantId}:{featureCode}"

/-- `fetch` asks a server in state `σ`; none is a request that fails or times out. `Date.now()` is
    `now` before the request and `later` after it. -/
def isEnabled {σ : Type}
    (fetch : String → List (String × String) → σ → Option HttpResponse × σ) (now later : ℤ)
    (tenantId featureCode : String) (sdk : FeatureFlagService) (server : σ) :
    Json × FeatureFlagService × σ :=
  let url := (sdk.options.bind (·.tenantManagerUrl)).getD ""
  let gating := (sdk.options.bind (·.enableFeatureGating)).getD false
  if url = "" || !gating then (.bool true, sdk, server)
  else
    match sdk.cached now (cacheKey tenantId featureCode) with
    | some value => (value, sdk, server)
    | none =>
      let serviceToken := (sdk.options.bind (·.serviceToken)).getD ""
      match fetch s!"{url}/api/v1/tenants/{tenantId}/features/{featureCode}"
          [("X-Service-Token", serviceToken), ("Content-Type", "application/json")] server with
      | (none, server) => (.bool false, sdk, server)
      | (some response, server) =>
        if response.ok then
          let enabled := decodeFlag response.body
          let entry := { value := enabled, expiresAt := later + cacheTtlMs }
          let cache := setCacheEntry (cacheKey tenantId featureCode) entry sdk.cache
          (enabled, { sdk with cache }, server)
        else (.bool false, sdk, server)

end FeatureFlagService

/-! ## Statement -/

/-- The tenant manager, reached: `segments` is how a URL is taken apart, none if it is none. -/
def reach (config : HttpConfig) (env : Env) (health : HealthStatus)
    (segments : String → Option (List String)) (url : String) (headers : List (String × String))
    (db : TenantDb) : Option HttpResponse × TenantDb :=
  match segments url with
  | none => (none, db)
  | some path =>
    let (response, _, db) := respond config env health { path, headers } noFaults 0 db
    (response.toOption, db)

/-- Gating is on and the URL is set. -/
def Gates (sdk : FeatureFlagService) : Prop :=
  ∃ options url, sdk.options = some options ∧ options.tenantManagerUrl = some url ∧ url ≠ "" ∧
    options.enableFeatureGating = some true

/-- Redis holds another value than 1 for the feature, or nothing, and then the tenant's row is off,
    or there is none and the feature is not on by default. -/
def OffOnServer (now : ℤ) (tenantId featureCode : String) (db : TenantDb) : Prop :=
  match cachedOf now tenantId featureCode db with
  | some cached => cached ≠ "1"
  | none =>
    match tenantFeature tenantId featureCode db.tenantFeatures with
    | some row => row.isEnabled = false
    | none => defaultOf featureCode db.featureDefinitions = false

/-! ## What the SDK gets -/

/-- The check's body has no `isEnabled`. -/
theorem decodeFlag_check (enabled : Bool) :
    decodeFlag (apiResponseOk (.obj [("enabled", .bool enabled)])) = .bool false := rfl

theorem decodeFlag_health (health : HealthStatus) : decodeFlag health.toJson = .bool false := rfl

/-- The path that the SDK asks for is not served. -/
theorem respond_plain (config : HttpConfig) (env : Env) (health : HealthStatus)
    (tenantId featureCode : String) (headers : List (String × String)) (db : TenantDb) :
    ∃ body, (respond config env health
      { path := ["api", "v1", "tenants", tenantId, "features", featureCode], headers }
        noFaults 0 db).1 = .ok { status := 404, body } := by
  unfold respond
  rw [getRoute_plain]
  exact ⟨_, rfl⟩

/-- No answer to a request without an access token says that a feature is on. -/
def SaysOff (r : HttpResponse) : Prop := r.ok = false ∨ decodeFlag r.body = .bool false

theorem checkFeature_saysOff (config : HttpConfig) (env : Env) (headers : List (String × String))
    (id code : String) (db : TenantDb) :
    ∃ r n db', checkFeature config env headers id code noFaults 0 db = (.ok r, n, db') ∧
      SaysOff r := by
  unfold checkFeature
  cases internalServiceGuard config.internalServiceToken (header "X-Service-Token" headers) with
  | error message => exact ⟨_, _, _, rfl, Or.inl rfl⟩
  | ok =>
    simp only
    by_cases hid : config.isUuid id
    · rw [if_pos hid]
      rcases hrun : isFeatureEnabled env id code noFaults 0 db with ⟨e | enabled, n, db'⟩
      · exact ⟨_, n, db', tryCatch_error _ (bind_error _ hrun), Or.inl rfl⟩
      · exact ⟨_, n, db', tryCatch_ok _ (bind_ok _ hrun), Or.inr (decodeFlag_check enabled)⟩
    · rw [if_neg hid]
      exact ⟨_, _, _, rfl, Or.inl rfl⟩

theorem respond_saysOff (config : HttpConfig) (env : Env) (health : HealthStatus)
    (req : GetRequest) (db : TenantDb) :
    ∃ r n db', respond config env health req noFaults 0 db = (.ok r, n, db') ∧ SaysOff r := by
  unfold respond
  rcases getRoute req.path with _ | ⟨handler, params⟩
  · exact ⟨_, _, _, rfl, Or.inl rfl⟩
  · cases handler with
    | health => exact ⟨_, _, _, rfl, Or.inr (decodeFlag_health health)⟩
    | behindJwtAuthGuard => exact ⟨_, _, _, rfl, Or.inl rfl⟩
    | checkFeature =>
      match params with
      | [id, code] => exact checkFeature_saysOff config env req.headers id code db
      | [] | [_] | _ :: _ :: _ :: _ => exact ⟨_, _, _, rfl, Or.inl rfl⟩

/-- With nothing cached the gate is shut, whatever the tenant manager holds. -/
theorem isEnabled_shut (config : HttpConfig) (env : Env) (health : HealthStatus)
    (segments : String → Option (List String)) {sdk : FeatureFlagService} (hgates : Gates sdk)
    {now : ℤ} {tenantId featureCode : String}
    (huncached : sdk.cached now (FeatureFlagService.cacheKey tenantId featureCode) = none)
    (later : ℤ) (db : TenantDb) :
    (sdk.isEnabled (reach config env health segments) now later tenantId featureCode db).1 =
      .bool false := by
  obtain ⟨options, url, hoptions, hurl, hne, hgating⟩ := hgates
  unfold FeatureFlagService.isEnabled
  simp only [hoptions, hurl, hgating, huncached, Option.bind_some, Option.getD_some, hne,
    Bool.not_true, decide_false, Bool.or_false, Bool.false_eq_true, if_false]
  unfold reach
  cases segments _ with
  | none => rfl
  | some path =>
    obtain ⟨r, n, db', hrun, hoff⟩ := respond_saysOff config env health
      { path, headers := [("X-Service-Token", options.serviceToken.getD ""),
        ("Content-Type", "application/json")] } db
    simp only [hrun, Except.toOption]
    rcases hoff with hfailed | hdecoded
    · rw [hfailed]
      rfl
    · rw [hdecoded]
      split <;> rfl

theorem answerOf_off (now : ℤ) (tenantId featureCode : String) (db : TenantDb) :
    answerOf now tenantId featureCode db = false ↔ OffOnServer now tenantId featureCode db := by
  unfold answerOf OffOnServer settingOf
  cases cachedOf now tenantId featureCode db with
  | some cached => simp
  | none =>
    cases tenantFeature tenantId featureCode db.tenantFeatures with
    | some row => rfl
    | none => rfl

/-- With gating on, a tenant manager that is reached and nothing cached in the SDK, whatever the
    tokens: the SDK returns what the tenant manager's service returns if and only if the tenant
    manager holds the feature to be off. -/
theorem gate_agrees_iff (config : HttpConfig) (env : Env) (health : HealthStatus)
    (segments : String → Option (List String)) {sdk : FeatureFlagService} (hgates : Gates sdk)
    {now : ℤ} {tenantId featureCode : String}
    (huncached : sdk.cached now (FeatureFlagService.cacheKey tenantId featureCode) = none)
    (later : ℤ) (db : TenantDb) :
    (∃ enabled, (isFeatureEnabled env tenantId featureCode noFaults 0 db).1 = .ok enabled ∧
        (sdk.isEnabled (reach config env health segments) now later tenantId featureCode db).1 =
          .bool enabled) ↔
      OffOnServer env.now tenantId featureCode db := by
  rw [isEnabled_shut config env health segments hgates huncached, isFeatureEnabled_answer,
    ← answerOf_off]
  constructor
  · rintro ⟨enabled, hanswer, hshut⟩
    rw [Except.ok.inj hanswer]
    exact (JsonOf.bool.inj hshut).symm
  · intro hoff
    exact ⟨false, congrArg Except.ok hoff, rfl⟩

namespace Sample

def tenant : String := "8c5b9c1e-3f0a-4d52-9c6e-0d1f5a7b2e44"

def sdk : FeatureFlagService :=
  { options := some
      { tenantManagerUrl := some "http://tm:3002", serviceToken := some "svc-token",
        enableFeatureGating := some true }
    cache := [] }

def config : HttpConfig := { internalServiceToken := some "svc-token", isUuid := (· == tenant) }

def env : Env := { now := 1000, channel := true, identityService := false }

def health : HealthStatus := { database := true, redis := true, timestamp := "", uptime := 1 }

/-- The path after `http://tm:3002/`. -/
def segments (url : String) : Option (List String) :=
  some (splitAt '/' (String.ofList (url.toList.drop 15)))

/-- The payroll feature is off by default and the vault on. -/
def server : TenantDb :=
  .seeded [] [{ code := "module.payroll", defaultEnabled := false },
    { code := "module.document_vault", defaultEnabled := true }]

theorem gates : Gates sdk := ⟨_, "http://tm:3002", rfl, rfl, by decide, rfl⟩

end Sample

theorem gate_agrees_iff_sample :
    ∃ enabled, (isFeatureEnabled Sample.env Sample.tenant "module.payroll" noFaults 0
        Sample.server).1 = .ok enabled ∧
      (Sample.sdk.isEnabled (reach Sample.config Sample.env Sample.health Sample.segments) 1000 1000
        Sample.tenant "module.payroll" Sample.server).1 = .bool enabled :=
  (gate_agrees_iff Sample.config Sample.env Sample.health Sample.segments Sample.gates rfl 1000
    Sample.server).mpr rfl

/-- The document vault is on at the tenant manager and off in the SDK: what it asks for is not
    found. -/
theorem gate_shut :
    (isFeatureEnabled Sample.env Sample.tenant "module.document_vault" noFaults 0
      Sample.server).1 = .ok true ∧
    Sample.segments
        s!"http://tm:3002/api/v1/tenants/{Sample.tenant}/features/module.document_vault" =
      some ["api", "v1", "tenants", Sample.tenant, "features", "module.document_vault"] ∧
    (Sample.sdk.isEnabled (reach Sample.config Sample.env Sample.health Sample.segments) 1000 1000
      Sample.tenant "module.document_vault" Sample.server).1 = .bool false := by
  refine ⟨by decide +kernel, by decide +kernel, ?_⟩
  exact isEnabled_shut Sample.config Sample.env Sample.health Sample.segments Sample.gates rfl 1000
    Sample.server

end SaasChassis.Sdk
