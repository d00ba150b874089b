/-
  What `updateTenant` does when the plan changes and no call fails.

  `updateTenant_planChanged`: the tenant's row and its feature rows are those of the new plan; the
  cached keys are deleted only if its features are a list and all of them could be inserted
  (`Syncs`), else the method has thrown before.
-/
import SaasChassis.Tenants.Entitlements
import SaasChassis.Tenants.TenantsService

namespace SaasChassis.Tenants

open SaasChassis.Lib Faulty

/-! ## Reads -/

theorem tenantById_saved {id : String} {rows : List Tenant} {t saved : Tenant}
    (found : tenantById id rows = some t) (hid : saved.id = id) :
    tenantById id (saveTenantRow saved rows) = some saved := by
  have hfind : tenantById id (saveTenantRow saved rows) =
      (tenantById id rows).map fun row => if row.id = saved.id then saved else row := by
    refine find?_updateKey fun row _ hrow => ?_
    rw [hrow]
  rw [hfind, found, Option.map_some, if_pos ((tenantById_mem found).2.trans hid.symm)]

theorem findById_found {id : String} {db : TenantDb} {t : Tenant} {n : ℕ}
    (found : tenantById id db.tenants = some t) :
    findById id noFaults n db = (.ok t, n + 1, db) := by
  unfold findById
  rw [query_bind_noFaults, found]
  rfl

theorem findById_missing {id : String} {db : TenantDb} {n : ℕ}
    (missing : tenantById id db.tenants = none) :
    ∃ e, findById id noFaults n db = (.error e, n + 1, db) := by
  unfold findById
  rw [query_bind_noFaults, missing]
  exact ⟨_, rfl⟩

/-- The plan that `findByCode` returns. -/
def planOf (code : String) (db : TenantDb) : Plan :=
  (planByCode code db.plans <|> planByCode "free" db.plans).getD defaultPlan

theorem findByCode_eq (code : String) (db : TenantDb) (n : ℕ) :
    ∃ k, findByCode code noFaults n db = (.ok (planOf code db), k, db) := by
  unfold findByCode planOf
  rw [query_bind_noFaults]
  cases planByCode code db.plans with
  | some plan => exact ⟨n + 1, rfl⟩
  | none =>
    simp only [query_bind_noFaults]
    cases planByCode "free" db.plans with
    | some free => exact ⟨n + 2, rfl⟩
    | none => exact ⟨n + 2, rfl⟩

/-- A message leaves the tables alone. -/
theorem publish_then {α : Type} (env : Env) (routingKey : String) (body : MessageBody) (n : ℕ)
    (db : TenantDb) (k : Method α) :
    ∃ messages, (publish env routingKey body >>= fun _ => k) noFaults n db =
      k noFaults n { db with messages } := by
  unfold publish
  rw [effect_bind_noFaults]
  split
  · exact ⟨_, rfl⟩
  · exact ⟨db.messages, rfl⟩

/-! ## The change of plan -/

/-- The codes a change to the plan is to leave rows of, if they are a list. -/
def codesToSync (code : String) (db : TenantDb) : Option (List String) :=
  featuresToSync code (planOf code db).includedFeatures

/-- Those it inserts before it throws, if it does. -/
def codesSynced (code : String) (db : TenantDb) : List String :=
  inserted (codesToSync code db) db

/-- There is a list, and every code of it could be inserted. -/
def Syncs (code : String) (db : TenantDb) : Prop :=
  codesToSync code db = some (codesSynced code db)

def planSaved (strings : Strings) (dto : UpdateTenantDto) (t : Tenant) (code : String)
    (db : TenantDb) : Tenant :=
  { dto.patch strings t with
    currentPlan := code, enabledFeatures := (planOf code db).includedFeatures }

theorem updateTenant_planChanged {strings : Strings} {env : Env} {db : TenantDb} {id : String}
    {t : Tenant} (found : tenantById id db.tenants = some t) {dto : UpdateTenantDto}
    {code : String} (hplan : dto.plan.filter (· ≠ t.currentPlan) = some code) :
    let saved := planSaved strings dto t code db
    let res := updateTenant strings env id dto noFaults 0 db
    res.2.2.tenants = saveTenantRow saved db.tenants ∧
    res.2.2.tenantFeatures =
      (replaceRows id id ((codesToSync code db).getD []) db).tenantFeatures ∧
    res.2.2.featureDefinitions = db.featureDefinitions ∧
    (Syncs code db ∧ res.1 = .ok saved ∧
        res.2.2.redis = redisDel (redisScan (cacheKeys id) db.redis) db.redis ∨
      ¬Syncs code db ∧ (∃ e, res.1 = .error e) ∧ res.2.2.redis = db.redis) := by
  intro saved res
  let base := db.withTenants (saveTenantRow saved)
  let codes := codesToSync code db
  let rows := replaceRows id id (codes.getD []) base
  have hid : saved.id = id := (tenantById_mem found).2
  have hexists : (tenantById id base.tenants).isSome := by
    rw [show base.tenants = saveTenantRow saved db.tenants from rfl, tenantById_saved found hid]
    rfl
  obtain ⟨k, hfindPlan⟩ := findByCode_eq code db 1
  obtain ⟨r, m, hreplace, hr⟩ := @replaceTenantFeatures_eq id id base hexists codes (k + 1)
  -- up to the sync
  have hrun : res = (do
      replaceTenantFeatures id codes id
      invalidateTenantFeatureCache id
      publish env "tenant.plan-changed" (.tenantPlanChanged id t.currentPlan code env.now)
      return saved : Method Tenant) noFaults (k + 1) base := by
    refine (bind_ok _ (findById_found found)).trans ?_
    simp only [hplan]
    exact bind_ok _ hfindPlan
  by_cases hsync : Syncs code db
  · obtain ⟨l, hinvalidate⟩ := invalidate_eq id rows m
    rw [hr.mpr hsync] at hreplace
    obtain ⟨messages, hpublish⟩ := publish_then env "tenant.plan-changed"
      (.tenantPlanChanged id t.currentPlan code env.now) l
      (rows.withRedis (redisDel (redisScan (cacheKeys id) db.redis))) (pure saved : Method Tenant)
    have hends : res = (pure saved : Method Tenant) noFaults l
        { rows.withRedis (redisDel (redisScan (cacheKeys id) db.redis)) with messages } := by
      rw [hrun, bind_ok _ hreplace, bind_ok _ hinvalidate]
      exact hpublish
    rw [hends]
    exact ⟨rfl, rfl, rfl, Or.inl ⟨hsync, rfl, rfl⟩⟩
  · cases r with
    | ok a => exact absurd (hr.mp rfl) hsync
    | error e =>
      rw [hrun, bind_error _ hreplace]
      exact ⟨rfl, rfl, rfl, Or.inr ⟨hsync, ⟨e, rfl⟩, rfl⟩⟩

end SaasChassis.Tenants
