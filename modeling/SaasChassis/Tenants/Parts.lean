/-
  The part that a tenant has in the tenant manager's tables, cache and messages.

  `part t` is what they hold of tenant `t`, with the plans and feature definitions that all share;
  `outside t` is what they hold of the others. A method that is called for a tenant works in the
  part of this tenant (`LocalTo`): one lemma for each statement, and from these one for each
  method. Only a new tenant's row is compared with the others' rows, by its slug.
-/
import SaasChassis.Lib.Locality
import SaasChassis.Tenants.Lifecycle
import SaasChassis.Tenants.Provisioning

namespace SaasChassis.Tenants

open SaasChassis.Lib Faulty

/-! ## Parts -/

def MessageBody.tenantId : MessageBody → String
  | .tenantProvisioned tenantId _ _ _ _ => tenantId
  | .tenantSuspended tenantId _ _ => tenantId
  | .tenantPlanChanged tenantId _ _ _ => tenantId
  | .tenantFeatureToggled tenantId _ _ _ => tenantId

/-- The keys that are deleted with the tenant's cache. -/
def cachedFor (tenantId : String) (e : CacheEntry) : Bool := hasPrefix e.key (cacheKeys tenantId)

def part (t : String) (db : TenantDb) : TenantDb :=
  { db with
    tenants := db.tenants.filter (·.id = t)
    tenantFeatures := db.tenantFeatures.filter (·.tenantId = t)
    redis := db.redis.filter (cachedFor t)
    messages := db.messages.filter (·.body.tenantId = t) }

/-- What is not of the tenant, and what all share. -/
def outside (t : String) (db : TenantDb) : TenantDb :=
  { db with
    tenants := db.tenants.filter (·.id ≠ t)
    tenantFeatures := db.tenantFeatures.filter (·.tenantId ≠ t)
    redis := db.redis.filter (!cachedFor t ·)
    messages := db.messages.filter (·.body.tenantId ≠ t) }

/-- A program that works in the part of one tenant, given `P` of the rest. -/
abbrev LocalTo (t : String) (P : TenantDb → Prop) {α : Type} (x : Method α) : Prop :=
  Local (part t) (outside t) P x

/-! ## Statements -/

section Statements

variable {t : String} {P : TenantDb → Prop}

theorem tenantById_part (db : TenantDb) :
    tenantById t (part t db).tenants = tenantById t db.tenants :=
  find?_filter_of fun _ _ h => h

theorem tenantFeature_part (featureCode : String) (db : TenantDb) :
    tenantFeature t featureCode (part t db).tenantFeatures =
      tenantFeature t featureCode db.tenantFeatures :=
  find?_filter_of fun _ _ h => (Bool.and_eq_true _ _ ▸ h).1

theorem cachedFor_cacheKey (featureCode : String) {e : CacheEntry}
    (h : e.key = cacheKey t featureCode) : cachedFor t e = true := by
  rw [cachedFor, hasPrefix, h, cacheKey, String.toList_append]
  exact List.isPrefixOf_iff_prefix.mpr (List.prefix_append _ _)

theorem redisGet_part (now : ℤ) (featureCode : String) (db : TenantDb) :
    redisGet now (cacheKey t featureCode) (part t db).redis =
      redisGet now (cacheKey t featureCode) db.redis := by
  refine congrArg (Option.map _) (find?_filter_of fun e _ h => ?_)
  exact cachedFor_cacheKey featureCode (of_decide_eq_true (Bool.and_eq_true _ _ ▸ h).1)

/-! ### Writing -/

theorem withTenants_local {f : List Tenant → List Tenant}
    (hin : ∀ rows, (f rows).filter (·.id = t) = f (rows.filter (·.id = t)))
    (hout : ∀ rows, (f rows).filter (·.id ≠ t) = rows.filter (·.id ≠ t)) :
    LocalTo t P (write (·.withTenants f)) :=
  Local.write fun db =>
    ⟨congrArg (fun rows => { outside t db with tenants := rows }) (hout db.tenants),
      congrArg (fun rows => { part t db with tenants := rows }) (hin db.tenants).symm⟩

theorem withTenantFeatures_local {f : List TenantFeature → List TenantFeature}
    (hin : ∀ rows, (f rows).filter (·.tenantId = t) = f (rows.filter (·.tenantId = t)))
    (hout : ∀ rows, (f rows).filter (·.tenantId ≠ t) = rows.filter (·.tenantId ≠ t)) :
    LocalTo t P (write (·.withTenantFeatures f)) :=
  Local.write fun db =>
    ⟨congrArg (fun rows => { outside t db with tenantFeatures := rows }) (hout db.tenantFeatures),
      congrArg (fun rows => { part t db with tenantFeatures := rows })
        (hin db.tenantFeatures).symm⟩

theorem withRedis_local {f : List CacheEntry → List CacheEntry}
    (hin : ∀ entries, (f entries).filter (cachedFor t) = f (entries.filter (cachedFor t)))
    (hout : ∀ entries, (f entries).filter (!cachedFor t ·) = entries.filter (!cachedFor t ·)) :
    LocalTo t P (write (·.withRedis f)) :=
  Local.write fun db =>
    ⟨congrArg (fun entries => { outside t db with redis := entries }) (hout db.redis),
      congrArg (fun entries => { part t db with redis := entries }) (hin db.redis).symm⟩

theorem updateTenantRow_local {f : Tenant → Tenant} (h : ∀ row, row.id = t → (f row).id = t) :
    LocalTo t P (write (·.withTenants (updateTenantRow t f))) := by
  refine withTenants_local (fun rows => ?_) fun rows => ?_
  · exact filter_updateKey_same fun row _ hrow => by simp [hrow, h row hrow]
  · exact filter_updateKey_other (fun row hrow => by simp [hrow, h row hrow]) rows

theorem saveTenantRow_local {tenant : Tenant} (h : tenant.id = t) :
    LocalTo t P (write (·.withTenants (saveTenantRow tenant))) := by
  unfold saveTenantRow
  rw [h]
  exact updateTenantRow_local fun _ _ => h

theorem saveTenantFeatureRow_local {row : TenantFeature} (h : row.tenantId = t) :
    LocalTo t P (write (·.withTenantFeatures (saveTenantFeatureRow row))) := by
  have hkey : ∀ r : TenantFeature, (r.tenantId, r.featureCode) = (row.tenantId, row.featureCode) →
      r.tenantId = t := fun r hr => (congrArg (·.1) hr).trans h
  refine withTenantFeatures_local (fun rows => ?_) fun rows => ?_
  · exact filter_updateKey_same fun r _ hr => by simp [hkey r hr, h]
  · exact filter_updateKey_other (fun r hr => by simp [hkey r hr, h]) rows

theorem deleteTenantFeatures_local :
    LocalTo t P (write (·.withTenantFeatures (·.filter (·.tenantId ≠ t)))) := by
  refine withTenantFeatures_local (fun rows => ?_) fun rows => ?_
  · rw [List.filter_filter, List.filter_filter]
    exact List.filter_congr fun row _ => Bool.and_comm _ _
  · rw [List.filter_filter]
    exact List.filter_congr fun row _ => Bool.and_self _

theorem redisSetex_local (now : ℤ) (featureCode : String) (seconds : ℤ) (value : String) :
    LocalTo t P (write (·.withRedis (redisSetex now (cacheKey t featureCode) seconds value))) := by
  have hnew : cachedFor t ⟨cacheKey t featureCode, value, now + seconds * 1000⟩ = true :=
    cachedFor_cacheKey featureCode rfl
  refine withRedis_local (fun entries => ?_) fun entries => ?_
  · rw [redisSetex, redisSetex, List.filter_cons_of_pos hnew, List.filter_filter,
      List.filter_filter]
    exact congrArg _ (List.filter_congr fun e _ => Bool.and_comm _ _)
  · rw [redisSetex, List.filter_cons_of_neg (by simp [hnew]), List.filter_filter]
    refine List.filter_congr fun e _ => ?_
    by_cases he : e.key = cacheKey t featureCode
    · simp [cachedFor_cacheKey featureCode he]
    · simp [he]

theorem redisDel_local {keys : List String} (h : ∀ e : CacheEntry, e.key ∈ keys → cachedFor t e) :
    LocalTo t P (write (·.withRedis (redisDel keys))) := by
  refine withRedis_local (fun entries => ?_) fun entries => ?_
  · rw [redisDel, redisDel, List.filter_filter, List.filter_filter]
    exact List.filter_congr fun e _ => Bool.and_comm _ _
  · rw [redisDel, List.filter_filter]
    refine List.filter_congr fun e _ => ?_
    by_cases he : e.key ∈ keys
    · simp [h e he]
    · simp [he]

theorem publish_local (env : Env) (routingKey : String) {body : MessageBody}
    (h : body.tenantId = t) : LocalTo t P (publish env routingKey body) := by
  refine Local.effect fun db => ?_
  by_cases hc : env.channel = true
  · simp only [hc, if_true]
    refine ⟨?_, ?_⟩
    · simp [outside, List.filter_append, h]
    · simp [part, List.filter_append, h]
  · simp only [hc]
    exact ⟨rfl, rfl⟩

theorem insertTenantFeature_cases {row : TenantFeature} {db u : TenantDb}
    (h : insertTenantFeature row db = .ok u) :
    u = db.withTenantFeatures (· ++ [row]) := by
  unfold insertTenantFeature at h
  split at h
  · cases h
  · split at h
    · cases h
      rfl
    · cases h

theorem insertTenantFeature_local {row : TenantFeature} (h : row.tenantId = t) :
    LocalTo t P (execute (insertTenantFeature row)) := by
  subst h
  refine Local.execute (fun db u hu => ?_) fun db _ => ?_
  · rw [insertTenantFeature_cases hu]
    simp [outside, TenantDb.withTenantFeatures, List.filter_append]
  · have hrows : (part row.tenantId (db.withTenantFeatures (· ++ [row]))) =
        (part row.tenantId db).withTenantFeatures (· ++ [row]) := by
      simp [part, TenantDb.withTenantFeatures, List.filter_append]
    have hdefinitions : (part row.tenantId db).featureDefinitions = db.featureDefinitions := rfl
    unfold insertTenantFeature
    rw [tenantFeature_part, tenantById_part, hdefinitions]
    split
    · rfl
    · split
      · exact congrArg Except.ok hrows.symm
      · rfl

/-- A new tenant with a slug of its own. -/
theorem insertTenant_local {tenant : Tenant} (h : tenant.id = t)
    (hslug : ∀ db, P db → ∀ row ∈ db.tenants, row.slug ≠ tenant.slug) :
    LocalTo t P (execute (insertTenant tenant)) := by
  subst h
  refine Local.execute (fun db u hu => ?_) fun db hdb => ?_
  · unfold insertTenant at hu
    split at hu
    · cases hu
    · cases hu
      simp [outside, List.filter_append]
  · have htaken : (part tenant.id db).tenants.any (fun row =>
          row.id = tenant.id || row.slug = tenant.slug) =
        db.tenants.any fun row => row.id = tenant.id || row.slug = tenant.slug := by
      rw [Bool.eq_iff_iff, List.any_eq_true, List.any_eq_true]
      constructor
      · rintro ⟨row, hrow, htaken⟩
        exact ⟨row, (List.mem_filter.mp hrow).1, htaken⟩
      · rintro ⟨row, hrow, htaken⟩
        by_cases hid : row.id = tenant.id
        · exact ⟨row, List.mem_filter.mpr ⟨hrow, decide_eq_true hid⟩, htaken⟩
        · have hout : row ∈ (outside tenant.id db).tenants :=
            List.mem_filter.mpr ⟨hrow, decide_eq_true hid⟩
          simp [hid, hslug _ hdb row hout] at htaken
    unfold insertTenant
    rw [htaken]
    split
    · rfl
    · simp [part, Except.map, List.filter_append]

end Statements

/-! ## Methods -/

section Methods

variable {t : String} {P : TenantDb → Prop}

theorem findById_local : LocalTo t P (findById t) := by
  refine Local.query_bind tenantById_part fun db => ?_
  cases tenantById t db.tenants with
  | some tenant => exact Local.pure tenant
  | none => exact Local.throw _

theorem findById_returns :
    Triple (fun _ => True) (findById t) (fun tenant _ => tenant.id = t) fun _ _ => True := by
  refine Triple.query_bind (fun found => ?_) fun _ _ _ => trivial
  cases found with
  | some tenant => exact Triple.pure fun _ h => (tenantById_mem h.2).2
  | none => exact Triple.throw fun _ _ => trivial

theorem findByCode_local (code : String) : LocalTo t P (findByCode code) := by
  refine Local.query_bind (fun _ => rfl) fun db => ?_
  cases planByCode code db.plans with
  | some plan => exact Local.pure plan
  | none =>
    refine Local.query_bind (fun _ => rfl) fun db => ?_
    cases planByCode "free" db.plans with
    | some freePlan => exact Local.pure freePlan
    | none => exact Local.pure defaultPlan

theorem findTenantFeatures_local : LocalTo t P (findTenantFeatures t) := by
  refine Local.query_bind (fun _ => rfl) fun db => Local.query_bind (fun db => ?_) fun db =>
    Local.pure _
  show (db.tenantFeatures.filter (·.tenantId = t)).filter (·.tenantId = t) = _
  rw [List.filter_filter]
  exact List.filter_congr fun row _ => Bool.and_self _

theorem isFeatureEnabled_local (env : Env) (featureCode : String) :
    LocalTo t P (isFeatureEnabled env t featureCode) := by
  refine Local.query_bind (redisGet_part env.now featureCode) fun db => ?_
  cases redisGet env.now (cacheKey t featureCode) db.redis with
  | some cached => exact Local.pure _
  | none =>
    refine Local.query_bind (tenantFeature_part featureCode) fun db => ?_
    cases tenantFeature t featureCode db.tenantFeatures with
    | some override => exact (redisSetex_local _ _ _ _).andThen fun _ => Local.pure _
    | none =>
      refine Local.query_bind (fun _ => rfl) fun db => ?_
      exact (redisSetex_local _ _ _ _).andThen fun _ => Local.pure _

theorem toggleFeature_local (env : Env) (featureCode : String) (enabled : Bool)
    (userId : String) : LocalTo t P (toggleFeature env t featureCode enabled userId) := by
  have hupsert : LocalTo t P (upsertTenantFeature t featureCode enabled userId) := by
    refine Local.query_bind (tenantFeature_part featureCode) fun db => ?_
    cases hfound : tenantFeature t featureCode db.tenantFeatures with
    | some row =>
      have hid : row.tenantId = t := by
        have hrow := List.find?_some hfound
        simp only [Bool.and_eq_true, decide_eq_true_eq] at hrow
        exact hrow.1
      dsimp only
      exact (saveTenantFeatureRow_local (by exact hid)).andThen fun _ => Local.pure _
    | none =>
      dsimp only
      exact (insertTenantFeature_local (by rfl)).andThen fun _ => Local.pure _
  refine Local.query_bind (fun _ => rfl) fun db => ?_
  cases definitionByCode featureCode db.featureDefinitions with
  | none => exact Local.throw _
  | some definition =>
    refine hupsert.andThen fun saved => (redisDel_local fun e he => ?_).andThen fun _ => ?_
    · exact cachedFor_cacheKey featureCode (List.mem_singleton.mp he)
    · exact (publish_local env _ (by rfl)).andThen fun _ => Local.pure saved

theorem saveTenantFeatures_local (userId : String) (featureCodes : List String) :
    LocalTo t P (saveTenantFeatures t userId featureCodes) := by
  induction featureCodes with
  | nil => exact Local.pure ()
  | cons code codes ih => exact (insertTenantFeature_local (by rfl)).andThen fun _ => ih

theorem replaceTenantFeatures_local (featureCodes : Option (List String)) (userId : String) :
    LocalTo t P (replaceTenantFeatures t featureCodes userId) := by
  refine deleteTenantFeatures_local.andThen fun _ => ?_
  cases featureCodes with
  | some codes => exact saveTenantFeatures_local userId codes
  | none => exact Local.throw _

theorem redisScan_part (db : TenantDb) :
    redisScan (cacheKeys t) (part t db).redis = redisScan (cacheKeys t) db.redis := by
  show (List.map _ (List.filter _ db.redis)).filter _ = (List.map _ db.redis).filter _
  rw [List.filter_map, List.filter_map, List.filter_filter]
  exact congrArg _ (List.filter_congr fun e _ => Bool.and_self _)

theorem invalidate_local : LocalTo t P (invalidateTenantFeatureCache t) := by
  refine Local.query_bind redisScan_part fun db => ?_
  split
  · exact Local.pure ()
  · exact redisDel_local fun e he => (List.mem_filter.mp he).2

theorem updateTenant_local (strings : Strings) (env : Env) (dto : UpdateTenantDto) :
    LocalTo t P (updateTenant strings env t dto) := by
  refine findById_local.bind findById_returns fun tenant hid => ?_
  cases dto.plan.filter (· ≠ tenant.currentPlan) with
  | none => exact (saveTenantRow_local (by exact hid)).andThen fun _ => Local.pure _
  | some code =>
    refine (findByCode_local code).andThen fun plan => ?_
    refine (saveTenantRow_local (by exact hid)).andThen fun _ => ?_
    refine (replaceTenantFeatures_local _ _).andThen fun _ => invalidate_local.andThen fun _ => ?_
    exact (publish_local env _ (by rfl)).andThen fun _ => Local.pure _

theorem suspendTenant_local (env : Env) (reason : Option String) :
    LocalTo t P (suspendTenant env t reason) := by
  refine findById_local.bind findById_returns fun tenant hid => ?_
  split
  · exact Local.throw _
  · split
    · exact Local.throw _
    · refine (saveTenantRow_local (by exact hid)).andThen fun _ => ?_
      exact (publish_local env _ (by rfl)).andThen fun _ => Local.pure _

theorem activateTenant_local : LocalTo t P (activateTenant t) := by
  refine findById_local.bind findById_returns fun tenant hid => ?_
  split
  · exact Local.throw _
  · split
    · exact Local.throw _
    · exact (saveTenantRow_local (by exact hid)).andThen fun _ => Local.pure _

theorem archiveTenant_local (env : Env) : LocalTo t P (archiveTenant env t) := by
  refine findById_local.bind findById_returns fun tenant hid => ?_
  split
  · exact Local.throw _
  · exact (saveTenantRow_local (by exact hid)).andThen fun _ => invalidate_local

theorem enablePlanFeatures_local (userId : String) (featureCodes : List String) :
    LocalTo t P (enablePlanFeatures t userId featureCodes) := by
  induction featureCodes with
  | nil => exact Local.pure ()
  | cons code codes ih =>
    refine Local.query_bind (tenantFeature_part code) fun db => ?_
    cases tenantFeature t code db.tenantFeatures with
    | some row => exact (Local.pure ()).andThen fun _ => ih
    | none => exact (insertTenantFeature_local (by rfl)).andThen fun _ => ih

theorem provision_local {tenant : Tenant} (h : tenant.id = t)
    (hslug : ∀ db, P db → ∀ row ∈ db.tenants, row.slug ≠ tenant.slug)
    (featureCodes : List String) (userId : String) :
    LocalTo t P (provision tenant featureCodes userId) := by
  subst h
  refine (insertTenant_local rfl hslug).andThen fun _ => ?_
  refine (enablePlanFeatures_local userId featureCodes).andThen fun _ => ?_
  exact (saveTenantRow_local (by rfl)).andThen fun _ => Local.pure _

theorem commitTenant_returns (strings : Strings) (dto : CreateTenantDto) (userId : String)
    (drawn : Drawn) :
    Triple (fun _ => True) (commitTenant strings dto userId drawn)
      (fun tenant _ => tenant.id = drawn.id) fun _ _ => True := by
  have hprovision (featureCodes : List String) :
      Triple (fun _ => True) (provision (dto.provisioning strings drawn) featureCodes userId)
        (fun tenant _ => tenant.id = drawn.id) fun _ _ => True := by
    refine (Triple.any _).bind fun _ => (Triple.any _).bind fun _ => (Triple.any _).bind fun _ => ?_
    exact Triple.pure fun _ _ => rfl
  refine (Triple.any _).bind fun plan => Triple.tryCatch
    ((hprovision _).transaction fun _ _ _ => trivial) fun e => ?_
  split
  · exact Triple.throw fun _ _ => trivial
  · exact Triple.throw fun _ _ => trivial

theorem createTenant_local (strings : Strings) (env : Env) (dto : CreateTenantDto)
    (userId : String) {drawn : Drawn} (h : drawn.id = t)
    (hslug : ∀ db, P db → ∀ row ∈ db.tenants,
      row.slug ≠ (dto.provisioning strings drawn).slug) :
    LocalTo t P (createTenant strings env dto userId drawn) := by
  rw [createTenant_eq]
  refine Local.bind ?_ (commitTenant_returns strings dto userId drawn) fun tenant hid => ?_
  · refine (findByCode_local _).andThen fun plan => Local.tryCatch ?_ fun e => ?_
    · exact (provision_local h hslug _ userId).transaction
    · split
      · exact Local.throw _
      · exact Local.throw _
  · have hpublish : LocalTo t P (do
        publish env "tenant.provisioned" (.tenantProvisioned tenant.id tenant.slug
          tenant.currentPlan tenant.adminEmail env.now)
        return tenant) :=
      (publish_local env _ (by exact hid.trans h)).andThen fun _ => Local.pure tenant
    unfold announceTenant
    split
    · have hmembership : LocalTo t P (tryCatch (query fun _ => ()) fun _ => return : Method Unit) :=
        Local.tryCatch (Local.query (by exact fun _ => rfl)) fun _ => Local.pure ()
      exact hmembership.andThen fun _ => hpublish
    · exact hpublish

theorem handleBillingSynced_local {payload : BillingSyncedPayload} (h : payload.tenantId = t) :
    LocalTo t P (handleBillingSynced payload) := by
  subst h
  refine Local.tryCatch (updateTenantRow_local fun row hrow => ?_) fun _ => Local.pure ()
  exact hrow

theorem handleSubscriptionStatus_local (env : Env) {payload : SubscriptionStatusPayload}
    (h : payload.tenantId = t) : LocalTo t P (handleSubscriptionStatus env payload) := by
  subst h
  refine Local.tryCatch (Local.query_bind tenantById_part fun db => ?_) fun _ => Local.pure ()
  cases hfound : tenantById payload.tenantId db.tenants with
  | none => exact Local.pure ()
  | some tenant =>
    refine saveTenantRow_local ?_
    exact (applyPlan_lifecycle payload _).1.trans
      ((applyStatus_id payload env.now tenant).trans (tenantById_mem hfound).2)

end Methods

end SaasChassis.Tenants
