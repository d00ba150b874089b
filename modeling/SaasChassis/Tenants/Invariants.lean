/-
  What every method of the tenant manager keeps, from what its statements keep.

  `I` is any property of the state. Each method keeps it, whatever calls fail, if the kinds of
  statements the method makes do: each lemma asks for those and no others.
-/
import SaasChassis.Tenants.TenantsService

namespace SaasChassis.Tenants

open SaasChassis.Lib Faulty

variable {I : TenantDb → Prop}

/-! ## Reading -/

theorem findById_keeps (id : String) : Keeps I (findById id) := by
  refine Keeps.bind (Keeps.query _) fun found => ?_
  cases found with
  | some t => exact Keeps.pure t
  | none => exact Keeps.throw _

theorem findByCode_keeps (code : String) : Keeps I (findByCode code) := by
  refine Keeps.bind (Keeps.query _) fun plan => ?_
  cases plan with
  | some plan => exact Keeps.pure plan
  | none =>
    refine Keeps.bind (Keeps.query _) fun freePlan => ?_
    cases freePlan with
    | some freePlan => exact Keeps.pure freePlan
    | none => exact Keeps.pure defaultPlan

/-! ## Publishing and the cache -/

theorem publish_keeps (hmessages : ∀ messages db, I db → I { db with messages := messages })
    (env : Env) (routingKey : String) (body : MessageBody) :
    Keeps I (publish env routingKey body) := by
  refine Keeps.effect fun db h => ?_
  split
  · exact hmessages _ db h
  · exact h

theorem invalidate_keeps (hdel : ∀ keys db, I db → I (db.withRedis (redisDel keys)))
    (tenantId : String) : Keeps I (invalidateTenantFeatureCache tenantId) := by
  refine Keeps.bind (Keeps.query _) fun keys => ?_
  split
  · exact Keeps.pure ()
  · exact Keeps.write (hdel keys)

theorem isFeatureEnabled_keeps
    (hfill : ∀ now key value db, I db → I (db.withRedis (redisSetex now key cacheTtlSeconds value)))
    (env : Env) (tenantId featureCode : String) :
    Keeps I (isFeatureEnabled env tenantId featureCode) := by
  refine Keeps.bind (Keeps.query _) fun cached => ?_
  cases cached with
  | some cached => exact Keeps.pure _
  | none =>
    refine Keeps.bind (Keeps.query _) fun override => ?_
    cases override with
    | some override => exact (Keeps.write (hfill _ _ _)).bind fun _ => Keeps.pure _
    | none =>
      refine Keeps.bind (Keeps.query _) fun definition => ?_
      exact (Keeps.write (hfill _ _ _)).bind fun _ => Keeps.pure _

/-- What `createTenant` does after the commit. -/
theorem announce_keeps (hmessages : ∀ messages db, I db → I { db with messages := messages })
    (env : Env) (saved : Tenant) :
    Keeps I (do
      if env.identityService then tryCatch (query fun _ => ()) fun _ => return
      publish env "tenant.provisioned"
        (.tenantProvisioned saved.id saved.slug saved.currentPlan saved.adminEmail env.now)
      return saved : Method Tenant) := by
  have hpublish := (publish_keeps hmessages env "tenant.provisioned" (.tenantProvisioned saved.id
    saved.slug saved.currentPlan saved.adminEmail env.now)).bind fun _ => Keeps.pure saved
  split
  · exact Keeps.bind ((Keeps.query _).tryCatch fun _ => Keeps.pure ()) fun _ => hpublish
  · exact hpublish

/-! ## Rows of features -/

section Features

variable {tenantId : String} (hinsert : ∀ row db u, row.tenantId = tenantId → I db →
  insertTenantFeature row db = .ok u → I u)

include hinsert

theorem insert_keeps {row : TenantFeature} (h : row.tenantId = tenantId) :
    Keeps I (execute (insertTenantFeature row)) :=
  Keeps.execute fun db u hdb hins => hinsert row db u h hdb hins

theorem saveTenantFeatures_keeps (userId : String) (featureCodes : List String) :
    Keeps I (saveTenantFeatures tenantId userId featureCodes) := by
  induction featureCodes with
  | nil => exact Keeps.pure ()
  | cons code codes ih => exact (insert_keeps hinsert rfl).bind fun _ => ih

theorem replaceTenantFeatures_keeps
    (hdelete : ∀ db, I db → I (db.withTenantFeatures (·.filter (·.tenantId ≠ tenantId))))
    (featureCodes : Option (List String)) (userId : String) :
    Keeps I (replaceTenantFeatures tenantId featureCodes userId) := by
  refine (Keeps.write hdelete).bind fun _ => ?_
  cases featureCodes with
  | some codes => exact saveTenantFeatures_keeps hinsert userId codes
  | none => exact Keeps.throw _

theorem enablePlanFeatures_keeps (userId : String) (featureCodes : List String) :
    Keeps I (enablePlanFeatures tenantId userId featureCodes) := by
  induction featureCodes with
  | nil => exact Keeps.pure ()
  | cons code codes ih =>
    refine Keeps.bind (Keeps.query _) fun found => ?_
    cases found with
    | some row => exact Keeps.bind (Keeps.pure ()) fun _ => ih
    | none => exact (insert_keeps hinsert rfl).bind fun _ => ih

theorem toggleFeature_keeps
    (hrow : ∀ row db, I db → I (db.withTenantFeatures (saveTenantFeatureRow row)))
    (hdel : ∀ keys db, I db → I (db.withRedis (redisDel keys)))
    (hmessages : ∀ messages db, I db → I { db with messages := messages })
    (env : Env) (featureCode : String) (enabled : Bool) (userId : String) :
    Keeps I (toggleFeature env tenantId featureCode enabled userId) := by
  have hupsert : Keeps I (upsertTenantFeature tenantId featureCode enabled userId) := by
    refine Keeps.bind (Keeps.query _) fun found => ?_
    cases found with
    | some row => exact (Keeps.write (hrow _)).bind fun _ => Keeps.pure _
    | none => exact (insert_keeps hinsert rfl).bind fun _ => Keeps.pure _
  refine Keeps.bind (Keeps.query _) fun definition => ?_
  cases definition with
  | none => exact Keeps.throw _
  | some definition =>
    refine hupsert.bind fun saved => (Keeps.write (hdel _)).bind fun _ => ?_
    exact (publish_keeps hmessages env _ _).bind fun _ => Keeps.pure saved

end Features

/-! ## Tenants -/

section Tenants

variable (hsave : ∀ t db, I db → I (db.withTenants (saveTenantRow t)))

include hsave

theorem provision_keeps {t : Tenant}
    (hnew : ∀ db u, I db → insertTenant t db = .ok u → I u)
    (hinsert : ∀ row db u, row.tenantId = t.id → I db → insertTenantFeature row db = .ok u → I u)
    (featureCodes : List String) (userId : String) :
    Keeps I (provision t featureCodes userId) :=
  (Keeps.execute hnew).bind fun _ => (enablePlanFeatures_keeps hinsert userId _).bind fun _ =>
    (Keeps.write (hsave _)).bind fun _ => Keeps.pure _

theorem createTenant_keeps {drawn : Drawn}
    (hnew : ∀ t db u, t.id = drawn.id → I db → insertTenant t db = .ok u → I u)
    (hinsert : ∀ row db u, row.tenantId = drawn.id → I db →
      insertTenantFeature row db = .ok u → I u)
    (hmessages : ∀ messages db, I db → I { db with messages := messages })
    (strings : Strings) (env : Env) (dto : CreateTenantDto) (userId : String) :
    Keeps I (createTenant strings env dto userId drawn) := by
  refine (findByCode_keeps _).bind fun plan => ?_
  refine Keeps.bind (Keeps.tryCatch (Keeps.transaction ?_) fun e => ?_) fun saved => ?_
  · exact provision_keeps hsave (fun db u => hnew _ db u rfl) hinsert _ _
  · split
    · exact Keeps.throw _
    · exact Keeps.throw _
  · exact announce_keeps hmessages env saved

theorem updateTenant_keeps {id : String}
    (hinsert : ∀ row db u, row.tenantId = id → I db → insertTenantFeature row db = .ok u → I u)
    (hdelete : ∀ db, I db → I (db.withTenantFeatures (·.filter (·.tenantId ≠ id))))
    (hdel : ∀ keys db, I db → I (db.withRedis (redisDel keys)))
    (hmessages : ∀ messages db, I db → I { db with messages := messages })
    (strings : Strings) (env : Env) (dto : UpdateTenantDto) :
    Keeps I (updateTenant strings env id dto) := by
  refine (findById_keeps id).bind fun t => ?_
  cases dto.plan.filter (· ≠ t.currentPlan) with
  | none => exact (Keeps.write (hsave _)).bind fun _ => Keeps.pure _
  | some code =>
    refine (findByCode_keeps code).bind fun plan => (Keeps.write (hsave _)).bind fun _ => ?_
    refine (replaceTenantFeatures_keeps hinsert hdelete _ _).bind fun _ => ?_
    refine (invalidate_keeps hdel id).bind fun _ => ?_
    exact (publish_keeps hmessages env _ _).bind fun _ => Keeps.pure _

theorem suspendTenant_keeps
    (hmessages : ∀ messages db, I db → I { db with messages := messages })
    (env : Env) (id : String) (reason : Option String) :
    Keeps I (suspendTenant env id reason) := by
  refine (findById_keeps id).bind fun t => ?_
  split
  · exact Keeps.throw _
  · split
    · exact Keeps.throw _
    · refine (Keeps.write (hsave _)).bind fun _ => ?_
      exact (publish_keeps hmessages env _ _).bind fun _ => Keeps.pure _

theorem activateTenant_keeps (id : String) : Keeps I (activateTenant id) := by
  refine (findById_keeps id).bind fun t => ?_
  split
  · exact Keeps.throw _
  · split
    · exact Keeps.throw _
    · exact (Keeps.write (hsave _)).bind fun _ => Keeps.pure _

theorem archiveTenant_keeps (hdel : ∀ keys db, I db → I (db.withRedis (redisDel keys)))
    (env : Env) (id : String) : Keeps I (archiveTenant env id) := by
  refine (findById_keeps id).bind fun t => ?_
  split
  · exact Keeps.throw _
  · exact (Keeps.write (hsave _)).bind fun _ => invalidate_keeps hdel id

theorem handleSubscriptionStatus_keeps (env : Env) (payload : SubscriptionStatusPayload) :
    Keeps I (handleSubscriptionStatus env payload) := by
  refine Keeps.tryCatch (Keeps.bind (Keeps.query _) fun found => ?_) fun _ => Keeps.pure ()
  cases found with
  | none => exact Keeps.pure ()
  | some t => exact Keeps.write (hsave _)

end Tenants

end SaasChassis.Tenants
