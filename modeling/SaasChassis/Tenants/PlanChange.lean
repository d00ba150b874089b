/-
  The two ways a tenant's plan changes: by an administrator and by billing.

  `updateTenant` stores the plan with its snapshot of features, syncs the tenant's rows and
  clears the cache. The handler of billing's messages stores the plan and nothing else, so what
  the tenant is entitled to stays that of the old plan. `plan_paths_agree_iff` says when the two
  lead to the same: the old entitlements are already those of the new plan, and its code is not
  the empty string, which the handler takes for a missing plan.

  No call fails here. `plan_not_synced` is the seeded pro plan.
-/
import SaasChassis.Tenants.PlanSync
import SaasChassis.Tenants.Lifecycle

namespace SaasChassis.Tenants

open SaasChassis.Lib Faulty

/-! ## Statement -/

def planOnly (code : String) : UpdateTenantDto :=
  { name := none, adminEmail := none, plan := some code, phone := none, address := none,
    stripeCustomerId := none }

/-- After `updateTenant({plan})`. -/
def TenantDb.planUpdated (strings : Strings) (env : Env) (id code : String) (db : TenantDb) :
    TenantDb :=
  (updateTenant strings env id (planOnly code) noFaults 0 db).2.2

/-- After `handleSubscriptionStatus({status: 'active', plan})`. -/
def TenantDb.planBilled (env : Env) (id code : String) (db : TenantDb) : TenantDb :=
  (handleSubscriptionStatus env { tenantId := id, status := "active", plan := some code }
    noFaults 0 db).2.2

/-- The tenant has the same plan, snapshot, enabled features, and from `now` on gets the same
    answers. -/
structure SameEntitlements (now : ℤ) (id : String) (u v : TenantDb) : Prop where
  currentPlan : (tenantById id u.tenants).map (·.currentPlan) =
    (tenantById id v.tenants).map (·.currentPlan)
  enabledFeatures : (tenantById id u.tenants).map (·.enabledFeatures) =
    (tenantById id v.tenants).map (·.enabledFeatures)
  enabled : ∀ featureCode, featureCode ∈ enabledCodes id u ↔ featureCode ∈ enabledCodes id v
  answers : ∀ env : Env, now ≤ env.now → ∀ featureCode,
    (isFeatureEnabled env id featureCode noFaults 0 u).1 =
      (isFeatureEnabled env id featureCode noFaults 0 v).1

/-- What the sync of the plan inserts. -/
def syncedCodes (db : TenantDb) (plan : Plan) : List String :=
  inserted (featuresToSync plan.code plan.includedFeatures) db

/-- The sync has a list and inserts all of it; otherwise it throws, and the cache is left as it
    is. -/
def SyncCompletes (db : TenantDb) (plan : Plan) : Prop :=
  featuresToSync plan.code plan.includedFeatures = some (syncedCodes db plan)

instance instDecidableSyncCompletes (db : TenantDb) (plan : Plan) :
    Decidable (SyncCompletes db plan) :=
  inferInstanceAs (Decidable (featuresToSync plan.code _ = some (syncedCodes db plan)))

/-- The tenant's entitlements are those of the plan already. -/
structure AlreadyEntitled (now : ℤ) (db : TenantDb) (t : Tenant) (plan : Plan) : Prop where
  code : plan.code ≠ ""
  enabledFeatures : t.enabledFeatures = plan.includedFeatures
  enabled : ∀ featureCode, featureCode ∈ enabledCodes t.id db ↔ featureCode ∈ syncedCodes db plan
  answers : ∀ later, now ≤ later → ∀ featureCode,
    SyncCompletes db plan ∨ cachedOf later t.id featureCode db = none →
      answerOf later t.id featureCode db = (decide (featureCode ∈ syncedCodes db plan) ||
        defaultOf featureCode db.featureDefinitions)

/-! ## The two paths -/

section Paths

variable {strings : Strings} {env : Env} {db : TenantDb} {id : String} {t : Tenant} {plan : Plan}
  (found : tenantById id db.tenants = some t) (stored : planByCode plan.code db.plans = some plan)
  (changes : plan.code ≠ t.currentPlan)

include found stored changes

/-- The state after `updateTenant`, but for its message. -/
theorem planUpdated_eq :
    let u := db.planUpdated strings env id plan.code
    let saved := { t with currentPlan := plan.code, enabledFeatures := plan.includedFeatures }
    u.tenants = saveTenantRow saved db.tenants ∧
    u.tenantFeatures = (replaceRows id id
      ((featuresToSync plan.code plan.includedFeatures).getD []) db).tenantFeatures ∧
    u.featureDefinitions = db.featureDefinitions ∧
    (SyncCompletes db plan ∧ u.redis = redisDel (redisScan (cacheKeys id) db.redis) db.redis ∨
      ¬ SyncCompletes db plan ∧ u.redis = db.redis) := by
  intro u saved
  have hplan : (planOnly plan.code).plan.filter (· ≠ t.currentPlan) = some plan.code := by
    simp [planOnly, Option.filter, changes]
  have hplanOf : planOf plan.code db = plan := by rw [planOf, stored]; rfl
  have hcodes : codesToSync plan.code db = featuresToSync plan.code plan.includedFeatures := by
    rw [codesToSync, hplanOf]
  have hsaved : planSaved strings (planOnly plan.code) t plan.code db = saved := by
    rw [planSaved, hplanOf]
    rfl
  obtain ⟨htenants, hrows, hdefinitions, hredis⟩ :=
    @updateTenant_planChanged strings env db id t found _ _ hplan
  rw [hsaved] at htenants
  rw [Syncs, codesSynced, hcodes] at hredis
  refine ⟨htenants, hcodes ▸ hrows, hdefinitions, ?_⟩
  obtain ⟨hsync, _, hredis⟩ | ⟨hsync, _, hredis⟩ := hredis
  · exact Or.inl ⟨hsync, hredis⟩
  · exact Or.inr ⟨hsync, hredis⟩

omit stored changes in
/-- The state after the message. -/
theorem planBilled_eq :
    ∃ saved : Tenant, db.planBilled env id plan.code = db.withTenants (saveTenantRow saved) ∧
      saved.id = id ∧ saved.enabledFeatures = t.enabledFeatures ∧
      saved.currentPlan = if plan.code = "" then t.currentPlan else plan.code := by
  let payload : SubscriptionStatusPayload :=
    { tenantId := id, status := "active", plan := some plan.code }
  obtain ⟨t', found', _, heq⟩ | ⟨hnone | hfaults, _⟩ :=
    handleSubscriptionStatus_eq env payload noFaults db
  · obtain rfl : t' = t := Option.some.inj (found'.symm.trans found)
    refine ⟨_, heq, ?_⟩
    have hid : (payload.applyStatus env.now t').id = id :=
      (applyStatus_id payload env.now t').trans (tenantById_mem found).2
    unfold SubscriptionStatusPayload.applyPlan
    split
    next hcode => cases hcode
    next hcode => exact ⟨hid, rfl, (if_pos (Option.some.inj hcode)).symm⟩
    next code hne hcode =>
      obtain rfl := Option.some.inj hcode
      exact ⟨hid, rfl, (if_neg fun h => hne h).symm⟩
  · exact absurd (found.symm.trans hnone) (Option.some_ne_none t)
  · exact absurd (fun _ _ _ => rfl) hfaults

/-- The answers after `updateTenant`: those of the plan, but for what an unfinished sync leaves in
    the cache. -/
theorem planUpdated_answers (later : ℤ) (featureCode : String) :
    answerOf later id featureCode (db.planUpdated strings env id plan.code) =
      if SyncCompletes db plan ∨ cachedOf later id featureCode db = none then
        (decide (featureCode ∈ syncedCodes db plan) ||
          defaultOf featureCode db.featureDefinitions)
      else answerOf later id featureCode db := by
  obtain ⟨_, hrows, hdefinitions, hredis⟩ :=
    @planUpdated_eq strings env db id t plan found stored changes
  generalize db.planUpdated strings env id plan.code = u at hrows hdefinitions hredis ⊢
  have hsetting : settingOf id featureCode u =
      (decide (featureCode ∈ syncedCodes db plan) ||
        defaultOf featureCode db.featureDefinitions) := by
    refine Eq.trans ?_ (@settingOf_replaceRows id id _ db featureCode)
    unfold settingOf
    rw [hrows, hdefinitions]
    rfl
  unfold answerOf
  rw [hsetting]
  obtain ⟨hsync, hredis⟩ | ⟨hsync, hredis⟩ := hredis
  · have hcached : cachedOf later id featureCode u = none := by
      refine Eq.trans ?_ (cachedOf_invalidated later id featureCode db)
      unfold cachedOf
      rw [hredis]
      rfl
    rw [hcached, if_pos (Or.inl hsync)]
    rfl
  · have hcached : cachedOf later id featureCode u = cachedOf later id featureCode db := by
      unfold cachedOf
      rw [hredis]
    rw [hcached]
    cases hc : cachedOf later id featureCode db with
    | none =>
      rw [if_pos (Or.inr rfl)]
      rfl
    | some cached =>
      rw [if_neg (not_or.mpr ⟨hsync, Option.some_ne_none cached⟩)]
      rfl

end Paths

/-- For any tenant and any stored plan that is not its own, the two paths lead to the same if and
    only if the tenant's entitlements are those of the plan already. -/
theorem plan_paths_agree_iff {strings : Strings} {env : Env} {db : TenantDb} {id : String}
    {t : Tenant} (found : tenantById id db.tenants = some t) {plan : Plan}
    (stored : planByCode plan.code db.plans = some plan) (changes : plan.code ≠ t.currentPlan) :
    SameEntitlements env.now id (db.planUpdated strings env id plan.code)
        (db.planBilled env id plan.code) ↔ AlreadyEntitled env.now db t plan := by
  obtain ⟨htenants, hrows, _, _⟩ := @planUpdated_eq strings env db id t plan found stored changes
  obtain ⟨saved, hbilled, hid, hsnapshot, hplan⟩ := @planBilled_eq env db id t plan found
  have hanswers := @planUpdated_answers strings env db id t plan found stored changes
  generalize db.planUpdated strings env id plan.code = u at htenants hrows hanswers ⊢
  have htid : t.id = id := (tenantById_mem found).2
  have hu : tenantById id u.tenants = some { t with
      currentPlan := plan.code, enabledFeatures := plan.includedFeatures } := by
    rw [htenants]
    exact tenantById_saved found htid
  have hv : tenantById id (db.planBilled env id plan.code).tenants = some saved := by
    rw [hbilled]
    exact tenantById_saved found hid
  have henabled : enabledCodes id u = syncedCodes db plan := by
    refine Eq.trans ?_ (@enabledCodes_replaceRows id id _ db)
    unfold enabledCodes
    rw [hrows]
  have hbilledAnswers : ∀ later featureCode,
      answerOf later id featureCode (db.planBilled env id plan.code) =
        answerOf later id featureCode db := by
    intro later featureCode
    rw [hbilled]
    rfl
  have hbilledCodes : enabledCodes id (db.planBilled env id plan.code) = enabledCodes id db := by
    rw [hbilled]
    rfl
  subst htid
  constructor
  · intro h
    refine { code := ?_, enabledFeatures := ?_, enabled := ?_, answers := ?_ }
    · intro hempty
      have hsame := h.currentPlan
      rw [hu, hv, Option.map_some, Option.map_some, hplan, if_pos hempty] at hsame
      exact changes (Option.some.inj hsame)
    · have hsame := h.enabledFeatures
      rw [hu, hv, Option.map_some, Option.map_some, hsnapshot] at hsame
      exact (Option.some.inj hsame).symm
    · intro featureCode
      rw [← henabled, ← hbilledCodes]
      exact (h.enabled featureCode).symm
    · intro later hlater featureCode hopen
      have hsame := h.answers { env with now := later } hlater featureCode
      rw [isFeatureEnabled_answer, isFeatureEnabled_answer, hanswers, hbilledAnswers,
        if_pos hopen] at hsame
      exact (Except.ok.inj hsame).symm
  · intro h
    refine { currentPlan := ?_, enabledFeatures := ?_, enabled := ?_, answers := ?_ }
    · rw [hu, hv, Option.map_some, Option.map_some, hplan, if_neg h.code]
    · rw [hu, hv, Option.map_some, Option.map_some, hsnapshot, h.enabledFeatures]
    · intro featureCode
      rw [henabled, hbilledCodes]
      exact (h.enabled featureCode).symm
    · intro later hlater featureCode
      rw [isFeatureEnabled_answer, isFeatureEnabled_answer, hanswers, hbilledAnswers]
      split
      next hopen => rw [h.answers later.now hlater featureCode hopen]
      next => rfl

namespace Sample

def free : Plan :=
  { code := "free", includedFeatures := ["module.financial_core", "module.universal_ledger"] }

/-- A plan with the features of the free one. -/
def trial : Plan := { free with code := "trial" }

def pro : Plan :=
  { code := "pro"
    includedFeatures := ["module.financial_core", "module.universal_ledger",
      "module.document_vault", "module.budgeting", "module.payroll", "module.election",
      "module.communication", "module.maintenance"] }

def definitions : List FeatureDefinition :=
  pro.includedFeatures.map fun code =>
    { code, defaultEnabled := ["module.financial_core", "module.universal_ledger",
        "module.document_vault", "module.budgeting"].contains code }

/-- A tenant provisioned on the free plan. -/
def provisioned : TenantDb :=
  (TenantDb.seeded [free, trial, pro] definitions).step strings
    (.createTenant env dto "u1" { id := "t1", suffix := "0000" } noFaults)

def freeTenant : Tenant :=
  { archivedTenant with
    status := .active, enabledFeatures := free.includedFeatures, cancelledAt := none }

theorem provisioned_tenant : tenantById "t1" provisioned.tenants = some freeTenant := by
  decide +kernel

theorem provisioned_redis : provisioned.redis = [] := by decide +kernel

end Sample

theorem plan_paths_agree_iff_sample :
    SameEntitlements 1000 "t1"
      (Sample.provisioned.planUpdated Sample.strings Sample.env "t1" "trial")
      (Sample.provisioned.planBilled Sample.env "t1" "trial") := by
  refine (@plan_paths_agree_iff Sample.strings Sample.env Sample.provisioned "t1" Sample.freeTenant
    Sample.provisioned_tenant Sample.trial (by decide +kernel) (by decide)).mpr ?_
  have hsynced : syncedCodes Sample.provisioned Sample.trial = Sample.free.includedFeatures := by
    decide +kernel
  have henabled : enabledCodes "t1" Sample.provisioned = Sample.free.includedFeatures := by
    decide +kernel
  refine { code := by decide, enabledFeatures := rfl, enabled := ?_, answers := ?_ }
  · intro featureCode
    show featureCode ∈ enabledCodes "t1" _ ↔ _
    rw [hsynced, henabled]
  · intro later _ featureCode _
    have huncached : cachedOf later "t1" featureCode Sample.provisioned = none := by
      unfold cachedOf
      rw [Sample.provisioned_redis]
      rfl
    -- the rows are those of a sync of the free plan
    have hrows : (replaceRows "t1" "u1" Sample.free.includedFeatures
        Sample.provisioned).tenantFeatures = Sample.provisioned.tenantFeatures := by
      decide +kernel
    have hsetting : settingOf "t1" featureCode Sample.provisioned =
        settingOf "t1" featureCode
          (replaceRows "t1" "u1" Sample.free.includedFeatures Sample.provisioned) := by
      unfold settingOf
      rw [hrows]
      rfl
    show answerOf later "t1" featureCode _ = _
    unfold answerOf
    rw [huncached, hsetting, settingOf_replaceRows]
    rfl

/-- A tenant that takes the pro plan through billing is not entitled to its payroll feature. -/
theorem plan_not_synced :
    tenantById "t1" Sample.provisioned.tenants = some Sample.freeTenant ∧
    Sample.freeTenant.status = .active ∧
    planByCode "pro" Sample.provisioned.plans = some Sample.pro ∧
    ¬ SameEntitlements 1000 "t1"
      (Sample.provisioned.planUpdated Sample.strings Sample.env "t1" "pro")
      (Sample.provisioned.planBilled Sample.env "t1" "pro") := by
  refine ⟨Sample.provisioned_tenant, rfl, by decide +kernel, fun h => ?_⟩
  have hsame := h.answers Sample.env (Int.le_refl _) "module.payroll"
  rw [isFeatureEnabled_answer, isFeatureEnabled_answer] at hsame
  exact absurd (Except.ok.inj hsame) (by decide +kernel)

end SaasChassis.Tenants
