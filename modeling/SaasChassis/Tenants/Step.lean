/-
  The tenant manager as a machine: one call of a service after the other.

  `TenantsStep` lists what a step can do to the table of tenants, whatever calls fail.
  `step_tenants` says that nothing else happens.
-/
import SaasChassis.Tenants.Invariants

namespace SaasChassis.Tenants

open SaasChassis.Lib Faulty

/-! ## The machine -/

inductive TenantInput where
  | createTenant (env : Env) (dto : CreateTenantDto) (createdByUserId : String) (drawn : Drawn)
      (fault : Faults TenantError)
  | updateTenant (env : Env) (id : String) (dto : UpdateTenantDto) (fault : Faults TenantError)
  | suspendTenant (env : Env) (id : String) (reason : Option String) (fault : Faults TenantError)
  | activateTenant (id : String) (fault : Faults TenantError)
  | archiveTenant (env : Env) (id : String) (fault : Faults TenantError)
  | toggleFeature (env : Env) (tenantId featureCode : String) (enabled : Bool)
      (toggledByUserId : String) (fault : Faults TenantError)
  | isFeatureEnabled (env : Env) (tenantId featureCode : String) (fault : Faults TenantError)
  | billingSynced (payload : BillingSyncedPayload) (fault : Faults TenantError)
  | subscriptionStatus (env : Env) (payload : SubscriptionStatusPayload)
      (fault : Faults TenantError)

variable (strings : Strings)

def TenantDb.step (db : TenantDb) : TenantInput → TenantDb
  | .createTenant env dto userId drawn fault =>
    (Tenants.createTenant strings env dto userId drawn fault 0 db).2.2
  | .updateTenant env id dto fault => (Tenants.updateTenant strings env id dto fault 0 db).2.2
  | .suspendTenant env id reason fault => (Tenants.suspendTenant env id reason fault 0 db).2.2
  | .activateTenant id fault => (Tenants.activateTenant id fault 0 db).2.2
  | .archiveTenant env id fault => (Tenants.archiveTenant env id fault 0 db).2.2
  | .toggleFeature env tenantId featureCode enabled userId fault =>
    (Tenants.toggleFeature env tenantId featureCode enabled userId fault 0 db).2.2
  | .isFeatureEnabled env tenantId featureCode fault =>
    (Tenants.isFeatureEnabled env tenantId featureCode fault 0 db).2.2
  | .billingSynced payload fault => (handleBillingSynced payload fault 0 db).2.2
  | .subscriptionStatus env payload fault => (handleSubscriptionStatus env payload fault 0 db).2.2

/-! ## What a step does to the tenants -/

/-- The tenants after the step, and why they may be so. -/
inductive TenantsStep (rows : List Tenant) : TenantInput → List Tenant → Prop
  | same (i : TenantInput) : TenantsStep rows i rows
  | created (env : Env) (dto : CreateTenantDto) (userId : String) (drawn : Drawn)
      (fault : Faults TenantError) (featureCodes : List String)
      (new : ∀ row ∈ rows, row.id ≠ drawn.id) :
      TenantsStep rows (.createTenant env dto userId drawn fault)
        (rows ++ [{ dto.provisioning strings drawn with
          enabledFeatures := featureCodes, status := .active }])
  | updated (env : Env) (id : String) (dto : UpdateTenantDto) (fault : Faults TenantError)
      (t : Tenant) (found : tenantById id rows = some t)
      (plan : dto.plan.filter (· ≠ t.currentPlan) = none) :
      TenantsStep rows (.updateTenant env id dto fault) (saveTenantRow (dto.patch strings t) rows)
  | planChanged (env : Env) (id : String) (dto : UpdateTenantDto) (fault : Faults TenantError)
      (t : Tenant) (found : tenantById id rows = some t) (code : String)
      (plan : dto.plan.filter (· ≠ t.currentPlan) = some code) (featureCodes : List String) :
      TenantsStep rows (.updateTenant env id dto fault)
        (saveTenantRow { dto.patch strings t with
          currentPlan := code, enabledFeatures := featureCodes } rows)
  | suspended (env : Env) (id : String) (reason : Option String) (fault : Faults TenantError)
      (t : Tenant) (found : tenantById id rows = some t) (new : t.status ≠ .suspended)
      (living : t.status ≠ .cancelled) :
      TenantsStep rows (.suspendTenant env id reason fault)
        (saveTenantRow { t with status := .suspended, suspendedAt := some env.now } rows)
  | activated (id : String) (fault : Faults TenantError) (t : Tenant)
      (found : tenantById id rows = some t) (new : t.status ≠ .active)
      (living : t.status ≠ .cancelled) :
      TenantsStep rows (.activateTenant id fault)
        (saveTenantRow { t with status := .active, suspendedAt := none } rows)
  | archived (env : Env) (id : String) (fault : Faults TenantError) (t : Tenant)
      (found : tenantById id rows = some t) (living : t.status ≠ .cancelled) :
      TenantsStep rows (.archiveTenant env id fault)
        (saveTenantRow { t with status := .cancelled, cancelledAt := some env.now } rows)
  | synced (payload : BillingSyncedPayload) (fault : Faults TenantError) :
      TenantsStep rows (.billingSynced payload fault)
        (updateTenantRow payload.tenantId
          ({ · with stripeCustomerId := some payload.stripeCustomerId }) rows)
  | billed (env : Env) (payload : SubscriptionStatusPayload) (fault : Faults TenantError)
      (t : Tenant) (found : tenantById payload.tenantId rows = some t) (clear : Clear fault 0 2) :
      TenantsStep rows (.subscriptionStatus env payload fault)
        (saveTenantRow (payload.applyPlan (payload.applyStatus env.now t)) rows)

/-! ## Methods that leave the tenants alone -/

section Frame

variable {rows : List Tenant}

theorem publish_tenants (env : Env) (routingKey : String) (body : MessageBody) :
    Keeps (fun db => db.tenants = rows) (publish env routingKey body) :=
  publish_keeps (fun _ _ h => h) env routingKey body

theorem insertTenantFeature_tenants {row : TenantFeature} {db u : TenantDb}
    (h : insertTenantFeature row db = .ok u) : u.tenants = db.tenants := by
  unfold insertTenantFeature at h
  split at h
  · cases h
  · split at h
    · cases h
      rfl
    · cases h

theorem insert_sameTenants (tenantId : String) : ∀ (row : TenantFeature) (db u : TenantDb),
    row.tenantId = tenantId → db.tenants = rows → insertTenantFeature row db = .ok u →
      u.tenants = rows :=
  fun _ _ _ _ h hins => (insertTenantFeature_tenants hins).trans h

theorem replaceTenantFeatures_tenants (tenantId : String)
    (featureCodes : Option (List String)) (userId : String) :
    Keeps (fun db => db.tenants = rows) (replaceTenantFeatures tenantId featureCodes userId) :=
  replaceTenantFeatures_keeps (insert_sameTenants tenantId) (fun _ h => h) featureCodes userId

theorem enablePlanFeatures_tenants (tenantId userId : String) (featureCodes : List String) :
    Keeps (fun db => db.tenants = rows) (enablePlanFeatures tenantId userId featureCodes) :=
  enablePlanFeatures_keeps (insert_sameTenants tenantId) userId featureCodes

theorem invalidateTenantFeatureCache_tenants (tenantId : String) :
    Keeps (fun db => db.tenants = rows) (invalidateTenantFeatureCache tenantId) :=
  invalidate_keeps (fun _ _ h => h) tenantId

theorem isFeatureEnabled_tenants (env : Env) (tenantId featureCode : String) :
    Keeps (fun db => db.tenants = rows) (isFeatureEnabled env tenantId featureCode) :=
  isFeatureEnabled_keeps (fun _ _ _ _ h => h) env tenantId featureCode

theorem toggleFeature_tenants (env : Env) (tenantId featureCode : String) (enabled : Bool)
    (userId : String) :
    Keeps (fun db => db.tenants = rows)
      (toggleFeature env tenantId featureCode enabled userId) :=
  toggleFeature_keeps (insert_sameTenants tenantId) (fun _ _ h => h) (fun _ _ h => h)
    (fun _ _ h => h) env featureCode enabled userId

end Frame

/-! ## Methods that write a tenant -/

section Write

variable {strings} {rows : List Tenant} {i : TenantInput} {α β : Type}

/-- What becomes of the tenants is listed, also if the method throws. -/
def StepsAs (strings : Strings) (rows : List Tenant) (i : TenantInput) (x : Method α) : Prop :=
  Triple (fun db => db.tenants = rows) x (fun _ db => TenantsStep strings rows i db.tenants)
    fun _ db => TenantsStep strings rows i db.tenants

theorem StepsAs.of_keeps {x : Method α} (h : Keeps (fun db => db.tenants = rows) x) :
    StepsAs strings rows i x := by
  have hsame : ∀ db : TenantDb, db.tenants = rows → TenantsStep strings rows i db.tenants :=
    fun db hdb => hdb ▸ .same i
  exact (Triple.of_keeps h).conseq (fun _ h => h) (fun _ => hsame) fun _ => hsame

/-- Reading first: the method goes on from the same tenants. -/
theorem StepsAs.bind {x : Method β} {k : β → Method α}
    (hx : Keeps (fun db => db.tenants = rows) x) (hk : ∀ b, StepsAs strings rows i (k b)) :
    StepsAs strings rows i (x >>= k) := by
  refine Triple.bind ((Triple.of_keeps hx).conseq (fun _ h => h) (fun _ _ h => h) ?_) hk
  exact fun _ db h => h ▸ .same i

theorem StepsAs.findById {id : String} {k : Tenant → Method α}
    (hk : ∀ t, tenantById id rows = some t → StepsAs strings rows i (k t)) :
    StepsAs strings rows i (Tenants.findById id >>= k) := by
  have hsame : ∀ db : TenantDb, db.tenants = rows → TenantsStep strings rows i db.tenants :=
    fun db hdb => hdb ▸ .same i
  have hfound : Triple (fun db => db.tenants = rows) (Tenants.findById id)
      (fun t db => db.tenants = rows ∧ tenantById id rows = some t)
      fun _ db => TenantsStep strings rows i db.tenants := by
    refine Triple.query_bind (fun found => ?_) fun _ => hsame
    cases found with
    | some t => exact Triple.pure fun db h => ⟨h.1, h.1 ▸ h.2⟩
    | none => exact Triple.throw fun db h => hsame db h.1
  exact hfound.bind fun t fault n db h => hk t h.2 fault n db h.1

/-- A save, and what follows it leaves the tenants alone. -/
theorem StepsAs.save {t : Tenant} {k : Method α}
    (h : TenantsStep strings rows i (saveTenantRow t rows))
    (hk : Keeps (fun db => db.tenants = saveTenantRow t rows) k) :
    StepsAs strings rows i (do write (·.withTenants (saveTenantRow t)); k) := by
  have hsaved : ∀ db : TenantDb, db.tenants = saveTenantRow t rows →
      TenantsStep strings rows i db.tenants := fun db hdb => hdb ▸ h
  refine Triple.bind (R := fun _ db => db.tenants = saveTenantRow t rows) ?_ fun _ => ?_
  · exact Triple.write (fun db hdb => congrArg _ hdb) fun _ db hdb => hdb ▸ .same i
  · exact (Triple.of_keeps hk).conseq (fun _ h => h) (fun _ => hsaved) fun _ => hsaved

theorem StepsAs.after {x : Method α} {db : TenantDb} (h : StepsAs strings db.tenants i x)
    (fault : Faults TenantError) : TenantsStep strings db.tenants i (x fault 0 db).2.2.tenants :=
  Triple.after (I := fun u : TenantDb => TenantsStep strings db.tenants i u.tenants) h rfl fault 0

theorem updateTenant_steps (env : Env) (id : String) (dto : UpdateTenantDto)
    (fault : Faults TenantError) :
    StepsAs strings rows (.updateTenant env id dto fault) (updateTenant strings env id dto) := by
  refine StepsAs.findById fun t found => ?_
  cases hplan : dto.plan.filter (· ≠ t.currentPlan) with
  | none =>
    simp only
    exact StepsAs.save (.updated env id dto fault t found hplan) (Keeps.pure _)
  | some code =>
    simp only
    refine StepsAs.bind (findByCode_keeps code) fun newPlan => ?_
    refine StepsAs.save (.planChanged env id dto fault t found code hplan _) ?_
    refine (replaceTenantFeatures_tenants _ _ _).bind fun _ => ?_
    refine (invalidateTenantFeatureCache_tenants _).bind fun _ => ?_
    exact (publish_tenants env _ _).bind fun _ => Keeps.pure _

theorem suspendTenant_steps (env : Env) (id : String) (reason : Option String)
    (fault : Faults TenantError) :
    StepsAs strings rows (.suspendTenant env id reason fault) (suspendTenant env id reason) := by
  refine StepsAs.findById fun t found => ?_
  split
  · exact StepsAs.of_keeps (Keeps.throw _)
  next new =>
    split
    · exact StepsAs.of_keeps (Keeps.throw _)
    next living =>
      refine StepsAs.save (.suspended env id reason fault t found new living) ?_
      exact (publish_tenants env _ _).bind fun _ => Keeps.pure _

theorem activateTenant_steps (id : String) (fault : Faults TenantError) :
    StepsAs strings rows (.activateTenant id fault) (activateTenant id) := by
  refine StepsAs.findById fun t found => ?_
  split
  · exact StepsAs.of_keeps (Keeps.throw _)
  next new =>
    split
    · exact StepsAs.of_keeps (Keeps.throw _)
    next living => exact StepsAs.save (.activated id fault t found new living) (Keeps.pure _)

theorem archiveTenant_steps (env : Env) (id : String) (fault : Faults TenantError) :
    StepsAs strings rows (.archiveTenant env id fault) (archiveTenant env id) := by
  refine StepsAs.findById fun t found => ?_
  split
  · exact StepsAs.of_keeps (Keeps.throw _)
  next living =>
    exact StepsAs.save (.archived env id fault t found living)
      (invalidateTenantFeatureCache_tenants _)

theorem handleBillingSynced_steps (payload : BillingSyncedPayload) (fault : Faults TenantError) :
    StepsAs strings rows (.billingSynced payload fault) (handleBillingSynced payload) := by
  refine Triple.tryCatch (Triple.write ?_ fun _ db h => h) fun _ => Triple.pure fun db h => ?_
  · exact fun db h => h ▸ .synced payload fault
  · exact h ▸ .same _

theorem followSubscription_onError (env : Env) (payload : SubscriptionStatusPayload)
    (db : TenantDb) : KeepsOnError (fun u => u = db) (followSubscription env payload) := by
  refine KeepsOnError.bind (Keeps.query _) fun found => ?_
  cases found with
  | none => exact fun _ _ _ _ _ he => nomatch he
  | some t => exact KeepsOnError.write _

/-- The message takes effect when its tenant is known and neither call fails. -/
theorem handleSubscriptionStatus_eq (env : Env) (payload : SubscriptionStatusPayload)
    (fault : Faults TenantError) (db : TenantDb) :
    (∃ t, tenantById payload.tenantId db.tenants = some t ∧ Clear fault 0 2 ∧
      (handleSubscriptionStatus env payload fault 0 db).2.2 = db.withTenants
        (saveTenantRow (payload.applyPlan (payload.applyStatus env.now t)))) ∨
    ((tenantById payload.tenantId db.tenants = none ∨ ¬ Clear fault 0 2) ∧
      (handleSubscriptionStatus env payload fault 0 db).2.2 = db) := by
  cases hfound : tenantById payload.tenantId db.tenants with
  | none =>
    refine Or.inr ⟨Or.inl rfl, ?_⟩
    have hkeeps : Keeps (fun u => u = db) (followSubscription env payload) := by
      refine Keeps.query_bind fun u hu => ?_
      rw [hu, hfound]
      exact Keeps.pure ()
    exact hkeeps.tryCatch (fun _ => Keeps.pure ()) fault 0 db rfl
  | some t =>
    have hruns : Runs (followSubscription env payload) db 2 () (db.withTenants
        (saveTenantRow (payload.applyPlan (payload.applyStatus env.now t)))) := by
      refine Runs.query_bind (n := 1) ?_
      rw [hfound]
      exact Runs.write _ db
    obtain hclear | ⟨i, e, hfails, hi⟩ := Runs.clear_or_failsFirst fault 0 2
    · refine Or.inl ⟨t, rfl, hclear, ?_⟩
      have hrun : handleSubscriptionStatus env payload fault 0 db = _ :=
        tryCatch_ok _ (hruns.ok fault 0 hclear)
      rw [hrun]
    · refine Or.inr ⟨Or.inr fun hclear => ?_, ?_⟩
      · have hnone := hclear i (Nat.zero_le i) hi
        rw [hfails.2.2] at hnone
        cases hnone
      · obtain ⟨u, hu⟩ := hruns.error fault 0 i e hfails hi
        have hkept := followSubscription_onError env payload db fault 0 db e rfl (by rw [hu])
        rw [hu] at hkept
        have hrun : handleSubscriptionStatus env payload fault 0 db = (.ok (), i + 1, u) :=
          tryCatch_error _ hu
        rw [hrun]
        exact hkept

/-- Saving the tenant that was just inserted. -/
theorem save_inserted {t saved : Tenant} (hid : saved.id = t.id)
    (new : ∀ row ∈ rows, row.id ≠ t.id) :
    saveTenantRow saved (rows ++ [t]) = rows ++ [saved] := by
  have hrest : updateTenantRow t.id (fun _ => saved) rows = rows := updateKey_of_notMem new
  unfold saveTenantRow
  rw [hid]
  unfold updateTenantRow updateKey at hrest ⊢
  rw [List.map_append, hrest, List.map_singleton, if_pos rfl]

theorem provision_triple (t : Tenant) (featureCodes : List String) (userId : String) :
    Triple (fun db => db.tenants = rows) (provision t featureCodes userId)
      (fun _ db => (∀ row ∈ rows, row.id ≠ t.id) ∧
        db.tenants = rows ++ [{ t with enabledFeatures := featureCodes, status := .active }])
      fun _ _ => True := by
  refine Triple.bind (R := fun _ db => (∀ row ∈ rows, row.id ≠ t.id) ∧ db.tenants = rows ++ [t])
    (Triple.execute ?_ fun _ _ _ => trivial) fun _ => ?_
  · rintro db u rfl hu
    unfold insertTenant at hu
    split at hu
    · cases hu
    next hany =>
      cases hu
      refine ⟨fun row hrow he => hany ?_, rfl⟩
      exact List.any_eq_true.mpr ⟨row, hrow, by simp [he]⟩
  · refine Triple.assume fun new => ?_
    refine Triple.bind (R := fun _ db => db.tenants = rows ++ [t]) ?_ fun _ => ?_
    · exact (Triple.of_keeps (enablePlanFeatures_tenants t.id userId featureCodes)).conseq
        (fun _ h => h) (fun _ _ h => h) fun _ _ _ => trivial
    · refine Triple.bind (R := fun _ db => db.tenants = _) (Triple.write ?_ ?_) fun _ =>
        Triple.pure fun db h => ⟨new, h⟩
      · intro db h
        show saveTenantRow _ db.tenants = _
        rw [h]
        exact save_inserted rfl new
      · exact fun _ _ _ => trivial

theorem createTenant_steps (env : Env) (dto : CreateTenantDto) (userId : String) (drawn : Drawn)
    (fault : Faults TenantError) :
    StepsAs strings rows (.createTenant env dto userId drawn fault)
      (createTenant strings env dto userId drawn) := by
  have hsame : ∀ db : TenantDb, db.tenants = rows →
      TenantsStep strings rows (.createTenant env dto userId drawn fault) db.tenants :=
    fun db hdb => hdb ▸ .same _
  refine StepsAs.bind (findByCode_keeps _) fun plan => ?_
  let t := dto.provisioning strings drawn
  let saved : Tenant := { t with enabledFeatures := plan.includedFeatures, status := .active }
  -- the transaction is committed or leaves nothing
  have hprovision : Triple (fun db => db.tenants = rows)
      (transaction (provision t plan.includedFeatures userId))
      (fun _ db => (∀ row ∈ rows, row.id ≠ t.id) ∧ db.tenants = rows ++ [saved])
      fun _ db => db.tenants = rows :=
    (provision_triple t plan.includedFeatures userId).transaction fun _ _ h => h
  refine Triple.bind (hprovision.tryCatch fun e => ?_) fun savedTenant => ?_
  · split
    · exact Triple.throw hsame
    · exact Triple.throw hsame
  · refine Triple.assume fun new => ?_
    have hcreated : ∀ db : TenantDb, db.tenants = rows ++ [saved] →
        TenantsStep strings rows (.createTenant env dto userId drawn fault) db.tenants :=
      fun db hdb => hdb ▸ .created env dto userId drawn fault plan.includedFeatures new
    exact (Triple.of_keeps (announce_keeps (fun _ _ h => h) env savedTenant)).conseq
      (fun _ h => h) (fun _ => hcreated) fun _ => hcreated

end Write

/-- Whatever fails, a step does one of the things listed. -/
theorem step_tenants (db : TenantDb) (i : TenantInput) :
    TenantsStep strings db.tenants i (db.step strings i).tenants := by
  cases i with
  | createTenant env dto userId drawn fault =>
    exact (createTenant_steps env dto userId drawn fault).after fault
  | updateTenant env id dto fault => exact (updateTenant_steps env id dto fault).after fault
  | suspendTenant env id reason fault => exact (suspendTenant_steps env id reason fault).after fault
  | activateTenant id fault => exact (activateTenant_steps id fault).after fault
  | archiveTenant env id fault => exact (archiveTenant_steps env id fault).after fault
  | toggleFeature env tenantId featureCode enabled userId fault =>
    exact (StepsAs.of_keeps
      (toggleFeature_tenants env tenantId featureCode enabled userId)).after fault
  | isFeatureEnabled env tenantId featureCode fault =>
    exact (StepsAs.of_keeps (isFeatureEnabled_tenants env tenantId featureCode)).after fault
  | billingSynced payload fault => exact (handleBillingSynced_steps payload fault).after fault
  | subscriptionStatus env payload fault =>
    obtain ⟨t, found, clear, h⟩ | ⟨_, h⟩ := handleSubscriptionStatus_eq env payload fault db
    · rw [TenantDb.step, h]
      exact .billed env payload fault t found clear
    · rw [TenantDb.step, h]
      exact .same _

end SaasChassis.Tenants
