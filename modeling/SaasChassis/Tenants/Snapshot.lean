/-
  The snapshot of enabled features in a tenant's row, beside the rows of its features.

  Provisioning writes both from the plan. A change of plan writes the plan's features to the
  snapshot and syncs the rows, but for a plan without features it syncs those of the static list;
  a toggle writes the row alone. `snapshot_step_iff`: these are the two ways apart. `snapshot_iff`
  carries it along every run whose calls succeed.
-/
import SaasChassis.Tenants.FeatureCache

namespace SaasChassis.Tenants

open SaasChassis.Lib Faulty

/-! ## Statement -/

/-- Every tenant's snapshot lists the codes of its enabled rows. -/
def SnapshotFaithful (db : TenantDb) : Prop :=
  ∀ t ∈ db.tenants, ∀ f, f ∈ t.enabledFeatures ↔ f ∈ enabledCodes t.id db

/-- The call returns. -/
def Completes (strings : Strings) (db : TenantDb) : TenantInput → Prop
  | .createTenant env dto userId drawn fault =>
    (createTenant strings env dto userId drawn fault 0 db).1.isOk
  | .updateTenant env id dto fault => (updateTenant strings env id dto fault 0 db).1.isOk
  | .suspendTenant env id reason fault => (suspendTenant env id reason fault 0 db).1.isOk
  | .activateTenant id fault => (activateTenant id fault 0 db).1.isOk
  | .archiveTenant env id fault => (archiveTenant env id fault 0 db).1.isOk
  | .toggleFeature env tenantId featureCode enabled userId fault =>
    (toggleFeature env tenantId featureCode enabled userId fault 0 db).1.isOk
  | .isFeatureEnabled env tenantId featureCode fault =>
    (isFeatureEnabled env tenantId featureCode fault 0 db).1.isOk
  | .billingSynced payload fault => (handleBillingSynced payload fault 0 db).1.isOk
  | .subscriptionStatus env payload fault =>
    (handleSubscriptionStatus env payload fault 0 db).1.isOk

/-- A toggle sets what the snapshot says already, and a plan without features that a tenant changes
    to has none in the static list either. -/
def KeepsSnapshot (db : TenantDb) : TenantInput → Prop
  | .toggleFeature _ tenantId featureCode enabled _ _ =>
    ∀ t ∈ db.tenants, t.id = tenantId → (featureCode ∈ t.enabledFeatures ↔ enabled)
  | .updateTenant _ id dto _ => ∀ t code, tenantById id db.tenants = some t →
    dto.plan.filter (· ≠ t.currentPlan) = some code →
      (planOf code db).includedFeatures = [] → (staticFeatures code).getD [] = []
  | _ => True

/-! ## Rows -/

theorem mem_enabledCodes {db : TenantDb} (hu : UniqueRows db.tenantFeatures) (id f : String) :
    f ∈ enabledCodes id db ↔
      ∃ row, tenantFeature id f db.tenantFeatures = some row ∧ row.isEnabled := by
  unfold enabledCodes
  simp only [List.mem_map, List.mem_filter, Bool.and_eq_true, decide_eq_true_eq]
  constructor
  · rintro ⟨row, ⟨hmem, rfl, henabled⟩, rfl⟩
    exact ⟨row, tenantFeature_of_mem hu hmem, henabled⟩
  · rintro ⟨row, hrow, henabled⟩
    obtain ⟨hmem, htenant, hcode⟩ := tenantFeature_eq_some hrow
    exact ⟨row, ⟨hmem, htenant, henabled⟩, hcode⟩

theorem mem_enabledCodes_congr {db u : TenantDb} (hu : UniqueRows db.tenantFeatures)
    (hu' : UniqueRows u.tenantFeatures) {id f : String}
    (h : tenantFeature id f u.tenantFeatures = tenantFeature id f db.tenantFeatures) :
    f ∈ enabledCodes id u ↔ f ∈ enabledCodes id db := by
  rw [mem_enabledCodes hu', mem_enabledCodes hu, h]

/-- One row for a tenant and a feature, and each belongs to a tenant. -/
structure RowsKept (db : TenantDb) : Prop where
  unique : UniqueRows db.tenantFeatures
  owned : ∀ id f, id ∉ db.tenants.map (·.id) → tenantFeature id f db.tenantFeatures = none

theorem RowsKept.tenant_mem {db : TenantDb} (h : RowsKept db) {id f : String}
    (hrow : (tenantFeature id f db.tenantFeatures).isSome) : id ∈ db.tenants.map (·.id) := by
  by_contra hno
  rw [h.owned id f hno] at hrow
  cases hrow

/-! ## Provisioning -/

section Provisioning

variable {strings : Strings} {rows : List Tenant} {id userId : String}

/-- The tenant has a row that is on for each of the codes, and no other. -/
def HasRows (id userId : String) (codes : List String) (db : TenantDb) : Prop :=
  ∀ f, tenantFeature id f db.tenantFeatures =
    if f ∈ codes then some (enabledRow id userId f) else none

theorem HasRows.insert {codes : List String} {code : String} {db u : TenantDb}
    (h : HasRows id userId codes db)
    (hins : insertTenantFeature (enabledRow id userId code) db = .ok u) :
    HasRows id userId (codes ++ [code]) u := by
  intro f
  obtain ⟨-, -, hset⟩ := setRow_inserted hins
  by_cases hf : f = code
  · subst hf
    rw [if_pos (List.mem_append_right _ (List.mem_singleton_self _))]
    exact hset.own
  · have hmem : f ∈ codes ++ [code] ↔ f ∈ codes := by simp [hf]
    rw [hset.others id f fun he => hf he.2, h f]
    simp only [hmem]

/-- A code that is there twice. -/
theorem HasRows.again {codes : List String} {code : String} {db : TenantDb} {row : TenantFeature}
    (h : HasRows id userId codes db)
    (hfound : tenantFeature id code db.tenantFeatures = some row) :
    HasRows id userId (codes ++ [code]) db := by
  intro f
  have hcode : code ∈ codes := by
    have hrow := h code
    rw [hfound] at hrow
    split at hrow
    next hmem => exact hmem
    next => cases hrow
  have hmem : f ∈ codes ++ [code] ↔ f ∈ codes := by
    simp only [List.mem_append, List.mem_singleton, or_iff_left_iff_imp]
    rintro rfl
    exact hcode
  rw [h f]
  simp only [hmem]

/-- The loop of `enablePlanFeatures`: `R` is of the codes done so far. -/
theorem enablePlanFeatures_loop {R : List String → TenantDb → Prop}
    (hagain : ∀ done code db row, R done db →
      tenantFeature id code db.tenantFeatures = some row → R (done ++ [code]) db)
    (hinsert : ∀ done code db u, R done db → tenantFeature id code db.tenantFeatures = none →
      insertTenantFeature (enabledRow id userId code) db = .ok u → R (done ++ [code]) u)
    (done codes : List String) :
    Triple (R done) (enablePlanFeatures id userId codes) (fun _ => R (done ++ codes))
      fun _ _ => True := by
  induction codes generalizing done with
  | nil =>
    refine Triple.pure fun db h => ?_
    rwa [List.append_nil]
  | cons code codes ih =>
    have hrest := ih (done ++ [code])
    rw [List.append_assoc, List.singleton_append] at hrest
    refine Triple.query_bind (fun found => ?_) fun _ _ _ => trivial
    cases found with
    | some row =>
      have hfound : Triple (fun db => R done db ∧
          tenantFeature id code db.tenantFeatures = some row) (pure () : Method Unit)
          (fun _ => R (done ++ [code])) fun _ _ => True :=
        Triple.pure fun db h => hagain done code db row h.1 h.2
      exact Triple.bind hfound fun _ => hrest
    | none =>
      have hinserted : Triple (fun db => R done db ∧
          tenantFeature id code db.tenantFeatures = none)
          (execute (insertTenantFeature (enabledRow id userId code)))
          (fun _ => R (done ++ [code])) fun _ _ => True :=
        Triple.execute (fun db u h hins => hinsert done code db u h.1 h.2 hins) fun _ _ _ => trivial
      exact Triple.bind hinserted fun _ => hrest

theorem enablePlanFeatures_hasRows (done codes : List String) :
    Triple (HasRows id userId done) (enablePlanFeatures id userId codes)
      (fun _ => HasRows id userId (done ++ codes)) fun _ _ => True :=
  enablePlanFeatures_loop (fun _ _ _ _ h hfound => h.again hfound)
    (fun _ _ _ _ h _ hins => h.insert hins) done codes

/-- What a new tenant is after its transaction. -/
def Provisioned (rows : List Tenant) (t : Tenant) (userId : String) (codes : List String)
    (u : TenantDb) : Prop :=
  u.tenants = rows ++ [{ t with enabledFeatures := codes, status := .active }] ∧
    HasRows t.id userId codes u

theorem provision_rows (t : Tenant) (codes : List String) :
    Triple (fun db => db.tenants = rows ∧
        ((∀ row ∈ rows, row.id ≠ t.id) → HasRows t.id userId [] db))
      (provision t codes userId)
      (fun _ u => (∀ row ∈ rows, row.id ≠ t.id) ∧ Provisioned rows t userId codes u)
      fun _ _ => True := by
  refine Triple.bind (R := fun _ db => (∀ row ∈ rows, row.id ≠ t.id) ∧
    db.tenants = rows ++ [t] ∧ HasRows t.id userId [] db)
    (Triple.execute ?_ fun _ _ _ => trivial) fun _ => Triple.assume fun new => ?_
  · rintro db u ⟨rfl, hrows⟩ hins
    unfold insertTenant at hins
    split at hins
    · cases hins
    next hany =>
      cases hins
      have new : ∀ row ∈ db.tenants, row.id ≠ t.id := fun row hrow he =>
        hany (List.any_eq_true.mpr ⟨row, hrow, by simp [he]⟩)
      exact ⟨new, rfl, hrows new⟩
  · refine Triple.bind (R := fun _ db => db.tenants = rows ++ [t] ∧ HasRows t.id userId codes db)
      (((Triple.of_keeps (enablePlanFeatures_tenants t.id userId codes)).and
        (enablePlanFeatures_hasRows [] codes)).conseq (fun _ h => h) (fun _ _ h => h)
          fun _ _ _ => trivial) fun _ => ?_
    refine Triple.bind (R := fun _ => Provisioned rows t userId codes)
      (Triple.write (fun db h => ⟨?_, h.2⟩) fun _ _ _ => trivial) fun _ =>
        Triple.pure fun u h => ⟨new, h⟩
    show saveTenantRow _ db.tenants = _
    rw [h.1]
    exact save_inserted rfl new

/-- A `createTenant` that returns has stored a new tenant, with rows and snapshot from one list. -/
theorem createTenant_provisioned (env : Env) (dto : CreateTenantDto) (drawn : Drawn) :
    Triple (fun db => db.tenants = rows ∧
        ((∀ row ∈ rows, row.id ≠ drawn.id) → HasRows drawn.id userId [] db))
      (createTenant strings env dto userId drawn)
      (fun _ u => (∀ row ∈ rows, row.id ≠ drawn.id) ∧
        ∃ codes, Provisioned rows (dto.provisioning strings drawn) userId codes u)
      fun _ _ => True := by
  refine Triple.bind ((Triple.of_keeps (findByCode_keeps _)).conseq (fun _ h => h) (fun _ _ h => h)
    fun _ _ _ => trivial) fun plan => ?_
  let t := dto.provisioning strings drawn
  refine Triple.bind (R := fun _ u => (∀ row ∈ rows, row.id ≠ drawn.id) ∧
    Provisioned rows t userId plan.includedFeatures u) ?_ fun saved => ?_
  · refine Triple.tryCatch ((provision_rows t _).transaction fun _ _ _ => trivial) fun e => ?_
    split
    · exact Triple.throw fun _ _ => trivial
    · exact Triple.throw fun _ _ => trivial
  · refine Triple.assume fun new => ?_
    exact (Triple.of_keeps (announce_keeps (fun _ _ h => h) env saved)).conseq (fun _ h => h)
      (fun _ u h => ⟨new, _, h⟩) fun _ _ _ => trivial

end Provisioning

/-! ## The tables after a call -/

section Step

variable {strings : Strings} {db u : TenantDb}

/-- The snapshots are those of before. -/
def SameSnapshots (rows after : List Tenant) : Prop :=
  ∀ s ∈ after, ∃ s' ∈ rows, s'.id = s.id ∧ s'.enabledFeatures = s.enabledFeatures

theorem SameSnapshots.refl (rows : List Tenant) : SameSnapshots rows rows :=
  fun s hs => ⟨s, hs, rfl, rfl⟩

theorem SameSnapshots.saved {rows : List Tenant} {id : String} {t t' : Tenant}
    (found : tenantById id rows = some t) (hid : t'.id = t.id)
    (hfeatures : t'.enabledFeatures = t.enabledFeatures) :
    SameSnapshots rows (saveTenantRow t' rows) := by
  intro s hs
  rcases mem_saveTenantRow hs with rfl | ⟨hs, -⟩
  · exact ⟨t, (tenantById_mem found).1, hid.symm, hfeatures.symm⟩
  · exact ⟨s, hs, rfl, rfl⟩

theorem SnapshotFaithful.kept (h : SnapshotFaithful db)
    (rows : u.tenantFeatures = db.tenantFeatures)
    (snapshots : SameSnapshots db.tenants u.tenants) : SnapshotFaithful u := by
  intro s hs f
  obtain ⟨s', hs', hid, hfeatures⟩ := snapshots s hs
  have hcodes : enabledCodes s.id u = enabledCodes s.id db := by
    rw [enabledCodes, rows]
    rfl
  rw [hcodes, ← hid, ← hfeatures]
  exact h s' hs' f

theorem applied_snapshot (payload : SubscriptionStatusPayload) (now : ℤ) (t : Tenant) :
    (payload.applyPlan (payload.applyStatus now t)).id = t.id ∧
      (payload.applyPlan (payload.applyStatus now t)).enabledFeatures = t.enabledFeatures := by
  have hplan : ∀ t : Tenant, (payload.applyPlan t).id = t.id ∧
      (payload.applyPlan t).enabledFeatures = t.enabledFeatures := by
    intro t
    unfold SubscriptionStatusPayload.applyPlan
    split <;> exact ⟨rfl, rfl⟩
  have hstatus : (payload.applyStatus now t).enabledFeatures = t.enabledFeatures := by
    unfold SubscriptionStatusPayload.applyStatus
    split
    · rfl
    · split
      · rfl
      · split <;> rfl
  obtain ⟨hid, hfeatures⟩ := hplan (payload.applyStatus now t)
  exact ⟨hid.trans (applyStatus_id payload now t), hfeatures.trans hstatus⟩

/-- The other calls change no snapshot. -/
theorem TenantsStep.sameSnapshots {rows after : List Tenant} {i : TenantInput}
    (h : TenantsStep strings rows i after)
    (hcreate : ∀ env dto userId drawn fault, i ≠ .createTenant env dto userId drawn fault)
    (hupdate : ∀ env id dto fault, i ≠ .updateTenant env id dto fault) :
    SameSnapshots rows after := by
  cases h with
  | same => exact SameSnapshots.refl rows
  | created => exact absurd rfl (hcreate _ _ _ _ _)
  | updated => exact absurd rfl (hupdate _ _ _ _)
  | planChanged => exact absurd rfl (hupdate _ _ _ _)
  | suspended env id reason fault t found => exact SameSnapshots.saved found rfl rfl
  | activated id fault t found => exact SameSnapshots.saved found rfl rfl
  | archived env id fault t found => exact SameSnapshots.saved found rfl rfl
  | synced payload fault =>
    intro s hs
    obtain ⟨s', hs', -, rfl⟩ | ⟨hs, -⟩ := mem_updateKey.mp hs
    · exact ⟨s', hs', rfl, rfl⟩
    · exact ⟨s, hs, rfl, rfl⟩
  | billed env payload fault t found =>
    obtain ⟨hid, hfeatures⟩ := applied_snapshot payload env.now t
    exact SameSnapshots.saved found hid hfeatures

/-! ## What a call that returns does -/

/-- The tables after a call that returns. -/
inductive SnapshotStep (strings : Strings) (db : TenantDb) : TenantInput → TenantDb → Prop
  | same {i : TenantInput} {u : TenantDb} (keeps : KeepsSnapshot db i)
      (rows : u.tenantFeatures = db.tenantFeatures)
      (snapshots : SameSnapshots db.tenants u.tenants) : SnapshotStep strings db i u
  | created (env : Env) (dto : CreateTenantDto) (userId : String) (drawn : Drawn)
      (fault : Faults TenantError) {u : TenantDb} (codes : List String)
      (new : ∀ row ∈ db.tenants, row.id ≠ drawn.id)
      (provisioned : Provisioned db.tenants (dto.provisioning strings drawn) userId codes u)
      (others : KeptBut drawn.id db u) :
      SnapshotStep strings db (.createTenant env dto userId drawn fault) u
  | toggled (env : Env) (tenantId featureCode : String) (enabled : Bool) (userId : String)
      (fault : Faults TenantError) {u : TenantDb} (tenants : u.tenants = db.tenants)
      (saved : TenantFeature) (setting : saved.isEnabled = enabled)
      (rows : SetRow tenantId featureCode saved db.tenantFeatures u.tenantFeatures)
      (owner : tenantId ∈ db.tenants.map (·.id)) :
      SnapshotStep strings db (.toggleFeature env tenantId featureCode enabled userId fault) u
  | planChanged (env : Env) (id : String) (dto : UpdateTenantDto) (fault : Faults TenantError)
      {u : TenantDb} (t : Tenant) (found : tenantById id db.tenants = some t) (code : String)
      (plan : dto.plan.filter (· ≠ t.currentPlan) = some code)
      (tenants : u.tenants = saveTenantRow (planSaved strings dto t code db) db.tenants)
      (rows : u.tenantFeatures =
        (replaceRows id id ((codesToSync code db).getD []) db).tenantFeatures)
      (synced : Syncs code db) :
      SnapshotStep strings db (.updateTenant env id dto fault) u

theorem findById_strict (id : String) : Strict (findById id) := by
  refine Strict.bind (Strict.query _) fun found => ?_
  cases found with
  | some t => exact Strict.pure t
  | none => exact Strict.throw _

theorem publish_strict (env : Env) (routingKey : String) (body : MessageBody) :
    Strict (publish env routingKey body) := Strict.effect _

theorem toggleFeature_strict (env : Env) (tenantId featureCode : String) (enabled : Bool)
    (userId : String) : Strict (toggleFeature env tenantId featureCode enabled userId) := by
  have hupsert : Strict (upsertTenantFeature tenantId featureCode enabled userId) := by
    refine Strict.bind (Strict.query _) fun found => ?_
    cases found with
    | some row => exact Strict.bind (Strict.write _) fun _ => Strict.pure _
    | none => exact Strict.bind (Strict.execute _) fun _ => Strict.pure _
  refine Strict.bind (Strict.query _) fun definition => ?_
  cases definition with
  | none => exact Strict.throw _
  | some definition =>
    refine hupsert.bind fun saved => Strict.bind (Strict.write _) fun _ => ?_
    exact (publish_strict env _ _).bind fun _ => Strict.pure saved

theorem replaceTenantFeatures_strict (id userId : String) (codes : Option (List String)) :
    Strict (replaceTenantFeatures id codes userId) := by
  have hsave : ∀ codes, Strict (saveTenantFeatures id userId codes) := by
    intro codes
    induction codes with
    | nil => exact Strict.pure ()
    | cons code codes ih => exact Strict.bind (Strict.execute _) fun _ => ih
  refine Strict.bind (Strict.write _) fun _ => ?_
  cases codes with
  | some codes => exact hsave codes
  | none => exact Strict.throw _

theorem updateTenant_strict (env : Env) (id : String) (dto : UpdateTenantDto) :
    Strict (updateTenant strings env id dto) := by
  have hplan : ∀ code, Strict (findByCode code) := by
    intro code
    refine Strict.bind (Strict.query _) fun plan => ?_
    cases plan with
    | some plan => exact Strict.pure plan
    | none =>
      refine Strict.bind (Strict.query _) fun freePlan => ?_
      cases freePlan with
      | some freePlan => exact Strict.pure freePlan
      | none => exact Strict.pure defaultPlan
  have hinvalidate : Strict (invalidateTenantFeatureCache id) := by
    refine Strict.bind (Strict.query _) fun keys => ?_
    split
    · exact Strict.pure ()
    · exact Strict.write _
  refine (findById_strict id).bind fun t => ?_
  cases dto.plan.filter (· ≠ t.currentPlan) with
  | none => exact Strict.bind (Strict.write _) fun _ => Strict.pure _
  | some code =>
    refine (hplan code).bind fun plan => Strict.bind (Strict.write _) fun _ => ?_
    refine (replaceTenantFeatures_strict _ _ _).bind fun _ => ?_
    exact hinvalidate.bind fun _ => (publish_strict env _ _).bind fun _ => Strict.pure _

theorem not_isOk {α : Type} {x : Except TenantError α} (h : ∃ e, x = .error e) : ¬x.isOk := by
  obtain ⟨e, rfl⟩ := h
  exact Bool.false_ne_true

theorem updateTenant_snapshot (env : Env) (id : String) (dto : UpdateTenantDto)
    (fault : Faults TenantError)
    (hc : (updateTenant strings env id dto fault 0 db).1.isOk) :
    SnapshotStep strings db (.updateTenant env id dto fault)
      (updateTenant strings env id dto fault 0 db).2.2 := by
  have hrun := (updateTenant_strict env id dto).eq_noFaults hc
  rw [hrun] at hc ⊢
  cases found : tenantById id db.tenants with
  | none =>
    obtain ⟨e, hrun⟩ := @findById_missing id db 0 found
    refine absurd hc (not_isOk ⟨e, ?_⟩)
    unfold updateTenant
    rw [bind_error _ hrun]
  | some t =>
    cases hplan : dto.plan.filter (· ≠ t.currentPlan) with
    | none =>
      have hrun : (updateTenant strings env id dto noFaults 0 db).2.2 =
          db.withTenants (saveTenantRow (dto.patch strings t)) := by
        unfold updateTenant
        rw [bind_ok _ (findById_found found)]
        simp only [hplan]
        rfl
      rw [hrun]
      refine .same (fun t' code found' hcode => ?_) rfl (SameSnapshots.saved found rfl rfl)
      obtain rfl : t = t' := Option.some.inj (found.symm.trans found')
      rw [hplan] at hcode
      cases hcode
    | some code =>
      obtain ⟨htenants, hrows, -, ⟨hsync, -⟩ | ⟨-, herror, -⟩⟩ :=
        @updateTenant_planChanged strings env db id t found dto code hplan
      · exact .planChanged env id dto fault t found code hplan htenants hrows hsync
      · exact absurd hc (not_isOk herror)

theorem toggleFeature_snapshot (hr : RowsKept db) (env : Env) (tenantId featureCode : String)
    (enabled : Bool) (userId : String) (fault : Faults TenantError)
    (hc : (toggleFeature env tenantId featureCode enabled userId fault 0 db).1.isOk) :
    SnapshotStep strings db (.toggleFeature env tenantId featureCode enabled userId fault)
      (toggleFeature env tenantId featureCode enabled userId fault 0 db).2.2 := by
  have htenants : (toggleFeature env tenantId featureCode enabled userId fault 0 db).2.2.tenants =
      db.tenants := toggleFeature_tenants env tenantId featureCode enabled userId fault 0 db rfl
  have hrun := (toggleFeature_strict env tenantId featureCode enabled userId).eq_noFaults hc
  rw [hrun] at hc htenants ⊢
  obtain ⟨herror, -⟩ | ⟨saved, -, hsetting, hset, howner, -⟩ :=
    toggleFeature_eq env tenantId featureCode enabled userId db
  · exact absurd hc (not_isOk herror)
  · refine .toggled env tenantId featureCode enabled userId fault htenants saved hsetting hset ?_
    rcases howner with hrow | htenant
    · exact hr.tenant_mem hrow
    · obtain ⟨t, ht⟩ := Option.isSome_iff_exists.mp htenant
      obtain ⟨hmem, rfl⟩ := tenantById_mem ht
      exact List.mem_map_of_mem hmem

theorem createTenant_snapshot (hr : RowsKept db) (env : Env) (dto : CreateTenantDto)
    (userId : String) (drawn : Drawn) (fault : Faults TenantError)
    (hc : (createTenant strings env dto userId drawn fault 0 db).1.isOk) :
    SnapshotStep strings db (.createTenant env dto userId drawn fault)
      (createTenant strings env dto userId drawn fault 0 db).2.2 := by
  have hothers := createTenant_keptBut strings env dto userId drawn fault 0 db
    ⟨fun _ _ _ => rfl, id, rfl, rfl⟩
  have hnone : (∀ row ∈ db.tenants, row.id ≠ drawn.id) → HasRows drawn.id userId [] db := by
    intro new f
    refine (hr.owned drawn.id f fun hmem => ?_).trans (if_neg List.not_mem_nil).symm
    obtain ⟨row, hrow, hid⟩ := List.mem_map.mp hmem
    exact new row hrow hid
  rcases hrun : createTenant strings env dto userId drawn fault 0 db with ⟨e | t, m, u⟩
  · rw [hrun] at hc
    cases hc
  · rw [hrun] at hothers
    obtain ⟨new, codes, hprovisioned⟩ :=
      (createTenant_provisioned env dto drawn).ok ⟨rfl, hnone⟩ hrun
    exact .created env dto userId drawn fault codes new hprovisioned hothers

theorem isFeatureEnabled_rows (env : Env) (tenantId featureCode : String) :
    Keeps (fun u => u.tenantFeatures = db.tenantFeatures)
      (isFeatureEnabled env tenantId featureCode) :=
  isFeatureEnabled_keeps (fun _ _ _ _ h => h) env tenantId featureCode

theorem step_snapshot (hr : RowsKept db) {i : TenantInput} (hc : Completes strings db i) :
    SnapshotStep strings db i (db.step strings i) := by
  have hsteps := step_tenants strings db i
  have hsame : (db.step strings i).tenantFeatures = db.tenantFeatures → KeepsSnapshot db i →
      (∀ env dto userId drawn fault, i ≠ .createTenant env dto userId drawn fault) →
      (∀ env id dto fault, i ≠ .updateTenant env id dto fault) →
        SnapshotStep strings db i (db.step strings i) :=
    fun hrows hkeeps hcreate hupdate =>
      .same hkeeps hrows (hsteps.sameSnapshots hcreate hupdate)
  cases i with
  | createTenant env dto userId drawn fault =>
    exact createTenant_snapshot hr env dto userId drawn fault hc
  | updateTenant env id dto fault => exact updateTenant_snapshot env id dto fault hc
  | toggleFeature env tenantId featureCode enabled userId fault =>
    exact toggleFeature_snapshot hr env tenantId featureCode enabled userId fault hc
  | suspendTenant env id reason fault =>
    refine hsame ?_ trivial (fun _ _ _ _ _ h => nomatch h) fun _ _ _ _ h => nomatch h
    exact (suspendTenant_kept env id reason fault 0 db (Kept.refl db)).1
  | activateTenant id fault =>
    refine hsame ?_ trivial (fun _ _ _ _ _ h => nomatch h) fun _ _ _ _ h => nomatch h
    exact (activateTenant_kept id fault 0 db (Kept.refl db)).1
  | archiveTenant env id fault =>
    refine hsame ?_ trivial (fun _ _ _ _ _ h => nomatch h) fun _ _ _ _ h => nomatch h
    exact (archiveTenant_kept env id fault 0 db (Kept.refl db)).1
  | isFeatureEnabled env tenantId featureCode fault =>
    refine hsame ?_ trivial (fun _ _ _ _ _ h => nomatch h) fun _ _ _ _ h => nomatch h
    exact isFeatureEnabled_rows env tenantId featureCode fault 0 db rfl
  | billingSynced payload fault =>
    refine hsame ?_ trivial (fun _ _ _ _ _ h => nomatch h) fun _ _ _ _ h => nomatch h
    have hkept : Keeps (Kept db) (handleBillingSynced payload) :=
      (save_kept _).tryCatch fun _ => Keeps.pure ()
    exact (hkept fault 0 db (Kept.refl db)).1
  | subscriptionStatus env payload fault =>
    refine hsame ?_ trivial (fun _ _ _ _ _ h => nomatch h) fun _ _ _ _ h => nomatch h
    exact (handleSubscriptionStatus_kept env payload fault 0 db (Kept.refl db)).1

theorem RowsKept.step (hr : RowsKept db) {i : TenantInput} (hc : Completes strings db i) :
    RowsKept (db.step strings i) := by
  have hids : ∀ id, id ∉ (db.step strings i).tenants.map (·.id) → id ∉ db.tenants.map (·.id) := by
    intro id hno hmem
    refine hno ?_
    obtain he | ⟨env, dto, userId, drawn, fault, rfl, -, he⟩ := (step_tenants strings db i).ids
    · exact he ▸ hmem
    · exact he ▸ List.mem_append_left _ hmem
  have hcase := step_snapshot hr hc
  generalize db.step strings i = u at hcase hids ⊢
  cases hcase with
  | same keeps rows snapshots =>
    refine ⟨rows ▸ hr.unique, fun id f hno => ?_⟩
    rw [rows]
    exact hr.owned id f (hids id hno)
  | created env dto userId drawn fault codes new provisioned others =>
    refine ⟨others.2.1 hr.unique, fun id f hno => ?_⟩
    have hne : id ≠ drawn.id := by
      rintro rfl
      refine hno ?_
      rw [provisioned.1]
      exact List.mem_map_of_mem (List.mem_append_right _ (List.mem_singleton_self _))
    rw [others.1 id f hne]
    exact hr.owned id f (hids id hno)
  | toggled env tenantId featureCode enabled userId fault tenants saved setting rows owner =>
    refine ⟨rows.unique hr.unique, fun id f hno => ?_⟩
    have hold := hids id hno
    rw [rows.others id f fun he => hold (he.1 ▸ owner)]
    exact hr.owned id f hold
  | planChanged env id dto fault t found code plan tenants rows synced =>
    refine ⟨rows ▸ uniqueRows_replaceRows hr.unique _, fun id' f hno => ?_⟩
    have hold := hids id' hno
    have hne : id' ≠ id := by
      rintro rfl
      obtain ⟨hmem, hid⟩ := tenantById_mem found
      exact hold (hid ▸ List.mem_map_of_mem hmem)
    rw [rows, tenantFeature_replaceRows_other hne]
    exact hr.owned id' f hold

/-- Where every snapshot is faithful, a call that returns keeps them so if and only if it is none of
    the two that write one side only. -/
theorem snapshot_step_iff (hr : RowsKept db) (hl : SnapshotFaithful db) {i : TenantInput}
    (hc : Completes strings db i) :
    KeepsSnapshot db i ↔ SnapshotFaithful (db.step strings i) := by
  have hu := (hr.step hc).unique
  have hcase := step_snapshot hr hc
  generalize db.step strings i = u at hcase hu ⊢
  cases hcase with
  | same keeps rows snapshots => exact iff_of_true keeps (hl.kept rows snapshots)
  | created env dto userId drawn fault codes new provisioned others =>
    refine iff_of_true trivial fun s hs f => ?_
    rw [provisioned.1] at hs
    rcases List.mem_append.mp hs with hs | hs
    · rw [mem_enabledCodes_congr hr.unique hu (others.1 s.id f (new s hs))]
      exact hl s hs f
    · obtain rfl := List.mem_singleton.mp hs
      rw [mem_enabledCodes hu]
      show f ∈ codes ↔ ∃ row, tenantFeature drawn.id f u.tenantFeatures = some row ∧ _
      have hrows : tenantFeature drawn.id f u.tenantFeatures =
          if f ∈ codes then some (enabledRow drawn.id userId f) else none := provisioned.2 f
      rw [hrows]
      by_cases hf : f ∈ codes
      · rw [if_pos hf]
        exact iff_of_true hf ⟨_, rfl, rfl⟩
      · rw [if_neg hf]
        exact iff_of_false hf fun ⟨_, h, _⟩ => nomatch h
  | toggled env tenantId featureCode enabled userId fault tenants saved setting rows owner =>
    have hown : featureCode ∈ enabledCodes tenantId u ↔ enabled = true := by
      rw [mem_enabledCodes hu, rows.own, ← setting]
      exact ⟨fun ⟨row, hrow, h⟩ => (Option.some.inj hrow).symm ▸ h, fun h => ⟨saved, rfl, h⟩⟩
    constructor
    · intro h s hs f
      rw [tenants] at hs
      by_cases hkey : s.id = tenantId ∧ f = featureCode
      · obtain ⟨rfl, rfl⟩ := hkey
        exact (h s hs rfl).trans hown.symm
      · rw [mem_enabledCodes_congr hr.unique hu (rows.others s.id f hkey)]
        exact hl s hs f
    · rintro h s hs rfl
      exact (h s (tenants ▸ hs) featureCode).trans hown
  | planChanged env id dto fault t found code plan tenants rows synced =>
    have hcodes : enabledCodes id u = codesSynced code db := by
      refine Eq.trans ?_ (@enabledCodes_replaceRows id id ((codesToSync code db).getD []) db)
      rw [enabledCodes, rows]
      rfl
    have hsynced : featuresToSync code (planOf code db).includedFeatures =
        some (codesSynced code db) := synced
    have hid : (planSaved strings dto t code db).id = id := (tenantById_mem found).2
    constructor
    · intro h s hs f
      rw [tenants] at hs
      rcases mem_saveTenantRow hs with rfl | ⟨hs, hne⟩
      · rw [hid, hcodes]
        show f ∈ (planOf code db).includedFeatures ↔ f ∈ codesSynced code db
        unfold featuresToSync at hsynced
        split at hsynced
        next hempty =>
          have hnone := List.isEmpty_iff.mp hempty
          have hstatic := h t code found plan hnone
          rw [hsynced, Option.getD_some] at hstatic
          rw [hnone, hstatic]
        next => rw [← Option.some.inj hsynced]
      · rw [hid] at hne
        have hrow : tenantFeature s.id f u.tenantFeatures =
            tenantFeature s.id f db.tenantFeatures := by
          rw [rows, tenantFeature_replaceRows_other hne]
        rw [mem_enabledCodes_congr hr.unique hu hrow]
        exact hl s hs f
    · intro h t' code' found' plan' hnone
      obtain rfl : t = t' := Option.some.inj (found.symm.trans found')
      obtain rfl : code = code' := Option.some.inj (plan.symm.trans plan')
      have hmem : planSaved strings dto t code db ∈ u.tenants := by
        rw [tenants]
        exact (tenantById_mem (tenantById_saved found hid)).1
      refine List.eq_nil_iff_forall_not_mem.mpr fun f hf => ?_
      have hlaw := h _ hmem f
      rw [hid, hcodes] at hlaw
      have hstatic : staticFeatures code = some (codesSynced code db) := by
        rw [← hsynced, featuresToSync, hnone]
        rfl
      rw [hstatic] at hf
      have hin : f ∈ (planOf code db).includedFeatures := hlaw.mpr hf
      rw [hnone] at hin
      cases hin

end Step

/-! ## Runs -/

theorem seeded_rowsKept (plans : List Plan) (definitions : List FeatureDefinition) :
    RowsKept (.seeded plans definitions) := ⟨List.nodup_nil, fun _ _ _ => rfl⟩

/-- In every run from stored plans and features whose calls all return, the snapshots are faithful
    in every state exactly when each toggle sets what the snapshot says and no tenant changes to a
    plan without features that has some in the static list. -/
theorem snapshot_iff {strings : Strings} (plans : List Plan) (definitions : List FeatureDefinition)
    {calls : List TenantInput}
    (hc : StepsSatisfy (TenantDb.step strings) (Completes strings) (.seeded plans definitions)
      calls) :
    StepsSatisfy (TenantDb.step strings) KeepsSnapshot (.seeded plans definitions) calls ↔
      ∀ n, SnapshotFaithful
        (run (TenantDb.step strings) (.seeded plans definitions) (calls.take n)) :=
  stepsSatisfy_iff_under (I := RowsKept) (L := SnapshotFaithful) (fun _ _ hr hc => hr.step hc)
    (fun _ _ hr hl hc => snapshot_step_iff hr hl hc) (seeded_rowsKept plans definitions)
    (fun _ ht => absurd ht List.not_mem_nil) hc

namespace Sample

def toggling : TenantInput := .toggleFeature env "t1" "module.election" true "u1" noFaults

theorem creating_completes : Completes strings cacheSeed creating := by
  show (createTenant strings env dto "u1" { id := "t1", suffix := "0000" } noFaults 0
    cacheSeed).1.isOk = true
  decide +kernel

theorem toggling_completes :
    Completes strings (cacheSeed.step strings creating) toggling := by
  show (toggleFeature env "t1" "module.election" true "u1" noFaults 0
    (cacheSeed.step strings creating)).1.isOk = true
  decide +kernel

end Sample

theorem snapshot_iff_sample :
    SnapshotFaithful (run (TenantDb.step Sample.strings) Sample.cacheSeed
      ([Sample.creating].take 1)) := by
  have hc : StepsSatisfy (TenantDb.step Sample.strings) (Completes Sample.strings)
      Sample.cacheSeed [Sample.creating] := ⟨Sample.creating_completes, trivial⟩
  exact (snapshot_iff _ _ hc).mp ⟨trivial, trivial⟩ 1

/-- The election feature is on and not in the snapshot. -/
theorem toggle_not_in_snapshot :
    StepsSatisfy (TenantDb.step Sample.strings) (Completes Sample.strings) Sample.cacheSeed
      [Sample.creating, Sample.toggling] ∧
    ¬ ∀ n, SnapshotFaithful (run (TenantDb.step Sample.strings) Sample.cacheSeed
      ([Sample.creating, Sample.toggling].take n)) := by
  refine ⟨⟨Sample.creating_completes, Sample.toggling_completes, trivial⟩, fun h => ?_⟩
  let db := run (TenantDb.step Sample.strings) Sample.cacheSeed [Sample.creating, Sample.toggling]
  have henabled : "module.election" ∈ enabledCodes "t1" db := by decide +kernel
  have htenants : db.tenants.map (fun t => (t.id, t.enabledFeatures)) = [("t1", [])] := by
    decide +kernel
  obtain ⟨t, ht, hsnapshot⟩ := List.mem_map.mp (htenants ▸ List.mem_singleton_self _)
  obtain ⟨hid, hfeatures⟩ := Prod.mk.inj hsnapshot
  have hlisted := (h 2 t ht "module.election").mpr (hid ▸ henabled)
  rw [hfeatures] at hlisted
  cases hlisted

end SaasChassis.Tenants
