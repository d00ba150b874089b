/-
  An `updateTenant` that changes the plan, and any of its calls that may fail.

  It saves the tenant, deletes its rows, inserts those of the plan one by one and deletes its cached
  keys, in no transaction. `updateTenant_unsaved`: up to the save a failure leaves everything as it
  was. `updateTenant_saved`: from there on the tenant's row is changed, whatever fails.
  `updateTenant_atomic_iff` puts them together. What is looked up for a plan without features may
  be no list; the method throws then between the delete and the first insert.
-/
import SaasChassis.Tenants.Snapshot

namespace SaasChassis.Tenants

open SaasChassis.Lib Faulty

section PlanChange

variable {strings : Strings} {env : Env} {db : TenantDb} {id : String} {t : Tenant}
  {dto : UpdateTenantDto} {code : String} {fault : Faults TenantError}

/-! ## The calls before the save -/

/-- The calls of `findByCode`. -/
def planCalls (code : String) (db : TenantDb) : ℕ :=
  if (planByCode code db.plans).isSome then 1 else 2

/-- The tenant, the plan, and the save. -/
def callsToSave (code : String) (db : TenantDb) : ℕ := 1 + planCalls code db + 1

theorem findById_runs (found : tenantById id db.tenants = some t) :
    Runs (findById id) db 1 t db := by
  refine Runs.query_bind (n := 0) ?_
  rw [found]
  exact Runs.pure db t

theorem findByCode_runs (code : String) (db : TenantDb) :
    Runs (findByCode code) db (planCalls code db) (planOf code db) db := by
  unfold findByCode planCalls planOf
  cases hplan : planByCode code db.plans with
  | some plan =>
    refine Runs.query_bind (n := 0) ?_
    rw [hplan]
    exact Runs.pure db plan
  | none =>
    refine Runs.query_bind (n := 1) ?_
    rw [hplan]
    refine Runs.query_bind (n := 0) ?_
    cases planByCode "free" db.plans with
    | some free => exact Runs.pure db free
    | none => exact Runs.pure db defaultPlan

/-! ## The calls after it -/

/-- What `updateTenant` does once the tenant is saved. -/
def syncPlan (env : Env) (id oldPlan code : String) (codes : Option (List String))
    (saved : Tenant) : Method Tenant := do
  replaceTenantFeatures id codes id
  invalidateTenantFeatureCache id
  publish env "tenant.plan-changed" (.tenantPlanChanged id oldPlan code env.now)
  return saved

/-- The delete, the inserts, and the calls to Redis. -/
def callsAfterSave (id : String) (codes : List String) (db : TenantDb) : ℕ :=
  1 + codes.length + (if (redisScan (cacheKeys id) db.redis).isEmpty then 1 else 2)

/-- No code is unknown, and none is there twice. -/
def AllInsertable (codes : List String) (db : TenantDb) : Prop :=
  codes.Nodup ∧ ∀ c ∈ codes, (definitionByCode c db.featureDefinitions).isSome

theorem insertable_eq_iff (definitions : List FeatureDefinition) (codes before : List String) :
    insertable definitions before codes = codes ↔
      codes.Nodup ∧ ∀ c ∈ codes, c ∉ before ∧ (definitionByCode c definitions).isSome := by
  induction codes generalizing before with
  | nil => simp [insertable]
  | cons code codes ih =>
    unfold insertable
    split
    next hstop =>
      refine iff_of_false (List.cons_ne_nil code codes).symm fun h => ?_
      obtain ⟨hnew, hdefined⟩ := h.2 code List.mem_cons_self
      rcases hstop with hmem | hnone
      · exact hnew hmem
      · rw [hnone] at hdefined
        cases hdefined
    next hgo =>
      obtain ⟨hnew, hdefined⟩ := not_or.mp hgo
      rw [List.cons_inj_right, ih, List.nodup_cons, List.forall_mem_cons]
      constructor
      · rintro ⟨hnodup, hall⟩
        refine ⟨⟨fun hmem => (hall code hmem).1 List.mem_cons_self, hnodup⟩,
          ⟨hnew, Option.isSome_iff_ne_none.mpr hdefined⟩, fun c hc => ⟨?_, (hall c hc).2⟩⟩
        exact fun hmem => (hall c hc).1 (List.mem_cons_of_mem _ hmem)
      · rintro ⟨⟨hfresh, hnodup⟩, -, hall⟩
        refine ⟨hnodup, fun c hc => ⟨fun hmem => ?_, (hall c hc).2⟩⟩
        rcases List.mem_cons.mp hmem with rfl | hmem
        · exact hfresh hc
        · exact (hall c hc).1 hmem

/-- Inserts that are all accepted. -/
theorem saveTenantFeatures_runs {u : TenantDb} {codes : List String} {n : ℕ}
    (h : (saveTenantFeatures id id codes noFaults n u).1.isOk) :
    ∃ v, Runs (saveTenantFeatures id id codes) u codes.length () v ∧ v.redis = u.redis := by
  induction codes generalizing u n with
  | nil => exact ⟨u, Runs.pure u (), rfl⟩
  | cons code codes ih =>
    cases hins : insertTenantFeature (enabledRow id id code) u with
    | error e =>
      rw [show saveTenantFeatures id id (code :: codes) noFaults n u = _ from
        execute_bind_refused hins _] at h
      cases h
    | ok v =>
      rw [show saveTenantFeatures id id (code :: codes) noFaults n u = _ from
        execute_bind_noFaults hins _] at h
      obtain ⟨w, hw, hredis⟩ := ih h
      obtain ⟨rfl, -⟩ := setRow_inserted hins
      refine ⟨w, ((Runs.execute hins).bind hw).cast ?_ rfl, hredis⟩
      rw [List.length_cons, Nat.add_comm]

theorem invalidate_runs (id : String) (u : TenantDb) : ∃ v,
    Runs (invalidateTenantFeatureCache id) u
      (if (redisScan (cacheKeys id) u.redis).isEmpty then 1 else 2) () v := by
  unfold invalidateTenantFeatureCache
  by_cases hempty : (redisScan (cacheKeys id) u.redis).isEmpty = true
  · refine ⟨u, Runs.cast (Runs.query_bind (n := 0) ?_) (if_pos hempty).symm rfl⟩
    rw [if_pos hempty]
    exact Runs.pure u ()
  · refine ⟨u.withRedis (redisDel (redisScan (cacheKeys id) u.redis)),
      Runs.cast (Runs.query_bind (n := 1) ?_) (if_neg hempty).symm rfl⟩
    rw [if_neg hempty]
    exact Runs.write _ u

/-- The sync succeeds exactly when there is a list, every code of it can be inserted and no call
    fails. -/
theorem syncPlan_ok_iff {u : TenantDb} (owner : (tenantById id u.tenants).isSome) (oldPlan : String)
    (codes : Option (List String)) (saved : Tenant) (m : ℕ) :
    (syncPlan env id oldPlan code codes saved fault m u).1.isOk ↔
      ∃ cs, codes = some cs ∧ AllInsertable cs u ∧
        Clear fault m (m + callsAfterSave id cs u) := by
  obtain ⟨r, k, hreplace, hr⟩ := @replaceTenantFeatures_eq id id u owner codes m
  have hinsertable : r = .ok () ↔ ∃ cs, codes = some cs ∧ AllInsertable cs u := by
    rw [hr]
    cases codes with
    | none => simp
    | some cs =>
      rw [Option.some_inj, eq_comm, inserted, Option.getD_some, insertable_eq_iff]
      simp [AllInsertable]
  by_cases hall : ∃ cs, codes = some cs ∧ AllInsertable cs u
  · rw [hinsertable.mpr hall] at hreplace
    obtain ⟨cs, rfl, hall⟩ := hall
    obtain ⟨v, hsave, hredis⟩ := @saveTenantFeatures_runs id
      (u.withTenantFeatures (·.filter (·.tenantId ≠ id))) cs (m + 1) (by
        rw [show saveTenantFeatures id id cs noFaults (m + 1) _ = _ from hreplace]
        rfl)
    obtain ⟨w, hinvalidate⟩ := invalidate_runs id v
    have hreplaced : Runs (replaceTenantFeatures id (some cs) id) u (1 + cs.length) () v :=
      Runs.write_bind hsave
    have hpublish : Runs (publish env "tenant.plan-changed"
        (.tenantPlanChanged id oldPlan code env.now)) w 0 () _ := Runs.effect _ w
    have hruns : Runs (syncPlan env id oldPlan code (some cs) saved) u (callsAfterSave id cs u)
        saved _ :=
      (hreplaced.bind (hinvalidate.bind (hpublish.bind (Runs.pure _ saved)))).cast
        (by rw [hredis]; rfl) rfl
    rw [hruns.isOk_iff]
    constructor
    · exact fun h => ⟨cs, rfl, hall, h⟩
    · rintro ⟨cs', hcs, -, h⟩
      exact Option.some.inj hcs ▸ h
  · refine iff_of_false (fun hok => ?_) fun ⟨cs, hcs, hin, _⟩ => hall ⟨cs, hcs, hin⟩
    rcases hrun : replaceTenantFeatures id codes id fault m u with ⟨e | a, k', v⟩
    · rw [syncPlan, bind_error _ hrun] at hok
      cases hok
    · rw [replaceTenantFeatures_strict id id codes fault m u a k' v hrun] at hreplace
      have hreturns : r = .ok () := (Prod.mk.inj hreplace).1.symm
      exact hall (hinsertable.mp hreturns)

/-! ## The whole method -/

/-- A failure up to the save leaves everything as it was. -/
theorem updateTenant_unsaved (found : tenantById id db.tenants = some t)
    (hplan : dto.plan.filter (· ≠ t.currentPlan) = some code)
    (hfails : ¬ Clear fault 0 (callsToSave code db)) :
    ∃ e k, updateTenant strings env id dto fault 0 db = (.error e, k, db) := by
  unfold updateTenant
  rcases (findById_keeps id).read (findById_runs found) fault 0 with
    ⟨hclear, hfind⟩ | ⟨-, e, k, hfind⟩
  swap
  · exact ⟨e, k, bind_error _ hfind⟩
  rw [bind_ok _ hfind]
  simp only [hplan]
  rcases (findByCode_keeps code).read (findByCode_runs code db) fault (0 + 1) with
    ⟨hclear', hfindPlan⟩ | ⟨-, e, k, hfindPlan⟩
  swap
  · exact ⟨e, k, bind_error _ hfindPlan⟩
  rw [bind_ok _ hfindPlan]
  cases hfault : fault (0 + 1 + planCalls code db) with
  | some e => exact ⟨e, _, bind_error _ (call_error _ hfault db)⟩
  | none =>
    refine absurd (fun i _ hi => ?_) hfails
    unfold callsToSave at hi
    by_cases hlast : i = 0 + 1 + planCalls code db
    · rw [hlast, hfault]
    · by_cases hfirst : i < 0 + 1
      · exact hclear i (by omega) hfirst
      · exact hclear' i (by omega) (by omega)

/-- From the save on, what is left is the sync. -/
theorem updateTenant_saved (found : tenantById id db.tenants = some t)
    (hplan : dto.plan.filter (· ≠ t.currentPlan) = some code)
    (hclear : Clear fault 0 (callsToSave code db)) :
    updateTenant strings env id dto fault 0 db =
      syncPlan env id t.currentPlan code (codesToSync code db) (planSaved strings dto t code db)
        fault (callsToSave code db)
        (db.withTenants (saveTenantRow (planSaved strings dto t code db))) := by
  unfold callsToSave at hclear ⊢
  have hfind := (findById_runs found).ok fault 0 fun i hm hi => hclear i hm (by omega)
  have hfindPlan := (findByCode_runs code db).ok fault (0 + 1) fun i hm hi =>
    hclear i (by omega) (by omega)
  have hlast : fault (0 + 1 + planCalls code db) = none := hclear _ (by omega) (by omega)
  unfold updateTenant
  rw [bind_ok _ hfind]
  simp only [hplan]
  rw [bind_ok _ hfindPlan]
  refine (bind_ok _ (call_ok _ hlast db)).trans ?_
  rw [Nat.zero_add]
  rfl

theorem syncPlan_tenants {rows : List Tenant} (oldPlan : String)
    (codes : Option (List String)) (saved : Tenant) :
    Keeps (fun db => db.tenants = rows) (syncPlan env id oldPlan code codes saved) := by
  refine (replaceTenantFeatures_tenants _ _ _).bind fun _ => ?_
  refine (invalidateTenantFeatureCache_tenants _).bind fun _ => ?_
  exact (publish_tenants env _ _).bind fun _ => Keeps.pure _

/-- The tenant's row and the rows of its features are those before. -/
def Untouched (id : String) (db u : TenantDb) : Prop :=
  tenantById id u.tenants = tenantById id db.tenants ∧
    u.tenantFeatures.filter (·.tenantId = id) = db.tenantFeatures.filter (·.tenantId = id)

instance (id : String) (db u : TenantDb) : Decidable (Untouched id db u) :=
  inferInstanceAs (Decidable (_ ∧ _))

/-- The row after the save. -/
theorem updateTenant_saved_row (found : tenantById id db.tenants = some t)
    (hplan : dto.plan.filter (· ≠ t.currentPlan) = some code)
    (hclear : Clear fault 0 (callsToSave code db)) :
    tenantById id (updateTenant strings env id dto fault 0 db).2.2.tenants =
      some (planSaved strings dto t code db) := by
  have hid : (planSaved strings dto t code db).id = id := (tenantById_mem found).2
  rw [updateTenant_saved found hplan hclear, syncPlan_tenants _ _ _ fault _ _ rfl]
  exact tenantById_saved found hid

/-- Nothing is changed by a call that throws, for exactly the failures up to the save; or there is
    none, and what is to be synced is a list whose codes can all be inserted. -/
theorem updateTenant_atomic_iff (found : tenantById id db.tenants = some t)
    (hplan : dto.plan.filter (· ≠ t.currentPlan) = some code) :
    (∀ e, (updateTenant strings env id dto fault 0 db).1 = .error e →
        Untouched id db (updateTenant strings env id dto fault 0 db).2.2) ↔
      ¬ Clear fault 0 (callsToSave code db) ∨
        ∃ codes, codesToSync code db = some codes ∧ AllInsertable codes db ∧
          Clear fault (callsToSave code db)
            (callsToSave code db + callsAfterSave id codes db) := by
  by_cases hclear : Clear fault 0 (callsToSave code db)
  · rw [or_iff_right (not_not.mpr hclear)]
    have hrow := @updateTenant_saved_row strings env _ _ _ _ _ _ found hplan hclear
    have howner : (tenantById id (db.withTenants
        (saveTenantRow (planSaved strings dto t code db))).tenants).isSome := by
      have hid : (planSaved strings dto t code db).id = id := (tenantById_mem found).2
      show (tenantById id (saveTenantRow _ db.tenants)).isSome
      rw [tenantById_saved found hid]
      rfl
    have hok := @syncPlan_ok_iff env id code fault _ howner t.currentPlan (codesToSync code db)
      (planSaved strings dto t code db) (callsToSave code db)
    rw [← updateTenant_saved found hplan hclear] at hok
    refine Iff.trans ?_ hok
    cases hres : (updateTenant strings env id dto fault 0 db).1 with
    | ok a => exact iff_of_true nofun rfl
    | error e =>
      refine iff_of_false (fun h => ?_) nofun
      have hsame := (h e rfl).1
      rw [hrow, found] at hsame
      have hchanged : code ≠ t.currentPlan := by
        simpa using (Option.filter_eq_some_iff.mp hplan).2
      exact hchanged (congrArg (·.currentPlan) (Option.some.inj hsame))
  · obtain ⟨e, k, hrun⟩ := @updateTenant_unsaved strings env _ _ _ _ _ _ found hplan hclear
    rw [hrun]
    exact iff_of_true (fun _ _ => ⟨rfl, rfl⟩) (Or.inl hclear)

end PlanChange

/-! ## A plan with a feature that is not defined -/

namespace HalfChanged

def strings : Strings := { toLowerCase := id, slugify := id }

def env : Env := { now := 1000, channel := true, identityService := false }

def acme : String := "0b1f6a9e-5c1d-4c59-9f52-6f3f7f0e2a11"

def tenant : Tenant :=
  { id := acme, name := "Acme", slug := "acme-1234", status := .active, stripeCustomerId := none,
    currentPlan := "free", enabledFeatures := ["module.budgeting"],
    adminEmail := "ada@example.com", phone := none, address := none, suspendedAt := none,
    cancelledAt := none }

def db : TenantDb :=
  { tenants := [tenant]
    tenantFeatures := [enabledRow acme acme "module.budgeting"]
    featureDefinitions := [{ code := "module.budgeting", defaultEnabled := true }]
    plans :=
      [{ code := "free", includedFeatures := ["module.budgeting"] },
       { code := "pro", includedFeatures := ["module.budgeting", "module.ghost"] },
       { code := "basic", includedFeatures := ["module.budgeting"] }]
    redis := []
    messages := [] }

def toPlan (code : String) : UpdateTenantDto :=
  { name := none, adminEmail := none, plan := some code, phone := none, address := none,
    stripeCustomerId := none }

end HalfChanged

open HalfChanged in
/-- The tenant is on the new plan with one of its rows. -/
theorem plan_half_changed :
    (updateTenant strings env acme (toPlan "pro") noFaults 0 db).1 =
        .error (.queryFailed foreignKeyViolation) ∧
      ¬ Untouched acme db (updateTenant strings env acme (toPlan "pro") noFaults 0 db).2.2 := by
  decide

open HalfChanged in
theorem updateTenant_atomic_iff_sample :
    tenantById acme db.tenants = some tenant ∧
      (toPlan "basic").plan.filter (· ≠ tenant.currentPlan) = some "basic" ∧
      ∀ e, (updateTenant strings env acme (toPlan "basic") noFaults 0 db).1 = .error e →
        Untouched acme db (updateTenant strings env acme (toPlan "basic") noFaults 0 db).2.2 := by
  have hinsertable : AllInsertable ["module.budgeting"] db := by
    unfold AllInsertable
    decide
  have hplan : (toPlan "basic").plan.filter (· ≠ tenant.currentPlan) = some "basic" := by decide
  exact ⟨rfl, hplan,
    (updateTenant_atomic_iff rfl hplan).mpr (Or.inr ⟨_, rfl, hinsertable, fun _ _ _ => rfl⟩)⟩

end SaasChassis.Tenants
