/-
  `PATCH /tenants/:id`, for a caller with a verified access token.

  Pipes run before the handler: the id has to be a UUID and the body to pass its validators. The
  handler asks whether the plan is truthy, `updateTenant` whether it is undefined, so the empty plan
  passes the one and is a change for the other. `patch_keeps_iff`: for a caller who is no platform
  admin, this is the only way to other entitlements.
-/
import SaasChassis.Tenants.FailedUpdates

namespace SaasChassis.Tenants

open SaasChassis.Lib Faulty

/-! ## The route -/

structure JwtPayload where
  sub : String
  tenantId : Option String
  isPlatformAdmin : Bool

/-- The tests of the libraries' validators. -/
structure Validators where
  /-- The test of `ParseUUIDPipe`. -/
  isUuid : String → Bool
  isEmail : String → Bool

/-- The validators of the body; a member that is undefined passes. -/
def UpdateTenantDto.valid (validators : Validators) (dto : UpdateTenantDto) : Bool :=
  dto.name.all (·.length ≤ 200) && dto.adminEmail.all validators.isEmail &&
    dto.plan.all (·.length ≤ 50) && dto.phone.all (·.length ≤ 20) &&
    dto.stripeCustomerId.all (·.length ≤ 100)

inductive PatchOutcome where
  | badRequest
  | forbidden (message : String)
  | handled (result : Except TenantError Tenant)

/-- The checks of `TenantsController.update`, with the message of what it throws. -/
def authorizeUpdate (user : JwtPayload) (id : String) (dto : UpdateTenantDto) :
    Except String Unit :=
  if !user.isPlatformAdmin && user.tenantId ≠ some id then
    .error "Access denied to this tenant"
  -- the empty string is falsy
  else if dto.plan.any (· ≠ "") && !user.isPlatformAdmin then
    .error "Only platform admins can change the subscription plan"
  else .ok ()

def patchTenant (validators : Validators) (strings : Strings) (env : Env) (user : JwtPayload)
    (id : String) (dto : UpdateTenantDto) (fault : Faults TenantError) (db : TenantDb) :
    PatchOutcome × TenantDb :=
  if validators.isUuid id && dto.valid validators then
    match authorizeUpdate user id dto with
    | .error message => (.forbidden message, db)
    | .ok () =>
      let res := updateTenant strings env id dto fault 0 db
      (.handled res.1, res.2.2)
  else (.badRequest, db)

/-! ## Entitlements -/

/-- Plan, status, snapshot and rows of the tenant. -/
structure EntitlementsKept (id : String) (db u : TenantDb) : Prop where
  row : (tenantById id u.tenants).map (fun t => (t.currentPlan, t.status, t.enabledFeatures)) =
    (tenantById id db.tenants).map fun t => (t.currentPlan, t.status, t.enabledFeatures)
  features : u.tenantFeatures.filter (·.tenantId = id) = db.tenantFeatures.filter (·.tenantId = id)

/-- A valid request for the empty plan by one of the tenant's own users, the tenant being on a plan
    with a name, and no failure until the tenant is saved. -/
structure EmptiesPlan (validators : Validators) (user : JwtPayload) (id : String)
    (dto : UpdateTenantDto) (fault : Faults TenantError) (db : TenantDb) : Prop where
  isUuid : validators.isUuid id
  valid : dto.valid validators
  own : user.tenantId = some id
  empty : dto.plan = some ""
  onPlan : ∃ t, tenantById id db.tenants = some t ∧ t.currentPlan ≠ ""
  saved : Clear fault 0 (callsToSave "" db)

section Patch

variable {validators : Validators} {strings : Strings} {env : Env} {user : JwtPayload}
  {id : String} {dto : UpdateTenantDto} {fault : Faults TenantError} {db : TenantDb}

theorem EntitlementsKept.refl (id : String) (db : TenantDb) : EntitlementsKept id db db :=
  ⟨rfl, rfl⟩

/-- Without a plan in the patch. -/
theorem EntitlementsKept.patched {t : Tenant} (found : tenantById id db.tenants = some t) :
    EntitlementsKept id db (db.withTenants (saveTenantRow (dto.patch strings t))) := by
  have hid : (dto.patch strings t).id = id := (tenantById_mem found).2
  refine ⟨?_, rfl⟩
  show (tenantById id (saveTenantRow _ db.tenants)).map _ = _
  rw [tenantById_saved found hid, found]
  rfl

/-- Where the plan does not change, entitlements do not. -/
theorem updateTenant_kept
    (hplan : ∀ t, tenantById id db.tenants = some t → dto.plan.filter (· ≠ t.currentPlan) = none) :
    EntitlementsKept id db (updateTenant strings env id dto fault 0 db).2.2 := by
  have htriple : Triple (· = db) (updateTenant strings env id dto)
      (fun _ u => EntitlementsKept id db u) fun _ u => EntitlementsKept id db u := by
    have hsame : ∀ u, u = db → EntitlementsKept id db u := fun u hu => hu ▸ .refl id db
    have hfound : Triple (· = db) (findById id)
        (fun t u => tenantById id db.tenants = some t ∧ u = db)
        fun _ u => EntitlementsKept id db u := by
      refine Triple.query_bind (fun found => ?_) fun _ => hsame
      cases found with
      | some t =>
        refine Triple.pure fun u h => ⟨?_, h.1⟩
        rw [← h.1]
        exact h.2
      | none => exact Triple.throw fun u h => hsame u h.1
    refine hfound.bind fun t => Triple.assume fun found => ?_
    simp only [hplan t found]
    refine Triple.bind (R := fun _ u => EntitlementsKept id db u)
      (Triple.write (fun u hu => ?_) fun _ => hsame) fun _ => Triple.pure fun _ h => h
    rw [hu]
    exact EntitlementsKept.patched found
  exact htriple.after rfl fault 0

/-- A platform admin apart, only the empty plan gets through. -/
theorem authorizeUpdate_ok_iff (huser : user.isPlatformAdmin = false) :
    authorizeUpdate user id dto = .ok () ↔
      user.tenantId = some id ∧ (dto.plan = none ∨ dto.plan = some "") := by
  unfold authorizeUpdate
  rw [huser]
  cases hplan : dto.plan with
  | none =>
    by_cases hown : user.tenantId = some id
    · simp [hown]
    · simp [hown]
  | some plan =>
    by_cases hown : user.tenantId = some id
    · by_cases hempty : plan = ""
      · simp [hown, hempty]
      · simp [hown, hempty]
    · simp [hown]

/-- The empty plan is a change for a tenant on a plan with a name. -/
theorem updateTenant_emptied {t : Tenant} (found : tenantById id db.tenants = some t)
    (hempty : dto.plan = some "") (hplan : t.currentPlan ≠ "") :
    EntitlementsKept id db (updateTenant strings env id dto fault 0 db).2.2 ↔
      ¬ Clear fault 0 (callsToSave "" db) := by
  have hchange : dto.plan.filter (· ≠ t.currentPlan) = some "" := by
    rw [hempty]
    simp [Ne.symm hplan]
  by_cases hclear : Clear fault 0 (callsToSave "" db)
  · refine iff_of_false (fun h => ?_) (not_not.mpr hclear)
    have hrow := h.row
    rw [updateTenant_saved_row found hchange hclear, found] at hrow
    exact hplan (Prod.mk.inj (Option.some.inj hrow)).1.symm
  · obtain ⟨e, k, hrun⟩ := @updateTenant_unsaved strings env _ _ _ _ _ _ found hchange hclear
    rw [hrun]
    exact iff_of_true (.refl id db) hclear

/-- Entitlements stay as they are, whatever a tenant's user sends and whatever fails, but for the
    empty plan. -/
theorem patch_keeps_iff (validators : Validators) (strings : Strings) (env : Env)
    (user : JwtPayload) (huser : user.isPlatformAdmin = false) (id : String)
    (dto : UpdateTenantDto) (fault : Faults TenantError) (db : TenantDb) :
    EntitlementsKept id db (patchTenant validators strings env user id dto fault db).2 ↔
      ¬ EmptiesPlan validators user id dto fault db := by
  unfold patchTenant
  split
  next hpipes =>
    obtain ⟨hid, hvalid⟩ := Bool.and_eq_true_iff.mp hpipes
    cases hguard : authorizeUpdate user id dto with
    | error message =>
      refine iff_of_true (.refl id db) fun h => ?_
      rw [(authorizeUpdate_ok_iff huser).mpr ⟨h.own, Or.inr h.empty⟩] at hguard
      cases hguard
    | ok =>
      obtain ⟨hown, hplan⟩ := (authorizeUpdate_ok_iff huser).mp hguard
      by_cases hon : dto.plan = some "" ∧
          ∃ t, tenantById id db.tenants = some t ∧ t.currentPlan ≠ ""
      · obtain ⟨hempty, t, found, hnamed⟩ := hon
        rw [updateTenant_emptied found hempty hnamed]
        exact not_congr ⟨fun h => ⟨hid, hvalid, hown, hempty, ⟨t, found, hnamed⟩, h⟩, (·.saved)⟩
      · refine iff_of_true (updateTenant_kept fun t found => ?_) fun h => hon ⟨h.empty, h.onPlan⟩
        rcases hplan with hnone | hempty
        · rw [hnone]
          rfl
        · have hsame : t.currentPlan = "" := by
            by_contra hnamed
            exact hon ⟨hempty, t, found, hnamed⟩
          rw [hempty, hsame]
          rfl
  next hpipes =>
    refine iff_of_true (.refl id db) fun h => hpipes ?_
    rw [h.isUuid, h.valid]
    rfl

end Patch

/-! ## A user of the tenant -/

open HalfChanged

def tenantUser : JwtPayload := { sub := "u1", tenantId := some acme, isPlatformAdmin := false }

def anyValidators : Validators := { isUuid := fun _ => true, isEmail := fun _ => true }

/-- The tenant is on no plan. -/
theorem plan_emptied :
    ¬ EntitlementsKept acme db
      (patchTenant anyValidators strings env tenantUser acme (toPlan "") noFaults db).2 := by
  intro h
  exact absurd h.row (by decide)

/-- A request for another plan is refused. -/
theorem patch_keeps_iff_sample :
    tenantUser.isPlatformAdmin = false ∧
      EntitlementsKept acme db
        (patchTenant anyValidators strings env tenantUser acme (toPlan "pro") noFaults db).2 :=
  ⟨rfl, (patch_keeps_iff anyValidators strings env tenantUser rfl acme (toPlan "pro") noFaults
    db).mpr fun h => absurd h.empty (by decide)⟩

end SaasChassis.Tenants
