/-
  The tenant lifecycle, driven by administrators and by billing.

  A cancelled tenant stays cancelled, and the two timestamps tell suspended and cancelled tenants
  apart (`WellKept`). The administrators' methods refuse cancelled tenants. The handler of
  billing's subscription messages does not: a message with one of three statuses revives the
  tenant, with its `cancelledAt` left behind (`Revives`). `lifecycle_iff`: a run keeps the
  lifecycle if and only if no step revives a tenant; `cancelled_revived` is one that does.
-/
import SaasChassis.Tenants.Step

namespace SaasChassis.Tenants

open SaasChassis.Lib Faulty

/-! ## Statement -/

structure Tenant.WellKept (t : Tenant) : Prop where
  suspended : t.status = .suspended → t.suspendedAt.isSome
  active : t.status = .active → t.suspendedAt = none
  cancelled : t.cancelledAt.isSome ↔ t.status = .cancelled

/-- The step changes no cancelled tenant's status, and afterwards all timestamps are right. -/
structure KeepsLifecycle (strings : Strings) (db : TenantDb) (i : TenantInput) : Prop where
  terminal : ∀ t ∈ db.tenants, t.status = .cancelled →
    ∀ t' ∈ (db.step strings i).tenants, t'.id = t.id → t'.status = .cancelled
  wellKept : ∀ t ∈ (db.step strings i).tenants, t.WellKept

/-- A subscription message that takes effect sets a cancelled tenant's status to another one. -/
def Revives (db : TenantDb) : TenantInput → Prop
  | .subscriptionStatus _ payload fault =>
    payload.status ∈ ["active", "suspended", "past_due"] ∧ Clear fault 0 2 ∧
      ∃ t ∈ db.tenants, t.id = payload.tenantId ∧ t.status = .cancelled
  | _ => False

/-! ## Tables -/

section Law

variable {strings : Strings}

theorem mem_saveTenantRow {t t' : Tenant} {rows : List Tenant} (h : t' ∈ saveTenantRow t rows) :
    t' = t ∨ t' ∈ rows ∧ t'.id ≠ t.id := by
  obtain ⟨_, _, _, rfl⟩ | h := mem_updateKey.mp h
  · exact Or.inl rfl
  · exact Or.inr h

theorem saveTenantRow_ids (t : Tenant) (rows : List Tenant) :
    (saveTenantRow t rows).map (·.id) = rows.map (·.id) :=
  map_key_updateKey (fun _ _ => rfl) rows

/-- The ids stay, but for that of a new tenant. -/
theorem TenantsStep.ids {rows after : List Tenant} {i : TenantInput}
    (h : TenantsStep strings rows i after) :
    after.map (·.id) = rows.map (·.id) ∨ ∃ env dto userId drawn fault,
      i = .createTenant env dto userId drawn fault ∧ (∀ row ∈ rows, row.id ≠ drawn.id) ∧
        after.map (·.id) = rows.map (·.id) ++ [drawn.id] := by
  cases h with
  | same => exact Or.inl rfl
  | created env dto userId drawn fault featureCodes new =>
    exact Or.inr ⟨env, dto, userId, drawn, fault, rfl, new, List.map_append⟩
  | synced payload =>
    refine Or.inl (map_key_updateKey (fun row h => ?_) rows)
    exact h
  | updated | planChanged | suspended | activated | archived | billed =>
    exact Or.inl (saveTenantRow_ids _ rows)

/-- No two tenants have one id. -/
theorem TenantsStep.ids_nodup {rows after : List Tenant} {i : TenantInput}
    (h : TenantsStep strings rows i after) (hnd : (rows.map (·.id)).Nodup) :
    (after.map (·.id)).Nodup := by
  obtain he | ⟨env, dto, userId, drawn, fault, -, new, he⟩ := h.ids
  · rwa [he]
  · rw [he, List.nodup_append]
    refine ⟨hnd, List.nodup_singleton _, ?_⟩
    intro k hk k' hk' hsame
    obtain ⟨row, hrow, rfl⟩ := List.mem_map.mp hk
    exact new row hrow (hsame.trans (List.mem_singleton.mp hk'))

/-! ## One row -/

theorem applyPlan_lifecycle (payload : SubscriptionStatusPayload) (t : Tenant) :
    (payload.applyPlan t).id = t.id ∧ (payload.applyPlan t).status = t.status ∧
    (payload.applyPlan t).suspendedAt = t.suspendedAt ∧
    (payload.applyPlan t).cancelledAt = t.cancelledAt := by
  unfold SubscriptionStatusPayload.applyPlan
  split <;> exact ⟨rfl, rfl, rfl, rfl⟩

theorem applyStatus_id (payload : SubscriptionStatusPayload) (now : ℤ) (t : Tenant) :
    (payload.applyStatus now t).id = t.id := by
  unfold SubscriptionStatusPayload.applyStatus
  split
  · rfl
  · split
    · rfl
    · split <;> rfl

/-- Fields that have nothing to do with the lifecycle. -/
theorem Tenant.WellKept.edit {t t' : Tenant} (h : t.WellKept) (status : t'.status = t.status)
    (suspendedAt : t'.suspendedAt = t.suspendedAt) (cancelledAt : t'.cancelledAt = t.cancelledAt) :
    t'.WellKept :=
  { suspended := fun hs => suspendedAt ▸ h.suspended (status ▸ hs)
    active := fun hs => suspendedAt ▸ h.active (status ▸ hs)
    cancelled := by
      rw [cancelledAt, status]
      exact h.cancelled }

theorem Tenant.WellKept.living {t : Tenant} (h : t.WellKept) (hs : t.status ≠ .cancelled) :
    t.cancelledAt = none := by
  cases ht : t.cancelledAt with
  | none => rfl
  | some at' => exact absurd (h.cancelled.mp (by simp [ht])) hs

theorem Tenant.WellKept.suspend {t : Tenant} (h : t.WellKept) (hs : t.status ≠ .cancelled)
    (now : ℤ) : { t with status := .suspended, suspendedAt := some now : Tenant }.WellKept :=
  { suspended := fun _ => rfl
    active := fun hs => nomatch hs
    cancelled := by simp [h.living hs] }

theorem Tenant.WellKept.activate {t : Tenant} (h : t.WellKept) (hs : t.status ≠ .cancelled) :
    { t with status := .active, suspendedAt := none : Tenant }.WellKept :=
  { suspended := fun hs => nomatch hs
    active := fun _ => rfl
    cancelled := by simp [h.living hs] }

theorem Tenant.WellKept.cancel (t : Tenant) (now : ℤ) :
    { t with status := .cancelled, cancelledAt := some now : Tenant }.WellKept :=
  { suspended := fun hs => nomatch hs
    active := fun hs => nomatch hs
    cancelled := by simp }

/-- The handler keeps a row's lifecycle when it does not revive the row. -/
theorem applyStatus_wellKept {payload : SubscriptionStatusPayload} {t : Tenant} (h : t.WellKept)
    (hrevive : t.status = .cancelled → payload.status ∉ ["active", "suspended", "past_due"])
    (now : ℤ) : (payload.applyStatus now t).WellKept := by
  have hliving : payload.status ∈ ["active", "suspended", "past_due"] → t.status ≠ .cancelled :=
    fun hmem hs => hrevive hs hmem
  unfold SubscriptionStatusPayload.applyStatus
  split
  next hactive => exact h.activate (hliving (by simp [hactive]))
  next =>
    split
    next hsuspend => exact h.suspend (hliving (by obtain hs | hs := hsuspend <;> simp [hs])) now
    next =>
      split
      · exact Tenant.WellKept.cancel t now
      · exact h

theorem applyStatus_cancelled {payload : SubscriptionStatusPayload} {t : Tenant}
    (hs : t.status = .cancelled) (now : ℤ) :
    (payload.applyStatus now t).status = .cancelled ↔
      payload.status ∉ ["active", "suspended", "past_due"] := by
  unfold SubscriptionStatusPayload.applyStatus
  simp only [List.mem_cons, List.not_mem_nil, or_false, not_or]
  split
  next h => simp [h]
  next h =>
    split
    next h' =>
      constructor
      · exact fun hc => nomatch hc
      · rintro ⟨_, h1, h2⟩
        exact (h'.elim h1 h2).elim
    next h' =>
      rw [not_or] at h'
      split
      · exact ⟨fun _ => ⟨h, h'⟩, fun _ => rfl⟩
      · exact ⟨fun _ => ⟨h, h'⟩, fun _ => hs⟩

/-! ## The law -/

structure TenantDb.Kept (db : TenantDb) : Prop where
  ids : (db.tenants.map (·.id)).Nodup
  wellKept : ∀ t ∈ db.tenants, t.WellKept

theorem tenantById_of_mem {db : TenantDb} (h : db.Kept) {t t' : Tenant} (ht : t ∈ db.tenants)
    (hfound : tenantById t.id db.tenants = some t') : t' = t :=
  nodup_keys_inj h.ids (tenantById_mem hfound).1 ht (tenantById_mem hfound).2

/-- A row that is well kept, and still cancelled if it was so in `db`. -/
structure Tenant.Succeeds (db : TenantDb) (t' : Tenant) : Prop where
  wellKept : t'.WellKept
  terminal : ∀ t ∈ db.tenants, t.status = .cancelled → t'.id = t.id → t'.status = .cancelled

theorem TenantDb.Kept.succeeds {db : TenantDb} (h : db.Kept) {t : Tenant} (ht : t ∈ db.tenants) :
    t.Succeeds db := by
  refine ⟨h.wellKept t ht, fun u hu hs hid => ?_⟩
  rw [nodup_keys_inj h.ids ht hu hid]
  exact hs

/-- The rows after a row that was found is saved. -/
theorem TenantDb.Kept.succeeds_saved {db : TenantDb} (h : db.Kept) {id : String} {t saved : Tenant}
    (found : tenantById id db.tenants = some t) (hid : saved.id = t.id) (hkept : saved.WellKept)
    (hcancelled : t.status = .cancelled → saved.status = .cancelled) :
    ∀ t' ∈ saveTenantRow saved db.tenants, t'.Succeeds db := by
  intro t' ht'
  obtain rfl | ⟨ht', _⟩ := mem_saveTenantRow ht'
  · refine ⟨hkept, fun u hu hs he => hcancelled ?_⟩
    rw [nodup_keys_inj h.ids (tenantById_mem found).1 hu (hid.symm.trans he)]
    exact hs
  · exact h.succeeds ht'

/-- What a step that revives no one does to each row. -/
theorem TenantsStep.rows {db : TenantDb} (h : db.Kept) {i : TenantInput} {after : List Tenant}
    (hstep : TenantsStep strings db.tenants i after) (hrevive : ¬ Revives db i) :
    ∀ t' ∈ after, t'.Succeeds db := by
  have hrow : ∀ {id : String} {t : Tenant}, tenantById id db.tenants = some t → t.WellKept :=
    fun found => h.wellKept _ (tenantById_mem found).1
  cases hstep with
  | same => exact fun t' ht' => h.succeeds ht'
  | created env dto userId drawn fault featureCodes new =>
    intro t' ht'
    obtain ht' | ht' := List.mem_append.mp ht'
    · exact h.succeeds ht'
    · obtain rfl := List.mem_singleton.mp ht'
      refine ⟨?_, fun t ht _ he => absurd he.symm (new t ht)⟩
      exact
        { suspended := fun hs => nomatch hs
          active := fun _ => rfl
          cancelled := ⟨(nomatch ·), (nomatch ·)⟩ }
  | updated env id dto fault t found plan =>
    exact h.succeeds_saved found rfl ((hrow found).edit rfl rfl rfl) fun hs => hs
  | planChanged env id dto fault t found code plan featureCodes =>
    exact h.succeeds_saved found rfl ((hrow found).edit rfl rfl rfl) fun hs => hs
  | suspended env id reason fault t found new living =>
    exact h.succeeds_saved found rfl ((hrow found).suspend living _) fun hs => absurd hs living
  | activated id fault t found new living =>
    exact h.succeeds_saved found rfl ((hrow found).activate living) fun hs => absurd hs living
  | archived env id fault t found living =>
    exact h.succeeds_saved found rfl (Tenant.WellKept.cancel t _) fun _ => rfl
  | synced payload fault =>
    intro t' ht'
    obtain ⟨u, hu, hid, rfl⟩ | ⟨ht', _⟩ := mem_updateKey.mp ht'
    · exact ⟨(h.wellKept u hu).edit rfl rfl rfl, (h.succeeds hu).terminal⟩
    · exact h.succeeds ht'
  | billed env payload fault t found clear =>
    obtain ⟨hid, hstatus, hsuspendedAt, hcancelledAt⟩ :=
      applyPlan_lifecycle payload (payload.applyStatus env.now t)
    have hspared : t.status = .cancelled →
        payload.status ∉ ["active", "suspended", "past_due"] := fun hs hmem =>
      hrevive ⟨hmem, clear, t, (tenantById_mem found).1, (tenantById_mem found).2, hs⟩
    refine h.succeeds_saved found (hid.trans (applyStatus_id payload env.now t)) ?_ fun hs => ?_
    · exact (applyStatus_wellKept (hrow found) hspared env.now).edit hstatus hsuspendedAt
        hcancelledAt
    · rw [hstatus]
      exact (applyStatus_cancelled hs env.now).mpr (hspared hs)

theorem keepsLifecycle_iff {db : TenantDb} (h : db.Kept) (i : TenantInput) :
    KeepsLifecycle strings db i ↔ ¬ Revives db i := by
  constructor
  · intro hkeeps hrevive
    cases i with
    | subscriptionStatus env payload fault =>
      obtain ⟨hmem, hclear, t, ht, hid, hs⟩ := hrevive
      obtain ⟨t', found, _, heq⟩ | ⟨hnot, _⟩ :=
        handleSubscriptionStatus_eq env payload fault db
      · obtain rfl := tenantById_of_mem h ht (hid ▸ found)
        obtain ⟨hpid, hpstatus, _, _⟩ :=
          applyPlan_lifecycle payload (payload.applyStatus env.now t')
        have hafter := hkeeps.terminal t' ht hs
          (payload.applyPlan (payload.applyStatus env.now t')) ?_ ?_
        · rw [hpstatus] at hafter
          exact (applyStatus_cancelled hs env.now).mp hafter hmem
        · show _ ∈ (handleSubscriptionStatus env payload fault 0 db).2.2.tenants
          rw [heq]
          refine mem_updateKey.mpr (Or.inl ⟨t', ht, ?_, rfl⟩)
          rw [hpid, applyStatus_id]
        · rw [hpid, applyStatus_id]
      · obtain hnone | hunclear := hnot
        · exact absurd (List.find?_eq_none.mp hnone t ht) (by simpa using hid)
        · exact hunclear hclear
    | _ => exact hrevive
  · intro hrevive
    have hrows := (step_tenants strings db i).rows h hrevive
    exact ⟨fun t ht hs t' ht' hid => (hrows t' ht').terminal t ht hs hid,
      fun t ht => (hrows t ht).wellKept⟩

theorem seeded_kept (plans : List Plan) (definitions : List FeatureDefinition) :
    (TenantDb.seeded plans definitions).Kept :=
  ⟨List.nodup_nil, fun _ ht => absurd ht List.not_mem_nil⟩

end Law

/-- Whatever plans and features are stored and whatever calls fail, a run keeps the lifecycle if
    and only if none of its steps revives a tenant. -/
theorem lifecycle_iff (strings : Strings) (plans : List Plan)
    (definitions : List FeatureDefinition) (inputs : List TenantInput) :
    StepsSatisfy (TenantDb.step strings) (KeepsLifecycle strings) (.seeded plans definitions)
        inputs ↔
      StepsSatisfy (TenantDb.step strings) (fun db i => ¬ Revives db i)
        (.seeded plans definitions) inputs :=
  stepsSatisfy_congr (I := TenantDb.Kept)
    (fun db i h hkeeps => ⟨(step_tenants strings db i).ids_nodup h.ids, hkeeps.wellKept⟩)
    (fun _ i h => keepsLifecycle_iff h i)
    (seeded_kept plans definitions) inputs

namespace Sample

def strings : Strings := { toLowerCase := String.toLower, slugify := String.toLower }

def env : Env := { now := 1000, channel := true, identityService := false }

def dto : CreateTenantDto :=
  { name := "Acme", adminEmail := "admin@acme.com", plan := none, phone := none, address := none,
    stripeCustomerId := none }

/-- A tenant is archived. -/
def archiving : List TenantInput :=
  [.createTenant env dto "u1" { id := "t1", suffix := "0000" } noFaults,
   .archiveTenant env "t1" noFaults]

def seed : TenantDb := .seeded [{ code := "free", includedFeatures := [] }] []

def archived : TenantDb := run (TenantDb.step strings) seed archiving

/-- Its subscription is then reported active. -/
def reviving : TenantInput :=
  .subscriptionStatus env { tenantId := "t1", status := "active", plan := none } noFaults

def archivedTenant : Tenant :=
  { id := "t1", name := "Acme", slug := "acme-0000", status := .cancelled,
    stripeCustomerId := none, currentPlan := "free",
    enabledFeatures := [], adminEmail := "admin@acme.com", phone := none, address := none,
    suspendedAt := none, cancelledAt := some 1000 }

end Sample

/-- An archived tenant is active again. -/
theorem cancelled_revived :
    ¬ StepsSatisfy (TenantDb.step Sample.strings) (KeepsLifecycle Sample.strings)
      Sample.seed (Sample.archiving ++ [Sample.reviving]) := by
  rintro ⟨_, _, hkeeps, _⟩
  have hbefore : Sample.archived.tenants = [Sample.archivedTenant] := by decide +kernel
  have hafter : (Sample.archived.step Sample.strings Sample.reviving).tenants =
      [{ Sample.archivedTenant with status := .active }] := by decide +kernel
  have hstatus := hkeeps.terminal Sample.archivedTenant (hbefore ▸ List.mem_singleton_self _) rfl
    { Sample.archivedTenant with status := .active } (hafter ▸ List.mem_singleton_self _) rfl
  cases hstatus

end SaasChassis.Tenants
