/-
  `createTenant`, whatever fails.

  Up to the commit it is `commitTenant`; what comes after (`announceTenant`) throws nothing and
  writes no table. `commitTenant_triple`: the transaction leaves everything as it was, or an active
  tenant with one row for each feature of its plan. `createTenant_allOrNothing` puts them together,
  for tables that keep their constraints (`RowsKept`), as those of every run do (`run_rowsKept`).
-/
import SaasChassis.Tenants.FailedUpdates

namespace SaasChassis.Tenants

open SaasChassis.Lib Faulty

section Provisioning

variable {strings : Strings} {env : Env} {dto : CreateTenantDto} {drawn : Drawn} {db : TenantDb}
  {base : List TenantFeature} {id userId : String} {codes : List String}

/-! ## The two parts -/

def commitTenant (strings : Strings) (dto : CreateTenantDto) (createdByUserId : String)
    (drawn : Drawn) : Method Tenant := do
  let plan ← findByCode (dto.plan.getD "free")
  let tenant := dto.provisioning strings drawn
  tryCatch (transaction (provision tenant plan.includedFeatures createdByUserId))
    (fun e =>
      if e = .queryFailed uniqueViolation then
        throw (.conflict s!"Tenant slug '{tenant.slug}' is already taken")
      else throw e)

def announceTenant (env : Env) (savedTenant : Tenant) : Method Tenant := do
  if env.identityService then tryCatch (query fun _ => ()) fun _ => return
  publish env "tenant.provisioned"
    (.tenantProvisioned savedTenant.id savedTenant.slug savedTenant.currentPlan
      savedTenant.adminEmail env.now)
  return savedTenant

theorem createTenant_eq (strings : Strings) (env : Env) (dto : CreateTenantDto) (userId : String)
    (drawn : Drawn) :
    createTenant strings env dto userId drawn =
      commitTenant strings dto userId drawn >>= announceTenant env :=
  (bind_assoc _ _ _).symm

theorem announceTenant_ok (env : Env) (t : Tenant) (fault : Faults TenantError) (n : ℕ)
    (u : TenantDb) :
    ∃ k messages, announceTenant env t fault n u = (.ok t, k, { u with messages }) := by
  have hpublish : ∀ m, ∃ k messages, (do
      publish env "tenant.provisioned"
        (.tenantProvisioned t.id t.slug t.currentPlan t.adminEmail env.now)
      return t : Method Tenant) fault m u = (.ok t, k, { u with messages }) := by
    intro m
    cases hchannel : env.channel with
    | true => exact ⟨m, _, congrArg (fun v => (Except.ok t, m, v)) (if_pos hchannel)⟩
    | false =>
      have hclosed : ¬ env.channel = true := by rw [hchannel]; exact nofun
      exact ⟨m, u.messages, congrArg (fun v => (Except.ok t, m, v)) (if_neg hclosed)⟩
  unfold announceTenant
  split
  next =>
    -- the call to the identity service is caught
    have hidentity : (tryCatch (query fun _ => ()) fun _ => return : Method Unit) fault n u =
        (.ok (), n + 1, u) := by
      cases hn : fault n with
      | none => exact tryCatch_ok _ (call_ok _ hn u)
      | some e => exact tryCatch_error _ (call_error _ hn u)
    rw [bind_ok _ hidentity]
    exact hpublish (n + 1)
  next => exact hpublish n

/-! ## Rows for the plan's features -/

/-- The rows of `base`, then one that is on for each of the codes. -/
def Enabled (base : List TenantFeature) (id userId : String) (codes : List String)
    (db : TenantDb) : Prop :=
  ∃ distinct : List String, distinct.Nodup ∧ (∀ c, c ∈ distinct ↔ c ∈ codes) ∧
    db.tenantFeatures = base ++ distinct.map (enabledRow id userId)

theorem tenantFeature_enabled (hbase : ∀ f, tenantFeature id f base = none)
    (distinct : List String) (code : String) :
    (tenantFeature id code (base ++ distinct.map (enabledRow id userId))).isSome ↔
      code ∈ distinct := by
  have hnone : base.find? (fun row => row.tenantId = id && row.featureCode = code) = none :=
    hbase code
  unfold tenantFeature
  rw [List.find?_append, hnone, Option.none_or, List.find?_isSome]
  simp [enabledRow]

/-- A code that is there twice. -/
theorem Enabled.again (hbase : ∀ f, tenantFeature id f base = none) {done : List String}
    {code : String} {u : TenantDb} {row : TenantFeature} (h : Enabled base id userId done u)
    (hfound : tenantFeature id code u.tenantFeatures = some row) :
    Enabled base id userId (done ++ [code]) u := by
  obtain ⟨distinct, hnodup, hmem, hrows⟩ := h
  have hcode : code ∈ distinct := by
    rw [← @tenantFeature_enabled base id userId hbase distinct code, ← hrows, hfound]
    rfl
  refine ⟨distinct, hnodup, fun c => ?_, hrows⟩
  rw [List.mem_append, List.mem_singleton, hmem c]
  constructor
  · exact Or.inl
  · rintro (h | rfl)
    · exact h
    · exact (hmem c).mp hcode

/-- A new one. -/
theorem Enabled.insert (hbase : ∀ f, tenantFeature id f base = none) {done : List String}
    {code : String} {u v : TenantDb} (h : Enabled base id userId done u)
    (hfound : tenantFeature id code u.tenantFeatures = none)
    (hins : insertTenantFeature (enabledRow id userId code) u = .ok v) :
    Enabled base id userId (done ++ [code]) v := by
  obtain ⟨distinct, hnodup, hmem, hrows⟩ := h
  have hcode : code ∉ distinct := by
    rw [← @tenantFeature_enabled base id userId hbase distinct code, ← hrows, hfound]
    exact nofun
  obtain ⟨rfl, -⟩ := setRow_inserted hins
  refine ⟨distinct ++ [code], ?_, fun c => ?_, ?_⟩
  · rw [← List.concat_eq_append, List.nodup_concat]
    exact ⟨hcode, hnodup⟩
  · rw [List.mem_append, List.mem_append, hmem c]
  · show u.tenantFeatures ++ [enabledRow id userId code] = _
    rw [hrows, List.append_assoc, List.map_append, List.map_singleton]

theorem enablePlanFeatures_triple (hbase : ∀ f, tenantFeature id f base = none)
    (done codes : List String) :
    Triple (Enabled base id userId done) (enablePlanFeatures id userId codes)
      (fun _ => Enabled base id userId (done ++ codes)) fun _ _ => True :=
  enablePlanFeatures_loop (fun _ _ _ _ h hfound => h.again hbase hfound)
    (fun _ _ _ _ h hnone hins => h.insert hbase hnone hins) done codes

/-! ## The transaction -/

/-- An active tenant, with the snapshot and the rows of the codes. -/
structure Stored (db : TenantDb) (tenantId userId : String) (codes : List String) (t : Tenant)
    (u : TenantDb) : Prop where
  id : t.id = tenantId
  active : t.status = .active
  snapshot : ∀ c, c ∈ t.enabledFeatures ↔ c ∈ codes
  tenants : u.tenants = db.tenants ++ [t]
  features : Enabled db.tenantFeatures tenantId userId codes u

theorem provision_stores (h : RowsKept db) (t : Tenant) (codes : List String) :
    Triple (· = db) (provision t codes userId) (fun saved u => Stored db t.id userId codes saved u)
      fun _ _ => True := by
  refine Triple.bind (R := fun _ u => (∀ row ∈ db.tenants, row.id ≠ t.id) ∧
    u.tenants = db.tenants ++ [t] ∧ u.tenantFeatures = db.tenantFeatures)
    (Triple.execute ?_ fun _ _ _ => trivial) fun _ => Triple.assume fun new => ?_
  · rintro u v rfl hins
    unfold insertTenant at hins
    split at hins
    next => cases hins
    next hany =>
      cases hins
      refine ⟨fun row hrow he => hany ?_, rfl, rfl⟩
      exact List.any_eq_true.mpr ⟨row, hrow, by simp [he]⟩
  · have hbase : ∀ f, tenantFeature t.id f db.tenantFeatures = none := by
      intro f
      refine h.owned t.id f fun hmem => ?_
      obtain ⟨row, hrow, hid⟩ := List.mem_map.mp hmem
      exact new row hrow hid
    have hfeatures : Triple (fun u => u.tenants = db.tenants ++ [t] ∧
        u.tenantFeatures = db.tenantFeatures) (enablePlanFeatures t.id userId codes)
        (fun _ u => u.tenants = db.tenants ++ [t] ∧ Enabled db.tenantFeatures t.id userId codes u)
        fun _ _ => True := by
      refine ((Triple.of_keeps (enablePlanFeatures_tenants t.id userId codes)).and
        (enablePlanFeatures_triple hbase [] codes)).conseq (fun u hu => ⟨hu.1, ?_⟩)
        (fun _ _ hu => hu) fun _ _ _ => trivial
      exact ⟨[], List.nodup_nil, fun _ => Iff.rfl, by rw [hu.2, List.map_nil, List.append_nil]⟩
    refine Triple.bind hfeatures fun _ => ?_
    refine Triple.bind (R := fun _ u => Stored db t.id userId codes
      { t with enabledFeatures := codes, status := .active } u)
      (Triple.write (fun u hu => ?_) fun _ _ _ => trivial) fun _ => Triple.pure fun u hu => hu
    refine ⟨rfl, rfl, fun _ => Iff.rfl, ?_, hu.2⟩
    show saveTenantRow _ u.tenants = _
    rw [hu.1]
    exact save_inserted rfl new

theorem findByCode_finds (code : String) (db : TenantDb) :
    Triple (· = db) (findByCode code) (fun plan u => plan = planOf code db ∧ u = db)
      fun _ u => u = db := by
  rintro fault n u rfl
  rcases (findByCode_keeps code).read (findByCode_runs code u) fault n with
    ⟨-, hrun⟩ | ⟨-, e, k, hrun⟩
  · rw [hrun]
    exact ⟨rfl, rfl⟩
  · rw [hrun]

/-- What is committed, or else nothing. -/
theorem commitTenant_triple (h : RowsKept db) :
    Triple (· = db) (commitTenant strings dto userId drawn)
      (fun t u => Stored db drawn.id userId (planOf (dto.plan.getD "free") db).includedFeatures t u)
      fun _ u => u = db := by
  refine Triple.bind (findByCode_finds _ db) fun plan => Triple.assume fun hplan => ?_
  subst hplan
  refine Triple.tryCatch ((provision_stores h _ _).transaction fun _ _ hu => hu) fun e => ?_
  split
  · exact Triple.throw fun _ hu => hu
  · exact Triple.throw fun _ hu => hu

/-- Whatever fails: nothing is stored and the call throws, or an active tenant is, with one row that
    is on for each feature of the plan found. Which of them, and what is stored, does not depend on
    what comes after the commit. -/
theorem createTenant_allOrNothing (strings : Strings) (env : Env) (dto : CreateTenantDto)
    (userId : String) (drawn : Drawn) (fault : Faults TenantError) {db : TenantDb}
    (h : RowsKept db) :
    let res := createTenant strings env dto userId drawn fault 0 db
    let committed := commitTenant strings dto userId drawn fault 0 db
    (res.1 = committed.1 ∧ res.2.2.tenants = committed.2.2.tenants ∧
      res.2.2.tenantFeatures = committed.2.2.tenantFeatures) ∧
    ((∃ e, res.1 = .error e ∧ res.2.2 = db) ∨
      ∃ t, res.1 = .ok t ∧ Stored db drawn.id userId
        (planOf (dto.plan.getD "free") db).includedFeatures t res.2.2) := by
  intro res committed
  have htriple := @commitTenant_triple strings dto drawn db userId h fault 0 db rfl
  have hres : res = (commitTenant strings dto userId drawn >>= announceTenant env) fault 0 db := by
    rw [← createTenant_eq]
  rcases hcommit : committed with ⟨e | t, n, u⟩
  · rw [show commitTenant strings dto userId drawn fault 0 db = _ from hcommit] at htriple
    rw [hres, bind_error _ hcommit]
    exact ⟨⟨rfl, rfl, rfl⟩, Or.inl ⟨e, rfl, htriple⟩⟩
  · rw [show commitTenant strings dto userId drawn fault 0 db = _ from hcommit] at htriple
    obtain ⟨k, messages, hannounce⟩ := announceTenant_ok env t fault n u
    rw [hres, bind_ok _ hcommit, hannounce]
    refine ⟨⟨rfl, rfl, rfl⟩, Or.inr ⟨t, rfl, ?_⟩⟩
    exact ⟨htriple.id, htriple.active, htriple.snapshot, htriple.tenants, htriple.features⟩

end Provisioning

/-! ## The constraints, whatever fails -/

section Constraints

variable {strings : Strings}

/-- The ids of the tenants stay, and the rows. -/
theorem RowsKept.congr {db u : TenantDb} (h : RowsKept db)
    (hids : u.tenants.map (·.id) = db.tenants.map (·.id))
    (hrows : u.tenantFeatures = db.tenantFeatures) : RowsKept u := by
  refine ⟨hrows ▸ h.unique, fun id f hid => ?_⟩
  rw [hids] at hid
  rw [hrows]
  exact h.owned id f hid

theorem RowsKept.insert {db u : TenantDb} {row : TenantFeature} (h : RowsKept db)
    (hins : insertTenantFeature row db = .ok u) : RowsKept u := by
  obtain ⟨hu, howner, hset⟩ := setRow_inserted hins
  refine ⟨hset.unique h.unique, fun id f hid => ?_⟩
  have htenants : u.tenants = db.tenants := insertTenantFeature_tenants hins
  rw [htenants] at hid
  rw [hset.others id f, h.owned id f hid]
  rintro ⟨rfl, -⟩
  obtain ⟨t, ht⟩ := Option.isSome_iff_exists.mp howner
  obtain ⟨hmem, hsame⟩ := tenantById_mem ht
  exact hid (List.mem_map.mpr ⟨t, hmem, hsame⟩)

theorem RowsKept.insertTenant {db u : TenantDb} {t : Tenant} (h : RowsKept db)
    (hins : Tenants.insertTenant t db = .ok u) : RowsKept u := by
  unfold Tenants.insertTenant at hins
  split at hins
  next => cases hins
  next =>
    cases hins
    refine ⟨h.unique, fun id f hid => h.owned id f fun hmem => hid ?_⟩
    rw [List.map_append]
    exact List.mem_append_left _ hmem

theorem RowsKept.saveFeature {db : TenantDb} (h : RowsKept db) (row : TenantFeature) :
    RowsKept (db.withTenantFeatures (saveTenantFeatureRow row)) := by
  have hkeys : (saveTenantFeatureRow row db.tenantFeatures).map rowKey =
      db.tenantFeatures.map rowKey := map_key_updateKey (fun _ _ => rfl) _
  refine ⟨?_, fun id f hid => ?_⟩
  · show ((saveTenantFeatureRow row db.tenantFeatures).map rowKey).Nodup
    rw [hkeys]
    exact h.unique
  · have hno := notMem_keys_of_none (h.owned id f hid)
    rw [← hkeys] at hno
    refine List.find?_eq_none.mpr fun r hr hfound => hno ?_
    refine List.mem_map.mpr ⟨r, hr, ?_⟩
    simpa [rowKey] using hfound

theorem RowsKept.delete {db : TenantDb} (h : RowsKept db) (tenantId : String) :
    RowsKept (db.withTenantFeatures (·.filter (·.tenantId ≠ tenantId))) := by
  refine ⟨h.unique.sublist (List.filter_sublist.map _), fun id f hid => ?_⟩
  refine List.find?_eq_none.mpr fun r hr => ?_
  exact List.find?_eq_none.mp (h.owned id f hid) r (List.mem_of_mem_filter hr)

theorem step_rowsKept {db : TenantDb} (h : RowsKept db) (i : TenantInput) :
    RowsKept (db.step strings i) := by
  have hsave : ∀ t u, RowsKept u → RowsKept (u.withTenants (saveTenantRow t)) :=
    fun t u hu => hu.congr (saveTenantRow_ids t _) rfl
  have hinsert : ∀ id row u v, row.tenantId = id → RowsKept u →
      insertTenantFeature row u = .ok v → RowsKept v := fun _ _ _ _ _ hu hins => hu.insert hins
  have hdel : ∀ keys u, RowsKept u → RowsKept (u.withRedis (redisDel keys)) :=
    fun _ _ hu => hu.congr rfl rfl
  have hmessages : ∀ messages u, RowsKept u → RowsKept { u with messages := messages } :=
    fun _ _ hu => hu.congr rfl rfl
  cases i with
  | createTenant env dto userId drawn fault =>
    exact createTenant_keeps hsave (fun _ _ _ _ hu hins => hu.insertTenant hins) (hinsert _)
      hmessages strings env dto userId fault 0 db h
  | updateTenant env id dto fault =>
    exact updateTenant_keeps hsave (hinsert id) (fun _ hu => hu.delete id) hdel hmessages
      strings env dto fault 0 db h
  | suspendTenant env id reason fault =>
    exact suspendTenant_keeps hsave hmessages env id reason fault 0 db h
  | activateTenant id fault => exact activateTenant_keeps hsave id fault 0 db h
  | archiveTenant env id fault => exact archiveTenant_keeps hsave hdel env id fault 0 db h
  | toggleFeature env tenantId featureCode enabled userId fault =>
    exact toggleFeature_keeps (hinsert tenantId) (fun row _ hu => hu.saveFeature row) hdel hmessages
      env featureCode enabled userId fault 0 db h
  | isFeatureEnabled env tenantId featureCode fault =>
    exact isFeatureEnabled_keeps (fun _ _ _ _ hu => hu.congr rfl rfl) env tenantId featureCode
      fault 0 db h
  | billingSynced payload fault =>
    refine Keeps.tryCatch (Keeps.write fun u hu => hu.congr ?_ rfl) (fun _ => Keeps.pure ())
      fault 0 db h
    refine @map_key_updateKey Tenant String _ (·.id) _ _ (fun _ hid => ?_) u.tenants
    exact hid
  | subscriptionStatus env payload fault =>
    exact handleSubscriptionStatus_keeps hsave env payload fault 0 db h

/-- From stored plans and features on, whatever is called and whatever fails. -/
theorem run_rowsKept (plans : List Plan) (definitions : List FeatureDefinition)
    (calls : List TenantInput) :
    RowsKept (run (TenantDb.step strings) (.seeded plans definitions) calls) :=
  run_invariant (I := RowsKept) (fun _ i h => step_rowsKept h i) (seeded_rowsKept plans definitions)
    calls

end Constraints

/-! ## A tenant on a plan that is not stored -/

open HalfChanged in
theorem createTenant_allOrNothing_sample :
    RowsKept db ∧
      let dto : CreateTenantDto :=
        { name := "Globex", adminEmail := "hank@example.com", plan := some "gold", phone := none,
          address := none, stripeCustomerId := none }
      let res := createTenant strings env dto acme ⟨"t2", "abcd"⟩ noFaults 0 db
      (∃ e, res.1 = .error e ∧ res.2.2 = db) ∨
        ∃ t, res.1 = .ok t ∧ Stored db "t2" acme ["module.budgeting"] t res.2.2 := by
  have howned : ∀ id f, id ∉ db.tenants.map (·.id) →
      tenantFeature id f db.tenantFeatures = none := by
    intro id f hid
    refine List.find?_eq_none.mpr fun row hrow hfound => hid ?_
    obtain rfl := List.mem_singleton.mp hrow
    obtain rfl : acme = id := of_decide_eq_true (Bool.and_eq_true_iff.mp hfound).1
    exact List.mem_singleton_self _
  have h : RowsKept db := ⟨by unfold UniqueRows; decide, howned⟩
  exact ⟨h, (createTenant_allOrNothing strings env _ acme ⟨"t2", "abcd"⟩ noFaults h).2⟩

end SaasChassis.Tenants
