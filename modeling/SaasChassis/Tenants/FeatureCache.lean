/-
  The cached answers and the merged view of the tables, one call after the other.

  `CacheStep` lists what a call does to a tenant's feature rows and to the cache. A toggle deletes
  the one key, a plan change all keys of the tenant, an archival too; a new tenant has none, and
  what fills the cache is what the rows say. A plan change that finds no list of features, or cannot
  insert one of them, throws with the rows replaced and the keys still there.

  `agrees_step_iff`: that is the only way to break the agreement. `cache_agrees_iff` carries it
  along a run, with keys expiring or evicted at any time.
-/
import SaasChassis.Tenants.PlanSync
import SaasChassis.Tenants.Lifecycle
import SaasChassis.Lib.Text

namespace SaasChassis.Tenants

open SaasChassis.Lib Faulty

/-! ## Statement -/

/-- For every tenant, defined feature and time, `isFeatureEnabled` answers what
    `findTenantFeatures` shows. -/
def CacheAgrees (db : TenantDb) : Prop :=
  ∀ t ∈ db.tenants, ∀ featureCode,
    (definitionByCode featureCode db.featureDefinitions).isSome → ∀ env : Env,
      ∃ view feature, (findTenantFeatures t.id noFaults 0 db).1 = .ok view ∧
        view.find? (·.code = featureCode) = some feature ∧
        (isFeatureEnabled env t.id featureCode noFaults 0 db).1 = .ok feature.isEnabled

/-- A call of the service, or keys that Redis drops. -/
inductive FeatureCall where
  | call (i : TenantInput)
  | expire (keys : List String)

def TenantDb.next (strings : Strings) (db : TenantDb) : FeatureCall → TenantDb
  | .call i => db.step strings i
  | .expire keys => db.withRedis (redisDel keys)

/-- The ids are UUIDs, so without a colon; under a new one nothing is cached yet; and the two
    methods that write rows and then the cache meet no failing call. -/
def WellFormed (db : TenantDb) : FeatureCall → Prop
  | .call (.createTenant _ _ _ drawn _) =>
    ':' ∉ drawn.id.toList ∧ ∀ now featureCode, cachedOf now drawn.id featureCode db = none
  | .call (.isFeatureEnabled _ tenantId _ _) => ':' ∉ tenantId.toList
  | .call (.toggleFeature _ _ _ _ _ fault) => fault = noFaults
  | .call (.updateTenant _ _ _ fault) => fault = noFaults
  | _ => True

/-- The tenant and the code of the other plan it changes to. -/
def planChange (db : TenantDb) : FeatureCall → Option (String × String)
  | .call (.updateTenant _ id dto _) => (tenantById id db.tenants).bind fun t =>
    (dto.plan.filter (· ≠ t.currentPlan)).map (id, ·)
  | _ => none

/-- A change of plan finds a list of features and inserts all of it, or what is cached of the
    tenant is right after it as it is. -/
def SyncsOrRight (db : TenantDb) (i : FeatureCall) : Prop :=
  ∀ id code, planChange db i = some (id, code) → Syncs code db ∨
    ∀ f, (definitionByCode f db.featureDefinitions).isSome →
      ∀ now cached, cachedOf now id f db = some cached →
        (cached == "1") = (decide (f ∈ codesSynced code db) || defaultOf f db.featureDefinitions)

/-- The call does not throw. -/
def Returns (strings : Strings) (db : TenantDb) : FeatureCall → Prop
  | .call (.updateTenant env id dto fault) =>
    ∃ t, (updateTenant strings env id dto fault 0 db).1 = .ok t
  | _ => True

/-! ## What a call does to rows and cache -/

inductive CacheStep (db : TenantDb) : FeatureCall → TenantDb → Prop
  | kept {i : FeatureCall} {u : TenantDb} (keys : List String) (plan : planChange db i = none)
      (rows : u.tenantFeatures = db.tenantFeatures)
      (definitions : u.featureDefinitions = db.featureDefinitions)
      (redis : u.redis = redisDel keys db.redis) : CacheStep db i u
  | created (env : Env) (dto : CreateTenantDto) (userId : String) (drawn : Drawn)
      (fault : Faults TenantError) {u : TenantDb}
      (others : ∀ t f, t ≠ drawn.id →
        tenantFeature t f u.tenantFeatures = tenantFeature t f db.tenantFeatures)
      (unique : UniqueRows db.tenantFeatures → UniqueRows u.tenantFeatures)
      (definitions : u.featureDefinitions = db.featureDefinitions)
      (redis : u.redis = db.redis) :
      CacheStep db (.call (.createTenant env dto userId drawn fault)) u
  | toggled (env : Env) (tenantId featureCode : String) (enabled : Bool) (userId : String)
      (fault : Faults TenantError) {u : TenantDb} (saved : TenantFeature)
      (rows : SetRow tenantId featureCode saved db.tenantFeatures u.tenantFeatures)
      (definitions : u.featureDefinitions = db.featureDefinitions)
      (redis : u.redis = redisDel [cacheKey tenantId featureCode] db.redis) :
      CacheStep db (.call (.toggleFeature env tenantId featureCode enabled userId fault)) u
  | filled (env : Env) (tenantId featureCode : String) (fault : Faults TenantError) {u : TenantDb}
      (rows : u.tenantFeatures = db.tenantFeatures)
      (definitions : u.featureDefinitions = db.featureDefinitions)
      (redis : u.redis = redisSetex env.now (cacheKey tenantId featureCode) cacheTtlSeconds
        (flag (settingOf tenantId featureCode db)) db.redis) :
      CacheStep db (.call (.isFeatureEnabled env tenantId featureCode fault)) u
  | planChanged {i : FeatureCall} {u : TenantDb} (id code : String)
      (plan : planChange db i = some (id, code))
      (rows : u.tenantFeatures =
        (replaceRows id id ((codesToSync code db).getD []) db).tenantFeatures)
      (definitions : u.featureDefinitions = db.featureDefinitions)
      (redis : Syncs code db ∧ u.redis = redisDel (redisScan (cacheKeys id) db.redis) db.redis ∨
        ¬Syncs code db ∧ u.redis = db.redis) : CacheStep db i u

theorem redisDel_nil (entries : List CacheEntry) : redisDel [] entries = entries := by
  simp [redisDel]

theorem redisDel_redisDel (keys keys' : List String) (entries : List CacheEntry) :
    redisDel keys (redisDel keys' entries) = redisDel (keys ++ keys') entries := by
  unfold redisDel
  rw [List.filter_filter]
  congr 1
  funext e
  simp

/-- Rows as before, and of the cache at most keys deleted. -/
def Kept (db u : TenantDb) : Prop :=
  u.tenantFeatures = db.tenantFeatures ∧ u.featureDefinitions = db.featureDefinitions ∧
    ∃ keys, u.redis = redisDel keys db.redis

theorem Kept.refl (db : TenantDb) : Kept db db := ⟨rfl, rfl, [], (redisDel_nil _).symm⟩

theorem Kept.cacheStep {db u : TenantDb} (h : Kept db u) {i : FeatureCall}
    (hplan : planChange db i = none) : CacheStep db i u := by
  obtain ⟨hrows, hdefinitions, keys, hredis⟩ := h
  exact .kept keys hplan hrows hdefinitions hredis

section KeepsRows

variable {db : TenantDb}

theorem save_kept (f : List Tenant → List Tenant) :
    Keeps (Kept db) (write (·.withTenants f) : Method Unit) := Keeps.write fun _ h => h

theorem Kept.deleted (keys : List String) (u : TenantDb) (h : Kept db u) :
    Kept db (u.withRedis (redisDel keys)) := by
  obtain ⟨hrows, hdefinitions, keys', hredis⟩ := h
  refine ⟨hrows, hdefinitions, keys ++ keys', ?_⟩
  show redisDel keys u.redis = _
  rw [hredis, redisDel_redisDel]

theorem suspendTenant_kept (env : Env) (id : String) (reason : Option String) :
    Keeps (Kept db) (suspendTenant env id reason) :=
  suspendTenant_keeps (fun _ _ h => h) (fun _ _ h => h) env id reason

theorem activateTenant_kept (id : String) : Keeps (Kept db) (activateTenant id) :=
  activateTenant_keeps (fun _ _ h => h) id

theorem archiveTenant_kept (env : Env) (id : String) : Keeps (Kept db) (archiveTenant env id) :=
  archiveTenant_keeps (fun _ _ h => h) Kept.deleted env id

theorem handleSubscriptionStatus_kept (env : Env) (payload : SubscriptionStatusPayload) :
    Keeps (Kept db) (handleSubscriptionStatus env payload) :=
  handleSubscriptionStatus_keeps (fun _ _ h => h) env payload

/-- The rows of other tenants, the definitions and the cache are as before. -/
def KeptBut (id : String) (db u : TenantDb) : Prop :=
  (∀ t f, t ≠ id → tenantFeature t f u.tenantFeatures = tenantFeature t f db.tenantFeatures) ∧
    (UniqueRows db.tenantFeatures → UniqueRows u.tenantFeatures) ∧
    u.featureDefinitions = db.featureDefinitions ∧ u.redis = db.redis

theorem insert_keptBut {id : String} (row : TenantFeature) (u v : TenantDb)
    (hid : row.tenantId = id) (h : KeptBut id db u) (hins : insertTenantFeature row u = .ok v) :
    KeptBut id db v := by
  obtain ⟨hothers, hunique, hdefinitions, hredis⟩ := h
  obtain ⟨rfl, -, hset⟩ := setRow_inserted hins
  refine ⟨fun t f ht => ?_, fun hu => hset.unique (hunique hu), hdefinitions, hredis⟩
  rw [hset.others t f fun h => ht (h.1.trans hid), hothers t f ht]

theorem createTenant_keptBut (strings : Strings) (env : Env) (dto : CreateTenantDto)
    (userId : String) (drawn : Drawn) :
    Keeps (KeptBut drawn.id db) (createTenant strings env dto userId drawn) := by
  refine createTenant_keeps (fun _ _ h => h) (fun t u v _ h hins => ?_) insert_keptBut
    (fun _ _ h => h) strings env dto userId
  unfold insertTenant at hins
  split at hins
  · cases hins
  · cases hins
    exact h

end KeepsRows

/-! ## Each call -/

/-- A toggle throws and writes nothing, or sets the row of a tenant and deletes its key. -/
theorem toggleFeature_eq (env : Env) (tenantId featureCode : String) (enabled : Bool)
    (userId : String) (db : TenantDb) :
    let res := toggleFeature env tenantId featureCode enabled userId noFaults 0 db
    ((∃ e, res.1 = .error e) ∧ res.2.2 = db) ∨
    ∃ saved, res.1 = .ok saved ∧ saved.isEnabled = enabled ∧
      SetRow tenantId featureCode saved db.tenantFeatures res.2.2.tenantFeatures ∧
      ((tenantFeature tenantId featureCode db.tenantFeatures).isSome ∨
        (tenantById tenantId db.tenants).isSome) ∧
      res.2.2.featureDefinitions = db.featureDefinitions ∧
      res.2.2.redis = redisDel [cacheKey tenantId featureCode] db.redis := by
  intro res
  have hres : res = toggleFeature env tenantId featureCode enabled userId noFaults 0 db := rfl
  unfold toggleFeature at hres
  rw [query_bind_noFaults] at hres
  cases hdefinition : definitionByCode featureCode db.featureDefinitions with
  | none =>
    rw [hdefinition] at hres
    exact Or.inl ⟨⟨_, congrArg (·.1) hres⟩, congrArg (·.2.2) hres⟩
  | some definition =>
    simp only [hdefinition] at hres
    obtain ⟨e, k, hrun⟩ | ⟨saved, k, rows, hrun, henabled, hset, howner⟩ :=
      upsertTenantFeature_eq tenantId featureCode enabled userId 1 db
    · rw [bind_error _ hrun] at hres
      exact Or.inl ⟨⟨e, congrArg (·.1) hres⟩, congrArg (·.2.2) hres⟩
    · obtain ⟨messages, hpublish⟩ := publish_then env "tenant.feature-toggled"
        (.tenantFeatureToggled tenantId featureCode enabled env.now) (k + 1)
        ((db.withTenantFeatures fun _ => rows).withRedis (redisDel [cacheKey tenantId featureCode]))
        (pure saved : Method TenantFeature)
      rw [bind_ok _ hrun, write_bind_noFaults, hpublish] at hres
      rw [hres]
      exact Or.inr ⟨saved, rfl, henabled, hset, howner, rfl, rfl⟩

theorem toggleFeature_cache (env : Env) (tenantId featureCode : String) (enabled : Bool)
    (userId : String) (db : TenantDb) :
    CacheStep db (.call (.toggleFeature env tenantId featureCode enabled userId noFaults))
      (toggleFeature env tenantId featureCode enabled userId noFaults 0 db).2.2 := by
  obtain ⟨-, hsame⟩ | ⟨saved, -, -, hset, -, hdefinitions, hredis⟩ :=
    toggleFeature_eq env tenantId featureCode enabled userId db
  · rw [hsame]
    exact (Kept.refl db).cacheStep rfl
  · exact .toggled _ _ _ _ _ _ saved hset hdefinitions hredis

theorem updateTenant_cache (strings : Strings) (env : Env) (id : String) (dto : UpdateTenantDto)
    (db : TenantDb) :
    CacheStep db (.call (.updateTenant env id dto noFaults))
      (updateTenant strings env id dto noFaults 0 db).2.2 := by
  cases found : tenantById id db.tenants with
  | none =>
    obtain ⟨e, hrun⟩ := @findById_missing id db 0 found
    unfold updateTenant
    rw [bind_error _ hrun]
    exact (Kept.refl db).cacheStep (by rw [planChange, found]; rfl)
  | some t =>
    cases hplan : dto.plan.filter (· ≠ t.currentPlan) with
    | none =>
      unfold updateTenant
      rw [bind_ok _ (findById_found found)]
      simp only [hplan]
      rw [write_bind_noFaults]
      refine .kept [] ?_ rfl rfl (redisDel_nil _).symm
      rw [planChange, found, Option.bind_some, hplan]
      rfl
    | some code =>
      obtain ⟨-, hrows, hdefinitions, hredis⟩ :=
        @updateTenant_planChanged strings env db id t found dto code hplan
      refine .planChanged id code ?_ hrows hdefinitions ?_
      · rw [planChange, found, Option.bind_some, hplan]
        rfl
      · obtain ⟨hsync, -, hredis⟩ | ⟨hsync, -, hredis⟩ := hredis
        · exact Or.inl ⟨hsync, hredis⟩
        · exact Or.inr ⟨hsync, hredis⟩

theorem isFeatureEnabled_cache (env : Env) (tenantId featureCode : String)
    (fault : Faults TenantError) (db : TenantDb) :
    CacheStep db (.call (.isFeatureEnabled env tenantId featureCode fault))
      (isFeatureEnabled env tenantId featureCode fault 0 db).2.2 := by
  let after := CacheStep db (.call (.isFeatureEnabled env tenantId featureCode fault))
  have hsame : ∀ u, u = db → after u := fun u hu => hu ▸ (Kept.refl db).cacheStep rfl
  have hfill : ∀ enabled, settingOf tenantId featureCode db = enabled →
      Triple (· = db) (do
        write (·.withRedis (redisSetex env.now (cacheKey tenantId featureCode) cacheTtlSeconds
          (flag enabled)))
        return enabled : Method Bool) (fun _ => after) fun _ => after := by
    rintro enabled rfl
    refine Triple.bind (R := fun _ => after) (Triple.write (fun u hu => ?_) fun _ => hsame) fun _ =>
      Triple.pure fun _ h => h
    rw [hu]
    exact .filled env tenantId featureCode fault rfl rfl rfl
  refine Triple.after (I := after) (P := (· = db)) ?_ rfl fault 0
  refine Triple.query_bind (fun cached => ?_) fun _ => hsame
  cases cached with
  | some cached => exact Triple.pure fun u hu => hsame u hu.1
  | none =>
    refine Triple.query_bind (fun override => ?_) fun _ u hu => hsame u hu.1
    cases override with
    | some override =>
      intro fault n u hu
      refine hfill override.isEnabled ?_ fault n u hu.1.1
      rw [settingOf, ← hu.1.1, hu.2]
      rfl
    | none =>
      refine Triple.query_bind (fun definition => ?_) fun _ u hu => hsame u hu.1.1
      intro fault n u hu
      refine hfill _ ?_ fault n u hu.1.1.1
      rw [settingOf, defaultOf, ← hu.1.1.1, hu.1.2, hu.2]
      rfl

/-- A call does one of the things listed. -/
theorem step_cache (strings : Strings) {db : TenantDb} {i : FeatureCall} (hw : WellFormed db i) :
    CacheStep db i (db.next strings i) := by
  cases i with
  | expire keys => exact .kept keys rfl rfl rfl rfl
  | call i =>
    cases i with
    | createTenant env dto userId drawn fault =>
      obtain ⟨hothers, hunique, hdefinitions, hredis⟩ :=
        createTenant_keptBut strings env dto userId drawn fault 0 db
          ⟨fun _ _ _ => rfl, id, rfl, rfl⟩
      exact .created env dto userId drawn fault hothers hunique hdefinitions hredis
    | updateTenant env id dto fault =>
      obtain rfl : fault = noFaults := hw
      exact updateTenant_cache strings env id dto db
    | suspendTenant env id reason fault =>
      exact Kept.cacheStep (suspendTenant_kept env id reason fault 0 db (Kept.refl db)) rfl
    | activateTenant id fault =>
      exact Kept.cacheStep (activateTenant_kept id fault 0 db (Kept.refl db)) rfl
    | archiveTenant env id fault =>
      exact Kept.cacheStep (archiveTenant_kept env id fault 0 db (Kept.refl db)) rfl
    | toggleFeature env tenantId featureCode enabled userId fault =>
      obtain rfl : fault = noFaults := hw
      exact toggleFeature_cache env tenantId featureCode enabled userId db
    | isFeatureEnabled env tenantId featureCode fault =>
      exact isFeatureEnabled_cache env tenantId featureCode fault db
    | billingSynced payload fault =>
      have hkept : Keeps (Kept db) (handleBillingSynced payload) :=
        (save_kept _).tryCatch fun _ => Keeps.pure ()
      exact Kept.cacheStep (hkept fault 0 db (Kept.refl db)) rfl
    | subscriptionStatus env payload fault =>
      exact Kept.cacheStep (handleSubscriptionStatus_kept env payload fault 0 db (Kept.refl db)) rfl

/-! ## The cache after a step -/

theorem redisGet_filter (now : ℤ) (key : String) (p : String → Bool) (entries : List CacheEntry) :
    redisGet now key (entries.filter fun e => p e.key) =
      if p key then redisGet now key entries else none := by
  unfold redisGet
  rw [List.find?_filter]
  split
  next hp =>
    congr 2
    funext e
    by_cases h : e.key = key <;> simp [h, hp]
  next hp =>
    rw [Option.map_eq_none_iff]
    refine List.find?_eq_none.mpr fun e _ he => ?_
    simp only [Bool.and_eq_true, decide_eq_true_eq] at he
    exact hp (he.2.1 ▸ he.1)

theorem redisGet_del (now : ℤ) (key : String) (keys : List String) (entries : List CacheEntry) :
    redisGet now key (redisDel keys entries) =
      if key ∈ keys then none else redisGet now key entries := by
  have hfilter := redisGet_filter now key (fun k => !keys.contains k) entries
  unfold redisDel
  rw [hfilter]
  by_cases h : key ∈ keys <;> simp [h]

theorem redisGet_setex (now at_ : ℤ) (key key' value : String) (seconds : ℤ)
    (entries : List CacheEntry) {cached : String}
    (h : redisGet now key (redisSetex at_ key' seconds value entries) = some cached) :
    key = key' ∧ cached = value ∨ key ≠ key' ∧ redisGet now key entries = some cached := by
  have hrest := redisGet_filter now key (fun k => k ≠ key') entries
  unfold redisGet redisSetex at h
  rw [List.find?_cons] at h
  split at h
  next hhead =>
    simp only [Bool.and_eq_true, decide_eq_true_eq] at hhead
    exact Or.inl ⟨hhead.1.symm, (Option.some.inj h).symm⟩
  next =>
    have h' : redisGet now key (entries.filter fun e => decide (e.key ≠ key')) = some cached := h
    rw [hrest] at h'
    split at h'
    next hne => exact Or.inr ⟨of_decide_eq_true hne, h'⟩
    next => cases h'

theorem flag_eq (enabled : Bool) : (flag enabled == "1") = enabled := by
  cases enabled <;> rfl

/-- Keys of UUIDs tell the tenant and the feature apart. -/
theorem cacheKey_inj {t t' f f' : String} (ht : ':' ∉ t.toList) (ht' : ':' ∉ t'.toList)
    (h : cacheKey t f = cacheKey t' f') : t = t' ∧ f = f' := by
  have hfeature : ':' ∉ "feature".toList := by decide
  have hparts : ∀ t f : String, cacheKey t f =
      "feature" ++ String.singleton ':' ++ (t ++ String.singleton ':' ++ f) := by
    intro t f
    rw [← String.toList_inj]
    simp [cacheKey, cacheKeys, toString]
  have hsplit := splitThree_append hfeature ht f
  rw [← hparts, h, hparts, splitThree_append hfeature ht'] at hsplit
  simp only [List.cons.injEq, and_true, true_and] at hsplit
  exact ⟨hsplit.1.symm, hsplit.2.symm⟩

/-! ## The law by cached keys -/

/-- What is cached of a tenant's defined feature is what the tables say. -/
def CacheRight (db : TenantDb) : Prop :=
  ∀ id ∈ db.tenants.map (·.id), ∀ f, (definitionByCode f db.featureDefinitions).isSome →
    ∀ now cached, cachedOf now id f db = some cached → (cached == "1") = settingOf id f db

theorem view_shows {db : TenantDb} (hu : UniqueRows db.tenantFeatures) (tenantId : String)
    {f : String} (hf : (definitionByCode f db.featureDefinitions).isSome) :
    ∃ view feature, (findTenantFeatures tenantId noFaults 0 db).1 = .ok view ∧
      view.find? (·.code = f) = some feature ∧ feature.isEnabled = settingOf tenantId f db := by
  obtain ⟨definition, hdefinition⟩ := Option.isSome_iff_exists.mp hf
  have hcode : definition.code = f := by simpa using List.find?_some hdefinition
  let overrides := db.tenantFeatures.filter (·.tenantId = tenantId)
  refine ⟨_, withStatus overrides definition, rfl, ?_, ?_⟩
  · rw [List.find?_map]
    exact congrArg (Option.map _) hdefinition
  · unfold withStatus
    dsimp only
    rw [hcode, lastRow_eq hu, settingOf, defaultOf, hdefinition]
    rfl

theorem agrees_iff {db : TenantDb} (hu : UniqueRows db.tenantFeatures) :
    CacheAgrees db ↔ CacheRight db := by
  constructor
  · intro h id hid f hf now cached hcached
    obtain ⟨t, ht, rfl⟩ := List.mem_map.mp hid
    obtain ⟨view, feature, hview, hshown, hanswer⟩ := h t ht f hf ⟨now, true, true⟩
    obtain ⟨view', feature', hview', hshown', hsetting⟩ := view_shows hu t.id hf
    obtain rfl : view = view' := Except.ok.inj (hview.symm.trans hview')
    obtain rfl : feature = feature' := Option.some.inj (hshown.symm.trans hshown')
    rw [isFeatureEnabled_answer, answerOf, hcached, hsetting] at hanswer
    exact Except.ok.inj hanswer
  · intro h t ht f hf env
    obtain ⟨view, feature, hview, hshown, hsetting⟩ := view_shows hu t.id hf
    refine ⟨view, feature, hview, hshown, ?_⟩
    rw [isFeatureEnabled_answer, answerOf, hsetting]
    cases hcached : cachedOf env.now t.id f db with
    | none => rfl
    | some cached =>
      exact congrArg Except.ok (h t.id (List.mem_map_of_mem ht) f hf env.now cached hcached)

/-! ## One step -/

/-- One row for a tenant and a feature, and no colon in a tenant's id. -/
structure Named (db : TenantDb) : Prop where
  unique : UniqueRows db.tenantFeatures
  ids : ∀ id ∈ db.tenants.map (·.id), ':' ∉ id.toList

variable {strings : Strings}

/-- The ids of the tenants stay, but for a new one, under which nothing is cached. -/
theorem next_ids {db : TenantDb} {i : FeatureCall} (hw : WellFormed db i) :
    (∀ id ∈ db.tenants.map (·.id), id ∈ (db.next strings i).tenants.map (·.id)) ∧
      ∀ id ∈ (db.next strings i).tenants.map (·.id), id ∈ db.tenants.map (·.id) ∨
        ':' ∉ id.toList ∧ ∀ now f, cachedOf now id f db = none := by
  cases i with
  | expire keys => exact ⟨fun _ h => h, fun _ h => Or.inl h⟩
  | call i =>
    show _ ∧ ∀ id ∈ (db.step strings i).tenants.map (·.id), _
    obtain he | ⟨env, dto, userId, drawn, fault, rfl, -, he⟩ := (step_tenants strings db i).ids
    · exact ⟨fun id h => he ▸ h, fun id h => Or.inl (he ▸ h)⟩
    · refine ⟨fun id h => ?_, fun id h => ?_⟩
      · show id ∈ (db.step strings _).tenants.map (·.id)
        rw [he]
        exact List.mem_append_left _ h
      · rw [he] at h
        rcases List.mem_append.mp h with h | h
        · exact Or.inl h
        · rw [List.mem_singleton.mp h]
          exact Or.inr hw

theorem CacheStep.unique {db u : TenantDb} {i : FeatureCall} (h : CacheStep db i u)
    (hu : UniqueRows db.tenantFeatures) : UniqueRows u.tenantFeatures := by
  cases h with
  | kept keys plan rows => rwa [rows]
  | created env dto userId drawn fault others unique => exact unique hu
  | toggled env tenantId featureCode enabled userId fault saved rows => exact rows.unique hu
  | filled env tenantId featureCode fault rows => rwa [rows]
  | planChanged id code plan rows =>
    rw [rows]
    exact uniqueRows_replaceRows hu _

theorem Named.next {db : TenantDb} {i : FeatureCall} (h : Named db) (hw : WellFormed db i) :
    Named (db.next strings i) := by
  refine ⟨(step_cache strings hw).unique h.unique, fun id hid => ?_⟩
  rcases (next_ids hw).2 id hid with hold | hnew
  · exact h.ids id hold
  · exact hnew.1

theorem settingOf_congr {db u : TenantDb} {id f : String}
    (hrow : tenantFeature id f u.tenantFeatures = tenantFeature id f db.tenantFeatures)
    (hdefinitions : u.featureDefinitions = db.featureDefinitions) :
    settingOf id f u = settingOf id f db := by
  rw [settingOf, settingOf, hrow, hdefinitions]

/-- What an earlier state's cache holds is right where the setting is the same. -/
theorem cacheRight_of_sub {db u : TenantDb} {i : FeatureCall} (hu : db.next strings i = u)
    (hw : WellFormed db i) (hright : CacheRight db)
    (hdefinitions : u.featureDefinitions = db.featureDefinitions)
    (hsub : ∀ now id f cached, id ∈ db.tenants.map (·.id) → cachedOf now id f u = some cached →
      cachedOf now id f db = some cached ∧ settingOf id f u = settingOf id f db)
    (hnew : ∀ now id f, cachedOf now id f db = none → cachedOf now id f u = none) :
    CacheRight u := by
  intro id hid f hf now cached hcached
  subst hu
  rcases (next_ids hw).2 id hid with hold | ⟨-, hnone⟩
  · obtain ⟨hbefore, hsetting⟩ := hsub now id f cached hold hcached
    rw [hsetting]
    exact hright id hold f (hdefinitions ▸ hf) now cached hbefore
  · rw [hnew now id f (hnone now f)] at hcached
    cases hcached

theorem planChange_mem {db : TenantDb} {i : FeatureCall} {id code : String}
    (h : planChange db i = some (id, code)) : id ∈ db.tenants.map (·.id) := by
  unfold planChange at h
  split at h
  next env id' dto fault =>
    obtain ⟨t, ht, h⟩ := Option.bind_eq_some_iff.mp h
    obtain ⟨code', -, hpair⟩ := Option.map_eq_some_iff.mp h
    obtain ⟨hmem, hid⟩ := tenantById_mem ht
    cases hpair
    exact hid ▸ List.mem_map_of_mem hmem
  next => cases h

section PlanChanged

variable {db u : TenantDb} {id code : String}
  (rows : u.tenantFeatures =
    (replaceRows id id ((codesToSync code db).getD []) db).tenantFeatures)
  (definitions : u.featureDefinitions = db.featureDefinitions)

include rows definitions

theorem settingOf_planChanged (f : String) :
    settingOf id f u =
      (decide (f ∈ codesSynced code db) || defaultOf f db.featureDefinitions) := by
  refine Eq.trans ?_ (@settingOf_replaceRows id id ((codesToSync code db).getD []) db f)
  exact settingOf_congr (by rw [rows]) definitions

theorem settingOf_planChanged_other {id' : String} (hne : id' ≠ id) (f : String) :
    settingOf id' f u = settingOf id' f db := by
  refine settingOf_congr ?_ definitions
  rw [rows, tenantFeature_replaceRows_other hne]

end PlanChanged

theorem agrees_step_iff {db : TenantDb} {i : FeatureCall} (hn : Named db) (hright : CacheRight db)
    (hw : WellFormed db i) : SyncsOrRight db i ↔ CacheRight (db.next strings i) := by
  have hcase := step_cache strings hw
  have hids := (@next_ids strings db i hw).1
  generalize hu : db.next strings i = u at hcase hids ⊢
  -- all steps but a change of plan keep the agreement
  have hplain : planChange db i = none → CacheRight u → (SyncsOrRight db i ↔ CacheRight u) :=
    fun hnone h => iff_of_true (fun id code hplan => nomatch hnone ▸ hplan) h
  cases hcase with
  | kept keys plan rows definitions redis =>
    refine hplain plan (cacheRight_of_sub hu hw hright definitions ?_ ?_)
    · intro now id f cached _ hcached
      rw [cachedOf, redis, redisGet_del] at hcached
      split at hcached
      · cases hcached
      · exact ⟨hcached, settingOf_congr (by rw [rows]) definitions⟩
    · intro now id f hnone
      rw [cachedOf, redis, redisGet_del]
      split
      · rfl
      · exact hnone
  | created env dto userId drawn fault others unique definitions redis =>
    have hsame : ∀ now id f, cachedOf now id f u = cachedOf now id f db := by
      intro now id f
      rw [cachedOf, redis]
      rfl
    refine hplain rfl (cacheRight_of_sub hu hw hright definitions ?_ ?_)
    · intro now id f cached _ hcached
      rw [hsame] at hcached
      refine ⟨hcached, settingOf_congr (others id f ?_) definitions⟩
      rintro rfl
      rw [hw.2] at hcached
      cases hcached
    · exact fun now id f hnone => (hsame now id f).trans hnone
  | toggled env tenantId featureCode enabled userId fault saved rows definitions redis =>
    refine hplain rfl (cacheRight_of_sub hu hw hright definitions ?_ ?_)
    · intro now id f cached _ hcached
      rw [cachedOf, redis, redisGet_del] at hcached
      split at hcached
      · cases hcached
      next hkey =>
        refine ⟨hcached, settingOf_congr (rows.others id f ?_) definitions⟩
        rintro ⟨rfl, rfl⟩
        exact hkey (List.mem_singleton_self _)
    · intro now id f hnone
      rw [cachedOf, redis, redisGet_del]
      split
      · rfl
      · exact hnone
  | filled env tenantId featureCode fault rows definitions redis =>
    refine hplain rfl fun id hid f hf now cached hcached => ?_
    have hold : id ∈ db.tenants.map (·.id) := by
      obtain he | ⟨_, _, _, _, _, himpossible, -⟩ := (step_tenants strings db
        (.isFeatureEnabled env tenantId featureCode fault)).ids
      · subst hu
        exact he ▸ hid
      · cases himpossible
    rw [settingOf_congr (by rw [rows]) definitions]
    rw [cachedOf, redis] at hcached
    obtain ⟨hkey, rfl⟩ | ⟨-, hbefore⟩ := redisGet_setex _ _ _ _ _ _ _ hcached
    · obtain ⟨rfl, rfl⟩ := cacheKey_inj (hn.ids id hold) hw hkey
      exact flag_eq _
    · exact hright id hold f (definitions ▸ hf) now cached hbefore
  | planChanged id code plan rows definitions redis =>
    obtain ⟨hsync, redis⟩ | ⟨hsync, redis⟩ := redis
    · have hinvalidated : ∀ now f, cachedOf now id f u = none := by
        intro now f
        refine Eq.trans ?_ (cachedOf_invalidated now id f db)
        rw [cachedOf, redis]
        rfl
      have hsyncs : SyncsOrRight db i := by
        rintro id' code' hplan
        rw [plan] at hplan
        cases hplan
        exact Or.inl hsync
      refine iff_of_true hsyncs (cacheRight_of_sub hu hw hright definitions ?_ ?_)
      · intro now id' f cached _ hcached
        by_cases hne : id' = id
        · subst hne
          rw [hinvalidated] at hcached
          cases hcached
        · rw [cachedOf, redis, redisGet_del] at hcached
          split at hcached
          · cases hcached
          · exact ⟨hcached, settingOf_planChanged_other rows definitions hne f⟩
      · intro now id' f hnone
        rw [cachedOf, redis, redisGet_del]
        split
        · rfl
        · exact hnone
    · have hsame : ∀ now id' f, cachedOf now id' f u = cachedOf now id' f db := by
        intro now id' f
        rw [cachedOf, redis]
        rfl
      constructor
      · intro h
        have hcached := (h id code plan).resolve_left hsync
        intro id' hid' f hf now cached hc
        rw [hsame] at hc
        rw [definitions] at hf
        by_cases hne : id' = id
        · subst hne
          rw [settingOf_planChanged rows definitions]
          exact hcached f hf now cached hc
        · rw [settingOf_planChanged_other rows definitions hne]
          subst hu
          rcases (next_ids hw).2 id' hid' with hold | ⟨-, hnone⟩
          · exact hright id' hold f hf now cached hc
          · rw [hnone] at hc
            cases hc
      · intro h id' code' hplan
        rw [plan] at hplan
        cases hplan
        refine Or.inr fun f hf now cached hc => ?_
        rw [← settingOf_planChanged rows definitions]
        exact h id (hids id (planChange_mem plan)) f (definitions ▸ hf) now cached
          ((hsame now id f).trans hc)

/-! ## Runs -/

theorem seeded_named (plans : List Plan) (definitions : List FeatureDefinition) :
    Named (.seeded plans definitions) :=
  ⟨List.nodup_nil, fun _ h => absurd h List.not_mem_nil⟩

/-- A change of plan that does not throw inserts all features of the plan. -/
theorem syncsOrRight_of_returns {db : TenantDb} {i : FeatureCall} (hw : WellFormed db i)
    (h : Returns strings db i) : SyncsOrRight db i := by
  intro id code hplan
  unfold planChange at hplan
  split at hplan
  next env id' dto fault =>
    obtain ⟨t, found, hplan⟩ := Option.bind_eq_some_iff.mp hplan
    obtain ⟨code', hcode, hpair⟩ := Option.map_eq_some_iff.mp hplan
    cases hpair
    obtain rfl : fault = noFaults := hw
    obtain ⟨saved, hsaved⟩ := h
    obtain ⟨-, -, -, ⟨hsync, -⟩ | ⟨-, ⟨e, he⟩, -⟩⟩ :=
      @updateTenant_planChanged strings env db id t found dto code hcode
    · exact Or.inl hsync
    · rw [hsaved] at he
      cases he
  next => cases hplan

/-- In every run from stored plans and features, the cached path and the merged view agree in every
    state exactly when each change of plan finds the plan's features and inserts all of them, or
    finds nothing cached that it makes wrong. They do when no `updateTenant` throws. -/
theorem cache_agrees_iff (plans : List Plan) (definitions : List FeatureDefinition)
    {calls : List FeatureCall}
    (hw : StepsSatisfy (TenantDb.next strings) WellFormed (.seeded plans definitions) calls) :
    (StepsSatisfy (TenantDb.next strings) SyncsOrRight (.seeded plans definitions) calls ↔
      ∀ n, CacheAgrees (run (TenantDb.next strings) (.seeded plans definitions) (calls.take n))) ∧
    (StepsSatisfy (TenantDb.next strings) (Returns strings) (.seeded plans definitions) calls →
      ∀ n, CacheAgrees (run (TenantDb.next strings) (.seeded plans definitions)
        (calls.take n))) := by
  have hnamed := seeded_named plans definitions
  have hlaw : ∀ (db : TenantDb) (i : FeatureCall), Named db → CacheAgrees db → WellFormed db i →
      (SyncsOrRight db i ↔ CacheAgrees (db.next strings i)) := by
    intro db i hn hagrees hwi
    have hnext : Named (db.next strings i) := hn.next hwi
    rw [agrees_iff hnext.unique]
    exact agrees_step_iff hn ((agrees_iff hn.unique).mp hagrees) hwi
  have hiff := stepsSatisfy_iff_under (I := Named) (fun _ _ hn hwi => hn.next hwi) hlaw hnamed
    (fun t ht => absurd ht List.not_mem_nil) hw
  refine ⟨hiff, fun hreturns => hiff.mp ?_⟩
  exact StepsSatisfy.mono (I := fun _ => True) (fun _ _ _ _ => trivial)
    (fun _ _ _ h => syncsOrRight_of_returns h.1 h.2) trivial (hw.and hreturns)

namespace Sample

/-- Its second feature has no definition. -/
def growth : Plan := { code := "growth", includedFeatures := ["module.payroll", "module.sms"] }

def cacheSeed : TenantDb :=
  .seeded [{ code := "free", includedFeatures := [] }, growth]
    [{ code := "module.election", defaultEnabled := false },
      { code := "module.payroll", defaultEnabled := false }]

def creating : TenantInput :=
  .createTenant env dto "u1" { id := "t1", suffix := "0000" } noFaults

def asking : TenantInput := .isFeatureEnabled env "t1" "module.election" noFaults

/-- An election feature is switched on and asked for. -/
def electing : List FeatureCall :=
  [.call creating, .call (.toggleFeature env "t1" "module.election" true "u1" noFaults),
    .call asking]

def growing : FeatureCall := .call (.updateTenant env "t1"
  { name := none, adminEmail := none, plan := some "growth", phone := none, address := none,
    stripeCustomerId := none } noFaults)

end Sample

theorem cache_agrees_iff_sample :
    CacheAgrees (run (TenantDb.next Sample.strings) Sample.cacheSeed
      (Sample.electing.take 3)) := by
  have hid : ':' ∉ "t1".toList := by decide
  have hw : StepsSatisfy (TenantDb.next Sample.strings) WellFormed Sample.cacheSeed
      Sample.electing := ⟨⟨hid, fun _ _ => rfl⟩, rfl, hid, trivial⟩
  exact (cache_agrees_iff _ _ hw).2 ⟨trivial, trivial, trivial, trivial⟩ 3

/-- After a change to a plan with an undefined feature, the election feature is shown as off and
    answered as on. -/
theorem cache_disagrees :
    StepsSatisfy (TenantDb.next Sample.strings) WellFormed Sample.cacheSeed
      (Sample.electing ++ [Sample.growing]) ∧
    ¬ ∀ n, CacheAgrees (run (TenantDb.next Sample.strings) Sample.cacheSeed
      ((Sample.electing ++ [Sample.growing]).take n)) := by
  have hid : ':' ∉ "t1".toList := by decide
  refine ⟨⟨⟨hid, fun _ _ => rfl⟩, rfl, hid, rfl, trivial⟩, fun h => ?_⟩
  have hrows : (run (TenantDb.next Sample.strings) Sample.cacheSeed
      (Sample.electing ++ [Sample.growing])).tenantFeatures =
        [enabledRow "t1" "t1" "module.payroll"] := by decide +kernel
  have hunique : UniqueRows (run (TenantDb.next Sample.strings) Sample.cacheSeed
      (Sample.electing ++ [Sample.growing])).tenantFeatures := by
    rw [hrows]
    exact List.nodup_singleton _
  have hright := (agrees_iff hunique).mp (h 4)
  have hon := hright "t1" (by decide +kernel) "module.election" (by decide +kernel) 1000 "1"
    (by decide +kernel)
  exact absurd hon (by decide +kernel)

end SaasChassis.Tenants
