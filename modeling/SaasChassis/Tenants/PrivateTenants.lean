/-
  Tenants that share the tenant manager, and what each of them sees of the others.

  A request counts for a tenant if it names it and is let through (`concerns`). What it runs works
  in the part of this tenant (`handles_local`). `private_tenant`: however the requests of all
  callers are interleaved and whatever calls fail, the part of a tenant and the answers to the
  requests that count for it are those of a service that gets no others, and they come from its own
  users, platform admins, services with the token, and billing.

  A slug is the one thing tenants compete for: a new tenant must not draw another one's
  (`OwnSlug`). Row-level security has no share in this.
-/
import SaasChassis.Lib.Noninterference
import SaasChassis.Tenants.Api
import SaasChassis.Tenants.Parts

namespace SaasChassis.Tenants

open SaasChassis.Lib Faulty

/-! ## Requests -/

section Checks

variable {config : ApiConfig}

theorem bind_eq_ok {α β : Type} {x : Except Refusal α} {f : α → Except Refusal β} {b : β}
    (h : (x >>= f) = .ok b) : ∃ a, x = .ok a ∧ f a = .ok b := by
  cases x with
  | error refusal => cases h
  | ok a => exact ⟨a, rfl, h⟩

theorem jwtAuthGuard_ok {β : Type} {user : Option JwtPayload} {f : JwtPayload → Except Refusal β}
    {b : β} (h : (jwtAuthGuard user >>= f) = .ok b) : ∃ u, user = some u ∧ f u = .ok b := by
  cases user with
  | none => cases h
  | some u => exact ⟨u, rfl, h⟩

theorem parseUuidPipe_ok {id : String} {u : Unit} (h : parseUuidPipe config id = .ok u) :
    config.isUuid id = true := by
  unfold parseUuidPipe at h
  split at h
  next hid => exact hid
  next => cases h

theorem platformAdminsOnly_ok {message : String} {user : JwtPayload} {u : Unit}
    (h : platformAdminsOnly message user = .ok u) : user.isPlatformAdmin = true := by
  unfold platformAdminsOnly at h
  split at h
  next => cases h
  next hadmin => simpa using hadmin

theorem ownTenantOnly_ok {user : JwtPayload} {id : String} {u : Unit}
    (h : ownTenantOnly user id = .ok u) :
    user.isPlatformAdmin = true ∨ user.tenantId = some id := by
  unfold ownTenantOnly at h
  split at h
  next => cases h
  next hown =>
    by_cases hadmin : user.isPlatformAdmin = true
    · exact Or.inl hadmin
    · exact Or.inr (by simpa [hadmin] using hown)

/-- The routes behind the guard with an id in the path and no validated body. -/
theorem route_ok {user : Option JwtPayload} {id : String}
    {check : JwtPayload → Except Refusal Unit} {run : JwtPayload → Method Reply}
    {method : Method Reply}
    (h : (do
      let user ← jwtAuthGuard user
      parseUuidPipe config id
      check user
      return run user) = Except.ok method) :
    ∃ u, user = some u ∧ config.isUuid id = true ∧ check u = .ok () ∧ run u = method := by
  obtain ⟨u, huser, hroute⟩ := jwtAuthGuard_ok h
  obtain ⟨_, huuid, hchecked⟩ := bind_eq_ok hroute
  obtain ⟨_, hcheck, hrun⟩ := bind_eq_ok hchecked
  exact ⟨u, huser, parseUuidPipe_ok huuid, hcheck, Except.ok.inj hrun⟩

theorem authorizeUpdate_own {user : JwtPayload} {id : String} {dto : UpdateTenantDto} {u : Unit}
    (h : (authorizeUpdate user id dto).mapError Refusal.forbidden = .ok u) :
    user.isPlatformAdmin = true ∨ user.tenantId = some id := by
  by_cases hadmin : user.isPlatformAdmin = true
  · exact Or.inl hadmin
  · refine Or.inr ?_
    cases hauth : authorizeUpdate user id dto with
    | error message =>
      rw [hauth] at h
      cases h
    | ok _ => exact ((authorizeUpdate_ok_iff (by simpa using hadmin)).mp hauth).1

end Checks

/-- The requests that reach a method, and what they run. -/
inductive Handles (config : ApiConfig) (strings : Strings) (env : Env) :
    ApiRequest → Method Reply → Prop
  | create (user : JwtPayload) (dto : CreateTenantDto) (drawn : Drawn)
      (admin : user.isPlatformAdmin = true) :
      Handles config strings env (.create (some user) dto drawn)
        (do return .tenant 201 (← createTenant strings env dto user.sub drawn))
  | findOne (user : JwtPayload) (id : String) (uuid : config.isUuid id = true)
      (own : user.isPlatformAdmin = true ∨ user.tenantId = some id) :
      Handles config strings env (.findOne (some user) id) (do return .tenant 200 (← findById id))
  | update (user : JwtPayload) (id : String) (dto : UpdateTenantDto)
      (uuid : config.isUuid id = true)
      (own : user.isPlatformAdmin = true ∨ user.tenantId = some id) :
      Handles config strings env (.update (some user) id dto)
        (do return .tenant 200 (← updateTenant strings env id dto))
  | suspend (user : JwtPayload) (id : String) (reason : Option String)
      (uuid : config.isUuid id = true) (admin : user.isPlatformAdmin = true) :
      Handles config strings env (.suspend (some user) id reason)
        (do return .tenant 200 (← suspendTenant env id reason))
  | activate (user : JwtPayload) (id : String) (uuid : config.isUuid id = true)
      (admin : user.isPlatformAdmin = true) :
      Handles config strings env (.activate (some user) id)
        (do return .tenant 200 (← activateTenant id))
  | remove (user : JwtPayload) (id : String) (uuid : config.isUuid id = true)
      (admin : user.isPlatformAdmin = true) :
      Handles config strings env (.remove (some user) id) (do
        archiveTenant env id
        return .noContent)
  | findTenantFeatures (user : JwtPayload) (tenantId : String)
      (uuid : config.isUuid tenantId = true)
      (own : user.isPlatformAdmin = true ∨ user.tenantId = some tenantId) :
      Handles config strings env (.findTenantFeatures (some user) tenantId)
        (do return .features (← findTenantFeatures tenantId))
  | toggleFeature (user : JwtPayload) (tenantId featureCode : String) (enabled : Bool)
      (uuid : config.isUuid tenantId = true) (admin : user.isPlatformAdmin = true) :
      Handles config strings env (.toggleFeature (some user) tenantId featureCode enabled)
        (do return .feature (← toggleFeature env tenantId featureCode enabled user.sub))
  /-- Its guard and its pipe are part of the method. -/
  | checkFeature (headers : List (String × String)) (tenantId featureCode : String) :
      Handles config strings env (.checkFeature headers tenantId featureCode) (do
        let response ← checkFeature config.toHttpConfig env headers tenantId featureCode
        return .response response)
  | billingSynced (payload : BillingSyncedPayload) :
      Handles config strings env (.billingSynced payload) (do
        handleBillingSynced payload
        return .acknowledged)
  | subscriptionStatus (payload : SubscriptionStatusPayload) :
      Handles config strings env (.subscriptionStatus payload) (do
        handleSubscriptionStatus env payload
        return .acknowledged)

section Requests

variable {config : ApiConfig} {strings : Strings} {env : Env}

theorem handles_of {request : ApiRequest} {method : Method Reply}
    (h : request.handler config strings env = .ok method) :
    Handles config strings env request method := by
  cases request with
  | create user dto drawn =>
    obtain ⟨u, rfl, hroute⟩ := jwtAuthGuard_ok h
    obtain ⟨_, -, hchecked⟩ := bind_eq_ok hroute
    obtain ⟨_, hadmin, hrun⟩ := bind_eq_ok hchecked
    cases hrun
    exact .create u dto drawn (platformAdminsOnly_ok hadmin)
  | findOne user id =>
    obtain ⟨u, rfl, huuid, hown, rfl⟩ := route_ok h
    exact .findOne u id huuid (ownTenantOnly_ok hown)
  | update user id dto =>
    obtain ⟨u, rfl, hroute⟩ := jwtAuthGuard_ok h
    obtain ⟨_, huuid, hpiped⟩ := bind_eq_ok hroute
    obtain ⟨_, -, hchecked⟩ := bind_eq_ok hpiped
    obtain ⟨_, hauth, hrun⟩ := bind_eq_ok hchecked
    cases hrun
    exact .update u id dto (parseUuidPipe_ok huuid) (authorizeUpdate_own hauth)
  | suspend user id reason =>
    obtain ⟨u, rfl, huuid, hadmin, rfl⟩ := route_ok h
    exact .suspend u id reason huuid (platformAdminsOnly_ok hadmin)
  | activate user id =>
    obtain ⟨u, rfl, huuid, hadmin, rfl⟩ := route_ok h
    exact .activate u id huuid (platformAdminsOnly_ok hadmin)
  | remove user id =>
    obtain ⟨u, rfl, huuid, hadmin, rfl⟩ := route_ok h
    exact .remove u id huuid (platformAdminsOnly_ok hadmin)
  | findTenantFeatures user tenantId =>
    obtain ⟨u, rfl, huuid, hown, rfl⟩ := route_ok h
    exact .findTenantFeatures u tenantId huuid (ownTenantOnly_ok hown)
  | toggleFeature user tenantId featureCode enabled =>
    obtain ⟨u, rfl, huuid, hadmin, rfl⟩ := route_ok h
    exact .toggleFeature u tenantId featureCode enabled huuid (platformAdminsOnly_ok hadmin)
  | checkFeature headers tenantId featureCode =>
    cases h
    exact .checkFeature headers tenantId featureCode
  | billingSynced payload =>
    cases h
    exact .billingSynced payload
  | subscriptionStatus payload =>
    cases h
    exact .subscriptionStatus payload

/-- The slug that a new tenant draws is none of the `rest`. -/
def SlugFree (strings : Strings) (rest : TenantDb) : ApiRequest → Prop
  | .create _ dto drawn => ∀ row ∈ rest.tenants, row.slug ≠ (dto.provisioning strings drawn).slug
  | _ => True

theorem checkFeature_local {P : TenantDb → Prop} (config : HttpConfig)
    (headers : List (String × String)) (tenantId featureCode : String) :
    LocalTo tenantId P (checkFeature config env headers tenantId featureCode) := by
  unfold checkFeature
  split
  · exact Local.pure _
  · split
    · exact Local.tryCatch ((isFeatureEnabled_local env featureCode).andThen fun _ => Local.pure _)
        fun _ => Local.pure _
    · exact Local.pure _

/-- A method works in the part of the tenant its request is about. -/
theorem handles_local {request : ApiRequest} {method : Method Reply}
    (h : Handles config strings env request method) :
    LocalTo request.tenantId (fun rest => SlugFree strings rest request) method := by
  cases h with
  | create user dto drawn admin =>
    exact (createTenant_local strings env dto user.sub rfl fun _ h => h).andThen fun _ =>
      Local.pure _
  | findOne user id => exact findById_local.andThen fun _ => Local.pure _
  | update user id dto =>
    exact (updateTenant_local strings env dto).andThen fun _ => Local.pure _
  | suspend user id reason => exact (suspendTenant_local env reason).andThen fun _ => Local.pure _
  | activate user id => exact activateTenant_local.andThen fun _ => Local.pure _
  | remove user id => exact (archiveTenant_local env).andThen fun _ => Local.pure _
  | findTenantFeatures user tenantId =>
    exact findTenantFeatures_local.andThen fun _ => Local.pure _
  | toggleFeature user tenantId featureCode enabled =>
    exact (toggleFeature_local env featureCode enabled user.sub).andThen fun _ => Local.pure _
  | checkFeature headers tenantId featureCode =>
    exact (checkFeature_local _ headers tenantId featureCode).andThen fun _ => Local.pure _
  | billingSynced payload => exact (handleBillingSynced_local rfl).andThen fun _ => Local.pure _
  | subscriptionStatus payload =>
    exact (handleSubscriptionStatus_local env rfl).andThen fun _ => Local.pure _

/-! ## Keys of the cache -/

theorem exists_cacheKey {t : String} {e : CacheEntry} (h : cachedFor t e = true) :
    ∃ featureCode, e.key = cacheKey t featureCode := by
  obtain ⟨s, hs⟩ := List.isPrefixOf_iff_prefix.mp h
  refine ⟨String.ofList s, String.toList_inj.mp ?_⟩
  rw [cacheKey, String.toList_append, String.toList_ofList, hs]

theorem cachedFor_inj {t k : String} (ht : ':' ∉ t.toList) (hk : ':' ∉ k.toList) {e : CacheEntry}
    (h : cachedFor t e = true) (h' : cachedFor k e = true) : t = k := by
  obtain ⟨f, hf⟩ := exists_cacheKey h
  obtain ⟨f', hf'⟩ := exists_cacheKey h'
  exact (cacheKey_inj ht hk (hf.symm.trans hf')).1

/-- Without a UUID in the path no method gets to the cache. -/
theorem handles_redis {request : ApiRequest} {method : Method Reply}
    (h : Handles config strings env request method) (db : TenantDb) :
    config.isUuid request.tenantId = true ∨ Keeps (fun u => u.redis = db.redis) method := by
  cases h with
  | create user dto drawn admin =>
    refine Or.inr (Keeps.bind ?_ fun _ => Keeps.pure _)
    refine createTenant_keeps (fun _ _ h => h) (fun _ _ u _ h hins => ?_)
      (fun row _ u _ h hins => ?_) (fun _ _ h => h) strings env dto user.sub
    · unfold insertTenant at hins
      split at hins
      · cases hins
      · cases hins
        exact h
    · rw [insertTenantFeature_cases hins]
      exact h
  | findOne user id uuid => exact Or.inl uuid
  | update user id dto uuid => exact Or.inl uuid
  | suspend user id reason uuid => exact Or.inl uuid
  | activate user id uuid => exact Or.inl uuid
  | remove user id uuid => exact Or.inl uuid
  | findTenantFeatures user tenantId uuid => exact Or.inl uuid
  | toggleFeature user tenantId featureCode enabled uuid => exact Or.inl uuid
  | checkFeature headers tenantId featureCode =>
    by_cases huuid : config.isUuid tenantId = true
    · exact Or.inl huuid
    · refine Or.inr (Keeps.bind ?_ fun _ => Keeps.pure _)
      unfold checkFeature
      split
      · exact Keeps.pure _
      · rw [if_neg huuid]
        exact Keeps.pure _
  | billingSynced payload =>
    refine Or.inr (Keeps.bind ?_ fun _ => Keeps.pure _)
    exact Keeps.tryCatch (Keeps.write fun _ h => h) fun _ => Keeps.pure ()
  | subscriptionStatus payload =>
    refine Or.inr (Keeps.bind ?_ fun _ => Keeps.pure _)
    exact handleSubscriptionStatus_keeps (fun _ _ h => h) env payload

theorem filter_of_filter {ρ : Type} {p q : ρ → Bool} (h : ∀ r, q r = true → p r = true)
    {rows rows' : List ρ} (he : rows.filter p = rows'.filter p) :
    rows.filter q = rows'.filter q := by
  have hboth (l : List ρ) : l.filter q = (l.filter p).filter q := by
    rw [List.filter_filter]
    refine List.filter_congr fun r _ => ?_
    by_cases hq : q r = true
    · simp [hq, h r hq]
    · simp [hq]
  rw [hboth rows, hboth rows', he]

/-- What is of one tenant is outside every other one. -/
theorem part_of_outside {t k : String} {db u : TenantDb} (ht : ':' ∉ t.toList) (hne : k ≠ t)
    (hout : outside k u = outside k db) (hredis : ':' ∉ k.toList ∨ u.redis = db.redis) :
    part t u = part t db := by
  have hplans : u.plans = db.plans := (congrArg TenantDb.plans hout :)
  have hdefinitions : u.featureDefinitions = db.featureDefinitions :=
    (congrArg TenantDb.featureDefinitions hout :)
  have htenants : u.tenants.filter (·.id = t) = db.tenants.filter (·.id = t) := by
    refine filter_of_filter (fun row hrow => ?_) (congrArg TenantDb.tenants hout)
    exact decide_eq_true fun he => hne (he.symm.trans (of_decide_eq_true hrow))
  have hfeatures : u.tenantFeatures.filter (·.tenantId = t) =
      db.tenantFeatures.filter (·.tenantId = t) := by
    refine filter_of_filter (fun row hrow => ?_) (congrArg TenantDb.tenantFeatures hout)
    exact decide_eq_true fun he => hne (he.symm.trans (of_decide_eq_true hrow))
  have hmessages : u.messages.filter (·.body.tenantId = t) =
      db.messages.filter (·.body.tenantId = t) := by
    refine filter_of_filter (fun m hm => ?_) (congrArg TenantDb.messages hout)
    exact decide_eq_true fun he => hne (he.symm.trans (of_decide_eq_true hm))
  have hcache : u.redis.filter (cachedFor t) = db.redis.filter (cachedFor t) := by
    rcases hredis with hk | hsame
    · refine filter_of_filter (fun e he => ?_) (congrArg TenantDb.redis hout)
      simp only [Bool.not_eq_true']
      exact Bool.eq_false_iff.mpr fun he' => hne (cachedFor_inj hk ht he' he)
    · rw [hsame]
  simp only [part, hplans, hdefinitions, htenants, hfeatures, hmessages, hcache]

end Requests

/-! ## Runs -/

/-- Who may send a request that counts. -/
def ApiRequest.Trusted (config : ApiConfig) : ApiRequest → Prop
  | .findOne user id | .update user id _ | .findTenantFeatures user id =>
    ∃ u, user = some u ∧ (u.isPlatformAdmin = true ∨ u.tenantId = some id)
  | .create user _ _ | .suspend user _ _ | .activate user _ | .remove user _
  | .toggleFeature user _ _ _ => ∃ u, user = some u ∧ u.isPlatformAdmin = true
  | .checkFeature headers _ _ => ∃ token, token ≠ "" ∧
    header "X-Service-Token" headers = some token ∧ config.internalServiceToken = some token
  -- from the broker
  | .billingSynced _ | .subscriptionStatus _ => True

/-- The request is about the tenant and is let through. -/
def ApiInput.concerns (config : ApiConfig) (strings : Strings) (t : String) (i : ApiInput) : Bool :=
  i.request.tenantId = t && i.request.admitted config strings i.env

/-- If it creates the tenant, its slug is no other tenant's. -/
def OwnSlug (strings : Strings) (t : String) (db : TenantDb) (i : ApiInput) : Prop :=
  i.request.tenantId = t → SlugFree strings (outside t db) i.request

instance (strings : Strings) (rest : TenantDb) :
    (request : ApiRequest) → Decidable (SlugFree strings rest request)
  | .create _ dto drawn => inferInstanceAs
      (Decidable (∀ row ∈ rest.tenants, row.slug ≠ (dto.provisioning strings drawn).slug))
  | .findOne .. | .update .. | .suspend .. | .activate .. | .remove .. | .findTenantFeatures ..
  | .toggleFeature .. | .checkFeature .. | .billingSynced .. | .subscriptionStatus .. =>
    .isTrue trivial

instance (strings : Strings) (t : String) (db : TenantDb) (i : ApiInput) :
    Decidable (OwnSlug strings t db i) :=
  inferInstanceAs (Decidable (_ → _))

section Runs

variable {config : ApiConfig} {strings : Strings} {t : String}

theorem internalServiceGuard_ok {expected token : Option String}
    (h : (internalServiceGuard expected token).isOk = true) :
    ∃ secret, secret ≠ "" ∧ token = some secret ∧ expected = some secret := by
  unfold internalServiceGuard at h
  cases hgiven : token.filter (· ≠ "") with
  | none =>
    rw [hgiven] at h
    cases h
  | some given =>
    cases hsecret : expected.filter (· ≠ "") with
    | none =>
      rw [hgiven, hsecret] at h
      cases h
    | some secret =>
      rw [hgiven, hsecret] at h
      dsimp only at h
      split at h
      next => cases h
      next hsame =>
        obtain ⟨htoken, hne⟩ := Option.filter_eq_some_iff.mp hgiven
        obtain ⟨hexpected, -⟩ := Option.filter_eq_some_iff.mp hsecret
        obtain rfl : given = secret := not_not.mp hsame
        exact ⟨given, of_decide_eq_true hne, htoken, hexpected⟩

theorem admitted_handler {request : ApiRequest} {env : Env}
    (h : request.admitted config strings env = true) :
    ∃ method, request.handler config strings env = .ok method := by
  cases hhandler : request.handler config strings env with
  | ok method => exact ⟨method, rfl⟩
  | error refusal =>
    cases request with
    | checkFeature headers tenantId featureCode => cases hhandler
    | _ => simp [ApiRequest.admitted, hhandler, Except.isOk, Except.toBool] at h

theorem trusted_of_concerns {i : ApiInput} (h : i.concerns config strings t = true) :
    i.request.Trusted config := by
  simp only [ApiInput.concerns, Bool.and_eq_true] at h
  obtain ⟨-, hadmitted⟩ := h
  obtain ⟨env, fault, request⟩ := i
  obtain ⟨method, hhandler⟩ := admitted_handler hadmitted
  cases handles_of hhandler with
  | create user dto drawn admin => exact ⟨user, rfl, admin⟩
  | findOne user id uuid own => exact ⟨user, rfl, own⟩
  | update user id dto uuid own => exact ⟨user, rfl, own⟩
  | suspend user id reason uuid admin => exact ⟨user, rfl, admin⟩
  | activate user id uuid admin => exact ⟨user, rfl, admin⟩
  | remove user id uuid admin => exact ⟨user, rfl, admin⟩
  | findTenantFeatures user tenantId uuid own => exact ⟨user, rfl, own⟩
  | toggleFeature user tenantId featureCode enabled uuid admin => exact ⟨user, rfl, admin⟩
  | checkFeature headers tenantId featureCode =>
    exact internalServiceGuard_ok (Bool.and_eq_true _ _ ▸ hadmitted).1
  | billingSynced payload => trivial
  | subscriptionStatus payload => trivial

/-- Of all methods only the check refuses requests by itself. -/
theorem unchanged_of_not_admitted {i : ApiInput} {method : Method Reply}
    (h : i.request.handler config strings i.env = .ok method)
    (hadmitted : i.request.admitted config strings i.env = false) (fault : Faults TenantError)
    (db : TenantDb) : (method fault 0 db).2.2 = db := by
  obtain ⟨env, fault', request⟩ := i
  cases request with
  | checkFeature headers tenantId featureCode =>
    cases h
    have hkeeps : Keeps (fun u => u = db)
        (checkFeature config.toHttpConfig env headers tenantId featureCode) := by
      unfold checkFeature
      split
      · exact Keeps.pure _
      next hguard =>
        simp only [ApiRequest.admitted, hguard, Except.isOk, Except.toBool, Bool.true_and]
          at hadmitted
        rw [if_neg (by simp [hadmitted])]
        exact Keeps.pure _
    exact (hkeeps.bind fun _ => Keeps.pure _) fault 0 db rfl
  | _ => simp [ApiRequest.admitted, h, Except.isOk, Except.toBool] at hadmitted

/-- The service for all tenants, seen by one of them. -/
theorem serve_unwinds (huuid : ∀ id, config.isUuid id = true → ':' ∉ id.toList)
    (ht : ':' ∉ t.toList) :
    Unwinds (serve config strings) (ApiInput.concerns config strings t) (part t) (fun _ => True)
      (OwnSlug strings t) where
  keeps := fun _ _ _ _ => trivial
  others := by
    intro db i _ _ hothers
    cases hhandler : i.request.handler config strings i.env with
    | error refusal => rw [serve_error config strings db hhandler]
    | ok method =>
      rw [serve_ok config strings db hhandler]
      have hhandles := handles_of hhandler
      by_cases hid : i.request.tenantId = t
      · have hadmitted : i.request.admitted config strings i.env = false := by
          simpa [ApiInput.concerns, hid] using hothers
        rw [unchanged_of_not_admitted hhandler hadmitted]
      · refine part_of_outside ht hid (handles_local hhandles i.fault 0 db).1 ?_
        rcases handles_redis hhandles db with hk | hkeeps
        · exact Or.inl (huuid _ hk)
        · exact Or.inr (hkeeps i.fault 0 db rfl)
  own := by
    intro db i _ hslug hmine
    have hid : i.request.tenantId = t := by
      simp only [ApiInput.concerns, Bool.and_eq_true, decide_eq_true_eq] at hmine
      exact hmine.1
    cases hhandler : i.request.handler config strings i.env with
    | error refusal =>
      rw [serve_error config strings _ hhandler, serve_error config strings _ hhandler]
    | ok method =>
      have hlocal := handles_local (handles_of hhandler) i.fault 0 db
      rw [hid] at hlocal
      rw [serve_ok config strings _ hhandler, serve_ok config strings _ hhandler,
        hlocal.2 (hslug hid)]
      rfl

end Runs

/-- What a tenant has of the run of a shared service. -/
structure PrivateTenant (config : ApiConfig) (strings : Strings) (t : String) (db : TenantDb)
    (is : List ApiInput) : Prop where
  /-- Its part is what the requests that count for it make of it. -/
  own : part t (run (afterInput (serve config strings)) db is) =
    run (afterInput (serve config strings)) (part t db) (is.filter (·.concerns config strings t))
  /-- They get the answers that they would get without the others. -/
  answers : (answerLog (serve config strings) db is).filter (·.1.concerns config strings t) =
    answerLog (serve config strings) (part t db) (is.filter (·.concerns config strings t))
  trusted : ∀ i ∈ is, i.concerns config strings t = true → i.request.Trusted config

/-- From any tables on, whatever requests come from whomever, in whatever order. -/
theorem private_tenant (config : ApiConfig) (strings : Strings)
    (huuid : ∀ id, config.isUuid id = true → ':' ∉ id.toList) {t : String} (ht : ':' ∉ t.toList)
    (db : TenantDb) (is : List ApiInput)
    (hslug : StepsSatisfy (afterInput (serve config strings)) (OwnSlug strings t) db is) :
    PrivateTenant config strings t db is :=
  ⟨(serve_unwinds huuid ht).run trivial hslug, (serve_unwinds huuid ht).answerLog trivial hslug,
    fun _ _ h => trusted_of_concerns h⟩

namespace Sample

def apiConfig : ApiConfig :=
  { internalServiceToken := some "secret"
    isUuid := fun id => !id.toList.contains ':'
    isEmail := fun _ => true }

def admin : JwtPayload := { sub := "u1", tenantId := none, isPlatformAdmin := true }

def user (t : String) : JwtPayload := { sub := "u2", tenantId := some t, isPlatformAdmin := false }

/-- Two tenants, one of whose users tries to change the other. -/
def twoTenants : List ApiInput :=
  [.create (some admin) dto ⟨"t1", "0000"⟩, .create (some admin) dto ⟨"t2", "1111"⟩,
   .suspend (some admin) "t2" none, .findOne (some (user "t1")) "t1",
   .update (some (user "t2")) "t1" ⟨some "Emca", none, none, none, none, none⟩,
   .checkFeature [("x-service-token", "secret")] "t1" "f", .remove none "t1",
   .subscriptionStatus ⟨"t2", "cancelled", none⟩].map fun request => ⟨env, noFaults, request⟩

end Sample

theorem private_tenant_sample :
    PrivateTenant Sample.apiConfig Sample.strings "t1" Sample.seed Sample.twoTenants :=
  private_tenant Sample.apiConfig Sample.strings
    (fun id h => by simpa [Sample.apiConfig] using h) (by decide) Sample.seed Sample.twoTenants
    (by decide +kernel)

end SaasChassis.Tenants
