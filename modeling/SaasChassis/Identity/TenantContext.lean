/-
  Which tenant does a refreshed token name?

  The server keeps no tenant with a refresh token. A login takes the first active membership of the
  user, in the order the repository returns them; `switchTenant` names another tenant in one access
  token, and the next refresh takes the first active membership again.

  A session is a refresh token with the tenant of its latest access token. `homeTenant_iff` says
  when the order does not matter, `keepsTenant_iff` when a refresh keeps the tenant whatever the
  order, and `refresh_keeps_tenant_iff` the same of runs.
-/
import SaasChassis.Identity.RefreshTokens

namespace SaasChassis.Identity

open SaasChassis.Lib

/-! ## Orders -/

/-- The same request, its rows scanned in another order. -/
def Env.reorder (env : Env) (scan : List Membership → List Membership)
    (scan_perm : ∀ rows, (scan rows).Perm rows) : Env :=
  { env with
    scan := scan
    scan_perm := scan_perm }

theorem Env.reorder_sees (env : Env) (scan : List Membership → List Membership)
    (scan_perm : ∀ rows, (scan rows).Perm rows) : (env.reorder scan scan_perm).sees = env.sees :=
  rfl

/-- A membership that a login may take. -/
structure ActiveMember (env : Env) (db : IdentityDb) (userId : String) (m : Membership) :
    Prop where
  mem : m ∈ visible env db
  user : m.userId = userId
  active : m.status = .active

/-- The tenant of all of these; none if there are none. -/
structure HomeTenant (env : Env) (db : IdentityDb) (userId : String) (tenantId : Option String) :
    Prop where
  named : ∀ m, ActiveMember env db userId m → tenantId = some m.tenantId
  unnamed : (∀ m, ¬ ActiveMember env db userId m) → tenantId = none

theorem ActiveMember.congr {env env' : Env} {db db' : IdentityDb} (sees : env'.sees = env.sees)
    (memberships : db'.memberships = db.memberships) {userId : String} {m : Membership}
    (h : ActiveMember env db userId m) : ActiveMember env' db' userId m := by
  refine ⟨?_, h.user, h.active⟩
  rw [mem_visible, sees, memberships]
  exact mem_visible.mp h.mem

theorem HomeTenant.congr {env env' : Env} {db db' : IdentityDb} (sees : env'.sees = env.sees)
    (memberships : db'.memberships = db.memberships) {userId : String} {tenantId : Option String}
    (h : HomeTenant env db userId tenantId) : HomeTenant env' db' userId tenantId := by
  refine ⟨fun m hm => h.named m (hm.congr sees.symm memberships.symm), fun hnone => ?_⟩
  exact h.unnamed fun m hm => hnone m (hm.congr sees memberships)

theorem primaryMembership_active {env : Env} {db : IdentityDb} {userId : String} {m : Membership}
    (h : AuthService.primaryMembership env db userId = some m) : ActiveMember env db userId m := by
  obtain ⟨hmem, huser, hactive⟩ := AuthService.primaryMembership_some h
  exact ⟨hmem, huser, hactive⟩

theorem primaryMembership_none {env : Env} {db : IdentityDb} {userId : String}
    (h : AuthService.primaryMembership env db userId = none) (m : Membership) :
    ¬ ActiveMember env db userId m := by
  intro hm
  have hne := List.find?_eq_none.mp h m (mem_findByUserId.mpr ⟨hm.mem, hm.user⟩)
  exact hne (by simpa using hm.active)

theorem HomeTenant.primaryMembership {env : Env} {db : IdentityDb} {userId : String}
    {tenantId : Option String} (h : HomeTenant env db userId tenantId) :
    (AuthService.primaryMembership env db userId).map (·.tenantId) = tenantId := by
  cases hp : AuthService.primaryMembership env db userId with
  | none => exact (h.unnamed (primaryMembership_none hp)).symm
  | some m => exact (h.named m (primaryMembership_active hp)).symm

/-- An order that begins with `m`. -/
def moveToFront (m : Membership) (rows : List Membership) : List Membership :=
  if m ∈ rows then m :: rows.erase m else rows

theorem moveToFront_perm (m : Membership) (rows : List Membership) :
    (moveToFront m rows).Perm rows := by
  unfold moveToFront
  split
  next h => exact (List.perm_cons_erase h).symm
  next => exact .rfl

theorem ActiveMember.primaryMembership {env : Env} {db : IdentityDb} {userId : String}
    {m : Membership} (h : ActiveMember env db userId m) :
    AuthService.primaryMembership (env.reorder (moveToFront m) (moveToFront_perm m)) db userId =
      some m := by
  have hmem : m ∈ db.memberships.filter fun m => env.sees m.tenantId :=
    List.mem_filter.mpr (mem_visible.mp h.mem)
  have hfirst : visible (env.reorder (moveToFront m) (moveToFront_perm m)) db =
      m :: (db.memberships.filter fun m => env.sees m.tenantId).erase m := if_pos hmem
  unfold AuthService.primaryMembership findByUserId
  rw [hfirst, List.filter_cons_of_pos (by simpa using h.user)]
  exact List.find?_cons_of_pos (by simpa using h.active)

/-- Every order leads to the tenant if and only if all active memberships are in it. -/
theorem homeTenant_iff {env : Env} {db : IdentityDb} {userId : String} {tenantId : Option String} :
    HomeTenant env db userId tenantId ↔ ∀ scan scan_perm,
      (AuthService.primaryMembership (env.reorder scan scan_perm) db userId).map (·.tenantId) =
        tenantId := by
  constructor
  · intro h scan scan_perm
    exact (h.congr (env.reorder_sees scan scan_perm) rfl).primaryMembership
  · intro h
    refine ⟨fun m hm => ?_, fun hnone => ?_⟩
    · rw [← h _ (moveToFront_perm m), hm.primaryMembership]
      rfl
    · have hown := h env.scan env.scan_perm
      cases hp : AuthService.primaryMembership env db userId with
      | none => exact (hown.symm.trans (congrArg _ hp)).trans rfl
      | some m => exact absurd (primaryMembership_active hp) (hnone m)

/-! ## A refresh -/

theorem refreshAccessToken_tenant {svc : Service} {env : Env} {value : String} {db : IdentityDb}
    {res : AccessTokenResponse} {t : RefreshToken} (ht : tokenRow svc value db = some t)
    (h : AuthService.refreshAccessToken svc env value db = .ok res) :
    res.accessToken.tenantId =
      (AuthService.primaryMembership env db t.userId).map (·.tenantId) := by
  unfold tokenRow at ht
  unfold AuthService.refreshAccessToken at h
  dsimp only at h
  split_ifs at h
  rw [ht] at h
  dsimp only at h
  split_ifs at h
  split at h
  next => cases h
  next user huser =>
    split_ifs at h
    have hid : user.id = t.userId := by simpa using List.find?_some huser
    rw [← Except.ok.inj h, ← hid]
    rfl

/-- Whether a refresh succeeds is no matter of order. -/
theorem refreshAccessToken_reorder {svc : Service} {value : String} {db : IdentityDb}
    (hs : db.Schema) (env : Env) (scan : List Membership → List Membership)
    (scan_perm : ∀ rows, (scan rows).Perm rows) :
    (∃ res, AuthService.refreshAccessToken svc (env.reorder scan scan_perm) value db = .ok res) ↔
      ∃ res, AuthService.refreshAccessToken svc env value db = .ok res := by
  rw [refreshAccessToken_ok_iff hs, refreshAccessToken_ok_iff hs]
  exact Iff.rfl

theorem refresh_tenant_iff {svc : Service} {value : String} {db : IdentityDb} (hs : db.Schema)
    {t : RefreshToken} (ht : tokenRow svc value db = some t) (env : Env)
    (tenantId : Option String) :
    (∀ scan scan_perm res,
        AuthService.refreshAccessToken svc (env.reorder scan scan_perm) value db = .ok res →
          res.accessToken.tenantId = tenantId) ↔
      ((∃ res, AuthService.refreshAccessToken svc env value db = .ok res) →
        HomeTenant env db t.userId tenantId) := by
  constructor
  · intro h hok
    rw [homeTenant_iff]
    intro scan scan_perm
    obtain ⟨res, hres⟩ := (refreshAccessToken_reorder hs env scan scan_perm).mpr hok
    rw [← refreshAccessToken_tenant ht hres]
    exact h scan scan_perm res hres
  · intro h scan scan_perm res hres
    rw [refreshAccessToken_tenant ht hres]
    exact homeTenant_iff.mp (h ((refreshAccessToken_reorder hs env scan scan_perm).mp ⟨res, hres⟩))
      scan scan_perm

/-! ## Sessions -/

/-- A refresh token, and the tenant of the access token issued to its session last. -/
structure Session where
  db : IdentityDb
  userId : String
  refreshToken : String
  tenantId : Option String

inductive SessionCall where
  | switchTenant (tenantId : String)
  | refresh
  /-- A call of anybody else, or of the same user in another session. -/
  | elsewhere (cmd : IdentityCommand)

/-- The session that a login opens. -/
def Session.opened (svc : Service) (db : IdentityDb) (i : Env × IdentityCommand)
    (res : TokenResponse) : Session :=
  { db := step svc db i
    userId := res.accessToken.sub
    refreshToken := res.refreshToken
    tenantId := res.accessToken.tenantId }

def Session.received (s : Session) : Except HttpException AccessTokenResponse → Session
  | .ok res => { s with tenantId := res.accessToken.tenantId }
  | .error _ => s

theorem Session.received_db (s : Session) (answer : Except HttpException AccessTokenResponse) :
    (s.received answer).db = s.db := by
  cases answer <;> rfl

theorem Session.received_userId (s : Session) (answer : Except HttpException AccessTokenResponse) :
    (s.received answer).userId = s.userId := by
  cases answer <;> rfl

def Session.next (svc : Service) (s : Session) : Env × SessionCall → Session
  | (env, .switchTenant tenantId) =>
    s.received (AuthService.switchTenant svc env s.userId tenantId s.db)
  | (env, .refresh) => s.received (AuthService.refreshAccessToken svc env s.refreshToken s.db)
  | (env, .elsewhere cmd) => { s with db := step svc s.db (env, cmd) }

/-- A refresh leaves the tenant as it is, in whatever order the repository returns. -/
def KeepsTenant (svc : Service) (s : Session) : Env × SessionCall → Prop
  | (env, .refresh) => ∀ scan scan_perm res,
    AuthService.refreshAccessToken svc (env.reorder scan scan_perm) s.refreshToken s.db = .ok res →
      res.accessToken.tenantId = s.tenantId
  | _ => True

/-- A refresh finds the user's active memberships all in the session's tenant. -/
def RefreshesAtHome (svc : Service) (s : Session) : Env × SessionCall → Prop
  | (env, .refresh) =>
    (∃ res, AuthService.refreshAccessToken svc env s.refreshToken s.db = .ok res) →
      HomeTenant env s.db s.userId s.tenantId
  | _ => True

/-- Memberships stay as they are, and the session switches to the tenant that refreshes lead to; if
    they lead to none, to one where the user has no membership at all. -/
def StaysHome (svc : Service) (sees : String → Bool) (home : Option String) (s : Session)
    (i : Env × SessionCall) : Prop :=
  i.1.sees = sees ∧ (s.next svc i).db.memberships = s.db.memberships ∧
    ∀ tenantId, i.2 = .switchTenant tenantId →
      (∃ res, AuthService.switchTenant svc i.1 s.userId tenantId s.db = .ok res) →
        home = some tenantId ∨ home = none ∧
          ∀ m ∈ visible i.1 s.db, m.userId = s.userId → m.tenantId ≠ tenantId

structure Session.Sound (svc : Service) (s : Session) : Prop where
  schema : s.db.Schema
  row : ∃ t, tokenRow svc s.refreshToken s.db = some t ∧ t.userId = s.userId

/-- The row of a token stays, and its owner. -/
theorem tokenRow_step {svc : Service} {db : IdentityDb} (i : Env × IdentityCommand)
    {value userId : String} (h : ∃ t, tokenRow svc value db = some t ∧ t.userId = userId) :
    ∃ t, tokenRow svc value (step svc db i) = some t ∧ t.userId = userId := by
  obtain ⟨env, cmd⟩ := i
  obtain ⟨t, ht, huser⟩ := h
  have hstep := execute_tokenStep svc env cmd db
  unfold step
  dsimp only
  generalize (execute svc env cmd db).1 = db' at hstep ⊢
  cases hstep with
  | kept silent noLogout tokens sessions revoked =>
    exact ⟨t, (tokenRow_congr tokens).trans ht, huser⟩
  | issued res answer noLogout row =>
    obtain ⟨rt, tokens, -⟩ := row.row
    refine ⟨t, ?_, huser⟩
    rw [tokenRow_append tokens, ht, Option.some_or]
  | loggedOut value' =>
    obtain ⟨hsame, -⟩ | ⟨stored, hstored, tokens, -, -⟩ := logout_cases svc env value' db
    · rw [hsame]
      exact ⟨t, ht, huser⟩
    · rw [@tokenRow_update svc value db _ stored _ tokens rfl, ht, Option.map_some]
      split
      next he =>
        have hfound : tokenRow svc value db = tokenRow svc value' db := by
          unfold tokenRow
          rw [← tokenRow_hash ht, ← tokenRow_hash hstored, he]
        obtain rfl := Option.some.inj (ht.symm.trans (hfound.trans hstored))
        exact ⟨_, rfl, huser⟩
      next => exact ⟨t, rfl, huser⟩

theorem Session.Sound.received {svc : Service} {s : Session} (h : s.Sound svc)
    (answer : Except HttpException AccessTokenResponse) : (s.received answer).Sound svc := by
  cases answer with
  | ok res => exact ⟨h.schema, h.row⟩
  | error e => exact h

theorem Session.Sound.next {svc : Service} {s : Session} (h : s.Sound svc)
    (i : Env × SessionCall) : (s.next svc i).Sound svc := by
  obtain ⟨env, call⟩ := i
  cases call with
  | switchTenant tenantId => exact h.received _
  | refresh => exact h.received _
  | elsewhere cmd =>
    exact ⟨(execute_writes svc env cmd h.schema).schema h.schema, tokenRow_step (env, cmd) h.row⟩

theorem keepsTenant_iff {svc : Service} {s : Session} (h : s.Sound svc) (i : Env × SessionCall) :
    KeepsTenant svc s i ↔ RefreshesAtHome svc s i := by
  obtain ⟨env, call⟩ := i
  obtain ⟨t, ht, huser⟩ := h.row
  cases call with
  | switchTenant tenantId => exact Iff.rfl
  | refresh =>
    unfold KeepsTenant RefreshesAtHome
    rw [← huser]
    exact refresh_tenant_iff h.schema ht env s.tenantId
  | elsewhere cmd => exact Iff.rfl

/-! ## The session's start -/

theorem AuthService.login_memberships (svc : Service) (env : Env) (user : User)
    (ip device : Option String) (db : IdentityDb) :
    (AuthService.login svc env user ip device db).1.memberships = db.memberships := by
  unfold AuthService.login AuthService.issueTokens insertRefreshToken
  dsimp only
  split
  next db' res h =>
    have hsame : db'.memberships = db.memberships := by
      split at h
      next hins =>
        split at hins
        · cases hins
        · rw [← (Prod.mk.inj h).1, ← Except.ok.inj hins]
      next => cases (Prod.mk.inj h).2
    rw [← hsame]
    unfold UsersService.updateLastLogin
    split <;> rfl
  next db' e h =>
    split at h
    next => cases (Prod.mk.inj h).2
    next => rw [← (Prod.mk.inj h).1]

theorem loginEndpoint_memberships (svc : Service) (env : Env) (email password : String)
    (ip device : Option String) (db : IdentityDb) :
    (loginEndpoint svc env email password ip device db).1.memberships = db.memberships := by
  have hsame := (AuthService.validateCredentials_tables svc env email password db).2.2
  unfold loginEndpoint
  split
  next db' e h => rwa [h] at hsame
  next db' h => rwa [h] at hsame
  next db' user h =>
    rw [h] at hsame
    exact (AuthService.login_memberships svc env user ip device db').trans hsame

theorem register_memberships (svc : Service) (env : Env) (dto : CreateUserDto) (db : IdentityDb) :
    (AuthService.register svc env dto db).1.memberships = db.memberships := by
  unfold AuthService.register
  obtain ⟨e, h⟩ | ⟨db', user, h, hins, -⟩ := UsersService.create_cases svc env dto db
  · rw [h]
  · rw [h]
    refine (AuthService.login_memberships svc env user none none db').trans ?_
    unfold insertUser at hins
    split at hins
    · cases hins
    · rw [← Except.ok.inj hins]

theorem loginAnswer_memberships {svc : Service} {db : IdentityDb} {i : Env × IdentityCommand}
    {res : TokenResponse} (h : loginAnswer svc db i = some res) :
    (step svc db i).memberships = db.memberships := by
  obtain ⟨env, cmd⟩ := i
  cases cmd with
  | login email password ip device => exact loginEndpoint_memberships _ _ _ _ _ _ _
  | register dto => exact register_memberships _ _ _ _
  | _ => cases h

theorem toOption_some {ε α : Type} {x : Except ε α} {a : α} (h : x.toOption = some a) :
    x = .ok a := by
  cases x with
  | error e => cases h
  | ok b => exact congrArg Except.ok (Option.some.inj h)

/-- Both kinds of login take the tenant as a refresh does. -/
theorem loginAnswer_tenant {svc : Service} {db : IdentityDb} {i : Env × IdentityCommand}
    {res : TokenResponse} (h : loginAnswer svc db i = some res) :
    res.accessToken.tenantId =
      (AuthService.primaryMembership i.1 db res.accessToken.sub).map (·.tenantId) := by
  have hpayload : ∃ user, res.accessToken.toUnsignedPayload = AuthService.buildJwtPayload db user
      (AuthService.primaryMembership i.1 db user.id) := by
    obtain ⟨env, cmd⟩ := i
    cases cmd with
    | login email password ip device =>
      have hsigns := loginEndpoint_signs (toOption_some h)
      generalize res.accessToken.toUnsignedPayload = p at hsigns
      cases hsigns with
      | login _ _ _ _ user mem => exact ⟨user, rfl⟩
    | register dto =>
      have hsigns := register_signs (toOption_some h)
      generalize res.accessToken.toUnsignedPayload = p at hsigns
      cases hsigns with
      | register _ user flag => exact ⟨user, rfl⟩
    | _ => cases h
  obtain ⟨user, hp⟩ := hpayload
  have hsub : res.accessToken.sub = user.id := congrArg UnsignedPayload.sub hp
  rw [hsub]
  exact congrArg UnsignedPayload.tenantId hp

theorem opened_sound {svc : Service} {db : IdentityDb} {i : Env × IdentityCommand}
    {res : TokenResponse} (hs : db.Schema) (h : loginAnswer svc db i = some res) :
    (Session.opened svc db i res).Sound svc := by
  refine ⟨(execute_writes svc i.1 i.2 hs).schema hs, ?_⟩
  have hstep := execute_tokenStep svc i.1 i.2 db
  show ∃ t, tokenRow svc res.refreshToken (execute svc i.1 i.2 db).1 = some t ∧
    t.userId = res.accessToken.sub
  generalize (execute svc i.1 i.2 db).1 = db' at hstep ⊢
  obtain ⟨env, cmd⟩ := i
  dsimp only at hstep
  cases hstep with
  | kept silent noLogout tokens sessions revoked => cases silent.symm.trans h
  | issued res' answer noLogout row =>
    obtain rfl := Option.some.inj (answer.symm.trans h)
    obtain ⟨rt, tokens, hash, hsub, -, -⟩ := row.row
    refine ⟨rt, ?_, hsub⟩
    rw [row.value, tokenRow_append tokens, row.tokenRow_none, Option.none_or, if_pos hash]
  | loggedOut value => cases h

/-! ## Staying at home -/

/-- The session is in the tenant that refreshes lead to. -/
structure Session.AtHome (svc : Service) (env : Env) (home : Option String) (s : Session) :
    Prop where
  sound : s.Sound svc
  leads : HomeTenant env s.db s.userId home
  tenant : s.tenantId = home

theorem Session.next_userId (svc : Service) (s : Session) (i : Env × SessionCall) :
    (s.next svc i).userId = s.userId := by
  obtain ⟨env, call⟩ := i
  cases call with
  | switchTenant tenantId => exact s.received_userId _
  | refresh => exact s.received_userId _
  | elsewhere cmd => rfl

theorem switchTenant_tenant {svc : Service} {env : Env} {u t : String} {db : IdentityDb}
    {res : AccessTokenResponse} (h : AuthService.switchTenant svc env u t db = .ok res) :
    res.accessToken.tenantId = (findByUserAndTenant env db u t).map (·.tenantId) := by
  obtain ⟨user, -, -, hp⟩ := AuthService.switchTenant_ok h
  exact congrArg UnsignedPayload.tenantId hp

/-- A switch to the home tenant names it. -/
theorem HomeTenant.findByUserAndTenant {env : Env} {db : IdentityDb} (hs : db.Schema)
    {userId t : String} {home : Option String} (h : HomeTenant env db userId home)
    (hgoes : home = some t ∨ home = none ∧
      ∀ m ∈ visible env db, m.userId = userId → m.tenantId ≠ t) :
    (Identity.findByUserAndTenant env db userId t).map (·.tenantId) = home := by
  obtain rfl | ⟨rfl, hnone⟩ := hgoes
  · have hactive : ∃ m, ActiveMember env db userId m := by
      by_contra hno
      cases h.unnamed (not_exists.mp hno)
    obtain ⟨m, hm⟩ := hactive
    have ht := h.named m hm
    rw [hs.findByUserAndTenant_eq hm.mem hm.user (Option.some.inj ht).symm]
    exact ht.symm
  · cases hf : Identity.findByUserAndTenant env db userId t with
    | none => rfl
    | some m =>
      obtain ⟨hmem, huser, ht⟩ := findByUserAndTenant_some hf
      exact absurd ht (hnone m hmem huser)

theorem Session.AtHome.keepsTenant {svc : Service} {env : Env} {home : Option String} {s : Session}
    (h : s.AtHome svc env home) {i : Env × SessionCall} (hstays : StaysHome svc env.sees home s i) :
    KeepsTenant svc s i := by
  rw [keepsTenant_iff h.sound]
  obtain ⟨env', call⟩ := i
  cases call with
  | refresh =>
    intro _
    rw [h.tenant]
    exact h.leads.congr hstays.1 rfl
  | _ => exact trivial

theorem Session.AtHome.next {svc : Service} {env : Env} {home : Option String} {s : Session}
    (h : s.AtHome svc env home) {i : Env × SessionCall} (hstays : StaysHome svc env.sees home s i) :
    (s.next svc i).AtHome svc env home := by
  have hkeeps := h.keepsTenant hstays
  obtain ⟨hsees, hmemberships, hswitch⟩ := hstays
  refine ⟨h.sound.next i, ?_, ?_⟩
  · rw [Session.next_userId]
    exact h.leads.congr rfl hmemberships
  · obtain ⟨env', call⟩ := i
    cases call with
    | switchTenant t =>
      show (s.received (AuthService.switchTenant svc env' s.userId t s.db)).tenantId = home
      cases hanswer : AuthService.switchTenant svc env' s.userId t s.db with
      | error e => exact h.tenant
      | ok res =>
        exact (switchTenant_tenant hanswer).trans
          ((h.leads.congr hsees rfl).findByUserAndTenant h.sound.schema
            (hswitch t rfl ⟨res, hanswer⟩))
    | refresh =>
      show (s.received (AuthService.refreshAccessToken svc env' s.refreshToken s.db)).tenantId =
        home
      cases hanswer : AuthService.refreshAccessToken svc env' s.refreshToken s.db with
      | error e => exact h.tenant
      | ok res => exact (hkeeps env'.scan env'.scan_perm res hanswer).trans h.tenant
    | elsewhere cmd => exact h.tenant

/-! ## The law -/

/-- In every run from a login, between any other calls: whatever order the repository returns, each
    refresh names the tenant of the session's latest access token if and only if all active
    memberships of the user are in it then (and it is none where there are none).

    In particular if the user's active memberships are in one tenant, if any, memberships stay as
    they are, and the session never switches to another one. -/
theorem refresh_keeps_tenant_iff {svc : Service} {db : IdentityDb} (hr : Reachable svc db)
    {i : Env × IdentityCommand} {res : TokenResponse} (hlogin : loginAnswer svc db i = some res)
    (calls : List (Env × SessionCall)) :
    let s := Session.opened svc db i res
    (StepsSatisfy (Session.next svc) (KeepsTenant svc) s calls ↔
      StepsSatisfy (Session.next svc) (RefreshesAtHome svc) s calls) ∧
    ∀ home, HomeTenant i.1 s.db s.userId home →
      StepsSatisfy (Session.next svc) (StaysHome svc i.1.sees home) s calls →
        StepsSatisfy (Session.next svc) (KeepsTenant svc) s calls := by
  intro s
  have hsound : s.Sound svc := opened_sound (reachable_schema hr) hlogin
  refine ⟨?_, fun home hhome hstays => ?_⟩
  · exact stepsSatisfy_congr (I := Session.Sound svc) (fun _ i h _ => h.next i)
      (fun _ i h => keepsTenant_iff h i) hsound calls
  · have htenant : s.tenantId = home := by
      refine (loginAnswer_tenant hlogin).trans ?_
      exact (hhome.congr rfl (loginAnswer_memberships hlogin).symm).primaryMembership
    exact StepsSatisfy.mono (I := Session.AtHome svc i.1 home) (fun _ _ h hstays => h.next hstays)
      (fun _ _ h hstays => h.keepsTenant hstays) ⟨hsound, hhome, htenant⟩ hstays

namespace Sample

def annLogin : Env × IdentityCommand :=
  (clock 3, .login "ann@example.com" "Passw0rd" none none)

/-- The session that `annLogin` opens. -/
def annSession (cmds : List (Env × IdentityCommand)) : Session :=
  { db := step svc (directory cmds) annLogin
    userId := "ann"
    refreshToken := "random-3"
    tenantId := some "t1" }

theorem opens {cmds : List (Env × IdentityCommand)}
    (h : (loginAnswer svc (directory cmds) annLogin).map
      (fun res => (res.accessToken.sub, res.refreshToken, res.accessToken.tenantId)) =
        some ("ann", "random-3", some "t1")) :
    ∃ res, loginAnswer svc (directory cmds) annLogin = some res ∧
      Session.opened svc (directory cmds) annLogin res = annSession cmds := by
  obtain ⟨res, hres, he⟩ := Option.map_eq_some_iff.mp h
  obtain ⟨hsub, hvalue, htenant⟩ : res.accessToken.sub = "ann" ∧ res.refreshToken = "random-3" ∧
      res.accessToken.tenantId = some "t1" := by
    simpa using he
  refine ⟨res, hres, ?_⟩
  unfold Session.opened annSession
  rw [hsub, hvalue, htenant]

end Sample

theorem refresh_keeps_tenant_iff_sample :
    StepsSatisfy (Session.next Sample.svc) (KeepsTenant Sample.svc)
      (Sample.annSession [Sample.joined])
      [(Sample.clock 4, .switchTenant "t1"), (Sample.clock 5, .refresh)] := by
  obtain ⟨res, hres, hopened⟩ := @Sample.opens [Sample.joined] (by decide +kernel)
  have hlaw := (refresh_keeps_tenant_iff (Sample.directory_reachable [Sample.joined]) hres
    [(Sample.clock 4, .switchTenant "t1"), (Sample.clock 5, .refresh)]).2
  rw [hopened] at hlaw
  refine hlaw (some "t1") ⟨fun m hm => ?_, fun hnone => ?_⟩
    ⟨⟨rfl, congrArg _ (Session.received_db _ _), fun t ht _ => ?_⟩,
      ⟨rfl, congrArg _ (Session.received_db _ _), fun t ht => ?_⟩, trivial⟩
  · have hall : ∀ m ∈ (Sample.annSession [Sample.joined]).db.memberships, m.tenantId = "t1" := by
      decide +kernel
    rw [hall m (mem_visible.mp hm.mem).1]
  · refine absurd ?_ (hnone ⟨"ann", "t1", "r1", .active, some 1000⟩)
    refine ⟨mem_visible.mpr ⟨?_, rfl⟩, rfl, rfl⟩
    decide +kernel
  · cases ht
    exact Or.inl rfl
  · cases ht

namespace Sample

/-- `ann` belongs to a second tenant. -/
def joinedBoth : List (Env × IdentityCommand) :=
  [joined, (clock 2, .createMembership ⟨"ann", "t2", "r1", none⟩)]

def switchedSession : Session := (annSession joinedBoth).next svc (clock 4, .switchTenant "t2")

end Sample

/-- `ann`, a member of `t1` and `t2`, logs in, switches to `t2` and refreshes: she is back in
    `t1`. -/
theorem refresh_leaves_tenant :
    Reachable Sample.svc (Sample.directory Sample.joinedBoth) ∧
    (∃ res, loginAnswer Sample.svc (Sample.directory Sample.joinedBoth) Sample.annLogin = some res ∧
      Session.opened Sample.svc (Sample.directory Sample.joinedBoth) Sample.annLogin res =
        Sample.annSession Sample.joinedBoth) ∧
    ¬ StepsSatisfy (Session.next Sample.svc) (KeepsTenant Sample.svc)
      (Sample.annSession Sample.joinedBoth)
      [(Sample.clock 4, .switchTenant "t2"), (Sample.clock 5, .refresh)] := by
  refine ⟨Sample.directory_reachable _, Sample.opens (by decide +kernel), ?_⟩
  intro ⟨_, hkeeps, _⟩
  have hrefreshed : (AuthService.refreshAccessToken Sample.svc (Sample.clock 5)
      Sample.switchedSession.refreshToken Sample.switchedSession.db).toOption.map
        (·.accessToken.tenantId) = some (some "t1") := by decide +kernel
  obtain ⟨res, hres, ht⟩ := Option.map_eq_some_iff.mp hrefreshed
  have hsame : res.accessToken.tenantId = Sample.switchedSession.tenantId :=
    hkeeps (Sample.clock 5).scan (Sample.clock 5).scan_perm res (toOption_some hres)
  rw [ht] at hsame
  revert hsame
  decide +kernel

end SaasChassis.Identity
