/-
  Can users without privileges give themselves any?

  A coalition `C` of users, none of them an administrator and none with a role that an endpoint
  asks for, acts with the tokens and the credentials it has, between the requests of everybody
  else. What its tokens allow is decided by the guards (`ordinary_requests`), what they say by the
  tables (`ordinary_buildJwtPayload`), and the tables say nothing more unless somebody else grants
  it (`execute_change`).

  `no_escalation`: as long as nobody grants one of them a privileged role, all tokens they come by
  are ordinary tokens of theirs, and none of their requests changes a membership, a role, an
  impersonation or somebody else's account.
-/
import Mathlib.Data.Set.Basic
import SaasChassis.Identity.Grants
import SaasChassis.Identity.RefreshTokens

namespace SaasChassis.Identity

open SaasChassis.Lib

/-! ## Statement -/

/-- The roles and permissions that the endpoints ask for. -/
def privilegedRoles : List String := ["tenant_admin", "platform_admin"]

def privilegedPermissions : List String := ["users:write", "users:delete", "users:manage"]

def Role.Ordinary (role : Role) : Prop :=
  role.name ∉ privilegedRoles ∧
    ∀ p ∈ role.permissions, s!"{p.resource}:{p.action}" ∉ privilegedPermissions

instance (role : Role) : Decidable role.Ordinary :=
  inferInstanceAs (Decidable (role.name ∉ privilegedRoles ∧
    ∀ p ∈ role.permissions, s!"{p.resource}:{p.action}" ∉ privilegedPermissions))

/-- The id names no privileged role. -/
def OrdinaryRole (db : IdentityDb) (roleId : String) : Prop :=
  ∀ role ∈ db.roles, role.id = roleId → role.Ordinary

/-- No user of `C` has a privilege. -/
structure Unprivileged (C : Set String) (db : IdentityDb) : Prop where
  schema : db.Schema
  users : ∀ user ∈ db.users, user.id ∈ C → user.isPlatformAdmin = false
  roles : ∀ m ∈ db.memberships, m.userId ∈ C → OrdinaryRole db m.roleId

/-- A token of a user of `C` that no guard lets through, in a tenant the user was put into. -/
structure OrdinaryToken (C : Set String) (db : IdentityDb) (p : UnsignedPayload) : Prop where
  sub : p.sub ∈ C
  admin : p.isPlatformAdmin = false
  impersonating : p.isImpersonating = false
  roles : ∀ role ∈ p.roles, role ∉ privilegedRoles
  permissions : ∀ perm ∈ p.permissions, perm ∉ privilegedPermissions
  member : ∀ t, p.tenantId = some t → (p.sub, t) ∈ db.memberships.map Membership.key

/-- The tokens held are the coalition's. -/
structure Confined (C : Set String) (sys : System) : Prop where
  db : Unprivileged C sys.db
  held : ∀ token ∈ sys.held, OrdinaryToken C sys.db token.toUnsignedPayload

/-- A request without a token, by the coalition, that keeps the token it gets; or any other
    request. -/
inductive Turn where
  | enter (env : Env) (req : OpenRequest)
  | input (i : SystemInput)

def System.turn (svc : Service) (sys : System) : Turn → System
  | .enter env req =>
    { sys.step svc (.anonymous env req) with
      held := collect (sys.answer svc (.anonymous env req)) sys.held }
  | .input i => sys.step svc i

/-- The coalition knows its own passwords and refresh tokens, and registers ids of its own. -/
def OwnCredentials (svc : Service) (C : Set String) (db : IdentityDb) (env : Env) :
    OpenRequest → Prop
  | .login email password _ _ => ∀ user ∈ db.users, user.email = svc.toLowerCase email →
      svc.compareSync password user.passwordHash = true → user.id ∈ C
  | .register _ => env.newId ∈ C
  | .refresh value => ∀ rt ∈ db.refreshTokens, rt.tokenHash = svc.sha256 value → rt.userId ∈ C
  | .setStatus _ _ _ => False

/-- A privileged role is not for users of `C`. -/
def GrantsOrdinary (C : Set String) (db : IdentityDb) : AuthRequest → Prop
  | .createMembership dto => dto.userId ∈ C → OrdinaryRole db dto.roleId
  | .assignRole dto => dto.userId ∈ C → OrdinaryRole db dto.roleId
  | _ => True

def Plays (svc : Service) (C : Set String) (sys : System) : Turn → Prop
  | .enter env req => OwnCredentials svc C sys.db env req
  | .input (.other _ _ req) => GrantsOrdinary C sys.db req
  | .input _ => True

/-- Only rows of users of `C` differ, and what belongs to tokens. -/
structure SameOutside (C : Set String) (db db' : IdentityDb) : Prop where
  memberships : db'.memberships = db.memberships
  roles : db'.roles = db.roles
  sessions : db'.sessions = db.sessions
  users : ∀ user : User, user.id ∉ C → (user ∈ db'.users ↔ user ∈ db.users)

/-- A turn of the coalition leaves everybody else alone. -/
def SparesOthers (svc : Service) (C : Set String) (sys : System) : Turn → Prop
  | .enter env req => SameOutside C sys.db (sys.turn svc (.enter env req)).db
  | .input (.holder env token req) =>
    SameOutside C sys.db (sys.turn svc (.input (.holder env token req))).db
  | .input _ => True

/-! ## Users without privileges -/

section Unprivileged

variable {C : Set String} {db : IdentityDb}

theorem ordinaryRole_congr {db' : IdentityDb} (roles : db'.roles = db.roles) {roleId : String} :
    OrdinaryRole db' roleId ↔ OrdinaryRole db roleId := by
  unfold OrdinaryRole
  rw [roles]

/-- A privilege comes from a command that grants it. -/
theorem Unprivileged.execute (h : Unprivileged C db) (svc : Service) (env : Env)
    {cmd : IdentityCommand} (hg : ∀ u r, Grants cmd u r → u ∈ C → OrdinaryRole db r) :
    Unprivileged C (execute svc env cmd db).1 := by
  have hw := execute_writes svc env cmd h.schema
  have hchange := execute_change svc env cmd db
  refine ⟨hw.schema h.schema, fun user hmem hC => ?_, fun m hmem hC => ?_⟩
  · obtain hflag | ⟨old, hold, hid, hflag⟩ := hchange.users user hmem
    · exact hflag
    · rw [← hflag]
      exact h.users old hold (hid ▸ hC)
  · rw [ordinaryRole_congr hw.roles]
    obtain ⟨n, hn, hu, hr⟩ | hgrant := hchange.links m hmem
    · rw [← hr]
      exact h.roles n hn (hu ▸ hC)
    · exact hg m.userId m.roleId hgrant hC

theorem OrdinaryToken.kept {db' : IdentityDb} {p : UnsignedPayload} (h : OrdinaryToken C db p)
    (hw : Writes db db') : OrdinaryToken C db' p :=
  { h with member := fun t ht => hw.keys (h.member t ht) }

/-- A membership of a user of `C` puts nothing privileged into a token. -/
theorem ordinary_buildJwtPayload (h : Unprivileged C db) {user : User} (hC : user.id ∈ C)
    (hflag : user.isPlatformAdmin = false) {m : Option Membership}
    (hm : ∀ n, m = some n → n ∈ db.memberships ∧ n.userId = user.id) :
    OrdinaryToken C db (AuthService.buildJwtPayload db user m) := by
  have hrole : ∀ role, m.bind (·.role db) = some role → role.Ordinary := by
    intro role hr
    obtain ⟨n, hn, hr⟩ := Option.bind_eq_some_iff.mp hr
    obtain ⟨hmem, hu⟩ := hm n hn
    have hid : role.id = n.roleId := by simpa using List.find?_some hr
    exact h.roles n hmem (hu ▸ hC) role (List.mem_of_find?_eq_some hr) hid
  refine { sub := hC, admin := hflag, impersonating := rfl, roles := ?_, permissions := ?_,
           member := ?_ }
  · show ∀ name ∈ AuthService.roleNames (m.bind (·.role db)), name ∉ privilegedRoles
    cases hr : m.bind (·.role db) with
    | none => exact fun _ hn => absurd hn List.not_mem_nil
    | some role =>
      intro name hn
      rw [List.mem_singleton.mp hn]
      exact (hrole role hr).1
  · show ∀ perm ∈ AuthService.permissionNames (m.bind (·.role db)), perm ∉ privilegedPermissions
    cases hr : m.bind (·.role db) with
    | none => exact fun _ hn => absurd hn List.not_mem_nil
    | some role =>
      intro perm hn
      obtain ⟨p, hp, rfl⟩ := List.mem_map.mp hn
      exact (hrole role hr).2 p hp
  · intro t ht
    obtain ⟨n, hn, rfl⟩ := Option.map_eq_some_iff.mp ht
    obtain ⟨hmem, hu⟩ := hm n hn
    exact List.mem_map.mpr ⟨n, hmem, Prod.ext hu rfl⟩

theorem ordinary_primary (h : Unprivileged C db) (env : Env) {user : User} (hC : user.id ∈ C)
    (hflag : user.isPlatformAdmin = false) :
    OrdinaryToken C db
      (AuthService.buildJwtPayload db user (AuthService.primaryMembership env db user.id)) := by
  refine ordinary_buildJwtPayload h hC hflag fun n hn => ?_
  obtain ⟨hvis, hu, -⟩ := AuthService.primaryMembership_some hn
  exact ⟨(mem_visible.mp hvis).1, hu⟩

end Unprivileged

/-! ## With credentials of one's own -/

section Credentials

variable {svc : Service} {env : Env} {C : Set String} {db : IdentityDb}

theorem validateCredentials_match {email password : String} {db' : IdentityDb} {user : User}
    (h : AuthService.validateCredentials svc env email password db = (db', .ok (some user))) :
    user ∈ db.users ∧ user.email = svc.toLowerCase email ∧
      svc.compareSync password user.passwordHash = true := by
  unfold AuthService.validateCredentials at h
  dsimp only at h
  split at h
  next => cases (Prod.mk.inj h).2
  next =>
    split at h
    next => cases (Prod.mk.inj h).2
    next found hf =>
      split at h
      next => cases (Prod.mk.inj h).2
      next hc =>
        obtain rfl := Option.some.inj (Except.ok.inj (Prod.mk.inj h).2)
        rw [Bool.or_eq_true, not_or] at hc
        exact ⟨List.mem_of_find?_eq_some hf, by simpa using List.find?_some hf, by simpa using hc.2⟩

theorem create_newId {dto : CreateUserDto} {db' : IdentityDb} {user : User}
    (h : UsersService.create svc env dto db = (db', .ok user)) : user.id = env.newId := by
  unfold UsersService.create at h
  split at h
  · cases (Prod.mk.inj h).2
  · dsimp only at h
    split at h
    next => rw [← Except.ok.inj (Prod.mk.inj h).2]
    next => cases (Prod.mk.inj h).2

theorem refreshAccessToken_row {value : String} {res : AccessTokenResponse}
    (h : AuthService.refreshAccessToken svc env value db = .ok res) :
    ∃ rt ∈ db.refreshTokens, rt.tokenHash = svc.sha256 value ∧ res.accessToken.sub = rt.userId := by
  unfold AuthService.refreshAccessToken at h
  dsimp only at h
  split_ifs at h
  split at h
  next => cases h
  next stored hs =>
    split_ifs at h
    split at h
    next => cases h
    next user hu =>
      split_ifs at h
      rw [← Except.ok.inj h]
      have hid : user.id = stored.userId := by simpa using List.find?_some hu
      exact ⟨stored, List.mem_of_find?_eq_some hs, by simpa using List.find?_some hs, hid⟩

/-- Own credentials give a token of a user of one's own. -/
theorem ownCredentials_sub {req : OpenRequest} (hown : OwnCredentials svc C db env req)
    {token : JwtPayload} (h : (execute svc env req.command db).2 = .ok (some token)) :
    token.sub ∈ C := by
  cases req with
  | login email password ip device =>
    obtain ⟨res, hres, rfl⟩ := map_some_ok h
    unfold loginEndpoint at hres
    split at hres
    next => cases hres
    next => cases hres
    next db' user hc =>
      obtain ⟨hmem, hemail, hpassword⟩ := validateCredentials_match hc
      rw [login_sub hres]
      exact hown user hmem hemail hpassword
  | register dto =>
    obtain ⟨res, hres, rfl⟩ := map_some_ok h
    unfold AuthService.register at hres
    split at hres
    next db' user hc =>
      rw [login_sub hres, create_newId hc]
      exact hown
    next => cases hres
  | refresh value =>
    obtain ⟨res, hres, rfl⟩ := map_some_ok h
    obtain ⟨rt, hmem, hhash, hsub⟩ := refreshAccessToken_row hres
    rw [hsub]
    exact hown rt hmem hhash
  | setStatus u t status => exact hown.elim

theorem ownCredentials_ordinary (h : Unprivileged C db) {req : OpenRequest}
    (hown : OwnCredentials svc C db env req) {token : JwtPayload}
    (hok : (execute svc env req.command db).2 = .ok (some token)) :
    OrdinaryToken C db token.toUnsignedPayload := by
  have hsub : token.toUnsignedPayload.sub ∈ C := ownCredentials_sub hown hok
  have hsigns := execute_signs hok
  generalize token.toUnsignedPayload = p at hsub hsigns ⊢
  cases req with
  | login email password ip device =>
    cases hsigns with
    | login _ _ _ _ user mem => exact ordinary_primary h env hsub (h.users user mem hsub)
  | register dto =>
    cases hsigns with
    | register _ user flag => exact ordinary_primary h env hsub flag
  | refresh value =>
    cases hsigns with
    | refresh _ user mem => exact ordinary_primary h env hsub (h.users user mem hsub)
  | setStatus u t status => exact hown.elim

end Credentials

/-! ## With ordinary tokens -/

/-- A request is refused, or authorized and its command executed. -/
theorem handle_cases (svc : Service) (env : Env) (token : JwtPayload) (req : AuthRequest)
    (db : IdentityDb) :
    (∃ e, handle svc env token req db = (db, .error e)) ∨
    (req.authorize token = .ok () ∧
      handle svc env token req db = execute svc env (req.command token) db) := by
  unfold handle
  split
  next e _ => exact Or.inl ⟨e, rfl⟩
  next =>
    split
    next e _ => exact Or.inl ⟨e, rfl⟩
    next ha => exact Or.inr ⟨ha, rfl⟩

section Tokens

variable {svc : Service} {env : Env} {C : Set String} {db : IdentityDb} {token : JwtPayload}

theorem requirePermission_refuses (ht : OrdinaryToken C db token.toUnsignedPayload) {perm : String}
    (hperm : perm ∈ privilegedPermissions) : requirePermission token perm ≠ .ok () := by
  have hnot : perm ∉ token.permissions := fun h => ht.permissions perm h hperm
  have hadmin : token.isPlatformAdmin = false := ht.admin
  unfold requirePermission
  rw [hadmin]
  simp [hnot]

theorem requireRoles_refuses (ht : OrdinaryToken C db token.toUnsignedPayload) :
    requireRoles token privilegedRoles ≠ .ok () := by
  have hnot : privilegedRoles.any token.roles.contains = false := by
    rw [List.any_eq_false]
    intro role hrole hc
    exact ht.roles role (by simpa using hc) hrole
  have hadmin : token.isPlatformAdmin = false := ht.admin
  unfold requireRoles
  rw [hadmin, hnot]
  simp

/-- What the guards let an ordinary token ask for. -/
theorem ordinary_requests (ht : OrdinaryToken C db token.toUnsignedPayload) {req : AuthRequest}
    (ha : req.authorize token = .ok ()) :
    (∃ value, req = .logout value) ∨ (∃ t, req = .switchTenant t) ∨
    (∃ dto, req = .startImpersonation dto) ∨ req = .endImpersonation ∨
    ∃ dto, req = .updateUser token.sub dto := by
  cases req with
  | logout value => exact Or.inl ⟨value, rfl⟩
  | switchTenant t => exact Or.inr (Or.inl ⟨t, rfl⟩)
  | startImpersonation dto => exact Or.inr (Or.inr (Or.inl ⟨dto, rfl⟩))
  | endImpersonation => exact Or.inr (Or.inr (Or.inr (Or.inl rfl)))
  | updateUser id dto =>
    have hadmin : token.isPlatformAdmin = false := ht.admin
    have hnot : "users:write" ∉ token.permissions :=
      fun h => ht.permissions _ h List.mem_cons_self
    by_cases hid : token.sub = id
    · exact Or.inr (Or.inr (Or.inr (Or.inr ⟨dto, by rw [hid]⟩)))
    · simp [AuthRequest.authorize, hadmin, hnot, hid] at ha
  | createUser dto => exact absurd ha (requirePermission_refuses ht (by decide))
  | removeUser id => exact absurd ha (requirePermission_refuses ht (by decide))
  | createMembership dto => exact absurd ha (requirePermission_refuses ht (by decide))
  | removeMembership u t => exact absurd ha (requirePermission_refuses ht (by decide))
  | assignRole dto => exact absurd ha (requireRoles_refuses ht)

theorem handle_ordinary (h : Unprivileged C db) (ht : OrdinaryToken C db token.toUnsignedPayload)
    {req : AuthRequest} {token' : JwtPayload}
    (hok : (handle svc env token req db).2 = .ok (some token')) :
    OrdinaryToken C db token'.toUnsignedPayload := by
  have hsigns := execute_signs (handle_ok hok).2
  generalize token'.toUnsignedPayload = p at hsigns ⊢
  cases req with
  | switchTenant t =>
    cases hsigns with
    | switchTenant _ _ user mem id found =>
      have hC : user.id ∈ C := id ▸ ht.sub
      refine ordinary_buildJwtPayload h hC (h.users user mem hC) fun n hn => ?_
      obtain ⟨hvis, hu, -⟩ := findByUserAndTenant_some hn
      exact ⟨(mem_visible.mp hvis).1, hu.trans id.symm⟩
  | startImpersonation dto =>
    cases hsigns with
    | startImpersonation _ _ admin target caller _ _ _ _ _ =>
      exact absurd (ht.admin.symm.trans caller) (by decide)
  | endImpersonation =>
    cases hsigns with
    | endImpersonation _ _ user imp _ _ _ =>
      exact absurd (ht.impersonating.symm.trans imp) (by decide)
  | _ => cases hsigns

/-- A request with any token gives no user of `C` a privilege unless it is a grant. -/
theorem Unprivileged.handle (h : Unprivileged C db) {req : AuthRequest}
    (hg : req.authorize token = .ok () → GrantsOrdinary C db req) :
    Unprivileged C (handle svc env token req db).1 := by
  obtain ⟨e, he⟩ | ⟨ha, he⟩ := handle_cases svc env token req db
  · rw [he]
    exact h
  · rw [he]
    have hordinary := hg ha
    refine h.execute svc env fun u r hgrant hC => ?_
    cases req with
    | createMembership dto =>
      obtain ⟨rfl, rfl⟩ := hgrant
      exact hordinary hC
    | assignRole dto =>
      obtain ⟨rfl, rfl⟩ := hgrant
      exact hordinary hC
    | _ => exact hgrant.elim

end Tokens

/-! ## Whose rows are written -/

section Rows

variable {C : Set String} {db : IdentityDb}

theorem SameOutside.of_tables {db' : IdentityDb} (users : db'.users = db.users)
    (roles : db'.roles = db.roles) (memberships : db'.memberships = db.memberships)
    (sessions : db'.sessions = db.sessions) : SameOutside C db db' :=
  ⟨memberships, roles, sessions, fun user _ => by rw [users]⟩

theorem SameOutside.refl : SameOutside C db db := .of_tables rfl rfl rfl rfl

theorem SameOutside.trans {u db' : IdentityDb} (h : SameOutside C db u)
    (h' : SameOutside C u db') : SameOutside C db db' :=
  { memberships := h'.memberships.trans h.memberships
    roles := h'.roles.trans h.roles
    sessions := h'.sessions.trans h.sessions
    users := fun user hC => (h'.users user hC).trans (h.users user hC) }

theorem saveUser_outside {user : User} (hC : user.id ∈ C) :
    SameOutside C db (saveUser user db) := by
  refine ⟨rfl, rfl, rfl, fun q hq => ?_⟩
  have hne : q.id ≠ user.id := fun he => hq (he ▸ hC)
  constructor
  · intro hmem
    obtain ⟨_, _, _, rfl⟩ | ⟨hmem, _⟩ := mem_updateKey.mp hmem
    · exact absurd rfl hne
    · exact hmem
  · exact fun hmem => mem_updateKey.mpr (Or.inr ⟨hmem, hne⟩)

theorem insertUser_outside {user : User} (hC : user.id ∈ C) {db' : IdentityDb}
    (h : insertUser user db = .ok db') : SameOutside C db db' := by
  unfold insertUser at h
  split at h
  · cases h
  · obtain rfl := Except.ok.inj h
    refine ⟨rfl, rfl, rfl, fun q hq => ?_⟩
    have hne : q ≠ user := fun he => hq (he ▸ hC)
    show q ∈ db.users ++ [user] ↔ q ∈ db.users
    rw [List.mem_append, List.mem_singleton, or_iff_left hne]

theorem updateLastLogin_outside (env : Env) {id : String} (hC : id ∈ C) :
    SameOutside C db (UsersService.updateLastLogin env id db) := by
  unfold UsersService.updateLastLogin
  split
  next user h => exact saveUser_outside ((findUserById_ok h).2 ▸ hC)
  next => exact .refl

theorem login_outside (svc : Service) (env : Env) {user : User} (hC : user.id ∈ C)
    (ip device : Option String) :
    SameOutside C db (AuthService.login svc env user ip device db).1 := by
  obtain h | ⟨tokens, h⟩ := login_state svc env user ip device db
  · rw [h]
    exact .refl
  · rw [h]
    refine SameOutside.trans ?_ (updateLastLogin_outside env hC)
    exact .of_tables rfl rfl rfl rfl

theorem ownCredentials_outside {svc : Service} {env : Env} {req : OpenRequest}
    (hown : OwnCredentials svc C db env req) :
    SameOutside C db (execute svc env req.command db).1 := by
  cases req with
  | login email password ip device =>
    obtain ⟨husers, hroles, hmemberships⟩ :=
      AuthService.validateCredentials_tables svc env email password db
    have hcheck : SameOutside C db
        (AuthService.validateCredentials svc env email password db).1 :=
      .of_tables husers hroles hmemberships
        (validateCredentials_same svc env email password db).sessions
    show SameOutside C db (loginEndpoint svc env email password ip device db).1
    obtain h | ⟨db', user, hc, h⟩ := loginEndpoint_state svc env email password ip device db
    · rw [h]
      exact hcheck
    · rw [h]
      rw [hc] at hcheck
      obtain ⟨hmem, hemail, hpassword⟩ := validateCredentials_match hc
      exact hcheck.trans (login_outside svc env (hown user hmem hemail hpassword) ip device)
  | register dto =>
    show SameOutside C db (AuthService.register svc env dto db).1
    unfold AuthService.register
    obtain ⟨e, h⟩ | ⟨db', user, h, hins, -⟩ := UsersService.create_cases svc env dto db
    · rw [h]
      exact .refl
    · rw [h]
      have hC : user.id ∈ C := by
        rw [create_newId h]
        exact hown
      exact (insertUser_outside hC hins).trans (login_outside svc env hC none none)
  | refresh value => exact .refl
  | setStatus u t status => exact hown.elim

theorem logout_outside (svc : Service) (env : Env) (value : String) :
    SameOutside C db (AuthService.logout svc env value db) := by
  unfold AuthService.logout
  dsimp only
  split
  · exact .refl
  · split
    · exact .refl
    · split <;> exact .of_tables rfl rfl rfl rfl

/-- With an ordinary token one writes one's own row and refresh tokens. -/
theorem handle_outside (svc : Service) (env : Env) {token : JwtPayload}
    (ht : OrdinaryToken C db token.toUnsignedPayload) (req : AuthRequest) :
    SameOutside C db (handle svc env token req db).1 := by
  have hadmin : token.isPlatformAdmin = false := ht.admin
  have himp : token.isImpersonating = false := ht.impersonating
  obtain ⟨e, he⟩ | ⟨ha, he⟩ := handle_cases svc env token req db
  · rw [he]
    exact .refl
  · rw [he]
    rcases ordinary_requests ht ha with
      ⟨value, rfl⟩ | ⟨t, rfl⟩ | ⟨dto, rfl⟩ | rfl | ⟨dto, rfl⟩
    · exact logout_outside svc env value
    · exact .refl
    · show SameOutside C db (ImpersonationService.startImpersonation svc env token dto db).1
      unfold ImpersonationService.startImpersonation
      rw [hadmin]
      exact .refl
    · show SameOutside C db (ImpersonationService.endImpersonation svc env token db).1
      unfold ImpersonationService.endImpersonation
      rw [himp]
      exact .refl
    · show SameOutside C db (UsersService.update token.sub dto db).1
      unfold UsersService.update
      split
      next => exact .refl
      next user hu =>
        split
        next user' hp =>
          refine saveUser_outside ?_
          rw [(UsersService.patch_ok hp).1, (findUserById_ok hu).2]
          exact ht.sub
        next => exact .refl

end Rows

/-! ## Every run -/

section Runs

variable {svc : Service} {C : Set String} {sys : System}

theorem Confined.turn (h : Confined C sys) {t : Turn} (hp : Plays svc C sys t) :
    Confined C (sys.turn svc t) := by
  have hopen : ∀ env (req : OpenRequest),
      Unprivileged C (execute svc env req.command sys.db).1 := by
    intro env req
    refine h.db.execute svc env fun u r hgrant => ?_
    cases req <;> exact hgrant.elim
  cases t with
  | enter env req =>
    have hw := execute_writes svc env req.command h.db.schema
    refine ⟨hopen env req, fun token ht => OrdinaryToken.kept ?_ hw⟩
    obtain ht | ht := mem_collect ht
    · exact h.held token ht
    · exact ownCredentials_ordinary h.db hp ht
  | input i =>
    cases i with
    | holder env token req =>
      by_cases hmem : token ∈ sys.held
      · have htoken := h.held token hmem
        have hw := handle_writes svc env token req h.db.schema
        simp only [System.turn, System.step, if_pos hmem]
        refine ⟨h.db.handle fun ha => ?_, fun t ht => OrdinaryToken.kept ?_ hw⟩
        · rcases ordinary_requests htoken ha with
            ⟨_, rfl⟩ | ⟨_, rfl⟩ | ⟨_, rfl⟩ | rfl | ⟨_, rfl⟩ <;> exact trivial
        · obtain ht | ht := mem_collect ht
          · exact h.held t ht
          · exact handle_ordinary h.db htoken ht
      · simp only [System.turn, System.step, if_neg hmem]
        exact h
    | other env token req =>
      by_cases hmem : token ∈ sys.issued
      · have hw := handle_writes svc env token req h.db.schema
        simp only [System.turn, System.step, if_pos hmem]
        exact ⟨h.db.handle fun _ => hp, fun t ht => (h.held t ht).kept hw⟩
      · simp only [System.turn, System.step, if_neg hmem]
        exact h
    | anonymous env req =>
      have hw := execute_writes svc env req.command h.db.schema
      exact ⟨hopen env req, fun t ht => (h.held t ht).kept hw⟩

theorem Confined.spares (h : Confined C sys) {t : Turn} (hp : Plays svc C sys t) :
    SparesOthers svc C sys t := by
  cases t with
  | enter env req => exact ownCredentials_outside hp
  | input i =>
    cases i with
    | holder env token req =>
      show SameOutside C sys.db (sys.turn svc (.input (.holder env token req))).db
      by_cases hmem : token ∈ sys.held
      · simp only [System.turn, System.step, if_pos hmem]
        exact handle_outside svc env (h.held token hmem) req
      · simp only [System.turn, System.step, if_neg hmem]
        exact .refl
    | other env token req => exact trivial
    | anonymous env req => exact trivial

/-- A coalition without privileges, acting between the requests of everybody else with its own
    tokens and credentials, gets none as long as nobody grants it one: the tokens it holds stay
    ordinary tokens of its users, and its requests write nobody else's rows. -/
theorem no_escalation (h : Confined C sys) {turns : List Turn}
    (hp : StepsSatisfy (System.turn svc) (Plays svc C) sys turns) :
    Confined C (run (System.turn svc) sys turns) ∧
      StepsSatisfy (System.turn svc) (SparesOthers svc C) sys turns :=
  ⟨run_invariant_of (fun _ _ hs hc => hs.turn hc) h hp,
    hp.mono (fun _ _ hs hc => hs.turn hc) (fun _ _ hs hc => hs.spares hc) h⟩

end Runs

namespace Sample

/-- `ann` and an account to come. -/
def coalition : Set String := {id | id = "ann" ∨ id = "id-8"}

/-- `ann` logs in, becomes a member of `t2` too and goes there; she registers another account, and
    with her token tries to assign a role. -/
def plot : List Turn :=
  let entered := AuthService.signAccessToken svc (clock 5)
    { sub := "ann", email := "ann@example.com", displayName := "ann", isPlatformAdmin := false,
      tenantId := some "t1", tenantSlug := none, roles := ["member"],
      permissions := ["ledger:read"], isImpersonating := false, realUserId := none }
  [.enter (clock 5) (.login "ann@example.com" "Passw0rd" none none),
    .input (.other (clock 6) rootToken (.assignRole ⟨"ann", "t2", "r1"⟩)),
    .input (.holder (clock 7) entered (.switchTenant "t2")),
    .enter (clock 8) (.register ⟨"ann@example.net", "Passw0rd", "ann", none⟩),
    .input (.holder (clock 9) entered (.assignRole ⟨"ann", "t1", "r2"⟩))]

theorem coalition_confined : Confined coalition impersonated := by
  have hheld : impersonated.held = [] := by decide +kernel
  refine ⟨⟨(reachable_sound ⟨seed, _, rfl⟩).schema, ?_, ?_⟩, ?_⟩
  · show ∀ user ∈ impersonated.db.users, user.id = "ann" ∨ user.id = "id-8" →
      user.isPlatformAdmin = false
    decide +kernel
  · show ∀ m ∈ impersonated.db.memberships, m.userId = "ann" ∨ m.userId = "id-8" →
      ∀ role ∈ impersonated.db.roles, role.id = m.roleId → role.Ordinary
    decide +kernel
  · rw [hheld]
    exact fun _ h => absurd h List.not_mem_nil

theorem plot_plays : StepsSatisfy (System.turn svc) (Plays svc coalition) impersonated plot := by
  refine ⟨?_, fun _ => ?_, trivial, Or.inr ?_, trivial, trivial⟩
  · show ∀ user ∈ impersonated.db.users, user.email = svc.toLowerCase "ann@example.com" →
      svc.compareSync "Passw0rd" user.passwordHash = true → user.id = "ann" ∨ user.id = "id-8"
    decide +kernel
  · show ∀ role ∈ (impersonated.turn svc (.enter (clock 5)
      (.login "ann@example.com" "Passw0rd" none none))).db.roles, role.id = "r1" → role.Ordinary
    decide +kernel
  · decide +kernel

end Sample

theorem no_escalation_sample :
    Confined Sample.coalition (run (System.turn Sample.svc) Sample.impersonated Sample.plot) ∧
      StepsSatisfy (System.turn Sample.svc) (SparesOthers Sample.svc Sample.coalition)
        Sample.impersonated Sample.plot :=
  no_escalation Sample.coalition_confined Sample.plot_plays

end SaasChassis.Identity
