/-
  Requests with a bearer token: JwtStrategy, the guards and the endpoints behind them.

  `handle` validates the token, checks what the endpoint asks of it and runs the command the
  endpoint calls. Endpoints that only read tables are left out, and so is body validation: a
  request is taken with any body.

  `System` puts the service and its tokens together: those issued to anybody, and those one
  party, the holder, got hold of. `System.step` is one request of the holder, of somebody else
  with any token issued so far, or without a token. `SoundToken` is what every issued token
  keeps for good (`reachable_sound`).
-/
import SaasChassis.Identity.Step

namespace SaasChassis.Identity

open SaasChassis.Lib

/-! ## JwtStrategy and guards -/

/-- The signature is taken for granted: only issued tokens are presented. -/
def validate (env : Env) (token : JwtPayload) (db : IdentityDb) : Except HttpException Unit :=
  if token.exp ≤ env.now / 1000 then .error (.unauthorized "Invalid or missing access token")
  else
    match db.users.find? fun u => u.id = token.sub && u.isActive with
    | some _ => .ok ()
    | none => .error (.unauthorized "User not found or has been deactivated")

/-- There is an active row for the id. -/
def HasActive (db : IdentityDb) (id : String) : Prop :=
  ∃ user ∈ db.users, user.id = id ∧ user.isActive

theorem validate_ok_iff {env : Env} {token : JwtPayload} {db : IdentityDb} :
    validate env token db = .ok () ↔ env.now / 1000 < token.exp ∧ HasActive db token.sub := by
  unfold validate
  by_cases hexp : token.exp ≤ env.now / 1000
  · rw [if_pos hexp]
    simp [hexp]
  · rw [if_neg hexp]
    cases hf : db.users.find? fun u => u.id = token.sub && u.isActive with
    | some user =>
      have hfound := List.find?_some hf
      rw [Bool.and_eq_true, decide_eq_true_eq] at hfound
      exact ⟨fun _ => ⟨Int.not_le.mp hexp, user, List.mem_of_find?_eq_some hf, hfound⟩,
        fun _ => rfl⟩
    | none =>
      refine ⟨fun h => (nomatch h), fun ⟨_, user, hmem, hid, hactive⟩ => ?_⟩
      exact absurd (List.find?_eq_none.mp hf user hmem) (by simp [hid, hactive])

theorem validate_ok {env : Env} {token : JwtPayload} {db : IdentityDb} {u : Unit}
    (h : validate env token db = .ok u) :
    ∃ user ∈ db.users, user.id = token.sub ∧ user.isActive :=
  (validate_ok_iff.mp h).2

/-- `PermissionsGuard` for one required permission. -/
def requirePermission (token : JwtPayload) (perm : String) : Except HttpException Unit :=
  if token.isPlatformAdmin || token.permissions.contains perm then .ok ()
  else .error (.forbidden s!"Missing required permissions: {perm}")

/-- `RolesGuard`. -/
def requireRoles (token : JwtPayload) (roles : List String) : Except HttpException Unit :=
  if token.isPlatformAdmin || roles.any token.roles.contains then .ok ()
  else .error (.forbidden ("Requires one of these roles: " ++ ", ".intercalate roles))

/-! ## Endpoints -/

inductive AuthRequest where
  | logout (refreshToken : String)
  | switchTenant (tenantId : String)
  | startImpersonation (dto : ImpersonateDto)
  | endImpersonation
  | createUser (dto : CreateUserDto)
  | updateUser (id : String) (dto : UpdateUserDto)
  | removeUser (id : String)
  | createMembership (dto : CreateMembershipDto)
  | removeMembership (userId tenantId : String)
  | assignRole (dto : AssignRoleDto)

namespace AuthRequest

def authorize (token : JwtPayload) : AuthRequest → Except HttpException Unit
  | .createUser _ => requirePermission token "users:write"
  | .updateUser id _ =>
    if token.sub = id || token.isPlatformAdmin || token.permissions.contains "users:write" then
      .ok ()
    else .error (.forbidden
      "You can only update your own profile or must have users:write permission")
  | .removeUser _ => requirePermission token "users:delete"
  | .createMembership _ | .removeMembership _ _ => requirePermission token "users:manage"
  | .assignRole _ => requireRoles token ["tenant_admin", "platform_admin"]
  | .logout _ | .switchTenant _ | .startImpersonation _ | .endImpersonation => .ok ()

def command (token : JwtPayload) : AuthRequest → IdentityCommand
  | .logout value => .logout value
  | .switchTenant t => .switchTenant token.sub t
  | .startImpersonation dto => .startImpersonation token dto
  | .endImpersonation => .endImpersonation token
  | .createUser dto => .createUser dto
  | .updateUser id dto => .updateUser id dto
  | .removeUser id => .removeUser id
  | .createMembership dto => .createMembership dto
  | .removeMembership u t => .removeMembership u t
  | .assignRole dto => .assignRole dto

end AuthRequest

def handle (svc : Service) (env : Env) (token : JwtPayload) (req : AuthRequest)
    (db : IdentityDb) : Outcome (Option JwtPayload) :=
  match validate env token db with
  | .error e => (db, .error e)
  | .ok () =>
    match req.authorize token with
    | .error e => (db, .error e)
    | .ok () => execute svc env (req.command token) db

/-- A request without a token, or a membership's status changed by hand. -/
inductive OpenRequest where
  | login (email password : String) (ipAddress deviceInfo : Option String)
  | register (dto : CreateUserDto)
  | refresh (refreshToken : String)
  | setStatus (userId tenantId : String) (status : MembershipStatus)

def OpenRequest.command : OpenRequest → IdentityCommand
  | .login email password ip device => .login email password ip device
  | .register dto => .register dto
  | .refresh value => .refresh value
  | .setStatus u t status => .setStatus u t status

theorem handle_writes (svc : Service) (env : Env) (token : JwtPayload) (req : AuthRequest)
    {db : IdentityDb} (hs : db.Schema) : Writes db (handle svc env token req db).1 := by
  unfold handle
  split
  · exact .refl
  · split
    · exact .refl
    · exact execute_writes svc env (req.command token) hs

theorem handle_ok {svc : Service} {env : Env} {token : JwtPayload} {req : AuthRequest}
    {db : IdentityDb} {res : Option JwtPayload}
    (h : (handle svc env token req db).2 = .ok res) :
    validate env token db = .ok () ∧ (execute svc env (req.command token) db).2 = .ok res := by
  unfold handle at h
  split at h
  next => cases h
  next hv =>
    split at h
    next => cases h
    next => exact ⟨hv, h⟩

/-- An accepted request has its command executed, state and answer. -/
theorem handle_eq {svc : Service} {env : Env} {token : JwtPayload} {req : AuthRequest}
    {db : IdentityDb} {res : Option JwtPayload}
    (h : (handle svc env token req db).2 = .ok res) :
    handle svc env token req db = execute svc env (req.command token) db := by
  unfold handle at h ⊢
  split at h
  next => cases h
  next hv =>
    split at h
    next => cases h
    next => rfl

theorem handle_endImpersonation_users (svc : Service) (env : Env) (token : JwtPayload)
    (db : IdentityDb) : (handle svc env token .endImpersonation db).1.users = db.users := by
  unfold handle
  split
  · rfl
  · split
    · rfl
    · exact ImpersonationService.endImpersonation_users svc env token db

/-! ## The system -/

structure System where
  db : IdentityDb
  issued : List JwtPayload
  held : List JwtPayload

inductive SystemInput where
  | holder (env : Env) (token : JwtPayload) (req : AuthRequest)
  | other (env : Env) (token : JwtPayload) (req : AuthRequest)
  | anonymous (env : Env) (req : OpenRequest)

/-- The tokens after an answer. -/
def collect (answer : Except HttpException (Option JwtPayload)) (tokens : List JwtPayload) :
    List JwtPayload :=
  match answer with
  | .ok (some token) => token :: tokens
  | _ => tokens

theorem mem_collect {answer : Except HttpException (Option JwtPayload)} {tokens : List JwtPayload}
    {token : JwtPayload} (h : token ∈ collect answer tokens) :
    token ∈ tokens ∨ answer = .ok (some token) := by
  unfold collect at h
  split at h
  · obtain rfl | h := List.mem_cons.mp h
    · exact Or.inr rfl
    · exact Or.inl h
  · exact Or.inl h

theorem mem_collect_of_mem {answer : Except HttpException (Option JwtPayload)}
    {tokens : List JwtPayload} {token : JwtPayload} (h : token ∈ tokens) :
    token ∈ collect answer tokens := by
  unfold collect
  split
  · exact List.mem_cons_of_mem _ h
  · exact h

/-- A request with a token the sender does not have is no request. -/
def System.step (svc : Service) (sys : System) : SystemInput → System
  | .holder env token req =>
    if token ∈ sys.held then
      let o := handle svc env token req sys.db
      { db := o.1, issued := collect o.2 sys.issued, held := collect o.2 sys.held }
    else sys
  | .other env token req =>
    if token ∈ sys.issued then
      let o := handle svc env token req sys.db
      { sys with db := o.1, issued := collect o.2 sys.issued }
    else sys
  | .anonymous env req =>
    let o := execute svc env req.command sys.db
    { sys with db := o.1, issued := collect o.2 sys.issued }

def System.start (seed : Seed) : System :=
  { db := IdentityDb.seeded seed, issued := [], held := [] }

def ReachableSystem (svc : Service) (sys : System) : Prop :=
  ∃ seed inputs, sys = run (System.step svc) (System.start seed) inputs

/-! ## Issued tokens -/

/-- An administrator's token is one's own, and who impersonates is an administrator playing
    somebody who is none. -/
structure SoundToken (db : IdentityDb) (p : UnsignedPayload) : Prop where
  admin : p.isPlatformAdmin = true → HasFlag db p.sub true
  impersonating : p.isImpersonating = true →
    ∃ a, p.realUserId = some a ∧ HasFlag db a true ∧ HasFlag db p.sub false

theorem SoundToken.kept {db db' : IdentityDb} (hs : db.Schema) (hw : Writes db db')
    {p : UnsignedPayload} (h : SoundToken db p) : SoundToken db' p :=
  { admin := fun ha => hw.flag hs (h.admin ha)
    impersonating := by
      intro hi
      obtain ⟨a, hr, ha, hp⟩ := h.impersonating hi
      exact ⟨a, hr, hw.flag hs ha, hw.flag hs hp⟩ }

/-- A token for a stored user, without impersonation. -/
theorem sound_buildJwtPayload {db : IdentityDb} {user : User}
    (h : user.isPlatformAdmin = true → user ∈ db.users) (m : Option Membership) :
    SoundToken db (AuthService.buildJwtPayload db user m) :=
  { admin := fun ha => ⟨user, h ha, rfl, ha⟩
    impersonating := fun hi => Bool.noConfusion hi }

theorem Signs.sound {svc : Service} {env : Env} {db : IdentityDb} {cmd : IdentityCommand}
    {p : UnsignedPayload} (h : Signs svc env db cmd p)
    (hcaller : ∀ adminUser dto, cmd = .startImpersonation adminUser dto →
      SoundToken db adminUser.toUnsignedPayload) : SoundToken db p := by
  cases h with
  | login email password ip device user mem => exact sound_buildJwtPayload (fun _ => mem) _
  | register dto user flag =>
    exact sound_buildJwtPayload (fun ha => absurd (flag.symm.trans ha) (by decide)) _
  | refresh value user mem => exact sound_buildJwtPayload (fun _ => mem) _
  | switchTenant u t user mem id found => exact sound_buildJwtPayload (fun _ => mem) _
  | endImpersonation currentUser realUserId user imp real mem id =>
    exact sound_buildJwtPayload (fun _ => mem) _
  | startImpersonation adminUser dto admin target caller adminMem adminId targetMem targetId flag =>
    refine { admin := fun ha => Bool.noConfusion ha, impersonating := fun _ => ?_ }
    have hadmin := (hcaller adminUser dto rfl).admin caller
    rw [← adminId] at hadmin
    exact ⟨admin.id, rfl, hadmin, target, targetMem, rfl, flag⟩

structure System.Sound (sys : System) : Prop where
  schema : sys.db.Schema
  issued : ∀ token ∈ sys.issued, SoundToken sys.db token.toUnsignedPayload
  held : ∀ token ∈ sys.held, token ∈ sys.issued

/-- Issuing by a sound caller keeps the tokens sound. -/
theorem System.Sound.collect {sys : System} (h : sys.Sound) {svc : Service} {env : Env}
    {cmd : IdentityCommand} {o : Outcome (Option JwtPayload)} (hw : Writes sys.db o.1)
    (ho : ∀ token, o.2 = .ok (some token) → (execute svc env cmd sys.db).2 = .ok (some token))
    (hcaller : ∀ adminUser dto, cmd = .startImpersonation adminUser dto →
      SoundToken sys.db adminUser.toUnsignedPayload) :
    ∀ token ∈ Identity.collect o.2 sys.issued, SoundToken o.1 token.toUnsignedPayload := by
  intro token ht
  refine SoundToken.kept h.schema hw ?_
  obtain ht | ht := mem_collect ht
  · exact h.issued token ht
  · exact (execute_signs (ho token ht)).sound hcaller

theorem AuthRequest.command_caller {token adminUser : JwtPayload} {dto : ImpersonateDto}
    {req : AuthRequest} (h : req.command token = .startImpersonation adminUser dto) :
    adminUser = token := by
  cases req <;> cases h
  rfl

theorem System.Sound.step {svc : Service} {sys : System} (h : sys.Sound) (i : SystemInput) :
    (sys.step svc i).Sound := by
  have hauth : ∀ env token req, token ∈ sys.issued →
      ∀ t ∈ Identity.collect (handle svc env token req sys.db).2 sys.issued,
        SoundToken (handle svc env token req sys.db).1 t.toUnsignedPayload := by
    intro env token req hmem
    refine h.collect (handle_writes svc env token req h.schema)
      (fun t ht => (handle_ok ht).2) ?_
    intro adminUser dto he
    rw [AuthRequest.command_caller he]
    exact h.issued token hmem
  cases i with
  | holder env token req =>
    by_cases hmem : token ∈ sys.held
    · simp only [System.step, if_pos hmem]
      refine { schema := (handle_writes svc env token req h.schema).schema h.schema
               issued := hauth env token req (h.held token hmem), held := ?_ }
      intro t ht
      obtain ht | ht := mem_collect ht
      · exact mem_collect_of_mem (h.held t ht)
      · rw [ht]
        exact List.mem_cons_self
    · simp only [System.step, if_neg hmem]
      exact h
  | other env token req =>
    by_cases hmem : token ∈ sys.issued
    · simp only [System.step, if_pos hmem]
      exact { schema := (handle_writes svc env token req h.schema).schema h.schema
              issued := hauth env token req hmem
              held := fun t ht => mem_collect_of_mem (h.held t ht) }
    · simp only [System.step, if_neg hmem]
      exact h
  | anonymous env req =>
    have hw := execute_writes svc env req.command h.schema
    refine { schema := hw.schema h.schema, issued := ?_
             held := fun t ht => mem_collect_of_mem (h.held t ht) }
    refine h.collect hw (fun t ht => ht) ?_
    intro adminUser dto he
    cases req <;> cases he

theorem reachable_sound {svc : Service} {sys : System} (h : ReachableSystem svc sys) :
    sys.Sound := by
  obtain ⟨seed, inputs, rfl⟩ := h
  refine run_invariant (I := System.Sound) (fun sys i hs => hs.step i) ?_ inputs
  exact { schema := seeded_schema seed
          issued := fun _ ht => absurd ht List.not_mem_nil
          held := fun _ ht => absurd ht List.not_mem_nil }

end SaasChassis.Identity
