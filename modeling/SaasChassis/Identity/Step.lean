/-
  The identity service as a machine on its tables.

  A command is one call of a service method, or a hand changing a membership's status (the
  service itself never suspends anyone). `execute` gives the tables after it and the access
  token it issues, if any. All a command does is `Writes` (`execute_writes`), so a reachable
  state satisfies the schema (`reachable_schema`).
-/
import SaasChassis.Identity.Impersonation
import SaasChassis.Lib.Runs

namespace SaasChassis.Identity

open SaasChassis.Lib

inductive IdentityCommand where
  | login (email password : String) (ipAddress deviceInfo : Option String)
  | register (dto : CreateUserDto)
  | refresh (refreshToken : String)
  | logout (refreshToken : String)
  | switchTenant (userId tenantId : String)
  | startImpersonation (adminUser : JwtPayload) (dto : ImpersonateDto)
  | endImpersonation (currentUser : JwtPayload)
  | createUser (dto : CreateUserDto)
  | updateUser (id : String) (dto : UpdateUserDto)
  | removeUser (id : String)
  | createMembership (dto : CreateMembershipDto)
  | removeMembership (userId tenantId : String)
  | assignRole (dto : AssignRoleDto)
  | setStatus (userId tenantId : String) (status : MembershipStatus)

/-- LocalStrategy and the login endpoint behind it. -/
def loginEndpoint (svc : Service) (env : Env) (email password : String)
    (ipAddress deviceInfo : Option String) (db : IdentityDb) : Outcome TokenResponse :=
  match AuthService.validateCredentials svc env email password db with
  | (db, .error e) => (db, .error e)
  | (db, .ok none) => (db, .error (.unauthorized "Invalid email or password"))
  | (db, .ok (some user)) => AuthService.login svc env user ipAddress deviceInfo db

def setStatus (userId tenantId : String) (status : MembershipStatus) (db : IdentityDb) :
    IdentityDb :=
  match db.memberships.find? (·.key = (userId, tenantId)) with
  | some m => saveMembership { m with status := status } db
  | none => db

/-- The outcome of a method that issues no token. -/
def silent {α : Type} (o : Outcome α) : Outcome (Option JwtPayload) := (o.1, o.2.map fun _ => none)

def execute (svc : Service) (env : Env) (cmd : IdentityCommand) (db : IdentityDb) :
    Outcome (Option JwtPayload) :=
  match cmd with
  | .login email password ip device =>
    let o := loginEndpoint svc env email password ip device db
    (o.1, o.2.map fun res => some res.accessToken)
  | .register dto =>
    let o := AuthService.register svc env dto db
    (o.1, o.2.map fun res => some res.accessToken)
  | .refresh value =>
    (db, (AuthService.refreshAccessToken svc env value db).map fun res => some res.accessToken)
  | .logout value => (AuthService.logout svc env value db, .ok none)
  | .switchTenant u t =>
    (db, (AuthService.switchTenant svc env u t db).map fun res => some res.accessToken)
  | .startImpersonation adminUser dto =>
    let o := ImpersonationService.startImpersonation svc env adminUser dto db
    (o.1, o.2.map fun res => some res.1)
  | .endImpersonation currentUser =>
    let o := ImpersonationService.endImpersonation svc env currentUser db
    (o.1, o.2.map fun res => some res.accessToken)
  | .createUser dto => silent (UsersService.create svc env dto db)
  | .updateUser id dto => silent (UsersService.update id dto db)
  | .removeUser id => silent (UsersService.softDelete id db)
  | .createMembership dto => silent (MembershipsService.create env dto db)
  | .removeMembership u t => silent (MembershipsService.remove env u t db)
  | .assignRole dto => silent (assignRole env dto db)
  | .setStatus u t status => (setStatus u t status db, .ok none)

def step (svc : Service) (db : IdentityDb) (i : Env × IdentityCommand) : IdentityDb :=
  (execute svc i.1 i.2 db).1

/-! ## What a command writes -/

theorem loginEndpoint_writes (svc : Service) (env : Env) (email password : String)
    (ip device : Option String) (db : IdentityDb) :
    Writes db (loginEndpoint svc env email password ip device db).1 := by
  have hcheck := AuthService.validateCredentials_writes svc env email password db
  unfold loginEndpoint
  split
  next db' e h =>
    rw [h] at hcheck
    exact hcheck
  next db' h =>
    rw [h] at hcheck
    exact hcheck
  next db' user h =>
    rw [h] at hcheck
    exact hcheck.trans (AuthService.login_writes svc env user ip device db')

theorem setStatus_writes {userId tenantId : String} {status : MembershipStatus} {db : IdentityDb}
    (hs : db.Schema) : Writes db (setStatus userId tenantId status db) := by
  unfold setStatus
  split
  next m h =>
    exact .single (.saveMembership _ (hs.memberships_role m (List.mem_of_find?_eq_some h)))
  next => exact .refl

theorem execute_writes (svc : Service) (env : Env) (cmd : IdentityCommand) {db : IdentityDb}
    (hs : db.Schema) : Writes db (execute svc env cmd db).1 := by
  cases cmd with
  | login email password ip device =>
    exact loginEndpoint_writes svc env email password ip device db
  | register dto => exact AuthService.register_writes svc env dto db
  | refresh value => exact .refl
  | logout value => exact AuthService.logout_writes svc env value db
  | switchTenant u t => exact .refl
  | startImpersonation adminUser dto =>
    exact ImpersonationService.startImpersonation_writes svc env adminUser dto db
  | endImpersonation currentUser =>
    exact ImpersonationService.endImpersonation_writes svc env currentUser db
  | createUser dto => exact UsersService.create_writes svc env dto db
  | updateUser id dto => exact UsersService.update_writes id dto db
  | removeUser id => exact UsersService.softDelete_writes id db
  | createMembership dto => exact MembershipsService.create_writes env dto db
  | removeMembership u t => exact MembershipsService.remove_writes hs
  | assignRole dto => exact assignRole_writes hs
  | setStatus u t status => exact setStatus_writes hs

/-! ## Reachable states -/

def Reachable (svc : Service) (db : IdentityDb) : Prop :=
  ∃ seed cmds, db = run (step svc) (IdentityDb.seeded seed) cmds

theorem reachable_schema {svc : Service} {db : IdentityDb} (h : Reachable svc db) : db.Schema := by
  obtain ⟨seed, cmds, rfl⟩ := h
  refine run_invariant (I := IdentityDb.Schema) ?_ (seeded_schema seed) cmds
  intro db i hs
  exact (execute_writes svc i.1 i.2 hs).schema hs

/-! ## Tokens -/

/-- The payloads a command can have signed. -/
inductive Signs (svc : Service) (env : Env) (db : IdentityDb) :
    IdentityCommand → UnsignedPayload → Prop
  | login (email password : String) (ip device : Option String) (user : User)
      (mem : user ∈ db.users) :
      Signs svc env db (.login email password ip device)
        (AuthService.buildJwtPayload db user (AuthService.primaryMembership env db user.id))
  | register (dto : CreateUserDto) (user : User) (flag : user.isPlatformAdmin = false) :
      Signs svc env db (.register dto)
        (AuthService.buildJwtPayload db user (AuthService.primaryMembership env db user.id))
  | refresh (value : String) (user : User) (mem : user ∈ db.users) :
      Signs svc env db (.refresh value)
        (AuthService.buildJwtPayload db user (AuthService.primaryMembership env db user.id))
  | switchTenant (u t : String) (user : User) (mem : user ∈ db.users) (id : user.id = u)
      (found : findByUserAndTenant env db u t = none → user.isPlatformAdmin = true) :
      Signs svc env db (.switchTenant u t)
        (AuthService.buildJwtPayload db user (findByUserAndTenant env db u t))
  | startImpersonation (adminUser : JwtPayload) (dto : ImpersonateDto) (admin target : User)
      (caller : adminUser.isPlatformAdmin = true) (adminMem : admin ∈ db.users)
      (adminId : admin.id = adminUser.sub) (targetMem : target ∈ db.users)
      (targetId : target.id = dto.targetUserId) (flag : target.isPlatformAdmin = false) :
      Signs svc env db (.startImpersonation adminUser dto)
        (AuthService.issueImpersonationToken svc env admin target dto.targetTenantId
          db).toUnsignedPayload
  | endImpersonation (currentUser : JwtPayload) (realUserId : String) (user : User)
      (imp : currentUser.isImpersonating = true) (real : currentUser.realUserId = some realUserId)
      (mem : user ∈ db.users) (id : user.id = realUserId) :
      Signs svc env db (.endImpersonation currentUser)
        (AuthService.buildJwtPayload db user (AuthService.primaryMembership env db user.id))

theorem map_ok {ε α β : Type} {x : Except ε α} {f : α → β} {b : β} (h : x.map f = .ok b) :
    ∃ a, x = .ok a ∧ f a = b := by
  cases x with
  | error e => cases h
  | ok a => exact ⟨a, rfl, Except.ok.inj h⟩

/-- A command that answers with a token has a response that holds it. -/
theorem map_some_ok {ε α β : Type} {x : Except ε α} {f : α → β} {b : β}
    (h : x.map (fun a => some (f a)) = .ok (some b)) : ∃ a, x = .ok a ∧ f a = b := by
  obtain ⟨a, hx, he⟩ := map_ok h
  exact ⟨a, hx, Option.some.inj he⟩

theorem silent_ne {α : Type} {o : Outcome α} {token : JwtPayload} :
    (silent o).2 ≠ .ok (some token) := by
  intro h
  obtain ⟨a, _, he⟩ := map_ok h
  cases he

theorem loginEndpoint_signs {svc : Service} {env : Env} {email password : String}
    {ip device : Option String} {db : IdentityDb} {res : TokenResponse}
    (h : (loginEndpoint svc env email password ip device db).2 = .ok res) :
    Signs svc env db (.login email password ip device) res.accessToken.toUnsignedPayload := by
  have htables := AuthService.validateCredentials_tables svc env email password db
  unfold loginEndpoint at h
  split at h
  next => cases h
  next => cases h
  next db' user hc =>
    rw [hc] at htables
    rw [AuthService.login_ok h, AuthService.buildJwtPayload_congr htables.2.1 htables.2.2]
    exact .login email password ip device user (AuthService.validateCredentials_ok hc).1

theorem register_signs {svc : Service} {env : Env} {dto : CreateUserDto} {db : IdentityDb}
    {res : TokenResponse} (h : (AuthService.register svc env dto db).2 = .ok res) :
    Signs svc env db (.register dto) res.accessToken.toUnsignedPayload := by
  unfold AuthService.register at h
  obtain ⟨e, hc⟩ | ⟨db', user, hc, hins, hflag, -⟩ := UsersService.create_cases svc env dto db
  · rw [hc] at h
    cases h
  · rw [hc] at h
    have htables : db'.roles = db.roles ∧ db'.memberships = db.memberships := by
      unfold insertUser at hins
      split at hins
      · cases hins
      · rw [← Except.ok.inj hins]
        exact ⟨rfl, rfl⟩
    rw [AuthService.login_ok h, AuthService.buildJwtPayload_congr htables.1 htables.2]
    exact .register dto user hflag

theorem execute_signs {svc : Service} {env : Env} {cmd : IdentityCommand} {db : IdentityDb}
    {token : JwtPayload} (h : (execute svc env cmd db).2 = .ok (some token)) :
    Signs svc env db cmd token.toUnsignedPayload := by
  cases cmd with
  | login email password ip device =>
    obtain ⟨res, hres, rfl⟩ := map_some_ok h
    exact loginEndpoint_signs hres
  | register dto =>
    obtain ⟨res, hres, rfl⟩ := map_some_ok h
    exact register_signs hres
  | refresh value =>
    obtain ⟨res, hres, rfl⟩ := map_some_ok h
    obtain ⟨user, hmem, -, hp⟩ := AuthService.refreshAccessToken_ok hres
    rw [hp]
    exact .refresh value user hmem
  | switchTenant u t =>
    obtain ⟨res, hres, rfl⟩ := map_some_ok h
    obtain ⟨user, huser, hfound, hp⟩ := AuthService.switchTenant_ok hres
    obtain ⟨hmem, hid⟩ := findUserById_ok huser
    rw [hp]
    exact .switchTenant u t user hmem hid hfound
  | startImpersonation adminUser dto =>
    obtain ⟨res, hres, rfl⟩ := map_some_ok h
    obtain ⟨hcaller, admin, target, ha, ht, -, hflag, hp⟩ :=
      ImpersonationService.startImpersonation_ok hres
    obtain ⟨hamem, haid⟩ := findUserById_ok ha
    obtain ⟨htmem, htid⟩ := findUserById_ok ht
    rw [hp]
    exact .startImpersonation adminUser dto admin target hcaller hamem haid htmem htid hflag
  | endImpersonation currentUser =>
    obtain ⟨res, hres, rfl⟩ := map_some_ok h
    obtain ⟨himp, realUserId, hreal, -, hreissue⟩ := ImpersonationService.endImpersonation_ok hres
    obtain ⟨user, huser, hp⟩ := AuthService.reissueAdminToken_ok hreissue
    obtain ⟨hmem, hid⟩ := findUserById_ok huser
    rw [hp]
    exact .endImpersonation currentUser realUserId user himp hreal hmem hid
  | logout value => cases h
  | setStatus u t status => cases h
  | createUser dto => exact absurd h silent_ne
  | updateUser id dto => exact absurd h silent_ne
  | removeUser id => exact absurd h silent_ne
  | createMembership dto => exact absurd h silent_ne
  | removeMembership u t => exact absurd h silent_ne
  | assignRole dto => exact absurd h silent_ne

/-! ## A small directory, for the concrete runs of the modules below -/

namespace Sample

/-- Tokens are told apart by subject and time, a password is its own hash. -/
def svc : Service :=
  { encode := fun p => p.sub ++ "." ++ toString p.iat
    sha256 := fun s => "sha256:" ++ s
    lifetime := fun _ => 900
    compareSync := fun password hash => password == hash
    toLowerCase := String.toLower
    jwtExpiry := "15m"
    refreshExpiry := "7d"
    impersonationExpiry := "30m"
    loginMaxAttempts := 5
    loginBlockDurationSeconds := 900 }

/-- A request `s` seconds after the epoch, with every tenant in sight. -/
def clock (s : ℤ) : Env :=
  { now := 1000 * s
    newId := "id-" ++ toString s
    randomToken := "random-" ++ toString s
    hashSync := fun password => password
    sees := fun _ => true
    scan := fun rows => rows
    scan_perm := fun _ => .rfl }

def user (id : String) (admin : Bool) : User :=
  { id := id, email := id ++ "@example.com", emailVerified := true, passwordHash := "Passw0rd",
    displayName := id, avatarUrl := none, phone := none, isPlatformAdmin := admin,
    isActive := true, lastLoginAt := none }

def member : Role :=
  { id := "r1", tenantId := none, name := "member", permissions := [⟨"ledger", "read"⟩] }

/-- The administrator `root` and the user `ann`. -/
def seed : Seed :=
  { users := [user "root" true, user "ann" false], roles := [member], users_pkey := by decide }

/-- `ann` joins the tenant `t1`. -/
def joined : Env × IdentityCommand :=
  (clock 1, .createMembership ⟨"ann", "t1", "r1", none⟩)

/-- `ann` leaves it again. -/
def left : Env × IdentityCommand := (clock 2, .removeMembership "ann" "t1")

def directory (cmds : List (Env × IdentityCommand)) : IdentityDb :=
  run (step svc) (IdentityDb.seeded seed) cmds

theorem directory_reachable (cmds : List (Env × IdentityCommand)) :
    Reachable svc (directory cmds) :=
  ⟨seed, cmds, rfl⟩

end Sample

end SaasChassis.Identity
