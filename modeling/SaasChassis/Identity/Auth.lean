/-
  AuthService: the methods that issue access tokens, and those around them.

  An access token is modelled by its claims (`JwtPayload`); `Service.encode` gives the string.
  Three payloads are ever signed: `buildJwtPayload` of the first active membership (login,
  refresh, reissue), of whatever membership a user has in a tenant (switchTenant), and the
  impersonation payload. The `_ok` lemmas say which one a successful call signs; the `_writes`
  lemmas that nothing but rows of users and tokens changes.
-/
import SaasChassis.Identity.Accounts

namespace SaasChassis.Identity

open SaasChassis.Lib

structure TokenResponse where
  accessToken : JwtPayload
  refreshToken : String
  expiresIn : ℤ

structure AccessTokenResponse where
  accessToken : JwtPayload
  expiresIn : ℤ

namespace AuthService

/-! ## Helpers -/

/-- Seconds of a duration `(\d+)([smhd])`, 900 for anything else. -/
def parseDurationToSeconds (duration : String) : ℤ :=
  let value := fun digits : List Char => digits.foldl (fun n c => 10 * n + (c.toNat - 48 : ℤ)) 0
  match duration.toList.reverse with
  | unit :: digits =>
    if digits ≠ [] ∧ digits.all Char.isDigit then
      match unit with
      | 's' => value digits.reverse
      | 'm' => value digits.reverse * 60
      | 'h' => value digits.reverse * 3600
      | 'd' => value digits.reverse * 86400
      | _ => 900
    else 900
  | [] => 900

def getExpiresInSeconds (svc : Service) : ℤ := parseDurationToSeconds svc.jwtExpiry

/-- `jwtService.sign(payload, { expiresIn })`. -/
def sign (svc : Service) (env : Env) (expiresIn : String) (payload : UnsignedPayload) :
    JwtPayload :=
  { payload with
    iat := env.now / 1000
    exp := env.now / 1000 + svc.lifetime expiresIn }

def signAccessToken (svc : Service) (env : Env) (payload : UnsignedPayload) : JwtPayload :=
  sign svc env svc.jwtExpiry payload

/-- The names a role puts into a token; none without a role. -/
def roleNames : Option Role → List String
  | some role => [role.name]
  | none => []

def permissionNames : Option Role → List String
  | some role => role.permissions.map fun p => s!"{p.resource}:{p.action}"
  | none => []

def buildJwtPayload (db : IdentityDb) (user : User) (membership : Option Membership) :
    UnsignedPayload :=
  let role := membership.bind (·.role db)
  { sub := user.id
    email := user.email
    displayName := user.displayName
    isPlatformAdmin := user.isPlatformAdmin
    tenantId := membership.map (·.tenantId)
    tenantSlug := none
    roles := roleNames role
    permissions := permissionNames role
    isImpersonating := false
    realUserId := none }

/-- Default to first active membership tenant context. -/
def primaryMembership (env : Env) (db : IdentityDb) (userId : String) : Option Membership :=
  (findByUserId env db userId).find? (·.status = .active)

theorem primaryMembership_some {env : Env} {db : IdentityDb} {u : String} {m : Membership}
    (h : primaryMembership env db u = some m) :
    m ∈ visible env db ∧ m.userId = u ∧ m.status = .active := by
  obtain ⟨hmem, hu⟩ := mem_findByUserId.mp (List.mem_of_find?_eq_some h)
  exact ⟨hmem, hu, by simpa using List.find?_some h⟩

/-! ## Credentials -/

def loginAttempts (env : Env) (db : IdentityDb) (email : String) : Option LoginAttempts :=
  db.loginAttempts.find? fun a => a.email = email &&
    match a.expiresAt with
    | some endsAt => env.now < endsAt
    | none => true

/-- `INCR` and, on the first failure, `EXPIRE`. -/
def incrementLoginAttempts (svc : Service) (env : Env) (email : String) (db : IdentityDb) :
    IdentityDb :=
  let row : LoginAttempts :=
    match loginAttempts env db email with
    | some a => { a with count := a.count + 1 }
    | none =>
      { email := email, count := 1,
        expiresAt := some (env.now + 1000 * svc.loginBlockDurationSeconds) }
  { db with loginAttempts := row :: db.loginAttempts.filter (·.email ≠ email) }

def validateCredentials (svc : Service) (env : Env) (email password : String) (db : IdentityDb) :
    Outcome (Option User) :=
  let key := svc.toLowerCase email
  if (loginAttempts env db key).any (svc.loginMaxAttempts ≤ ·.count) then
    (db, .error (.unauthorized ("Account temporarily locked due to too many failed login " ++
      "attempts. Try again in 15 minutes.")))
  else
    match UsersService.findByEmail svc db email with
    | none => (incrementLoginAttempts svc env key db, .ok none)
    | some user =>
      if !user.isActive || !svc.compareSync password user.passwordHash then
        (incrementLoginAttempts svc env key db, .ok none)
      else
        ({ db with loginAttempts := db.loginAttempts.filter (·.email ≠ key) }, .ok (some user))

/-! ## Issuing -/

def issueTokens (svc : Service) (env : Env) (payload : UnsignedPayload) (userId : String)
    (ipAddress deviceInfo : Option String) (db : IdentityDb) : Outcome TokenResponse :=
  let rt : RefreshToken :=
    { userId := userId
      tokenHash := svc.sha256 env.randomToken
      deviceInfo := deviceInfo
      ipAddress := ipAddress
      expiresAt := env.now + parseDurationToSeconds svc.refreshExpiry * 1000
      revokedAt := none }
  match insertRefreshToken rt db with
  | .ok db' => (db', .ok
      { accessToken := signAccessToken svc env payload
        refreshToken := env.randomToken
        expiresIn := getExpiresInSeconds svc })
  | .error e => (db, .error e)

def login (svc : Service) (env : Env) (user : User) (ipAddress deviceInfo : Option String)
    (db : IdentityDb) : Outcome TokenResponse :=
  let payload := buildJwtPayload db user (primaryMembership env db user.id)
  match issueTokens svc env payload user.id ipAddress deviceInfo db with
  | (db', .ok res) => (UsersService.updateLastLogin env user.id db', .ok res)
  | (db', .error e) => (db', .error e)

def register (svc : Service) (env : Env) (dto : CreateUserDto) (db : IdentityDb) :
    Outcome TokenResponse :=
  match UsersService.create svc env dto db with
  | (db', .ok user) => login svc env user none none db'
  | (db', .error e) => (db', .error e)

def refreshAccessToken (svc : Service) (env : Env) (refreshTokenValue : String)
    (db : IdentityDb) : Except HttpException AccessTokenResponse :=
  let tokenHash := svc.sha256 refreshTokenValue
  if isRevoked env tokenHash db then .error (.unauthorized "Refresh token has been revoked")
  else
    match db.refreshTokens.find? (·.tokenHash = tokenHash) with
    | none => .error (.unauthorized "Invalid or expired refresh token")
    | some stored =>
      if stored.expiresAt < env.now ∨ stored.revokedAt ≠ none then
        .error (.unauthorized "Invalid or expired refresh token")
      else
        match db.users.find? (·.id = stored.userId) with
        | none => .error .database
        | some user =>
          if !user.isActive then .error (.unauthorized "User account is inactive")
          else
            let payload := buildJwtPayload db user (primaryMembership env db user.id)
            .ok { accessToken := signAccessToken svc env payload
                  expiresIn := getExpiresInSeconds svc }

def logout (svc : Service) (env : Env) (refreshTokenValue : String) (db : IdentityDb) :
    IdentityDb :=
  let tokenHash := svc.sha256 refreshTokenValue
  match db.refreshTokens.find? (·.tokenHash = tokenHash) with
  | none => db
  | some stored =>
    if stored.revokedAt ≠ none then db
    else
      let db := saveRefreshToken { stored with revokedAt := some env.now } db
      let ttl := max 0 ((stored.expiresAt - env.now) / 1000)
      if 0 < ttl then setRevoked tokenHash (env.now + ttl * 1000) db else db

def switchTenant (svc : Service) (env : Env) (userId tenantId : String) (db : IdentityDb) :
    Except HttpException AccessTokenResponse :=
  match findUserById db userId with
  | .error e => .error e
  | .ok user =>
    let membership := findByUserAndTenant env db userId tenantId
    if membership.isNone && !user.isPlatformAdmin then
      .error (.forbidden s!"User does not have access to tenant {tenantId}")
    else
      .ok { accessToken := signAccessToken svc env (buildJwtPayload db user membership)
            expiresIn := getExpiresInSeconds svc }

/-- `tenantMembership` of `issueImpersonationToken`: the row of user and tenant, else one of the
    user's rows with that tenant. -/
def tenantMembership (env : Env) (db : IdentityDb) (userId tenantId : String) :
    Option Membership :=
  match findByUserAndTenant env db userId tenantId with
  | some m => some m
  | none => (findByUserId env db userId).find? (·.tenantId = tenantId)

def issueImpersonationToken (svc : Service) (env : Env) (adminUser targetUser : User)
    (targetTenantId : String) (db : IdentityDb) : JwtPayload :=
  let role := (tenantMembership env db targetUser.id targetTenantId).bind (·.role db)
  sign svc env svc.impersonationExpiry
    { sub := targetUser.id
      email := targetUser.email
      displayName := targetUser.displayName
      -- impersonation tokens never grant platform admin
      isPlatformAdmin := false
      tenantId := some targetTenantId
      tenantSlug := none
      roles := roleNames role
      permissions := permissionNames role
      isImpersonating := true
      realUserId := some adminUser.id }

def revokeImpersonationToken (env : Env) (tokenHash : String) (expiresAt : ℤ)
    (db : IdentityDb) : IdentityDb :=
  let ttl := max 0 ((expiresAt - env.now) / 1000)
  if 0 < ttl then setRevoked tokenHash (env.now + ttl * 1000) db else db

def reissueAdminToken (svc : Service) (env : Env) (adminUserId : String) (db : IdentityDb) :
    Except HttpException AccessTokenResponse :=
  match findUserById db adminUserId with
  | .error e => .error e
  | .ok user =>
    let payload := buildJwtPayload db user (primaryMembership env db user.id)
    .ok { accessToken := signAccessToken svc env payload, expiresIn := getExpiresInSeconds svc }

/-! ## What a successful call signs -/

/-- The second look finds nothing the first one missed. -/
theorem tenantMembership_eq (env : Env) (db : IdentityDb) (u t : String) :
    tenantMembership env db u t = findByUserAndTenant env db u t := by
  unfold tenantMembership
  split
  next m h => exact h.symm
  next h =>
    rw [h, List.find?_eq_none]
    intro m hm
    obtain ⟨hvis, hu⟩ := mem_findByUserId.mp hm
    simpa using findByUserAndTenant_none h m hvis hu

theorem issueTokens_ok {svc : Service} {env : Env} {payload : UnsignedPayload} {userId : String}
    {ip device : Option String} {db db' : IdentityDb} {res : TokenResponse}
    (h : issueTokens svc env payload userId ip device db = (db', .ok res)) :
    res.accessToken.toUnsignedPayload = payload := by
  unfold issueTokens at h
  dsimp only at h
  split at h
  next => rw [← Except.ok.inj (Prod.mk.inj h).2]; rfl
  next => cases (Prod.mk.inj h).2

theorem login_ok {svc : Service} {env : Env} {user : User} {ip device : Option String}
    {db : IdentityDb} {res : TokenResponse} (h : (login svc env user ip device db).2 = .ok res) :
    res.accessToken.toUnsignedPayload =
      buildJwtPayload db user (primaryMembership env db user.id) := by
  unfold login at h
  dsimp only at h
  split at h
  next db' res' hi => rw [← Except.ok.inj h, issueTokens_ok hi]
  next => cases h

theorem refreshAccessToken_ok {svc : Service} {env : Env} {value : String} {db : IdentityDb}
    {res : AccessTokenResponse} (h : refreshAccessToken svc env value db = .ok res) :
    ∃ user ∈ db.users, user.isActive = true ∧ res.accessToken.toUnsignedPayload =
      buildJwtPayload db user (primaryMembership env db user.id) := by
  unfold refreshAccessToken at h
  dsimp only at h
  split_ifs at h
  split at h
  next => cases h
  next stored _ =>
    split_ifs at h
    split at h
    next => cases h
    next user hu =>
      split_ifs at h with hactive
      rw [← Except.ok.inj h]
      exact ⟨user, List.mem_of_find?_eq_some hu, by simpa using hactive, rfl⟩

theorem switchTenant_ok {svc : Service} {env : Env} {u t : String} {db : IdentityDb}
    {res : AccessTokenResponse} (h : switchTenant svc env u t db = .ok res) :
    ∃ user, findUserById db u = .ok user ∧
      (findByUserAndTenant env db u t = none → user.isPlatformAdmin = true) ∧
      res.accessToken.toUnsignedPayload =
        buildJwtPayload db user (findByUserAndTenant env db u t) := by
  unfold switchTenant at h
  split at h
  next => cases h
  next user hu =>
    dsimp only at h
    split at h
    next => cases h
    next hc =>
      refine ⟨user, hu, ?_, ?_⟩
      · intro hn
        simpa [hn] using hc
      · rw [← Except.ok.inj h]
        rfl

theorem reissueAdminToken_ok {svc : Service} {env : Env} {a : String} {db : IdentityDb}
    {res : AccessTokenResponse} (h : reissueAdminToken svc env a db = .ok res) :
    ∃ user, findUserById db a = .ok user ∧ res.accessToken.toUnsignedPayload =
      buildJwtPayload db user (primaryMembership env db user.id) := by
  unfold reissueAdminToken at h
  split at h
  next => cases h
  next user hu =>
    refine ⟨user, hu, ?_⟩
    rw [← Except.ok.inj h]
    rfl

/-- The payload for a user depends on roles and memberships alone. -/
theorem buildJwtPayload_congr {db db' : IdentityDb} (roles : db'.roles = db.roles)
    (memberships : db'.memberships = db.memberships) (env : Env) (user : User) :
    buildJwtPayload db' user (primaryMembership env db' user.id) =
      buildJwtPayload db user (primaryMembership env db user.id) := by
  unfold buildJwtPayload primaryMembership findByUserId visible Membership.role
  rw [roles, memberships]

/-- A token depends on users, roles and memberships alone. -/
theorem reissueAdminToken_congr {db db' : IdentityDb} (users : db'.users = db.users)
    (roles : db'.roles = db.roles) (memberships : db'.memberships = db.memberships)
    (svc : Service) (env : Env) (a : String) :
    reissueAdminToken svc env a db' = reissueAdminToken svc env a db := by
  unfold reissueAdminToken buildJwtPayload primaryMembership findByUserId visible findUserById
    Membership.role
  rw [users, roles, memberships]

/-! ## What the calls write -/

theorem elsewhere_writes {db db' : IdentityDb} (users : db'.users = db.users)
    (roles : db'.roles = db.roles) (memberships : db'.memberships = db.memberships) :
    Writes db db' :=
  .single (.elsewhere db' users roles memberships)

theorem validateCredentials_tables (svc : Service) (env : Env) (email password : String)
    (db : IdentityDb) :
    (validateCredentials svc env email password db).1.users = db.users ∧
    (validateCredentials svc env email password db).1.roles = db.roles ∧
    (validateCredentials svc env email password db).1.memberships = db.memberships := by
  unfold validateCredentials incrementLoginAttempts
  dsimp only
  split
  · exact ⟨rfl, rfl, rfl⟩
  · split
    · exact ⟨rfl, rfl, rfl⟩
    · split <;> exact ⟨rfl, rfl, rfl⟩

theorem validateCredentials_ok {svc : Service} {env : Env} {email password : String}
    {db db' : IdentityDb} {user : User}
    (h : validateCredentials svc env email password db = (db', .ok (some user))) :
    user ∈ db.users ∧ user.isActive = true := by
  unfold validateCredentials at h
  dsimp only at h
  split at h
  next => cases (Prod.mk.inj h).2
  next =>
    split at h
    next => cases (Prod.mk.inj h).2
    next found hf =>
      split at h
      next => cases (Prod.mk.inj h).2
      next hc =>
        obtain rfl := Option.some.inj (Except.ok.inj (Prod.mk.inj h).2)
        rw [Bool.or_eq_true, not_or] at hc
        exact ⟨List.mem_of_find?_eq_some hf, by simpa using hc.1⟩

theorem validateCredentials_writes (svc : Service) (env : Env) (email password : String)
    (db : IdentityDb) : Writes db (validateCredentials svc env email password db).1 := by
  obtain ⟨hu, hr, hm⟩ := validateCredentials_tables svc env email password db
  exact elsewhere_writes hu hr hm

theorem issueTokens_users (svc : Service) (env : Env) (payload : UnsignedPayload)
    (userId : String) (ip device : Option String) (db : IdentityDb) :
    (issueTokens svc env payload userId ip device db).1.users = db.users := by
  unfold issueTokens insertRefreshToken
  dsimp only
  split
  next db' h =>
    split at h
    · cases h
    · rw [← Except.ok.inj h]
  next => rfl

theorem issueTokens_writes (svc : Service) (env : Env) (payload : UnsignedPayload)
    (userId : String) (ip device : Option String) (db : IdentityDb) :
    Writes db (issueTokens svc env payload userId ip device db).1 := by
  unfold issueTokens
  dsimp only
  split
  next db' h => exact .single (insertRefreshToken_write h)
  next => exact .refl

theorem login_writes (svc : Service) (env : Env) (user : User) (ip device : Option String)
    (db : IdentityDb) : Writes db (login svc env user ip device db).1 := by
  have hissue := issueTokens_writes svc env
    (buildJwtPayload db user (primaryMembership env db user.id)) user.id ip device db
  unfold login
  dsimp only
  split
  next db' res h =>
    rw [h] at hissue
    exact hissue.trans (UsersService.updateLastLogin_writes env user.id db')
  next db' e h =>
    rw [h] at hissue
    exact hissue

theorem register_writes (svc : Service) (env : Env) (dto : CreateUserDto) (db : IdentityDb) :
    Writes db (register svc env dto db).1 := by
  have hcreate := UsersService.create_writes svc env dto db
  unfold register
  split
  next db' user h =>
    rw [h] at hcreate
    exact hcreate.trans (login_writes svc env user none none db')
  next db' e h =>
    rw [h] at hcreate
    exact hcreate

theorem logout_writes (svc : Service) (env : Env) (value : String) (db : IdentityDb) :
    Writes db (logout svc env value db) := by
  unfold logout
  dsimp only
  split
  · exact .refl
  · split
    · exact .refl
    · split <;> exact elsewhere_writes rfl rfl rfl

end AuthService

end SaasChassis.Identity
