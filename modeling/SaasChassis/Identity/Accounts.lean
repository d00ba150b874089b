/-
  Users, memberships and role assignment: UsersService, MembershipsService and
  RolesController.assignRole.

  Each method has a lemma that it does `Writes`. Events published to RabbitMQ are left out:
  nothing in this service reads them.
-/
import SaasChassis.Identity.Writes

namespace SaasChassis.Identity

open SaasChassis.Lib

/-- A member of a request body that may be left out or null. -/
inductive Patch (α : Type) where
  | undefined
  | null
  | value (a : α)

/-- Into a nullable column. -/
def Patch.nullable {α : Type} (p : Patch α) (old : Option α) : Option α :=
  match p with
  | .undefined => old
  | .null => none
  | .value a => some a

/-- Into a column that is not null; the database refuses a null. -/
def Patch.required {α : Type} (p : Patch α) (old : α) : Except HttpException α :=
  match p with
  | .undefined => .ok old
  | .null => .error .database
  | .value a => .ok a

structure CreateUserDto where
  email : String
  password : String
  displayName : String
  phone : Option String

structure UpdateUserDto where
  displayName : Patch String
  phone : Patch String
  avatarUrl : Patch String
  isActive : Patch Bool
  emailVerified : Patch Bool

structure CreateMembershipDto where
  userId : String
  tenantId : String
  roleId : String
  status : Option String

structure AssignRoleDto where
  userId : String
  tenantId : String
  roleId : String

/-! ## UsersService -/

namespace UsersService

def findByEmail (svc : Service) (db : IdentityDb) (email : String) : Option User :=
  db.users.find? (·.email = svc.toLowerCase email)

/-- `isPlatformAdmin` and `emailVerified` are no members of the request body. -/
def create (svc : Service) (env : Env) (dto : CreateUserDto) (db : IdentityDb) : Outcome User :=
  match findByEmail svc db dto.email with
  | some _ => (db, .error (.conflict s!"A user with email {dto.email} already exists"))
  | none =>
    let user : User :=
      { id := env.newId
        email := svc.toLowerCase dto.email
        emailVerified := false
        passwordHash := env.hashSync dto.password
        displayName := dto.displayName
        avatarUrl := none
        phone := dto.phone
        isPlatformAdmin := false
        isActive := true
        lastLoginAt := none }
    match insertUser user db with
    | .ok db' => (db', .ok user)
    | .error e => (db, .error e)

def patch (dto : UpdateUserDto) (user : User) : Except HttpException User :=
  match dto.displayName.required user.displayName, dto.isActive.required user.isActive,
      dto.emailVerified.required user.emailVerified with
  | .ok displayName, .ok isActive, .ok emailVerified =>
    .ok { user with
      displayName := displayName
      phone := dto.phone.nullable user.phone
      avatarUrl := dto.avatarUrl.nullable user.avatarUrl
      isActive := isActive
      emailVerified := emailVerified }
  | _, _, _ => .error .database

def update (id : String) (dto : UpdateUserDto) (db : IdentityDb) : Outcome User :=
  match findUserById db id with
  | .error e => (db, .error e)
  | .ok user =>
    match patch dto user with
    | .ok user => (saveUser user db, .ok user)
    | .error e => (db, .error e)

def softDelete (id : String) (db : IdentityDb) : Outcome Unit :=
  match findUserById db id with
  | .ok user => (saveUser { user with isActive := false } db, .ok ())
  | .error e => (db, .error e)

def updateLastLogin (env : Env) (id : String) (db : IdentityDb) : IdentityDb :=
  match findUserById db id with
  | .ok user => saveUser { user with lastLoginAt := some env.now } db
  | .error _ => db

/-- `create` fails and writes nothing, or adds an active user who is no platform
    administrator. -/
theorem create_cases (svc : Service) (env : Env) (dto : CreateUserDto) (db : IdentityDb) :
    (∃ e, create svc env dto db = (db, .error e)) ∨
    ∃ db' user, create svc env dto db = (db', .ok user) ∧ insertUser user db = .ok db' ∧
      user.isPlatformAdmin = false ∧ user.isActive = true := by
  unfold create
  split
  · exact Or.inl ⟨_, rfl⟩
  · dsimp only
    split
    next db' h => exact Or.inr ⟨db', _, rfl, h, rfl, rfl⟩
    next e h => exact Or.inl ⟨e, rfl⟩

theorem create_writes (svc : Service) (env : Env) (dto : CreateUserDto) (db : IdentityDb) :
    Writes db (create svc env dto db).1 := by
  obtain ⟨e, h⟩ | ⟨db', user, h, hins, _⟩ := create_cases svc env dto db
  · rw [h]
  · rw [h]
    exact .single (insertUser_write hins)

theorem patch_ok {dto : UpdateUserDto} {user user' : User} (h : patch dto user = .ok user') :
    user'.id = user.id ∧ user'.isPlatformAdmin = user.isPlatformAdmin := by
  unfold patch at h
  split at h
  · rw [← Except.ok.inj h]
    exact ⟨rfl, rfl⟩
  · cases h

theorem update_writes (id : String) (dto : UpdateUserDto) (db : IdentityDb) :
    Writes db (update id dto db).1 := by
  unfold update
  split
  next => exact .refl
  next user hu =>
    split
    next user' hp =>
      obtain ⟨hid, hflag⟩ := patch_ok hp
      exact .single (.saveUser user' user (findUserById_ok hu).1 hid hflag)
    next => exact .refl

theorem softDelete_writes (id : String) (db : IdentityDb) :
    Writes db (softDelete id db).1 := by
  unfold softDelete
  split
  next user h => exact .single (.saveUser _ user (findUserById_ok h).1 rfl rfl)
  next => exact .refl

theorem updateLastLogin_writes (env : Env) (id : String) (db : IdentityDb) :
    Writes db (updateLastLogin env id db) := by
  unfold updateLastLogin
  split
  next user h => exact .single (.saveUser _ user (findUserById_ok h).1 rfl rfl)
  next => exact .refl

end UsersService

/-! ## MembershipsService -/

namespace MembershipsService

def create (env : Env) (dto : CreateMembershipDto) (db : IdentityDb) : Outcome Membership :=
  let existing := findByUserAndTenant env db dto.userId dto.tenantId
  -- an unknown status fails at the database, after the other checks
  let status : Except HttpException MembershipStatus :=
    match dto.status with
    | none => .ok .active
    | some s => match MembershipStatus.parse s with
      | some status => .ok status
      | none => .error .database
  match findRoleById db dto.roleId with
  | .error e => (db, .error e)
  | .ok _ =>
    match existing with
    | some existing =>
      if existing.status ≠ .removed then
        (db, .error (.conflict
          s!"User {dto.userId} already has an active membership in tenant {dto.tenantId}"))
      else
        match status with
        | .error e => (db, .error e)
        | .ok status =>
          let saved := { existing with
            roleId := dto.roleId
            status := status
            joinedAt := some env.now }
          (saveMembership saved db, .ok saved)
    | none =>
      match status with
      | .error e => (db, .error e)
      | .ok status =>
        let membership : Membership :=
          { userId := dto.userId
            tenantId := dto.tenantId
            roleId := dto.roleId
            status := status
            joinedAt := some env.now }
        match insertMembership env membership db with
        | .ok db' => (db', .ok membership)
        | .error e => (db, .error e)

def remove (env : Env) (userId tenantId : String) (db : IdentityDb) : Outcome Unit :=
  match findByUserAndTenant env db userId tenantId with
  | some membership => (saveMembership { membership with status := .removed } db, .ok ())
  | none =>
    (db, .error (.notFound s!"No membership found for user {userId} in tenant {tenantId}"))

theorem create_writes (env : Env) (dto : CreateMembershipDto) (db : IdentityDb) :
    Writes db (create env dto db).1 := by
  unfold create
  dsimp only
  split
  next => exact .refl
  next role hrole =>
    have hr : ∃ r ∈ db.roles, r.id = dto.roleId := ⟨role, findRoleById_ok hrole⟩
    split
    next existing _ =>
      split
      · exact .refl
      · split
        · exact .refl
        · exact .single (.saveMembership _ hr)
    next =>
      split
      · exact .refl
      · split
        next db' hins => exact .single (insertMembership_write hins hr)
        next => exact .refl

theorem remove_writes {env : Env} {userId tenantId : String} {db : IdentityDb} (hs : db.Schema) :
    Writes db (remove env userId tenantId db).1 := by
  unfold remove
  split
  next m hm =>
    have hmem := (mem_visible.mp (findByUserAndTenant_some hm).1).1
    exact .single (.saveMembership _ (hs.memberships_role m hmem))
  next => exact .refl

end MembershipsService

/-! ## RolesController.assignRole -/

/-- An existing membership is removed first and then created again. -/
def assignRole (env : Env) (dto : AssignRoleDto) (db : IdentityDb) : Outcome Membership :=
  let create := fun db => MembershipsService.create env
    { userId := dto.userId, tenantId := dto.tenantId, roleId := dto.roleId, status := none } db
  match findByUserAndTenant env db dto.userId dto.tenantId with
  | some _ =>
    match MembershipsService.remove env dto.userId dto.tenantId db with
    | (db', .ok ()) => create db'
    | (db', .error e) => (db', .error e)
  | none => create db

theorem assignRole_writes {env : Env} {dto : AssignRoleDto} {db : IdentityDb} (hs : db.Schema) :
    Writes db (assignRole env dto db).1 := by
  have hremove := @MembershipsService.remove_writes env dto.userId dto.tenantId db hs
  unfold assignRole
  dsimp only
  split
  · split
    next db' h =>
      rw [h] at hremove
      exact hremove.trans (MembershipsService.create_writes env _ db')
    next db' e h =>
      rw [h] at hremove
      exact hremove
  · exact MembershipsService.create_writes env _ db

end SaasChassis.Identity
