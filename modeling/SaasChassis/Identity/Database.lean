/-
  The identity service's tables, and the reads its repositories make.

  Rows carry the columns the modelled code reads or writes. The Redis keys of the service
  (revoked token hashes, failed logins) are two more tables here.

  A query over memberships sees the rows that row-level security shows to its connection, in the
  order Postgres scans them; both are up to the environment (`Env.sees`, `Env.scan`).
  `Schema` holds the constraints the proofs rely on, `Seed` a database before its first request.
-/
import SaasChassis.Lib.KeyedRows
import SaasChassis.Identity.JwtPayload

namespace SaasChassis.Identity

open SaasChassis.Lib

/-! ## Rows -/

structure User where
  id : String
  email : String
  emailVerified : Bool
  passwordHash : String
  displayName : String
  avatarUrl : Option String
  phone : Option String
  isPlatformAdmin : Bool
  isActive : Bool
  lastLoginAt : Option ℤ
  deriving DecidableEq, Repr

structure Permission where
  resource : String
  action : String
  deriving DecidableEq, Repr

structure Role where
  id : String
  tenantId : Option String
  name : String
  permissions : List Permission
  deriving DecidableEq, Repr

inductive MembershipStatus where
  | active | invited | suspended | removed
  deriving DecidableEq, Repr

/-- The values of the database's enum. -/
def MembershipStatus.parse : String → Option MembershipStatus
  | "active" => some .active
  | "invited" => some .invited
  | "suspended" => some .suspended
  | "removed" => some .removed
  | _ => none

structure Membership where
  userId : String
  tenantId : String
  roleId : String
  status : MembershipStatus
  joinedAt : Option ℤ
  deriving DecidableEq, Repr

/-- The columns of `uq_user_tenant`. -/
def Membership.key (m : Membership) : String × String := (m.userId, m.tenantId)

structure RefreshToken where
  userId : String
  tokenHash : String
  deviceInfo : Option String
  ipAddress : Option String
  expiresAt : ℤ
  revokedAt : Option ℤ
  deriving DecidableEq, Repr

structure ImpersonationSession where
  id : String
  adminUserId : String
  targetUserId : String
  targetTenantId : String
  reason : String
  tokenHash : String
  expiresAt : ℤ
  endedAt : Option ℤ
  createdAt : ℤ
  deriving DecidableEq, Repr

structure LoginAttempts where
  email : String
  count : ℤ
  /-- `none` until the key got a time to live. -/
  expiresAt : Option ℤ
  deriving DecidableEq, Repr

structure IdentityDb where
  users : List User
  roles : List Role
  memberships : List Membership
  refreshTokens : List RefreshToken
  sessions : List ImpersonationSession
  /-- `revoked:<hash>` keys with their end, in milliseconds. -/
  revoked : List (String × ℤ)
  loginAttempts : List LoginAttempts

/-! ## Surroundings -/

/-- Configuration and the libraries behind it. -/
structure Service where
  /-- The compact form of a signed token. -/
  encode : JwtPayload → String
  sha256 : String → String
  /-- jsonwebtoken's reading of `expiresIn`, in seconds. -/
  lifetime : String → ℤ
  /-- bcrypt's `compareSync`. -/
  compareSync : String → String → Bool
  toLowerCase : String → String
  jwtExpiry : String
  refreshExpiry : String
  impersonationExpiry : String
  loginMaxAttempts : ℤ
  loginBlockDurationSeconds : ℤ

/-- What one request finds: clock, random values and its database connection. -/
structure Env where
  /-- `Date.now()`, in milliseconds. -/
  now : ℤ
  newId : String
  /-- 64 random bytes in hex. -/
  randomToken : String
  /-- bcrypt's `hashSync` with a fresh salt. -/
  hashSync : String → String
  /-- The tenants whose rows the row-level policies show. -/
  sees : String → Bool
  scan : List Membership → List Membership
  scan_perm : ∀ rows, (scan rows).Perm rows

inductive HttpException where
  | unauthorized (message : String)
  | forbidden (message : String)
  | notFound (message : String)
  | conflict (message : String)
  /-- A violated constraint or policy; answered with status 500. -/
  | database
  deriving DecidableEq, Repr

/-- The tables after a request, and its outcome. What was written before a failure stays. -/
abbrev Outcome (α : Type) := IdentityDb × Except HttpException α

/-! ## Reads -/

/-- `UsersService.findById`. -/
def findUserById (db : IdentityDb) (id : String) : Except HttpException User :=
  match db.users.find? (·.id = id) with
  | some user => .ok user
  | none => .error (.notFound s!"User with ID {id} not found")

/-- `RolesService.findById`. -/
def findRoleById (db : IdentityDb) (id : String) : Except HttpException Role :=
  match db.roles.find? (·.id = id) with
  | some role => .ok role
  | none => .error (.notFound s!"Role with ID {id} not found")

/-- The `role` relation of a membership. -/
def Membership.role (db : IdentityDb) (m : Membership) : Option Role :=
  db.roles.find? (·.id = m.roleId)

def visible (env : Env) (db : IdentityDb) : List Membership :=
  env.scan (db.memberships.filter fun m => env.sees m.tenantId)

/-- `MembershipsService.findByUserId`. -/
def findByUserId (env : Env) (db : IdentityDb) (userId : String) : List Membership :=
  (visible env db).filter (·.userId = userId)

/-- `MembershipsService.findByUserAndTenant`. -/
def findByUserAndTenant (env : Env) (db : IdentityDb) (userId tenantId : String) :
    Option Membership :=
  (visible env db).find? fun m => m.userId = userId && m.tenantId = tenantId

theorem findUserById_ok {db : IdentityDb} {id : String} {user : User}
    (h : findUserById db id = .ok user) : user ∈ db.users ∧ user.id = id := by
  unfold findUserById at h
  split at h
  next found hf =>
    obtain rfl := Except.ok.inj h
    exact ⟨List.mem_of_find?_eq_some hf, by simpa using List.find?_some hf⟩
  next => cases h

theorem findRoleById_ok {db : IdentityDb} {id : String} {role : Role}
    (h : findRoleById db id = .ok role) : role ∈ db.roles ∧ role.id = id := by
  unfold findRoleById at h
  split at h
  next found hf =>
    obtain rfl := Except.ok.inj h
    exact ⟨List.mem_of_find?_eq_some hf, by simpa using List.find?_some hf⟩
  next => cases h

theorem mem_visible {env : Env} {db : IdentityDb} {m : Membership} :
    m ∈ visible env db ↔ m ∈ db.memberships ∧ env.sees m.tenantId = true := by
  rw [visible, (env.scan_perm _).mem_iff, List.mem_filter]

theorem mem_findByUserId {env : Env} {db : IdentityDb} {u : String} {m : Membership} :
    m ∈ findByUserId env db u ↔ m ∈ visible env db ∧ m.userId = u := by
  rw [findByUserId, List.mem_filter, decide_eq_true_eq]

theorem findByUserAndTenant_some {env : Env} {db : IdentityDb} {u t : String} {m : Membership}
    (h : findByUserAndTenant env db u t = some m) :
    m ∈ visible env db ∧ m.userId = u ∧ m.tenantId = t := by
  have hm := List.find?_some h
  simp only [Bool.and_eq_true, decide_eq_true_eq] at hm
  exact ⟨List.mem_of_find?_eq_some h, hm⟩

theorem findByUserAndTenant_none {env : Env} {db : IdentityDb} {u t : String}
    (h : findByUserAndTenant env db u t = none) :
    ∀ m ∈ visible env db, m.userId = u → m.tenantId ≠ t := by
  intro m hm hu ht
  have hn := List.find?_eq_none.mp h m hm
  simp [hu, ht] at hn

/-- A user has at most one row in a tenant, so the query finds it when the connection sees it. -/
theorem findByUserAndTenant_of_mem {env : Env} {db : IdentityDb} {u t : String} {m : Membership}
    (hnd : (db.memberships.map Membership.key).Nodup) (hvis : m ∈ visible env db)
    (hu : m.userId = u) (ht : m.tenantId = t) : findByUserAndTenant env db u t = some m := by
  cases hf : findByUserAndTenant env db u t with
  | none => exact absurd ht (findByUserAndTenant_none hf m hvis hu)
  | some n =>
    obtain ⟨hnvis, hnu, hnt⟩ := findByUserAndTenant_some hf
    rw [nodup_keys_inj hnd (mem_visible.mp hnvis).1 (mem_visible.mp hvis).1
      (Prod.ext (hnu.trans hu.symm) (hnt.trans ht.symm))]

/-! ## Constraints -/

structure IdentityDb.Schema (db : IdentityDb) : Prop where
  users_pkey : (db.users.map (·.id)).Nodup
  uq_user_tenant : (db.memberships.map Membership.key).Nodup
  /-- Kept by the service, not by a foreign key. -/
  memberships_role : ∀ m ∈ db.memberships, ∃ role ∈ db.roles, role.id = m.roleId

/-- Users and roles put in by migrations and by hand. -/
structure Seed where
  users : List User
  roles : List Role
  users_pkey : (users.map (·.id)).Nodup

def IdentityDb.seeded (seed : Seed) : IdentityDb :=
  { users := seed.users, roles := seed.roles, memberships := [], refreshTokens := [],
    sessions := [], revoked := [], loginAttempts := [] }

theorem seeded_schema (seed : Seed) : (IdentityDb.seeded seed).Schema :=
  { users_pkey := seed.users_pkey
    uq_user_tenant := List.nodup_nil
    memberships_role := fun _ hm => absurd hm List.not_mem_nil }

namespace IdentityDb.Schema

variable {db : IdentityDb} (hs : db.Schema)
include hs

theorem user_unique {u v : User} (hu : u ∈ db.users) (hv : v ∈ db.users) (h : u.id = v.id) :
    u = v :=
  nodup_keys_inj hs.users_pkey hu hv h

theorem findUserById_of_mem {user : User} (h : user ∈ db.users) :
    findUserById db user.id = .ok user := by
  unfold findUserById
  cases hf : db.users.find? (·.id = user.id) with
  | none => exact absurd (List.find?_eq_none.mp hf user h) (by simp)
  | some v =>
    have hid : v.id = user.id := by simpa using List.find?_some hf
    rw [user_unique hs (List.mem_of_find?_eq_some hf) h hid]

theorem membership_unique {m n : Membership} (hm : m ∈ db.memberships) (hn : n ∈ db.memberships)
    (hu : m.userId = n.userId) (ht : m.tenantId = n.tenantId) : m = n :=
  nodup_keys_inj hs.uq_user_tenant hm hn (Prod.ext hu ht)

theorem findByUserAndTenant_eq {env : Env} {u t : String} {m : Membership}
    (hvis : m ∈ visible env db) (hu : m.userId = u) (ht : m.tenantId = t) :
    findByUserAndTenant env db u t = some m :=
  findByUserAndTenant_of_mem hs.uq_user_tenant hvis hu ht

theorem role_isSome {m : Membership} (hm : m ∈ db.memberships) : ∃ role, m.role db = some role := by
  obtain ⟨role, hr, hid⟩ := hs.memberships_role m hm
  have hsome : (m.role db).isSome = true := by
    rw [Membership.role, List.find?_isSome]
    exact ⟨role, hr, by simpa using hid⟩
  exact Option.isSome_iff_exists.mp hsome

end IdentityDb.Schema

end SaasChassis.Identity
