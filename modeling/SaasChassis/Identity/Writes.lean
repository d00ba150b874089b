/-
  The statements that change the identity service's tables, one transaction each.

  An insert fails on a violated constraint or policy; a save rewrites the row it was read from.
  `Write` is what one statement can do to the tables, `Writes` a sequence of them: every
  service method is shown to do `Writes`, so its invariants follow from one step
  (`Writes.schema`) and what is kept by every one of them is kept for good
  (`Writes.flag`).
-/
import Mathlib.Logic.Relation
import SaasChassis.Identity.Database

namespace SaasChassis.Identity

open SaasChassis.Lib

/-! ## Statements -/

def insertUser (user : User) (db : IdentityDb) : Except HttpException IdentityDb :=
  if db.users.any fun u => u.id = user.id || u.email = user.email then .error .database
  else .ok { db with users := db.users ++ [user] }

def saveUser (user : User) (db : IdentityDb) : IdentityDb :=
  { db with users := updateKey (·.id) user.id (fun _ => user) db.users }

def insertMembership (env : Env) (m : Membership) (db : IdentityDb) :
    Except HttpException IdentityDb :=
  if m.key ∈ db.memberships.map Membership.key || db.users.all (·.id ≠ m.userId) ||
      !env.sees m.tenantId then .error .database
  else .ok { db with memberships := db.memberships ++ [m] }

def saveMembership (m : Membership) (db : IdentityDb) : IdentityDb :=
  { db with memberships := updateKey Membership.key m.key (fun _ => m) db.memberships }

def insertRefreshToken (rt : RefreshToken) (db : IdentityDb) : Except HttpException IdentityDb :=
  if db.refreshTokens.any (·.tokenHash = rt.tokenHash) then .error .database
  else .ok { db with refreshTokens := db.refreshTokens ++ [rt] }

def saveRefreshToken (rt : RefreshToken) (db : IdentityDb) : IdentityDb :=
  { db with refreshTokens := updateKey (·.tokenHash) rt.tokenHash (fun _ => rt) db.refreshTokens }

def insertSession (env : Env) (s : ImpersonationSession) (db : IdentityDb) :
    Except HttpException IdentityDb :=
  if db.sessions.any (·.id = s.id) || !env.sees s.targetTenantId then .error .database
  else .ok { db with sessions := db.sessions ++ [s] }

def saveSession (s : ImpersonationSession) (db : IdentityDb) : IdentityDb :=
  { db with sessions := updateKey (·.id) s.id (fun _ => s) db.sessions }

/-- `SETEX revoked:<hash> ttl`. -/
def setRevoked (tokenHash : String) (endsAt : ℤ) (db : IdentityDb) : IdentityDb :=
  { db with revoked := (tokenHash, endsAt) :: db.revoked.filter (·.1 ≠ tokenHash) }

def isRevoked (env : Env) (tokenHash : String) (db : IdentityDb) : Bool :=
  db.revoked.any fun r => r.1 = tokenHash && env.now < r.2

/-! ## What they write -/

inductive Write (db : IdentityDb) : IdentityDb → Prop
  | insertUser (user : User) (fresh : ∀ u ∈ db.users, u.id ≠ user.id) :
      Write db { db with users := db.users ++ [user] }
  | saveUser (user old : User) (mem : old ∈ db.users) (id : user.id = old.id)
      (flag : user.isPlatformAdmin = old.isPlatformAdmin) : Write db (saveUser user db)
  | insertMembership (m : Membership) (fresh : m.key ∉ db.memberships.map Membership.key)
      (role : ∃ role ∈ db.roles, role.id = m.roleId) :
      Write db { db with memberships := db.memberships ++ [m] }
  | saveMembership (m : Membership) (role : ∃ role ∈ db.roles, role.id = m.roleId) :
      Write db (saveMembership m db)
  | elsewhere (db' : IdentityDb) (users : db'.users = db.users) (roles : db'.roles = db.roles)
      (memberships : db'.memberships = db.memberships) : Write db db'

abbrev Writes : IdentityDb → IdentityDb → Prop := Relation.ReflTransGen Write

theorem insertUser_write {user : User} {db db' : IdentityDb} (h : insertUser user db = .ok db') :
    Write db db' := by
  unfold insertUser at h
  split at h
  next => cases h
  next hn =>
    obtain rfl := Except.ok.inj h
    simp only [List.any_eq_true, Bool.or_eq_true, decide_eq_true_eq, not_exists, not_and,
      not_or] at hn
    exact .insertUser user fun u hu => (hn u hu).1

theorem insertMembership_write {env : Env} {m : Membership} {db db' : IdentityDb}
    (h : insertMembership env m db = .ok db') (role : ∃ role ∈ db.roles, role.id = m.roleId) :
    Write db db' := by
  unfold insertMembership at h
  split at h
  next => cases h
  next hn =>
    obtain rfl := Except.ok.inj h
    simp only [Bool.or_eq_true, decide_eq_true_eq, not_or] at hn
    exact .insertMembership m hn.1.1 role

theorem insertRefreshToken_write {rt : RefreshToken} {db db' : IdentityDb}
    (h : insertRefreshToken rt db = .ok db') : Write db db' := by
  unfold insertRefreshToken at h
  split at h
  next => cases h
  next => exact Except.ok.inj h ▸ .elsewhere _ rfl rfl rfl

theorem insertSession_write {env : Env} {s : ImpersonationSession} {db db' : IdentityDb}
    (h : insertSession env s db = .ok db') : Write db db' := by
  unfold insertSession at h
  split at h
  next => cases h
  next => exact Except.ok.inj h ▸ .elsewhere _ rfl rfl rfl

/-! ## The schema -/

theorem map_key_save {ρ κ : Type} [DecidableEq κ] (key : ρ → κ) (r : ρ) (rows : List ρ) :
    (updateKey key (key r) (fun _ => r) rows).map key = rows.map key := by
  rw [updateKey, List.map_map]
  refine List.map_congr_left ?_
  intro q _
  by_cases hq : key q = key r <;> simp [hq]

theorem Write.schema {db db' : IdentityDb} (h : Write db db') (hs : db.Schema) : db'.Schema := by
  cases h with
  | insertUser user fresh =>
    refine { hs with users_pkey := ?_ }
    rw [List.map_append, List.nodup_append]
    refine ⟨hs.users_pkey, List.nodup_singleton _, ?_⟩
    intro id hid id' hid'
    obtain ⟨u, hu, rfl⟩ := List.mem_map.mp hid
    obtain rfl := List.mem_singleton.mp hid'
    exact fresh u hu
  | saveUser user old mem id flag =>
    refine { hs with users_pkey := ?_ }
    show ((updateKey (·.id) user.id (fun _ => user) db.users).map (·.id)).Nodup
    rw [map_key_save (·.id) user db.users]
    exact hs.users_pkey
  | insertMembership m fresh role =>
    refine { hs with uq_user_tenant := ?_, memberships_role := ?_ }
    · rw [List.map_append, List.nodup_append]
      refine ⟨hs.uq_user_tenant, List.nodup_singleton _, ?_⟩
      intro k hk k' hk' he
      obtain rfl := List.mem_singleton.mp hk'
      exact fresh (he ▸ hk)
    · intro n hn
      obtain hn | hn := List.mem_append.mp hn
      · exact hs.memberships_role n hn
      · obtain rfl := List.mem_singleton.mp hn
        exact role
  | saveMembership m role =>
    refine { hs with uq_user_tenant := ?_, memberships_role := ?_ }
    · show ((updateKey Membership.key m.key (fun _ => m) db.memberships).map Membership.key).Nodup
      rw [map_key_save Membership.key m db.memberships]
      exact hs.uq_user_tenant
    · intro n hn
      obtain ⟨q, _, _, rfl⟩ | ⟨hq, _⟩ := mem_updateKey.mp hn
      · exact role
      · exact hs.memberships_role n hq
  | elsewhere _ users roles memberships =>
    exact { users_pkey := users ▸ hs.users_pkey
            uq_user_tenant := memberships ▸ hs.uq_user_tenant
            memberships_role := by
              rw [memberships, roles]
              exact hs.memberships_role }

theorem Writes.schema {db db' : IdentityDb} (h : Writes db db') (hs : db.Schema) : db'.Schema := by
  induction h with
  | refl => exact hs
  | tail _ hw ih => exact hw.schema ih

/-! ## Platform administrators -/

/-- `id` is a user, with this `isPlatformAdmin`. -/
def HasFlag (db : IdentityDb) (id : String) (flag : Bool) : Prop :=
  ∃ user ∈ db.users, user.id = id ∧ user.isPlatformAdmin = flag

theorem IdentityDb.Schema.flag_unique {db : IdentityDb} (hs : db.Schema) {id : String}
    {b c : Bool} (hb : HasFlag db id b) (hc : HasFlag db id c) : b = c := by
  obtain ⟨u, hu, hid, rfl⟩ := hb
  obtain ⟨v, hv, hid', rfl⟩ := hc
  rw [hs.user_unique hu hv (hid.trans hid'.symm)]

theorem Write.flag {db db' : IdentityDb} (h : Write db db') (hs : db.Schema) {id : String}
    {b : Bool} (hf : HasFlag db id b) : HasFlag db' id b := by
  obtain ⟨u, hu, hid, hflag⟩ := hf
  cases h with
  | insertUser user fresh => exact ⟨u, List.mem_append_left _ hu, hid, hflag⟩
  | saveUser user old mem id' flag =>
    by_cases he : u.id = user.id
    · obtain rfl := hs.user_unique hu mem (he.trans id')
      exact ⟨user, mem_updateKey.mpr (Or.inl ⟨u, hu, he, rfl⟩), id'.trans hid, flag.trans hflag⟩
    · exact ⟨u, mem_updateKey.mpr (Or.inr ⟨hu, he⟩), hid, hflag⟩
  | insertMembership m fresh role => exact ⟨u, hu, hid, hflag⟩
  | saveMembership m role => exact ⟨u, hu, hid, hflag⟩
  | elsewhere _ users roles memberships => exact ⟨u, users ▸ hu, hid, hflag⟩

/-- Users are never deleted, and nothing changes who is a platform administrator. -/
theorem Writes.flag {db db' : IdentityDb} (h : Writes db db') (hs : db.Schema) {id : String}
    {b : Bool} (hf : HasFlag db id b) : HasFlag db' id b := by
  induction h with
  | refl => exact hf
  | tail hd hw ih => exact hw.flag (Writes.schema hd hs) ih

end SaasChassis.Identity
