/-
  What a command can do about privileges.

  A user is privileged by the administrator's flag of the account or by the roles of the user's
  memberships. No command sets the flag, and only createMembership and assignRole say which role a
  membership has: `execute_change`. Roles are never written (`Writes.roles`), and a membership
  never goes away (`Writes.keys`).
-/
import SaasChassis.Identity.Step

namespace SaasChassis.Identity

open SaasChassis.Lib

/-! ## What every command does -/

/-- Whom the command gives which role. -/
def Grants : IdentityCommand → String → String → Prop
  | .createMembership dto, u, r => dto.userId = u ∧ dto.roleId = r
  | .assignRole dto, u, r => dto.userId = u ∧ dto.roleId = r
  | _, _, _ => False

/-- No administrator is made, and who has a role had it or is in `G`. -/
structure Change (G : String → String → Prop) (db db' : IdentityDb) : Prop where
  users : ∀ user ∈ db'.users, user.isPlatformAdmin = false ∨
    ∃ old ∈ db.users, old.id = user.id ∧ old.isPlatformAdmin = user.isPlatformAdmin
  links : ∀ m ∈ db'.memberships,
    (∃ n ∈ db.memberships, n.userId = m.userId ∧ n.roleId = m.roleId) ∨ G m.userId m.roleId

/-- A login that succeeds adds its refresh token and updates the user's row. -/
theorem login_state (svc : Service) (env : Env) (user : User) (ip device : Option String)
    (db : IdentityDb) :
    (AuthService.login svc env user ip device db).1 = db ∨
    ∃ tokens, (AuthService.login svc env user ip device db).1 =
      UsersService.updateLastLogin env user.id { db with refreshTokens := tokens } := by
  unfold AuthService.login AuthService.issueTokens insertRefreshToken
  dsimp only
  by_cases hany : db.refreshTokens.any (·.tokenHash = svc.sha256 env.randomToken)
  · rw [if_pos hany]
    exact Or.inl rfl
  · rw [if_neg hany]
    exact Or.inr ⟨_, rfl⟩

/-- The credentials are checked, and who passes is logged in. -/
theorem loginEndpoint_state (svc : Service) (env : Env) (email password : String)
    (ip device : Option String) (db : IdentityDb) :
    (loginEndpoint svc env email password ip device db).1 =
      (AuthService.validateCredentials svc env email password db).1 ∨
    ∃ db' user, AuthService.validateCredentials svc env email password db = (db', .ok (some user)) ∧
      (loginEndpoint svc env email password ip device db).1 =
        (AuthService.login svc env user ip device db').1 := by
  unfold loginEndpoint
  split
  next db' e h => exact Or.inl (by rw [h])
  next db' h => exact Or.inl (by rw [h])
  next db' user h => exact Or.inr ⟨db', user, h, rfl⟩

section Change

variable {G : String → String → Prop} {db : IdentityDb}

theorem Change.of_tables {db' : IdentityDb} (users : db'.users = db.users)
    (memberships : db'.memberships = db.memberships) : Change G db db' := by
  refine ⟨fun user h => Or.inr ⟨user, ?_, rfl, rfl⟩, fun m h => Or.inl ⟨m, ?_, rfl, rfl⟩⟩
  · rwa [users] at h
  · rwa [memberships] at h

theorem Change.refl : Change G db db := .of_tables rfl rfl

theorem Change.trans {u db' : IdentityDb} (h : Change G db u) (h' : Change G u db') :
    Change G db db' := by
  constructor
  · intro user hmem
    obtain hflag | ⟨mid, hmid, hid, hflag⟩ := h'.users user hmem
    · exact Or.inl hflag
    · obtain hnot | ⟨old, hold, hid', hflag'⟩ := h.users mid hmid
      · exact Or.inl (hflag.symm.trans hnot)
      · exact Or.inr ⟨old, hold, hid'.trans hid, hflag'.trans hflag⟩
  · intro m hmem
    obtain ⟨mid, hmid, hu, hr⟩ | hg := h'.links m hmem
    · obtain ⟨n, hn, hu', hr'⟩ | hg := h.links mid hmid
      · exact Or.inl ⟨n, hn, hu'.trans hu, hr'.trans hr⟩
      · exact Or.inr (hu ▸ hr ▸ hg)
    · exact Or.inr hg

theorem change_saveUser {user old : User} (hmem : old ∈ db.users) (hid : user.id = old.id)
    (hflag : user.isPlatformAdmin = old.isPlatformAdmin) : Change G db (saveUser user db) := by
  refine ⟨fun q hq => Or.inr ?_, fun m hm => Or.inl ⟨m, hm, rfl, rfl⟩⟩
  obtain ⟨_, _, _, rfl⟩ | ⟨hq, _⟩ := mem_updateKey.mp hq
  · exact ⟨old, hmem, hid.symm, hflag.symm⟩
  · exact ⟨q, hq, rfl, rfl⟩

theorem change_insertUser {user : User} (hflag : user.isPlatformAdmin = false) {db' : IdentityDb}
    (h : insertUser user db = .ok db') : Change G db db' := by
  unfold insertUser at h
  split at h
  · cases h
  · obtain rfl := Except.ok.inj h
    refine ⟨fun q hq => ?_, fun m hm => Or.inl ⟨m, hm, rfl, rfl⟩⟩
    obtain hq | hq := List.mem_append.mp hq
    · exact Or.inr ⟨q, hq, rfl, rfl⟩
    · rw [List.mem_singleton.mp hq]
      exact Or.inl hflag

theorem change_saveMembership {m : Membership}
    (h : (∃ n ∈ db.memberships, n.userId = m.userId ∧ n.roleId = m.roleId) ∨
      G m.userId m.roleId) : Change G db (saveMembership m db) := by
  refine ⟨fun q hq => Or.inr ⟨q, hq, rfl, rfl⟩, fun q hq => ?_⟩
  obtain ⟨_, _, _, rfl⟩ | ⟨hq, _⟩ := mem_updateKey.mp hq
  · exact h
  · exact Or.inl ⟨q, hq, rfl, rfl⟩

theorem change_updateLastLogin (env : Env) (id : String) :
    Change G db (UsersService.updateLastLogin env id db) := by
  unfold UsersService.updateLastLogin
  split
  next user h => exact change_saveUser (findUserById_ok h).1 rfl rfl
  next => exact .refl

theorem change_login (svc : Service) (env : Env) (user : User) (ip device : Option String) :
    Change G db (AuthService.login svc env user ip device db).1 := by
  obtain h | ⟨tokens, h⟩ := login_state svc env user ip device db
  · rw [h]
    exact .refl
  · rw [h]
    refine Change.trans ?_ (change_updateLastLogin env user.id)
    exact .of_tables rfl rfl

theorem change_loginEndpoint (svc : Service) (env : Env) (email password : String)
    (ip device : Option String) :
    Change G db (loginEndpoint svc env email password ip device db).1 := by
  obtain ⟨husers, -, hmemberships⟩ :=
    AuthService.validateCredentials_tables svc env email password db
  have hcheck : Change G db (AuthService.validateCredentials svc env email password db).1 :=
    .of_tables husers hmemberships
  obtain h | ⟨db', user, hc, h⟩ := loginEndpoint_state svc env email password ip device db
  · rw [h]
    exact hcheck
  · rw [h]
    rw [hc] at hcheck
    exact hcheck.trans (change_login svc env user ip device)

theorem change_createUser (svc : Service) (env : Env) (dto : CreateUserDto) :
    Change G db (UsersService.create svc env dto db).1 := by
  obtain ⟨e, h⟩ | ⟨db', user, h, hins, hflag, -⟩ := UsersService.create_cases svc env dto db
  · rw [h]
    exact .refl
  · rw [h]
    exact change_insertUser hflag hins

theorem change_register (svc : Service) (env : Env) (dto : CreateUserDto) :
    Change G db (AuthService.register svc env dto db).1 := by
  have hcreate : Change G db (UsersService.create svc env dto db).1 := change_createUser svc env dto
  unfold AuthService.register
  split
  next db' user h =>
    rw [h] at hcreate
    exact hcreate.trans (change_login svc env user none none)
  next db' e h =>
    rw [h] at hcreate
    exact hcreate

theorem change_updateUser (id : String) (dto : UpdateUserDto) :
    Change G db (UsersService.update id dto db).1 := by
  unfold UsersService.update
  split
  next => exact .refl
  next user hu =>
    split
    next user' hp =>
      obtain ⟨hid, hflag⟩ := UsersService.patch_ok hp
      exact change_saveUser (findUserById_ok hu).1 hid hflag
    next => exact .refl

theorem change_removeUser (id : String) : Change G db (UsersService.softDelete id db).1 := by
  unfold UsersService.softDelete
  split
  next user h => exact change_saveUser (findUserById_ok h).1 rfl rfl
  next => exact .refl

theorem change_removeMembership (env : Env) (u t : String) :
    Change G db (MembershipsService.remove env u t db).1 := by
  unfold MembershipsService.remove
  split
  next m h =>
    have hmem := (mem_visible.mp (findByUserAndTenant_some h).1).1
    exact change_saveMembership (Or.inl ⟨m, hmem, rfl, rfl⟩)
  next => exact .refl

end Change

theorem change_createMembership (env : Env) (dto : CreateMembershipDto) (db : IdentityDb) :
    Change (Grants (.createMembership dto)) db (MembershipsService.create env dto db).1 := by
  unfold MembershipsService.create
  dsimp only
  split
  next => exact .refl
  next =>
    split
    next existing hfound =>
      obtain ⟨-, huser, -⟩ := findByUserAndTenant_some hfound
      split
      · exact .refl
      · split
        · exact .refl
        · exact change_saveMembership (Or.inr ⟨huser.symm, rfl⟩)
    next =>
      split
      · exact .refl
      · split
        next db' hins =>
          unfold insertMembership at hins
          split at hins
          · cases hins
          · obtain rfl := Except.ok.inj hins
            refine ⟨fun q hq => Or.inr ⟨q, hq, rfl, rfl⟩, fun q hq => ?_⟩
            obtain hq | hq := List.mem_append.mp hq
            · exact Or.inl ⟨q, hq, rfl, rfl⟩
            · rw [List.mem_singleton.mp hq]
              exact Or.inr ⟨rfl, rfl⟩
        next => exact .refl

theorem change_assignRole (env : Env) (dto : AssignRoleDto) (db : IdentityDb) :
    Change (Grants (.assignRole dto)) db (assignRole env dto db).1 := by
  have hcreate : ∀ u, Change (Grants (.assignRole dto)) u (MembershipsService.create env
      ⟨dto.userId, dto.tenantId, dto.roleId, none⟩ u).1 :=
    fun u => change_createMembership env ⟨dto.userId, dto.tenantId, dto.roleId, none⟩ u
  have hremove : Change (Grants (.assignRole dto)) db
      (MembershipsService.remove env dto.userId dto.tenantId db).1 :=
    change_removeMembership env dto.userId dto.tenantId
  unfold assignRole
  dsimp only
  split
  · split
    next db' h =>
      rw [h] at hremove
      exact hremove.trans (hcreate db')
    next db' e h =>
      rw [h] at hremove
      exact hremove
  · exact hcreate db

theorem change_setStatus {G : String → String → Prop} (u t : String) (status : MembershipStatus)
    (db : IdentityDb) : Change G db (setStatus u t status db) := by
  unfold setStatus
  split
  next m h => exact change_saveMembership (Or.inl ⟨m, List.mem_of_find?_eq_some h, rfl, rfl⟩)
  next => exact .refl

theorem startImpersonation_state (svc : Service) (env : Env) (adminUser : JwtPayload)
    (dto : ImpersonateDto) (db : IdentityDb) : ∃ sessions,
    (ImpersonationService.startImpersonation svc env adminUser dto db).1 =
      { db with sessions := sessions } := by
  unfold ImpersonationService.startImpersonation insertSession
  split
  · exact ⟨db.sessions, rfl⟩
  · split
    · exact ⟨db.sessions, rfl⟩
    · exact ⟨db.sessions, rfl⟩
    · split
      · exact ⟨db.sessions, rfl⟩
      · split
        · exact ⟨db.sessions, rfl⟩
        · dsimp only
          split
          next => exact ⟨db.sessions, rfl⟩
          next db' hins =>
            split at hins
            · cases hins
            · obtain rfl := Except.ok.inj hins
              exact ⟨_, rfl⟩

/-- No command makes an administrator, and only those that grant roles give one. -/
theorem execute_change (svc : Service) (env : Env) (cmd : IdentityCommand) (db : IdentityDb) :
    Change (Grants cmd) db (execute svc env cmd db).1 := by
  cases cmd with
  | login email password ip device => exact change_loginEndpoint svc env email password ip device
  | register dto => exact change_register svc env dto
  | refresh value => exact .refl
  | logout value =>
    show Change _ db (AuthService.logout svc env value db)
    unfold AuthService.logout
    dsimp only
    split
    · exact .refl
    · split
      · exact .refl
      · split <;> exact .of_tables rfl rfl
  | switchTenant u t => exact .refl
  | startImpersonation adminUser dto =>
    obtain ⟨sessions, h⟩ := startImpersonation_state svc env adminUser dto db
    show Change _ db (ImpersonationService.startImpersonation svc env adminUser dto db).1
    rw [h]
    exact .of_tables rfl rfl
  | endImpersonation currentUser =>
    show Change _ db (ImpersonationService.endImpersonation svc env currentUser db).1
    unfold ImpersonationService.endImpersonation
    split
    · exact .refl
    · split
      · exact .refl
      · exact .refl
      · obtain ⟨husers, -, hmemberships⟩ :=
          ImpersonationService.endSession_tables env currentUser.sub _ db
        exact .of_tables husers hmemberships
  | createUser dto => exact change_createUser svc env dto
  | updateUser id dto => exact change_updateUser id dto
  | removeUser id => exact change_removeUser id
  | createMembership dto => exact change_createMembership env dto db
  | removeMembership u t => exact change_removeMembership env u t
  | assignRole dto => exact change_assignRole env dto db
  | setStatus u t status => exact change_setStatus u t status db

/-- Roles are never written. -/
theorem Writes.roles {db db' : IdentityDb} (h : Writes db db') : db'.roles = db.roles := by
  induction h with
  | refl => rfl
  | tail _ hw ih =>
    cases hw with
    | elsewhere _ users roles memberships => exact roles.trans ih
    | _ => exact ih

/-- A membership stays, whatever becomes of its role and status. -/
theorem Writes.keys {db db' : IdentityDb} (h : Writes db db') {k : String × String}
    (hk : k ∈ db.memberships.map Membership.key) : k ∈ db'.memberships.map Membership.key := by
  induction h with
  | refl => exact hk
  | tail _ hw ih =>
    cases hw with
    | insertUser user fresh => exact ih
    | saveUser user old mem id flag => exact ih
    | insertMembership m fresh role =>
      rw [List.map_append]
      exact List.mem_append_left _ ih
    | saveMembership m role =>
      show k ∈ (updateKey Membership.key m.key (fun _ => m) _).map Membership.key
      rwa [map_key_save]
    | elsewhere _ users roles memberships =>
      rwa [memberships]

end SaasChassis.Identity
