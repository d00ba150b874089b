/-
  When is a refresh token accepted?

  Revocation is kept in two places: the row of the token, for good, and a key in Redis, for as long
  as the token would live. The row decides: a key for a token is there only if its row says revoked
  (`Blacklisted`), whatever becomes of the key later. The keys of ended impersonations share the
  namespace and get in no refresh token's way as long as no access token is a refresh token.

  `TokenStep` says what a command does to tokens, sessions and keys. `liveRow_step` and
  `live_append` are the same recursion, of the row and of the history; hence `refresh_ok_iff`.
-/
import Mathlib.Data.List.Induction
import SaasChassis.Identity.Deactivation

namespace SaasChassis.Identity

open SaasChassis.Lib

/-! ## What a command does to tokens -/

structure SameTokens (db db' : IdentityDb) : Prop where
  tokens : db'.refreshTokens = db.refreshTokens
  sessions : db'.sessions = db.sessions
  revoked : db'.revoked = db.revoked

theorem SameTokens.trans {db u db' : IdentityDb} (h : SameTokens db u) (h' : SameTokens u db') :
    SameTokens db db' :=
  ⟨h'.tokens.trans h.tokens, h'.sessions.trans h.sessions, h'.revoked.trans h.revoked⟩

/-- `expiresAt` of a token that is issued now. -/
def refreshExpiresAt (svc : Service) (env : Env) : ℤ :=
  env.now + AuthService.parseDurationToSeconds svc.refreshExpiry * 1000

/-- The answer of a login or a registration that succeeds. -/
def loginAnswer (svc : Service) (db : IdentityDb) : Env × IdentityCommand → Option TokenResponse
  | (env, .login email password ip device) =>
    (loginEndpoint svc env email password ip device db).2.toOption
  | (env, .register dto) => (AuthService.register svc env dto db).2.toOption
  | _ => none

/-- The call returns the refresh token to the user. -/
def Returns (svc : Service) (db : IdentityDb) (i : Env × IdentityCommand) (value userId : String) :
    Prop :=
  ∃ res, loginAnswer svc db i = some res ∧ res.refreshToken = value ∧ res.accessToken.sub = userId

/-- The row of a token that is issued, and nothing else. -/
structure IssuesRow (svc : Service) (env : Env) (db db' : IdentityDb) (res : TokenResponse) :
    Prop where
  value : res.refreshToken = env.randomToken
  fresh : ∀ t ∈ db.refreshTokens, t.tokenHash ≠ svc.sha256 env.randomToken
  row : ∃ rt : RefreshToken, db'.refreshTokens = db.refreshTokens ++ [rt] ∧
    rt.tokenHash = svc.sha256 env.randomToken ∧ rt.userId = res.accessToken.sub ∧
    rt.expiresAt = refreshExpiresAt svc env ∧ rt.revokedAt = none
  sessions : db'.sessions = db.sessions
  revoked : db'.revoked = db.revoked

theorem IssuesRow.of_same {svc : Service} {env : Env} {db u db' : IdentityDb} {res : TokenResponse}
    (h : SameTokens db u) (h' : IssuesRow svc env u db' res) : IssuesRow svc env db db' res := by
  obtain ⟨value, fresh, row, sessions, revoked⟩ := h'
  rw [h.tokens] at fresh row
  exact ⟨value, fresh, row, sessions.trans h.sessions, revoked.trans h.revoked⟩

theorem IssuesRow.trans_same {svc : Service} {env : Env} {db u db' : IdentityDb}
    {res : TokenResponse} (h : IssuesRow svc env db u res) (h' : SameTokens u db') :
    IssuesRow svc env db db' res := by
  obtain ⟨value, fresh, row, sessions, revoked⟩ := h
  rw [← h'.tokens] at row
  exact ⟨value, fresh, row, h'.sessions.trans sessions, h'.revoked.trans revoked⟩

/-- An answer of a login, with the tables after it: a token is issued or nothing is. -/
def IssuesOrFails (svc : Service) (env : Env) (db : IdentityDb) (o : Outcome TokenResponse) :
    Prop :=
  (∃ res, o.2 = .ok res ∧ IssuesRow svc env db o.1 res) ∨
    (∃ e, o.2 = .error e) ∧ SameTokens db o.1

theorem updateLastLogin_same (env : Env) (id : String) (db : IdentityDb) :
    SameTokens db (UsersService.updateLastLogin env id db) := by
  unfold UsersService.updateLastLogin
  split <;> exact ⟨rfl, rfl, rfl⟩

theorem validateCredentials_same (svc : Service) (env : Env) (email password : String)
    (db : IdentityDb) :
    SameTokens db (AuthService.validateCredentials svc env email password db).1 := by
  unfold AuthService.validateCredentials AuthService.incrementLoginAttempts
  dsimp only
  split
  · exact ⟨rfl, rfl, rfl⟩
  · split
    · exact ⟨rfl, rfl, rfl⟩
    · split <;> exact ⟨rfl, rfl, rfl⟩

theorem login_issues (svc : Service) (env : Env) (user : User) (ip device : Option String)
    (db : IdentityDb) :
    IssuesOrFails svc env db (AuthService.login svc env user ip device db) := by
  unfold AuthService.login AuthService.issueTokens insertRefreshToken
  dsimp only
  by_cases hany : db.refreshTokens.any (·.tokenHash = svc.sha256 env.randomToken)
  · rw [if_pos hany]
    exact Or.inr ⟨⟨_, rfl⟩, rfl, rfl, rfl⟩
  · rw [if_neg hany]
    refine Or.inl ⟨_, rfl, IssuesRow.trans_same ?_ (updateLastLogin_same env user.id _)⟩
    refine ⟨rfl, fun t ht he => ?_, ⟨_, rfl, rfl, rfl, rfl, rfl⟩, rfl, rfl⟩
    exact hany (List.any_eq_true.mpr ⟨t, ht, by simpa using he⟩)

theorem loginEndpoint_issues (svc : Service) (env : Env) (email password : String)
    (ip device : Option String) (db : IdentityDb) :
    IssuesOrFails svc env db (loginEndpoint svc env email password ip device db) := by
  have hsame := validateCredentials_same svc env email password db
  unfold loginEndpoint
  split
  next db' e h =>
    rw [h] at hsame
    exact Or.inr ⟨⟨_, rfl⟩, hsame⟩
  next db' h =>
    rw [h] at hsame
    exact Or.inr ⟨⟨_, rfl⟩, hsame⟩
  next db' user h =>
    rw [h] at hsame
    obtain ⟨res, hres, hrow⟩ | ⟨herror, hlogin⟩ := login_issues svc env user ip device db'
    · exact Or.inl ⟨res, hres, hrow.of_same hsame⟩
    · exact Or.inr ⟨herror, hsame.trans hlogin⟩

theorem createUser_same (svc : Service) (env : Env) (dto : CreateUserDto) (db : IdentityDb) :
    SameTokens db (UsersService.create svc env dto db).1 := by
  obtain ⟨e, h⟩ | ⟨db', user, h, hins, -⟩ := UsersService.create_cases svc env dto db
  · rw [h]
    exact ⟨rfl, rfl, rfl⟩
  · rw [h]
    unfold insertUser at hins
    split at hins
    · cases hins
    · rw [← Except.ok.inj hins]
      exact ⟨rfl, rfl, rfl⟩

theorem register_issues (svc : Service) (env : Env) (dto : CreateUserDto) (db : IdentityDb) :
    IssuesOrFails svc env db (AuthService.register svc env dto db) := by
  have hsame := createUser_same svc env dto db
  unfold AuthService.register
  split
  next db' user h =>
    rw [h] at hsame
    obtain ⟨res, hres, hrow⟩ | ⟨herror, hlogin⟩ := login_issues svc env user none none db'
    · exact Or.inl ⟨res, hres, hrow.of_same hsame⟩
    · exact Or.inr ⟨herror, hsame.trans hlogin⟩
  next db' e h =>
    rw [h] at hsame
    exact Or.inr ⟨⟨_, rfl⟩, hsame⟩

theorem createMembership_same (env : Env) (dto : CreateMembershipDto) (db : IdentityDb) :
    SameTokens db (MembershipsService.create env dto db).1 := by
  unfold MembershipsService.create
  dsimp only
  split
  · exact ⟨rfl, rfl, rfl⟩
  · split
    · split
      · exact ⟨rfl, rfl, rfl⟩
      · split <;> exact ⟨rfl, rfl, rfl⟩
    · split
      · exact ⟨rfl, rfl, rfl⟩
      · split
        next db' hins =>
          unfold insertMembership at hins
          split at hins
          · cases hins
          · rw [← Except.ok.inj hins]
            exact ⟨rfl, rfl, rfl⟩
        next => exact ⟨rfl, rfl, rfl⟩

theorem removeMembership_same (env : Env) (userId tenantId : String) (db : IdentityDb) :
    SameTokens db (MembershipsService.remove env userId tenantId db).1 := by
  unfold MembershipsService.remove
  split <;> exact ⟨rfl, rfl, rfl⟩

theorem assignRole_same (env : Env) (dto : AssignRoleDto) (db : IdentityDb) :
    SameTokens db (assignRole env dto db).1 := by
  have hremove := removeMembership_same env dto.userId dto.tenantId db
  unfold assignRole
  dsimp only
  split
  · split
    next db' h =>
      rw [h] at hremove
      exact hremove.trans (createMembership_same env _ db')
    next db' e h =>
      rw [h] at hremove
      exact hremove
  · exact createMembership_same env _ db

/-- The row of a refresh token. -/
def tokenRow (svc : Service) (value : String) (db : IdentityDb) : Option RefreshToken :=
  db.refreshTokens.find? (·.tokenHash = svc.sha256 value)

/-- What a command does to refresh tokens, sessions and revoked keys. -/
inductive TokenStep (svc : Service) (env : Env) (db : IdentityDb) :
    IdentityCommand → IdentityDb → Prop
  | kept {cmd : IdentityCommand} {db' : IdentityDb} (silent : loginAnswer svc db (env, cmd) = none)
      (noLogout : ∀ value, cmd ≠ .logout value) (tokens : db'.refreshTokens = db.refreshTokens)
      (sessions : ∀ s ∈ db'.sessions, (∃ s' ∈ db.sessions, s.tokenHash = s'.tokenHash) ∨
        ∃ p, s.tokenHash = svc.sha256 (svc.encode p))
      (revoked : ∀ k ∈ db'.revoked, k ∈ db.revoked ∨ ∃ s ∈ db.sessions, k.1 = s.tokenHash) :
      TokenStep svc env db cmd db'
  | issued {cmd : IdentityCommand} {db' : IdentityDb} (res : TokenResponse)
      (answer : loginAnswer svc db (env, cmd) = some res) (noLogout : ∀ value, cmd ≠ .logout value)
      (row : IssuesRow svc env db db' res) : TokenStep svc env db cmd db'
  | loggedOut (value : String) : TokenStep svc env db (.logout value)
      (AuthService.logout svc env value db)

theorem SameTokens.kept {svc : Service} {env : Env} {db db' : IdentityDb} {cmd : IdentityCommand}
    (h : SameTokens db db') (silent : loginAnswer svc db (env, cmd) = none)
    (noLogout : ∀ value, cmd ≠ .logout value) : TokenStep svc env db cmd db' := by
  refine .kept silent noLogout h.tokens (fun s hs => Or.inl ?_) fun k hk => Or.inl ?_
  · rw [h.sessions] at hs
    exact ⟨s, hs, rfl⟩
  · rwa [h.revoked] at hk

theorem latest_mem {sessions : List ImpersonationSession} {s : ImpersonationSession}
    (h : ImpersonationService.latest sessions = some s) : s ∈ sessions := by
  induction sessions generalizing s with
  | nil => cases h
  | cons t sessions ih =>
    unfold ImpersonationService.latest at h
    split at h
    next s' hs' =>
      cases h
      split
      · exact List.mem_cons_of_mem _ (ih hs')
      · exact List.mem_cons_self
    next =>
      cases h
      exact List.mem_cons_self

theorem mem_saveSession {s t : ImpersonationSession} {db : IdentityDb}
    (h : s ∈ (saveSession t db).sessions) : s = t ∨ s ∈ db.sessions ∧ s.id ≠ t.id := by
  obtain ⟨-, -, -, rfl⟩ | hs := mem_updateKey.mp h
  · exact Or.inl rfl
  · exact Or.inr hs

theorem startImpersonation_step (svc : Service) (env : Env) (adminUser : JwtPayload)
    (dto : ImpersonateDto) (db : IdentityDb) :
    TokenStep svc env db (.startImpersonation adminUser dto)
      (ImpersonationService.startImpersonation svc env adminUser dto db).1 := by
  have hsame : TokenStep svc env db (.startImpersonation adminUser dto) db :=
    SameTokens.kept ⟨rfl, rfl, rfl⟩ rfl fun _ => IdentityCommand.noConfusion
  unfold ImpersonationService.startImpersonation insertSession
  split
  · exact hsame
  · split
    · exact hsame
    · exact hsame
    next admin target ha ht =>
      split
      · exact hsame
      · split
        · exact hsame
        · dsimp only
          split
          next => exact hsame
          next db' hins =>
            split at hins
            · cases hins
            · obtain rfl := Except.ok.inj hins
              refine .kept rfl (fun _ => IdentityCommand.noConfusion) rfl (fun s hs => ?_)
                fun k hk => Or.inl hk
              obtain rfl | ⟨hs, hne⟩ := mem_saveSession hs
              · exact Or.inr ⟨_, rfl⟩
              · obtain hs | hs := List.mem_append.mp hs
                · exact Or.inl ⟨s, hs, rfl⟩
                · -- the row as it was inserted, with the placeholder
                  exact absurd (congrArg ImpersonationSession.id (List.mem_singleton.mp hs)) hne

theorem endImpersonation_step (svc : Service) (env : Env) (currentUser : JwtPayload)
    (db : IdentityDb) :
    TokenStep svc env db (.endImpersonation currentUser)
      (ImpersonationService.endImpersonation svc env currentUser db).1 := by
  have hsame : TokenStep svc env db (.endImpersonation currentUser) db :=
    SameTokens.kept ⟨rfl, rfl, rfl⟩ rfl fun _ => IdentityCommand.noConfusion
  unfold ImpersonationService.endImpersonation
  split
  · exact hsame
  · split
    · exact hsame
    · exact hsame
    next realUserId _ _ =>
      show TokenStep svc env db _
        (ImpersonationService.endSession env currentUser.sub realUserId db)
      unfold ImpersonationService.endSession AuthService.revokeImpersonationToken
      dsimp only
      split
      next session hlatest =>
        have hmem : session ∈ db.sessions := (List.mem_filter.mp (latest_mem hlatest)).1
        have hsessions : ∀ s ∈ (saveSession { session with endedAt := some env.now } db).sessions,
            (∃ s' ∈ db.sessions, s.tokenHash = s'.tokenHash) ∨
              ∃ p, s.tokenHash = svc.sha256 (svc.encode p) := by
          intro s hs
          obtain rfl | ⟨hs, -⟩ := mem_saveSession hs
          · exact Or.inl ⟨session, hmem, rfl⟩
          · exact Or.inl ⟨s, hs, rfl⟩
        split
        · refine .kept rfl (fun _ => IdentityCommand.noConfusion) rfl hsessions fun k hk => ?_
          obtain rfl | hk := List.mem_cons.mp hk
          · exact Or.inr ⟨session, hmem, rfl⟩
          · exact Or.inl (List.mem_of_mem_filter hk)
        · exact .kept rfl (fun _ => IdentityCommand.noConfusion) rfl hsessions fun k hk => Or.inl hk
      next => exact hsame

theorem IssuesOrFails.step {svc : Service} {env : Env} {db : IdentityDb} {cmd : IdentityCommand}
    {o : Outcome TokenResponse} (h : IssuesOrFails svc env db o)
    (answer : loginAnswer svc db (env, cmd) = o.2.toOption)
    (noLogout : ∀ value, cmd ≠ .logout value) : TokenStep svc env db cmd o.1 := by
  obtain ⟨res, hres, hrow⟩ | ⟨⟨e, herror⟩, hsame⟩ := h
  · rw [hres] at answer
    exact .issued res answer noLogout hrow
  · rw [herror] at answer
    exact hsame.kept answer noLogout

theorem execute_tokenStep (svc : Service) (env : Env) (cmd : IdentityCommand) (db : IdentityDb) :
    TokenStep svc env db cmd (execute svc env cmd db).1 := by
  cases cmd with
  | login email password ip device =>
    exact (loginEndpoint_issues svc env email password ip device db).step rfl
      fun _ => IdentityCommand.noConfusion
  | register dto =>
    exact (register_issues svc env dto db).step rfl fun _ => IdentityCommand.noConfusion
  | logout value => exact .loggedOut value
  | startImpersonation adminUser dto => exact startImpersonation_step svc env adminUser dto db
  | endImpersonation currentUser => exact endImpersonation_step svc env currentUser db
  | refresh value => exact SameTokens.kept ⟨rfl, rfl, rfl⟩ rfl fun _ => IdentityCommand.noConfusion
  | switchTenant u t =>
    exact SameTokens.kept ⟨rfl, rfl, rfl⟩ rfl fun _ => IdentityCommand.noConfusion
  | createUser dto =>
    exact (createUser_same svc env dto db).kept rfl fun _ => IdentityCommand.noConfusion
  | updateUser id dto =>
    refine SameTokens.kept ?_ rfl fun _ => IdentityCommand.noConfusion
    show SameTokens db (UsersService.update id dto db).1
    unfold UsersService.update
    split
    · exact ⟨rfl, rfl, rfl⟩
    · split <;> exact ⟨rfl, rfl, rfl⟩
  | removeUser id =>
    refine SameTokens.kept ?_ rfl fun _ => IdentityCommand.noConfusion
    show SameTokens db (UsersService.softDelete id db).1
    unfold UsersService.softDelete
    split <;> exact ⟨rfl, rfl, rfl⟩
  | createMembership dto =>
    exact (createMembership_same env dto db).kept rfl fun _ => IdentityCommand.noConfusion
  | removeMembership u t =>
    exact (removeMembership_same env u t db).kept rfl fun _ => IdentityCommand.noConfusion
  | assignRole dto =>
    exact (assignRole_same env dto db).kept rfl fun _ => IdentityCommand.noConfusion
  | setStatus u t status =>
    refine SameTokens.kept ?_ rfl fun _ => IdentityCommand.noConfusion
    show SameTokens db (setStatus u t status db)
    unfold setStatus
    split <;> exact ⟨rfl, rfl, rfl⟩

/-! ## The row of one token -/

/-- The token has been issued to the user and expires then; it is not revoked. -/
def LiveRow (svc : Service) (value userId : String) (expiresAt : ℤ) (db : IdentityDb) : Prop :=
  ∃ t, tokenRow svc value db = some t ∧ t.userId = userId ∧ t.expiresAt = expiresAt ∧
    t.revokedAt = none

def RevokedRow (svc : Service) (value : String) (db : IdentityDb) : Prop :=
  ∃ t, tokenRow svc value db = some t ∧ t.revokedAt ≠ none

/-- How the row of a token changes, if at all. -/
inductive RowStep (svc : Service) (value : String) (db : IdentityDb) :
    Env × IdentityCommand → IdentityDb → Prop
  | same {i : Env × IdentityCommand} {db' : IdentityDb}
      (silent : ∀ userId, ¬ Returns svc db i value userId) (noLogout : i.2 ≠ .logout value)
      (row : tokenRow svc value db' = tokenRow svc value db) : RowStep svc value db i db'
  | issued {i : Env × IdentityCommand} {db' : IdentityDb} (t : RefreshToken)
      (returns : ∀ userId, Returns svc db i value userId ↔ t.userId = userId)
      (noLogout : i.2 ≠ .logout value) (before : tokenRow svc value db = none)
      (row : tokenRow svc value db' = some t) (expires : t.expiresAt = refreshExpiresAt svc i.1)
      (new : t.revokedAt = none) : RowStep svc value db i db'
  | loggedOut {env : Env} {db' : IdentityDb}
      (row : ∀ t, tokenRow svc value db' = some t → t.revokedAt ≠ none)
      (kept : (tokenRow svc value db').isSome = (tokenRow svc value db).isSome) :
      RowStep svc value db (env, .logout value) db'

theorem logout_cases (svc : Service) (env : Env) (value : String) (db : IdentityDb) :
    (AuthService.logout svc env value db = db ∧
      ∀ t, tokenRow svc value db = some t → t.revokedAt ≠ none) ∨
    ∃ stored, tokenRow svc value db = some stored ∧
      (AuthService.logout svc env value db).refreshTokens =
        updateKey (·.tokenHash) stored.tokenHash
          (fun _ => { stored with revokedAt := some env.now }) db.refreshTokens ∧
      (AuthService.logout svc env value db).sessions = db.sessions ∧
      ∀ k ∈ (AuthService.logout svc env value db).revoked,
        k ∈ db.revoked ∨ k.1 = svc.sha256 value := by
  unfold AuthService.logout
  dsimp only
  cases hrow : db.refreshTokens.find? (·.tokenHash = svc.sha256 value) with
  | none =>
    refine Or.inl ⟨rfl, fun t ht => ?_⟩
    cases hrow.symm.trans ht
  | some stored =>
    dsimp only
    split
    next hrevoked =>
      refine Or.inl ⟨rfl, fun t ht => ?_⟩
      obtain rfl := Option.some.inj (hrow.symm.trans ht)
      exact hrevoked
    next =>
      refine Or.inr ⟨stored, hrow, ?_⟩
      split
      · refine ⟨rfl, rfl, fun k hk => ?_⟩
        obtain rfl | hk := List.mem_cons.mp hk
        · exact Or.inr rfl
        · exact Or.inl (List.mem_of_mem_filter hk)
      · exact ⟨rfl, rfl, fun k hk => Or.inl hk⟩

theorem tokenRow_hash {svc : Service} {value : String} {db : IdentityDb} {t : RefreshToken}
    (h : tokenRow svc value db = some t) : t.tokenHash = svc.sha256 value := by
  simpa using List.find?_some h

theorem tokenRow_congr {svc : Service} {value : String} {db db' : IdentityDb}
    (htokens : db'.refreshTokens = db.refreshTokens) :
    tokenRow svc value db' = tokenRow svc value db := by
  unfold tokenRow
  rw [htokens]

theorem tokenRow_append {svc : Service} {value : String} {db db' : IdentityDb} {t : RefreshToken}
    (htokens : db'.refreshTokens = db.refreshTokens ++ [t]) :
    tokenRow svc value db' =
      (tokenRow svc value db).or (if t.tokenHash = svc.sha256 value then some t else none) := by
  unfold tokenRow
  rw [htokens, List.find?_append, List.find?_singleton]
  simp

/-- A token that is issued had no row. -/
theorem IssuesRow.tokenRow_none {svc : Service} {env : Env} {db db' : IdentityDb}
    {res : TokenResponse} (h : IssuesRow svc env db db' res) :
    tokenRow svc env.randomToken db = none :=
  List.find?_eq_none.mpr fun t ht => by simpa using h.fresh t ht

/-- Another token's row stays when one is marked. -/
theorem tokenRow_update {svc : Service} {value : String} {db db' : IdentityDb} {t t' : RefreshToken}
    (htokens : db'.refreshTokens = updateKey (·.tokenHash) t.tokenHash (fun _ => t')
      db.refreshTokens) (hhash : t'.tokenHash = t.tokenHash) :
    tokenRow svc value db' =
      (tokenRow svc value db).map fun u => if u.tokenHash = t.tokenHash then t' else u := by
  unfold tokenRow
  rw [htokens]
  refine find?_updateKey fun u _ hu => ?_
  rw [hhash, ← hu]

/-- After a logout the token's row, if there is one, says revoked. -/
theorem logout_row (svc : Service) (env : Env) (value : String) (db : IdentityDb) :
    (∀ t, tokenRow svc value (AuthService.logout svc env value db) = some t → t.revokedAt ≠ none) ∧
      (tokenRow svc value (AuthService.logout svc env value db)).isSome =
        (tokenRow svc value db).isSome := by
  obtain ⟨hsame, hrevoked⟩ | ⟨stored, hstored, tokens, -, -⟩ := logout_cases svc env value db
  · rw [hsame]
    exact ⟨hrevoked, rfl⟩
  · have hrow := @tokenRow_update svc value db _ stored _ tokens rfl
    rw [hstored, Option.map_some, if_pos rfl] at hrow
    rw [hrow, hstored]
    refine ⟨fun t ht => ?_, rfl⟩
    cases ht
    exact Option.some_ne_none _

section Injective

variable {svc : Service} (hsha : Function.Injective svc.sha256)
include hsha

theorem rowStep_execute (value : String) (db : IdentityDb) (i : Env × IdentityCommand) :
    RowStep svc value db i (step svc db i) := by
  obtain ⟨env, cmd⟩ := i
  have h := execute_tokenStep svc env cmd db
  unfold step
  dsimp only
  generalize (execute svc env cmd db).1 = db' at h ⊢
  cases h with
  | kept silent noLogout tokens sessions revoked =>
    refine .same (fun userId hreturns => ?_) (noLogout value) ?_
    · obtain ⟨res, hres, -⟩ := hreturns
      cases silent.symm.trans hres
    · exact tokenRow_congr tokens
  | issued res answer noLogout row =>
    have hbefore := row.tokenRow_none
    obtain ⟨hvalue, -, ⟨rt, tokens, hash, hsub, expires, new⟩, -, -⟩ := row
    have hrow := @tokenRow_append svc value db db' rt tokens
    have hreturns : ∀ userId, Returns svc db (env, cmd) value userId ↔
        value = env.randomToken ∧ rt.userId = userId := by
      intro userId
      constructor
      · rintro ⟨res', hres', rfl, rfl⟩
        obtain rfl := Option.some.inj (answer.symm.trans hres')
        exact ⟨hvalue, hsub⟩
      · rintro ⟨rfl, rfl⟩
        exact ⟨res, answer, hvalue, hsub.symm⟩
    by_cases hv : value = env.randomToken
    · have hnone : tokenRow svc value db = none := by
        rw [hv]
        exact hbefore
      refine .issued rt (fun userId => ?_) (noLogout value) hnone ?_ expires new
      · rw [hreturns, and_iff_right hv]
      · rw [hrow, hnone, Option.none_or, if_pos (by rw [hash, hv])]
    · refine .same (fun userId h => hv ((hreturns userId).mp h).1) (noLogout value) ?_
      rw [hrow, if_neg, Option.or_none]
      rw [hash]
      exact fun he => hv (hsha he).symm
  | loggedOut value' =>
    by_cases hv : value' = value
    · subst hv
      obtain ⟨row, kept⟩ := logout_row svc env value' db
      exact .loggedOut row kept
    · refine .same ?_ (fun he => hv (IdentityCommand.logout.inj he)) ?_
      · rintro userId ⟨res, hres, -⟩
        cases hres
      · obtain ⟨hsame, -⟩ | ⟨stored, hstored, tokens, -, -⟩ := logout_cases svc env value' db
        · rw [hsame]
        · have hhash := tokenRow_hash hstored
          rw [@tokenRow_update svc value db _ stored _ tokens rfl]
          cases hrow : tokenRow svc value db with
          | none => rfl
          | some t =>
            rw [Option.map_some, if_neg]
            rw [tokenRow_hash hrow, hhash]
            exact fun he => hv (hsha he).symm

theorem liveRow_step (value userId : String) (expiresAt : ℤ) (db : IdentityDb)
    (i : Env × IdentityCommand) :
    LiveRow svc value userId expiresAt (step svc db i) ↔
      (Returns svc db i value userId ∧ expiresAt = refreshExpiresAt svc i.1) ∨
        (LiveRow svc value userId expiresAt db ∧ i.2 ≠ .logout value) := by
  have h := rowStep_execute hsha value db i
  generalize step svc db i = db' at h
  unfold LiveRow
  cases h with
  | same silent noLogout row => simp [silent, noLogout, row]
  | issued t returns noLogout before row expires new =>
    simp only [row, before, returns, ← expires, Option.some.injEq, reduceCtorEq,
      false_and, exists_false, or_false]
    constructor
    · rintro ⟨t', rfl, huser, hexpires, -⟩
      exact ⟨huser, hexpires.symm⟩
    · rintro ⟨huser, hexpires⟩
      exact ⟨t, rfl, huser, hexpires.symm, new⟩
  | loggedOut row kept =>
    constructor
    · rintro ⟨t, ht, -, -, hnew⟩
      exact absurd hnew (row t ht)
    · rintro (⟨⟨res, hres, -⟩, -⟩ | ⟨-, hne⟩)
      · cases hres
      · exact absurd rfl hne

theorem revokedRow_step {value : String} {db : IdentityDb} (hr : RevokedRow svc value db)
    (i : Env × IdentityCommand) : RevokedRow svc value (step svc db i) := by
  have h := rowStep_execute hsha value db i
  generalize step svc db i = db' at h ⊢
  obtain ⟨t, ht, hrevoked⟩ := hr
  cases h with
  | same silent noLogout row => exact ⟨t, row.trans ht, hrevoked⟩
  | issued t' returns noLogout before row expires new => cases before.symm.trans ht
  | loggedOut row kept =>
    rw [ht, Option.isSome_some] at kept
    obtain ⟨t', ht'⟩ := Option.isSome_iff_exists.mp kept
    exact ⟨t', ht', row t' ht'⟩

/-! ## The keys in Redis -/

/-- The sessions hold hashes of access tokens, and a key for anything else is there for a token
    whose row says revoked. -/
structure Blacklisted (svc : Service) (db : IdentityDb) : Prop where
  sessions : ∀ s ∈ db.sessions, ∃ p, s.tokenHash = svc.sha256 (svc.encode p)
  revoked : ∀ k ∈ db.revoked, (∃ p, k.1 = svc.sha256 (svc.encode p)) ∨
    ∃ value, k.1 = svc.sha256 value ∧ RevokedRow svc value db

theorem Blacklisted.step {db : IdentityDb} (h : Blacklisted svc db) (i : Env × IdentityCommand) :
    Blacklisted svc (step svc db i) := by
  have hrows := fun value (hr : RevokedRow svc value db) => revokedRow_step hsha hr i
  have hold : ∀ k ∈ db.revoked, (∃ p, k.1 = svc.sha256 (svc.encode p)) ∨
      ∃ value, k.1 = svc.sha256 value ∧ RevokedRow svc value (Identity.step svc db i) := fun k hk =>
    (h.revoked k hk).imp id fun ⟨value, hkey, hrow⟩ => ⟨value, hkey, hrows value hrow⟩
  obtain ⟨env, cmd⟩ := i
  have hstep := execute_tokenStep svc env cmd db
  have hafter : Identity.step svc db (env, cmd) = (execute svc env cmd db).1 := rfl
  rw [hafter] at hold hrows ⊢
  generalize (execute svc env cmd db).1 = db' at hstep hold hrows ⊢
  cases hstep with
  | kept silent noLogout tokens sessions revoked =>
    refine ⟨fun s hs => ?_, fun k hk => ?_⟩
    · obtain ⟨s', hs', he⟩ | hp := sessions s hs
      · rw [he]
        exact h.sessions s' hs'
      · exact hp
    · obtain hk | ⟨s, hs, he⟩ := revoked k hk
      · exact hold k hk
      · rw [he]
        exact Or.inl (h.sessions s hs)
  | issued res answer noLogout row =>
    refine ⟨fun s hs => ?_, fun k hk => ?_⟩
    · rw [row.sessions] at hs
      exact h.sessions s hs
    · rw [row.revoked] at hk
      exact hold k hk
  | loggedOut value =>
    obtain ⟨hsame, -⟩ | ⟨stored, hstored, -, hsessions, hrevoked⟩ := logout_cases svc env value db
    · rw [hsame] at hold ⊢
      exact ⟨h.sessions, hold⟩
    · obtain ⟨row, kept⟩ := logout_row svc env value db
      refine ⟨fun s hs => ?_, fun k hk => ?_⟩
      · rw [hsessions] at hs
        exact h.sessions s hs
      · obtain hk | hkey := hrevoked k hk
        · exact hold k hk
        · rw [hstored, Option.isSome_some] at kept
          obtain ⟨t, ht⟩ := Option.isSome_iff_exists.mp kept
          exact Or.inr ⟨value, hkey, t, ht, row t ht⟩

theorem Blacklisted.run {db : IdentityDb} (h : Blacklisted svc db)
    (cmds : List (Env × IdentityCommand)) : Blacklisted svc (run (Identity.step svc) db cmds) :=
  run_invariant (I := Blacklisted svc) (fun _ i h => h.step hsha i) h cmds

/-- A live token is not blacklisted. -/
theorem Blacklisted.not_isRevoked {db : IdentityDb} (h : Blacklisted svc db) {value userId : String}
    {expiresAt : ℤ} (hlive : LiveRow svc value userId expiresAt db)
    (hencode : ∀ p, svc.encode p ≠ value) (env : Env) :
    isRevoked env (svc.sha256 value) db = false := by
  rw [Bool.eq_false_iff]
  intro hrevoked
  obtain ⟨k, hk, hkey⟩ := List.any_eq_true.mp hrevoked
  rw [Bool.and_eq_true, decide_eq_true_eq] at hkey
  obtain ⟨p, hp⟩ | ⟨value', hvalue, t, ht, hnot⟩ := h.revoked k hk
  · exact hencode p (hsha (hp.symm.trans hkey.1))
  · obtain rfl : value' = value := hsha (hvalue.symm.trans hkey.1)
    obtain ⟨t', ht', -, -, hnew⟩ := hlive
    obtain rfl := Option.some.inj (ht.symm.trans ht')
    exact hnot hnew

end Injective

/-! ## Histories -/

/-- The token was returned to the user by a call of the history, to expire then, and no logout of
    it has come since. -/
def Live (svc : Service) (db : IdentityDb) (value userId : String) (expiresAt : ℤ)
    (cmds : List (Env × IdentityCommand)) : Prop :=
  ∃ before i after, cmds = before ++ i :: after ∧
    Returns svc (run (step svc) db before) i value userId ∧ expiresAt = refreshExpiresAt svc i.1 ∧
    ∀ j ∈ after, j.2 ≠ .logout value

theorem live_append (svc : Service) (db : IdentityDb) (value userId : String) (expiresAt : ℤ)
    (cmds : List (Env × IdentityCommand)) (i : Env × IdentityCommand) :
    Live svc db value userId expiresAt (cmds ++ [i]) ↔
      (Returns svc (run (step svc) db cmds) i value userId ∧
          expiresAt = refreshExpiresAt svc i.1) ∨
        (Live svc db value userId expiresAt cmds ∧ i.2 ≠ .logout value) := by
  constructor
  · rintro ⟨before, j, after, hsplit, hreturns, hexpires, hafter⟩
    rcases List.eq_nil_or_concat after with rfl | ⟨after, k, rfl⟩
    · obtain ⟨rfl, hlast⟩ := List.append_inj' hsplit rfl
      cases hlast
      exact Or.inl ⟨hreturns, hexpires⟩
    · rw [List.concat_eq_append] at hsplit hafter
      rw [← List.cons_append, ← List.append_assoc] at hsplit
      obtain ⟨rfl, hlast⟩ := List.append_inj' hsplit rfl
      cases hlast
      rw [List.forall_mem_append, List.forall_mem_singleton] at hafter
      exact Or.inr ⟨⟨before, j, after, rfl, hreturns, hexpires, hafter.1⟩, hafter.2⟩
  · rintro (⟨hreturns, hexpires⟩ | ⟨⟨before, j, after, rfl, hreturns, hexpires, hafter⟩, hne⟩)
    · exact ⟨cmds, i, [], rfl, hreturns, hexpires, fun _ hj => absurd hj List.not_mem_nil⟩
    · refine ⟨before, j, after ++ [i], ?_, hreturns, hexpires, ?_⟩
      · rw [List.append_assoc, List.cons_append]
      · rw [List.forall_mem_append, List.forall_mem_singleton]
        exact ⟨hafter, hne⟩

/-- Row and history agree. -/
theorem live_iff {svc : Service} (hsha : Function.Injective svc.sha256) {db : IdentityDb}
    (hnone : db.refreshTokens = []) (value userId : String) (expiresAt : ℤ)
    (cmds : List (Env × IdentityCommand)) :
    LiveRow svc value userId expiresAt (run (step svc) db cmds) ↔
      Live svc db value userId expiresAt cmds := by
  induction cmds using List.reverseRecOn with
  | nil =>
    refine iff_of_false ?_ ?_
    · rintro ⟨t, ht, -⟩
      unfold tokenRow at ht
      rw [show (run (step svc) db []).refreshTokens = [] from hnone] at ht
      cases ht
    · rintro ⟨before, i, after, hsplit, -⟩
      simp at hsplit
  | append_singleton cmds i ih =>
    rw [live_append, ← ih, run_append]
    exact liveRow_step hsha value userId expiresAt _ i

/-! ## The law -/

theorem HasActive.find? {db : IdentityDb} (hs : db.Schema) {id : String} :
    HasActive db id ↔ ∃ user, db.users.find? (·.id = id) = some user ∧ user.isActive = true := by
  constructor
  · rintro ⟨user, hmem, rfl, hactive⟩
    exact ⟨user, find?_key hs.users_pkey hmem, hactive⟩
  · rintro ⟨user, hfound, hactive⟩
    exact ⟨user, List.mem_of_find?_eq_some hfound, by simpa using List.find?_some hfound, hactive⟩

/-- What the service looks at. -/
theorem refreshAccessToken_ok_iff {svc : Service} {env : Env} {value : String} {db : IdentityDb}
    (hs : db.Schema) :
    (∃ res, AuthService.refreshAccessToken svc env value db = .ok res) ↔
      isRevoked env (svc.sha256 value) db = false ∧
      ∃ userId expiresAt, LiveRow svc value userId expiresAt db ∧ env.now ≤ expiresAt ∧
        HasActive db userId := by
  unfold AuthService.refreshAccessToken LiveRow tokenRow
  dsimp only
  cases isRevoked env (svc.sha256 value) db with
  | true => simp
  | false =>
    rw [if_neg Bool.false_ne_true, and_iff_right rfl]
    cases db.refreshTokens.find? (·.tokenHash = svc.sha256 value) with
    | none => simp
    | some stored =>
      dsimp only
      split
      next hbad =>
        refine iff_of_false (fun ⟨_, h⟩ => nomatch h) ?_
        rintro ⟨userId, expiresAt, ⟨t, ht, rfl, rfl, hnew⟩, hnow, -⟩
        obtain rfl := Option.some.inj ht
        obtain hlate | hrevoked := hbad
        · omega
        · exact hrevoked hnew
      next hgood =>
        rw [not_or, Int.not_lt, ne_eq, not_not] at hgood
        have hrow : (∃ userId expiresAt, (∃ t, some stored = some t ∧ t.userId = userId ∧
            t.expiresAt = expiresAt ∧ t.revokedAt = none) ∧ env.now ≤ expiresAt ∧
              HasActive db userId) ↔ HasActive db stored.userId := by
          constructor
          · rintro ⟨userId, expiresAt, ⟨t, ht, rfl, rfl, -⟩, -, hactive⟩
            obtain rfl := Option.some.inj ht
            exact hactive
          · exact fun h => ⟨_, _, ⟨stored, rfl, rfl, rfl, hgood.2⟩, hgood.1, h⟩
        rw [hrow, HasActive.find? hs]
        cases db.users.find? (·.id = stored.userId) with
        | none => simp
        | some user =>
          dsimp only
          cases hactive : user.isActive with
          | false => simp [hactive]
          | true => simp [hactive]

theorem returns_randomToken {svc : Service} {db : IdentityDb} {i : Env × IdentityCommand}
    {value userId : String} (h : Returns svc db i value userId) : value = i.1.randomToken := by
  obtain ⟨res, hres, rfl, -⟩ := h
  have hstep := execute_tokenStep svc i.1 i.2 db
  generalize (execute svc i.1 i.2 db).1 = db' at hstep
  obtain ⟨env, cmd⟩ := i
  dsimp only at hstep
  cases hstep with
  | kept silent noLogout tokens sessions revoked => cases silent.symm.trans hres
  | issued res' answer noLogout row =>
    obtain rfl := Option.some.inj (answer.symm.trans hres)
    exact row.value
  | loggedOut value => cases hres

theorem returns_not_logout {svc : Service} {db : IdentityDb} {i : Env × IdentityCommand}
    {value userId : String} (h : Returns svc db i value userId) (value' : String) :
    i.2 ≠ .logout value' := by
  obtain ⟨env, cmd⟩ := i
  rintro rfl
  obtain ⟨res, hres, -⟩ := h
  cases hres

/-- In every history of calls, at any times: a refresh token is accepted if and only if a login (or
    the login of a registration) has returned it, no logout of it has come since, the time is not
    past its `expiresAt`, and its user is active. SHA-256 is taken to be injective, and no access
    token to be one of the random refresh tokens.

    If moreover nobody has logged out a token before it was drawn, "since" may be "ever". -/
theorem refresh_ok_iff {svc : Service} (hsha : Function.Injective svc.sha256) (seed : Seed)
    {cmds : List (Env × IdentityCommand)}
    (hencode : ∀ i ∈ cmds, ∀ p, svc.encode p ≠ i.1.randomToken) (env : Env) (value : String) :
    let db := run (step svc) (IdentityDb.seeded seed)
    ((∃ res, AuthService.refreshAccessToken svc env value (db cmds) = .ok res) ↔
      ∃ before i after userId, cmds = before ++ i :: after ∧
        Returns svc (db before) i value userId ∧ (∀ j ∈ after, j.2 ≠ .logout value) ∧
        env.now ≤ refreshExpiresAt svc i.1 ∧ HasActive (db cmds) userId) ∧
    ((∀ before i after, cmds = before ++ i :: after →
        ∀ j ∈ before, j.2 ≠ .logout i.1.randomToken) →
      ((∃ res, AuthService.refreshAccessToken svc env value (db cmds) = .ok res) ↔
        ∃ before i after userId, cmds = before ++ i :: after ∧
          Returns svc (db before) i value userId ∧ (∀ j ∈ cmds, j.2 ≠ .logout value) ∧
          env.now ≤ refreshExpiresAt svc i.1 ∧ HasActive (db cmds) userId)) := by
  intro db
  have hs : (db cmds).Schema := reachable_schema ⟨seed, cmds, rfl⟩
  have hblack : Blacklisted svc (db cmds) := by
    refine Blacklisted.run hsha ⟨fun _ h => ?_, fun _ h => ?_⟩ cmds
    · exact absurd h List.not_mem_nil
    · exact absurd h List.not_mem_nil
  have hsince : (∃ res, AuthService.refreshAccessToken svc env value (db cmds) = .ok res) ↔
      ∃ before i after userId, cmds = before ++ i :: after ∧
        Returns svc (db before) i value userId ∧ (∀ j ∈ after, j.2 ≠ .logout value) ∧
        env.now ≤ refreshExpiresAt svc i.1 ∧ HasActive (db cmds) userId := by
    rw [refreshAccessToken_ok_iff hs]
    constructor
    · rintro ⟨-, userId, expiresAt, hlive, hnow, hactive⟩
      obtain ⟨before, i, after, hsplit, hreturns, rfl, hafter⟩ :=
        (live_iff hsha rfl _ _ _ _).mp hlive
      exact ⟨before, i, after, userId, hsplit, hreturns, hafter, hnow, hactive⟩
    · rintro ⟨before, i, after, userId, hsplit, hreturns, hafter, hnow, hactive⟩
      have hlive : LiveRow svc value userId (refreshExpiresAt svc i.1) (db cmds) :=
        (live_iff hsha rfl _ _ _ _).mpr ⟨before, i, after, hsplit, hreturns, rfl, hafter⟩
      refine ⟨hblack.not_isRevoked hsha hlive (fun p => ?_) env, userId, _, hlive, hnow, hactive⟩
      rw [returns_randomToken hreturns]
      exact hencode i (by rw [hsplit]; simp) p
  refine ⟨hsince, fun hdrawn => hsince.trans ?_⟩
  constructor
  · rintro ⟨before, i, after, userId, hsplit, hreturns, hafter, hrest⟩
    refine ⟨before, i, after, userId, hsplit, hreturns, fun j hj => ?_, hrest⟩
    rw [hsplit] at hj
    obtain hj | hj := List.mem_append.mp hj
    · rw [returns_randomToken hreturns]
      exact hdrawn before i after hsplit j hj
    · obtain rfl | hj := List.mem_cons.mp hj
      · exact returns_not_logout hreturns value
      · exact hafter j hj
  · rintro ⟨before, i, after, userId, hsplit, hreturns, hall, hrest⟩
    refine ⟨before, i, after, userId, hsplit, hreturns, fun j hj => hall j ?_, hrest⟩
    rw [hsplit]
    exact List.mem_append_right _ (List.mem_cons_of_mem _ hj)

namespace Sample

theorem sha256_injective : Function.Injective svc.sha256 := by
  intro s t h
  have hl := congrArg String.toList h
  simp only [svc, String.toList_append] at hl
  exact String.toList_inj.mp (List.append_cancel_left hl)

/-- `ann` logs in. -/
def loggedIn : List (Env × IdentityCommand) :=
  [(clock 1, .login "ann@example.com" "Passw0rd" none none)]

theorem loggedIn_returns :
    Returns svc (IdentityDb.seeded seed)
      (clock 1, .login "ann@example.com" "Passw0rd" none none) "random-1" "ann" := by
  have h : (loginAnswer svc (IdentityDb.seeded seed)
      (clock 1, .login "ann@example.com" "Passw0rd" none none)).map
        (fun res => (res.refreshToken, res.accessToken.sub)) = some ("random-1", "ann") := by
    decide +kernel
  obtain ⟨res, hres, he⟩ := Option.map_eq_some_iff.mp h
  exact ⟨res, hres, congrArg Prod.fst he, congrArg Prod.snd he⟩

/-- Access tokens have a dot in them. -/
theorem encode_ne_random (p : JwtPayload) : svc.encode p ≠ (clock 1).randomToken := by
  intro h
  have hdot : '.' ∈ (svc.encode p).toList := by
    simp [svc, String.toList_append]
  rw [h] at hdot
  revert hdot
  decide +kernel

end Sample

theorem refresh_ok_iff_sample :
    ∃ res, AuthService.refreshAccessToken Sample.svc (Sample.clock 2) "random-1"
      (run (step Sample.svc) (IdentityDb.seeded Sample.seed) Sample.loggedIn) = .ok res := by
  have hencode : ∀ i ∈ Sample.loggedIn, ∀ p, Sample.svc.encode p ≠ i.1.randomToken := by
    intro i hi
    obtain rfl := List.mem_singleton.mp hi
    exact Sample.encode_ne_random
  refine (refresh_ok_iff Sample.sha256_injective Sample.seed hencode _ _).1.mpr
    ⟨[], _, [], "ann", rfl, Sample.loggedIn_returns, fun _ h => absurd h List.not_mem_nil, ?_, ?_⟩
  · decide +kernel
  · unfold HasActive
    decide +kernel

end SaasChassis.Identity
