/-
  ImpersonationService: an administrator's session as another user.

  `startImpersonation_ok` says who may start one and what the token then says;
  `endImpersonation_ok` that ending one gives back an ordinary token of the real user.
-/
import SaasChassis.Identity.Auth

namespace SaasChassis.Identity

open SaasChassis.Lib

structure ImpersonateDto where
  targetUserId : String
  targetTenantId : String
  reason : String

namespace ImpersonationService

/-- The session is saved once to get its id and again with the hash of the token. -/
def startImpersonation (svc : Service) (env : Env) (adminUser : JwtPayload) (dto : ImpersonateDto)
    (db : IdentityDb) : Outcome (JwtPayload × String) :=
  if !adminUser.isPlatformAdmin then
    (db, .error (.forbidden "Only platform administrators can impersonate users"))
  else
    match findUserById db adminUser.sub, findUserById db dto.targetUserId with
    | .error e, _ => (db, .error e)
    | .ok _, .error e => (db, .error e)
    | .ok admin, .ok targetUser =>
      if !targetUser.isActive then
        (db, .error (.forbidden "Cannot impersonate an inactive user"))
      else if targetUser.isPlatformAdmin then
        (db, .error (.forbidden "Cannot impersonate another platform administrator"))
      else
        let session : ImpersonationSession :=
          { id := env.newId
            adminUserId := admin.id
            targetUserId := targetUser.id
            targetTenantId := dto.targetTenantId
            reason := dto.reason
            tokenHash := "pending"
            expiresAt := env.now + 30 * 60 * 1000
            endedAt := none
            createdAt := env.now }
        match insertSession env session db with
        | .error e => (db, .error e)
        | .ok db =>
          let accessToken :=
            AuthService.issueImpersonationToken svc env admin targetUser dto.targetTenantId db
          let tokenHash := svc.sha256 (svc.encode accessToken)
          (saveSession { session with tokenHash := tokenHash } db, .ok (accessToken, session.id))

/-- `findOne` with `order: { createdAt: 'DESC' }`. -/
def latest : List ImpersonationSession → Option ImpersonationSession
  | [] => none
  | s :: ss =>
    match latest ss with
    | some s' => some (if s.createdAt < s'.createdAt then s' else s)
    | none => some s

/-- The active session of the pair is ended and its token revoked, if there is one. -/
def endSession (env : Env) (targetUserId adminUserId : String) (db : IdentityDb) : IdentityDb :=
  let session := latest <| db.sessions.filter fun s =>
    s.targetUserId = targetUserId && s.adminUserId = adminUserId && s.endedAt.isNone &&
      env.sees s.targetTenantId
  match session with
  | some session => AuthService.revokeImpersonationToken env session.tokenHash session.expiresAt
      (saveSession { session with endedAt := some env.now } db)
  | none => db

def endImpersonation (svc : Service) (env : Env) (currentUser : JwtPayload) (db : IdentityDb) :
    Outcome AccessTokenResponse :=
  if !currentUser.isImpersonating then
    (db, .error (.forbidden "Current session is not an impersonation session"))
  else
    match currentUser.realUserId with
    | none | some "" =>
      (db, .error (.unauthorized "Missing realUserId in impersonation token"))
    | some realUserId =>
      let db := endSession env currentUser.sub realUserId db
      (db, AuthService.reissueAdminToken svc env realUserId db)

theorem endSession_tables (env : Env) (targetUserId adminUserId : String) (db : IdentityDb) :
    (endSession env targetUserId adminUserId db).users = db.users ∧
    (endSession env targetUserId adminUserId db).roles = db.roles ∧
    (endSession env targetUserId adminUserId db).memberships = db.memberships := by
  unfold endSession AuthService.revokeImpersonationToken
  dsimp only
  split
  · split <;> exact ⟨rfl, rfl, rfl⟩
  · exact ⟨rfl, rfl, rfl⟩

theorem startImpersonation_users (svc : Service) (env : Env) (adminUser : JwtPayload)
    (dto : ImpersonateDto) (db : IdentityDb) :
    (startImpersonation svc env adminUser dto db).1.users = db.users := by
  unfold startImpersonation insertSession
  split
  · rfl
  · split
    · rfl
    · rfl
    · split
      · rfl
      · split
        · rfl
        · dsimp only
          split
          next => rfl
          next db' hins =>
            split at hins
            · cases hins
            · obtain rfl := Except.ok.inj hins
              rfl

theorem endImpersonation_users (svc : Service) (env : Env) (currentUser : JwtPayload)
    (db : IdentityDb) : (endImpersonation svc env currentUser db).1.users = db.users := by
  unfold endImpersonation
  split
  · rfl
  · split
    · rfl
    · rfl
    · exact (endSession_tables env currentUser.sub _ db).1

/-! ## What a successful call signs -/

theorem startImpersonation_ok {svc : Service} {env : Env} {adminUser : JwtPayload}
    {dto : ImpersonateDto} {db : IdentityDb} {token : JwtPayload} {id : String}
    (h : (startImpersonation svc env adminUser dto db).2 = .ok (token, id)) :
    adminUser.isPlatformAdmin = true ∧
    ∃ admin target, findUserById db adminUser.sub = .ok admin ∧
      findUserById db dto.targetUserId = .ok target ∧ target.isActive = true ∧
      target.isPlatformAdmin = false ∧
      token.toUnsignedPayload = (AuthService.issueImpersonationToken svc env admin target
        dto.targetTenantId db).toUnsignedPayload := by
  unfold startImpersonation at h
  split at h
  next => cases h
  next hadmin =>
    refine ⟨by simpa using hadmin, ?_⟩
    split at h
    next => cases h
    next => cases h
    next admin target ha ht =>
      split at h
      next => cases h
      next hactive =>
        split at h
        next => cases h
        next hflag =>
          dsimp only at h
          split at h
          next => cases h
          next db' hins =>
            obtain ⟨rfl, _⟩ := Prod.mk.inj (Except.ok.inj h)
            refine ⟨admin, target, ha, ht, by simpa using hactive, by simpa using hflag, ?_⟩
            unfold insertSession at hins
            split at hins
            · cases hins
            · obtain rfl := Except.ok.inj hins
              rfl

theorem endImpersonation_ok {svc : Service} {env : Env} {currentUser : JwtPayload}
    {db : IdentityDb} {res : AccessTokenResponse}
    (h : (endImpersonation svc env currentUser db).2 = .ok res) :
    currentUser.isImpersonating = true ∧
    ∃ realUserId, currentUser.realUserId = some realUserId ∧ realUserId ≠ "" ∧
      AuthService.reissueAdminToken svc env realUserId db = .ok res := by
  unfold endImpersonation at h
  split at h
  next => cases h
  next himp =>
    refine ⟨by simpa using himp, ?_⟩
    split at h
    next => cases h
    next => cases h
    next realUserId hne hreal =>
      obtain ⟨hu, hr, hm⟩ := endSession_tables env currentUser.sub realUserId db
      refine ⟨realUserId, hreal, fun he => hne (he ▸ rfl), ?_⟩
      rw [← AuthService.reissueAdminToken_congr hu hr hm]
      exact h

/-! ## What the calls write -/

theorem startImpersonation_writes (svc : Service) (env : Env) (adminUser : JwtPayload)
    (dto : ImpersonateDto) (db : IdentityDb) :
    Writes db (startImpersonation svc env adminUser dto db).1 := by
  unfold startImpersonation
  split
  · exact .refl
  · split
    · exact .refl
    · exact .refl
    · split
      · exact .refl
      · split
        · exact .refl
        · dsimp only
          split
          next => exact .refl
          next db' hins =>
            exact Relation.ReflTransGen.trans (.single (insertSession_write hins))
              (AuthService.elsewhere_writes rfl rfl rfl)

theorem endImpersonation_writes (svc : Service) (env : Env) (currentUser : JwtPayload)
    (db : IdentityDb) : Writes db (endImpersonation svc env currentUser db).1 := by
  unfold endImpersonation
  split
  · exact .refl
  · split
    · exact .refl
    · exact .refl
    · obtain ⟨hu, hr, hm⟩ := endSession_tables env currentUser.sub _ db
      exact AuthService.elsewhere_writes hu hr hm

end ImpersonationService

end SaasChassis.Identity
