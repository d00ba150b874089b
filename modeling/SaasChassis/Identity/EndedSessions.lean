/-
  Does endImpersonation end the session whose token it is asked with?

  A session keeps the hash of its token, but endImpersonation looks for the pair of administrator
  and target and takes the newest open session of it, expired ones included; the hash it revokes
  is that session's. When it finds none it answers with the administrator's token all the same, as
  it does in every other case (`endImpersonation_answers`).

  `ends_presented_iff`: in any set of sessions the session of the token, and only that one, is
  ended exactly when it is the one that is found (`latest_eq_iff`), has not expired and has a
  second to live, a key of Redis being kept for whole seconds.
-/
import SaasChassis.Identity.Attribution

namespace SaasChassis.Identity

open SaasChassis.Lib

/-! ## Statement -/

/-- The getter of the entity. -/
def ImpersonationSession.isActive (env : Env) (s : ImpersonationSession) : Bool :=
  s.endedAt.isNone && env.now < s.expiresAt

/-- The session of the token. -/
def ImpersonationSession.IsOf (svc : Service) (token : JwtPayload) (s : ImpersonationSession) :
    Prop :=
  s.tokenHash = svc.sha256 (svc.encode token)

/-- A request with an impersonation token that JwtStrategy takes. -/
structure Impersonates (env : Env) (db : IdentityDb) (token : JwtPayload) (realUserId : String) :
    Prop where
  valid : validate env token db = .ok ()
  impersonating : token.isImpersonating = true
  real : token.realUserId = some realUserId
  /-- Ids are UUIDs. -/
  nonempty : realUserId ≠ ""
  admin : ∃ user ∈ db.users, user.id = realUserId

/-- The session is ended and its token revoked; all other ones are as they were. -/
structure EndsSession (env : Env) (s : ImpersonationSession) (db db' : IdentityDb) : Prop where
  sessions : db'.sessions = updateKey (·.id) s.id ({ · with endedAt := some env.now }) db.sessions
  revoked : isRevoked env s.tokenHash db' = true
  others : ∀ later tokenHash, tokenHash ≠ s.tokenHash →
    isRevoked later tokenHash db' = isRevoked later tokenHash db
  refreshTokens : db'.refreshTokens = db.refreshTokens

/-- DELETE /impersonate succeeds exactly when the token's session is active, and then ends it and
    no other one. -/
structure EndsPresented (svc : Service) (env : Env) (token : JwtPayload) (db : IdentityDb) :
    Prop where
  succeeds_iff : (handle svc env token .endImpersonation db).2.isOk ↔
    ∃ s ∈ db.sessions, s.IsOf svc token ∧ s.isActive env
  ends : (handle svc env token .endImpersonation db).2.isOk →
    ∃ s ∈ db.sessions, s.IsOf svc token ∧ s.isActive env ∧
      EndsSession env s db (handle svc env token .endImpersonation db).1

/-- The sessions of the pair that have not ended, as far as the connection sees them. -/
def openSessions (env : Env) (targetUserId adminUserId : String) (db : IdentityDb) :
    List ImpersonationSession :=
  db.sessions.filter fun s =>
    s.targetUserId = targetUserId && s.adminUserId = adminUserId && s.endedAt.isNone &&
      env.sees s.targetTenantId

/-- None was created later; of several created at one time it is the first. -/
def Newest (sessions : List ImpersonationSession) (s : ImpersonationSession) : Prop :=
  ∃ before after, sessions = before ++ s :: after ∧
    (∀ q ∈ before, q.createdAt < s.createdAt) ∧ ∀ q ∈ after, q.createdAt ≤ s.createdAt

/-- The session of the token is the newest open one of the pair, and not about to expire. -/
def PresentedNewest (svc : Service) (env : Env) (token : JwtPayload) (realUserId : String)
    (db : IdentityDb) : Prop :=
  ∃ s, s.IsOf svc token ∧ Newest (openSessions env token.sub realUserId db) s ∧
    env.now < s.expiresAt ∧
    (env.now + 1000 ≤ s.expiresAt ∨ isRevoked env s.tokenHash db = true)

/-! ## What is found -/

section Newest

variable {sessions : List ImpersonationSession} {s q : ImpersonationSession}

theorem Newest.mem (h : Newest sessions s) : s ∈ sessions := by
  obtain ⟨before, after, rfl, -, -⟩ := h
  exact List.mem_append_right _ List.mem_cons_self

theorem Newest.le (h : Newest sessions s) (hq : q ∈ sessions) : q.createdAt ≤ s.createdAt := by
  obtain ⟨before, after, rfl, hbefore, hafter⟩ := h
  rcases List.mem_append.mp hq with hq | hq
  · exact Int.le_of_lt (hbefore q hq)
  · rcases List.mem_cons.mp hq with rfl | hq
    · exact Int.le_refl _
    · exact hafter q hq

end Newest

namespace ImpersonationService

theorem latest_none {sessions : List ImpersonationSession} (h : latest sessions = none) :
    sessions = [] := by
  cases sessions with
  | nil => rfl
  | cons s ss =>
    rw [latest] at h
    split at h <;> cases h

/-- `order: { createdAt: 'DESC' }` finds the newest. -/
theorem latest_eq_iff {sessions : List ImpersonationSession} {s : ImpersonationSession} :
    latest sessions = some s ↔ Newest sessions s := by
  induction sessions generalizing s with
  | nil =>
    refine iff_of_false nofun fun h => ?_
    cases h.mem
  | cons q qs ih =>
    cases hl : latest qs with
    | none =>
      obtain rfl := latest_none hl
      rw [latest, hl]
      constructor
      · rintro ⟨⟩
        exact ⟨[], [], rfl, nofun, nofun⟩
      · intro h
        rw [List.mem_singleton.mp h.mem]
    | some r =>
      have hr : Newest qs r := ih.mp hl
      rw [latest, hl]
      by_cases hlt : q.createdAt < r.createdAt
      · simp only [if_pos hlt, Option.some.injEq]
        constructor
        · rintro rfl
          obtain ⟨before, after, rfl, hbefore, hafter⟩ := hr
          refine ⟨q :: before, after, rfl, fun p hp => ?_, hafter⟩
          rcases List.mem_cons.mp hp with rfl | hp
          · exact hlt
          · exact hbefore p hp
        · rintro ⟨before, after, heq, hbefore, hafter⟩
          cases before with
          | nil =>
            obtain ⟨rfl, rfl⟩ := List.cons.inj heq
            exact absurd (hafter r hr.mem) (Int.not_le.mpr hlt)
          | cons p before =>
            obtain ⟨rfl, rfl⟩ := List.cons.inj heq
            have hs := ih.mpr ⟨before, after, rfl,
              fun p hp => hbefore p (List.mem_cons_of_mem _ hp), hafter⟩
            exact Option.some.inj (hl.symm.trans hs)
      · simp only [if_neg hlt, Option.some.injEq]
        constructor
        · rintro rfl
          exact ⟨[], qs, rfl, nofun, fun p hp => Int.le_trans (hr.le hp) (Int.not_lt.mp hlt)⟩
        · rintro ⟨before, after, heq, hbefore, hafter⟩
          cases before with
          | nil => exact (List.cons.inj heq).1
          | cons p before =>
            obtain ⟨rfl, rfl⟩ := List.cons.inj heq
            have hs := ih.mpr ⟨before, after, rfl,
              fun p hp => hbefore p (List.mem_cons_of_mem _ hp), hafter⟩
            obtain rfl := Option.some.inj (hl.symm.trans hs)
            exact absurd (hbefore q List.mem_cons_self) hlt

end ImpersonationService

/-! ## What is revoked -/

theorem isRevoked_setRevoked {env : Env} {tokenHash : String} {endsAt : ℤ} (h : env.now < endsAt)
    (db : IdentityDb) : isRevoked env tokenHash (setRevoked tokenHash endsAt db) = true := by
  simp [isRevoked, setRevoked, h]

theorem isRevoked_setRevoked_ne {tokenHash other : String} (hne : other ≠ tokenHash) (env : Env)
    (endsAt : ℤ) (db : IdentityDb) :
    isRevoked env other (setRevoked tokenHash endsAt db) = isRevoked env other db := by
  unfold isRevoked setRevoked
  rw [List.any_cons, List.any_filter]
  simp only [hne.symm, decide_false, Bool.false_and, Bool.false_or]
  refine List.any_congr rfl fun r => ?_
  by_cases hr : r.1 = other
  · simp [hr, hne]
  · simp [hr]

/-- A key for whole seconds: none for less than one. -/
theorem revokeImpersonationToken_eq (env : Env) (tokenHash : String) (expiresAt : ℤ)
    (db : IdentityDb) :
    AuthService.revokeImpersonationToken env tokenHash expiresAt db =
      if env.now + 1000 ≤ expiresAt then
        setRevoked tokenHash (env.now + (expiresAt - env.now) / 1000 * 1000) db
      else db := by
  unfold AuthService.revokeImpersonationToken
  dsimp only
  by_cases h : env.now + 1000 ≤ expiresAt
  · have hpos : 0 < (expiresAt - env.now) / 1000 := by omega
    rw [if_pos h, Int.max_eq_right (Int.le_of_lt hpos), if_pos hpos]
  · have hnone : (expiresAt - env.now) / 1000 ≤ 0 := by omega
    rw [if_neg h, Int.max_eq_left hnone, if_neg (Int.lt_irrefl 0)]

/-- The call on the found session. -/
theorem revokeImpersonationToken_others {env later : Env} {tokenHash other : String}
    (hne : other ≠ tokenHash) (expiresAt : ℤ) (db : IdentityDb) :
    isRevoked later other (AuthService.revokeImpersonationToken env tokenHash expiresAt db) =
      isRevoked later other db := by
  rw [revokeImpersonationToken_eq]
  split
  · exact isRevoked_setRevoked_ne hne later _ db
  · rfl

theorem revokeImpersonationToken_revoked_iff (env : Env) (tokenHash : String) (expiresAt : ℤ)
    (db : IdentityDb) :
    isRevoked env tokenHash (AuthService.revokeImpersonationToken env tokenHash expiresAt db) =
      true ↔ env.now + 1000 ≤ expiresAt ∨ isRevoked env tokenHash db = true := by
  rw [revokeImpersonationToken_eq]
  by_cases h : env.now + 1000 ≤ expiresAt
  · rw [if_pos h]
    exact iff_of_true (isRevoked_setRevoked (by omega) db) (Or.inl h)
  · rw [if_neg h]
    exact (or_iff_right h).symm

theorem revokeImpersonationToken_tables (env : Env) (tokenHash : String) (expiresAt : ℤ)
    (db : IdentityDb) :
    (AuthService.revokeImpersonationToken env tokenHash expiresAt db).sessions = db.sessions ∧
      (AuthService.revokeImpersonationToken env tokenHash expiresAt db).refreshTokens =
        db.refreshTokens := by
  rw [revokeImpersonationToken_eq]
  split <;> exact ⟨rfl, rfl⟩

/-! ## The request -/

section Request

variable {svc : Service} {env : Env} {db : IdentityDb} {token : JwtPayload} {realUserId : String}

/-- The administrator gets a token in every case, and the rest is `endSession`. -/
theorem endImpersonation_answers (svc : Service) (h : Impersonates env db token realUserId) :
    (handle svc env token .endImpersonation db).2.isOk ∧
      (handle svc env token .endImpersonation db).1 =
        ImpersonationService.endSession env token.sub realUserId db := by
  have hrun : ImpersonationService.endImpersonation svc env token db =
      (ImpersonationService.endSession env token.sub realUserId db,
        AuthService.reissueAdminToken svc env realUserId
          (ImpersonationService.endSession env token.sub realUserId db)) := by
    unfold ImpersonationService.endImpersonation
    rw [h.impersonating, h.real]
    split
    next he => cases he
    next =>
      split
      next he => cases he
      next he => exact absurd (Option.some.inj he) h.nonempty
      next id _ he =>
        obtain rfl := Option.some.inj he
        rfl
  have hadmin : (AuthService.reissueAdminToken svc env realUserId
      (ImpersonationService.endSession env token.sub realUserId db)).isOk := by
    obtain ⟨hu, hr, hm⟩ := ImpersonationService.endSession_tables env token.sub realUserId db
    rw [AuthService.reissueAdminToken_congr hu hr hm]
    unfold AuthService.reissueAdminToken findUserById
    cases hf : db.users.find? (·.id = realUserId) with
    | some user => rfl
    | none =>
      obtain ⟨user, hmem, hid⟩ := h.admin
      exact absurd (List.find?_eq_none.mp hf user hmem) (by simpa using hid)
  unfold handle
  rw [h.valid]
  simp only [AuthRequest.authorize, AuthRequest.command, execute, hrun]
  refine ⟨?_, trivial⟩
  cases hres : AuthService.reissueAdminToken svc env realUserId
      (ImpersonationService.endSession env token.sub realUserId db) with
  | ok res => rfl
  | error e =>
    rw [hres] at hadmin
    cases hadmin

theorem endSession_eq (env : Env) (targetUserId adminUserId : String) (db : IdentityDb) :
    ImpersonationService.endSession env targetUserId adminUserId db =
      match ImpersonationService.latest (openSessions env targetUserId adminUserId db) with
      | some s => AuthService.revokeImpersonationToken env s.tokenHash s.expiresAt
          (saveSession { s with endedAt := some env.now } db)
      | none => db := rfl

theorem mem_openSessions {targetUserId adminUserId : String} {s : ImpersonationSession}
    (h : s ∈ openSessions env targetUserId adminUserId db) :
    s ∈ db.sessions ∧ s.endedAt = none := by
  unfold openSessions at h
  simp only [List.mem_filter, Bool.and_eq_true, Option.isNone_iff_eq_none] at h
  exact ⟨h.1, h.2.1.2⟩

/-- The session found is the one that is ended. -/
theorem endsSession_iff (hids : (db.sessions.map (·.id)).Nodup) {s : ImpersonationSession}
    (hs : s ∈ db.sessions) (hopen : s.endedAt = none) (targetUserId adminUserId : String) :
    EndsSession env s db (ImpersonationService.endSession env targetUserId adminUserId db) ↔
      Newest (openSessions env targetUserId adminUserId db) s ∧
        (env.now + 1000 ≤ s.expiresAt ∨ isRevoked env s.tokenHash db = true) := by
  rw [endSession_eq, ← ImpersonationService.latest_eq_iff]
  have hchanges : updateKey (·.id) s.id ({ · with endedAt := some env.now }) db.sessions ≠
      db.sessions := by
    intro he
    have hsame := congrArg ImpersonationSession.endedAt (updateKey_eq_self_iff.mp he s hs rfl)
    rw [hopen] at hsame
    cases hsame
  cases hl : ImpersonationService.latest (openSessions env targetUserId adminUserId db) with
  | none => exact iff_of_false (fun h => hchanges h.sessions.symm) fun h => nomatch h.1
  | some r =>
    obtain ⟨hr, -⟩ := mem_openSessions (ImpersonationService.latest_eq_iff.mp hl).mem
    obtain ⟨hsessions, htokens⟩ := revokeImpersonationToken_tables env r.tokenHash r.expiresAt
      (saveSession { r with endedAt := some env.now } db)
    have hsaved : (saveSession { r with endedAt := some env.now } db).sessions =
        updateKey (·.id) r.id ({ · with endedAt := some env.now }) db.sessions :=
      (updateKey_const (f := fun q : ImpersonationSession => { q with endedAt := some env.now })
        hids hr).symm
    constructor
    · intro h
      have hboth := (h.sessions.symm.trans hsessions).trans hsaved
      have hid : s.id = r.id := by
        by_contra hne
        have hrow := List.map_inj_left.mp hboth s hs
        rw [if_pos rfl, if_neg hne] at hrow
        have hended := congrArg ImpersonationSession.endedAt hrow
        rw [hopen] at hended
        cases hended
      obtain rfl := nodup_keys_inj hids hs hr hid
      have hrevoked := (revokeImpersonationToken_revoked_iff env s.tokenHash s.expiresAt
        (saveSession { s with endedAt := some env.now } db)).mp h.revoked
      exact ⟨rfl, hrevoked⟩
    · rintro ⟨he, hrevoked⟩
      obtain rfl := Option.some.inj he
      exact { sessions := hsessions.trans hsaved
              revoked := (revokeImpersonationToken_revoked_iff env _ _ _).mpr hrevoked
              others := fun later _ hne => revokeImpersonationToken_others hne _ _
              refreshTokens := htokens }

/-- In every set of sessions, with any number of open ones: the session of the token, and no other
    one, is ended exactly when it is the newest open one of its pair and not about to expire. -/
theorem ends_presented_iff (hids : (db.sessions.map (·.id)).Nodup)
    (h : Impersonates env db token realUserId) :
    EndsPresented svc env token db ↔ PresentedNewest svc env token realUserId db := by
  obtain ⟨hok, hstate⟩ := endImpersonation_answers svc h
  have hactive : ∀ s : ImpersonationSession, s.isActive env = true ↔
      s.endedAt = none ∧ env.now < s.expiresAt := by
    intro s
    simp [ImpersonationSession.isActive]
  constructor
  · intro hends
    obtain ⟨s, hs, hof, hact, hend⟩ := hends.ends hok
    obtain ⟨hopen, hlive⟩ := (hactive s).mp hact
    rw [hstate, endsSession_iff hids hs hopen] at hend
    exact ⟨s, hof, hend.1, hlive, hend.2⟩
  · rintro ⟨s, hof, hnewest, hlive, hrevoked⟩
    obtain ⟨hs, hopen⟩ := mem_openSessions hnewest.mem
    have hact := (hactive s).mpr ⟨hopen, hlive⟩
    refine ⟨iff_of_true hok ⟨s, hs, hof, hact⟩, fun _ => ⟨s, hs, hof, hact, ?_⟩⟩
    rw [hstate, endsSession_iff hids hs hopen]
    exact ⟨hnewest, hrevoked⟩

end Request

/-- Any impersonation token the service has issued, as long as its request is authenticated. -/
theorem impersonates_of_issued {svc : Service} {sys : System} (hsys : ReachableSystem svc sys)
    (hids : ∀ user ∈ sys.db.users, user.id ≠ "") {env : Env} {token : JwtPayload}
    (hmem : token ∈ sys.issued) (himp : token.isImpersonating = true)
    (hvalid : validate env token sys.db = .ok ()) :
    ∃ realUserId, Impersonates env sys.db token realUserId := by
  obtain ⟨a, hreal, ⟨user, huser, hid, -⟩, -⟩ :=
    ((reachable_sound hsys).issued token hmem).impersonating himp
  exact ⟨a, { valid := hvalid, impersonating := himp, real := hreal
              nonempty := hid ▸ hids user huser, admin := ⟨user, huser, hid⟩ }⟩

namespace Sample

/-- `root` plays `ann` in `t1` and, five seconds later, in `t2` as well. -/
def impersonatedTwice : System :=
  run (System.step svc) impersonated
    [.other (clock 8) rootToken (.startImpersonation ⟨"ann", "t2", "another ticket"⟩)]

/-- The token of the second session. -/
def secondToken : JwtPayload :=
  AuthService.sign svc (clock 8) "30m"
    { sub := "ann", email := "ann@example.com", displayName := "ann", isPlatformAdmin := false,
      tenantId := some "t2", tenantSlug := none, roles := [], permissions := [],
      isImpersonating := true, realUserId := some "root" }

/-- Their sessions. -/
def session (tenantId reason : String) (s : ℤ) : ImpersonationSession :=
  { id := "id-" ++ toString s, adminUserId := "root", targetUserId := "ann",
    targetTenantId := tenantId, reason := reason, tokenHash := "sha256:ann." ++ toString s,
    expiresAt := 1000 * s + 1800000, endedAt := none, createdAt := 1000 * s }

theorem open_sessions : openSessions (clock 9) "ann" "root" impersonatedTwice.db =
    [session "t1" "support ticket" 3, session "t2" "another ticket" 8] := by
  decide +kernel

theorem impersonates (token : JwtPayload)
    (hvalid : validate (clock 9) token impersonatedTwice.db = .ok ())
    (himp : token.isImpersonating = true) (hreal : token.realUserId = some "root") :
    Impersonates (clock 9) impersonatedTwice.db token "root" :=
  { valid := hvalid, impersonating := himp, real := hreal, nonempty := by decide
    admin := by decide +kernel }

end Sample

theorem ends_presented_iff_sample :
    EndsPresented Sample.svc (Sample.clock 9) Sample.secondToken Sample.impersonatedTwice.db := by
  have himpersonates := Sample.impersonates Sample.secondToken (by decide +kernel) rfl rfl
  refine (ends_presented_iff (by decide +kernel) himpersonates).mpr
    ⟨Sample.session "t2" "another ticket" 8, ?_, ?_, by decide +kernel, Or.inl (by decide +kernel)⟩
  · unfold ImpersonationSession.IsOf
    decide +kernel
  · exact ⟨[Sample.session "t1" "support ticket" 3], [], Sample.open_sessions, by decide +kernel,
      by simp⟩

/-- The first token ends the second session and leaves its own one open. -/
theorem other_session_ended :
    ReachableSystem Sample.svc Sample.impersonatedTwice ∧
    Sample.annToken ∈ Sample.impersonatedTwice.issued ∧
    Impersonates (Sample.clock 9) Sample.impersonatedTwice.db Sample.annToken "root" ∧
    ((handle Sample.svc (Sample.clock 9) Sample.annToken .endImpersonation
      Sample.impersonatedTwice.db).1.sessions.map fun s => (s.targetTenantId, s.endedAt)) =
        [("t1", none), ("t2", some 9000)] ∧
    ¬ EndsPresented Sample.svc (Sample.clock 9) Sample.annToken Sample.impersonatedTwice.db := by
  have himpersonates := Sample.impersonates Sample.annToken (by decide +kernel) rfl rfl
  have hended : ((handle Sample.svc (Sample.clock 9) Sample.annToken .endImpersonation
      Sample.impersonatedTwice.db).1.sessions.map fun s => (s.targetTenantId, s.endedAt)) =
        [("t1", none), ("t2", some 9000)] := by decide +kernel
  have hown : ∀ q ∈ (handle Sample.svc (Sample.clock 9) Sample.annToken .endImpersonation
      Sample.impersonatedTwice.db).1.sessions,
        q.tokenHash = Sample.svc.sha256 (Sample.svc.encode Sample.annToken) → q.endedAt = none := by
    decide +kernel
  refine ⟨⟨Sample.seed, _, (run_append _ _ _ _).symm⟩, by decide +kernel, himpersonates, hended,
    fun h => ?_⟩
  obtain ⟨s, hs, hof, -, hend⟩ := h.ends (by decide +kernel)
  rw [hend.sessions] at hown
  have hopen := hown _ (mem_updateKey.mpr (Or.inl ⟨s, hs, rfl, rfl⟩)) hof
  cases hopen

end SaasChassis.Identity
