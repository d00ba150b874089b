/-
  Who gets a token after being deactivated?

  Every path to an access token checks that its subject is active: login in the credential
  check, refresh on the stored row, switchTenant through JwtStrategy (its subject is the
  caller), startImpersonation on the target, and register creates the row (`execute_active`).
  endImpersonation is the one path with a subject that is not the caller: reissueAdminToken
  looks the administrator up and does not ask. `deactivated_gets_no_token_iff` says that along
  any run tokens go to active users exactly as long as no administrator ends an impersonation
  after being deactivated.
-/
import SaasChassis.Identity.Attribution

namespace SaasChassis.Identity

open SaasChassis.Lib

/-! ## Statement -/

/-- What the service answers to a step. -/
def System.answer (svc : Service) (sys : System) :
    SystemInput → Except HttpException (Option JwtPayload)
  | .holder env token req =>
    if token ∈ sys.held then (handle svc env token req sys.db).2 else .ok none
  | .other env token req =>
    if token ∈ sys.issued then (handle svc env token req sys.db).2 else .ok none
  | .anonymous env req => (execute svc env req.command sys.db).2

/-- A token issued in the step is for a user who is active then. -/
def IssuesToActive (svc : Service) (sys : System) (i : SystemInput) : Prop :=
  ∀ token, sys.answer svc i = .ok (some token) → HasActive (sys.step svc i).db token.sub

/-- The administrator behind an accepted impersonation token is active. -/
def RealUserActive (env : Env) (db : IdentityDb) (token : JwtPayload) : Prop :=
  validate env token db = .ok () → token.isImpersonating = true →
    ∀ user ∈ db.users, token.realUserId = some user.id → user.id ≠ "" → user.isActive = true

/-- The step is no end of an impersonation by an inactive administrator. -/
def EndsForActive (sys : System) : SystemInput → Prop
  | .holder env token .endImpersonation => token ∈ sys.held → RealUserActive env sys.db token
  | .other env token .endImpersonation => token ∈ sys.issued → RealUserActive env sys.db token
  | _ => True

/-! ## Paths that check -/

theorem HasActive.congr {db db' : IdentityDb} (users : db'.users = db.users) {id : String}
    (h : HasActive db id) : HasActive db' id := by
  unfold HasActive
  rw [users]
  exact h

theorem updateLastLogin_active {env : Env} {u id : String} {db : IdentityDb} (hs : db.Schema)
    (h : HasActive db id) : HasActive (UsersService.updateLastLogin env u db) id := by
  obtain ⟨user, hmem, hid, hactive⟩ := h
  unfold UsersService.updateLastLogin
  split
  next found hf =>
    obtain ⟨hfmem, -⟩ := findUserById_ok hf
    by_cases he : user.id = found.id
    · -- the row saved is this one, with its login time
      obtain rfl := hs.user_unique hmem hfmem he
      exact ⟨_, mem_updateKey.mpr (Or.inl ⟨user, hmem, rfl, rfl⟩), hid, hactive⟩
    · exact ⟨user, mem_updateKey.mpr (Or.inr ⟨hmem, he⟩), hid, hactive⟩
  next => exact ⟨user, hmem, hid, hactive⟩

theorem login_active {svc : Service} {env : Env} {user : User} {ip device : Option String}
    {db : IdentityDb} (hs : db.Schema) {id : String} (h : HasActive db id) :
    HasActive (AuthService.login svc env user ip device db).1 id := by
  let payload := AuthService.buildJwtPayload db user (AuthService.primaryMembership env db user.id)
  have husers := AuthService.issueTokens_users svc env payload user.id ip device db
  have hschema := (AuthService.issueTokens_writes svc env payload user.id ip device db).schema hs
  unfold AuthService.login
  dsimp only
  split
  next db' res hi =>
    rw [hi] at husers hschema
    exact updateLastLogin_active hschema (h.congr husers)
  next db' e hi =>
    rw [hi] at husers
    exact h.congr husers

theorem login_sub {svc : Service} {env : Env} {user : User} {ip device : Option String}
    {db : IdentityDb} {res : TokenResponse}
    (h : (AuthService.login svc env user ip device db).2 = .ok res) :
    res.accessToken.sub = user.id :=
  congrArg UnsignedPayload.sub (AuthService.login_ok h)

theorem loginEndpoint_active {svc : Service} {env : Env} {email password : String}
    {ip device : Option String} {db : IdentityDb} (hs : db.Schema) {res : TokenResponse}
    (h : (loginEndpoint svc env email password ip device db).2 = .ok res) :
    HasActive (loginEndpoint svc env email password ip device db).1 res.accessToken.sub := by
  have htables := AuthService.validateCredentials_tables svc env email password db
  have hwrites := AuthService.validateCredentials_writes svc env email password db
  unfold loginEndpoint at h ⊢
  split at h
  next => cases h
  next => cases h
  next db' user hc =>
    obtain ⟨hmem, hactive⟩ := AuthService.validateCredentials_ok hc
    rw [hc] at htables hwrites
    have hstored : HasActive db' user.id := by
      refine HasActive.congr htables.1 ⟨user, hmem, rfl, hactive⟩
    rw [login_sub h]
    exact login_active (hwrites.schema hs) hstored

theorem register_active {svc : Service} {env : Env} {dto : CreateUserDto} {db : IdentityDb}
    (hs : db.Schema) {res : TokenResponse} (h : (AuthService.register svc env dto db).2 = .ok res) :
    HasActive (AuthService.register svc env dto db).1 res.accessToken.sub := by
  unfold AuthService.register at h ⊢
  obtain ⟨e, hc⟩ | ⟨db', user, hc, hins, -, hactive⟩ := UsersService.create_cases svc env dto db
  · rw [hc] at h
    cases h
  · rw [hc] at h ⊢
    have hschema : db'.Schema := (insertUser_write hins).schema hs
    have hmem : user ∈ db'.users := by
      unfold insertUser at hins
      split at hins
      · cases hins
      · rw [← Except.ok.inj hins]
        exact List.mem_append_right _ (List.mem_singleton_self user)
    rw [login_sub h]
    exact login_active hschema ⟨user, hmem, rfl, hactive⟩

/-- Every command but endImpersonation issues its token to an active user, switchTenant if its
    caller is one. -/
theorem execute_active {svc : Service} {env : Env} {cmd : IdentityCommand} {db : IdentityDb}
    (hs : db.Schema) {token : JwtPayload}
    (h : (execute svc env cmd db).2 = .ok (some token))
    (hswitch : ∀ u t, cmd = .switchTenant u t → HasActive db u)
    (hend : ∀ currentUser, cmd ≠ .endImpersonation currentUser) :
    HasActive (execute svc env cmd db).1 token.sub := by
  cases cmd with
  | login email password ip device =>
    obtain ⟨res, hres, rfl⟩ := map_some_ok h
    exact loginEndpoint_active hs hres
  | register dto =>
    obtain ⟨res, hres, rfl⟩ := map_some_ok h
    exact register_active hs hres
  | refresh value =>
    obtain ⟨res, hres, rfl⟩ := map_some_ok h
    obtain ⟨user, hmem, hactive, hp⟩ := AuthService.refreshAccessToken_ok hres
    exact ⟨user, hmem, (congrArg UnsignedPayload.sub hp).symm, hactive⟩
  | switchTenant u t =>
    obtain ⟨res, hres, rfl⟩ := map_some_ok h
    obtain ⟨user, huser, -, hp⟩ := AuthService.switchTenant_ok hres
    have hsub : res.accessToken.sub = u :=
      (congrArg UnsignedPayload.sub hp).trans (findUserById_ok huser).2
    rw [hsub]
    exact hswitch u t rfl
  | startImpersonation adminUser dto =>
    obtain ⟨res, hres, rfl⟩ := map_some_ok h
    obtain ⟨-, admin, target, -, ht, hactive, -, hp⟩ :=
      ImpersonationService.startImpersonation_ok hres
    have husers := ImpersonationService.startImpersonation_users svc env adminUser dto db
    refine HasActive.congr husers ⟨target, (findUserById_ok ht).1, ?_, hactive⟩
    exact (congrArg UnsignedPayload.sub hp).symm
  | endImpersonation currentUser => exact absurd rfl (hend currentUser)
  | logout value => cases h
  | setStatus u t status => cases h
  | createUser dto => exact absurd h silent_ne
  | updateUser id dto => exact absurd h silent_ne
  | removeUser id => exact absurd h silent_ne
  | createMembership dto => exact absurd h silent_ne
  | removeMembership u t => exact absurd h silent_ne
  | assignRole dto => exact absurd h silent_ne

/-! ## The path that does not -/

/-- An accepted end of an impersonation answers with a token for the administrator. -/
theorem endImpersonation_issues (svc : Service) {env : Env} {token : JwtPayload}
    {db : IdentityDb} (hs : db.Schema) (hv : validate env token db = .ok ())
    (himp : token.isImpersonating = true) {user : User} (hmem : user ∈ db.users)
    (hreal : token.realUserId = some user.id) (hne : user.id ≠ "") :
    ∃ token', (handle svc env token .endImpersonation db).2 = .ok (some token') ∧
      token'.sub = user.id := by
  have hcall : (ImpersonationService.endImpersonation svc env token db).2 =
      AuthService.reissueAdminToken svc env user.id db := by
    obtain ⟨hu, hr, hm⟩ := ImpersonationService.endSession_tables env token.sub user.id db
    unfold ImpersonationService.endImpersonation
    rw [himp, hreal]
    simp only [Bool.not_true, Bool.false_eq_true, if_false]
    exact AuthService.reissueAdminToken_congr hu hr hm svc env user.id
  unfold handle
  rw [hv]
  simp only [AuthRequest.authorize, AuthRequest.command, execute, hcall,
    AuthService.reissueAdminToken, hs.findUserById_of_mem hmem]
  exact ⟨_, rfl, rfl⟩

theorem endImpersonation_sub {svc : Service} {env : Env} {token token' : JwtPayload}
    {db : IdentityDb}
    (h : (handle svc env token .endImpersonation db).2 = .ok (some token')) :
    validate env token db = .ok () ∧ token.isImpersonating = true ∧
    ∃ user ∈ db.users, token.realUserId = some user.id ∧ user.id ≠ "" ∧
      token'.sub = user.id := by
  obtain ⟨hv, hx⟩ := handle_ok h
  obtain ⟨res, hres, rfl⟩ := map_some_ok hx
  obtain ⟨himp, realUserId, hreal, hne, hreissue⟩ := ImpersonationService.endImpersonation_ok hres
  obtain ⟨user, huser, hp⟩ := AuthService.reissueAdminToken_ok hreissue
  obtain ⟨hmem, rfl⟩ := findUserById_ok huser
  exact ⟨hv, himp, user, hmem, hreal, hne, congrArg UnsignedPayload.sub hp⟩

theorem AuthRequest.command_end {token currentUser : JwtPayload} {req : AuthRequest}
    (h : req.command token = .endImpersonation currentUser) : req = .endImpersonation := by
  cases req <;> cases h
  rfl

theorem AuthRequest.command_switch {token : JwtPayload} {req : AuthRequest} {u t : String}
    (h : req.command token = .switchTenant u t) : u = token.sub := by
  cases req <;> cases h
  rfl

/-! ## The law -/

/-- One request with a token. -/
theorem handle_active_iff (svc : Service) (env : Env) (token : JwtPayload) (req : AuthRequest)
    {db : IdentityDb} (hs : db.Schema) :
    (∀ token', (handle svc env token req db).2 = .ok (some token') →
      HasActive (handle svc env token req db).1 token'.sub) ↔
    (req = .endImpersonation → RealUserActive env db token) := by
  constructor
  · rintro h rfl hv himp user hmem hreal hne
    obtain ⟨token', hok, hsub⟩ := endImpersonation_issues svc hs hv himp hmem hreal hne
    have hactive := h token' hok
    unfold HasActive at hactive
    rw [handle_endImpersonation_users, hsub] at hactive
    obtain ⟨user', hmem', hid, hactive⟩ := hactive
    obtain rfl := hs.user_unique hmem' hmem hid
    exact hactive
  · intro h token' hok
    by_cases hreq : req = .endImpersonation
    · subst hreq
      obtain ⟨hv, himp, user, hmem, hreal, hne, hsub⟩ := endImpersonation_sub hok
      refine HasActive.congr (handle_endImpersonation_users svc env token db) ?_
      exact ⟨user, hmem, hsub.symm, h rfl hv himp user hmem hreal hne⟩
    · obtain ⟨hv, hx⟩ := handle_ok hok
      have hactive := execute_active hs hx
        (fun u t hc => AuthRequest.command_switch hc ▸ (validate_ok_iff.mp hv).2)
        (fun currentUser hc => hreq (AuthRequest.command_end hc))
      rw [handle_eq hok]
      exact hactive

theorem issuesToActive_iff (svc : Service) {sys : System} (hs : sys.db.Schema) (i : SystemInput) :
    IssuesToActive svc sys i ↔ EndsForActive sys i := by
  cases i with
  | holder env token req =>
    by_cases hmem : token ∈ sys.held
    · simp only [IssuesToActive, System.step, System.answer, if_pos hmem]
      rw [handle_active_iff svc env token req hs]
      cases req <;> simp [EndsForActive, hmem]
    · simp only [IssuesToActive, System.step, System.answer, if_neg hmem]
      cases req <;> simp [EndsForActive, hmem]
  | other env token req =>
    by_cases hmem : token ∈ sys.issued
    · simp only [IssuesToActive, System.step, System.answer, if_pos hmem]
      rw [handle_active_iff svc env token req hs]
      cases req <;> simp [EndsForActive, hmem]
    · simp only [IssuesToActive, System.step, System.answer, if_neg hmem]
      cases req <;> simp [EndsForActive, hmem]
  | anonymous env req =>
    refine ⟨fun _ => trivial, fun _ token h => ?_⟩
    refine execute_active hs h ?_ ?_
    · intro u t hc
      cases req <;> cases hc
    · intro currentUser hc
      cases req <;> cases hc

/-- From a reachable system on, every token of a run goes to a user active at that moment, if
    and only if no impersonation of the run is ended by an administrator who is inactive. -/
theorem deactivated_gets_no_token_iff {svc : Service} {sys : System}
    (hr : ReachableSystem svc sys) (inputs : List SystemInput) :
    StepsSatisfy (System.step svc) (IssuesToActive svc) sys inputs ↔
      StepsSatisfy (System.step svc) EndsForActive sys inputs :=
  stepsSatisfy_congr (I := System.Sound) (fun _ i hs _ => hs.step i)
    (fun _ i hs => issuesToActive_iff svc hs.schema i) (reachable_sound hr) inputs

theorem deactivated_gets_no_token_iff_sample :
    StepsSatisfy (System.step Sample.svc) (IssuesToActive Sample.svc) Sample.impersonated
      [.other (Sample.clock 4) Sample.annToken (.switchTenant "t1")] :=
  (deactivated_gets_no_token_iff ⟨Sample.seed, _, rfl⟩ _).mpr ⟨trivial, trivial⟩

namespace Sample

/-- `root` is deactivated while playing `ann`. -/
def deactivated : System :=
  impersonated.step svc (.other (clock 4) rootToken (.removeUser "root"))

/-- The token `root` gets by ending the impersonation. -/
def reissued : JwtPayload := { rootToken with iat := 5, exp := 905 }

end Sample

/-- Ending the impersonation gives the deactivated `root` a fresh token. -/
theorem deactivated_gets_token :
    ReachableSystem Sample.svc Sample.impersonated ∧
    ¬ StepsSatisfy (System.step Sample.svc) (IssuesToActive Sample.svc) Sample.impersonated
      [.other (Sample.clock 4) Sample.rootToken (.removeUser "root"),
       .other (Sample.clock 5) Sample.annToken .endImpersonation] := by
  refine ⟨⟨Sample.seed, _, rfl⟩, ?_⟩
  intro ⟨_, h, _⟩
  have hanswer : Sample.deactivated.answer Sample.svc
      (.other (Sample.clock 5) Sample.annToken .endImpersonation) =
        .ok (some Sample.reissued) := by decide +kernel
  have hactive := h Sample.reissued hanswer
  unfold HasActive at hactive
  revert hactive
  decide +kernel

end SaasChassis.Identity
