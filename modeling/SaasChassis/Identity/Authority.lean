/-
  Does a token say what its subject may do now?

  `CurrentAuthority` asks that a token of a tenant, unless it is an administrator's, has an
  active membership behind it and carries that membership's role. Login, refresh and reissue
  pick an active membership and meet it always. switchTenant takes any membership row, also a
  suspended, invited or removed one, and for an administrator without a row names no tenant;
  an impersonation token names the tenant asked for without looking at the status.
  `token_authority_iff` is the exact state in which each command does better.
-/
import SaasChassis.Identity.Step

namespace SaasChassis.Identity

open SaasChassis.Lib

/-! ## Statement -/

/-- The membership `m` is active, and its role is what the token carries. -/
def Backs (db : IdentityDb) (p : UnsignedPayload) (m : Membership) : Prop :=
  m.status = .active ∧ ∃ role ∈ db.roles, role.id = m.roleId ∧ p.roles = [role.name] ∧
    p.permissions = role.permissions.map fun q => q.resource ++ ":" ++ q.action

def CurrentAuthority (db : IdentityDb) (p : UnsignedPayload) : Prop :=
  ∀ t, p.tenantId = some t → p.isPlatformAdmin = false →
    ∃ m ∈ db.memberships, m.userId = p.sub ∧ m.tenantId = t ∧ Backs db p m

/-- A command into a tenant yields a token of that tenant. -/
def NamesTenant (p : UnsignedPayload) : IdentityCommand → Prop
  | .switchTenant _ t => p.tenantId = some t
  | .startImpersonation _ dto => p.tenantId = some dto.targetTenantId
  | _ => True

/-- The row a switch or an impersonation finds, and what has to hold of it. -/
def Covered (env : Env) (db : IdentityDb) : IdentityCommand → Prop
  | .switchTenant u t => ∃ m ∈ visible env db, m.userId = u ∧ m.tenantId = t ∧
      (m.status = .active ∨ HasFlag db u true)
  | .startImpersonation _ dto => ∃ m ∈ visible env db, m.userId = dto.targetUserId ∧
      m.tenantId = dto.targetTenantId ∧ m.status = .active
  | _ => True

/-! ## Tokens built from a membership -/

section Schema

variable {db : IdentityDb} (hs : db.Schema)
include hs

/-- A payload with the role of a stored membership is backed by it when that is active. -/
theorem backs_of_role {m : Membership} (hm : m ∈ db.memberships) {p : UnsignedPayload}
    (hactive : m.status = .active) (hroles : p.roles = AuthService.roleNames (m.role db))
    (hperms : p.permissions = AuthService.permissionNames (m.role db)) : Backs db p m := by
  obtain ⟨role, hr⟩ := hs.role_isSome hm
  have hid : role.id = m.roleId := by simpa using List.find?_some hr
  refine ⟨hactive, role, List.mem_of_find?_eq_some hr, hid, ?_, ?_⟩
  · rw [hroles, hr]
    rfl
  · rw [hperms, hr]
    rfl

omit hs in
/-- A payload without a role is backed by nothing. -/
theorem not_backs_of_no_role {m : Membership} {p : UnsignedPayload} (hroles : p.roles = []) :
    ¬ Backs db p m := by
  intro ⟨_, role, _, _, hr, _⟩
  rw [hroles] at hr
  cases hr

theorem primary_authority (env : Env) (user : User) :
    CurrentAuthority db
      (AuthService.buildJwtPayload db user (AuthService.primaryMembership env db user.id)) := by
  intro t ht _
  cases hp : AuthService.primaryMembership env db user.id with
  | none =>
    rw [hp] at ht
    cases ht
  | some m =>
    rw [hp] at ht
    obtain ⟨hvis, hu, hactive⟩ := AuthService.primaryMembership_some hp
    have hm := (mem_visible.mp hvis).1
    exact ⟨m, hm, hu, Option.some.inj ht, backs_of_role hs hm hactive rfl rfl⟩

theorem switched_authority_iff {env : Env} {u t : String} {user : User} (hmem : user ∈ db.users)
    (hid : user.id = u) :
    CurrentAuthority db
        (AuthService.buildJwtPayload db user (findByUserAndTenant env db u t)) ∧
      (AuthService.buildJwtPayload db user (findByUserAndTenant env db u t)).tenantId = some t ↔
    ∃ m ∈ visible env db, m.userId = u ∧ m.tenantId = t ∧
      (m.status = .active ∨ HasFlag db u true) := by
  constructor
  · intro ⟨hauth, htenant⟩
    cases hf : findByUserAndTenant env db u t with
    | none =>
      rw [hf] at htenant
      cases htenant
    | some m =>
      obtain ⟨hvis, hu, ht⟩ := findByUserAndTenant_some hf
      have hm := (mem_visible.mp hvis).1
      refine ⟨m, hvis, hu, ht, ?_⟩
      cases hflag : user.isPlatformAdmin with
      | true => exact Or.inr ⟨user, hmem, hid, hflag⟩
      | false =>
        obtain ⟨n, hn, hnu, hnt, hb⟩ := hauth t htenant hflag
        have hsame : n = m :=
          hs.membership_unique hn hm (hnu.trans (hid.trans hu.symm)) (hnt.trans ht.symm)
        exact Or.inl (hsame ▸ hb.1)
  · intro ⟨m, hvis, hu, ht, hcase⟩
    have hm := (mem_visible.mp hvis).1
    rw [hs.findByUserAndTenant_eq hvis hu ht]
    refine ⟨?_, congrArg some ht⟩
    intro t' ht' hflag
    have hactive : m.status = .active := by
      obtain h | h := hcase
      · exact h
      · have huser : HasFlag db u false := ⟨user, hmem, hid, hflag⟩
        exact absurd (hs.flag_unique h huser) (by decide)
    exact ⟨m, hm, hu.trans hid.symm, Option.some.inj ht', backs_of_role hs hm hactive rfl rfl⟩

theorem impersonated_authority_iff {svc : Service} {env : Env} {admin target : User}
    {t : String} :
    CurrentAuthority db
        (AuthService.issueImpersonationToken svc env admin target t db).toUnsignedPayload ↔
      ∃ m ∈ visible env db, m.userId = target.id ∧ m.tenantId = t ∧ m.status = .active := by
  have hfind := AuthService.tenantMembership_eq env db target.id t
  constructor
  · intro hauth
    obtain ⟨m, hm, hu, ht, hb⟩ := hauth t rfl rfl
    cases hf : findByUserAndTenant env db target.id t with
    | none =>
      refine absurd hb (not_backs_of_no_role ?_)
      show AuthService.roleNames ((AuthService.tenantMembership env db target.id t).bind _) = []
      rw [hfind, hf]
      rfl
    | some n =>
      obtain ⟨hnvis, hnu, hnt⟩ := findByUserAndTenant_some hf
      have hn := (mem_visible.mp hnvis).1
      obtain rfl := hs.membership_unique hm hn (hu.trans hnu.symm) (ht.trans hnt.symm)
      exact ⟨m, hnvis, hnu, hnt, hb.1⟩
  · intro ⟨m, hvis, hu, ht, hactive⟩ t' ht' _
    have hm := (mem_visible.mp hvis).1
    obtain rfl := Option.some.inj ht'
    have hrole : (AuthService.tenantMembership env db target.id t).bind (·.role db) =
        m.role db := by
      rw [hfind, hs.findByUserAndTenant_eq hvis hu ht]
      rfl
    exact ⟨m, hm, hu, ht, backs_of_role hs hm hactive
      (congrArg AuthService.roleNames hrole) (congrArg AuthService.permissionNames hrole)⟩

end Schema

/-! ## Every token of a reachable state -/

/-- A token carries current authority, and the tenant asked for, exactly when a switch finds a
    row that is active (any row for an administrator) and an impersonation an active one; the
    other commands always issue such a token. -/
theorem token_authority_iff {svc : Service} {db : IdentityDb} (hr : Reachable svc db) {env : Env}
    {cmd : IdentityCommand} {token : JwtPayload}
    (hi : (execute svc env cmd db).2 = .ok (some token)) :
    CurrentAuthority db token.toUnsignedPayload ∧ NamesTenant token.toUnsignedPayload cmd ↔
      Covered env db cmd := by
  have hs := reachable_schema hr
  have hsigns := execute_signs hi
  generalize token.toUnsignedPayload = p at hsigns ⊢
  cases hsigns with
  | login email password ip device user mem =>
    exact iff_of_true ⟨primary_authority hs env user, trivial⟩ trivial
  | register dto user flag =>
    exact iff_of_true ⟨primary_authority hs env user, trivial⟩ trivial
  | refresh value user mem =>
    exact iff_of_true ⟨primary_authority hs env user, trivial⟩ trivial
  | endImpersonation currentUser realUserId user imp real mem id =>
    exact iff_of_true ⟨primary_authority hs env user, trivial⟩ trivial
  | switchTenant u t user mem id found => exact switched_authority_iff hs mem id
  | startImpersonation adminUser dto admin target caller adminMem adminId targetMem targetId flag =>
    have hnames : NamesTenant (AuthService.issueImpersonationToken svc env admin target
        dto.targetTenantId db).toUnsignedPayload (.startImpersonation adminUser dto) := rfl
    rw [and_iff_left hnames, impersonated_authority_iff hs, targetId]
    rfl

namespace Sample

/-- The token `ann` gets for `t1`, while a member and after leaving. -/
def switched : JwtPayload :=
  AuthService.signAccessToken svc (clock 3)
    { sub := "ann", email := "ann@example.com", displayName := "ann", isPlatformAdmin := false,
      tenantId := some "t1", tenantSlug := none, roles := ["member"],
      permissions := ["ledger:read"], isImpersonating := false, realUserId := none }

end Sample

theorem token_authority_iff_sample :
    CurrentAuthority (Sample.directory [Sample.joined]) Sample.switched.toUnsignedPayload ∧
      NamesTenant Sample.switched.toUnsignedPayload (.switchTenant "ann" "t1") := by
  have hissued : (execute Sample.svc (Sample.clock 3) (.switchTenant "ann" "t1")
      (Sample.directory [Sample.joined])).2 = .ok (some Sample.switched) := by
    decide +kernel
  have hrow : ∃ m ∈ visible (Sample.clock 3) (Sample.directory [Sample.joined]),
      m.userId = "ann" ∧ m.tenantId = "t1" ∧ m.status = .active := by
    decide +kernel
  obtain ⟨m, hm, hu, ht, hactive⟩ := hrow
  exact (token_authority_iff (Sample.directory_reachable _) hissued).mpr
    ⟨m, hm, hu, ht, Or.inl hactive⟩

/-- After leaving `t1`, `ann` still gets a token of `t1` with the old role. -/
theorem removed_member_switches :
    (execute Sample.svc (Sample.clock 3) (.switchTenant "ann" "t1")
      (Sample.directory [Sample.joined, Sample.left])).2 = .ok (some Sample.switched) ∧
    ¬ CurrentAuthority (Sample.directory [Sample.joined, Sample.left])
        Sample.switched.toUnsignedPayload := by
  constructor
  · decide +kernel
  · intro h
    obtain ⟨m, hm, _, _, hb⟩ := h "t1" rfl rfl
    have hgone : ∀ m ∈ (Sample.directory [Sample.joined, Sample.left]).memberships,
        m.status ≠ .active := by
      decide +kernel
    exact hgone m hm hb.1

end SaasChassis.Identity
