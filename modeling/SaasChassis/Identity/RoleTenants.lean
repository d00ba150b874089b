/-
  Does a membership ever get a role of another tenant?

  A role is global or belongs to a tenant, but `create` asks of the role of a request only that it
  exists, and assignRole goes through `create`. `own_roles_iff`: in any run of the three requests
  that write memberships every membership has a role of its own tenant or a global one, at all
  times, exactly when every request that gets through names such a role (`GrantsOwn`).
-/
import SaasChassis.Identity.Attribution
import SaasChassis.Identity.RoleAssignment

namespace SaasChassis.Identity

open SaasChassis.Lib

/-! ## Statement -/

/-- The role is global or the tenant's. -/
def Fits (db : IdentityDb) (roleId tenantId : String) : Prop :=
  ∀ role, db.roles.find? (·.id = roleId) = some role →
    role.tenantId = none ∨ role.tenantId = some tenantId

instance (db : IdentityDb) (roleId tenantId : String) : Decidable (Fits db roleId tenantId) :=
  decidable_of_iff ((db.roles.find? (·.id = roleId)).all fun role =>
    role.tenantId = none || role.tenantId = some tenantId) (by
      unfold Fits
      cases db.roles.find? (·.id = roleId) <;> simp)

def OwnRoles (db : IdentityDb) : Prop := ∀ m ∈ db.memberships, Fits db m.roleId m.tenantId

instance (db : IdentityDb) : Decidable (OwnRoles db) :=
  inferInstanceAs (Decidable (∀ m ∈ db.memberships, Fits db m.roleId m.tenantId))

/-- POST /memberships, DELETE /memberships and POST /roles/assign. -/
inductive MembershipRequest where
  | create (dto : CreateMembershipDto)
  | remove (userId tenantId : String)
  | assign (dto : AssignRoleDto)

def MembershipRequest.request : MembershipRequest → AuthRequest
  | .create dto => .createMembership dto
  | .remove userId tenantId => .removeMembership userId tenantId
  | .assign dto => .assignRole dto

/-- A request with its surroundings and its token. -/
abbrev MembershipCall := Env × JwtPayload × MembershipRequest

def serve (svc : Service) (db : IdentityDb) (call : MembershipCall) : IdentityDb :=
  (handle svc call.1 call.2.1 call.2.2.request db).1

/-- A row for the pair can be inserted. -/
def Insertable (env : Env) (db : IdentityDb) (userId tenantId : String) : Prop :=
  (userId, tenantId) ∉ db.memberships.map Membership.key ∧
    (∃ user ∈ db.users, user.id = userId) ∧ env.sees tenantId = true

/-- The membership can be created, or restored if it has been removed. -/
def Creatable (env : Env) (db : IdentityDb) (userId tenantId : String) : Prop :=
  match findByUserAndTenant env db userId tenantId with
  | some m => m.status = .removed
  | none => Insertable env db userId tenantId

/-- A request that is authorized and can write its membership names a role that fits the
    tenant. -/
def GrantsOwn (db : IdentityDb) : MembershipCall → Prop
  | (env, token, .create dto) =>
    validate env token db = .ok () → requirePermission token "users:manage" = .ok () →
      dto.parsed.isOk → Creatable env db dto.userId dto.tenantId → Fits db dto.roleId dto.tenantId
  | (_, _, .remove _ _) => True
  | (env, token, .assign dto) =>
    validate env token db = .ok () →
      requireRoles token ["tenant_admin", "platform_admin"] = .ok () →
      (findByUserAndTenant env db dto.userId dto.tenantId).isSome ∨
        Insertable env db dto.userId dto.tenantId → Fits db dto.roleId dto.tenantId

/-! ## What `create` links -/

theorem findRoleById_eq (db : IdentityDb) (id : String) :
    (∃ role, db.roles.find? (·.id = id) = some role ∧ findRoleById db id = .ok role) ∨
      (db.roles.find? (·.id = id) = none ∧ ∃ e, findRoleById db id = .error e) := by
  unfold findRoleById
  cases hf : db.roles.find? (·.id = id) with
  | some role => exact Or.inl ⟨role, rfl, rfl⟩
  | none => exact Or.inr ⟨rfl, _, rfl⟩

theorem insertMembership_cases (env : Env) (m : Membership) (db : IdentityDb) :
    (Insertable env db m.userId m.tenantId ∧
      insertMembership env m db = .ok { db with memberships := db.memberships ++ [m] }) ∨
    (¬ Insertable env db m.userId m.tenantId ∧ insertMembership env m db = .error .database) := by
  unfold insertMembership
  split
  next h =>
    refine Or.inr ⟨fun hins => ?_, rfl⟩
    obtain ⟨hkey, ⟨user, huser, hid⟩, hsees⟩ := hins
    simp only [Bool.or_eq_true, decide_eq_true_eq, List.all_eq_true, Bool.not_eq_true'] at h
    rcases h with (h | h) | h
    · exact hkey h
    · exact h user huser hid
    · rw [hsees] at h
      cases h
  next h =>
    simp only [Bool.or_eq_true, decide_eq_true_eq, Bool.not_eq_true', not_or,
      Bool.not_eq_false] at h
    obtain ⟨⟨hkey, husers⟩, hsees⟩ := h
    refine Or.inl ⟨⟨hkey, ?_, hsees⟩, rfl⟩
    by_contra hnone
    push Not at hnone
    exact husers (List.all_eq_true.mpr fun u hu => decide_eq_true (hnone u hu))

/-- What `create` leaves: nothing new, or one row with the role asked for. -/
theorem create_links (env : Env) (dto : CreateMembershipDto) (db : IdentityDb) :
    ((MembershipsService.create env dto db).1 = db ∧
      (db.roles.find? (·.id = dto.roleId) = none ∨ ¬ dto.parsed.isOk ∨
        ¬ Creatable env db dto.userId dto.tenantId)) ∨
    ((dto.parsed.isOk ∧ Creatable env db dto.userId dto.tenantId) ∧
      (MembershipsService.create env dto db).1.roles = db.roles ∧
      ∃ m ∈ (MembershipsService.create env dto db).1.memberships,
        m.roleId = dto.roleId ∧ m.tenantId = dto.tenantId ∧
        ∀ q ∈ (MembershipsService.create env dto db).1.memberships,
          q = m ∨ q ∈ db.memberships) := by
  rw [MembershipsService.create_eq]
  rcases findRoleById_eq db dto.roleId with ⟨role, hrole, hfound⟩ | ⟨hnone, e, he⟩
  · simp only [hfound, Creatable]
    cases hrow : findByUserAndTenant env db dto.userId dto.tenantId with
    | some existing =>
      by_cases hold : existing.status = .removed
      · cases hstatus : dto.parsed with
        | error e =>
          refine Or.inl ⟨?_, Or.inr (Or.inl Bool.false_ne_true)⟩
          simp [hold]
        | ok status =>
          obtain ⟨hmem, hkey, -⟩ := findByUserAndTenant_mem hrow
          let saved : Membership :=
            { existing with roleId := dto.roleId, status := status, joinedAt := some env.now }
          have hleft : saved ∈ (saveMembership saved db).memberships ∧
              ∀ q ∈ (saveMembership saved db).memberships, q = saved ∨ q ∈ db.memberships := by
            refine ⟨mem_updateKey.mpr (Or.inl ⟨existing, hmem, rfl, rfl⟩), fun q hq => ?_⟩
            obtain ⟨_, _, _, rfl⟩ | ⟨hq, _⟩ := mem_updateKey.mp hq
            · exact Or.inl rfl
            · exact Or.inr hq
          simp only [hold, ne_eq, not_true_eq_false, if_false]
          exact Or.inr ⟨⟨rfl, trivial⟩, rfl, saved, hleft.1, rfl, congrArg Prod.snd hkey, hleft.2⟩
      · refine Or.inl ⟨?_, Or.inr (Or.inr hold)⟩
        simp [hold]
    | none =>
      cases hstatus : dto.parsed with
      | error e => exact Or.inl ⟨rfl, Or.inr (Or.inl Bool.false_ne_true)⟩
      | ok status =>
        let membership : Membership :=
          ⟨dto.userId, dto.tenantId, dto.roleId, status, some env.now⟩
        dsimp only
        rcases insertMembership_cases env membership db with ⟨hinsertable, hins⟩ | ⟨hnot, hins⟩
        · rw [hins]
          refine Or.inr ⟨⟨rfl, hinsertable⟩, rfl, membership, ?_, rfl, rfl, fun q hq => ?_⟩
          · exact List.mem_append_right _ (List.mem_singleton_self _)
          · exact (List.mem_append.mp hq).symm.imp_left List.mem_singleton.mp
        · rw [hins]
          exact Or.inl ⟨rfl, Or.inr (Or.inr hnot)⟩
  · rw [he]
    exact Or.inl ⟨rfl, Or.inl hnone⟩

/-! ## One request -/

section Request

variable {env : Env} {db : IdentityDb}

/-- Roles do not change, so neither does what fits. -/
theorem fits_congr {db' : IdentityDb} (h : db'.roles = db.roles) (r t : String) :
    Fits db' r t ↔ Fits db r t := by
  unfold Fits
  rw [h]

theorem create_own_iff (hown : OwnRoles db) (dto : CreateMembershipDto) :
    OwnRoles (MembershipsService.create env dto db).1 ↔
      (dto.parsed.isOk → Creatable env db dto.userId dto.tenantId →
        Fits db dto.roleId dto.tenantId) := by
  rcases create_links env dto db with ⟨hsame, hwhy⟩ | ⟨⟨hok, hcan⟩, hroles, m, hm, hr, ht, hall⟩
  · rw [hsame]
    refine iff_of_true hown fun hok hcan role hrole => ?_
    rcases hwhy with hnone | hnot | hnot
    · rw [hnone] at hrole
      cases hrole
    · exact absurd hok hnot
    · exact absurd hcan hnot
  · constructor
    · intro h _ _
      rw [← fits_congr hroles, ← hr, ← ht]
      exact h m hm
    · intro h q hq
      rw [fits_congr hroles]
      rcases hall q hq with rfl | hold
      · rw [hr, ht]
        exact h hok hcan
      · exact hown q hold

theorem remove_own (env : Env) (hown : OwnRoles db) (u t : String) :
    OwnRoles (MembershipsService.remove env u t db).1 := by
  unfold MembershipsService.remove
  cases hf : findByUserAndTenant env db u t with
  | none => exact hown
  | some m =>
    intro q hq
    obtain ⟨_, _, _, rfl⟩ | ⟨hold, _⟩ := mem_updateKey.mp hq
    · exact hown m (findByUserAndTenant_mem hf).1
    · exact hown q hold

theorem assign_own_iff (hs : db.Schema) (hown : OwnRoles db) (dto : AssignRoleDto) :
    OwnRoles (assignRole env dto db).1 ↔
      ((findByUserAndTenant env db dto.userId dto.tenantId).isSome ∨
        Insertable env db dto.userId dto.tenantId → Fits db dto.roleId dto.tenantId) := by
  unfold assignRole
  have hmembership : ∀ u, OwnRoles u →
      (OwnRoles (MembershipsService.create env dto.membership u).1 ↔
        (Creatable env u dto.userId dto.tenantId → Fits u dto.roleId dto.tenantId)) :=
    fun u hu => (create_own_iff hu dto.membership).trans ⟨fun h => h rfl, fun h _ => h⟩
  cases hf : findByUserAndTenant env db dto.userId dto.tenantId with
  | none =>
    refine (hmembership db hown).trans ?_
    simp [Creatable, hf]
  | some m =>
    obtain ⟨hmem, hkey, hsees⟩ := findByUserAndTenant_mem hf
    let removed : Membership := { m with status := .removed }
    have hremove : MembershipsService.remove env dto.userId dto.tenantId db =
        (saveMembership removed db, .ok ()) := by
      unfold MembershipsService.remove
      rw [hf]
    have hkept := remove_own env hown dto.userId dto.tenantId
    rw [hremove] at hkept
    have hfound : findByUserAndTenant env (saveMembership removed db) dto.userId dto.tenantId =
        some removed := findByUserAndTenant_removed hs.uq_user_tenant hf
    simp only [hremove]
    refine (hmembership _ hkept).trans ?_
    simp only [Creatable, hfound, Option.isSome_some, true_or, true_implies]
    exact ⟨fun h => h rfl, fun h _ => h⟩

end Request

/-! ## Every run -/

theorem serve_schema {svc : Service} {db : IdentityDb} (hs : db.Schema) (call : MembershipCall) :
    (serve svc db call).Schema :=
  (handle_writes svc call.1 call.2.1 call.2.2.request hs).schema hs

theorem serve_own_iff {svc : Service} {db : IdentityDb} (hs : db.Schema) (hown : OwnRoles db)
    (call : MembershipCall) : GrantsOwn db call ↔ OwnRoles (serve svc db call) := by
  obtain ⟨env, token, request⟩ := call
  cases hv : validate env token db with
  | error e =>
    have hserve : serve svc db (env, token, request) = db := by
      unfold serve handle
      rw [hv]
    rw [hserve]
    refine iff_of_true ?_ hown
    cases request with
    | create dto => exact fun h => nomatch hv.symm.trans h
    | remove u t => exact trivial
    | assign dto => exact fun h => nomatch hv.symm.trans h
  | ok _ =>
    cases ha : request.request.authorize token with
    | error e =>
      have hserve : serve svc db (env, token, request) = db := by
        unfold serve handle
        simp only [hv, ha]
      rw [hserve]
      refine iff_of_true ?_ hown
      cases request with
      | create dto => exact fun _ h => nomatch ha.symm.trans h
      | remove u t => exact trivial
      | assign dto => exact fun _ h => nomatch ha.symm.trans h
    | ok _ =>
      have hserve : serve svc db (env, token, request) =
          (execute svc env (request.request.command token) db).1 := by
        unfold serve handle
        simp only [hv, ha]
      rw [hserve]
      cases request with
      | create dto =>
        refine Iff.trans ?_ (create_own_iff hown dto).symm
        exact ⟨fun h => h hv ha, fun h _ _ => h⟩
      | remove u t => exact iff_of_true trivial (remove_own env hown u t)
      | assign dto =>
        refine Iff.trans ?_ (assign_own_iff hs hown dto).symm
        exact ⟨fun h => h hv ha, fun h _ _ => h⟩

/-- From any state in which memberships have roles of their own: they keep to such roles throughout
    exactly when every request does. -/
theorem own_roles_iff (svc : Service) {db : IdentityDb} (hs : db.Schema) (hown : OwnRoles db)
    (calls : List MembershipCall) :
    (∀ n, OwnRoles (run (serve svc) db (calls.take n))) ↔
      StepsSatisfy (serve svc) GrantsOwn db calls :=
  (stepsSatisfy_iff (I := IdentityDb.Schema) (fun _ call h => serve_schema h call)
    (fun _ call h hl => serve_own_iff h hl call) hs hown calls).symm

namespace Sample

/-- A role of the tenant `t2`, next to the global one. -/
def accountant : Role :=
  { id := "r2", tenantId := some "t2", name := "accountant", permissions := [⟨"ledger", "close"⟩] }

def tenantRoles : IdentityDb := { IdentityDb.seeded seed with roles := [member, accountant] }

theorem tenantRoles_schema : tenantRoles.Schema :=
  { users_pkey := seed.users_pkey
    uq_user_tenant := List.nodup_nil
    memberships_role := fun _ h => absurd h List.not_mem_nil }

theorem tenantRoles_own : OwnRoles tenantRoles := fun _ h => absurd h List.not_mem_nil

/-- `root` makes `ann` a member of a tenant, and its accountant. -/
def appointing (tenantId : String) : List MembershipCall :=
  [(clock 2, rootToken, .create ⟨"ann", tenantId, "r1", none⟩),
   (clock 3, rootToken, .assign ⟨"ann", tenantId, "r2"⟩)]

end Sample

theorem own_roles_iff_sample :
    OwnRoles (run (serve Sample.svc) Sample.tenantRoles (Sample.appointing "t2")) := by
  refine (own_roles_iff Sample.svc Sample.tenantRoles_schema Sample.tenantRoles_own
    (Sample.appointing "t2")).mpr ⟨?_, ?_, trivial⟩ 2
  · exact fun _ _ _ _ => by decide +kernel
  · exact fun _ _ _ => by decide +kernel

/-- The accountant of `t2` closes the books of `t1`. -/
theorem foreign_role_assigned :
    Sample.tenantRoles.Schema ∧ OwnRoles Sample.tenantRoles ∧
    ¬ OwnRoles (run (serve Sample.svc) Sample.tenantRoles (Sample.appointing "t1")) := by
  refine ⟨Sample.tenantRoles_schema, Sample.tenantRoles_own, ?_⟩
  decide +kernel

end SaasChassis.Identity
