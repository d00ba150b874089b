/-
  POST /roles/assign, and any of its calls that may fail.

  An existing membership is first removed and then restored by `create`, which looks the role up
  only then; each of the two saves for itself. `assignRoleCalls` makes the calls of the method one
  by one (`assignRoleCalls_noFaults`). `assignRole_atomic_iff`: a failure leaves the memberships as
  they were exactly when it does not come between the two.
-/
import SaasChassis.Lib.Faults
import SaasChassis.Identity.Step

namespace SaasChassis.Identity

open SaasChassis.Lib Faulty

/-! ## The calls -/

/-- Repository calls, each of which may throw. -/
abbrev Calls (α : Type) := Faulty IdentityDb HttpException α

def CreateMembershipDto.parsed (dto : CreateMembershipDto) :
    Except HttpException MembershipStatus :=
  match dto.status with
  | none => .ok .active
  | some s => match MembershipStatus.parse s with
    | some status => .ok status
    | none => .error .database

namespace MembershipsService

def removeCalls (env : Env) (userId tenantId : String) : Calls Unit := do
  match ← query fun db => findByUserAndTenant env db userId tenantId with
  | none => throw (.notFound s!"No membership found for user {userId} in tenant {tenantId}")
  | some membership => write (saveMembership { membership with status := .removed })

/-- The last call of `create`, of a status that the database takes. -/
def saveCalls (env : Env) (dto : CreateMembershipDto) (existing : Option Membership)
    (status : MembershipStatus) : Calls Membership :=
  match existing with
  | some existing =>
    let saved := { existing with
      roleId := dto.roleId
      status := status
      joinedAt := some env.now }
    write (saveMembership saved) >>= fun _ => return saved
  | none =>
    let membership : Membership :=
      { userId := dto.userId
        tenantId := dto.tenantId
        roleId := dto.roleId
        status := status
        joinedAt := some env.now }
    Faulty.execute (insertMembership env membership) >>= fun _ => return membership

def createCalls (env : Env) (dto : CreateMembershipDto) : Calls Membership := do
  let existing ← query fun db => findByUserAndTenant env db dto.userId dto.tenantId
  match ← query fun db => findRoleById db dto.roleId with
  | .error e => throw e
  | .ok _ =>
    if existing.any (·.status ≠ .removed) then
      throw (.conflict
        s!"User {dto.userId} already has an active membership in tenant {dto.tenantId}")
    else
      match dto.parsed with
      | .error e => throw e
      | .ok status => saveCalls env dto existing status

end MembershipsService

def AssignRoleDto.membership (dto : AssignRoleDto) : CreateMembershipDto :=
  { userId := dto.userId, tenantId := dto.tenantId, roleId := dto.roleId, status := none }

def assignRoleCalls (env : Env) (dto : AssignRoleDto) : Calls Membership := do
  match ← query fun db => findByUserAndTenant env db dto.userId dto.tenantId with
  | some _ =>
    MembershipsService.removeCalls env dto.userId dto.tenantId
    MembershipsService.createCalls env dto.membership
  | none => MembershipsService.createCalls env dto.membership

/-! ## Without faults -/

namespace MembershipsService

/-- `create`, the status read beforehand. -/
theorem create_eq (env : Env) (dto : CreateMembershipDto) (db : IdentityDb) :
    create env dto db =
      match findRoleById db dto.roleId with
      | .error e => (db, .error e)
      | .ok _ =>
        match findByUserAndTenant env db dto.userId dto.tenantId with
        | some existing =>
          if existing.status ≠ .removed then
            (db, .error (.conflict
              s!"User {dto.userId} already has an active membership in tenant {dto.tenantId}"))
          else
            match dto.parsed with
            | .error e => (db, .error e)
            | .ok status =>
              let saved := { existing with
                roleId := dto.roleId, status := status, joinedAt := some env.now }
              (saveMembership saved db, .ok saved)
        | none =>
          match dto.parsed with
          | .error e => (db, .error e)
          | .ok status =>
            let membership : Membership :=
              ⟨dto.userId, dto.tenantId, dto.roleId, status, some env.now⟩
            match insertMembership env membership db with
            | .ok db' => (db', .ok membership)
            | .error e => (db, .error e) := rfl

theorem createCalls_noFaults (env : Env) (dto : CreateMembershipDto) (n : ℕ) (db : IdentityDb) :
    ∃ k, createCalls env dto noFaults n db = ((create env dto db).2, k, (create env dto db).1) := by
  rw [create_eq]
  unfold createCalls
  rw [query_bind_noFaults, query_bind_noFaults]
  cases hrole : findRoleById db dto.roleId with
  | error e => exact ⟨_, rfl⟩
  | ok role =>
    cases hfound : findByUserAndTenant env db dto.userId dto.tenantId with
    | some m =>
      by_cases hold : m.status = .removed
      · cases hstatus : dto.parsed with
        | error e =>
          simp only [Option.any_some, hold, ne_eq, not_true_eq_false, decide_false, if_false,
            Bool.false_eq_true]
          exact ⟨_, rfl⟩
        | ok status =>
          simp only [Option.any_some, hold, ne_eq, not_true_eq_false, decide_false, if_false,
            Bool.false_eq_true]
          exact ⟨_, rfl⟩
      · simp only [Option.any_some, hold, ne_eq, not_false_eq_true, decide_true, if_true]
        exact ⟨_, rfl⟩
    | none =>
      cases hstatus : dto.parsed with
      | error e => exact ⟨_, rfl⟩
      | ok status =>
        simp only [Option.any_none, Bool.false_eq_true, if_false]
        unfold saveCalls
        cases hins : insertMembership env
            ⟨dto.userId, dto.tenantId, dto.roleId, status, some env.now⟩ db with
        | ok db' =>
          dsimp only
          rw [execute_bind_noFaults hins]
          exact ⟨_, rfl⟩
        | error e =>
          dsimp only
          rw [execute_bind_refused hins]
          exact ⟨_, rfl⟩

theorem removeCalls_noFaults (env : Env) (u t : String) (n : ℕ) (db : IdentityDb) :
    ∃ k, removeCalls env u t noFaults n db = ((remove env u t db).2, k, (remove env u t db).1) := by
  unfold removeCalls remove
  rw [query_bind_noFaults]
  cases findByUserAndTenant env db u t with
  | none => exact ⟨_, rfl⟩
  | some m => exact ⟨_, rfl⟩

end MembershipsService

/-- The calls are the method. -/
theorem assignRoleCalls_noFaults (env : Env) (dto : AssignRoleDto) (n : ℕ) (db : IdentityDb) :
    ∃ k, assignRoleCalls env dto noFaults n db =
      ((assignRole env dto db).2, k, (assignRole env dto db).1) := by
  unfold assignRoleCalls assignRole
  rw [query_bind_noFaults]
  cases findByUserAndTenant env db dto.userId dto.tenantId with
  | none => exact MembershipsService.createCalls_noFaults env dto.membership _ db
  | some m =>
    obtain ⟨k, hremove⟩ := MembershipsService.removeCalls_noFaults env dto.userId dto.tenantId
      (n + 1) db
    rcases hr : MembershipsService.remove env dto.userId dto.tenantId db with ⟨db', e | _⟩
    · rw [hr] at hremove
      exact ⟨k, bind_error _ hremove⟩
    · rw [hr] at hremove
      dsimp only
      rw [bind_ok _ hremove]
      exact MembershipsService.createCalls_noFaults env dto.membership k db'

/-! ## Statement -/

/-- The user has the membership `m` of the tenant, and no other one, with the role asked for; all
    other memberships are as they were. -/
structure Assigned (dto : AssignRoleDto) (m : Membership) (db db' : IdentityDb) : Prop where
  only : db'.memberships.filter (·.key = (dto.userId, dto.tenantId)) = [m]
  active : m.status = .active
  role : m.roleId = dto.roleId
  others : db'.memberships.filter (·.key ≠ (dto.userId, dto.tenantId)) =
    db.memberships.filter (·.key ≠ (dto.userId, dto.tenantId))

structure AssignsAtomically (env : Env) (dto : AssignRoleDto) (fault : Faults HttpException)
    (db : IdentityDb) : Prop where
  failure : ∀ e, (assignRoleCalls env dto fault 0 db).1 = .error e →
    (assignRoleCalls env dto fault 0 db).2.2.memberships = db.memberships
  success : ∀ m, (assignRoleCalls env dto fault 0 db).1 = .ok m →
    Assigned dto m db (assignRoleCalls env dto fault 0 db).2.2

/-- A membership that the removal really ends is restored: the role exists, and none of the three
    calls of `create` fails. -/
def RestoresRemoved (env : Env) (dto : AssignRoleDto) (fault : Faults HttpException)
    (db : IdentityDb) : Prop :=
  ∀ m, findByUserAndTenant env db dto.userId dto.tenantId = some m → m.status ≠ .removed →
    Clear fault 0 3 → (∃ role ∈ db.roles, role.id = dto.roleId) ∧ Clear fault 3 6

/-! ## The two saves -/

section Saves

variable {env : Env} {db : IdentityDb} {dto : AssignRoleDto}

theorem saveMembership_nodup (hnd : (db.memberships.map Membership.key).Nodup) (m : Membership) :
    ((saveMembership m db).memberships.map Membership.key).Nodup := by
  show ((updateKey Membership.key m.key (fun _ => m) db.memberships).map Membership.key).Nodup
  rw [map_key_save]
  exact hnd

theorem saveMembership_others {m : Membership} {k : String × String} (hkey : m.key = k) :
    (saveMembership m db).memberships.filter (·.key ≠ k) = db.memberships.filter (·.key ≠ k) := by
  subst hkey
  refine filter_updateKey_other (fun r hr => ?_) db.memberships
  exact ⟨decide_eq_false (not_not.mpr hr), decide_eq_false (not_not.mpr rfl)⟩

theorem saveMembership_only (hnd : (db.memberships.map Membership.key).Nodup) {m e : Membership}
    (he : e ∈ db.memberships) (hkey : m.key = e.key) :
    (saveMembership m db).memberships.filter (·.key = e.key) = [m] := by
  show (updateKey Membership.key m.key (fun _ => m) db.memberships).filter _ = _
  rw [hkey]
  exact filter_updateKey hnd he (fun r _ hr => decide_eq_false hr) (decide_eq_true hkey)

theorem findByUserAndTenant_mem {u t : String} {m : Membership}
    (h : findByUserAndTenant env db u t = some m) :
    m ∈ db.memberships ∧ m.key = (u, t) ∧ env.sees t = true := by
  obtain ⟨hvis, hu, ht⟩ := findByUserAndTenant_some h
  obtain ⟨hmem, hsees⟩ := mem_visible.mp hvis
  exact ⟨hmem, Prod.ext hu ht, ht ▸ hsees⟩

/-- A removed row is still found. -/
theorem findByUserAndTenant_removed (hnd : (db.memberships.map Membership.key).Nodup) {u t : String}
    {m : Membership} (h : findByUserAndTenant env db u t = some m) :
    findByUserAndTenant env (saveMembership { m with status := .removed } db) u t =
      some { m with status := .removed } := by
  obtain ⟨hmem, hkey, hsees⟩ := findByUserAndTenant_mem h
  let removed : Membership := { m with status := .removed }
  have hstored : removed ∈ (saveMembership removed db).memberships :=
    mem_updateKey.mpr (Or.inl ⟨m, hmem, rfl, rfl⟩)
  have hsees' : env.sees removed.tenantId = true :=
    (congrArg env.sees (congrArg Prod.snd hkey)).trans hsees
  exact findByUserAndTenant_of_mem (saveMembership_nodup hnd removed)
    (mem_visible.mpr ⟨hstored, hsees'⟩) (congrArg Prod.fst hkey) (congrArg Prod.snd hkey)

/-- What `create` has done when it returns. -/
theorem create_assigned (hnd : (db.memberships.map Membership.key).Nodup) {m : Membership}
    {db' : IdentityDb} (h : MembershipsService.create env dto.membership db = (db', .ok m)) :
    Assigned dto m db db' := by
  rw [MembershipsService.create_eq] at h
  simp only [AssignRoleDto.membership, CreateMembershipDto.parsed] at h
  cases hrole : findRoleById db dto.roleId with
  | error e =>
    rw [hrole] at h
    cases h
  | ok role =>
    cases hfound : findByUserAndTenant env db dto.userId dto.tenantId with
    | some e =>
      simp only [hrole, hfound] at h
      obtain ⟨hmem, hkey, -⟩ := findByUserAndTenant_mem hfound
      split at h
      · cases h
      · obtain ⟨rfl, hm⟩ := Prod.mk.inj h
        obtain rfl := Except.ok.inj hm
        have hsaved : (Membership.key { e with
            roleId := dto.roleId, status := .active, joinedAt := some env.now }) = e.key := rfl
        refine ⟨?_, rfl, rfl, saveMembership_others (hsaved.trans hkey)⟩
        rw [← hkey]
        exact saveMembership_only hnd hmem hsaved
    | none =>
      simp only [hrole, hfound] at h
      cases hins : insertMembership env
          ⟨dto.userId, dto.tenantId, dto.roleId, .active, some env.now⟩ db with
      | error e =>
        rw [hins] at h
        cases h
      | ok u =>
        rw [hins] at h
        obtain ⟨rfl, hm⟩ := Prod.mk.inj h
        obtain rfl := Except.ok.inj hm
        unfold insertMembership at hins
        split at hins
        next => cases hins
        next hn =>
          obtain rfl := Except.ok.inj hins
          simp only [Bool.or_eq_true, decide_eq_true_eq, not_or] at hn
          have hnew : ∀ r ∈ db.memberships, r.key ≠ (dto.userId, dto.tenantId) :=
            fun r hr he => hn.1.1 (List.mem_map.mpr ⟨r, hr, he⟩)
          have hnone : db.memberships.filter (·.key = (dto.userId, dto.tenantId)) = [] :=
            List.filter_eq_nil_iff.mpr fun r hr => by simpa using hnew r hr
          refine ⟨?_, rfl, rfl, ?_⟩
          · rw [List.filter_append, hnone]
            simp [Membership.key]
          · rw [List.filter_append]
            simp [Membership.key]

end Saves

/-! ## Faults -/

section Faults

variable {env : Env} {db : IdentityDb}

/-- A call of `create` that throws has written nothing. -/
theorem createCalls_unchanged (env : Env) (dto : CreateMembershipDto) (db : IdentityDb) :
    KeepsOnError (· = db) (MembershipsService.createCalls env dto) := by
  refine KeepsOnError.bind (Keeps.query _) fun existing =>
    KeepsOnError.bind (Keeps.query _) fun found => ?_
  cases found with
  | error e => exact KeepsOnError.of_keeps (Keeps.throw e)
  | ok role =>
    dsimp only
    split
    · exact KeepsOnError.of_keeps (Keeps.throw _)
    · split
      · exact KeepsOnError.of_keeps (Keeps.throw _)
      · cases existing with
        | some e => exact KeepsOnError.map (KeepsOnError.write _) _
        | none => exact KeepsOnError.map (KeepsOnError.execute _) _

theorem createCalls_strict (env : Env) (dto : CreateMembershipDto) :
    Strict (MembershipsService.createCalls env dto) := by
  refine Strict.bind (Strict.query _) fun existing => Strict.bind (Strict.query _) fun found => ?_
  cases found with
  | error e => exact Strict.throw e
  | ok role =>
    dsimp only
    split
    · exact Strict.throw _
    · split
      · exact Strict.throw _
      · cases existing with
        | some e => exact Strict.bind (Strict.write _) fun _ => Strict.pure _
        | none => exact Strict.bind (Strict.execute _) fun _ => Strict.pure _

/-- So what it returns is what `create` returns, and leaves. -/
theorem createCalls_ok {dto : CreateMembershipDto} {fault : Faults HttpException} {n k : ℕ}
    {m : Membership} {db' : IdentityDb}
    (h : MembershipsService.createCalls env dto fault n db = (.ok m, k, db')) :
    MembershipsService.create env dto db = (db', .ok m) := by
  obtain ⟨j, hrun⟩ := MembershipsService.createCalls_noFaults env dto n db
  have hsame := (createCalls_strict env dto _ _ _ _ _ _ h).symm.trans hrun
  obtain ⟨hm, hrest⟩ := Prod.mk.inj hsame
  exact Prod.ext (Prod.mk.inj hrest).2.symm hm.symm

/-- The removal of a membership that was found. -/
theorem removeCalls_outcome {u t : String} {m : Membership}
    (hfound : findByUserAndTenant env db u t = some m) (fault : Faults HttpException) (n : ℕ) :
    (Clear fault n (n + 2) ∧ MembershipsService.removeCalls env u t fault n db =
      (.ok (), n + 2, saveMembership { m with status := .removed } db)) ∨
    (¬ Clear fault n (n + 2) ∧
      ∃ e k, MembershipsService.removeCalls env u t fault n db = (.error e, k, db)) := by
  have hruns : Runs (MembershipsService.removeCalls env u t) db 2 ()
      (saveMembership { m with status := .removed } db) := by
    refine Runs.query_bind (n := 1) ?_
    simp only [hfound]
    exact Runs.write _ db
  refine KeepsOnError.outcome hruns ?_ fault n
  refine KeepsOnError.bind (Keeps.query _) fun found => ?_
  cases found with
  | none => exact KeepsOnError.of_keeps (Keeps.throw _)
  | some m => exact KeepsOnError.write _

/-- `create` restores a removed membership with a role that exists in three calls, and fails
    otherwise. -/
theorem createCalls_isOk_iff {dto : AssignRoleDto} {m : Membership}
    (hfound : findByUserAndTenant env db dto.userId dto.tenantId = some m)
    (hremoved : m.status = .removed) (fault : Faults HttpException) (n : ℕ) :
    (MembershipsService.createCalls env dto.membership fault n db).1.isOk ↔
      (∃ role ∈ db.roles, role.id = dto.roleId) ∧ Clear fault n (n + 3) := by
  cases hrole : findRoleById db dto.roleId with
  | ok role =>
    obtain ⟨hmem, hid⟩ := findRoleById_ok hrole
    let saved : Membership :=
      { m with roleId := dto.roleId, status := .active, joinedAt := some env.now }
    have hruns : Runs (MembershipsService.createCalls env dto.membership) db 3 saved
        (saveMembership saved db) := by
      refine Runs.query_bind (n := 2) (Runs.query_bind (n := 1) ?_)
      simp only [AssignRoleDto.membership, hrole, hfound, Option.any_some, hremoved, ne_eq,
        not_true_eq_false, decide_false, Bool.false_eq_true, if_false]
      exact (Runs.write _ db).bind (k := 0) (Runs.pure _ _)
    rw [hruns.isOk_iff]
    exact (and_iff_right ⟨role, hmem, hid⟩).symm
  | error e =>
    refine iff_of_false (fun hok => ?_) fun h => ?_
    · rcases hr : MembershipsService.createCalls env dto.membership fault n db with ⟨e' | a, k, u⟩
      · rw [hr] at hok
        cases hok
      · have hcreate := createCalls_ok hr
        rw [MembershipsService.create_eq, show dto.membership.roleId = dto.roleId from rfl,
          hrole] at hcreate
        cases hcreate
    · obtain ⟨⟨role, hmem, hid⟩, -⟩ := h
      unfold findRoleById at hrole
      cases hf : db.roles.find? (·.id = dto.roleId) with
      | none => exact List.find?_eq_none.mp hf role hmem (by simpa using hid)
      | some r =>
        rw [hf] at hrole
        cases hrole

/-- A membership that was removed, and the calls of `create` that are left. -/
structure Removed (env : Env) (dto : AssignRoleDto) (fault : Faults HttpException)
    (db : IdentityDb) (m : Membership) : Prop where
  found : findByUserAndTenant env db dto.userId dto.tenantId = some m
  clear : Clear fault 0 3
  rest : assignRoleCalls env dto fault 0 db = MembershipsService.createCalls env dto.membership
    fault 3 (saveMembership { m with status := .removed } db)

theorem createCalls_assigned (hnd : (db.memberships.map Membership.key).Nodup)
    {dto : AssignRoleDto} {fault : Faults HttpException} {n : ℕ} {m : Membership}
    (h : (MembershipsService.createCalls env dto.membership fault n db).1 = .ok m) :
    Assigned dto m db (MembershipsService.createCalls env dto.membership fault n db).2.2 := by
  rcases hr : MembershipsService.createCalls env dto.membership fault n db with ⟨r, k, u⟩
  rw [hr] at h
  obtain rfl : r = .ok m := h
  exact create_assigned hnd (createCalls_ok hr)

/-- Up to the removal a failure changes nothing. -/
theorem assignRoleCalls_cases (env : Env) (hnd : (db.memberships.map Membership.key).Nodup)
    (dto : AssignRoleDto) (fault : Faults HttpException) :
    (∃ m, Removed env dto fault db m) ∨
    (AssignsAtomically env dto fault db ∧
      ∀ m, findByUserAndTenant env db dto.userId dto.tenantId = some m → ¬ Clear fault 0 3) := by
  have hstops : ∀ {e k}, assignRoleCalls env dto fault 0 db = (.error e, k, db) →
      AssignsAtomically env dto fault db := by
    intro e k hrun
    refine ⟨fun _ _ => by rw [hrun], fun m hm => ?_⟩
    rw [hrun] at hm
    cases hm
  cases h0 : fault 0 with
  | some e =>
    refine Or.inr ⟨hstops (bind_error _ (call_error _ h0 db)), fun m _ hclear => ?_⟩
    rw [hclear 0 (Nat.le_refl 0) (by decide)] at h0
    cases h0
  | none =>
    have hread : assignRoleCalls env dto fault 0 db = _ := bind_ok _ (call_ok _ h0 db)
    cases hfound : findByUserAndTenant env db dto.userId dto.tenantId with
    | none =>
      simp only [hfound] at hread
      refine Or.inr ⟨⟨fun e he => ?_, fun m hm => ?_⟩, fun m hm => nomatch hm⟩
      · rw [hread] at he ⊢
        exact congrArg _ (createCalls_unchanged env dto.membership db fault 1 db e rfl he)
      · rw [hread] at hm ⊢
        exact createCalls_assigned hnd hm
    | some m =>
      simp only [hfound] at hread
      have hfirst : Clear fault 0 1 :=
        clear_succ.mpr ⟨fun i _ hi => absurd hi (Nat.not_lt_zero i), h0⟩
      rcases removeCalls_outcome hfound fault 1 with ⟨hclear, hrun⟩ | ⟨hnot, e, k, hrun⟩
      · exact Or.inl ⟨m, hfound, clear_add.mpr ⟨hfirst, hclear⟩, hread.trans (bind_ok _ hrun)⟩
      · refine Or.inr ⟨hstops (hread.trans (bind_error _ hrun)), fun _ _ hclear => hnot ?_⟩
        exact (clear_add (m := 1) (n := 2)).mp hclear |>.2

/-- Whatever fails, and wherever: the assignment is atomic exactly when a membership it has removed
    is restored. -/
theorem assignRole_atomic_iff (hnd : (db.memberships.map Membership.key).Nodup)
    (dto : AssignRoleDto) (fault : Faults HttpException) :
    AssignsAtomically env dto fault db ↔ RestoresRemoved env dto fault db := by
  rcases assignRoleCalls_cases env hnd dto fault with ⟨m, hrem⟩ | ⟨hatomic, hnot⟩
  · obtain ⟨hmem, hkey, -⟩ := findByUserAndTenant_mem hrem.found
    let removed : Membership := { m with status := .removed }
    have hnd' := saveMembership_nodup hnd removed
    have hfound := findByUserAndTenant_removed hnd hrem.found
    have hok := createCalls_isOk_iff hfound rfl fault 3
    have hothers : (saveMembership removed db).memberships.filter
        (·.key ≠ (dto.userId, dto.tenantId)) =
          db.memberships.filter (·.key ≠ (dto.userId, dto.tenantId)) :=
      saveMembership_others hkey
    have heta : ∀ q : Membership, q.status = .removed → { q with status := .removed } = q := by
      rintro ⟨⟩ ⟨⟩
      rfl
    have hsame : (saveMembership removed db).memberships = db.memberships ↔
        m.status = .removed := by
      refine updateKey_eq_self_iff.trans ⟨fun h => ?_, fun h r hr hk => ?_⟩
      · exact (congrArg Membership.status (h m hmem rfl)).symm
      · rw [nodup_keys_inj hnd hr hmem hk]
        exact heta m h
    have hthrown : ∀ e, (assignRoleCalls env dto fault 0 db).1 = .error e →
        (assignRoleCalls env dto fault 0 db).2.2 = saveMembership removed db := by
      intro e he
      rw [hrem.rest] at he ⊢
      exact createCalls_unchanged env dto.membership _ fault 3 _ e rfl he
    constructor
    · intro hatomic m' hm' hstatus _
      obtain rfl := Option.some.inj (hrem.found.symm.trans hm')
      refine hok.mp ?_
      rw [← hrem.rest]
      cases hr : (assignRoleCalls env dto fault 0 db).1 with
      | ok a => rfl
      | error e =>
        have hkept := hatomic.failure e hr
        rw [hthrown e hr] at hkept
        exact absurd (hsame.mp hkept) hstatus
    · intro hrestores
      refine ⟨fun e he => ?_, fun a ha => ?_⟩
      · rw [hthrown e he]
        refine hsame.mpr (Decidable.byContradiction fun hstatus => ?_)
        have hisOk := hok.mpr (hrestores m hrem.found hstatus hrem.clear)
        rw [← hrem.rest, he] at hisOk
        cases hisOk
      · rw [hrem.rest] at ha ⊢
        have hassigned := createCalls_assigned hnd' ha
        exact { hassigned with others := hassigned.others.trans hothers }
  · exact iff_of_true hatomic fun m hm _ hclear => absurd hclear (hnot m hm)

end Faults

namespace Sample

/-- `ann` is a member of `t1`. -/
def oneMember : IdentityDb := directory [joined]

end Sample

theorem assignRole_atomic_iff_sample :
    AssignsAtomically (Sample.clock 3) ⟨"ann", "t1", "r1"⟩ noFaults Sample.oneMember :=
  (assignRole_atomic_iff (by decide +kernel) ⟨"ann", "t1", "r1"⟩ noFaults).mpr
    fun _ _ _ _ => ⟨by decide +kernel, fun _ _ _ => rfl⟩

/-- A role that does not exist: the answer is 404, and the member is none any more. -/
theorem member_lost :
    Reachable Sample.svc Sample.oneMember ∧
    (assignRole (Sample.clock 3) ⟨"ann", "t1", "r9"⟩ Sample.oneMember).2 =
      .error (.notFound "Role with ID r9 not found") ∧
    Sample.oneMember.memberships.map (·.status) = [.active] ∧
    (assignRole (Sample.clock 3) ⟨"ann", "t1", "r9"⟩ Sample.oneMember).1.memberships.map
      (·.status) = [.removed] ∧
    ¬ AssignsAtomically (Sample.clock 3) ⟨"ann", "t1", "r9"⟩ noFaults Sample.oneMember := by
  refine ⟨Sample.directory_reachable _, by decide +kernel, by decide +kernel, by decide +kernel,
    fun h => ?_⟩
  have hkept := h.failure (.notFound "Role with ID r9 not found") (by decide +kernel)
  revert hkept
  decide +kernel

end SaasChassis.Identity
