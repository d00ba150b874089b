/-
  The row-level-security policies of the migrations, and what they keep whoever connects.

  `policies` lists, table by table, the `CREATE POLICY` statements of ledger V1 and V3, tenants V2,
  V4 and V5, iam V6, billing V2 and audit V1. All tables have RLS enabled and forced and the services
  connect as chassis_app, which owns none of them. A statement may also break a constraint of the
  schemas (`constraints`, any condition on the tables): then nothing is written. Foreign keys that
  cascade are not statements of the table they delete from; no service deletes a row that has any.

  `exec_supplement`: the policies that ledger V3 and tenants V5 add to `tenant_isolation` change
  nothing. `tenant_isolation_run` collects what holds after every run of statements of any
  sessions.
-/
import SaasChassis.Lib.RowSecurity
import SaasChassis.Lib.Runs
import SaasChassis.Rls.Session

namespace SaasChassis.Rls

open SaasChassis.Lib SaasChassis.Lib.RowPolicies SaasChassis.Lib.Postgres

/-! ## Policies -/

section Policies

variable {τ ρ : Type} [DecidableEq τ] (tenantId : ρ → τ)

/-- `tenant_id = current_tenant_id() OR is_platform_admin()`, for a row. -/
def ownTenant (s : Session τ) (r : ρ) : Bool := s.sees (tenantId r)

/-- `CREATE POLICY tenant_isolation ON ... USING (...)`. -/
def tenantIsolation : RowPolicy (Session τ) ρ := ⟨none, some (ownTenant tenantId), none⟩

/-- `..._tenant_read`. -/
def tenantRead : RowPolicy (Session τ) ρ := ⟨some .select, some (ownTenant tenantId), none⟩

/-- `..._tenant_insert`. -/
def tenantInsert : RowPolicy (Session τ) ρ := ⟨some .insert, none, some (ownTenant tenantId)⟩

/-- `..._tenant_update`. -/
def tenantUpdate : RowPolicy (Session τ) ρ :=
  ⟨some .update, some (ownTenant tenantId), some (ownTenant tenantId)⟩

/-- `..._tenant_delete`. -/
def tenantDelete : RowPolicy (Session τ) ρ := ⟨some .delete, some (ownTenant tenantId), none⟩

/-- `tenants_tenant_insert`: only platform admins create tenant records. -/
def adminInsert : RowPolicy (Session τ) ρ :=
  ⟨some .insert, none, some fun s _ => s.isPlatformAdmin⟩

/-- `tenants_tenant_delete`. -/
def adminDelete : RowPolicy (Session τ) ρ :=
  ⟨some .delete, some fun s _ => s.isPlatformAdmin, none⟩

/-- `audit_write_policy`. -/
def auditWrite : RowPolicy (Session τ) ρ := ⟨some .insert, none, some fun _ _ => true⟩

/-- `tenant_isolation` and the policies that supplement it: ledger V1 and V3, tenants V2 and V5. -/
def supplemented : RowPolicies (Session τ) ρ :=
  [tenantIsolation tenantId, tenantInsert tenantId, tenantUpdate tenantId, tenantDelete tenantId]

/-- One policy for each operation: iam V6 and billing V2. -/
def perOperation : RowPolicies (Session τ) ρ :=
  [tenantRead tenantId, tenantInsert tenantId, tenantUpdate tenantId, tenantDelete tenantId]

/-- Tenants V4. -/
def tenantRecords : RowPolicies (Session τ) ρ :=
  [tenantRead tenantId, adminInsert, tenantUpdate tenantId, adminDelete]

/-- Audit V1: no update or delete policies. -/
def auditLog : RowPolicies (Session τ) ρ := [tenantRead tenantId, auditWrite]

end Policies

/-- The tables with row-level security. -/
inductive TenantTable where
  | accounts | journalEntries | journalLines | fiscalPeriods
  | tenants | tenantFeatures
  | memberships | impersonationSessions
  | subscriptions | invoices
  | auditEntries
  deriving DecidableEq

section Tables

variable {τ : Type} [DecidableEq τ] {ρ : TenantTable → Type} (tenantId : ∀ T, ρ T → τ)

/-- The policies of a table. `tenantId` is its tenant column: `id` of tenants, `target_tenant_id` of
    impersonation_sessions. -/
def policies (T : TenantTable) : RowPolicies (Session τ) (ρ T) :=
  match T with
  | .accounts | .journalEntries | .journalLines | .fiscalPeriods => supplemented (tenantId _)
  | .tenants => tenantRecords (tenantId _)
  | .tenantFeatures => supplemented (tenantId _)
  | .memberships | .impersonationSessions => perOperation (tenantId _)
  | .subscriptions | .invoices => perOperation (tenantId _)
  | .auditEntries => auditLog (tenantId _)

end Tables

/-! ## What they decide -/

section Decide

variable {τ ρ : Type} [DecidableEq τ] (tenantId : ρ → τ)

theorem isolates_supplemented : Isolates (supplemented tenantId) Session.sees tenantId where
  allows c s r hc := by
    cases c <;> simp [supplemented, allows, RowPolicy.appliesTo, RowPolicy.passes, tenantIsolation,
      tenantInsert, tenantUpdate, tenantDelete, ownTenant] at hc ⊢
  allowsNew c s r hc := by
    cases c <;> simp [supplemented, allowsNew, RowPolicy.appliesTo, RowPolicy.passesNew,
      RowPolicy.passes, tenantIsolation, tenantInsert, tenantUpdate, tenantDelete, ownTenant]
      at hc ⊢

theorem isolates_tenantIsolation : Isolates [tenantIsolation tenantId] Session.sees tenantId where
  allows c s r _ := by
    simp [allows, RowPolicy.appliesTo, RowPolicy.passes, tenantIsolation, ownTenant]
  allowsNew c s r _ := by
    simp [allowsNew, RowPolicy.appliesTo, RowPolicy.passesNew, RowPolicy.passes, tenantIsolation,
      ownTenant]

theorem isolates_perOperation : Isolates (perOperation tenantId) Session.sees tenantId where
  allows c s r hc := by
    cases c <;> simp [perOperation, allows, RowPolicy.appliesTo, RowPolicy.passes, tenantRead,
      tenantInsert, tenantUpdate, tenantDelete, ownTenant] at hc ⊢
  allowsNew c s r hc := by
    cases c <;> simp [perOperation, allowsNew, RowPolicy.appliesTo, RowPolicy.passesNew,
      RowPolicy.passes, tenantRead, tenantInsert, tenantUpdate, tenantDelete, ownTenant] at hc ⊢

/-- The policies that supplement `tenant_isolation` are implied by it. -/
theorem exec_supplement (s : Session τ) (st : RowStatement ρ) (rows : List ρ) :
    exec (supplemented tenantId) s st rows = exec [tenantIsolation tenantId] s st rows :=
  exec_eq_of_allows
    (fun c s r hc => ((isolates_supplemented tenantId).allows c s r hc).trans
      ((isolates_tenantIsolation tenantId).allows c s r hc).symm)
    (fun c s r hc => ((isolates_supplemented tenantId).allowsNew c s r hc).trans
      ((isolates_tenantIsolation tenantId).allowsNew c s r hc).symm) s st rows

theorem hides_tenantRecords : Hides (tenantRecords tenantId) Session.sees tenantId where
  reads s r hr := by
    simpa [tenantRecords, allows, RowPolicy.appliesTo, RowPolicy.passes, tenantRead, adminInsert,
      tenantUpdate, adminDelete, ownTenant] using hr

theorem confines_tenantRecords : Confines (tenantRecords tenantId) Session.sees tenantId where
  toHides := hides_tenantRecords tenantId
  inserts s r hr := by
    have hadmin : s.isPlatformAdmin = true := by
      simpa [tenantRecords, allowsNew, RowPolicy.appliesTo, RowPolicy.passesNew, tenantRead,
        adminInsert, tenantUpdate, adminDelete] using hr
    exact sees_of_admin hadmin _

theorem hides_auditLog : Hides (auditLog tenantId) Session.sees tenantId where
  reads s r hr := by
    simpa [auditLog, allows, RowPolicy.appliesTo, RowPolicy.passes, tenantRead, auditWrite,
      ownTenant] using hr

theorem appendOnly_auditLog : AppendOnly (auditLog tenantId) where
  update s r := by simp [auditLog, allows, RowPolicy.appliesTo, tenantRead, auditWrite]
  delete s r := by simp [auditLog, allows, RowPolicy.appliesTo, tenantRead, auditWrite]

/-- Only a platform admin adds or removes tenant records, and no statement renames one. -/
theorem exec_tenants_ids {s : Session τ} (hs : s.isPlatformAdmin = false) (st : RowStatement ρ)
    (rows : List ρ) :
    (exec (tenantRecords tenantId) s st rows).2.map tenantId = rows.map tenantId := by
  cases st with
  | select cond => rfl
  | insert new returning =>
    rw [exec]
    split
    next hall =>
      have hnil : new = [] := List.eq_nil_iff_forall_not_mem.mpr fun r hr => by
        have hr' := List.all_eq_true.mp hall r hr
        simp [tenantRecords, acceptsNew, allowsNew, RowPolicy.appliesTo, RowPolicy.passesNew,
          tenantRead, adminInsert, tenantUpdate, adminDelete, hs] at hr'
      rw [hnil, List.append_nil]
    next => rfl
  | update cond set =>
    rw [exec]
    split
    next hall =>
      rw [List.map_map]
      refine List.map_congr_left fun r hr => ?_
      simp only [Function.comp_apply]
      split
      next ht =>
        -- both the stored row and the new one are the session's own
        have hnew := (hides_tenantRecords tenantId).accepts
          (List.all_eq_true.mp hall r (List.mem_filter.mpr ⟨hr, ht⟩))
        have hold := (hides_tenantRecords tenantId).target ht
        rw [sees_iff hs] at hnew hold
        exact Option.some.inj (hnew.symm.trans hold)
      next => rfl
    next => rfl
  | delete cond =>
    have hrows : (exec (tenantRecords tenantId) s (.delete cond) rows).2 = rows := by
      refine List.filter_eq_self.mpr fun r _ => ?_
      simp [tenantRecords, target, allows, RowPolicy.appliesTo, RowPolicy.passes, tenantRead, adminInsert,
        tenantUpdate, adminDelete, hs]
    rw [hrows]

end Decide

/-! ## Runs -/

section Runs

variable {τ : Type} [DecidableEq τ] {ρ : TenantTable → Type} (tenantId : ∀ T, ρ T → τ)

/-- The rows of every table. -/
abbrev Tables (ρ : TenantTable → Type) := ∀ T, List (ρ T)

/-- A statement that a session sends. -/
structure Query (τ : Type) (ρ : TenantTable → Type) where
  session : Session τ
  table : TenantTable
  statement : RowStatement (ρ table)

/-- What the policies make of a query: the answer and the tables after it. -/
def execute (db : Tables ρ) (q : Query τ ρ) : RowAnswer (ρ q.table) × Tables ρ :=
  let res := exec (policies tenantId q.table) q.session q.statement (db q.table)
  (res.1, Function.update db q.table res.2)

/-- The tables after a query. -/
def step (constraints : Tables ρ → Bool) (db : Tables ρ) (q : Query τ ρ) : Tables ρ :=
  if constraints (execute tenantId db q).2 then (execute tenantId db q).2 else db

/-- What a query is answered. -/
def answer (constraints : Tables ρ → Bool) (db : Tables ρ) (q : Query τ ρ) :
    RowAnswer (ρ q.table) :=
  if constraints (execute tenantId db q).2 then (execute tenantId db q).1 else .refused

theorem hides_policies (T : TenantTable) :
    Hides (policies tenantId T) Session.sees (tenantId T) := by
  cases T with
  | tenants => exact hides_tenantRecords _
  | auditEntries => exact hides_auditLog _
  | accounts | journalEntries | journalLines | fiscalPeriods | tenantFeatures =>
    exact (isolates_supplemented _).confines.toHides
  | memberships | impersonationSessions | subscriptions | invoices =>
    exact (isolates_perOperation _).confines.toHides

theorem confines_policies {T : TenantTable} (h : T ≠ .auditEntries) :
    Confines (policies tenantId T) Session.sees (tenantId T) := by
  cases T with
  | tenants => exact confines_tenantRecords _
  | auditEntries => exact absurd rfl h
  | accounts | journalEntries | journalLines | fiscalPeriods | tenantFeatures =>
    exact (isolates_supplemented _).confines
  | memberships | impersonationSessions | subscriptions | invoices =>
    exact (isolates_perOperation _).confines

/-- A query leaves a table as it was, or as a statement of its session leaves it. -/
theorem step_table (constraints : Tables ρ → Bool) (db : Tables ρ) (q : Query τ ρ)
    (T : TenantTable) : step tenantId constraints db q T = db T ∨ ∃ st : RowStatement (ρ T),
      step tenantId constraints db q T =
        (exec (policies tenantId T) q.session st (db T)).2 := by
  unfold step
  split
  · by_cases h : q.table = T
    · subst h
      exact Or.inr ⟨q.statement, Function.update_self ..⟩
    · exact Or.inl (Function.update_of_ne (Ne.symm h) ..)
  · exact Or.inl rfl

theorem step_others (constraints : Tables ρ → Bool) {t : τ} {T : TenantTable}
    (hT : T ≠ .auditEntries) (db : Tables ρ) {q : Query τ ρ} (hq : q.session.sees t = false) :
    rowsOf (tenantId T) t (step tenantId constraints db q T) = rowsOf (tenantId T) t (db T) := by
  rcases step_table tenantId constraints db q T with he | ⟨st, he⟩
  · rw [he]
  · rw [he]
    exact exec_others (confines_policies tenantId hT) hq st _

theorem step_audit (constraints : Tables ρ → Bool) (db : Tables ρ) (q : Query τ ρ) :
    db .auditEntries <+: step tenantId constraints db q .auditEntries := by
  rcases step_table tenantId constraints db q .auditEntries with he | ⟨st, he⟩
  · rw [he]
  · rw [he]
    exact exec_prefix (appendOnly_auditLog (tenantId .auditEntries)) q.session st _

theorem step_tenants (constraints : Tables ρ → Bool) (db : Tables ρ) {q : Query τ ρ}
    (hq : q.session.isPlatformAdmin = false) :
    (step tenantId constraints db q .tenants).map (tenantId .tenants) =
      (db .tenants).map (tenantId .tenants) := by
  rcases step_table tenantId constraints db q .tenants with he | ⟨st, he⟩
  · rw [he]
  · rw [he]
    exact exec_tenants_ids (tenantId .tenants) hq st _

/-- After any statements of any sessions: a tenant that none of them may see has the rows it had, the
    audit log has only grown at its end, without a platform admin the tenant records are the ones
    that were there, and no answer holds a row its session may not see. -/
theorem tenant_isolation_run (constraints : Tables ρ → Bool) (db : Tables ρ)
    (qs : List (Query τ ρ)) :
    (∀ t, (∀ q ∈ qs, q.session.sees t = false) → ∀ T, T ≠ .auditEntries →
      rowsOf (tenantId T) t (run (step tenantId constraints) db qs T) =
        rowsOf (tenantId T) t (db T)) ∧
    db .auditEntries <+: run (step tenantId constraints) db qs .auditEntries ∧
    ((∀ q ∈ qs, q.session.isPlatformAdmin = false) →
      (run (step tenantId constraints) db qs .tenants).map (tenantId .tenants) =
        (db .tenants).map (tenantId .tenants)) ∧
    ∀ q rs, answer tenantId constraints (run (step tenantId constraints) db qs) q = .rows rs →
      ∀ r ∈ rs, q.session.sees (tenantId q.table r) = true := by
  refine ⟨fun t hqs T hT => ?_, ?_, fun hqs => ?_, fun q rs ha => ?_⟩
  · exact run_invariant_mem
      (I := fun db' => rowsOf (tenantId T) t (db' T) = rowsOf (tenantId T) t (db T))
      (fun db' hdb' q hq => (step_others tenantId constraints hT db' (hqs q hq)).trans hdb') rfl
  · exact run_invariant (I := fun db' => db .auditEntries <+: db' .auditEntries)
      (fun db' q hdb' => hdb'.trans (step_audit tenantId constraints db' q)) List.prefix_rfl qs
  · exact run_invariant_mem
      (I := fun db' => (db' .tenants).map (tenantId .tenants) =
        (db .tenants).map (tenantId .tenants))
      (fun db' hdb' q hq => (step_tenants tenantId constraints db' (hqs q hq)).trans hdb') rfl
  · unfold answer at ha
    split at ha
    · exact exec_answer_seen (hides_policies tenantId q.table) ha
    · cases ha

end Runs

end SaasChassis.Rls
