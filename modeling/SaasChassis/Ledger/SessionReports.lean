/-
  The reports as a session gets them under row-level security.

  A report query names a tenant and reads what its session sees. `reports_in_session`: where the
  session sees the tenant the reports are those of the whole tables, and GetAccountBalance answers
  for the accounts it sees; without the policies it would answer for any account of any tenant.
  Where the session does not see the tenant, every report comes out empty.
-/
import SaasChassis.Ledger.GeneralLedger
import SaasChassis.Ledger.RowSecurity

namespace SaasChassis.Ledger

open SaasChassis.Lib SaasChassis.Rls

/-- The report queries, without the tenant of the request. -/
inductive ReportQuery where
  | trialBalance (asOfDate : Option DateOnly)
  | accountBalance (accountId : Guid) (asOfDate : Option DateOnly)
  | generalLedger (accountId : Guid) (fromDate toDate : Option DateOnly)
  | profitAndLoss (fromDate toDate : DateOnly)
  | balanceSheet (asOfDate : Option DateOnly)

inductive Report where
  | trialBalance (r : TrialBalance)
  | accountBalance (r : AccountBalance)
  | notFound (e : LedgerException)
  | generalLedger (r : List JournalEntryDto)
  | profitAndLoss (r : ProfitAndLoss)
  | balanceSheet (r : BalanceSheet)
deriving DecidableEq

/-- The answer to a query for tenant `T`. -/
def report (now : DateTime) (T : Guid) (q : ReportQuery) (db : LedgerDb) : Report :=
  match q with
  | .trialBalance D => .trialBalance (getTrialBalance now ⟨T, D⟩ db)
  | .accountBalance a D =>
    match getAccountBalance now ⟨T, a, D⟩ db with
    | .ok b => .accountBalance b
    | .error e => .notFound e
  | .generalLedger a f t => .generalLedger (getGeneralLedger ⟨T, a, f, t⟩ db)
  | .profitAndLoss f t => .profitAndLoss (getProfitAndLoss ⟨T, f, t⟩ db)
  | .balanceSheet D => .balanceSheet (getBalanceSheet now T D db)

/-- A query about an account that the session does not see, or that does not exist. -/
def AsksUnseenAccount (s : Session Guid) (db : LedgerDb) : ReportQuery → Prop
  | .accountBalance id _ => ∀ a ∈ db.accounts, a.id = id → s.sees a.tenantId = false
  | _ => False

def NotFound (r : Report) : Prop := ∃ e, r = .notFound e

section Visible

variable {s : Session Guid} {db : LedgerDb}

theorem whereGiven_nil {β ρ : Type} (arg : Option β) (p : β → ρ → Bool) :
    LedgerDb.whereGiven arg p [] = [] := by
  rw [LedgerDb.whereGiven_eq]
  rfl

theorem getByTenant_seeded (T : Guid) (f t : Option DateOnly) (st : Option EntryStatus)
    (a : Option Guid) : (LedgerDb.seeded []).getByTenant T f t st a = [] := by
  have hnone : (LedgerDb.seeded []).entries.filter (·.tenantId = T) = [] := rfl
  rw [LedgerDb.getByTenant, hnone, whereGiven_nil, whereGiven_nil, whereGiven_nil, whereGiven_nil]
  rfl

theorem getAllByTenant_seeded (T : Guid) : (LedgerDb.seeded []).getAllByTenant T = [] := rfl

theorem getByTenant_unseen (hl : LinesOwned db) {T : Guid} (h : s.sees T = false)
    (f t : Option DateOnly) (st : Option EntryStatus) (a : Option Guid) :
    (db.visible s).getByTenant T f t st a = [] := by
  have hnil : ((db.visible s).entries.filter fun e => e.tenantId = T) = [] := by
    rw [visible_entries hl, List.filter_filter]
    refine List.filter_eq_nil_iff.mpr fun e _ he => ?_
    simp only [Bool.and_eq_true, decide_eq_true_eq] at he
    rw [he.1, h] at he
    exact absurd he.2 Bool.false_ne_true
  rw [LedgerDb.getByTenant, hnil, whereGiven_nil, whereGiven_nil, whereGiven_nil, whereGiven_nil]
  rfl

theorem getAccountById_seen (hs : db.Schema) {a : Account} (ha : a ∈ db.accounts)
    (h : s.sees a.tenantId = true) : (db.visible s).getAccountById a.id = some a := by
  have hmem : a ∈ (db.visible s).accounts := by
    rw [visible_accounts]
    exact List.mem_filter.mpr ⟨ha, h⟩
  refine find?_key ?_ hmem
  rw [visible_accounts]
  exact hs.accounts_pkey.sublist (List.filter_sublist.map _)

/-- An account of another tenant is not found, whoever asks for it by its id. -/
theorem report_unseen_account {T : Guid} {q : ReportQuery} (now : DateTime)
    (h : AsksUnseenAccount s db q) : NotFound (report now T q (db.visible s)) := by
  cases q with
  | accountBalance id D =>
    have hnone : (db.visible s).getAccountById id = none := by
      rw [LedgerDb.getAccountById, visible_accounts]
      refine List.find?_eq_none.mpr fun a ha hid => ?_
      obtain ⟨hmem, hsees⟩ := List.mem_filter.mp ha
      rw [h a hmem (of_decide_eq_true hid)] at hsees
      exact nomatch hsees
    simp only [report, getAccountBalance, hnone]
    exact ⟨_, rfl⟩
  | trialBalance D => exact h.elim
  | generalLedger a f t => exact h.elim
  | profitAndLoss f t => exact h.elim
  | balanceSheet D => exact h.elim

theorem getTrialBalance_visible (hl : LinesOwned db) {T : Guid} (h : s.sees T = true)
    (now : DateTime) (D : Option DateOnly) :
    getTrialBalance now ⟨T, D⟩ (db.visible s) = getTrialBalance now ⟨T, D⟩ db := by
  simp only [getTrialBalance, getAllByTenant_visible h, getByTenant_visible hl h]

theorem getTrialBalance_unseen (hl : LinesOwned db) {T : Guid} (h : s.sees T = false)
    (now : DateTime) (D : Option DateOnly) :
    getTrialBalance now ⟨T, D⟩ (db.visible s) = getTrialBalance now ⟨T, D⟩ (.seeded []) := by
  simp only [getTrialBalance, getAllByTenant_unseen h, getByTenant_unseen hl h,
    getAllByTenant_seeded, getByTenant_seeded]

theorem report_seen (hs : db.Schema) (hl : LinesOwned db) {T : Guid} (h : s.sees T = true)
    (now : DateTime) {q : ReportQuery} (hq : ¬AsksUnseenAccount s db q) :
    report now T q (db.visible s) = report now T q db := by
  cases q with
  | trialBalance D => rw [report, getTrialBalance_visible hl h, report]
  | accountBalance id D =>
    simp only [AsksUnseenAccount, not_forall, Bool.not_eq_false] at hq
    obtain ⟨a, ha, rfl, hsees⟩ := hq
    have hfull : db.getAccountById a.id = some a := find?_key hs.accounts_pkey ha
    simp only [report, getAccountBalance, getAccountById_seen hs ha hsees, hfull,
      getByTenant_visible hl h]
  | generalLedger a f t =>
    simp only [report, getGeneralLedger, getAllByTenant_visible h, getByTenant_visible hl h]
  | profitAndLoss f t =>
    simp only [report, getProfitAndLoss, getAllByTenant_visible h, getByTenant_visible hl h]
  | balanceSheet D => simp only [report, getBalanceSheet, getTrialBalance_visible hl h]

/-- A query for a tenant the session does not see: the reports of a ledger without rows, and the
    code, the name and no amounts of an account it does see. -/
theorem report_unseen (hs : db.Schema) (hl : LinesOwned db) {T : Guid} (h : s.sees T = false)
    (now : DateTime) {q : ReportQuery} (hq : ¬AsksUnseenAccount s db q) :
    report now T q (db.visible s) = report now T q (.seeded []) ∨
      ∃ a ∈ db.accounts, s.sees a.tenantId = true ∧ ∃ D, q = .accountBalance a.id D ∧
        report now T q (db.visible s) = .accountBalance ⟨a.id, a.code, a.name, 0, 0, 0⟩ := by
  cases q with
  | trialBalance D => exact Or.inl (by rw [report, getTrialBalance_unseen hl h, report])
  | accountBalance id D =>
    simp only [AsksUnseenAccount, not_forall, Bool.not_eq_false] at hq
    obtain ⟨a, ha, rfl, hsees⟩ := hq
    refine Or.inr ⟨a, ha, hsees, D, rfl, ?_⟩
    simp [report, getAccountBalance, getAccountById_seen hs ha hsees, getByTenant_unseen hl h]
  | generalLedger a f t =>
    refine Or.inl ?_
    simp only [report, getGeneralLedger, getAllByTenant_unseen h, getByTenant_unseen hl h,
      getAllByTenant_seeded, getByTenant_seeded]
  | profitAndLoss f t =>
    refine Or.inl ?_
    simp only [report, getProfitAndLoss, getAllByTenant_unseen h, getByTenant_unseen hl h,
      getAllByTenant_seeded, getByTenant_seeded]
  | balanceSheet D =>
    exact Or.inl (by simp only [report, getBalanceSheet, getTrialBalance_unseen hl h])

end Visible

/-- What a report query for tenant `T` answers in session `s`. -/
structure SessionReports (db : LedgerDb) (s : Session Guid) (T : Guid) (now : DateTime)
    (q : ReportQuery) : Prop where
  not_found : AsksUnseenAccount s db q → NotFound (report now T q (db.visible s))
  seen : ¬AsksUnseenAccount s db q → s.sees T = true →
    report now T q (db.visible s) = report now T q db
  unseen : ¬AsksUnseenAccount s db q → s.sees T = false →
    report now T q (db.visible s) = report now T q (.seeded []) ∨
      ∃ a ∈ db.accounts, s.sees a.tenantId = true ∧ ∃ D, q = .accountBalance a.id D ∧
        report now T q (db.visible s) = .accountBalance ⟨a.id, a.code, a.name, 0, 0, 0⟩

/-- In every state the service can reach, a session gets the reports of the tenants it sees as they
    are, and nothing of the others. -/
theorem reports_in_session (templates : List AccountTemplate) (is : List SessionCommand)
    (s : Session Guid) (T : Guid) (now : DateTime) (q : ReportQuery) :
    SessionReports (runAs (LedgerDb.seeded templates) is) s T now q := by
  have h : Reachable (runAs (LedgerDb.seeded templates) is) :=
    runAs_reachable ⟨templates, [], rfl⟩ is
  exact ⟨report_unseen_account now,
    fun hq hT => report_seen (reachable_schema h) (lines_owned h) hT now hq,
    fun hq hT => report_unseen (reachable_schema h) (lines_owned h) hT now hq⟩

end SaasChassis.Ledger
