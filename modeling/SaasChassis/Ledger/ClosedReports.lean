/-
  What a successful period close does to the reports that were there before it.

  Every report selects the posted entries of a date range, and the closing and the opening entry
  of a close are posted entries like any other.
  * `profit_and_loss_kept_iff`: the profit and loss report of the closed range counts the closing
    entry, so it keeps its lines exactly when there was nothing to close.
  * `balance_kept_iff`: the balances as of a day add up from the first day on, so they count the
    opening entry on top of what it repeats. A balance is kept exactly when the report ends
    before the next period, or the opening entry carries nothing of the account.

  `T` is the tenant the command is run for.
-/
import SaasChassis.Ledger.PeriodClose
import SaasChassis.Ledger.Reversal

namespace SaasChassis.Ledger

open SaasChassis.Lib
open CloseFiscalPeriodHandler

/-! ## The profit and loss report of the closed range -/

/-- From `db` to `db'` the profit and loss report of `[S, E]` stays what it was. -/
def ProfitAndLossKept (db db' : LedgerDb) (T : Guid) (S E : DateOnly) : Prop :=
  let before := getProfitAndLoss ⟨T, S, E⟩ db
  let after := getProfitAndLoss ⟨T, S, E⟩ db'
  after.revenue = before.revenue ∧ after.expenses = before.expenses ∧
    after.netIncome = before.netIncome

/-- Every active Revenue and Expense account other than Retained Surplus nets to zero over
    `[S, E]`. -/
def NothingToClose (db : LedgerDb) (T : Guid) (S E : DateOnly) : Prop :=
  ∀ a ∈ db.accounts, a.ActiveOf T Account.IsIncome → a.code ≠ "3002" →
    periodNet db T S E a.id = 0

theorem codes_nodup {db : LedgerDb} (hs : db.Schema) (T : Guid) :
    ((db.getAllByTenant T).map (·.code)).Nodup := by
  rw [((LedgerDb.getAllByTenant_perm db T).map _).nodup_iff]
  have hkeys : ((db.accounts.filter (·.tenantId = T)).map
      fun a => (a.tenantId, a.code)).Nodup :=
    hs.uq_account_code_tenant.sublist (List.filter_sublist.map _)
  refine List.Nodup.of_map (T, ·) ?_
  rw [List.map_map]
  convert hkeys using 1
  refine List.map_congr_left fun a ha => ?_
  rw [← of_decide_eq_true (List.mem_filter.mp ha).2]
  rfl

/-- Over the same accounts, two profit and loss reports agree exactly when the nets of the
    Revenue and Expense accounts do. -/
theorem profitAndLossKept_iff_nets {db db' : LedgerDb} (hs : db.Schema)
    (hacc : db'.accounts = db.accounts) (T : Guid) (S E : DateOnly) :
    ProfitAndLossKept db db' T S E ↔ ∀ a ∈ db.accounts, a.tenantId = T → a.IsIncome →
      periodNet db' T S E a.id = periodNet db T S E a.id := by
  have hall : db'.getAllByTenant T = db.getAllByTenant T := by
    rw [LedgerDb.getAllByTenant, hacc]
    rfl
  obtain ⟨hr, he⟩ := getProfitAndLoss_sections db T S E
  obtain ⟨hr', he'⟩ := getProfitAndLoss_sections db' T S E
  rw [hall] at hr' he'
  unfold ProfitAndLossKept
  dsimp only
  constructor
  · rintro ⟨hrev, hexp, -⟩ a ha hT hi
    have ha := LedgerDb.mem_getAllByTenant.mpr ⟨ha, hT⟩
    rw [hr, hr'] at hrev
    rw [he, he'] at hexp
    rcases hi with ht | ht
    · exact neg_inj.mp (amount_of_pnlSection_eq (codes_nodup hs T) hrev ha ht)
    · exact neg_inj.mp (neg_inj.mp (amount_of_pnlSection_eq (codes_nodup hs T) hexp ha ht))
  · intro hnets
    have hnet : ∀ a ∈ db.getAllByTenant T, a.IsIncome →
        Leg.netOn a.id (db'.postedLegs T (some S) (some E)) =
          Leg.netOn a.id (db.postedLegs T (some S) (some E)) := by
      intro a ha hi
      obtain ⟨ha, hT⟩ := LedgerDb.mem_getAllByTenant.mp ha
      exact hnets a ha hT hi
    have hsection : ∀ (type : AccountType) (amount : Decimal → Decimal),
        (∀ a : Account, a.accountType = type → a.IsIncome) →
          pnlSection type amount (fun a => -Leg.netOn a (db'.postedLegs T (some S) (some E)))
              (db.getAllByTenant T) =
            pnlSection type amount (fun a => -Leg.netOn a (db.postedLegs T (some S) (some E)))
              (db.getAllByTenant T) := by
      intro type amount hi
      unfold pnlSection
      congr 2
      refine List.map_congr_left fun a ha => ?_
      obtain ⟨ha, ht⟩ := List.mem_filter.mp ha
      dsimp only
      rw [hnet a ha (hi a (of_decide_eq_true ht))]
    refine ⟨?_, ?_, ?_⟩
    · rw [hr, hr', hsection .revenue id fun a ht => Or.inl ht]
    · rw [he, he', hsection .expense (- ·) fun a ht => Or.inr ht]
    · rw [getProfitAndLoss_netIncome, getProfitAndLoss_netIncome, hall]
      congr 2
      refine List.map_congr_left fun a ha => ?_
      obtain ⟨ha, hi⟩ := List.mem_filter.mp ha
      exact hnet a ha (of_decide_eq_true hi)

/-- With every other income account at zero, what the active ones add up to is Retained
    Surplus's own net. -/
theorem activeIncomeNet_of_nothing {db : LedgerDb} (hs : db.Schema) {T : Guid} {S E : DateOnly}
    (h : NothingToClose db T S E) {r : Account} (hr : r ∈ db.accounts)
    (hi : r.ActiveOf T Account.IsIncome) (hc : r.code = "3002") :
    activeIncomeNet db T S E = periodNet db T S E r.id := by
  unfold activeIncomeNet netOver
  rw [sum_map_filter]
  have hterm : ∀ a ∈ db.accounts, (if decide (a.ActiveOf T Account.IsIncome) = true then
      periodNet db T S E a.id else 0) = if r.id = a.id then periodNet db T S E r.id else 0 := by
    intro a ha
    by_cases he : r.id = a.id
    · rw [← nodup_keys_inj hs.accounts_pkey hr ha he, if_pos (decide_eq_true hi), if_pos rfl]
    · rw [if_neg he]
      split
      · next hact =>
        refine h a ha (of_decide_eq_true hact) fun hca => he ?_
        refine congrArg Account.id (nodup_keys_inj hs.uq_account_code_tenant hr ha ?_)
        rw [hi.1, (of_decide_eq_true hact).1, hc, hca]
      · rfl
  have hsum := Leg.sum_map_ite_eq_of_nodup hs.accounts_pkey r.id (periodNet db T S E r.id)
  rw [List.map_map, if_pos (List.mem_map_of_mem hr)] at hsum
  rw [List.map_congr_left hterm]
  exact hsum

/-- A successful close keeps the profit and loss report of its own range exactly when no active
    Revenue or Expense account had anything to close. -/
theorem profit_and_loss_kept_iff {db db' : LedgerDb} (hdb : Reachable db) {env : Env}
    {request : CloseFiscalPeriodCommand} {period : FiscalPeriod} (hp : period ∈ db.periods)
    (hid : period.id = request.periodId) (h : handle env request db = (db', .ok ())) :
    ProfitAndLossKept db db' request.tenantId period.startDate period.endDate ↔
      NothingToClose db request.tenantId period.startDate period.endDate := by
  have hs := reachable_schema hdb
  obtain ⟨cs, ⟨q⟩, rfl, -⟩ := close_ok h
  obtain rfl : q.period = period :=
    nodup_keys_inj hs.periods_pkey q.period_mem hp (q.period_id.trans hid.symm)
  have hafter : ∀ a ∈ db.accounts, _ := fun a ha => periodNet_after hs q ha
  have hinactive : ∀ a ∈ db.accounts, ¬a.isActive → _ :=
    fun a ha hn => periodNet_after_inactive hs q ha hn
  obtain ⟨-, -, -, hract⟩ := q.retainedSurplus_spec
  rw [profitAndLossKept_iff_nets hs (accounts_after_close q)]
  constructor
  · intro hkept a ha hact hc
    have hk := hkept a ha hact.1 hact.2.2
    have hne : a.id ≠ q.retainedSurplus.id := fun he =>
      hc ((retainedSurplus_id_iff hs q ha hact.1).mp he)
    rw [hafter a ha, if_pos hact, if_neg hne, add_zero] at hk
    exact hk.symm
  · intro hnothing a ha hT hi
    by_cases hact : a.isActive
    · rw [hafter a ha, if_pos ⟨hT, hact, hi⟩, zero_add]
      by_cases hc : a.code = "3002"
      · -- Retained Surplus as an income account: swept, and given back its own net
        rw [if_pos ((retainedSurplus_id_iff hs q ha hT).mpr hc)]
        exact activeIncomeNet_of_nothing hs hnothing ha ⟨hT, hact, hi⟩ hc
      · have hne : a.id ≠ q.retainedSurplus.id := fun he =>
          hc ((retainedSurplus_id_iff hs q ha hT).mp he)
        rw [if_neg hne, hnothing a ha ⟨hT, hact, hi⟩ hc]
    · exact hinactive a ha hact

theorem profit_and_loss_kept_iff_sample :
    ProfitAndLossKept (Sample.ledger []) (handle (Sample.on 30 401) Sample.closeRequest
      (Sample.ledger [])).1 1 5 20 ↔ NothingToClose (Sample.ledger []) 1 5 20 := by
  have hp : Sample.openPeriod ∈ (Sample.ledger []).periods := by decide +kernel
  have h : handle (Sample.on 30 401) Sample.closeRequest (Sample.ledger []) =
      ((handle (Sample.on 30 401) Sample.closeRequest (Sample.ledger [])).1, .ok ()) := by
    decide +kernel
  have hkept := profit_and_loss_kept_iff (Sample.ledger_reachable []) hp rfl h
  exact hkept

/-- One sale of 100 in the period: the report shows it before the close and is empty after. -/
theorem profit_and_loss_emptied :
    let db := Sample.ledger []
    let db' := step db (Sample.close 401)
    Reachable db ∧ handle (Sample.on 30 401) Sample.closeRequest db = (db', .ok ()) ∧
      (getProfitAndLoss ⟨1, 5, 20⟩ db).revenue = [⟨"4001", "4001", 100⟩] ∧
      (getProfitAndLoss ⟨1, 5, 20⟩ db).netIncome = 100 ∧
      (getProfitAndLoss ⟨1, 5, 20⟩ db').revenue = [] ∧
      (getProfitAndLoss ⟨1, 5, 20⟩ db').netIncome = 0 ∧ ¬ProfitAndLossKept db db' 1 5 20 := by
  refine ⟨Sample.ledger_reachable _, by decide +kernel, by decide +kernel, by decide +kernel,
    by decide +kernel, by decide +kernel, ?_⟩
  rintro ⟨-, -, hnet⟩
  exact absurd hnet (by decide +kernel)

/-! ## Balances as of a day -/

/-- From `db` to `db'` the balance of `a` as of `D` stays what it was, in the trial balance and in
    the balance sheet of its tenant. -/
def BalanceKept (db db' : LedgerDb) (a : Account) (D : DateOnly) : Prop :=
  ∀ now, (getTrialBalance now ⟨a.tenantId, some D⟩ db').balanceOf a.id =
      (getTrialBalance now ⟨a.tenantId, some D⟩ db).balanceOf a.id ∧
    (getBalanceSheet now a.tenantId (some D) db').balanceOf a.id =
      (getBalanceSheet now a.tenantId (some D) db).balanceOf a.id

/-- A report as of `D` counts nothing twice of account `a` once `[S, E]` is closed: it ends in the
    period, or `a` is inactive or has no net there, or the nets of the active balance sheet
    accounts do not add up to zero, so that there is no opening entry. -/
def NotCarriedTwice (db : LedgerDb) (a : Account) (S E D : DateOnly) : Prop :=
  D ≤ E ∨ ¬a.isActive ∨ periodNet db a.tenantId S E a.id = 0 ∨
    netOver (fun b => b.ActiveOf a.tenantId Account.IsBalanceSheet) db a.tenantId S E ≠ 0

/-- What a close adds to the balance of a balance sheet account as of `D`: the net of the period,
    where the opening entry repeats it. -/
theorem netOn_until_after {db : LedgerDb} (hs : db.Schema) {env : Env}
    {request : CloseFiscalPeriodCommand} {cs : ChangeSet} (p : Prepared env request db cs)
    {a : Account} (ha : a ∈ db.accounts) (hT : a.tenantId = request.tenantId)
    (hb : a.IsBalanceSheet) (hc : a.code ≠ "3002") (D : DateOnly) :
    Leg.netOn a.id ((cs.apply db).postedLegs request.tenantId none (some D)) =
      Leg.netOn a.id (db.postedLegs request.tenantId none (some D)) +
        if (p.nextPeriodStart ≤ D ∧ OpeningBalanced db request.tenantId p.period.startDate
            p.period.endDate) ∧ a.isActive then
          periodNet db request.tenantId p.period.startDate p.period.endDate a.id else 0 := by
  have htotal := postedTotal_closed (Leg.netOn a.id) request.tenantId none (some D)
    (Leg.netOn_nil a.id) hs p
  have hne : a.id ≠ p.retainedSurplus.id := fun he =>
    hc ((retainedSurplus_id_iff hs p ha hT).mp he)
  have hnot : ¬a.ActiveOf request.tenantId Account.IsIncome := fun hi =>
    (Account.isBalanceSheet_iff a).mp hb hi.2.2
  have hact : a.ActiveOf request.tenantId Account.IsBalanceSheet ↔ a.isActive :=
    ⟨fun h => h.2.1, fun h => ⟨hT, h, hb⟩⟩
  -- the closing entry has no line on the account
  rw [netOn_closingLegs hs _ _ ha, if_neg hnot, if_neg hne, add_zero, ite_self, add_zero,
    netOn_openingLegs hs _ _ ha] at htotal
  simp only [dated_until, hact] at htotal
  rw [netOn_postedLegs, netOn_postedLegs]
  unfold postedTotal at htotal
  rw [htotal, ite_and _ _ (periodNet ..)]

/-- After a successful close the balance of an Asset, Liability or Equity account other than
    Retained Surplus is reported unchanged as of exactly the days on which nothing of it counts
    twice. -/
theorem balance_kept_iff {db db' : LedgerDb} (hdb : Reachable db) {env : Env}
    {request : CloseFiscalPeriodCommand} {period : FiscalPeriod} (hp : period ∈ db.periods)
    (hid : period.id = request.periodId) (h : handle env request db = (db', .ok ()))
    {a : Account} (ha : a ∈ db.accounts) (hT : a.tenantId = request.tenantId)
    (hb : a.IsBalanceSheet) (hc : a.code ≠ "3002") (D : DateOnly) :
    BalanceKept db db' a D ↔ NotCarriedTwice db a period.startDate period.endDate D := by
  have hs := reachable_schema hdb
  obtain ⟨cs, ⟨q⟩, rfl, -⟩ := close_ok h
  have hsame : q.period = period :=
    nodup_keys_inj hs.periods_pkey q.period_mem hp (q.period_id.trans hid.symm)
  have hafter := netOn_until_after hs q ha hT hb hc D
  have hnext : q.nextPeriodStart ≤ D ↔ ¬D ≤ q.period.endDate := by
    have hval := addDays_one_val q.nextPeriodStart_ok
    rw [Fin.le_def, Fin.le_def]
    omega
  have ha' : a ∈ (cs.apply db).accounts := (accounts_after_close q).symm ▸ ha
  have hkept : BalanceKept db (cs.apply db) a D ↔
      Leg.netOn a.id ((cs.apply db).postedLegs request.tenantId none (some D)) =
        Leg.netOn a.id (db.postedLegs request.tenantId none (some D)) := by
    unfold BalanceKept
    simp only [hT, getTrialBalance_balanceOf _ D ha hT, getTrialBalance_balanceOf _ D ha' hT,
      getBalanceSheet_balanceOf _ D ha hT hb, getBalanceSheet_balanceOf _ D ha' hT hb, and_self]
    exact ⟨fun hall => hall ⟨0, 0⟩, fun he _ => he⟩
  rw [hkept, hafter, add_eq_left, ite_eq_right_iff, hnext, hsame]
  unfold NotCarriedTwice
  rw [hT]
  by_cases hD : D ≤ period.endDate
  · simp [hD]
  · by_cases hact : a.isActive
    · by_cases hz : periodNet db request.tenantId period.startDate period.endDate a.id = 0
      · simp [hz]
      · -- the account itself is one that the opening entry would carry
        have hbal := @openingBalanced_iff db request.tenantId period.startDate period.endDate
        rw [and_iff_right ⟨a, ha, ⟨hT, hact, hb⟩, hz⟩] at hbal
        simp [hD, hact, hz, hbal]
    · simp [hact]

namespace Sample

/-- An expense of 100 that cancels the sale, and a loan of 50 taken in cash. -/
def breakEven : List (Env × LedgerCommand) :=
  [account 105 1 "5001" .expense, account 106 1 "2001" .liability,
   draft 202 1 11 105 101 100, post 202, draft 203 1 12 101 106 50, post 203]

end Sample

theorem balance_kept_iff_sample :
    BalanceKept (Sample.ledger []) (handle (Sample.on 30 401) Sample.closeRequest
      (Sample.ledger [])).1 Sample.cash 25 ↔
        NotCarriedTwice (Sample.ledger []) Sample.cash 5 20 25 := by
  have hp : Sample.openPeriod ∈ (Sample.ledger []).periods := by decide +kernel
  have h : handle (Sample.on 30 401) Sample.closeRequest (Sample.ledger []) =
      ((handle (Sample.on 30 401) Sample.closeRequest (Sample.ledger [])).1, .ok ()) := by
    decide +kernel
  have hkept := balance_kept_iff (Sample.ledger_reachable []) hp rfl h (a := Sample.cash)
    (by decide +kernel) rfl (by decide) (by decide) 25
  exact hkept

/-- Sales and expenses of 100 each and a loan of 50: the close posts an opening entry of 50 on day
    21, and as of day 25 Cash shows 100 instead of 50. -/
theorem opening_entry_counted_twice :
    let db := Sample.ledger Sample.breakEven
    let db' := step db (Sample.close 401)
    Reachable db ∧ handle (Sample.on 30 401) Sample.closeRequest db = (db', .ok ()) ∧
      Sample.cash ∈ db.accounts ∧
      (getTrialBalance ⟨30, 0⟩ ⟨1, some 25⟩ db).balanceOf 101 = 50 ∧
      (getTrialBalance ⟨30, 0⟩ ⟨1, some 25⟩ db').balanceOf 101 = 100 ∧
      (getBalanceSheet ⟨30, 0⟩ 1 (some 25) db).totalAssets = 50 ∧
      (getBalanceSheet ⟨30, 0⟩ 1 (some 25) db').totalAssets = 100 ∧
      ¬BalanceKept db db' Sample.cash 25 := by
  refine ⟨Sample.ledger_reachable _, by decide +kernel, by decide +kernel, by decide +kernel,
    by decide +kernel, by decide +kernel, by decide +kernel, fun hkept => ?_⟩
  exact absurd (hkept ⟨30, 0⟩).1 (by decide +kernel)

end SaasChassis.Ledger
