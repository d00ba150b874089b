/-
  What a successful period close leaves behind, on the accounts and in the opening entry.

  `periodNet_after` gives the net of every account over the closed period: an active Revenue or
  Expense account is swept to zero, Retained Surplus takes what was swept, and nothing else
  moves. From it:
  * `income_zeroed_iff`: the income statement is zeroed, and Retained Surplus moves by the
    reported net income, exactly when no inactive Revenue or Expense account had a net;
  * `opening_carried_iff`: the opening entry carries the closing balances exactly when the nets
    before the close add up to zero and the close moved no balance sheet account.

  `T` is the tenant the command is run for.
-/
import SaasChassis.Ledger.Invariants
import SaasChassis.Ledger.Reports

namespace SaasChassis.Ledger

open SaasChassis.Lib
open CloseFiscalPeriodHandler

/-- An active account of `T` of the types `q`. -/
def Account.ActiveOf (T : Guid) (q : Account → Prop) (a : Account) : Prop :=
  a.tenantId = T ∧ a.isActive ∧ q a

instance (T : Guid) (q : Account → Prop) [DecidablePred q] (a : Account) :
    Decidable (a.ActiveOf T q) := inferInstanceAs (Decidable (_ ∧ _ ∧ _))

/-- The sum of the nets of the accounts satisfying `p` over the posted lines of `[S, E]`. -/
def netOver (p : Account → Bool) (db : LedgerDb) (T : Guid) (S E : DateOnly) : Decimal :=
  ((db.accounts.filter p).map fun a => periodNet db T S E a.id).sum

/-- The net of the active Revenue and Expense accounts: minus the period's net income, as the
    close computes it. -/
def activeIncomeNet (db : LedgerDb) (T : Guid) (S E : DateOnly) : Decimal :=
  netOver (fun a => a.ActiveOf T Account.IsIncome) db T S E

section ActiveAccounts

variable {db : LedgerDb} {T : Guid} (q : Account → Prop) [DecidablePred q]

/-- The accounts a loop of the close goes over, as a selection of all accounts. -/
theorem sum_activeOf (S E : DateOnly) :
    (((db.getAllByTenant T).filter fun a => a.isActive ∧ q a).map
      fun a => periodNet db T S E a.id).sum = netOver (fun a => a.ActiveOf T q) db T S E := by
  have hp := ((LedgerDb.getAllByTenant_perm db T).filter fun a => a.isActive ∧ q a).map
    fun a => periodNet db T S E a.id
  refine hp.sum_eq.trans ?_
  rw [List.filter_filter, netOver]
  refine congrArg (fun l => (List.map _ l).sum) (List.filter_congr fun a _ => ?_)
  rw [Bool.eq_iff_iff, Bool.and_eq_true]
  simp only [decide_eq_true_eq]
  exact and_comm

theorem mem_activeOf_ids (hs : db.Schema) {a : Account} (ha : a ∈ db.accounts) :
    a.id ∈ ((db.getAllByTenant T).filter fun a => a.isActive ∧ q a).map (·.id) ↔
      a.ActiveOf T q := by
  constructor
  · intro h
    obtain ⟨b, hb, hid⟩ := List.mem_map.mp h
    obtain ⟨hmem, hb⟩ := List.mem_filter.mp hb
    obtain ⟨hmem, hT⟩ := LedgerDb.mem_getAllByTenant.mp hmem
    rw [nodup_keys_inj hs.accounts_pkey ha hmem hid.symm]
    exact ⟨hT, of_decide_eq_true hb⟩
  · rintro ⟨hT, h⟩
    exact List.mem_map_of_mem
      (List.mem_filter.mpr ⟨LedgerDb.mem_getAllByTenant.mpr ⟨ha, hT⟩, decide_eq_true h⟩)

theorem activeOf_ids_nodup (hs : db.Schema) :
    (((db.getAllByTenant T).filter fun a => a.isActive ∧ q a).map (·.id)).Nodup :=
  (LedgerDb.getAllByTenant_ids_nodup hs T).sublist (List.filter_sublist.map _)

end ActiveAccounts

/-! ## Nets after the close -/

theorem close_ok {db db' : LedgerDb} {env : Env} {request : CloseFiscalPeriodCommand} {u : Unit}
    (h : handle env request db = (db', .ok u)) :
    ∃ cs, Nonempty (Prepared env request db cs) ∧ db' = cs.apply db ∧ db'.Schema := by
  obtain ⟨cs, hp, hs⟩ := commit_ok h
  obtain ⟨he, hsch⟩ := saveChanges_ok hs
  exact ⟨cs, prepare_ok hp, he, hsch⟩

theorem netOn_closingLegs {db : LedgerDb} (hs : db.Schema) {T : Guid} (S E : DateOnly)
    {a : Account} (ha : a ∈ db.accounts) (r : Guid) :
    Leg.netOn a.id (closingLegs db T S E r) =
      (if a.ActiveOf T Account.IsIncome then -periodNet db T S E a.id else 0) +
        if a.id = r then activeIncomeNet db T S E else 0 := by
  have hsum := @sum_activeOf db T Account.IsIncome _ S E
  unfold closingLegs incomeAccounts
  dsimp only
  rw [Leg.netOn_append, Leg.netOn_carryAll (activeOf_ids_nodup _ hs), Leg.netOn_carry,
    List.map_map, activeIncomeNet, ← hsum]
  simp only [mem_activeOf_ids _ hs ha]
  rfl

theorem netOn_openingLegs {db : LedgerDb} (hs : db.Schema) {T : Guid} (S E : DateOnly)
    {a : Account} (ha : a ∈ db.accounts) :
    Leg.netOn a.id (openingLegs db T S E) =
      if a.ActiveOf T Account.IsBalanceSheet then periodNet db T S E a.id else 0 := by
  rw [openingLegs, balanceSheetAccounts, Leg.netOn_carryAll (activeOf_ids_nodup _ hs)]
  simp only [mem_activeOf_ids _ hs ha]

/-- The net of an account over the period, after the close. -/
theorem periodNet_after {db : LedgerDb} (hs : db.Schema) {env : Env}
    {request : CloseFiscalPeriodCommand} {cs : ChangeSet} (p : Prepared env request db cs)
    {a : Account} (ha : a ∈ db.accounts) :
    let T := request.tenantId
    let S := p.period.startDate
    let E := p.period.endDate
    periodNet (cs.apply db) T S E a.id =
      (if a.ActiveOf T Account.IsIncome then 0 else periodNet db T S E a.id) +
        if a.id = p.retainedSurplus.id then activeIncomeNet db T S E else 0 := by
  intro T S E
  have hnext : ¬(Dated T (some S) (some E) T p.nextPeriodStart ∧ OpeningBalanced db T S E) := by
    rintro ⟨⟨-, -, hle⟩, -⟩
    have hval := addDays_one_val p.nextPeriodStart_ok
    have hle : p.nextPeriodStart ≤ p.period.endDate := hle _ rfl
    exact absurd (Fin.le_def.mp hle) (by omega)
  have hclosing : (if Dated T (some S) (some E) T E then
      Leg.netOn a.id (closingLegs db T S E p.retainedSurplus.id) else 0) =
        Leg.netOn a.id (closingLegs db T S E p.retainedSurplus.id) := by
    split
    · rfl
    · next hd =>
      -- nothing lies in an empty range, so there is nothing to close
      have hempty : ¬S ≤ E := fun hle => hd
        ⟨rfl, fun x hx => (Option.some.inj hx) ▸ hle, fun x hx => (Option.some.inj hx) ▸ le_rfl⟩
      have hz : activeIncomeNet db T S E = 0 := by
        refine List.sum_eq_zero fun x hx => ?_
        obtain ⟨b, -, rfl⟩ := List.mem_map.mp hx
        exact periodNet_of_empty hempty db T b.id
      rw [netOn_closingLegs hs S E ha, periodNet_of_empty hempty, hz]
      simp
  have htotal := postedTotal_closed (Leg.netOn a.id) T (some S) (some E) (Leg.netOn_nil a.id) hs p
  rw [if_neg hnext, hclosing, add_zero, netOn_closingLegs hs S E ha] at htotal
  have hafter : periodNet (cs.apply db) T S E a.id =
      postedTotal (Leg.netOn a.id) T (some S) (some E) (cs.apply db) := netOn_postedLegs ..
  have hbefore : periodNet db T S E a.id =
      postedTotal (Leg.netOn a.id) T (some S) (some E) db := netOn_postedLegs ..
  rw [hafter, htotal, ← hbefore]
  by_cases h : a.ActiveOf T Account.IsIncome
  · simp only [h, if_true]
    ring
  · simp only [h, if_false]
    ring

theorem accounts_after_close {db : LedgerDb} {env : Env} {request : CloseFiscalPeriodCommand}
    {cs : ChangeSet} (p : Prepared env request db cs) : (cs.apply db).accounts = db.accounts := by
  have hm : cs.modifiedAccounts = [] := congrArg (·.modifiedAccounts) p.changes_eq
  have ha : cs.addedAccounts = [] := congrArg (·.addedAccounts) p.changes_eq
  simp [ChangeSet.apply, hm, ha]

/-- Retained Surplus is the tenant's account 3002, and is active. -/
theorem retainedSurplus_unique {db : LedgerDb} (hs : db.Schema) {env : Env}
    {request : CloseFiscalPeriodCommand} {cs : ChangeSet} (p : Prepared env request db cs)
    {r : Account} (hr : r ∈ db.accounts) (hT : r.tenantId = request.tenantId) :
    r.code = "3002" ↔ r = p.retainedSurplus := by
  obtain ⟨hmem, hT', hcode, -⟩ := p.retainedSurplus_spec
  constructor
  · intro hc
    refine nodup_keys_inj hs.uq_account_code_tenant hr hmem ?_
    rw [hT, hT', hc, hcode]
  · rintro rfl
    exact hcode

theorem retainedSurplus_id_iff {db : LedgerDb} (hs : db.Schema) {env : Env}
    {request : CloseFiscalPeriodCommand} {cs : ChangeSet} (p : Prepared env request db cs)
    {a : Account} (ha : a ∈ db.accounts) (hT : a.tenantId = request.tenantId) :
    a.id = p.retainedSurplus.id ↔ a.code = "3002" := by
  rw [retainedSurplus_unique hs p ha hT]
  exact ⟨nodup_keys_inj hs.accounts_pkey ha p.retainedSurplus_spec.1, congrArg Account.id⟩

/-- A close leaves an inactive account as it was. -/
theorem periodNet_after_inactive {db : LedgerDb} (hs : db.Schema) {env : Env}
    {request : CloseFiscalPeriodCommand} {cs : ChangeSet} (p : Prepared env request db cs)
    {a : Account} (ha : a ∈ db.accounts) (hn : ¬a.isActive) :
    periodNet (cs.apply db) request.tenantId p.period.startDate p.period.endDate a.id =
      periodNet db request.tenantId p.period.startDate p.period.endDate a.id := by
  obtain ⟨hmem, -, -, hact⟩ := p.retainedSurplus_spec
  have hne : a.id ≠ p.retainedSurplus.id := fun he => by
    rw [nodup_keys_inj hs.accounts_pkey ha hmem he] at hn
    exact hn hact
  rw [periodNet_after hs p ha, if_neg fun h => hn h.2.1, if_neg hne, add_zero]

/-! ## The income statement -/

/-- From `db` to `db'` the income statement of `[S, E]` is zeroed: every Revenue and Expense
    account of `T` nets to zero, and Retained Surplus (credits minus debits) has moved by the
    net income reported before. -/
def IncomeZeroed (db db' : LedgerDb) (T : Guid) (S E : DateOnly) : Prop :=
  (∀ a ∈ db'.accounts, a.tenantId = T → a.IsIncome → periodNet db' T S E a.id = 0) ∧
    ∀ r ∈ db'.accounts, r.tenantId = T → r.code = "3002" →
      -periodNet db' T S E r.id - -periodNet db T S E r.id =
        (getProfitAndLoss ⟨T, S, E⟩ db).netIncome

/-- Before the close: no inactive Revenue or Expense account has a net, and Retained Surplus is a
    balance sheet account, or has no net itself while the active ones add up to zero. -/
def IncomeAllActive (db : LedgerDb) (T : Guid) (S E : DateOnly) : Prop :=
  (∀ a ∈ db.accounts, a.tenantId = T → ¬a.isActive → a.IsIncome → periodNet db T S E a.id = 0) ∧
    ∀ r ∈ db.accounts, r.tenantId = T → r.code = "3002" → r.IsBalanceSheet ∨
      (periodNet db T S E r.id = 0 ∧ activeIncomeNet db T S E = 0)

/-- Reported net income splits into the active accounts' part and the inactive ones'. -/
theorem netIncome_eq (db : LedgerDb) (T : Guid) (S E : DateOnly) :
    (getProfitAndLoss ⟨T, S, E⟩ db).netIncome = -(activeIncomeNet db T S E +
      netOver (fun a => a.tenantId = T ∧ ¬a.isActive ∧ a.IsIncome) db T S E) := by
  have hp := ((LedgerDb.getAllByTenant_perm db T).filter fun a => a.IsIncome).map
    fun a => Leg.netOn a.id (db.postedLegs T (some S) (some E))
  rw [getProfitAndLoss_netIncome, hp.sum_eq, List.filter_filter, activeIncomeNet, netOver,
    netOver, sum_map_filter, sum_map_filter, sum_map_filter, ← List.sum_map_add]
  congr 2
  refine List.map_congr_left fun a _ => ?_
  by_cases hT : a.tenantId = T <;> by_cases hi : a.IsIncome <;> by_cases hact : a.isActive <;>
    simp [Account.ActiveOf, hT, hi, hact, periodNet]

theorem inactive_net_zero {db : LedgerDb} {T : Guid} {S E : DateOnly}
    (h : ∀ a ∈ db.accounts, a.tenantId = T → ¬a.isActive → a.IsIncome →
      periodNet db T S E a.id = 0) :
    netOver (fun a => a.tenantId = T ∧ ¬a.isActive ∧ a.IsIncome) db T S E = 0 := by
  refine List.sum_eq_zero fun x hx => ?_
  obtain ⟨a, ha, rfl⟩ := List.mem_map.mp hx
  obtain ⟨hmem, ha⟩ := List.mem_filter.mp ha
  obtain ⟨hT, hact, hinc⟩ := of_decide_eq_true ha
  exact h a hmem hT hact hinc

/-- A successful close zeroes the income statement exactly when nothing was on inactive Revenue
    or Expense accounts, and Retained Surplus is not itself an income account with a net. -/
theorem income_zeroed_iff {db db' : LedgerDb} (hdb : Reachable db) {env : Env}
    {request : CloseFiscalPeriodCommand} {period : FiscalPeriod} (hp : period ∈ db.periods)
    (hid : period.id = request.periodId) (h : handle env request db = (db', .ok ())) :
    IncomeZeroed db db' request.tenantId period.startDate period.endDate ↔
      IncomeAllActive db request.tenantId period.startDate period.endDate := by
  have hs := reachable_schema hdb
  obtain ⟨cs, ⟨q⟩, rfl, -⟩ := close_ok h
  obtain rfl : q.period = period :=
    nodup_keys_inj hs.periods_pkey q.period_mem hp (q.period_id.trans hid.symm)
  have hafter : ∀ a ∈ db.accounts, _ := fun a ha => periodNet_after hs q ha
  have hinactive : ∀ a ∈ db.accounts, ¬a.isActive → _ :=
    fun a ha hn => periodNet_after_inactive hs q ha hn
  obtain ⟨-, -, -, hract⟩ := q.retainedSurplus_spec
  unfold IncomeZeroed IncomeAllActive
  rw [accounts_after_close q, netIncome_eq]
  constructor
  · rintro ⟨hzero, hmove⟩
    have hin : ∀ a ∈ db.accounts, a.tenantId = request.tenantId → ¬a.isActive → a.IsIncome →
        periodNet db request.tenantId q.period.startDate q.period.endDate a.id = 0 :=
      fun a ha hT hn hi => (hinactive a ha hn) ▸ hzero a ha hT hi
    refine ⟨hin, fun r hr hT hc => ?_⟩
    have hrr := (retainedSurplus_unique hs q hr hT).mp hc
    by_cases hi : r.IsIncome
    · -- a Retained Surplus that the sweep itself zeroes
      have hz := hzero r hr hT hi
      have hm := hmove r hr hT hc
      rw [hafter r hr, if_pos ⟨hT, hrr ▸ hract, hi⟩, if_pos (by rw [hrr]), zero_add] at hz
      rw [hzero r hr hT hi, inactive_net_zero hin, hz] at hm
      exact Or.inr ⟨by linarith, hz⟩
    · exact Or.inl ((Account.isBalanceSheet_iff r).mpr hi)
  · rintro ⟨hin, hsurplus⟩
    refine ⟨fun a ha hT hi => ?_, fun r hr hT hc => ?_⟩
    · by_cases hact : a.isActive
      · rw [hafter a ha, if_pos ⟨hT, hact, hi⟩, zero_add]
        split
        · next he =>
          have hc := (retainedSurplus_id_iff hs q ha hT).mp he
          rcases hsurplus a ha hT hc with hb | ⟨-, hz⟩
          · exact absurd hi ((Account.isBalanceSheet_iff a).mp hb)
          · exact hz
        · rfl
      · rw [hinactive a ha hact]
        exact hin a ha hT hact hi
    · rw [inactive_net_zero hin, hafter r hr,
        if_pos ((retainedSurplus_id_iff hs q hr hT).mpr hc)]
      rcases hsurplus r hr hT hc with hb | ⟨hz, hsum⟩
      · rw [if_neg fun hact => (Account.isBalanceSheet_iff r).mp hb hact.2.2]
        ring
      · rw [hz, hsum]
        simp

/-! ## The opening entry -/

/-- In `db'` the closing balances of `[S, E]` are carried forward from `period`: as soon as an
    active balance sheet account of `T` has a net, a posted balanced entry dated the day after
    `E` is linked to the period and has the same net on each such account. -/
def OpeningCarried (db' : LedgerDb) (T : Guid) (period : FiscalPeriod) : Prop :=
  let net := periodNet db' T period.startDate period.endDate
  (∃ a ∈ db'.accounts, a.ActiveOf T Account.IsBalanceSheet ∧ net a.id ≠ 0) →
    ∃ o ∈ db'.entries, o.tenantId = T ∧ o.status = .posted ∧ o.IsBalanced ∧
      o.entryDate.val = period.endDate.val + 1 ∧ period.openingBalanceEntryId = some o.id ∧
      ∀ a ∈ db'.accounts, a.ActiveOf T Account.IsBalanceSheet → Leg.netOn a.id o.legs = net a.id

/-- The net an active balance sheet account will have after the close: Retained Surplus takes
    the income accounts' net. -/
def closingNet (db : LedgerDb) (T : Guid) (S E : DateOnly) (a : Account) : Decimal :=
  periodNet db T S E a.id + if a.code = "3002" then activeIncomeNet db T S E else 0

/-- Before the close: no balance sheet account will have a net, or the nets before the close
    already add up to zero and a balance sheet Retained Surplus receives nothing. -/
def NetsCarryForward (db : LedgerDb) (T : Guid) (S E : DateOnly) : Prop :=
  (∀ a ∈ db.accounts, a.ActiveOf T Account.IsBalanceSheet → closingNet db T S E a = 0) ∨
    ((∀ r ∈ db.accounts, r.ActiveOf T Account.IsBalanceSheet → r.code = "3002" →
        activeIncomeNet db T S E = 0) ∧
      netOver (fun a => a.ActiveOf T Account.IsBalanceSheet) db T S E = 0)

theorem periodNet_balanceSheet {db : LedgerDb} (hs : db.Schema) {env : Env}
    {request : CloseFiscalPeriodCommand} {cs : ChangeSet} (p : Prepared env request db cs)
    {a : Account} (ha : a ∈ db.accounts)
    (hb : a.ActiveOf request.tenantId Account.IsBalanceSheet) :
    periodNet (cs.apply db) request.tenantId p.period.startDate p.period.endDate a.id =
      closingNet db request.tenantId p.period.startDate p.period.endDate a := by
  rw [periodNet_after hs p ha, closingNet,
    if_neg fun hi => (Account.isBalanceSheet_iff a).mp hb.2.2 hi.2.2]
  simp only [retainedSurplus_id_iff hs p ha hb.1]

/-- Where the active income accounts' net moves no balance sheet account, the close keeps their
    nets. -/
theorem closingNet_eq {db : LedgerDb} {T : Guid} {S E : DateOnly}
    (h : ∀ r ∈ db.accounts, r.ActiveOf T Account.IsBalanceSheet → r.code = "3002" →
      activeIncomeNet db T S E = 0) {a : Account} (ha : a ∈ db.accounts)
    (hb : a.ActiveOf T Account.IsBalanceSheet) :
    closingNet db T S E a = periodNet db T S E a.id := by
  unfold closingNet
  split
  · next hc => rw [h a ha hb hc, add_zero]
  · exact add_zero _

theorem openingBalanced_iff {db : LedgerDb} {T : Guid} {S E : DateOnly} :
    OpeningBalanced db T S E ↔
      (∃ a ∈ db.accounts, a.ActiveOf T Account.IsBalanceSheet ∧ periodNet db T S E a.id ≠ 0) ∧
        netOver (fun a => a.ActiveOf T Account.IsBalanceSheet) db T S E = 0 := by
  have hsum := @sum_activeOf db T Account.IsBalanceSheet _ S E
  rw [OpeningBalanced, balanceSheetAccounts, hsum]
  refine and_congr ?_ Iff.rfl
  simp only [List.mem_filter, LedgerDb.mem_getAllByTenant, decide_eq_true_eq]
  constructor
  · rintro ⟨a, ⟨⟨ha, hT⟩, hq⟩, hn⟩
    exact ⟨a, ha, ⟨hT, hq⟩, hn⟩
  · rintro ⟨a, ha, ⟨hT, hq⟩, hn⟩
    exact ⟨a, ⟨⟨ha, hT⟩, hq⟩, hn⟩

/-- The period's row after the close. -/
theorem period_after_close {db : LedgerDb} (hs : db.Schema) {env : Env}
    {request : CloseFiscalPeriodCommand} {cs : ChangeSet} (p : Prepared env request db cs)
    {period' : FiscalPeriod} (hp : period' ∈ (cs.apply db).periods)
    (hid : period'.id = request.periodId) :
    period'.startDate = p.period.startDate ∧ period'.endDate = p.period.endDate ∧
      period'.openingBalanceEntryId =
        (p.opening.head?.map (·.id)).or p.period.openingBalanceEntryId := by
  rw [p.periods_after hs] at hp
  rcases mem_updateKey.mp hp with ⟨_, -, -, rfl⟩ | ⟨-, hne⟩
  · cases p.opening <;> exact ⟨rfl, rfl, rfl⟩
  · exact absurd (hid.trans p.period_id.symm) hne

/-- A successful close carries the closing balances forward exactly when nothing is to be
    carried, or the balances it read before closing are the closing balances and balance. -/
theorem opening_carried_iff {db db' : LedgerDb} (hdb : Reachable db) {env : Env}
    {request : CloseFiscalPeriodCommand} (h : handle env request db = (db', .ok ()))
    {period' : FiscalPeriod} (hp : period' ∈ db'.periods) (hid : period'.id = request.periodId) :
    OpeningCarried db' request.tenantId period' ↔
      NetsCarryForward db request.tenantId period'.startDate period'.endDate := by
  have hs := reachable_schema hdb
  obtain ⟨cs, ⟨q⟩, rfl, hs'⟩ := close_ok h
  obtain ⟨hS, hE, hlink⟩ := period_after_close hs q hp hid
  have hnone := open_unlinked hdb q.period q.period_mem q.period_opened
  rw [hnone, Option.or_none] at hlink
  have hnet : ∀ a ∈ db.accounts, a.ActiveOf request.tenantId Account.IsBalanceSheet → _ :=
    fun a ha hb => periodNet_balanceSheet hs q ha hb
  have hopen : ∀ a ∈ db.accounts, a.ActiveOf request.tenantId Account.IsBalanceSheet →
      Leg.netOn a.id (openingLegs db request.tenantId q.period.startDate q.period.endDate) =
        periodNet db request.tenantId q.period.startDate q.period.endDate a.id := by
    intro a ha hb
    rw [netOn_openingLegs hs _ _ ha, if_pos hb]
  unfold OpeningCarried NetsCarryForward
  rw [accounts_after_close q, hS, hE]
  dsimp only
  constructor
  · intro hcarried
    by_cases hall : ∀ a ∈ db.accounts, a.ActiveOf request.tenantId Account.IsBalanceSheet →
        closingNet db request.tenantId q.period.startDate q.period.endDate a = 0
    · exact Or.inl hall
    · simp only [not_forall] at hall
      obtain ⟨a, ha, hb, hn⟩ := hall
      obtain ⟨o, ho, -, -, -, -, hoid, hsame⟩ := hcarried ⟨a, ha, hb, by rwa [hnet a ha hb]⟩
      rw [hlink] at hoid
      rcases q.opening_cases hs with ⟨hnil, -⟩ | ⟨hbal, x, hx, -, -, -, -, -, hlegs, -⟩
      · rw [hnil] at hoid
        cases hoid
      · have hxmem : x ∈ (cs.apply db).entries := by
          rw [q.entries_after hs, hx]
          simp
        rw [hx] at hoid
        have hox : o = x := nodup_keys_inj hs'.entries_pkey ho hxmem (Option.some.inj hoid).symm
        refine Or.inr ⟨fun r hr hrb hc => ?_, (openingBalanced_iff.mp hbal).2⟩
        have he := hsame r hr hrb
        rw [hox, hlegs, hopen r hr hrb, hnet r hr hrb, closingNet, if_pos hc] at he
        exact left_eq_add.mp he
  · rintro (hall | ⟨hsurplus, hsum⟩) ⟨a, ha, hb, hn⟩
    · exact absurd (hall a ha hb) (by rwa [hnet a ha hb] at hn)
    · rw [hnet a ha hb, closingNet_eq hsurplus ha hb] at hn
      have hbal := openingBalanced_iff.mpr ⟨⟨a, ha, hb, hn⟩, hsum⟩
      rcases q.opening_cases hs with ⟨-, hnb⟩ | ⟨-, x, hx, -, -, hT, hd, hps, hlegs, hxb⟩
      · exact absurd hbal hnb
      · refine ⟨x, ?_, hT, hps, hxb, ?_, ?_, fun b hb' hbb => ?_⟩
        · rw [q.entries_after hs, hx]
          simp
        · rw [hd]
          exact addDays_one_val q.nextPeriodStart_ok
        · rw [hlink, hx]
          rfl
        · rw [hlegs, hopen b hb' hbb, hnet b hb' hbb, closingNet_eq hsurplus hb' hbb]

namespace Sample

/-- Sales deactivated after use. -/
def salesDeactivated : List (Env × LedgerCommand) :=
  [(on 21 0, .updateAccount 102 ⟨"4001", none, false⟩)]

def closeRequest : CloseFiscalPeriodCommand := ⟨301, 1, 99⟩

def openPeriod : FiscalPeriod := FiscalPeriod.create 301 1 "P1" 5 20

/-- The period after its close, without an opening entry. -/
def closedUnlinked : FiscalPeriod :=
  { openPeriod with status := .closed, closedBy := some 99, closedAt := some ⟨30, 0⟩ }

end Sample

theorem income_zeroed_iff_sample :
    IncomeZeroed (Sample.ledger []) (handle (Sample.on 30 401) Sample.closeRequest
      (Sample.ledger [])).1 1 5 20 ↔ IncomeAllActive (Sample.ledger []) 1 5 20 :=
  income_zeroed_iff (Sample.ledger_reachable [])
    (by decide +kernel : Sample.openPeriod ∈ (Sample.ledger []).periods) rfl
    (by decide +kernel : handle (Sample.on 30 401) Sample.closeRequest (Sample.ledger []) =
      (_, .ok ()))

/-- Sales of 100 were posted and the account deactivated before the close: the close succeeds,
    Sales keeps its net of -100 and Retained Surplus does not move, while the profit and loss
    report showed a net income of 100. -/
theorem inactive_income_not_zeroed :
    let db := Sample.ledger Sample.salesDeactivated
    let db' := step db (Sample.close 401)
    Reachable db ∧ handle (Sample.on 30 401) Sample.closeRequest db = (db', .ok ()) ∧
      (getProfitAndLoss ⟨1, 5, 20⟩ db).netIncome = 100 ∧ periodNet db' 1 5 20 102 = -100 ∧
      periodNet db' 1 5 20 103 = 0 ∧ ¬IncomeZeroed db db' 1 5 20 := by
  refine ⟨Sample.ledger_reachable _, by decide +kernel, by decide +kernel, by decide +kernel,
    by decide +kernel, ?_⟩
  rintro ⟨hzero, -⟩
  have hsales := hzero { Account.create 102 1 "4001" "4001" .revenue none none with
    isActive := false } (by decide +kernel) rfl (Or.inl rfl)
  exact absurd hsales (by decide +kernel)

theorem opening_carried_iff_sample :
    OpeningCarried (handle (Sample.on 30 401) Sample.closeRequest (Sample.ledger [])).1 1
      Sample.closedUnlinked ↔ NetsCarryForward (Sample.ledger []) 1 5 20 :=
  opening_carried_iff (Sample.ledger_reachable [])
    (by decide +kernel : handle (Sample.on 30 401) Sample.closeRequest (Sample.ledger []) =
      (_, .ok ())) (by decide +kernel) rfl

/-- One sale of 100 in the period: after the close Cash has a net of 100 and Retained Surplus of
    -100, which balance, and no opening entry is stored. -/
theorem opening_entry_missing :
    let db := Sample.ledger []
    let db' := step db (Sample.close 401)
    Reachable db ∧ handle (Sample.on 30 401) Sample.closeRequest db = (db', .ok ()) ∧
      Sample.closedUnlinked ∈ db'.periods ∧ periodNet db' 1 5 20 101 = 100 ∧
      periodNet db' 1 5 20 103 = -100 ∧ (db'.entries.map (·.sourceModule)) =
        [none, some "period_close"] ∧ ¬OpeningCarried db' 1 Sample.closedUnlinked := by
  refine ⟨Sample.ledger_reachable _, by decide +kernel, by decide +kernel, by decide +kernel,
    by decide +kernel, by decide +kernel, fun h => ?_⟩
  obtain ⟨o, -, -, -, -, -, hlink, -⟩ := h ⟨Account.create 101 1 "1001" "1001" .asset none none,
    by decide +kernel, ⟨rfl, rfl, Or.inl rfl⟩, by decide +kernel⟩
  cases hlink

end SaasChassis.Ledger
