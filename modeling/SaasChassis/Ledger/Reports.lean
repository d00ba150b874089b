/-
  The report queries GetTrialBalance, GetAccountBalance and GetProfitAndLoss with the balance
  sheet endpoint, and what each one reports as totals over `postedLegs`.

  `mem_lines_getTrialBalance`: the line of an account of the tenant shows its totals.
  `getTrialBalance_totals`: the totals are the join of the posted legs with the accounts of
  the tenant. `getProfitAndLoss_netIncome`: net income is minus the nets of all Revenue and
  Expense accounts of the tenant, active or not. `getBalanceSheet_balanceOf`: the balance sheet
  shows the balances of the trial balance.
-/
import SaasChassis.Ledger.Balances

namespace SaasChassis.Ledger

open SaasChassis.Lib

/-! ## GetTrialBalance -/

structure GetTrialBalanceQuery where
  tenantId : Guid
  asOfDate : Option DateOnly

structure TrialBalanceLine where
  accountId : Guid
  accountCode : String
  accountName : String
  accountType : AccountType
  totalDebits : Decimal
  totalCredits : Decimal
  balance : Decimal
deriving DecidableEq

structure TrialBalance where
  tenantId : Guid
  asOfDate : DateOnly
  lines : List TrialBalanceLine
  totalDebits : Decimal
  totalCredits : Decimal
deriving DecidableEq

/-- The line of one account, before the accounts without movement are dropped. -/
def trialBalanceLine (balances : List (Guid × (Decimal × Decimal))) (a : Account) :
    TrialBalanceLine :=
  let b := (balances.lookup a.id).getD (0, 0)
  ⟨a.id, a.code, a.name, a.accountType, b.1, b.2, b.1 - b.2⟩

def getTrialBalance (utcNow : DateTime) (request : GetTrialBalanceQuery) (db : LedgerDb) :
    TrialBalance :=
  let asOfDate := request.asOfDate.getD utcNow.date
  let accounts := db.getAllByTenant request.tenantId
  let entries := db.getByTenant request.tenantId none (some asOfDate) (some .posted) none
  let balances := accountBalances (entries.flatMap (·.lines))
  let lines := ((accounts.map (trialBalanceLine balances)).filter
    fun l => l.totalDebits ≠ 0 ∨ l.totalCredits ≠ 0).insertionSort (·.accountCode ≤ ·.accountCode)
  { tenantId := request.tenantId, asOfDate, lines,
    totalDebits := (lines.map (·.totalDebits)).sum,
    totalCredits := (lines.map (·.totalCredits)).sum }

/-- The balance the report shows for account `a`: 0 when it shows no line. -/
def TrialBalance.balanceOf (tb : TrialBalance) (a : Guid) : Decimal :=
  ((tb.lines.find? (·.accountId = a)).map (·.balance)).getD 0

/-- The line of an account, read as totals over the posted legs. -/
theorem trialBalanceLine_eq (db : LedgerDb) (T : Guid) (D : DateOnly) (a : Account) :
    trialBalanceLine (accountBalances ((db.getByTenant T none (some D) (some .posted)
        none).flatMap (·.lines))) a =
      ⟨a.id, a.code, a.name, a.accountType, Leg.debitOn a.id (db.postedLegs T none (some D)),
        Leg.creditOn a.id (db.postedLegs T none (some D)),
        Leg.netOn a.id (db.postedLegs T none (some D))⟩ := by
  have hp := legsOf_getByTenant_perm db T none (some D)
  rw [trialBalanceLine, getD_accountBalances, Leg.debitOn_perm hp, Leg.creditOn_perm hp]
  rfl

theorem getTrialBalance_lines_perm (utcNow : DateTime) (db : LedgerDb) (T : Guid)
    (D : DateOnly) :
    (getTrialBalance utcNow ⟨T, some D⟩ db).lines.Perm
      (((db.getAllByTenant T).map (trialBalanceLine (accountBalances ((db.getByTenant T none
        (some D) (some .posted) none).flatMap (·.lines))))).filter
          fun l => l.totalDebits ≠ 0 ∨ l.totalCredits ≠ 0) :=
  List.perm_insertionSort _ _

/-- The report has a line for each account of the tenant with movement, with its totals. -/
theorem mem_lines_getTrialBalance {db : LedgerDb} {now : DateTime} {T : Guid} {D : DateOnly}
    {l : TrialBalanceLine} :
    l ∈ (getTrialBalance now ⟨T, some D⟩ db).lines ↔
      ∃ a ∈ db.accounts, a.tenantId = T ∧ (l.totalDebits ≠ 0 ∨ l.totalCredits ≠ 0) ∧
        l = ⟨a.id, a.code, a.name, a.accountType,
          Leg.debitOn a.id (db.postedLegs T none (some D)),
          Leg.creditOn a.id (db.postedLegs T none (some D)),
          Leg.netOn a.id (db.postedLegs T none (some D))⟩ := by
  rw [(getTrialBalance_lines_perm now db T D).mem_iff, List.mem_filter, List.mem_map]
  simp only [trialBalanceLine_eq, LedgerDb.mem_getAllByTenant, decide_eq_true_eq]
  constructor
  · rintro ⟨⟨a, ⟨ha, hT⟩, rfl⟩, hmoved⟩
    exact ⟨a, ha, hT, hmoved, rfl⟩
  · rintro ⟨a, ha, hT, hmoved, he⟩
    exact ⟨⟨a, ⟨ha, hT⟩, he.symm⟩, hmoved⟩

/-- Lines that show the nets of their accounts, one for `a` if it has a net, show the net of
    `a`. -/
theorem balance_of_lines {lines : List TrialBalanceLine} {f : Guid → Decimal} {a : Guid}
    (hlines : ∀ l ∈ lines, l.balance = f l.accountId)
    (hshown : f a ≠ 0 → ∃ l ∈ lines, l.accountId = a) :
    ((lines.find? (·.accountId = a)).map (·.balance)).getD 0 = f a := by
  cases hf : lines.find? (·.accountId = a) with
  | some l =>
    have hl : l.accountId = a := by simpa using List.find?_some hf
    rw [Option.map_some, Option.getD_some, hlines l (List.mem_of_find?_eq_some hf), hl]
  | none =>
    -- no line: the account has no net
    by_contra hne
    obtain ⟨l, hl, hid⟩ := hshown fun hz => hne hz.symm
    exact absurd (List.find?_eq_none.mp hf l hl) (by simp [hid])

theorem balance_getTrialBalance {db : LedgerDb} {now : DateTime} {T : Guid} {D : DateOnly}
    {l : TrialBalanceLine} (hl : l ∈ (getTrialBalance now ⟨T, some D⟩ db).lines) :
    l.balance = Leg.netOn l.accountId (db.postedLegs T none (some D)) := by
  obtain ⟨a, -, -, -, rfl⟩ := mem_lines_getTrialBalance.mp hl
  rfl

/-- An account of the tenant with a net has a line, under its type. -/
theorem shown_getTrialBalance {db : LedgerDb} (now : DateTime) {T : Guid} {D : DateOnly}
    {a : Account} (ha : a ∈ db.accounts) (hT : a.tenantId = T)
    (hne : Leg.netOn a.id (db.postedLegs T none (some D)) ≠ 0) :
    ∃ l ∈ (getTrialBalance now ⟨T, some D⟩ db).lines,
      l.accountId = a.id ∧ l.accountType = a.accountType := by
  refine ⟨_, mem_lines_getTrialBalance.mpr ⟨a, ha, hT, ?_, rfl⟩, rfl, rfl⟩
  by_contra hz
  simp only [not_or, not_not] at hz
  exact hne (by rw [Leg.netOn, hz.1, hz.2, sub_zero])

/-- The report shows the net of every account of the tenant. -/
theorem getTrialBalance_balanceOf {db : LedgerDb} (utcNow : DateTime) {T : Guid}
    (D : DateOnly) {a : Account} (ha : a ∈ db.accounts) (hT : a.tenantId = T) :
    (getTrialBalance utcNow ⟨T, some D⟩ db).balanceOf a.id =
      Leg.netOn a.id (db.postedLegs T none (some D)) := by
  refine balance_of_lines (f := fun x => Leg.netOn x (db.postedLegs T none (some D)))
    (fun l hl => balance_getTrialBalance hl) fun hne => ?_
  obtain ⟨l, hl, hid, -⟩ := shown_getTrialBalance utcNow ha hT hne
  exact ⟨l, hl, hid⟩

/-- The totals sum the posted legs account by account over the tenant's own accounts. -/
theorem getTrialBalance_totals (utcNow : DateTime) (db : LedgerDb) (T : Guid) (D : DateOnly) :
    let tb := getTrialBalance utcNow ⟨T, some D⟩ db
    let ids := (db.getAllByTenant T).map (·.id)
    tb.totalDebits = (ids.map fun a => Leg.debitOn a (db.postedLegs T none (some D))).sum ∧
      tb.totalCredits = (ids.map fun a => Leg.creditOn a (db.postedLegs T none (some D))).sum := by
  have hperm := getTrialBalance_lines_perm utcNow db T D
  refine ⟨?_, ?_⟩
  · refine (hperm.map (·.totalDebits)).sum_eq.trans ?_
    rw [sum_map_filter_of_zero _ _ _ fun l _ hz => by
      simp only [decide_eq_false_iff_not, not_or, not_not] at hz
      exact hz.1]
    simp only [List.map_map, Function.comp_def, trialBalanceLine_eq]
  · refine (hperm.map (·.totalCredits)).sum_eq.trans ?_
    rw [sum_map_filter_of_zero _ _ _ fun l _ hz => by
      simp only [decide_eq_false_iff_not, not_or, not_not] at hz
      exact hz.2]
    simp only [List.map_map, Function.comp_def, trialBalanceLine_eq]

/-! ## GetAccountBalance -/

structure GetAccountBalanceQuery where
  tenantId : Guid
  accountId : Guid
  asOfDate : Option DateOnly

structure AccountBalance where
  accountId : Guid
  code : String
  name : String
  totalDebits : Decimal
  totalCredits : Decimal
  balance : Decimal
deriving DecidableEq

def getAccountBalance (utcNow : DateTime) (request : GetAccountBalanceQuery) (db : LedgerDb) :
    Except LedgerException AccountBalance :=
  match db.getAccountById request.accountId with
  | none =>
    let id := request.accountId
    .error (.invalidOperation s!"Account {id} not found.")
  | some account =>
    let asOfDate := request.asOfDate.getD utcNow.date
    let entries := db.getByTenant request.tenantId none (some asOfDate) (some .posted) none
    let lines := (entries.flatMap (·.lines)).filter (·.accountId = request.accountId)
    let totalDebits := (lines.map (·.debitAmount)).sum
    let totalCredits := (lines.map (·.creditAmount)).sum
    .ok ⟨account.id, account.code, account.name, totalDebits, totalCredits,
      totalDebits - totalCredits⟩

/-- The query answers for every stored account, with its totals and its net. -/
theorem getAccountBalance_ok {db : LedgerDb} (utcNow : DateTime) (T : Guid) (D : DateOnly)
    {a : Account} (ha : a ∈ db.accounts) :
    ∃ b, getAccountBalance utcNow ⟨T, a.id, some D⟩ db = .ok b ∧
      b.totalDebits = Leg.debitOn a.id (db.postedLegs T none (some D)) ∧
      b.totalCredits = Leg.creditOn a.id (db.postedLegs T none (some D)) ∧
      b.balance = Leg.netOn a.id (db.postedLegs T none (some D)) := by
  have hp := legsOf_getByTenant_perm db T none (some D)
  unfold getAccountBalance
  cases hf : db.getAccountById a.id with
  | none => exact absurd (List.find?_eq_none.mp hf a ha) (by simp)
  | some b =>
    refine ⟨_, rfl, ?_⟩
    simp only [← debitOn_legsOf, ← creditOn_legsOf, Option.getD_some]
    rw [Leg.debitOn_perm hp, Leg.creditOn_perm hp]
    exact ⟨rfl, rfl, rfl⟩

/-! ## GetProfitAndLoss -/

structure GetProfitAndLossQuery where
  tenantId : Guid
  fromDate : DateOnly
  toDate : DateOnly

structure PnLLine where
  accountCode : String
  accountName : String
  amount : Decimal
deriving DecidableEq

structure ProfitAndLoss where
  tenantId : Guid
  fromDate : DateOnly
  toDate : DateOnly
  revenue : List PnLLine
  expenses : List PnLLine
  totalRevenue : Decimal
  totalExpenses : Decimal
  netIncome : Decimal
deriving DecidableEq

/-- The lines of one section of the report: the accounts of type `type`, each with `amount` of
    its net balance, without the zero lines. -/
def pnlSection (type : AccountType) (amount : Decimal → Decimal)
    (netBalances : Guid → Decimal) (accounts : List Account) : List PnLLine :=
  (((accounts.filter (·.accountType = type)).map
    fun a => (⟨a.code, a.name, amount (netBalances a.id)⟩ : PnLLine)).filter
      (·.amount ≠ 0)).insertionSort (·.accountCode ≤ ·.accountCode)

def getProfitAndLoss (request : GetProfitAndLossQuery) (db : LedgerDb) : ProfitAndLoss :=
  let accounts := db.getAllByTenant request.tenantId
  let entries := db.getByTenant request.tenantId (some request.fromDate) (some request.toDate)
    (some .posted) none
  let balances := accountBalances (entries.flatMap (·.lines))
  -- netBalance = credits - debits per account
  let netBalances := fun a =>
    let b := (balances.lookup a).getD (0, 0)
    b.2 - b.1
  let revenueLines := pnlSection .revenue id netBalances accounts
  -- Expenses are debit-normal: negate for display
  let expenseLines := pnlSection .expense (- ·) netBalances accounts
  let totalRevenue := (revenueLines.map (·.amount)).sum
  let totalExpenses := (expenseLines.map (·.amount)).sum
  { tenantId := request.tenantId, fromDate := request.fromDate, toDate := request.toDate,
    revenue := revenueLines, expenses := expenseLines, totalRevenue, totalExpenses,
    netIncome := totalRevenue - totalExpenses }

theorem sum_pnlSection (type : AccountType) (amount : Decimal → Decimal)
    (netBalances : Guid → Decimal) (accounts : List Account) :
    ((pnlSection type amount netBalances accounts).map (·.amount)).sum =
      ((accounts.filter (·.accountType = type)).map fun a => amount (netBalances a.id)).sum := by
  unfold pnlSection
  rw [((List.perm_insertionSort _ _).map PnLLine.amount).sum_eq,
    sum_map_filter_of_zero _ _ _ fun l _ hz => by simpa using hz, List.map_map]
  rfl

theorem mem_pnlSection {type : AccountType} {amount : Decimal → Decimal}
    {netBalances : Guid → Decimal} {accounts : List Account} {l : PnLLine} :
    l ∈ pnlSection type amount netBalances accounts ↔
      ∃ a ∈ accounts, a.accountType = type ∧ amount (netBalances a.id) ≠ 0 ∧
        l = ⟨a.code, a.name, amount (netBalances a.id)⟩ := by
  unfold pnlSection
  rw [(List.perm_insertionSort _ _).mem_iff, List.mem_filter, List.mem_map]
  simp only [List.mem_filter, decide_eq_true_eq]
  constructor
  · rintro ⟨⟨a, ⟨ha, ht⟩, rfl⟩, hne⟩
    exact ⟨a, ha, ht, hne, rfl⟩
  · rintro ⟨a, ha, ht, hne, rfl⟩
    exact ⟨⟨a, ⟨ha, ht⟩, rfl⟩, hne⟩

/-- Where no two accounts share a code, the lines of a section tell every account's amount. -/
theorem amount_of_pnlSection_eq {type : AccountType} {amount : Decimal → Decimal}
    {net net' : Guid → Decimal} {accounts : List Account}
    (hcodes : (accounts.map (·.code)).Nodup)
    (h : pnlSection type amount net accounts = pnlSection type amount net' accounts)
    {a : Account} (ha : a ∈ accounts) (ht : a.accountType = type) :
    amount (net a.id) = amount (net' a.id) := by
  have hkey : ∀ f g : Guid → Decimal,
      pnlSection type amount f accounts = pnlSection type amount g accounts →
        amount (f a.id) ≠ 0 → amount (f a.id) = amount (g a.id) := by
    intro f g hfg hne
    have hl := mem_pnlSection.mpr ⟨a, ha, ht, hne, rfl⟩
    rw [hfg] at hl
    obtain ⟨b, hb, -, -, he⟩ := mem_pnlSection.mp hl
    have hab : a = b := nodup_keys_inj hcodes ha hb (congrArg PnLLine.accountCode he)
    rw [← hab] at he
    exact congrArg PnLLine.amount he
  by_cases hne : amount (net a.id) = 0
  · by_cases hne' : amount (net' a.id) = 0
    · rw [hne, hne']
    · exact (hkey net' net h.symm hne').symm
  · exact hkey net net' h hne

/-- The two sections show minus the nets of the Revenue accounts, and the nets of the Expense
    accounts. -/
theorem getProfitAndLoss_sections (db : LedgerDb) (T : Guid) (f t : DateOnly) :
    let net := fun a => -Leg.netOn a (db.postedLegs T (some f) (some t))
    (getProfitAndLoss ⟨T, f, t⟩ db).revenue = pnlSection .revenue id net (db.getAllByTenant T) ∧
      (getProfitAndLoss ⟨T, f, t⟩ db).expenses =
        pnlSection .expense (- ·) net (db.getAllByTenant T) := by
  have hp := legsOf_getByTenant_perm db T (some f) (some t)
  have hnet : ∀ a : Guid, (fun b : Decimal × Decimal => b.2 - b.1)
      (((accountBalances ((db.getByTenant T (some f) (some t) (some .posted) none).flatMap
        (·.lines))).lookup a).getD (0, 0)) =
        -Leg.netOn a (db.postedLegs T (some f) (some t)) := by
    intro a
    rw [getD_accountBalances, Leg.debitOn_perm hp, Leg.creditOn_perm hp, Leg.netOn, neg_sub]
  unfold getProfitAndLoss
  dsimp only at hnet ⊢
  simp only [hnet, and_self]

/-- Net income is minus the nets of all Revenue and Expense accounts of the tenant. -/
theorem getProfitAndLoss_netIncome (db : LedgerDb) (T : Guid) (f t : DateOnly) :
    (getProfitAndLoss ⟨T, f, t⟩ db).netIncome =
      -(((db.getAllByTenant T).filter (·.IsIncome)).map
        fun a => Leg.netOn a.id (db.postedLegs T (some f) (some t))).sum := by
  obtain ⟨hr, he⟩ := getProfitAndLoss_sections db T f t
  have hni : (getProfitAndLoss ⟨T, f, t⟩ db).netIncome =
      ((getProfitAndLoss ⟨T, f, t⟩ db).revenue.map (·.amount)).sum -
        ((getProfitAndLoss ⟨T, f, t⟩ db).expenses.map (·.amount)).sum := rfl
  rw [hni, hr, he, sum_pnlSection, sum_pnlSection]
  simp only [id_eq, neg_neg, sum_map_filter, decide_eq_true_eq]
  rw [sub_eq_add_neg, ← sum_map_neg, ← sum_map_neg, ← List.sum_map_add]
  congr 1
  refine List.map_congr_left fun a _ => ?_
  by_cases hr : a.accountType = .revenue
  · simp [Account.IsIncome, hr]
  · by_cases he : a.accountType = .expense <;> simp [Account.IsIncome, hr, he]

/-! ## GET /balance-sheet -/

structure BalanceSheet where
  asOfDate : DateOnly
  assets : List TrialBalanceLine
  liabilities : List TrialBalanceLine
  equity : List TrialBalanceLine
  totalAssets : Decimal
  totalLiabilities : Decimal
  totalEquity : Decimal
deriving DecidableEq

/-- The endpoint, from the tenant of the request and the parsed `asOfDate`. -/
def getBalanceSheet (utcNow : DateTime) (tenantId : Guid) (asOfDate : Option DateOnly)
    (db : LedgerDb) : BalanceSheet :=
  let asOf := asOfDate.getD utcNow.date
  let tb := getTrialBalance utcNow ⟨tenantId, some asOf⟩ db
  let assets := tb.lines.filter (·.accountType = .asset)
  let liabilities := tb.lines.filter (·.accountType = .liability)
  let equity := tb.lines.filter (·.accountType = .equity)
  { asOfDate := asOf, assets, liabilities, equity,
    totalAssets := (assets.map (·.balance)).sum,
    totalLiabilities := (liabilities.map (·.balance)).sum,
    totalEquity := (equity.map (·.balance)).sum }

/-- The balance the three sections show for account `a`: 0 when they show no line. -/
def BalanceSheet.balanceOf (bs : BalanceSheet) (a : Guid) : Decimal :=
  (((bs.assets ++ bs.liabilities ++ bs.equity).find? (·.accountId = a)).map (·.balance)).getD 0

/-- The balance sheet shows the net of every Asset, Liability and Equity account. -/
theorem getBalanceSheet_balanceOf {db : LedgerDb} (utcNow : DateTime) {T : Guid} (D : DateOnly)
    {a : Account} (ha : a ∈ db.accounts) (hT : a.tenantId = T) (hb : a.IsBalanceSheet) :
    (getBalanceSheet utcNow T (some D) db).balanceOf a.id =
      Leg.netOn a.id (db.postedLegs T none (some D)) := by
  have hmem : ∀ l, l ∈ (getBalanceSheet utcNow T (some D) db).assets ++
      (getBalanceSheet utcNow T (some D) db).liabilities ++
      (getBalanceSheet utcNow T (some D) db).equity ↔
        l ∈ (getTrialBalance utcNow ⟨T, some D⟩ db).lines ∧ (l.accountType = .asset ∨
          l.accountType = .liability ∨ l.accountType = .equity) := by
    intro l
    simp only [getBalanceSheet, Option.getD_some, List.mem_append, List.mem_filter,
      decide_eq_true_eq]
    tauto
  refine balance_of_lines (f := fun x => Leg.netOn x (db.postedLegs T none (some D)))
    (fun l hl => balance_getTrialBalance ((hmem l).mp hl).1) fun hne => ?_
  obtain ⟨l, hl, hid, ht⟩ := shown_getTrialBalance utcNow ha hT hne
  exact ⟨l, (hmem l).mpr ⟨hl, ht ▸ hb⟩, hid⟩

/-- The lines of one type add up to the nets of the accounts of that type. -/
theorem sum_balance_getTrialBalance (utcNow : DateTime) (db : LedgerDb) (T : Guid) (D : DateOnly)
    (type : AccountType) :
    (((getTrialBalance utcNow ⟨T, some D⟩ db).lines.filter (·.accountType = type)).map
      (·.balance)).sum = (((db.getAllByTenant T).filter (·.accountType = type)).map
        fun a => Leg.netOn a.id (db.postedLegs T none (some D))).sum := by
  have hp := ((getTrialBalance_lines_perm utcNow db T D).filter (·.accountType = type)).map
    (·.balance)
  rw [hp.sum_eq, sum_map_filter, sum_map_filter_of_zero _ _ _ fun l hl hz => ?_, List.map_map,
    sum_map_filter]
  · refine congrArg List.sum (List.map_congr_left fun a _ => ?_)
    simp only [Function.comp_apply, trialBalanceLine_eq, decide_eq_true_eq]
  · -- a dropped line has balance 0
    obtain ⟨a, -, rfl⟩ := List.mem_map.mp hl
    rw [trialBalanceLine_eq] at hz ⊢
    simp only [decide_eq_false_iff_not, not_or, not_not] at hz
    simp only [Leg.netOn, hz.1, hz.2, sub_zero, ite_self]

/-- The three totals together are the nets of all balance sheet accounts of the tenant. -/
theorem getBalanceSheet_totals (utcNow : DateTime) (db : LedgerDb) (T : Guid) (D : DateOnly) :
    let bs := getBalanceSheet utcNow T (some D) db
    bs.totalAssets + bs.totalLiabilities + bs.totalEquity =
      (((db.getAllByTenant T).filter (·.IsBalanceSheet)).map
        fun a => Leg.netOn a.id (db.postedLegs T none (some D))).sum := by
  intro bs
  have hassets : bs.totalAssets = _ := sum_balance_getTrialBalance utcNow db T D .asset
  have hliabilities : bs.totalLiabilities = _ :=
    sum_balance_getTrialBalance utcNow db T D .liability
  have hequity : bs.totalEquity = _ := sum_balance_getTrialBalance utcNow db T D .equity
  rw [hassets, hliabilities, hequity]
  simp only [sum_map_filter, decide_eq_true_eq, ← List.sum_map_add]
  refine congrArg List.sum (List.map_congr_left fun a _ => ?_)
  cases ht : a.accountType <;> simp [Account.IsBalanceSheet, ht]

end SaasChassis.Ledger
