/-
  The reports agree with each other, as of any day and over any range.

  Each report is a total over the same posted legs, cut by date and grouped by account; the
  lemmas of the first section cut at a day, the one of the second adds the groups up. A line on
  another tenant's account is in some groupings and not in others, so `reports_reconcile` asks
  that every line of the tenant's entries is on one of its own accounts.
-/
import SaasChassis.Ledger.TrialBalance

namespace SaasChassis.Ledger

open SaasChassis.Lib

/-! ## Cutting at a day -/

theorem addDays_neg_one {d before : DateOnly} (h : addDays d (-1) = .ok before) :
    before.val + 1 = d.val := by
  unfold addDays at h
  dsimp only at h
  split at h
  · cases h
    simp only []
    omega
  · cases h

/-- Only the first day has none before it. -/
theorem eq_zero_of_addDays_neg_one {d : DateOnly} {ex : LedgerException}
    (h : addDays d (-1) = .error ex) : d = 0 := by
  unfold addDays at h
  dsimp only at h
  split at h
  · cases h
  · next hout =>
    refine Fin.ext ?_
    have hd := d.isLt
    show d.val = 0
    omega

/-- A total up to `E` is the total up to the day before `S` and the total of `[S, E]`. -/
theorem postedSum_cut (m : JournalEntry → Decimal) (T : Guid) {S E before : DateOnly}
    (hS : before.val + 1 = S.val) (hSE : S ≤ E) (entries : List JournalEntry) :
    postedSum m T none (some E) entries =
      postedSum m T none (some before) entries + postedSum m T (some S) (some E) entries := by
  unfold postedSum
  rw [← List.sum_map_add]
  refine congrArg List.sum (List.map_congr_left fun e _ => ?_)
  simp only [LedgerDb.Matches, Option.mem_def, Option.some.injEq, forall_eq', reduceCtorEq,
    false_implies, implies_true, true_and]
  by_cases hb : e.entryDate ≤ before
  · -- dated before `S`
    have hE : e.entryDate ≤ E := by
      rw [Fin.le_def] at hb hSE ⊢
      omega
    have hS' : ¬S ≤ e.entryDate := by
      rw [Fin.le_def] at hb ⊢
      omega
    simp only [hb, hE, hS', true_and, false_and, and_false, if_false, add_zero]
  · have hS' : S ≤ e.entryDate := by
      rw [Fin.le_def] at hb ⊢
      omega
    simp only [hb, hS', false_and, true_and, and_false, if_false, zero_add]

/-- Everything up to `E` lies between the first day and `E`. -/
theorem postedSum_first (m : JournalEntry → Decimal) (T : Guid) (E : DateOnly)
    (entries : List JournalEntry) :
    postedSum m T (some 0) (some E) entries = postedSum m T none (some E) entries := by
  unfold postedSum
  refine congrArg List.sum (List.map_congr_left fun e _ => ?_)
  simp [LedgerDb.Matches]

/-- The balance of `a` the trial balance shows as of the day before `S`; before the first day
    nothing is dated. -/
def balanceBefore (now : DateTime) (T : Guid) (S : DateOnly) (db : LedgerDb) (a : Guid) :
    Decimal :=
  match addDays S (-1) with
  | .ok before => (getTrialBalance now ⟨T, some before⟩ db).balanceOf a
  | .error _ => 0

theorem balanceBefore_add {db : LedgerDb} (now : DateTime) {T : Guid} {S E : DateOnly}
    (hSE : S ≤ E) {a : Account} (ha : a ∈ db.accounts) (hT : a.tenantId = T) :
    balanceBefore now T S db a.id + Leg.netOn a.id (db.postedLegs T (some S) (some E)) =
      Leg.netOn a.id (db.postedLegs T none (some E)) := by
  unfold balanceBefore
  split
  · next before hb =>
    rw [getTrialBalance_balanceOf now before ha hT, netOn_postedLegs, netOn_postedLegs,
      netOn_postedLegs, ← postedSum_cut _ T (addDays_neg_one hb) hSE]
  · next ex hb =>
    rw [eq_zero_of_addDays_neg_one hb, netOn_postedLegs, netOn_postedLegs, postedSum_first,
      zero_add]

/-! ## Adding the accounts up -/

/-- Every line of the entries of `T` is on an account of `T`. -/
def NamesOwn (db : LedgerDb) (T : Guid) : Prop :=
  ∀ e ∈ db.entries, e.tenantId = T → ∀ l ∈ e.lines,
    ∃ a ∈ db.accounts, a.id = l.accountId ∧ a.tenantId = T

/-- The nets of all accounts of the tenant cancel: the posted entries balance, and their lines
    are all on these accounts. -/
theorem sum_netOn_accounts {db : LedgerDb} (h : Reachable db) {T : Guid} (hown : NamesOwn db T)
    (f t : Option DateOnly) :
    ((db.getAllByTenant T).map fun a => Leg.netOn a.id (db.postedLegs T f t)).sum = 0 := by
  have hs := reachable_schema h
  have hall : ∀ l ∈ db.postedLegs T f t, l.account ∈ (db.getAllByTenant T).map (·.id) := by
    intro l hl
    obtain ⟨e, he, hm, hl⟩ := mem_postedLegs.mp hl
    obtain ⟨k, hk, rfl⟩ := List.mem_map.mp hl
    obtain ⟨a, ha, hid, hT⟩ := hown e he hm.1 k hk
    exact List.mem_map.mpr ⟨a, LedgerDb.mem_getAllByTenant.mpr ⟨ha, hT⟩, hid⟩
  have hkeep : (db.postedLegs T f t).filter (·.account ∈ (db.getAllByTenant T).map (·.id)) =
      db.postedLegs T f t := List.filter_eq_self.mpr fun l hl => decide_eq_true (hall l hl)
  have hids := LedgerDb.getAllByTenant_ids_nodup hs T
  have hd := Leg.sum_debitOn hids (db.postedLegs T f t)
  have hc := Leg.sum_creditOn hids (db.postedLegs T f t)
  rw [hkeep, List.map_map] at hd hc
  calc ((db.getAllByTenant T).map fun a => Leg.netOn a.id (db.postedLegs T f t)).sum
      = Leg.debits (db.postedLegs T f t) - Leg.credits (db.postedLegs T f t) := by
        rw [← hd, ← hc, sub_eq_add_neg, ← sum_map_neg, ← List.sum_map_add]
        refine congrArg List.sum (List.map_congr_left fun a _ => ?_)
        rw [Function.comp_apply, Function.comp_apply, ← sub_eq_add_neg]
        rfl
    _ = 0 := by rw [postedLegs_balanced (posted_balanced h) T f t, sub_self]

/-! ## The reports -/

/-- The answer for account `a` as of `E` is the trial balance's line, and zero throughout exactly
    when there is no line. -/
def AgreesWithLine (tb : TrialBalance) (a : Guid) (b : AccountBalance) : Prop :=
  (∀ l ∈ tb.lines, l.accountId = a →
    b.totalDebits = l.totalDebits ∧ b.totalCredits = l.totalCredits ∧ b.balance = l.balance) ∧
  ((∀ l ∈ tb.lines, l.accountId ≠ a) ↔
    b.totalDebits = 0 ∧ b.totalCredits = 0 ∧ b.balance = 0)

theorem accountBalance_agrees {db : LedgerDb} (hs : db.Schema) (now : DateTime) {T : Guid}
    (E : DateOnly) {a : Account} (ha : a ∈ db.accounts) (hT : a.tenantId = T) :
    ∃ b, getAccountBalance now ⟨T, a.id, some E⟩ db = .ok b ∧
      AgreesWithLine (getTrialBalance now ⟨T, some E⟩ db) a.id b := by
  obtain ⟨b, hb, hd, hc, hn⟩ := getAccountBalance_ok now T E ha
  refine ⟨b, hb, ?_, ?_, ?_⟩
  · intro l hl hid
    obtain ⟨c, hc', -, -, rfl⟩ := mem_lines_getTrialBalance.mp hl
    have hac : c = a := nodup_keys_inj hs.accounts_pkey hc' ha hid
    subst hac
    exact ⟨hd, hc, hn⟩
  · intro hnone
    have hz : ¬(Leg.debitOn a.id (db.postedLegs T none (some E)) ≠ 0 ∨
        Leg.creditOn a.id (db.postedLegs T none (some E)) ≠ 0) := fun hmoved =>
      hnone _ (mem_lines_getTrialBalance.mpr ⟨a, ha, hT, hmoved, rfl⟩) rfl
    simp only [not_or, not_not] at hz
    exact ⟨hd.trans hz.1, hc.trans hz.2, by rw [hn, Leg.netOn, hz.1, hz.2, sub_zero]⟩
  · rintro ⟨hd0, hc0, -⟩ l hl hid
    obtain ⟨c, -, -, hmoved, rfl⟩ := mem_lines_getTrialBalance.mp hl
    rw [show c.id = a.id from hid, ← hd, ← hc] at hmoved
    exact hmoved.elim (· hd0) (· hc0)

/-- Net income over `[S, E]` is what the trial balance of the Revenue and Expense accounts lost
    since the day before `S`. -/
theorem netIncome_eq_balances {db : LedgerDb} (now : DateTime) (T : Guid) {S E : DateOnly}
    (hSE : S ≤ E) :
    (getProfitAndLoss ⟨T, S, E⟩ db).netIncome =
      (((db.getAllByTenant T).filter (·.IsIncome)).map fun a =>
        balanceBefore now T S db a.id -
          (getTrialBalance now ⟨T, some E⟩ db).balanceOf a.id).sum := by
  rw [getProfitAndLoss_netIncome, ← sum_map_neg]
  refine congrArg List.sum (List.map_congr_left fun a ha => ?_)
  obtain ⟨hmem, hT⟩ := LedgerDb.mem_getAllByTenant.mp (List.mem_of_mem_filter ha)
  rw [getTrialBalance_balanceOf now E hmem hT, ← balanceBefore_add now hSE hmem hT,
    sub_add_cancel_left]

/-- The balance sheet as of `E` adds up to the net income earned since the first day. -/
theorem balanceSheet_totals_eq {db : LedgerDb} (h : Reachable db) (now : DateTime) {T : Guid}
    (hown : NamesOwn db T) (E : DateOnly) :
    let bs := getBalanceSheet now T (some E) db
    bs.totalAssets + bs.totalLiabilities + bs.totalEquity =
      (getProfitAndLoss ⟨T, 0, E⟩ db).netIncome := by
  have hbs := getBalanceSheet_totals now db T E
  have hzero := sum_netOn_accounts h hown none (some E)
  dsimp only at hbs ⊢
  have hsplit : ((db.getAllByTenant T).map
      fun a => Leg.netOn a.id (db.postedLegs T none (some E))).sum =
      (((db.getAllByTenant T).filter (·.IsBalanceSheet)).map
        fun a => Leg.netOn a.id (db.postedLegs T none (some E))).sum +
      (((db.getAllByTenant T).filter (·.IsIncome)).map
        fun a => Leg.netOn a.id (db.postedLegs T none (some E))).sum := by
    rw [sum_map_filter, sum_map_filter, ← List.sum_map_add]
    refine congrArg List.sum (List.map_congr_left fun a _ => ?_)
    by_cases hi : a.IsIncome <;> simp [hi, Account.isBalanceSheet_iff]
  have hfirst : ∀ a : Account, Leg.netOn a.id (db.postedLegs T (some 0) (some E)) =
      Leg.netOn a.id (db.postedLegs T none (some E)) := by
    intro a
    rw [netOn_postedLegs, netOn_postedLegs, postedSum_first]
  rw [hbs, getProfitAndLoss_netIncome]
  simp only [hfirst]
  rw [hsplit] at hzero
  exact eq_neg_of_add_eq_zero_left hzero

/-- The account balance, the trial balance, the profit and loss report and the balance sheet of
    `T` tell the same story. -/
structure Reconciled (db : LedgerDb) (T : Guid) (S E : DateOnly) (now : DateTime) : Prop where
  account_line : ∀ a ∈ db.accounts, a.tenantId = T →
    ∃ b, getAccountBalance now ⟨T, a.id, some E⟩ db = .ok b ∧
      AgreesWithLine (getTrialBalance now ⟨T, some E⟩ db) a.id b
  net_income : (getProfitAndLoss ⟨T, S, E⟩ db).netIncome =
    (((db.getAllByTenant T).filter (·.IsIncome)).map fun a =>
      balanceBefore now T S db a.id - (getTrialBalance now ⟨T, some E⟩ db).balanceOf a.id).sum
  balance_sheet : (getBalanceSheet now T (some E) db).totalAssets +
    (getBalanceSheet now T (some E) db).totalLiabilities +
    (getBalanceSheet now T (some E) db).totalEquity = (getProfitAndLoss ⟨T, 0, E⟩ db).netIncome

/-- In every reachable state whose lines stay with their tenant the reports reconcile. -/
theorem reports_reconcile {db : LedgerDb} (h : Reachable db) {T : Guid} (hown : NamesOwn db T)
    {S E : DateOnly} (hSE : S ≤ E) (now : DateTime) : Reconciled db T S E now :=
  ⟨fun _ ha hT => accountBalance_agrees (reachable_schema h) now E ha hT,
    netIncome_eq_balances now T hSE, balanceSheet_totals_eq h now hown E⟩

/-- The ledger of one sale of 100 on day 10, over days 8 to 15. -/
theorem reports_reconcile_sample : Reconciled (Sample.ledger []) 1 8 15 ⟨30, 0⟩ := by
  have hown : NamesOwn (Sample.ledger []) 1 := by
    unfold NamesOwn
    decide +kernel
  exact reports_reconcile (Sample.ledger_reachable []) hown (by decide) ⟨30, 0⟩

end SaasChassis.Ledger
