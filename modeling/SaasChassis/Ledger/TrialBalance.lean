/-
  When the trial balance balances and loses nothing.

  The report joins the totals by account with the tenant's own accounts, while a line may name
  any account that exists. `trial_balance_complete_iff`: in a reachable state the report is
  complete and balanced exactly when every line of the tenant's posted entries up to the date
  names one of the tenant's accounts.
-/
import SaasChassis.Ledger.Invariants
import SaasChassis.Ledger.Reports

namespace SaasChassis.Ledger

open SaasChassis.Lib

/-- The lines of tenant `T`'s posted entries dated up to `D`. -/
def postedLinesUpTo (db : LedgerDb) (T : Guid) (D : DateOnly) : List JournalLine :=
  (db.entries.filter fun e => e.tenantId = T ∧ e.status = .posted ∧ e.entryDate ≤ D).flatMap
    (·.lines)

/-- The trial balance of `T` as of `D` balances, and each total is that of the posted lines. -/
def TrialBalanceComplete (db : LedgerDb) (T : Guid) (D : DateOnly) : Prop :=
  ∀ now, let tb := getTrialBalance now ⟨T, some D⟩ db
    tb.totalDebits = tb.totalCredits ∧
      tb.totalDebits = ((postedLinesUpTo db T D).map (·.debitAmount)).sum ∧
      tb.totalCredits = ((postedLinesUpTo db T D).map (·.creditAmount)).sum

theorem legsOf_postedLinesUpTo (db : LedgerDb) (T : Guid) (D : DateOnly) :
    legsOf (postedLinesUpTo db T D) = db.postedLegs T none (some D) := by
  rw [legsOf, postedLinesUpTo, List.map_flatMap, LedgerDb.postedLegs]
  refine congrArg (List.flatMap _) (List.filter_congr fun e _ => ?_)
  rw [Bool.eq_iff_iff]
  simp only [LedgerDb.Matches, decide_eq_true_eq, Option.mem_def, Option.some.injEq,
    forall_eq', reduceCtorEq, false_implies, implies_true, true_and]
  exact and_congr_right fun _ => and_comm

theorem sum_debitAmount (lines : List JournalLine) :
    (lines.map (·.debitAmount)).sum = Leg.debits (legsOf lines) := by
  rw [Leg.debits, legsOf, List.map_map]
  rfl

theorem sum_creditAmount (lines : List JournalLine) :
    (lines.map (·.creditAmount)).sum = Leg.credits (legsOf lines) := by
  rw [Leg.credits, legsOf, List.map_map]
  rfl

/-- The posted lines of any tenant and range balance as a whole. -/
theorem postedLegs_balanced {db : LedgerDb} (hi : PostedBalanced db) (T : Guid)
    (f t : Option DateOnly) :
    Leg.debits (db.postedLegs T f t) = Leg.credits (db.postedLegs T f t) := by
  rw [LedgerDb.postedLegs, Leg.debits_flatMap, Leg.credits_flatMap]
  congr 1
  refine List.map_congr_left fun e he => ?_
  obtain ⟨hmem, hm⟩ := List.mem_filter.mp he
  have hb := (hi e hmem (Or.inl ((of_decide_eq_true hm).2.2.2 _ rfl))).1
  rwa [JournalEntry.totalDebits_eq, JournalEntry.totalCredits_eq] at hb

theorem complete_iff_own_lines {db : LedgerDb} (h : Reachable db) (T : Guid) (D : DateOnly) :
    TrialBalanceComplete db T D ↔
      ∀ l ∈ postedLinesUpTo db T D, ∃ a ∈ db.accounts, a.id = l.accountId ∧ a.tenantId = T := by
  have hs := reachable_schema h
  have hone : ∀ l ∈ db.postedLegs T none (some D), l.OneSided := by
    intro l hl
    obtain ⟨e, he, -, hl⟩ := mem_postedLegs.mp hl
    obtain ⟨k, hk, rfl⟩ := List.mem_map.mp hl
    exact hs.chk_debit_or_credit e he k hk
  have hjoin := Leg.join_lossless_iff (LedgerDb.getAllByTenant_ids_nodup hs T) hone
  have hbal := postedLegs_balanced (posted_balanced h) T none (some D)
  have hcond : (∀ l ∈ db.postedLegs T none (some D),
      l.account ∈ (db.getAllByTenant T).map (·.id)) ↔
      ∀ l ∈ postedLinesUpTo db T D, ∃ a ∈ db.accounts, a.id = l.accountId ∧ a.tenantId = T := by
    rw [← legsOf_postedLinesUpTo, legsOf, List.forall_mem_map]
    simp only [List.mem_map, LedgerDb.mem_getAllByTenant]
    constructor
    · intro hl l hmem
      obtain ⟨a, ⟨ha, hT⟩, hid⟩ := hl l hmem
      exact ⟨a, ha, hid, hT⟩
    · intro hl l hmem
      obtain ⟨a, ha, hid, hT⟩ := hl l hmem
      exact ⟨a, ⟨ha, hT⟩, hid⟩
  rw [← hcond, ← hjoin]
  simp only [TrialBalanceComplete, sum_debitAmount, sum_creditAmount, legsOf_postedLinesUpTo]
  constructor
  · intro hc
    obtain ⟨-, hd, hcr⟩ := hc ⟨0, 0⟩
    obtain ⟨ed, ec⟩ := getTrialBalance_totals ⟨0, 0⟩ db T D
    exact ⟨ed.symm.trans hd, ec.symm.trans hcr⟩
  · rintro ⟨hd, hcr⟩ now
    obtain ⟨ed, ec⟩ := getTrialBalance_totals now db T D
    refine ⟨?_, ed.trans hd, ec.trans hcr⟩
    rw [ed, ec, hd, hcr, hbal]

/-! ## Runs that name own accounts only -/

/-- Every line is on an account of its entry's tenant. -/
def OwnAccounts (db : LedgerDb) : Prop :=
  ∀ e ∈ db.entries, ∀ l ∈ e.lines, ∃ a ∈ db.accounts, a.id = l.accountId ∧ a.tenantId = e.tenantId

/-- A created entry names accounts of its own tenant; other commands are free. -/
def NamesOwnAccounts (db : LedgerDb) (i : Env × LedgerCommand) : Prop :=
  match i.2 with
  | .createJournalEntry c =>
    ∀ l ∈ c.lines, ∃ a ∈ db.accounts, a.id = l.accountId ∧ a.tenantId = c.tenantId
  | _ => True

/-- No change set deletes an account or moves it to another tenant. -/
theorem account_after (cs : ChangeSet) {db : LedgerDb} {a : Account} (ha : a ∈ db.accounts) :
    ∃ b ∈ (cs.apply db).accounts, b.id = a.id ∧ b.tenantId = a.tenantId := by
  have hcols : ∀ (ms : List (Account × Account)) (rows : List Account),
      (ms.foldl (fun rows m => updateKey (·.id) m.1.id (m.1.writeChanges m.2) rows) rows).map
        (fun b => (b.id, b.tenantId)) = rows.map fun b => (b.id, b.tenantId) := by
    intro ms
    induction ms with
    | nil => exact fun _ => rfl
    | cons m ms ih =>
      intro rows
      rw [List.foldl_cons, ih]
      refine map_updateKey (fun b : Account => (b.id, b.tenantId)) ?_ rows
      exact fun b => rfl
  have hmem : (a.id, a.tenantId) ∈ (cs.apply db).accounts.map fun b => (b.id, b.tenantId) := by
    simp only [ChangeSet.apply, List.map_append, hcols]
    exact List.mem_append_left _ (List.mem_map_of_mem ha)
  obtain ⟨b, hb, he⟩ := List.mem_map.mp hmem
  exact ⟨b, hb, congrArg Prod.fst he, congrArg Prod.snd he⟩

open CloseFiscalPeriodHandler in
theorem own_of_income {db : LedgerDb} {T : Guid} {id : Guid}
    (h : id ∈ (incomeAccounts (db.getAllByTenant T)).map (·.id)) :
    ∃ a ∈ db.accounts, a.id = id ∧ a.tenantId = T := by
  obtain ⟨a, ha, rfl⟩ := List.mem_map.mp h
  obtain ⟨hmem, hT⟩ := LedgerDb.mem_getAllByTenant.mp (List.mem_of_mem_filter ha)
  exact ⟨a, hmem, rfl, hT⟩

open CloseFiscalPeriodHandler in
theorem own_of_balanceSheet {db : LedgerDb} {T : Guid} {id : Guid}
    (h : id ∈ (balanceSheetAccounts (db.getAllByTenant T)).map (·.id)) :
    ∃ a ∈ db.accounts, a.id = id ∧ a.tenantId = T := by
  obtain ⟨a, ha, rfl⟩ := List.mem_map.mp h
  obtain ⟨hmem, hT⟩ := LedgerDb.mem_getAllByTenant.mp (List.mem_of_mem_filter ha)
  exact ⟨a, hmem, rfl, hT⟩

/-- The lines a command adds are on accounts of the entry's tenant. -/
theorem added_own {env : Env} {cmd : LedgerCommand} {db : LedgerDb} {cs : ChangeSet}
    (hs : db.Schema) (hi : OwnAccounts db) (w : JournalWrite env db cmd cs)
    (hc : NamesOwnAccounts db (env, cmd)) :
    ∀ e ∈ cs.addedEntries, ∀ l ∈ e.legs,
      ∃ a ∈ db.accounts, a.id = l.account ∧ a.tenantId = e.tenantId := by
  cases w with
  | untouched ha hm => simp [ha]
  | created c hv =>
    intro e he l hl
    rw [List.mem_singleton.mp he, CreateJournalEntryHandler.newEntry_eq, JournalEntry.legs,
      List.map_map] at hl
    obtain ⟨q, hq, rfl⟩ := List.mem_map.mp hl
    rw [List.mem_singleton.mp he, CreateJournalEntryHandler.newEntry_eq]
    exact hc q hq
  | posted c entry hmem hid hd hb => simp
  | reversed c entry reversal current hmem hid hr =>
    intro e he l hl
    rw [List.mem_singleton.mp he] at hl ⊢
    obtain ⟨-, -, -, -, hT, -⟩ := JournalEntry.createReversal_ok hr
    rw [legs_reversal hr, JournalEntry.legs, List.map_map] at hl
    obtain ⟨k, hk, rfl⟩ := List.mem_map.mp hl
    rw [hT]
    exact hi entry hmem k hk
  | closed c _ p =>
    intro e he l hl
    obtain ⟨-, hT, -, hlegs | hlegs⟩ := p.mem_addedEntries hs he
    · rw [hlegs] at hl
      rw [hT]
      rcases List.mem_append.mp hl with hl | hl
      · exact own_of_income (Leg.account_of_mem_carryAll hl)
      · rw [Leg.account_of_mem_carry hl]
        obtain ⟨hmem, hT', -⟩ := p.retainedSurplus_spec
        exact ⟨p.retainedSurplus, hmem, rfl, hT'⟩
    · rw [hlegs] at hl
      rw [hT]
      exact own_of_balanceSheet (Leg.account_of_mem_carryAll hl)

/-- A step that meets the condition keeps every line on an own account. -/
theorem ownAccounts_step {db : LedgerDb} {i : Env × LedgerCommand} (hs : db.Schema)
    (hi : OwnAccounts db) (hc : NamesOwnAccounts db i) : OwnAccounts (step db i) := by
  rcases step_cases db i with he | ⟨cs, hcs, hsave⟩
  · rwa [he]
  · obtain ⟨he, -⟩ := saveChanges_ok hsave
    have w := changes_journal hcs
    rw [he]
    intro e hmem l hl
    have hold : ∃ a ∈ db.accounts, a.id = l.accountId ∧ a.tenantId = e.tenantId := by
      rcases lines_after hs w hmem with ⟨q, hq, hT, hlines⟩ | hadded
      · rw [hT]
        exact hi q hq l (hlines ▸ hl)
      · obtain ⟨x, hx, rfl⟩ := List.mem_map.mp hadded
        obtain ⟨k, hk, rfl⟩ := List.mem_map.mp hl
        exact added_own hs hi w hc x hx k.leg (List.mem_map_of_mem hk)
    obtain ⟨a, ha, hid, hT⟩ := hold
    obtain ⟨b, hb, hid', hT'⟩ := account_after cs ha
    exact ⟨b, hb, hid'.trans hid, hT'.trans hT⟩

theorem ownAccounts_run (templates : List AccountTemplate) {cmds : List (Env × LedgerCommand)}
    (hc : StepsSatisfy step NamesOwnAccounts (LedgerDb.seeded templates) cmds) :
    OwnAccounts (run step (LedgerDb.seeded templates) cmds) := by
  refine (run_invariant_of (I := fun db => Reachable db ∧ OwnAccounts db) ?_ ?_ hc).2
  · rintro db i ⟨hr, hi⟩ hci
    exact ⟨hr.step i, ownAccounts_step (reachable_schema hr) hi hci⟩
  · exact ⟨⟨templates, [], rfl⟩, fun _ he => absurd he List.not_mem_nil⟩

/-- In a reachable state the trial balance is complete and balanced exactly when every posted
    line it covers is on an account of the tenant; so it is after every run whose created
    entries name accounts of their own tenant. -/
theorem trial_balance_complete_iff {db : LedgerDb} (h : Reachable db) (T : Guid) (D : DateOnly) :
    (TrialBalanceComplete db T D ↔
      ∀ l ∈ postedLinesUpTo db T D, ∃ a ∈ db.accounts, a.id = l.accountId ∧ a.tenantId = T) ∧
    ∀ templates cmds, db = run step (LedgerDb.seeded templates) cmds →
      StepsSatisfy step NamesOwnAccounts (LedgerDb.seeded templates) cmds →
        TrialBalanceComplete db T D := by
  refine ⟨complete_iff_own_lines h T D, fun templates cmds hrun hc => ?_⟩
  refine (complete_iff_own_lines h T D).mpr fun l hl => ?_
  obtain ⟨e, he, hl⟩ := List.mem_flatMap.mp hl
  obtain ⟨hmem, he⟩ := List.mem_filter.mp he
  rw [← (of_decide_eq_true he).1]
  rw [hrun] at hmem ⊢
  exact ownAccounts_run templates hc e hmem l hl

namespace Sample

/-- Tenant 2's account 104, and a posted entry of tenant 1 with a line on it. -/
def foreignLine : List (Env × LedgerCommand) :=
  [account 104 2 "1001" .asset, draft 202 1 11 101 104 50, post 202]

end Sample

theorem trial_balance_complete_iff_sample :
    (TrialBalanceComplete (Sample.ledger []) 1 15 ↔
      ∀ l ∈ postedLinesUpTo (Sample.ledger []) 1 15,
        ∃ a ∈ (Sample.ledger []).accounts, a.id = l.accountId ∧ a.tenantId = 1) ∧
    TrialBalanceComplete (Sample.ledger []) 1 15 := by
  have hall := trial_balance_complete_iff (Sample.ledger_reachable []) 1 15
  refine ⟨hall.1, hall.2 [] (Sample.setup ++ []) rfl ?_⟩
  simp only [Sample.setup, List.append_nil, StepsSatisfy, NamesOwnAccounts, Sample.account,
    Sample.draft, Sample.post, true_and, and_true]
  decide +kernel

/-- A line on another tenant's account drops out of the trial balance: 150 is debited, 100
    credited, while GetAccountBalance still finds the missing 50. -/
theorem foreign_line_vanishes :
    let db := Sample.ledger Sample.foreignLine
    Reachable db ∧ ¬TrialBalanceComplete db 1 15 ∧
      (getTrialBalance ⟨30, 0⟩ ⟨1, some 15⟩ db).totalDebits = 150 ∧
      (getTrialBalance ⟨30, 0⟩ ⟨1, some 15⟩ db).totalCredits = 100 ∧
      (getAccountBalance ⟨30, 0⟩ ⟨1, 104, some 15⟩ db).map (·.totalCredits) = .ok 50 := by
  refine ⟨Sample.ledger_reachable _, fun h => ?_, by decide +kernel, by decide +kernel,
    by decide +kernel⟩
  exact absurd (h ⟨30, 0⟩).1 (by decide +kernel)

end SaasChassis.Ledger
