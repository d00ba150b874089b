/-
  `CloseFiscalPeriodHandler.Handle`, step by step as the source numbers them, and what its
  closing and opening entries are.

  `closingEntry_legs`, `openingEntry_legs`: both entries are sweeps (`Leg.carryAll`) of the nets
  of the posted lines of the period, taken before the closing entry exists. The closing entry
  always balances (`closingEntry_isBalanced`); the opening entry balances exactly when the nets
  it carries add up to zero (`openingEntry_isBalanced_iff`).
-/
import SaasChassis.Ledger.Balances
import SaasChassis.Ledger.Commands

namespace SaasChassis.Ledger

open SaasChassis.Lib

structure CloseFiscalPeriodCommand where
  periodId : Guid
  tenantId : Guid
  closedByUserId : Guid

namespace CloseFiscalPeriodHandler

/-- The period, refused unless it is open. -/
def loadPeriod (request : CloseFiscalPeriodCommand) (db : LedgerDb) :
    Except LedgerException FiscalPeriod :=
  match db.getPeriodById request.periodId with
  | none =>
    let id := request.periodId
    .error (.invalidOperation s!"Fiscal period {id} not found.")
  | some period =>
    if period.status ≠ .opened then .error (.closedPeriod request.periodId) else .ok period

/-- 1. The entries in the period's date range. -/
def periodEntries (request : CloseFiscalPeriodCommand) (period : FiscalPeriod) (db : LedgerDb) :
    List JournalEntry :=
  db.getByTenant request.tenantId (some period.startDate) (some period.endDate) none none

/-- 2. No draft entries remain. -/
def checkNoDrafts (periodEntries : List JournalEntry) : Except LedgerException Unit :=
  let draftCount := periodEntries.countP (·.status = .draft)
  if 0 < draftCount then
    .error (.invalidOperation s!"Cannot close period: {draftCount} unposted draft entries remain.")
  else .ok ()

/-- 3. The lines of the posted entries. -/
def postedLines (periodEntries : List JournalEntry) : List JournalLine :=
  (periodEntries.filter (·.status = .posted)).flatMap (·.lines)

/-- 4. The Retained Surplus account. -/
def findRetainedSurplus (allAccounts : List Account) : Except LedgerException Account :=
  match allAccounts.find? fun a => a.code = "3002" ∧ a.isActive with
  | some a => .ok a
  | none => .error (.invalidOperation
      "Retained Surplus account (3002) not found. Cannot close period.")

/-- 5. One turn of the loop that zeroes Revenue and Expense accounts: the closing entry and the
    net income so far. -/
def closeAccount (balances : List (Guid × (Decimal × Decimal))) (acc : JournalEntry × Decimal)
    (account : Account) : JournalEntry × Decimal :=
  match balances.lookup account.id with
  | none => acc
  | some balance =>
    let name := account.name
    let netBalance := balance.2 - balance.1
    let closingEntry :=
      if 0 < netBalance then acc.1.addLine account.id netBalance 0 (some s!"Close {name}")
      else if netBalance < 0 then acc.1.addLine account.id 0 (-netBalance) (some s!"Close {name}")
      else acc.1
    (closingEntry, acc.2 + netBalance)

/-- The accounts step 5 loops over. -/
def incomeAccounts (allAccounts : List Account) : List Account :=
  allAccounts.filter fun a => a.isActive ∧ a.IsIncome

/-- The accounts step 8 loops over. -/
def balanceSheetAccounts (allAccounts : List Account) : List Account :=
  allAccounts.filter fun a => a.isActive ∧ a.IsBalanceSheet

/-- 6. Net income or loss to Retained Surplus. -/
def postNetIncome (name : String) (retainedSurplus : Account) (acc : JournalEntry × Decimal) :
    JournalEntry :=
  if 0 < acc.2 then acc.1.addLine retainedSurplus.id 0 acc.2 (some s!"Net Income: {name}")
  else if acc.2 < 0 then
    acc.1.addLine retainedSurplus.id (-acc.2) 0 (some s!"Net Loss: {name}")
  else acc.1

/-- 5 and 6. The closing entry. -/
def closingEntry (newGuid : Guid) (request : CloseFiscalPeriodCommand) (period : FiscalPeriod)
    (lines : List JournalLine) (allAccounts : List Account) (retainedSurplus : Account) :
    JournalEntry :=
  let name := period.name
  postNetIncome name retainedSurplus
    ((incomeAccounts allAccounts).foldl (closeAccount (accountBalances lines))
      (JournalEntry.create newGuid request.tenantId period.endDate
        s!"Period Closing Entry: {name}" none (some request.periodId) (some "period_close"), 0))

/-- 8. One turn of the loop over the balance sheet accounts. -/
def openAccount (balances : List (Guid × (Decimal × Decimal))) (openingEntry : JournalEntry)
    (account : Account) : JournalEntry :=
  match balances.lookup account.id with
  | none => openingEntry
  | some balance =>
    let text := some s!"Opening balance: {account.name}"
    let netBalance := balance.1 - balance.2
    if account.accountType = .asset then
      if 0 < netBalance then openingEntry.addLine account.id netBalance 0 text
      else if netBalance < 0 then openingEntry.addLine account.id 0 (-netBalance) text
      else openingEntry
    else
      let creditNet := balance.2 - balance.1
      if 0 < creditNet then openingEntry.addLine account.id 0 creditNet text
      else if creditNet < 0 then openingEntry.addLine account.id (-creditNet) 0 text
      else openingEntry

/-- 8. The opening balance entry. -/
def openingEntry (newGuid : Guid) (request : CloseFiscalPeriodCommand) (period : FiscalPeriod)
    (nextPeriodStart : DateOnly) (lines : List JournalLine) (allAccounts : List Account) :
    JournalEntry :=
  let name := period.name
  (balanceSheetAccounts allAccounts).foldl (openAccount (accountBalances lines))
    (JournalEntry.create newGuid request.tenantId nextPeriodStart s!"Opening Balance: {name}" none
      none (some "period_open"))

/-- The closing entry is posted and added when it has lines. -/
def postClosing (entry : JournalEntry) (userId : Guid) (utcNow : DateTime) :
    Except LedgerException (List JournalEntry) :=
  if entry.lines = [] then .ok [] else (entry.post userId utcNow).map ([·])

/-- The opening entry is posted and added when it has lines and balances. -/
def postOpening (entry : JournalEntry) (userId : Guid) (utcNow : DateTime) :
    Except LedgerException (List JournalEntry) :=
  if entry.lines ≠ [] ∧ entry.IsBalanced then (entry.post userId utcNow).map ([·]) else .ok []

/-- The period is linked to the opening entry when there is one. -/
def linkOpening (period : FiscalPeriod) (opening : List JournalEntry) : FiscalPeriod :=
  match opening with
  | [] => period
  | o :: _ => period.setOpeningBalanceEntry o.id

def prepare (env : Env) (request : CloseFiscalPeriodCommand) (db : LedgerDb) :
    Except LedgerException (ChangeSet × Unit) := do
  let period ← loadPeriod request db
  let entries := periodEntries request period db
  checkNoDrafts entries
  let lines := postedLines entries
  let allAccounts := db.getAllByTenant request.tenantId
  let retainedSurplus ← findRetainedSurplus allAccounts
  let closing ← postClosing
    (closingEntry (env.newGuid 0) request period lines allAccounts retainedSurplus)
    request.closedByUserId env.utcNow
  -- 7. Close the period
  let closed ← period.close request.closedByUserId env.utcNow
  let nextPeriodStart ← addDays period.endDate 1
  let opening ← postOpening
    (openingEntry (env.newGuid 1) request period nextPeriodStart lines allAccounts)
    request.closedByUserId env.utcNow
  .ok ({ addedEntries := closing ++ opening,
         modifiedPeriods := [(period, linkOpening closed opening)] }, ())

def handle (env : Env) (request : CloseFiscalPeriodCommand) (db : LedgerDb) :
    LedgerDb × Except LedgerException Unit :=
  commit env true (prepare env request db) db

theorem loadPeriod_ok {request : CloseFiscalPeriodCommand} {db : LedgerDb} {p : FiscalPeriod}
    (h : loadPeriod request db = .ok p) :
    p ∈ db.periods ∧ p.id = request.periodId ∧ p.status = .opened := by
  unfold loadPeriod at h
  split at h
  · cases h
  · next hf =>
    obtain ⟨hmem, hid⟩ := LedgerDb.getPeriodById_eq hf
    split at h
    · cases h
    · next hs =>
      cases h
      exact ⟨hmem, hid, not_not.mp hs⟩

theorem checkNoDrafts_ok {entries : List JournalEntry} {u : Unit} :
    checkNoDrafts entries = .ok u ↔ ∀ e ∈ entries, e.status ≠ .draft := by
  have hcount : 0 < entries.countP (·.status = .draft) ↔ ¬∀ e ∈ entries, e.status ≠ .draft := by
    simp [List.countP_pos_iff]
  unfold checkNoDrafts
  dsimp only
  split
  · next hpos => exact iff_of_false (fun h => nomatch h) (hcount.mp hpos)
  · next hzero => exact iff_of_true rfl (not_not.mp fun h => hzero (hcount.mpr h))

theorem mem_periodEntries {request : CloseFiscalPeriodCommand} {period : FiscalPeriod}
    {db : LedgerDb} {e : JournalEntry} : e ∈ periodEntries request period db ↔
      e ∈ db.entries ∧ e.tenantId = request.tenantId ∧ period.startDate ≤ e.entryDate ∧
        e.entryDate ≤ period.endDate := by
  rw [periodEntries, (LedgerDb.getByTenant_perm db _ _ _ none).mem_iff, List.mem_filter]
  simp [LedgerDb.Matches]

theorem findRetainedSurplus_ok {allAccounts : List Account} {r : Account}
    (h : findRetainedSurplus allAccounts = .ok r) :
    r ∈ allAccounts ∧ r.code = "3002" ∧ r.isActive = true := by
  unfold findRetainedSurplus at h
  split at h
  · next hf =>
    cases h
    exact ⟨List.mem_of_find?_eq_some hf, by simpa using List.find?_some hf⟩
  · cases h

/-- A list of one entry that was posted. -/
theorem map_post_ok {entry : JournalEntry} {u : Guid} {now : DateTime} {res : List JournalEntry}
    (h : (entry.post u now).map ([·]) = .ok res) : entry.IsBalanced ∧
      res = [{ entry with status := .posted, postedBy := some u, postedAt := some now }] := by
  cases hp : entry.post u now with
  | error ex =>
    rw [hp] at h
    cases h
  | ok current =>
    obtain ⟨-, hb, rfl⟩ := JournalEntry.post_ok hp
    rw [hp] at h
    cases h
    exact ⟨hb, rfl⟩

theorem postClosing_ok {entry : JournalEntry} {u : Guid} {now : DateTime}
    {res : List JournalEntry} (h : postClosing entry u now = .ok res) :
    (entry.lines = [] ∧ res = []) ∨ (entry.lines ≠ [] ∧ entry.IsBalanced ∧
      res = [{ entry with status := .posted, postedBy := some u, postedAt := some now }]) := by
  unfold postClosing at h
  split at h
  · next hl =>
    cases h
    exact Or.inl ⟨hl, rfl⟩
  · next hl => exact Or.inr ⟨hl, map_post_ok h⟩

theorem postOpening_ok {entry : JournalEntry} {u : Guid} {now : DateTime}
    {res : List JournalEntry} (h : postOpening entry u now = .ok res) :
    (¬(entry.lines ≠ [] ∧ entry.IsBalanced) ∧ res = []) ∨
      (entry.IsBalanced ∧
        res = [{ entry with status := .posted, postedBy := some u, postedAt := some now }]) := by
  unfold postOpening at h
  split at h
  · next hl => exact Or.inr (map_post_ok h)
  · next hl =>
    cases h
    exact Or.inl ⟨hl, rfl⟩

/-- What a successful `prepare` read and computed. -/
structure Prepared (env : Env) (request : CloseFiscalPeriodCommand) (db : LedgerDb)
    (cs : ChangeSet) where
  period : FiscalPeriod
  retainedSurplus : Account
  closing : List JournalEntry
  nextPeriodStart : DateOnly
  opening : List JournalEntry
  period_mem : period ∈ db.periods
  period_id : period.id = request.periodId
  period_opened : period.status = .opened
  retainedSurplus_ok : findRetainedSurplus (db.getAllByTenant request.tenantId) =
    .ok retainedSurplus
  closing_ok : postClosing (closingEntry (env.newGuid 0) request period
      (postedLines (periodEntries request period db)) (db.getAllByTenant request.tenantId)
      retainedSurplus) request.closedByUserId env.utcNow = .ok closing
  nextPeriodStart_ok : addDays period.endDate 1 = .ok nextPeriodStart
  opening_ok : postOpening (openingEntry (env.newGuid 1) request period nextPeriodStart
      (postedLines (periodEntries request period db)) (db.getAllByTenant request.tenantId))
      request.closedByUserId env.utcNow = .ok opening
  changes_eq : cs =
    { addedEntries := closing ++ opening
      modifiedPeriods := [(period, linkOpening
        { period with
          status := .closed
          closedBy := some request.closedByUserId
          closedAt := some env.utcNow } opening)] }

theorem prepare_ok {env : Env} {request : CloseFiscalPeriodCommand} {db : LedgerDb}
    {cs : ChangeSet} {u : Unit} (h : prepare env request db = .ok (cs, u)) :
    Nonempty (Prepared env request db cs) := by
  obtain ⟨period, hp, h⟩ := bind_eq_ok.mp h
  obtain ⟨_, -, h⟩ := bind_eq_ok.mp h
  obtain ⟨r, hr, h⟩ := bind_eq_ok.mp h
  obtain ⟨closing, hc, h⟩ := bind_eq_ok.mp h
  obtain ⟨closed, hcl, h⟩ := bind_eq_ok.mp h
  obtain ⟨next, hn, h⟩ := bind_eq_ok.mp h
  obtain ⟨opening, ho, h⟩ := bind_eq_ok.mp h
  obtain ⟨-, rfl⟩ := FiscalPeriod.close_ok hcl
  obtain ⟨hmem, hid, hopen⟩ := loadPeriod_ok hp
  cases h
  exact ⟨⟨period, r, closing, next, opening, hmem, hid, hopen, hr, hc, hn, ho, rfl⟩⟩

/-! ## The loops as sweeps -/

theorem closeAccount_spec (lines : List JournalLine) (acc : JournalEntry × Decimal)
    (account : Account) :
    let res := closeAccount (accountBalances lines) acc account
    res.1.legs = acc.1.legs ++ Leg.carry account.id (-Leg.netOn account.id (legsOf lines)) ∧
      res.2 = acc.2 - Leg.netOn account.id (legsOf lines) := by
  unfold closeAccount
  rw [lookup_accountBalances]
  by_cases h : account.id ∈ lines.map (·.accountId)
  · rw [if_pos h]
    have e : Leg.creditOn account.id (legsOf lines) - Leg.debitOn account.id (legsOf lines) =
        -Leg.netOn account.id (legsOf lines) := by
      rw [Leg.netOn, neg_sub]
    dsimp only
    rw [e]
    refine ⟨?_, sub_eq_add_neg _ _ |>.symm⟩
    unfold Leg.carry
    split
    · exact JournalEntry.legs_addLine ..
    · split
      · exact JournalEntry.legs_addLine ..
      · exact (List.append_nil _).symm
  · rw [if_neg h, netOn_legsOf_of_notMem h]
    simp [Leg.carry]

theorem foldl_closeAccount (lines : List JournalLine) (accounts : List Account)
    (acc : JournalEntry × Decimal) :
    let res := accounts.foldl (closeAccount (accountBalances lines)) acc
    res.1.legs = acc.1.legs ++
        Leg.carryAll (accounts.map (·.id)) (fun a => -Leg.netOn a (legsOf lines)) ∧
      res.2 = acc.2 - (accounts.map fun a => Leg.netOn a.id (legsOf lines)).sum := by
  induction accounts generalizing acc with
  | nil => simp [Leg.carryAll]
  | cons a accounts ih =>
    obtain ⟨hl, hn⟩ := closeAccount_spec lines acc a
    obtain ⟨ihl, ihn⟩ := ih (closeAccount (accountBalances lines) acc a)
    refine ⟨?_, ?_⟩
    · rw [List.foldl_cons, ihl, hl, List.append_assoc]
      rfl
    · rw [List.foldl_cons, ihn, hn, List.map_cons, List.sum_cons]
      ring

/-- Net income of the period: minus the nets of the active Revenue and Expense accounts. -/
def netIncome (lines : List JournalLine) (allAccounts : List Account) : Decimal :=
  -((incomeAccounts allAccounts).map fun a => Leg.netOn a.id (legsOf lines)).sum

theorem legs_postNetIncome (name : String) (r : Account) (acc : JournalEntry × Decimal) :
    (postNetIncome name r acc).legs = acc.1.legs ++ Leg.carry r.id (-acc.2) := by
  unfold postNetIncome Leg.carry
  rcases lt_trichotomy acc.2 0 with h | h | h
  · rw [if_neg (not_lt.mpr h.le), if_pos h, if_pos (neg_pos.mpr h)]
    exact JournalEntry.legs_addLine ..
  · rw [h]
    simp
  · rw [if_pos h, if_neg (not_lt.mpr (neg_nonpos.mpr h.le)), if_pos (neg_neg_of_pos h), neg_neg]
    exact JournalEntry.legs_addLine ..

/-- The closing entry sweeps every active Revenue and Expense account to zero and puts the net
    income on Retained Surplus. -/
theorem closingEntry_legs (g : Guid) (request : CloseFiscalPeriodCommand) (period : FiscalPeriod)
    (lines : List JournalLine) (allAccounts : List Account) (r : Account) :
    (closingEntry g request period lines allAccounts r).legs =
      Leg.carryAll ((incomeAccounts allAccounts).map (·.id))
          (fun a => -Leg.netOn a (legsOf lines)) ++
        Leg.carry r.id (-netIncome lines allAccounts) := by
  unfold closingEntry
  dsimp only
  rw [legs_postNetIncome]
  obtain ⟨hl, hn⟩ := foldl_closeAccount lines (incomeAccounts allAccounts)
    (JournalEntry.create g request.tenantId period.endDate
      s!"Period Closing Entry: {period.name}" none (some request.periodId)
      (some "period_close"), 0)
  rw [hl, hn, zero_sub]
  rfl

theorem openAccount_legs (lines : List JournalLine) (e : JournalEntry) (account : Account) :
    (openAccount (accountBalances lines) e account).legs =
      e.legs ++ Leg.carry account.id (Leg.netOn account.id (legsOf lines)) := by
  unfold openAccount
  rw [lookup_accountBalances]
  by_cases h : account.id ∈ lines.map (·.accountId)
  · rw [if_pos h]
    have e1 : Leg.debitOn account.id (legsOf lines) - Leg.creditOn account.id (legsOf lines) =
        Leg.netOn account.id (legsOf lines) := rfl
    have e2 : Leg.creditOn account.id (legsOf lines) - Leg.debitOn account.id (legsOf lines) =
        -Leg.netOn account.id (legsOf lines) := by
      rw [Leg.netOn, neg_sub]
    dsimp only
    rw [e1, e2]
    -- the credit-normal branch tests the opposite sign and writes the same leg
    rcases lt_trichotomy (Leg.netOn account.id (legsOf lines)) 0 with hs | hs | hs
    · simp [Leg.carry, hs, not_lt.mpr hs.le]
    · simp [Leg.carry, hs]
    · simp [Leg.carry, hs, not_lt.mpr hs.le]
  · rw [if_neg h, netOn_legsOf_of_notMem h]
    simp [Leg.carry]

theorem foldl_openAccount (lines : List JournalLine) (accounts : List Account) (e : JournalEntry) :
    (accounts.foldl (openAccount (accountBalances lines)) e).legs =
      e.legs ++ Leg.carryAll (accounts.map (·.id)) (fun a => Leg.netOn a (legsOf lines)) := by
  induction accounts generalizing e with
  | nil => simp [Leg.carryAll]
  | cons a accounts ih =>
    rw [List.foldl_cons, ih, openAccount_legs, List.append_assoc]
    rfl

/-- The opening entry carries the nets of the active balance sheet accounts. -/
theorem openingEntry_legs (g : Guid) (request : CloseFiscalPeriodCommand) (period : FiscalPeriod)
    (next : DateOnly) (lines : List JournalLine) (allAccounts : List Account) :
    (openingEntry g request period next lines allAccounts).legs =
      Leg.carryAll ((balanceSheetAccounts allAccounts).map (·.id))
        (fun a => Leg.netOn a (legsOf lines)) := by
  unfold openingEntry
  dsimp only
  rw [foldl_openAccount]
  rfl

/-! ## Balance -/

theorem legs_ne_nil {e : JournalEntry} (h : e.IsBalanced) : e.legs ≠ [] := by
  intro hnil
  have hpos := h.2
  rw [JournalEntry.totalDebits_eq, hnil] at hpos
  exact absurd hpos (by simp [Leg.debits])

theorem isBalanced_iff_legs (e : JournalEntry) (h : ∀ l ∈ e.legs, l.OneSided) :
    e.IsBalanced ↔ e.legs ≠ [] ∧ Leg.balance e.legs = 0 := by
  rw [Leg.balance, sub_eq_zero, ← JournalEntry.totalDebits_eq, ← JournalEntry.totalCredits_eq]
  constructor
  · intro hb
    exact ⟨legs_ne_nil hb, hb.1⟩
  · rintro ⟨hne, hb⟩
    refine ⟨hb, ?_⟩
    rw [JournalEntry.totalDebits_eq, JournalEntry.totalCredits_eq] at hb
    rw [JournalEntry.totalDebits_eq]
    exact Leg.debits_pos_of_balanced h hne hb

theorem closingEntry_oneSided (g : Guid) (request : CloseFiscalPeriodCommand)
    (period : FiscalPeriod) (lines : List JournalLine) (allAccounts : List Account)
    (r : Account) :
    ∀ l ∈ (closingEntry g request period lines allAccounts r).legs, l.OneSided := by
  rw [closingEntry_legs]
  intro l hl
  rcases List.mem_append.mp hl with hl | hl
  · exact Leg.oneSided_carryAll l hl
  · exact Leg.oneSided_carry l hl

theorem openingEntry_oneSided (g : Guid) (request : CloseFiscalPeriodCommand)
    (period : FiscalPeriod) (next : DateOnly) (lines : List JournalLine)
    (allAccounts : List Account) :
    ∀ l ∈ (openingEntry g request period next lines allAccounts).legs, l.OneSided := by
  rw [openingEntry_legs]
  exact fun l hl => Leg.oneSided_carryAll l hl

/-- A closing entry with lines balances: what it takes off the income accounts it puts on
    Retained Surplus. -/
theorem closingEntry_isBalanced (g : Guid) (request : CloseFiscalPeriodCommand)
    (period : FiscalPeriod) (lines : List JournalLine) (allAccounts : List Account) (r : Account)
    (hne : (closingEntry g request period lines allAccounts r).legs ≠ []) :
    (closingEntry g request period lines allAccounts r).IsBalanced := by
  rw [isBalanced_iff_legs _ (closingEntry_oneSided g request period lines allAccounts r)]
  refine ⟨hne, ?_⟩
  rw [closingEntry_legs, Leg.balance_append, Leg.balance_carryAll, Leg.balance_carry, netIncome,
    neg_neg, List.map_map]
  have e : ((fun a => -Leg.netOn a (legsOf lines)) ∘ fun a : Account => a.id) =
      fun a : Account => -Leg.netOn a.id (legsOf lines) := rfl
  rw [e, sum_map_neg]
  exact neg_add_cancel _

/-- The opening entry has lines and balances exactly when some net is carried and the nets
    carried add up to zero. -/
theorem openingEntry_isBalanced_iff (g : Guid) (request : CloseFiscalPeriodCommand)
    (period : FiscalPeriod) (next : DateOnly) (lines : List JournalLine)
    (allAccounts : List Account) :
    (openingEntry g request period next lines allAccounts).IsBalanced ↔
      (∃ a ∈ balanceSheetAccounts allAccounts, Leg.netOn a.id (legsOf lines) ≠ 0) ∧
        ((balanceSheetAccounts allAccounts).map fun a => Leg.netOn a.id (legsOf lines)).sum =
          0 := by
  rw [isBalanced_iff_legs _ (openingEntry_oneSided g request period next lines allAccounts),
    openingEntry_legs, Leg.balance_carryAll, List.map_map, Ne, Leg.carryAll_eq_nil]
  refine and_congr ?_ Iff.rfl
  simp only [List.forall_mem_map, not_forall, exists_prop]

/-! ## Headers: the entries differ from new drafts in their lines only -/

theorem closeAccount_header (balances : List (Guid × (Decimal × Decimal)))
    (acc : JournalEntry × Decimal) (account : Account) :
    (closeAccount balances acc account).1.header = acc.1.header := by
  unfold closeAccount
  split
  · rfl
  · dsimp only
    split
    · rfl
    · split <;> rfl

theorem openAccount_header (balances : List (Guid × (Decimal × Decimal))) (e : JournalEntry)
    (account : Account) : (openAccount balances e account).header = e.header := by
  unfold openAccount
  split
  · rfl
  · dsimp only
    split <;> split <;> first | rfl | (split <;> rfl)

theorem closingEntry_header (g : Guid) (request : CloseFiscalPeriodCommand)
    (period : FiscalPeriod) (lines : List JournalLine) (allAccounts : List Account)
    (r : Account) :
    (closingEntry g request period lines allAccounts r).header =
      JournalEntry.create g request.tenantId period.endDate
        s!"Period Closing Entry: {period.name}" none (some request.periodId)
        (some "period_close") := by
  have hfold : ∀ (accounts : List Account) (acc : JournalEntry × Decimal),
      (accounts.foldl (closeAccount (accountBalances lines)) acc).1.header = acc.1.header := by
    intro accounts
    induction accounts with
    | nil => exact fun _ => rfl
    | cons a accounts ih => exact fun acc => (ih _).trans (closeAccount_header _ _ _)
  have hpost : ∀ (name : String) (acc : JournalEntry × Decimal),
      (postNetIncome name r acc).header = acc.1.header := by
    intro name acc
    unfold postNetIncome
    split
    · rfl
    · split <;> rfl
  exact (hpost _ _).trans (hfold _ _)

theorem openingEntry_header (g : Guid) (request : CloseFiscalPeriodCommand)
    (period : FiscalPeriod) (next : DateOnly) (lines : List JournalLine)
    (allAccounts : List Account) :
    (openingEntry g request period next lines allAccounts).header =
      JournalEntry.create g request.tenantId next s!"Opening Balance: {period.name}" none none
        (some "period_open") := by
  have hfold : ∀ (accounts : List Account) (e : JournalEntry),
      (accounts.foldl (openAccount (accountBalances lines)) e).header = e.header := by
    intro accounts
    induction accounts with
    | nil => exact fun _ => rfl
    | cons a accounts ih => exact fun e => (ih _).trans (openAccount_header _ _ _)
  exact hfold _ _

/-! ## What a close computes from the journal -/

/-- The net of account `a` over the posted lines of tenant `T` dated in `[S, E]`. -/
def periodNet (db : LedgerDb) (T : Guid) (S E : DateOnly) (a : Guid) : Decimal :=
  Leg.netOn a (db.postedLegs T (some S) (some E))

/-- A range that ends before it starts holds nothing. -/
theorem periodNet_of_empty {S E : DateOnly} (h : ¬S ≤ E) (db : LedgerDb) (T a : Guid) :
    periodNet db T S E a = 0 := by
  have hnil : db.postedLegs T (some S) (some E) = [] := by
    refine List.eq_nil_iff_forall_not_mem.mpr fun l hl => ?_
    obtain ⟨e, -, ⟨-, hf, ht, -⟩, -⟩ := mem_postedLegs.mp hl
    exact h ((hf S rfl).trans (ht E rfl))
  rw [periodNet, hnil, Leg.netOn_nil]

theorem legsOf_postedLines_perm (request : CloseFiscalPeriodCommand) (period : FiscalPeriod)
    (db : LedgerDb) :
    (legsOf (postedLines (periodEntries request period db))).Perm
      (db.postedLegs request.tenantId (some period.startDate) (some period.endDate)) := by
  have hlegs : legsOf (postedLines (periodEntries request period db)) =
      ((periodEntries request period db).filter (·.status = .posted)).flatMap (·.legs) := by
    rw [legsOf, postedLines, List.map_flatMap]
    rfl
  have hsel : ∀ e, (decide (e.status = .posted) && decide (LedgerDb.Matches request.tenantId
      (some period.startDate) (some period.endDate) none e)) = decide (LedgerDb.Matches
        request.tenantId (some period.startDate) (some period.endDate) (some .posted) e) := by
    intro e
    rw [Bool.eq_iff_iff, Bool.and_eq_true]
    simp only [LedgerDb.Matches, decide_eq_true_eq, Option.mem_def, Option.some.injEq,
      forall_eq', reduceCtorEq, false_implies, implies_true, and_true]
    constructor
    · rintro ⟨hs, hT, hf, ht⟩
      exact ⟨hT, hf, ht, hs.symm ▸ rfl⟩
    · rintro ⟨hT, hf, ht, hs⟩
      exact ⟨hs, hT, hf, ht⟩
  rw [hlegs, LedgerDb.postedLegs]
  refine List.Perm.flatMap_right _ ?_
  refine ((LedgerDb.getByTenant_perm db request.tenantId (some period.startDate)
    (some period.endDate) none).filter _).trans (List.Perm.of_eq ?_)
  rw [List.filter_filter]
  exact List.filter_congr fun e _ => hsel e

theorem netOn_postedLines (request : CloseFiscalPeriodCommand) (period : FiscalPeriod)
    (db : LedgerDb) (a : Guid) :
    Leg.netOn a (legsOf (postedLines (periodEntries request period db))) =
      periodNet db request.tenantId period.startDate period.endDate a := by
  have hp := legsOf_postedLines_perm request period db
  rw [Leg.netOn, Leg.debitOn_perm hp, Leg.creditOn_perm hp]
  rfl

/-- The legs of the closing entry of tenant `T`'s period `[S, E]`, with Retained Surplus `r`. -/
def closingLegs (db : LedgerDb) (T : Guid) (S E : DateOnly) (r : Guid) :
    List (Leg Guid Decimal) :=
  let income := (incomeAccounts (db.getAllByTenant T)).map (·.id)
  Leg.carryAll income (fun a => -periodNet db T S E a) ++
    Leg.carry r (income.map (periodNet db T S E)).sum

/-- The legs of the opening entry. -/
def openingLegs (db : LedgerDb) (T : Guid) (S E : DateOnly) : List (Leg Guid Decimal) :=
  Leg.carryAll ((balanceSheetAccounts (db.getAllByTenant T)).map (·.id)) (periodNet db T S E)

/-- Some net is carried forward and the nets carried add up to zero: the opening entry is
    posted. -/
def OpeningBalanced (db : LedgerDb) (T : Guid) (S E : DateOnly) : Prop :=
  (∃ a ∈ balanceSheetAccounts (db.getAllByTenant T), periodNet db T S E a.id ≠ 0) ∧
    ((balanceSheetAccounts (db.getAllByTenant T)).map fun a => periodNet db T S E a.id).sum = 0

instance (db : LedgerDb) (T : Guid) (S E : DateOnly) : Decidable (OpeningBalanced db T S E) :=
  inferInstanceAs (Decidable (_ ∧ _))

/-! ## Stored amounts -/

theorem scale4_netOn {ls : List (Leg Guid Decimal)} (h : ∀ l ∈ ls, LegScale4 l) (a : Guid) :
    Scale4 (Leg.netOn a ls) := by
  have hsel : ∀ l ∈ Leg.onAccount a ls, LegScale4 l := fun l hl => h l (List.mem_of_mem_filter hl)
  refine Scale4.sub (scale4_sum fun q hq => ?_) (scale4_sum fun q hq => ?_)
  · obtain ⟨l, hl, rfl⟩ := List.mem_map.mp hq
    exact (hsel l hl).1
  · obtain ⟨l, hl, rfl⟩ := List.mem_map.mp hq
    exact (hsel l hl).2

theorem scale4_carry {a : Guid} {x : Decimal} (h : Scale4 x) :
    ∀ l ∈ Leg.carry a x, LegScale4 l := by
  unfold Leg.carry
  split
  · simpa [LegScale4] using ⟨h, scale4_zero⟩
  · split
    · simpa [LegScale4] using ⟨scale4_zero, h.neg⟩
    · simp

theorem scale4_carryAll {as : List Guid} {f : Guid → Decimal} (h : ∀ a ∈ as, Scale4 (f a)) :
    ∀ l ∈ Leg.carryAll as f, LegScale4 l := by
  intro l hl
  obtain ⟨a, ha, hl⟩ := List.mem_flatMap.mp hl
  exact scale4_carry (h a ha) l hl

theorem scale4_periodNet {db : LedgerDb} (hs : db.Schema) (T : Guid) (S E : DateOnly) (a : Guid) :
    Scale4 (periodNet db T S E a) := by
  refine scale4_netOn (fun l hl => ?_) a
  obtain ⟨e, he, -, hl⟩ := mem_postedLegs.mp hl
  obtain ⟨k, hk, rfl⟩ := List.mem_map.mp hl
  exact hs.scale4 he hk

theorem stored_of_legs {e : JournalEntry} (h : ∀ l ∈ e.legs, LegScale4 l) : e.stored = e :=
  JournalEntry.stored_of_scale4 fun l hl => h l.leg (List.mem_map_of_mem hl)

/-! ## The entries a close adds -/

namespace Prepared

variable {env : Env} {request : CloseFiscalPeriodCommand} {db : LedgerDb} {cs : ChangeSet}

/-- The Retained Surplus account that is found is the tenant's active account 3002. -/
theorem retainedSurplus_spec (p : Prepared env request db cs) :
    p.retainedSurplus ∈ db.accounts ∧ p.retainedSurplus.tenantId = request.tenantId ∧
      p.retainedSurplus.code = "3002" ∧ p.retainedSurplus.isActive = true := by
  obtain ⟨hmem, hcode, hactive⟩ := findRetainedSurplus_ok p.retainedSurplus_ok
  obtain ⟨hmem, hT⟩ := LedgerDb.mem_getAllByTenant.mp hmem
  exact ⟨hmem, hT, hcode, hactive⟩

theorem modifiedEntries_eq (p : Prepared env request db cs) : cs.modifiedEntries = [] :=
  congrArg (·.modifiedEntries) p.changes_eq

theorem addedEntries_eq (p : Prepared env request db cs) :
    cs.addedEntries = p.closing ++ p.opening := congrArg (·.addedEntries) p.changes_eq

theorem closingEntry_legs_eq (p : Prepared env request db cs) :
    (closingEntry (env.newGuid 0) request p.period
        (postedLines (periodEntries request p.period db)) (db.getAllByTenant request.tenantId)
        p.retainedSurplus).legs =
      closingLegs db request.tenantId p.period.startDate p.period.endDate
        p.retainedSurplus.id := by
  rw [closingEntry_legs, netIncome, neg_neg, closingLegs, List.map_map]
  simp only [netOn_postedLines, Function.comp_def]

theorem openingEntry_legs_eq (p : Prepared env request db cs) :
    (openingEntry (env.newGuid 1) request p.period p.nextPeriodStart
        (postedLines (periodEntries request p.period db))
        (db.getAllByTenant request.tenantId)).legs =
      openingLegs db request.tenantId p.period.startDate p.period.endDate := by
  rw [openingEntry_legs, openingLegs]
  simp only [netOn_postedLines]

/-- The closing entry that is added, when there is one. -/
theorem closing_cases (hs : db.Schema) (p : Prepared env request db cs) :
    let legs := closingLegs db request.tenantId p.period.startDate p.period.endDate
      p.retainedSurplus.id
    (p.closing = [] ∧ legs = []) ∨ ∃ c, p.closing = [c] ∧ c.stored = c ∧ c.id = env.newGuid 0 ∧
      c.tenantId = request.tenantId ∧ c.entryDate = p.period.endDate ∧ c.status = .posted ∧
      c.legs = legs ∧ c.IsBalanced := by
  have hlegs := p.closingEntry_legs_eq
  have hh := closingEntry_header (env.newGuid 0) request p.period
    (postedLines (periodEntries request p.period db)) (db.getAllByTenant request.tenantId)
    p.retainedSurplus
  have hscale : ∀ l ∈ closingLegs db request.tenantId p.period.startDate p.period.endDate
      p.retainedSurplus.id, LegScale4 l := by
    intro l hl
    rcases List.mem_append.mp hl with hl | hl
    · exact scale4_carryAll (fun a _ => (scale4_periodNet hs _ _ _ a).neg) l hl
    · refine scale4_carry (scale4_sum fun q hq => ?_) l hl
      obtain ⟨a, -, rfl⟩ := List.mem_map.mp hq
      exact scale4_periodNet hs _ _ _ a
  rcases postClosing_ok p.closing_ok with ⟨hl, hres⟩ | ⟨-, hb, hres⟩
  · refine Or.inl ⟨hres, ?_⟩
    rw [← hlegs, JournalEntry.legs, hl]
    rfl
  · refine Or.inr ⟨_, hres, ?_, congrArg (·.id) hh, congrArg (·.tenantId) hh,
      congrArg (·.entryDate) hh, rfl, hlegs, hb⟩
    exact stored_of_legs fun l hl => hscale l (hlegs ▸ hl)

/-- The opening entry that is added, when the nets it carries balance. -/
theorem opening_cases (hs : db.Schema) (p : Prepared env request db cs) :
    let bal := OpeningBalanced db request.tenantId p.period.startDate p.period.endDate
    (p.opening = [] ∧ ¬bal) ∨ (bal ∧ ∃ o, p.opening = [o] ∧ o.stored = o ∧
      o.id = env.newGuid 1 ∧ o.tenantId = request.tenantId ∧ o.entryDate = p.nextPeriodStart ∧
      o.status = .posted ∧
      o.legs = openingLegs db request.tenantId p.period.startDate p.period.endDate ∧
      o.IsBalanced) := by
  have hlegs := p.openingEntry_legs_eq
  have hh := openingEntry_header (env.newGuid 1) request p.period p.nextPeriodStart
    (postedLines (periodEntries request p.period db)) (db.getAllByTenant request.tenantId)
  have hbal := openingEntry_isBalanced_iff (env.newGuid 1) request p.period p.nextPeriodStart
    (postedLines (periodEntries request p.period db)) (db.getAllByTenant request.tenantId)
  simp only [netOn_postedLines] at hbal
  have hne : (openingEntry (env.newGuid 1) request p.period p.nextPeriodStart
      (postedLines (periodEntries request p.period db))
      (db.getAllByTenant request.tenantId)).IsBalanced →
      (openingEntry (env.newGuid 1) request p.period p.nextPeriodStart
        (postedLines (periodEntries request p.period db))
        (db.getAllByTenant request.tenantId)).lines ≠ [] := by
    rintro ⟨-, hpos⟩ hnil
    rw [JournalEntry.totalDebits, hnil] at hpos
    exact absurd hpos (by simp)
  rcases postOpening_ok p.opening_ok with ⟨hn, hres⟩ | ⟨hb, hres⟩
  · exact Or.inl ⟨hres, fun hb => hn ⟨hne (hbal.mpr hb), hbal.mpr hb⟩⟩
  · refine Or.inr ⟨hbal.mp hb, _, hres, ?_, congrArg (·.id) hh, congrArg (·.tenantId) hh,
      congrArg (·.entryDate) hh, rfl, hlegs, hb⟩
    refine stored_of_legs fun l hl => ?_
    exact scale4_carryAll (fun a _ => scale4_periodNet hs _ _ _ a) l (hlegs ▸ hl)

/-- The closing entry that is added has the header of `closingEntry`, posted. -/
theorem closing_header (p : Prepared env request db cs) {c : JournalEntry} (hc : c ∈ p.closing) :
    c.header =
      { JournalEntry.create (env.newGuid 0) request.tenantId p.period.endDate
          s!"Period Closing Entry: {p.period.name}" none (some request.periodId)
          (some "period_close") with
        status := .posted
        postedBy := some request.closedByUserId
        postedAt := some env.utcNow } := by
  rcases postClosing_ok p.closing_ok with ⟨-, hres⟩ | ⟨-, -, hres⟩
  · simp [hres] at hc
  · rw [hres, List.mem_singleton] at hc
    rw [hc, ← closingEntry_header (env.newGuid 0) request p.period
      (postedLines (periodEntries request p.period db)) (db.getAllByTenant request.tenantId)
      p.retainedSurplus]
    rfl

theorem opening_header (p : Prepared env request db cs) {o : JournalEntry} (ho : o ∈ p.opening) :
    o.header =
      { JournalEntry.create (env.newGuid 1) request.tenantId p.nextPeriodStart
          s!"Opening Balance: {p.period.name}" none none (some "period_open") with
        status := .posted
        postedBy := some request.closedByUserId
        postedAt := some env.utcNow } := by
  rcases postOpening_ok p.opening_ok with ⟨-, hres⟩ | ⟨-, hres⟩
  · simp [hres] at ho
  · rw [hres, List.mem_singleton] at ho
    rw [ho, ← openingEntry_header (env.newGuid 1) request p.period p.nextPeriodStart
      (postedLines (periodEntries request p.period db)) (db.getAllByTenant request.tenantId)]
    rfl

/-- What tells the two entries apart from activity: the module they come from, and for the
    closing entry the period. -/
theorem closing_source (p : Prepared env request db cs) {c : JournalEntry} (hc : c ∈ p.closing) :
    c.sourceModule = some "period_close" ∧ c.periodId = some request.periodId :=
  have hh := p.closing_header hc
  ⟨congrArg (·.sourceModule) hh, congrArg (·.periodId) hh⟩

theorem opening_source (p : Prepared env request db cs) {o : JournalEntry} (ho : o ∈ p.opening) :
    o.sourceModule = some "period_open" :=
  congrArg (·.sourceModule) (p.opening_header ho)

/-- Both entries are posted and no reversal. -/
theorem added_header (p : Prepared env request db cs) {e : JournalEntry}
    (he : e ∈ p.closing ++ p.opening) :
    e.status = .posted ∧ e.reversedById = none ∧ e.reversalOfId = none := by
  rcases List.mem_append.mp he with he | he
  · have hh := p.closing_header he
    exact ⟨congrArg (·.status) hh, congrArg (·.reversedById) hh, congrArg (·.reversalOfId) hh⟩
  · have hh := p.opening_header he
    exact ⟨congrArg (·.status) hh, congrArg (·.reversedById) hh, congrArg (·.reversalOfId) hh⟩

/-- An entry that a close adds is the closing or the opening entry. It is the tenant's, it
    balances, and the database stores it as it is. -/
theorem mem_addedEntries (hs : db.Schema) (p : Prepared env request db cs) {e : JournalEntry}
    (he : e ∈ cs.addedEntries) :
    e.stored = e ∧ e.tenantId = request.tenantId ∧ e.IsBalanced ∧
      (e.legs = closingLegs db request.tenantId p.period.startDate p.period.endDate
          p.retainedSurplus.id ∨
        e.legs = openingLegs db request.tenantId p.period.startDate p.period.endDate) := by
  rw [p.addedEntries_eq] at he
  rcases List.mem_append.mp he with he | he
  · rcases p.closing_cases hs with ⟨hnil, -⟩ | ⟨c, hc, hst, -, hT, -, -, hlegs, hb⟩
    · simp [hnil] at he
    · rw [hc, List.mem_singleton] at he
      rw [he]
      exact ⟨hst, hT, hb, Or.inl hlegs⟩
  · rcases p.opening_cases hs with ⟨hnil, -⟩ | ⟨-, o, ho, hst, -, hT, -, -, hlegs, hb⟩
    · simp [hnil] at he
    · rw [ho, List.mem_singleton] at he
      rw [he]
      exact ⟨hst, hT, hb, Or.inr hlegs⟩

theorem addedEntries_stored (hs : db.Schema) (p : Prepared env request db cs) :
    cs.addedEntries.map JournalEntry.stored = cs.addedEntries :=
  (List.map_congr_left fun _ he => (p.mem_addedEntries hs he).1).trans (List.map_id _)

end Prepared

end CloseFiscalPeriodHandler

end SaasChassis.Ledger
