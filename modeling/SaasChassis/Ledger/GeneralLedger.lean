/-
  The general ledger of one account (GetGeneralLedger) as a statement of that account.

  The query selects the posted entries with a line on the account, sorts them by date and shows
  them whole, with the codes and names of the accounts of the tenant. `accountStatement`: what it
  lists accounts for every balance in between. The balance before the range and the lines up to a
  day give the balance the trial balance and GetAccountBalance show as of that day; and a range can
  be read in parts, which joined give the whole, entries of one day in the same order.
-/
import SaasChassis.Ledger.Reconcile
import SaasChassis.Lib.StableSort

namespace SaasChassis.Ledger

open SaasChassis.Lib

/-! ## GetGeneralLedger -/

structure GetGeneralLedgerQuery where
  tenantId : Guid
  accountId : Guid
  fromDate : Option DateOnly
  toDate : Option DateOnly

structure JournalLineDto where
  accountId : Guid
  accountCode : Option String
  accountName : Option String
  debitAmount : Decimal
  creditAmount : Decimal
  description : Option String
deriving DecidableEq

structure JournalEntryDto where
  id : Guid
  tenantId : Guid
  entryDate : DateOnly
  description : String
  reference : Option String
  status : EntryStatus
  periodId : Option Guid
  totalDebits : Decimal
  totalCredits : Decimal
  sourceModule : Option String
  lines : List JournalLineDto
deriving DecidableEq

/-- `accountMap.GetValueOrDefault`, in the accounts the map is made of. -/
def accountMap (accounts : List Account) (id : Guid) : Option Account :=
  accounts.find? (·.id = id)

def JournalLine.toDto (accounts : List Account) (l : JournalLine) : JournalLineDto :=
  let acc := accountMap accounts l.accountId
  { accountId := l.accountId, accountCode := acc.map (·.code), accountName := acc.map (·.name),
    debitAmount := l.debitAmount, creditAmount := l.creditAmount, description := l.description }

def JournalEntry.toDto (accounts : List Account) (e : JournalEntry) : JournalEntryDto :=
  { id := e.id, tenantId := e.tenantId, entryDate := e.entryDate, description := e.description,
    reference := e.reference, status := e.status, periodId := e.periodId,
    totalDebits := e.totalDebits, totalCredits := e.totalCredits, sourceModule := e.sourceModule,
    lines := e.lines.map (JournalLine.toDto accounts) }

def getGeneralLedger (request : GetGeneralLedgerQuery) (db : LedgerDb) : List JournalEntryDto :=
  let entries := db.getByTenant request.tenantId request.fromDate request.toDate (some .posted)
    (some request.accountId)
  let accounts := db.getAllByTenant request.tenantId
  (entries.insertionSort (·.entryDate ≤ ·.entryDate)).map (JournalEntry.toDto accounts)

/-! ## What it lists -/

/-- Posted, of tenant `T`, dated in `[f, t]`, with a line on `a`. -/
def Listed (T a : Guid) (f t : Option DateOnly) (e : JournalEntry) : Prop :=
  LedgerDb.Matches T f t (some .posted) e ∧ ∃ l ∈ e.lines, l.accountId = a

instance (T a : Guid) (f t : Option DateOnly) (e : JournalEntry) : Decidable (Listed T a f t e) :=
  inferInstanceAs (Decidable (_ ∧ _))

/-- The entries come back by date, entries of one day as they are stored. -/
theorem getGeneralLedger_eq (db : LedgerDb) (T a : Guid) (f t : Option DateOnly) :
    getGeneralLedger ⟨T, a, f, t⟩ db =
      ((db.entries.filter fun e => Listed T a f t e).insertionSort
        (·.entryDate ≤ ·.entryDate)).map (JournalEntry.toDto (db.getAllByTenant T)) := by
  unfold getGeneralLedger LedgerDb.getByTenant
  dsimp only
  -- the handler sorts what the repository sorted already
  rw [(List.pairwise_insertionSort _ _).insertionSort_eq]
  simp only [LedgerDb.whereGiven_eq, List.filter_filter]
  congr 2
  refine List.filter_congr fun e _ => ?_
  rw [Bool.eq_iff_iff]
  simp only [Listed, LedgerDb.Matches, Option.mem_def, Option.some.injEq, forall_eq',
    decide_eq_true_eq, Bool.and_eq_true, List.any_eq_true]
  tauto

theorem mem_getGeneralLedger {db : LedgerDb} {T a : Guid} {f t : Option DateOnly}
    {d : JournalEntryDto} :
    d ∈ getGeneralLedger ⟨T, a, f, t⟩ db ↔
      ∃ e ∈ db.entries, Listed T a f t e ∧ d = e.toDto (db.getAllByTenant T) := by
  rw [getGeneralLedger_eq, List.mem_map]
  simp only [List.mem_insertionSort, List.mem_filter, decide_eq_true_eq]
  constructor
  · intro h
    obtain ⟨e, ⟨he, hl⟩, rfl⟩ := h
    exact ⟨e, he, hl, rfl⟩
  · intro h
    obtain ⟨e, he, hl, rfl⟩ := h
    exact ⟨e, ⟨he, hl⟩, rfl⟩

theorem getGeneralLedger_sorted (db : LedgerDb) (request : GetGeneralLedgerQuery) :
    ((getGeneralLedger request db).map (·.entryDate)).Pairwise (· ≤ ·) := by
  unfold getGeneralLedger
  rw [List.map_map, List.pairwise_map]
  exact List.pairwise_insertionSort _ _

/-- A range read up to `M` and from the next day on. -/
theorem getGeneralLedger_append (db : LedgerDb) (T a : Guid) {f t : Option DateOnly}
    {M N : DateOnly} (hN : addDays M 1 = .ok N) (hf : ∀ S ∈ f, S ≤ M) (ht : ∀ E ∈ t, N ≤ E) :
    getGeneralLedger ⟨T, a, f, t⟩ db =
      getGeneralLedger ⟨T, a, f, some M⟩ db ++ getGeneralLedger ⟨T, a, some N, t⟩ db := by
  have hval := addDays_one_val hN
  have hnext : ∀ d : DateOnly, N ≤ d ↔ ¬d ≤ M := by
    intro d
    rw [Fin.le_def, Fin.le_def]
    omega
  have hearly : ∀ e : JournalEntry, Listed T a f (some M) e ↔
      e.entryDate ≤ M ∧ Listed T a f t e := by
    intro e
    have hE : e.entryDate ≤ M → ∀ E ∈ t, e.entryDate ≤ E := fun h E hE =>
      h.trans (not_lt.mp fun hlt => (hnext E).mp (ht E hE) hlt.le)
    simp only [Listed, LedgerDb.Matches, Option.mem_some_iff, forall_eq']
    constructor
    · intro h
      exact ⟨h.1.2.2.1, ⟨h.1.1, h.1.2.1, hE h.1.2.2.1, h.1.2.2.2⟩, h.2⟩
    · intro h
      exact ⟨⟨h.2.1.1, h.2.1.2.1, h.1, h.2.1.2.2.2⟩, h.2.2⟩
  have hlate : ∀ e : JournalEntry, Listed T a (some N) t e ↔
      ¬e.entryDate ≤ M ∧ Listed T a f t e := by
    intro e
    have hS : N ≤ e.entryDate → ∀ S ∈ f, S ≤ e.entryDate := fun h S hS =>
      (hf S hS).trans (not_le.mp ((hnext _).mp h)).le
    rw [← hnext]
    simp only [Listed, LedgerDb.Matches, Option.mem_some_iff, forall_eq']
    constructor
    · intro h
      exact ⟨h.1.2.1, ⟨h.1.1, hS h.1.2.1, h.1.2.2⟩, h.2⟩
    · intro h
      exact ⟨⟨h.2.1.1, h.1, h.2.1.2.2⟩, h.2.2⟩
  have hbelow : ∀ x y : JournalEntry, decide (x.entryDate ≤ M) = true →
      decide (y.entryDate ≤ M) = false → x.entryDate ≤ y.entryDate ∧ ¬y.entryDate ≤ x.entryDate := by
    intro x y hx hy
    have hlt := (of_decide_eq_true hx).trans_lt (not_le.mp (of_decide_eq_false hy))
    exact ⟨hlt.le, not_le.mpr hlt⟩
  rw [getGeneralLedger_eq, getGeneralLedger_eq, getGeneralLedger_eq, ← List.map_append,
    insertionSort_cut hbelow, List.filter_filter, List.filter_filter]
  simp only [hearly, hlate, Bool.decide_and, decide_not]

/-! ## What it adds up to -/

def JournalLineDto.leg (l : JournalLineDto) : Leg Guid Decimal :=
  ⟨l.accountId, l.debitAmount, l.creditAmount⟩

/-- Debits minus credits on `a` over the listed entries. -/
def movement (a : Guid) (ds : List JournalEntryDto) : Decimal :=
  Leg.netOn a ((ds.flatMap (·.lines)).map JournalLineDto.leg)

theorem movement_toDto (accounts : List Account) (a : Guid) (entries : List JournalEntry) :
    movement a (entries.map (JournalEntry.toDto accounts)) =
      (entries.map fun e => Leg.netOn a e.legs).sum := by
  have hlegs : ((entries.map (JournalEntry.toDto accounts)).flatMap (·.lines)).map
      JournalLineDto.leg = entries.flatMap (·.legs) := by
    rw [List.map_flatMap, List.flatMap_map]
    refine congrArg (List.flatMap · entries) (funext fun e => ?_)
    simp only [JournalEntry.toDto, List.map_map, JournalEntry.legs]
    rfl
  rw [movement, hlegs, Leg.netOn_flatMap]

/-- The entries listed up to a day of the range add up to the net of the account from the start of
    the range to that day; entries without a line on it would not count. -/
theorem movement_getGeneralLedger (db : LedgerDb) (T a : Guid) {f t : Option DateOnly}
    {D : DateOnly} (hD : ∀ E ∈ t, D ≤ E) :
    movement a ((getGeneralLedger ⟨T, a, f, t⟩ db).filter (·.entryDate ≤ D)) =
      Leg.netOn a (db.postedLegs T f (some D)) := by
  have hlisted : ∀ e : JournalEntry, (decide (e.entryDate ≤ D) && decide (Listed T a f t e)) =
      decide (Listed T a f (some D) e) := by
    intro e
    have hE : e.entryDate ≤ D → ∀ E ∈ t, e.entryDate ≤ E := fun h E hE => h.trans (hD E hE)
    rw [Bool.eq_iff_iff, Bool.and_eq_true, decide_eq_true_eq, decide_eq_true_eq,
      decide_eq_true_eq]
    simp only [Listed, LedgerDb.Matches, Option.mem_some_iff, forall_eq']
    constructor
    · intro h
      exact ⟨⟨h.2.1.1, h.2.1.2.1, h.1, h.2.1.2.2.2⟩, h.2.2⟩
    · intro h
      exact ⟨h.1.2.2.1, ⟨h.1.1, h.1.2.1, hE h.1.2.2.1, h.1.2.2.2⟩, h.2⟩
  have hnone : ∀ e : JournalEntry, ¬(∃ l ∈ e.lines, l.accountId = a) → Leg.netOn a e.legs = 0 := by
    intro e hne
    exact netOn_legsOf_of_notMem fun hmem => hne (by simpa [List.mem_map] using hmem)
  rw [getGeneralLedger_eq, List.filter_map]
  have hperm := (List.perm_insertionSort (fun x y : JournalEntry => x.entryDate ≤ y.entryDate)
    (db.entries.filter fun e => Listed T a f t e)).filter fun e => decide (e.entryDate ≤ D)
  rw [movement_toDto, netOn_postedLegs, postedSum]
  refine ((hperm.map _).sum_eq).trans ?_
  rw [List.filter_filter, sum_map_filter]
  refine congrArg List.sum (List.map_congr_left fun e _ => ?_)
  rw [hlisted]
  by_cases hline : ∃ l ∈ e.lines, l.accountId = a
  · simp [Listed, hline]
  · rw [hnone e hline, ite_self, ite_self]

/-- The balance the statement opens with. -/
def openingBalance (now : DateTime) (T : Guid) (fromDate : Option DateOnly) (db : LedgerDb)
    (a : Guid) : Decimal :=
  match fromDate with
  | some S => balanceBefore now T S db a
  | none => 0

theorem openingBalance_add {db : LedgerDb} (now : DateTime) {T : Guid} {f : Option DateOnly}
    {D : DateOnly} (hf : ∀ S ∈ f, S ≤ D) {a : Account} (ha : a ∈ db.accounts)
    (hT : a.tenantId = T) :
    openingBalance now T f db a.id + Leg.netOn a.id (db.postedLegs T f (some D)) =
      Leg.netOn a.id (db.postedLegs T none (some D)) := by
  unfold openingBalance
  split
  · next S => exact balanceBefore_add now (hf S rfl) ha hT
  · rw [zero_add]

/-! ## The statement -/

/-- The general ledger of account `a` over `[f, t]` read as its statement at `now`. -/
structure AccountStatement (db : LedgerDb) (a : Account) (f t : Option DateOnly)
    (now : DateTime) : Prop where
  /-- Nothing is missing and nothing else is shown. -/
  listed : ∀ d, d ∈ getGeneralLedger ⟨a.tenantId, a.id, f, t⟩ db ↔
    ∃ e ∈ db.entries, Listed a.tenantId a.id f t e ∧ d = e.toDto (db.getAllByTenant a.tenantId)
  sorted : ((getGeneralLedger ⟨a.tenantId, a.id, f, t⟩ db).map (·.entryDate)).Pairwise (· ≤ ·)
  balanced : ∀ d ∈ getGeneralLedger ⟨a.tenantId, a.id, f, t⟩ db,
    d.totalDebits = d.totalCredits ∧ 0 < d.totalDebits
  /-- Lines on an account of the tenant show its code and name, all others show neither. -/
  named : ∀ d ∈ getGeneralLedger ⟨a.tenantId, a.id, f, t⟩ db, ∀ l ∈ d.lines,
    ∃ b ∈ db.accounts, b.id = l.accountId ∧ (b.tenantId = a.tenantId →
      l.accountCode = some b.code ∧ l.accountName = some b.name) ∧
      (b.tenantId ≠ a.tenantId → l.accountCode = none ∧ l.accountName = none)
  /-- The running balance is the balance of the other two reports, day by day. -/
  running : ∀ D, (∀ S ∈ f, S ≤ D) → (∀ E ∈ t, D ≤ E) →
    let balance := openingBalance now a.tenantId f db a.id +
      movement a.id ((getGeneralLedger ⟨a.tenantId, a.id, f, t⟩ db).filter (·.entryDate ≤ D))
    (getTrialBalance now ⟨a.tenantId, some D⟩ db).balanceOf a.id = balance ∧
      (getAccountBalance now ⟨a.tenantId, a.id, some D⟩ db).map (·.balance) = .ok balance
  /-- Two adjoining ranges show what the whole range shows, in its order. -/
  parts : ∀ M N, addDays M 1 = .ok N → (∀ S ∈ f, S ≤ M) → (∀ E ∈ t, N ≤ E) →
    getGeneralLedger ⟨a.tenantId, a.id, f, t⟩ db =
      getGeneralLedger ⟨a.tenantId, a.id, f, some M⟩ db ++
        getGeneralLedger ⟨a.tenantId, a.id, some N, t⟩ db

theorem balanced_of_listed {db : LedgerDb} (h : Reachable db) {T a : Guid} {f t : Option DateOnly}
    {d : JournalEntryDto} (hd : d ∈ getGeneralLedger ⟨T, a, f, t⟩ db) :
    d.totalDebits = d.totalCredits ∧ 0 < d.totalDebits := by
  obtain ⟨e, he, hl, rfl⟩ := mem_getGeneralLedger.mp hd
  exact posted_balanced h e he (Or.inl (hl.1.2.2.2 _ rfl))

theorem named_of_listed {db : LedgerDb} (hs : db.Schema) {T a : Guid} {f t : Option DateOnly}
    {d : JournalEntryDto} (hd : d ∈ getGeneralLedger ⟨T, a, f, t⟩ db) {l : JournalLineDto}
    (hl : l ∈ d.lines) :
    ∃ b ∈ db.accounts, b.id = l.accountId ∧
      (b.tenantId = T → l.accountCode = some b.code ∧ l.accountName = some b.name) ∧
      (b.tenantId ≠ T → l.accountCode = none ∧ l.accountName = none) := by
  obtain ⟨e, he, -, rfl⟩ := mem_getGeneralLedger.mp hd
  obtain ⟨k, hk, rfl⟩ := List.mem_map.mp hl
  obtain ⟨b, hb, hid⟩ := List.mem_map.mp (hs.lines_account_fkey e he k hk)
  refine ⟨b, hb, hid, fun hT => ?_, fun hT => ?_⟩
  · have hmap : accountMap (db.getAllByTenant T) k.accountId = some b := by
      rw [accountMap, ← hid]
      exact find?_key (LedgerDb.getAllByTenant_ids_nodup hs T)
        (LedgerDb.mem_getAllByTenant.mpr ⟨hb, hT⟩)
    simp only [JournalLine.toDto, hmap, Option.map_some, and_self]
  · have hmap : accountMap (db.getAllByTenant T) k.accountId = none := by
      refine List.find?_eq_none.mpr fun c hc => ?_
      obtain ⟨hc, hcT⟩ := LedgerDb.mem_getAllByTenant.mp hc
      have hne : c.id ≠ k.accountId := fun he =>
        hT (nodup_keys_inj hs.accounts_pkey hb hc (hid.trans he.symm) ▸ hcT)
      simpa using hne
    simp only [JournalLine.toDto, hmap, Option.map_none, and_self]

/-- In every reachable state the general ledger of an account, over any range, is its statement:
    it accounts for every balance the other reports show in between. -/
theorem account_statement {db : LedgerDb} (h : Reachable db) {a : Account} (ha : a ∈ db.accounts)
    (f t : Option DateOnly) (now : DateTime) : AccountStatement db a f t now := by
  refine ⟨fun d => mem_getGeneralLedger, getGeneralLedger_sorted db _,
    fun d hd => balanced_of_listed h hd, fun d hd l hl => named_of_listed (reachable_schema h) hd hl,
    fun D hf ht => ?_, fun M N hN hf ht => getGeneralLedger_append db _ _ hN hf ht⟩
  dsimp only
  rw [movement_getGeneralLedger db _ _ ht, openingBalance_add now hf ha rfl]
  obtain ⟨b, hb, -, -, hn⟩ := getAccountBalance_ok now a.tenantId D ha
  exact ⟨getTrialBalance_balanceOf now D ha rfl, by rw [hb, Except.map, hn]⟩

/-- Cash in the ledger of one sale, over the period. -/
theorem account_statement_sample :
    AccountStatement (Sample.ledger []) ⟨101, 1, "1001", "1001", .asset, none, true, none⟩ (some 5)
      (some 20) ⟨30, 0⟩ :=
  account_statement (Sample.ledger_reachable []) (by decide +kernel) (some 5) (some 20) ⟨30, 0⟩

end SaasChassis.Ledger
