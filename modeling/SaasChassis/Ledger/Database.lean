/-
  The ledger's tables, its repositories and `SaveChangesAsync`
  (Ledger.Infrastructure and V1__create_ledger_tables.sql).

  A command reads the tables, computes a `ChangeSet` (what EF's change tracker holds) and
  saves it. `saveChanges` applies the whole set and commits it when the result satisfies the
  schema's constraints; otherwise, or when the database cannot be reached, the tables stay as
  they are. An update writes the columns whose value differs from the snapshot that was read.
  Amounts are stored as DECIMAL(18,4): `round4` is the rounding of that column type.

  The row filter of the row-level-security policies is not applied: every row is visible, as
  it is for a platform admin. `ORDER BY` uses ordinal string order, C# code the culture's. A query
  for a text with a NUL in it, which PostgreSQL refuses like an INSERT, finds nothing here.
-/
import SaasChassis.Ledger.Domain
import SaasChassis.Lib.KeyedRows
import SaasChassis.Lib.Postgres
import Mathlib.Data.List.Sort
import Mathlib.Data.Rat.Floor
import Mathlib.Tactic.FieldSimp
import Mathlib.Tactic.Linarith
import Mathlib.Tactic.Tauto

namespace SaasChassis.Ledger

open SaasChassis.Lib SaasChassis.Lib.Postgres

/-! ## DECIMAL(18,4) -/

/-- PostgreSQL's rounding to four decimals, halves away from zero. -/
def round4 (q : Decimal) : Decimal :=
  if 0 ≤ q then (⌊q * 10000 + 1 / 2⌋ : ℤ) / 10000 else -((⌊-q * 10000 + 1 / 2⌋ : ℤ) / 10000)

/-- The values that fit DECIMAL(18,4) unchanged. -/
def FitsColumn (q : Decimal) : Prop := round4 q = q ∧ |q| < 10 ^ 14

instance (q : Decimal) : Decidable (FitsColumn q) := inferInstanceAs (Decidable (_ ∧ _))

/-- A whole number of ten-thousandths. -/
def Scale4 (q : Decimal) : Prop := ∃ n : ℤ, q = n / 10000

theorem scale4_round4 (q : Decimal) : Scale4 (round4 q) := by
  unfold round4
  split
  · exact ⟨_, rfl⟩
  · exact ⟨-⌊-q * 10000 + 1 / 2⌋, by push_cast; ring⟩

theorem floor_add_half (n : ℤ) : ⌊(n : Decimal) + 1 / 2⌋ = n := by
  rw [Int.floor_intCast_add]
  norm_num

theorem round4_of_scale4 {q : Decimal} (h : Scale4 q) : round4 q = q := by
  obtain ⟨n, rfl⟩ := h
  have e : (n : Decimal) / 10000 * 10000 = n := by field_simp
  unfold round4
  split
  · rw [e, floor_add_half]
  · have e' : -((n : Decimal) / 10000) * 10000 + 1 / 2 = ((-n : ℤ) : Decimal) + 1 / 2 := by
      push_cast
      linarith
    rw [e', floor_add_half]
    push_cast
    ring

theorem scale4_zero : Scale4 0 := ⟨0, by norm_num⟩

theorem Scale4.add {p q : Decimal} (hp : Scale4 p) (hq : Scale4 q) : Scale4 (p + q) := by
  obtain ⟨m, rfl⟩ := hp
  obtain ⟨n, rfl⟩ := hq
  exact ⟨m + n, by push_cast; ring⟩

theorem Scale4.neg {p : Decimal} (hp : Scale4 p) : Scale4 (-p) := by
  obtain ⟨m, rfl⟩ := hp
  exact ⟨-m, by push_cast; ring⟩

theorem Scale4.sub {p q : Decimal} (hp : Scale4 p) (hq : Scale4 q) : Scale4 (p - q) := by
  rw [sub_eq_add_neg]
  exact hp.add hq.neg

theorem scale4_sum {qs : List Decimal} (h : ∀ q ∈ qs, Scale4 q) : Scale4 qs.sum := by
  induction qs with
  | nil => exact scale4_zero
  | cons q qs ih =>
    rw [List.sum_cons]
    exact (h q List.mem_cons_self).add (ih fun r hr => h r (List.mem_cons_of_mem q hr))

/-- The line as its row holds it. -/
def JournalLine.stored (l : JournalLine) : JournalLine :=
  { l with debitAmount := round4 l.debitAmount, creditAmount := round4 l.creditAmount }

def JournalEntry.stored (e : JournalEntry) : JournalEntry :=
  { e with lines := e.lines.map JournalLine.stored }

/-- Every amount of the leg is a whole number of ten-thousandths. -/
def LegScale4 (l : Leg Guid Decimal) : Prop := Scale4 l.debit ∧ Scale4 l.credit

theorem JournalLine.stored_of_scale4 {l : JournalLine} (h : LegScale4 l.leg) : l.stored = l := by
  have hd : round4 l.debitAmount = l.debitAmount := round4_of_scale4 h.1
  have hc : round4 l.creditAmount = l.creditAmount := round4_of_scale4 h.2
  unfold JournalLine.stored
  rw [hd, hc]

theorem JournalEntry.stored_of_scale4 {e : JournalEntry} (h : ∀ l ∈ e.lines, LegScale4 l.leg) :
    e.stored = e := by
  have hmap : e.lines.map JournalLine.stored = e.lines :=
    (List.map_congr_left fun l hl => JournalLine.stored_of_scale4 (h l hl)).trans
      (List.map_id' e.lines)
  unfold JournalEntry.stored
  rw [hmap]

/-! ## Text -/

def Account.IsText (a : Account) : Prop :=
  isText a.code ∧ isText a.name ∧ ∀ d ∈ a.description, isText d

instance (a : Account) : Decidable a.IsText := inferInstanceAs (Decidable (_ ∧ _))

/-- The texts of the entry and of its lines have no NUL. -/
def JournalEntry.IsText (e : JournalEntry) : Prop :=
  isText e.description ∧ (∀ r ∈ e.reference, isText r) ∧ (∀ m ∈ e.sourceModule, isText m) ∧
    ∀ l ∈ e.lines, ∀ d ∈ l.description, isText d

instance (e : JournalEntry) : Decidable e.IsText := inferInstanceAs (Decidable (_ ∧ _))

/-! ## Tables and constraints -/

structure LedgerDb where
  accounts : List Account
  entries : List JournalEntry
  periods : List FiscalPeriod
  templates : List AccountTemplate
deriving DecidableEq

namespace LedgerDb

/-- The constraints of the ledger schema, and the values its types have. -/
structure Schema (db : LedgerDb) : Prop where
  accounts_text : ∀ a ∈ db.accounts, a.IsText
  entries_text : ∀ e ∈ db.entries, e.IsText
  periods_text : ∀ p ∈ db.periods, isText p.name
  accounts_pkey : (db.accounts.map (·.id)).Nodup
  accounts_columns : ∀ a ∈ db.accounts, a.code.length ≤ 20 ∧ a.name.length ≤ 200
  uq_account_code_tenant : (db.accounts.map fun a => (a.tenantId, a.code)).Nodup
  accounts_parent_fkey : ∀ a ∈ db.accounts, ∀ p ∈ a.parentId, p ∈ db.accounts.map (·.id)
  entries_pkey : (db.entries.map (·.id)).Nodup
  entries_columns : ∀ e ∈ db.entries, (∀ r ∈ e.reference, r.length ≤ 100) ∧
    ∀ m ∈ e.sourceModule, m.length ≤ 100
  entries_reversed_by_fkey : ∀ e ∈ db.entries, ∀ r ∈ e.reversedById, r ∈ db.entries.map (·.id)
  entries_reversal_of_fkey : ∀ e ∈ db.entries, ∀ r ∈ e.reversalOfId, r ∈ db.entries.map (·.id)
  lines_columns : ∀ e ∈ db.entries, ∀ l ∈ e.lines,
    FitsColumn l.debitAmount ∧ FitsColumn l.creditAmount
  chk_debit_or_credit : ∀ e ∈ db.entries, ∀ l ∈ e.lines, l.leg.OneSided
  lines_account_fkey : ∀ e ∈ db.entries, ∀ l ∈ e.lines, l.accountId ∈ db.accounts.map (·.id)
  periods_pkey : (db.periods.map (·.id)).Nodup
  periods_columns : ∀ p ∈ db.periods, p.name.length ≤ 100
  uq_period_tenant_dates :
    (db.periods.map fun p => (p.tenantId, p.startDate, p.endDate)).Nodup
  periods_opening_fkey : ∀ p ∈ db.periods, ∀ e ∈ p.openingBalanceEntryId,
    e ∈ db.entries.map (·.id)

/-- The same constraints by name, with whether the tables satisfy them. -/
def constraints (db : LedgerDb) : List (String × Bool) :=
  [("accounts_text", decide (∀ a ∈ db.accounts, a.IsText)),
   ("entries_text", decide (∀ e ∈ db.entries, e.IsText)),
   ("periods_text", decide (∀ p ∈ db.periods, isText p.name)),
   ("accounts_pkey", decide (db.accounts.map (·.id)).Nodup),
   ("accounts_columns", decide (∀ a ∈ db.accounts, a.code.length ≤ 20 ∧ a.name.length ≤ 200)),
   ("uq_account_code_tenant", decide (db.accounts.map fun a => (a.tenantId, a.code)).Nodup),
   ("accounts_parent_fkey",
     decide (∀ a ∈ db.accounts, ∀ p ∈ a.parentId, p ∈ db.accounts.map (·.id))),
   ("entries_pkey", decide (db.entries.map (·.id)).Nodup),
   ("entries_columns", decide (∀ e ∈ db.entries, (∀ r ∈ e.reference, r.length ≤ 100) ∧
     ∀ m ∈ e.sourceModule, m.length ≤ 100)),
   ("entries_reversed_by_fkey",
     decide (∀ e ∈ db.entries, ∀ r ∈ e.reversedById, r ∈ db.entries.map (·.id))),
   ("entries_reversal_of_fkey",
     decide (∀ e ∈ db.entries, ∀ r ∈ e.reversalOfId, r ∈ db.entries.map (·.id))),
   ("lines_columns", decide (∀ e ∈ db.entries, ∀ l ∈ e.lines,
     FitsColumn l.debitAmount ∧ FitsColumn l.creditAmount)),
   ("chk_debit_or_credit", decide (∀ e ∈ db.entries, ∀ l ∈ e.lines, l.leg.OneSided)),
   ("lines_account_fkey",
     decide (∀ e ∈ db.entries, ∀ l ∈ e.lines, l.accountId ∈ db.accounts.map (·.id))),
   ("periods_pkey", decide (db.periods.map (·.id)).Nodup),
   ("periods_columns", decide (∀ p ∈ db.periods, p.name.length ≤ 100)),
   ("uq_period_tenant_dates",
     decide (db.periods.map fun p => (p.tenantId, p.startDate, p.endDate)).Nodup),
   ("periods_opening_fkey",
     decide (∀ p ∈ db.periods, ∀ e ∈ p.openingBalanceEntryId, e ∈ db.entries.map (·.id)))]

/-- The first constraint the tables break. -/
def violation (db : LedgerDb) : Option String := (db.constraints.find? (!·.2)).map (·.1)

theorem violation_eq_none {db : LedgerDb} : db.violation = none ↔ db.Schema := by
  rw [violation, Option.map_eq_none_iff, List.find?_eq_none]
  simp only [constraints, List.forall_mem_cons, Bool.not_eq_true', Bool.not_eq_false,
    decide_eq_true_eq, List.not_mem_nil, false_implies, implies_true, and_true]
  constructor
  · rintro ⟨h1, h2, h3, h4, h5, h6, h7, h8, h9, h10, h11, h12, h13, h14, h15, h16, h17, h18⟩
    exact ⟨h1, h2, h3, h4, h5, h6, h7, h8, h9, h10, h11, h12, h13, h14, h15, h16, h17, h18⟩
  · rintro ⟨h1, h2, h3, h4, h5, h6, h7, h8, h9, h10, h11, h12, h13, h14, h15, h16, h17, h18⟩
    exact ⟨h1, h2, h3, h4, h5, h6, h7, h8, h9, h10, h11, h12, h13, h14, h15, h16, h17, h18⟩

/-- Stored amounts have four decimals. -/
theorem Schema.scale4 {db : LedgerDb} (h : db.Schema) {e : JournalEntry} (he : e ∈ db.entries)
    {l : JournalLine} (hl : l ∈ e.lines) : LegScale4 l.leg := by
  obtain ⟨hd, hc⟩ := h.lines_columns e he l hl
  refine ⟨?_, ?_⟩
  · rw [show l.leg.debit = round4 l.debitAmount from hd.1.symm]
    exact scale4_round4 _
  · rw [show l.leg.credit = round4 l.creditAmount from hc.1.symm]
    exact scale4_round4 _

end LedgerDb

/-! ## Change sets -/

/-- What an `UPDATE` writes into a column: the tracked value if it differs from the snapshot. -/
def changedColumn {β : Type} [DecidableEq β] (snapshot current row : β) : β :=
  if current = snapshot then row else current

theorem changedColumn_self {β : Type} [DecidableEq β] (snapshot current : β) :
    changedColumn snapshot current snapshot = current := by
  unfold changedColumn
  split
  · next h => exact h.symm
  · rfl

def Account.writeChanges (snapshot current row : Account) : Account :=
  { row with
    name := changedColumn snapshot.name current.name row.name
    description := changedColumn snapshot.description current.description row.description
    isActive := changedColumn snapshot.isActive current.isActive row.isActive }

def JournalEntry.writeChanges (snapshot current row : JournalEntry) : JournalEntry :=
  { row with
    status := changedColumn snapshot.status current.status row.status
    postedBy := changedColumn snapshot.postedBy current.postedBy row.postedBy
    postedAt := changedColumn snapshot.postedAt current.postedAt row.postedAt
    reversedById := changedColumn snapshot.reversedById current.reversedById row.reversedById }

def FiscalPeriod.writeChanges (snapshot current row : FiscalPeriod) : FiscalPeriod :=
  { row with
    status := changedColumn snapshot.status current.status row.status
    closedBy := changedColumn snapshot.closedBy current.closedBy row.closedBy
    closedAt := changedColumn snapshot.closedAt current.closedAt row.closedAt
    openingBalanceEntryId := changedColumn snapshot.openingBalanceEntryId
      current.openingBalanceEntryId row.openingBalanceEntryId }

/-- The tracked entities of one request: rows to insert, and pairs of the snapshot that was
    read and the current value. -/
structure ChangeSet where
  addedAccounts : List Account := []
  modifiedAccounts : List (Account × Account) := []
  addedEntries : List JournalEntry := []
  modifiedEntries : List (JournalEntry × JournalEntry) := []
  addedPeriods : List FiscalPeriod := []
  modifiedPeriods : List (FiscalPeriod × FiscalPeriod) := []

namespace ChangeSet

def apply (cs : ChangeSet) (db : LedgerDb) : LedgerDb :=
  { db with
    accounts := cs.modifiedAccounts.foldl
      (fun rows m => updateKey (·.id) m.1.id (m.1.writeChanges m.2) rows) db.accounts
        ++ cs.addedAccounts
    entries := cs.modifiedEntries.foldl
      (fun rows m => updateKey (·.id) m.1.id (m.1.writeChanges m.2) rows) db.entries
        ++ cs.addedEntries.map JournalEntry.stored
    periods := cs.modifiedPeriods.foldl
      (fun rows m => updateKey (·.id) m.1.id (m.1.writeChanges m.2) rows) db.periods
        ++ cs.addedPeriods }

/-- What the INSERTs of a save do alone. -/
def inserts (cs : ChangeSet) : ChangeSet :=
  { addedAccounts := cs.addedAccounts, addedEntries := cs.addedEntries,
    addedPeriods := cs.addedPeriods }

end ChangeSet

/-- No UPDATE touches a key. -/
theorem map_updates {ρ β : Type} {key : ρ → Guid} {μ : Type} {k : μ → Guid} (col : ρ → β)
    (f : μ → ρ → ρ) (hkeep : ∀ m r, col (f m r) = col r) (ms : List μ) (rows : List ρ) :
    (ms.foldl (fun rows m => updateKey key (k m) (f m) rows) rows).map col = rows.map col := by
  induction ms generalizing rows with
  | nil => rfl
  | cons m ms ih => rw [List.foldl_cons, ih, map_updateKey col (hkeep m)]

section Columns

variable {β : Type}

theorem map_accounts_apply (col : Account → β)
    (hkeep : ∀ s c r : Account, col (s.writeChanges c r) = col r) (cs : ChangeSet)
    (db : LedgerDb) :
    (cs.apply db).accounts.map col = db.accounts.map col ++ cs.addedAccounts.map col := by
  rw [ChangeSet.apply, List.map_append,
    map_updates col (fun m : Account × Account => m.1.writeChanges m.2) fun m r => hkeep m.1 m.2 r]

theorem map_periods_apply (col : FiscalPeriod → β)
    (hkeep : ∀ s c r : FiscalPeriod, col (s.writeChanges c r) = col r) (cs : ChangeSet)
    (db : LedgerDb) :
    (cs.apply db).periods.map col = db.periods.map col ++ cs.addedPeriods.map col := by
  rw [ChangeSet.apply, List.map_append,
    map_updates col (fun m : FiscalPeriod × FiscalPeriod => m.1.writeChanges m.2) fun m r =>
      hkeep m.1 m.2 r]

end Columns

theorem account_ids_apply (cs : ChangeSet) (db : LedgerDb) :
    (cs.apply db).accounts.map (·.id) =
      db.accounts.map (·.id) ++ cs.addedAccounts.map (·.id) :=
  map_accounts_apply (·.id) (fun _ _ _ => rfl) cs db

theorem entry_ids_apply (cs : ChangeSet) (db : LedgerDb) :
    (cs.apply db).entries.map (·.id) = db.entries.map (·.id) ++ cs.addedEntries.map (·.id) := by
  rw [ChangeSet.apply, List.map_append, List.map_map,
    map_updates (·.id) (fun m : JournalEntry × JournalEntry => m.1.writeChanges m.2) fun _ _ => rfl]
  rfl

theorem period_ids_apply (cs : ChangeSet) (db : LedgerDb) :
    (cs.apply db).periods.map (·.id) = db.periods.map (·.id) ++ cs.addedPeriods.map (·.id) :=
  map_periods_apply (·.id) (fun _ _ _ => rfl) cs db

/-- How `Comparer<string>.Default` orders strings in some culture. Strings the culture does not
    tell apart compare equal. -/
structure Culture where
  le : String → String → Bool
  total : ∀ a b, le a b = true ∨ le b a = true
  trans : ∀ a b c, le a b = true → le b c = true → le a c = true

/-- Code point by code point. -/
def Culture.ordinal : Culture where
  le a b := decide (a ≤ b)
  total a b := by simpa using String.le_total a b
  trans a b c hab hbc := by
    simp only [decide_eq_true_eq] at *
    exact String.le_trans hab hbc

/-- What a request meets outside its own code: the clock, the values `Guid.NewGuid()` returns
    in call order, whether the database drops the save, the event publisher (`none` when not
    configured, else whether publishing succeeds), and the culture of the process. -/
structure Env where
  utcNow : DateTime
  newGuid : Nat → Guid
  saveFails : Bool
  publisher : Option Bool
  culture : Culture

/-- `SaveChangesAsync`: all of the change set or none of it.

    Assumption (inserts first): the INSERT of a row comes before the statements that name it. The
    foreign keys are not deferrable, and EF Core, which orders the statements, is told of none
    behind `reversed_by_id` and `opening_balance_entry_id`. In this order the constraints may be
    checked on the final tables alone (`inserts_schema`). -/
def saveChanges (env : Env) (cs : ChangeSet) (db : LedgerDb) : Except LedgerException LedgerDb :=
  if env.saveFails then .error (.dbUpdate .unavailable)
  else match (cs.apply db).violation with
    | some c => .error (.dbUpdate (.violates c))
    | none => .ok (cs.apply db)

theorem saveChanges_ok {env : Env} {cs : ChangeSet} {db db' : LedgerDb}
    (h : saveChanges env cs db = .ok db') : db' = cs.apply db ∧ db'.Schema := by
  unfold saveChanges at h
  split at h
  · cases h
  · split at h
    · cases h
    · next hv =>
      cases h
      exact ⟨rfl, LedgerDb.violation_eq_none.mp hv⟩

/-- A row is an old one, or is inserted and stays to the end. -/
theorem forall_inserted {ρ : Type} {P : ρ → Prop} {rows updated added : List ρ}
    (hold : ∀ r ∈ rows, P r) (hnew : ∀ r ∈ updated ++ added, P r) :
    ∀ r ∈ rows ++ added, P r := by
  intro r hr
  rcases List.mem_append.mp hr with hr | hr
  · exact hold r hr
  · exact hnew r (List.mem_append_right _ hr)

/-- Where the final tables satisfy the constraints, those between the INSERTs and the UPDATEs do
    too. -/
theorem inserts_schema {cs : ChangeSet} {db : LedgerDb} (hs : db.Schema)
    (h : (cs.apply db).Schema) : (cs.inserts.apply db).Schema := by
  have haccounts : ∀ {P : Account → Prop}, (∀ a ∈ db.accounts, P a) →
      (∀ a ∈ (cs.apply db).accounts, P a) → ∀ a ∈ (cs.inserts.apply db).accounts, P a :=
    forall_inserted
  have hentries : ∀ {P : JournalEntry → Prop}, (∀ e ∈ db.entries, P e) →
      (∀ e ∈ (cs.apply db).entries, P e) → ∀ e ∈ (cs.inserts.apply db).entries, P e :=
    forall_inserted
  have hperiods : ∀ {P : FiscalPeriod → Prop}, (∀ p ∈ db.periods, P p) →
      (∀ p ∈ (cs.apply db).periods, P p) → ∀ p ∈ (cs.inserts.apply db).periods, P p :=
    forall_inserted
  -- the keys are there after the INSERTs, all of them
  have hcols : ∀ {β : Type} (col : Account → β),
      (∀ s c r : Account, col (s.writeChanges c r) = col r) →
      (cs.inserts.apply db).accounts.map col = (cs.apply db).accounts.map col := by
    intro β col hkeep
    rw [map_accounts_apply col hkeep, map_accounts_apply col hkeep, ChangeSet.inserts]
  have hdates : (cs.inserts.apply db).periods.map
      (fun p => (p.tenantId, p.startDate, p.endDate)) =
        (cs.apply db).periods.map fun p => (p.tenantId, p.startDate, p.endDate) := by
    rw [map_periods_apply _ fun _ _ _ => rfl, map_periods_apply _ fun _ _ _ => rfl,
      ChangeSet.inserts]
  have hids := hcols (·.id) fun _ _ _ => rfl
  have hentryIds : (cs.inserts.apply db).entries.map (·.id) =
      (cs.apply db).entries.map (·.id) := by
    rw [entry_ids_apply, entry_ids_apply, ChangeSet.inserts]
  have hperiodIds : (cs.inserts.apply db).periods.map (·.id) =
      (cs.apply db).periods.map (·.id) := by
    rw [period_ids_apply, period_ids_apply, ChangeSet.inserts]
  have hgrown : ∀ {i : Guid}, i ∈ db.accounts.map (·.id) →
      i ∈ (cs.apply db).accounts.map (·.id) := by
    rw [account_ids_apply]
    exact List.mem_append_left _
  have hentriesGrown : ∀ {i : Guid}, i ∈ db.entries.map (·.id) →
      i ∈ (cs.apply db).entries.map (·.id) := by
    rw [entry_ids_apply]
    exact List.mem_append_left _
  exact
    { accounts_text := haccounts hs.accounts_text h.accounts_text
      entries_text := hentries hs.entries_text h.entries_text
      periods_text := hperiods hs.periods_text h.periods_text
      accounts_pkey := hids ▸ h.accounts_pkey
      accounts_columns := haccounts hs.accounts_columns h.accounts_columns
      uq_account_code_tenant :=
        hcols (fun a => (a.tenantId, a.code)) (fun _ _ _ => rfl) ▸ h.uq_account_code_tenant
      accounts_parent_fkey := hids ▸ haccounts
        (fun a ha p hp => hgrown (hs.accounts_parent_fkey a ha p hp)) h.accounts_parent_fkey
      entries_pkey := hentryIds ▸ h.entries_pkey
      entries_columns := hentries hs.entries_columns h.entries_columns
      entries_reversed_by_fkey := hentryIds ▸ hentries
        (fun e he r hr => hentriesGrown (hs.entries_reversed_by_fkey e he r hr))
        h.entries_reversed_by_fkey
      entries_reversal_of_fkey := hentryIds ▸ hentries
        (fun e he r hr => hentriesGrown (hs.entries_reversal_of_fkey e he r hr))
        h.entries_reversal_of_fkey
      lines_columns := hentries hs.lines_columns h.lines_columns
      chk_debit_or_credit := hentries hs.chk_debit_or_credit h.chk_debit_or_credit
      lines_account_fkey := hids ▸ hentries
        (fun e he l hl => hgrown (hs.lines_account_fkey e he l hl)) h.lines_account_fkey
      periods_pkey := hperiodIds ▸ h.periods_pkey
      periods_columns := hperiods hs.periods_columns h.periods_columns
      uq_period_tenant_dates := hdates ▸ h.uq_period_tenant_dates
      periods_opening_fkey := hentryIds ▸ hperiods
        (fun p hp e he => hentriesGrown (hs.periods_opening_fkey p hp e he))
        h.periods_opening_fkey }

/-! ## Repositories -/

namespace LedgerDb

def getAccountById (db : LedgerDb) (id : Guid) : Option Account :=
  db.accounts.find? (·.id = id)

def getAccountByCode (db : LedgerDb) (tenantId : Guid) (code : String) : Option Account :=
  db.accounts.find? fun a => a.tenantId = tenantId ∧ a.code = code

def getAllByTenant (db : LedgerDb) (tenantId : Guid) : List Account :=
  (db.accounts.filter (·.tenantId = tenantId)).insertionSort (·.code ≤ ·.code)

def getTemplateByCode (db : LedgerDb) (templateCode : String) : Option AccountTemplate :=
  db.templates.find? (·.templateCode = templateCode)

def getPeriodById (db : LedgerDb) (id : Guid) : Option FiscalPeriod :=
  db.periods.find? (·.id = id)

def getEntryById (db : LedgerDb) (id : Guid) : Option JournalEntry :=
  db.entries.find? (·.id = id)

/-- `query.Where(...)` when the argument is given. -/
def whereGiven {β ρ : Type} (arg : Option β) (p : β → ρ → Bool) (query : List ρ) : List ρ :=
  match arg with
  | some b => query.filter (p b)
  | none => query

/-- `JournalEntryRepository.GetByTenantAsync`. -/
def getByTenant (db : LedgerDb) (tenantId : Guid) (fromDate toDate : Option DateOnly)
    (status : Option EntryStatus) (accountId : Option Guid) : List JournalEntry :=
  let query := db.entries.filter (·.tenantId = tenantId)
  let query := whereGiven fromDate (fun d e => d ≤ e.entryDate) query
  let query := whereGiven toDate (fun d e => e.entryDate ≤ d) query
  let query := whereGiven status (fun s e => e.status = s) query
  let query := whereGiven accountId (fun a e => e.lines.any (·.accountId = a)) query
  query.insertionSort (·.entryDate ≤ ·.entryDate)

/-- An entry of tenant `T` with status `st`, dated in `[fromDate, toDate]` (open where `none`). -/
def Matches (T : Guid) (fromDate toDate : Option DateOnly) (st : Option EntryStatus)
    (e : JournalEntry) : Prop :=
  e.tenantId = T ∧ (∀ d ∈ fromDate, d ≤ e.entryDate) ∧ (∀ d ∈ toDate, e.entryDate ≤ d) ∧
    ∀ s ∈ st, e.status = s

instance (T : Guid) (f t : Option DateOnly) (st : Option EntryStatus) (e : JournalEntry) :
    Decidable (Matches T f t st e) :=
  -- by the option's one value, not by running through the calendar
  @instDecidableAnd _ _ _ (@instDecidableAnd _ _ (Option.decidableForallMem f)
    (@instDecidableAnd _ _ (Option.decidableForallMem t) (Option.decidableForallMem st)))

theorem whereGiven_eq {β ρ : Type} (arg : Option β) (p : β → ρ → Bool) (query : List ρ) :
    whereGiven arg p query = query.filter fun r => decide (∀ b ∈ arg, p b r = true) := by
  cases arg with
  | none => simp [whereGiven]
  | some b => simp [whereGiven]

/-- The query returns the matching entries, in some order. -/
theorem getByTenant_perm (db : LedgerDb) (T : Guid) (f t : Option DateOnly)
    (st : Option EntryStatus) :
    (db.getByTenant T f t st none).Perm (db.entries.filter fun e => Matches T f t st e) := by
  unfold getByTenant
  refine (List.perm_insertionSort _ _).trans (List.Perm.of_eq ?_)
  simp only [whereGiven_eq, List.filter_filter]
  refine List.filter_congr fun e _ => ?_
  rw [Bool.eq_iff_iff]
  simp only [Matches, Option.mem_def, reduceCtorEq, false_implies, implies_true,
    decide_eq_true_eq, decide_true, Bool.true_and, Bool.and_eq_true]
  tauto

/-- A write to rows that keeps their tenant and date does not change which rows come back, nor
    their order. -/
theorem getByTenant_map {db db' : LedgerDb} {write : JournalEntry → JournalEntry}
    (he : db'.entries = db.entries.map write)
    (hkeep : ∀ e, (write e).tenantId = e.tenantId ∧ (write e).entryDate = e.entryDate) (T : Guid)
    (f t : Option DateOnly) :
    db'.getByTenant T f t none none = (db.getByTenant T f t none none).map write := by
  simp only [getByTenant, whereGiven_eq, he, List.filter_map, Function.comp_def, (hkeep _).1,
    (hkeep _).2, Option.mem_def, reduceCtorEq, false_implies, implies_true, decide_true]
  refine (List.map_insertionSort _ _ write _ fun a _ b _ => ?_).symm
  rw [(hkeep a).2, (hkeep b).2]

theorem getAllByTenant_perm (db : LedgerDb) (T : Guid) :
    (db.getAllByTenant T).Perm (db.accounts.filter (·.tenantId = T)) :=
  List.perm_insertionSort _ _

theorem mem_getAllByTenant {db : LedgerDb} {T : Guid} {a : Account} :
    a ∈ db.getAllByTenant T ↔ a ∈ db.accounts ∧ a.tenantId = T := by
  rw [(getAllByTenant_perm db T).mem_iff, List.mem_filter, decide_eq_true_eq]

theorem getAllByTenant_ids_nodup {db : LedgerDb} (h : db.Schema) (T : Guid) :
    ((db.getAllByTenant T).map (·.id)).Nodup :=
  (((getAllByTenant_perm db T).map _).nodup_iff).mpr
    (h.accounts_pkey.sublist (List.filter_sublist.map _))

theorem getEntryById_eq {db : LedgerDb} {id : Guid} {e : JournalEntry}
    (h : db.getEntryById id = some e) : e ∈ db.entries ∧ e.id = id :=
  ⟨List.mem_of_find?_eq_some h, by simpa using List.find?_some h⟩

theorem getPeriodById_eq {db : LedgerDb} {id : Guid} {p : FiscalPeriod}
    (h : db.getPeriodById id = some p) : p ∈ db.periods ∧ p.id = id :=
  ⟨List.mem_of_find?_eq_some h, by simpa using List.find?_some h⟩

end LedgerDb

end SaasChassis.Ledger
