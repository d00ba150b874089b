/-
  The ledger's domain entities and their methods (Ledger.Domain).

  Amounts are exact: a C# `decimal` is a rational. A `DateOnly` is its day number, below
  `DateOnly.MaxValue`. A `Guid` is a number, `Guid.Empty` is 0; a method that calls
  `Guid.NewGuid()` or reads the clock takes the value it gets as an argument. A method that
  mutates `this` returns the new value.

  Left out: columns no modelled function reads (line ids, metadata, tags, entry number,
  created/updated timestamps).
-/
import SaasChassis.Lib.DoubleEntry
import Mathlib.Algebra.Order.Ring.Rat

namespace SaasChassis.Ledger

open SaasChassis.Lib

abbrev Guid := Nat

def Guid.empty : Guid := 0

/-- C# `decimal`, exact. -/
abbrev Decimal := ℚ

/-- C# `DateOnly`: day number 0 is 0001-01-01, the last one is 9999-12-31. -/
abbrev DateOnly := Fin 3652059

instance DateOnly.neZero : NeZero 3652059 := ⟨by decide⟩

/-- C# `DateTime`: a date and the ticks since midnight. -/
structure DateTime where
  date : DateOnly
  ticks : Nat
deriving DecidableEq

inductive AccountType where
  | asset | liability | equity | revenue | expense
deriving DecidableEq

inductive EntryStatus where
  | draft | posted | reversed
deriving DecidableEq

inductive PeriodStatus where
  | opened | closed | locked
deriving DecidableEq

/-- What the database answers when a statement breaks a constraint of the schema, or when it
    cannot be reached. -/
inductive DbError where
  | unavailable
  | violates (constraint : String)
deriving DecidableEq

/-- The exceptions a ledger command can end with. -/
inductive LedgerException where
  | invalidOperation (message : String)
  | closedPeriod (periodId : Guid)
  | duplicateReversal (entryId : Guid)
  | unbalancedEntry (entryId : Guid) (totalDebits totalCredits : Decimal)
  | validation (errors : List String)
  | argumentOutOfRange
  | dbUpdate (error : DbError)
  | publishFailed
deriving DecidableEq

/-- `DateOnly.AddDays`: out of range past either end of the calendar. -/
def addDays (d : DateOnly) (n : Int) : Except LedgerException DateOnly :=
  let m := (d.val : Int) + n
  if h : 0 ≤ m ∧ m < 3652059 then .ok ⟨m.toNat, by omega⟩ else .error .argumentOutOfRange

theorem addDays_one_val {d next : DateOnly} (h : addDays d 1 = .ok next) :
    next.val = d.val + 1 := by
  unfold addDays at h
  dsimp only at h
  split at h
  · cases h
    simp only []
    omega
  · cases h

/-! ## Accounts -/

structure Account where
  id : Guid
  tenantId : Guid
  code : String
  name : String
  accountType : AccountType
  parentId : Option Guid
  isActive : Bool
  description : Option String
deriving DecidableEq

namespace Account

def create (id tenantId : Guid) (code name : String) (accountType : AccountType)
    (parentId : Option Guid) (description : Option String) : Account :=
  { id, tenantId, code, name, accountType, parentId, isActive := true, description }

def update (a : Account) (name : String) (description : Option String) (isActive : Bool) :
    Account :=
  { a with name, description, isActive }

/-- Revenue or Expense: the accounts a period close zeroes. -/
def IsIncome (a : Account) : Prop := a.accountType = .revenue ∨ a.accountType = .expense

/-- Asset, Liability or Equity: the accounts an opening balance carries forward. -/
def IsBalanceSheet (a : Account) : Prop :=
  a.accountType = .asset ∨ a.accountType = .liability ∨ a.accountType = .equity

instance (a : Account) : Decidable a.IsIncome :=
  inferInstanceAs (Decidable (_ ∨ _))

instance (a : Account) : Decidable a.IsBalanceSheet :=
  inferInstanceAs (Decidable (_ ∨ _))

theorem isBalanceSheet_iff (a : Account) : a.IsBalanceSheet ↔ ¬a.IsIncome := by
  unfold IsBalanceSheet IsIncome
  cases a.accountType <;> decide

end Account

structure TemplateAccountEntry where
  code : String
  name : String
  type : String
  parentCode : Option String
deriving DecidableEq

/-- A chart-of-accounts template. `accounts` is what `JsonSerializer.Deserialize` makes of the
    stored JSON: `none` when it does not give a list. -/
structure AccountTemplate where
  templateCode : String
  accounts : Option (List TemplateAccountEntry)
deriving DecidableEq

/-! ## Journal entries -/

structure JournalLine where
  journalEntryId : Guid
  tenantId : Guid
  accountId : Guid
  debitAmount : Decimal
  creditAmount : Decimal
  description : Option String
deriving DecidableEq

/-- The line as a double-entry leg. -/
def JournalLine.leg (l : JournalLine) : Leg Guid Decimal :=
  ⟨l.accountId, l.debitAmount, l.creditAmount⟩

structure JournalEntry where
  id : Guid
  tenantId : Guid
  entryDate : DateOnly
  description : String
  reference : Option String
  status : EntryStatus
  periodId : Option Guid
  postedBy : Option Guid
  postedAt : Option DateTime
  reversedById : Option Guid
  reversalOfId : Option Guid
  sourceModule : Option String
  lines : List JournalLine
deriving DecidableEq

namespace JournalEntry

def legs (e : JournalEntry) : List (Leg Guid Decimal) := e.lines.map JournalLine.leg

def totalDebits (e : JournalEntry) : Decimal := (e.lines.map (·.debitAmount)).sum

def totalCredits (e : JournalEntry) : Decimal := (e.lines.map (·.creditAmount)).sum

def IsBalanced (e : JournalEntry) : Prop :=
  e.totalDebits = e.totalCredits ∧ 0 < e.totalDebits

instance (e : JournalEntry) : Decidable e.IsBalanced :=
  inferInstanceAs (Decidable (_ ∧ _))

theorem totalDebits_eq (e : JournalEntry) : e.totalDebits = Leg.debits e.legs := by
  simp [totalDebits, Leg.debits, legs, JournalLine.leg, Function.comp_def]

theorem totalCredits_eq (e : JournalEntry) : e.totalCredits = Leg.credits e.legs := by
  simp [totalCredits, Leg.credits, legs, JournalLine.leg, Function.comp_def]

def create (id tenantId : Guid) (entryDate : DateOnly) (description : String)
    (reference : Option String) (periodId : Option Guid) (sourceModule : Option String) :
    JournalEntry :=
  { id, tenantId, entryDate, description, reference, status := .draft, periodId,
    postedBy := none, postedAt := none, reversedById := none, reversalOfId := none,
    sourceModule, lines := [] }

def addLine (e : JournalEntry) (accountId : Guid) (debitAmount creditAmount : Decimal)
    (description : Option String) : JournalEntry :=
  { e with lines := e.lines ++
      [{ journalEntryId := e.id, tenantId := e.tenantId, accountId, debitAmount, creditAmount,
         description }] }

def post (e : JournalEntry) (postedByUserId : Guid) (utcNow : DateTime) :
    Except LedgerException JournalEntry :=
  if e.status ≠ .draft then
    .error (.invalidOperation "Only draft entries can be posted.")
  else if ¬e.IsBalanced then
    .error (.unbalancedEntry e.id e.totalDebits e.totalCredits)
  else
    .ok { e with status := .posted, postedBy := some postedByUserId, postedAt := some utcNow }

/-- The line a reversal writes for `line`: the two amounts exchanged. -/
def reversalLine (e : JournalEntry) (reversalId : Guid) (line : JournalLine) : JournalLine :=
  -- C# interpolates a null description as the empty string
  let description := line.description.getD ""
  { journalEntryId := reversalId, tenantId := e.tenantId, accountId := line.accountId,
    debitAmount := line.creditAmount, creditAmount := line.debitAmount,
    description := some s!"Reversal of: {description}" }

/-- The reversal entry, and `this` marked as reversed by it. -/
def createReversal (e : JournalEntry) (reason : String) (reversedByUserId : Guid)
    (newGuid : Guid) (utcNow : DateTime) :
    Except LedgerException (JournalEntry × JournalEntry) :=
  if e.status ≠ .posted then
    .error (.invalidOperation "Only posted entries can be reversed.")
  else if e.reversedById.isSome then
    .error (.duplicateReversal e.id)
  else
    let reversal : JournalEntry :=
      { id := newGuid, tenantId := e.tenantId, entryDate := utcNow.date,
        description := s!"REVERSAL: {e.description} — {reason}",
        reference := e.reference, status := .posted, periodId := none,
        postedBy := some reversedByUserId, postedAt := some utcNow,
        reversedById := none, reversalOfId := some e.id, sourceModule := none,
        lines := e.lines.map (e.reversalLine newGuid) }
    .ok (reversal, { e with status := .reversed, reversedById := some newGuid })

@[simp] theorem legs_addLine (e : JournalEntry) (a : Guid) (d c : Decimal) (s : Option String) :
    (e.addLine a d c s).legs = e.legs ++ [⟨a, d, c⟩] := by
  simp [legs, addLine, JournalLine.leg]

/-- Everything of the entry but its lines. -/
def header (e : JournalEntry) : JournalEntry := { e with lines := [] }

theorem post_ok {e e' : JournalEntry} {u : Guid} {now : DateTime} (h : e.post u now = .ok e') :
    e.status = .draft ∧ e.IsBalanced ∧
      e' = { e with status := .posted, postedBy := some u, postedAt := some now } := by
  unfold post at h
  split at h
  · cases h
  · next hs =>
    split at h
    · cases h
    · next hb =>
      cases h
      exact ⟨not_not.mp hs, not_not.mp hb, rfl⟩

/-- What a successful `createReversal` returns, and when it succeeds. -/
theorem createReversal_ok {e r e' : JournalEntry} {reason : String} {u g : Guid} {now : DateTime}
    (h : e.createReversal reason u g now = .ok (r, e')) :
    e.status = .posted ∧ e.reversedById = none ∧
      e' = { e with status := .reversed, reversedById := some g } ∧
      r.id = g ∧ r.tenantId = e.tenantId ∧ r.entryDate = now.date ∧ r.status = .posted ∧
      r.reference = e.reference ∧ r.periodId = none ∧ r.reversedById = none ∧
      r.reversalOfId = some e.id ∧ r.sourceModule = none ∧
      r.lines = e.lines.map (e.reversalLine g) := by
  unfold createReversal at h
  split at h
  · cases h
  · next hs =>
    split at h
    · cases h
    · next hr =>
      cases h
      exact ⟨not_not.mp hs, by simpa using hr, rfl, rfl, rfl, rfl, rfl, rfl, rfl, rfl, rfl, rfl,
        rfl⟩

end JournalEntry

/-! ## Fiscal periods -/

structure FiscalPeriod where
  id : Guid
  tenantId : Guid
  name : String
  startDate : DateOnly
  endDate : DateOnly
  status : PeriodStatus
  closedBy : Option Guid
  closedAt : Option DateTime
  openingBalanceEntryId : Option Guid
deriving DecidableEq

namespace FiscalPeriod

def create (id tenantId : Guid) (name : String) (startDate endDate : DateOnly) : FiscalPeriod :=
  { id, tenantId, name, startDate, endDate, status := .opened, closedBy := none,
    closedAt := none, openingBalanceEntryId := none }

def close (p : FiscalPeriod) (closedByUserId : Guid) (utcNow : DateTime) :
    Except LedgerException FiscalPeriod :=
  if p.status ≠ .opened then .error (.closedPeriod p.id)
  else .ok { p with status := .closed, closedBy := some closedByUserId, closedAt := some utcNow }

def setOpeningBalanceEntry (p : FiscalPeriod) (entryId : Guid) : FiscalPeriod :=
  { p with openingBalanceEntryId := some entryId }

theorem close_ok {p p' : FiscalPeriod} {u : Guid} {now : DateTime} (h : p.close u now = .ok p') :
    p.status = .opened ∧
      p' = { p with status := .closed, closedBy := some u, closedAt := some now } := by
  unfold close at h
  split at h
  · cases h
  · next hs =>
    cases h
    exact ⟨not_not.mp hs, rfl⟩

end FiscalPeriod

end SaasChassis.Ledger
