/-
  Totals by account, as the handlers compute them and as sums over the journal.

  `accountBalances` is the dictionary the trial balance, the profit and loss report and the
  period close build from a list of lines: `lookup_accountBalances` reads it as totals over the
  legs. `postedLegs db T f t` are the legs of the entries every report selects: the posted
  entries of tenant `T` dated in `[f, t]`. `debitOn_postedLegs` and `creditOn_postedLegs` turn a
  total over them into a sum over all entries (`postedSum`), where a write to one row shows
  as one difference.
-/
import SaasChassis.Ledger.Database

namespace SaasChassis.Ledger

open SaasChassis.Lib

/-! ## The grouped lines -/

/-- Debit and credit totals by account. -/
def accountBalances (lines : List JournalLine) : List (Guid × (Decimal × Decimal)) :=
  (groupBy (·.accountId) lines).map fun g =>
    (g.1, ((g.2.map (·.debitAmount)).sum, (g.2.map (·.creditAmount)).sum))

def legsOf (lines : List JournalLine) : List (Leg Guid Decimal) := lines.map JournalLine.leg

theorem onAccount_legsOf (a : Guid) (lines : List JournalLine) :
    Leg.onAccount a (legsOf lines) = legsOf (lines.filter (·.accountId = a)) := by
  rw [Leg.onAccount, legsOf, List.filter_map]
  rfl

theorem debitOn_legsOf (a : Guid) (lines : List JournalLine) :
    Leg.debitOn a (legsOf lines) = ((lines.filter (·.accountId = a)).map (·.debitAmount)).sum := by
  rw [Leg.debitOn, onAccount_legsOf, Leg.debits, legsOf, List.map_map]
  rfl

theorem creditOn_legsOf (a : Guid) (lines : List JournalLine) :
    Leg.creditOn a (legsOf lines) =
      ((lines.filter (·.accountId = a)).map (·.creditAmount)).sum := by
  rw [Leg.creditOn, onAccount_legsOf, Leg.credits, legsOf, List.map_map]
  rfl

/-- `TryGetValue` in the balances: the totals of an account that has lines. -/
theorem lookup_accountBalances (lines : List JournalLine) (a : Guid) :
    (accountBalances lines).lookup a =
      if a ∈ lines.map (·.accountId) then
        some (Leg.debitOn a (legsOf lines), Leg.creditOn a (legsOf lines)) else none := by
  rw [debitOn_legsOf, creditOn_legsOf]
  exact lookup_groupBy (·.accountId)
    (fun ls => ((ls.map (·.debitAmount)).sum, (ls.map (·.creditAmount)).sum)) lines a

theorem onAccount_legsOf_of_notMem {a : Guid} {lines : List JournalLine}
    (h : a ∉ lines.map (·.accountId)) : Leg.onAccount a (legsOf lines) = [] := by
  have hf : lines.filter (·.accountId = a) = [] :=
    List.filter_eq_nil_iff.mpr fun l hl => by
      simpa using fun e => h (List.mem_map.mpr ⟨l, hl, e⟩)
  rw [onAccount_legsOf, hf]
  rfl

theorem netOn_legsOf_of_notMem {a : Guid} {lines : List JournalLine}
    (h : a ∉ lines.map (·.accountId)) : Leg.netOn a (legsOf lines) = 0 := by
  rw [Leg.netOn, Leg.debitOn, Leg.creditOn, onAccount_legsOf_of_notMem h]
  simp [Leg.debits, Leg.credits]

/-- `GetValueOrDefault` in the balances: an account without lines has totals 0. -/
theorem getD_accountBalances (lines : List JournalLine) (a : Guid) :
    ((accountBalances lines).lookup a).getD (0, 0) =
      (Leg.debitOn a (legsOf lines), Leg.creditOn a (legsOf lines)) := by
  rw [lookup_accountBalances]
  by_cases h : a ∈ lines.map (·.accountId)
  · rw [if_pos h]
    rfl
  · rw [if_neg h, Leg.debitOn, Leg.creditOn, onAccount_legsOf_of_notMem h]
    rfl

/-! ## The posted lines of a tenant in a date range -/

open LedgerDb (Matches)

/-- The legs of the posted entries of tenant `T` dated in `[f, t]`. -/
def LedgerDb.postedLegs (db : LedgerDb) (T : Guid) (f t : Option DateOnly) :
    List (Leg Guid Decimal) :=
  (db.entries.filter fun e => Matches T f t (some .posted) e).flatMap (·.legs)

/-- The sum of `m` over the posted entries of tenant `T` dated in `[f, t]`. -/
def postedSum (m : JournalEntry → Decimal) (T : Guid) (f t : Option DateOnly)
    (entries : List JournalEntry) : Decimal :=
  (entries.map fun e => if Matches T f t (some .posted) e then m e else 0).sum

theorem debitOn_postedLegs (db : LedgerDb) (T : Guid) (f t : Option DateOnly) (a : Guid) :
    Leg.debitOn a (db.postedLegs T f t) =
      postedSum (fun e => Leg.debitOn a e.legs) T f t db.entries := by
  rw [LedgerDb.postedLegs, Leg.debitOn_flatMap, sum_map_filter, postedSum]
  simp only [decide_eq_true_eq]

theorem creditOn_postedLegs (db : LedgerDb) (T : Guid) (f t : Option DateOnly) (a : Guid) :
    Leg.creditOn a (db.postedLegs T f t) =
      postedSum (fun e => Leg.creditOn a e.legs) T f t db.entries := by
  rw [LedgerDb.postedLegs, Leg.creditOn_flatMap, sum_map_filter, postedSum]
  simp only [decide_eq_true_eq]

theorem netOn_postedLegs (db : LedgerDb) (T : Guid) (f t : Option DateOnly) (a : Guid) :
    Leg.netOn a (db.postedLegs T f t) =
      postedSum (fun e => Leg.netOn a e.legs) T f t db.entries := by
  rw [LedgerDb.postedLegs, Leg.netOn_flatMap, sum_map_filter, postedSum]
  simp only [decide_eq_true_eq]

theorem postedSum_append (m : JournalEntry → Decimal) (T : Guid) (f t : Option DateOnly)
    (xs ys : List JournalEntry) :
    postedSum m T f t (xs ++ ys) = postedSum m T f t xs + postedSum m T f t ys := by
  simp [postedSum]

@[simp] theorem postedSum_nil (m : JournalEntry → Decimal) (T : Guid) (f t : Option DateOnly) :
    postedSum m T f t [] = 0 := rfl

theorem postedSum_singleton (m : JournalEntry → Decimal) (T : Guid) (f t : Option DateOnly)
    (e : JournalEntry) :
    postedSum m T f t [e] = if Matches T f t (some .posted) e then m e else 0 := by
  simp [postedSum]

/-- The lines a query for posted entries returns are the posted legs, in some order. -/
theorem legsOf_getByTenant_perm (db : LedgerDb) (T : Guid) (f t : Option DateOnly) :
    (legsOf ((db.getByTenant T f t (some .posted) none).flatMap (·.lines))).Perm
      (db.postedLegs T f t) := by
  have e : legsOf ((db.getByTenant T f t (some .posted) none).flatMap (·.lines)) =
      (db.getByTenant T f t (some .posted) none).flatMap (·.legs) := by
    rw [legsOf, List.map_flatMap]
    rfl
  rw [e]
  exact (LedgerDb.getByTenant_perm db T f t (some .posted)).flatMap_right _

theorem mem_postedLegs {db : LedgerDb} {T : Guid} {f t : Option DateOnly}
    {l : Leg Guid Decimal} :
    l ∈ db.postedLegs T f t ↔
      ∃ e ∈ db.entries, Matches T f t (some .posted) e ∧ l ∈ e.legs := by
  simp only [LedgerDb.postedLegs, List.mem_flatMap, List.mem_filter, decide_eq_true_eq, and_assoc]

end SaasChassis.Ledger
