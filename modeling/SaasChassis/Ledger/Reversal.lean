/-
  What ReverseJournalEntry does to the reported balances.

  The reports select entries by status, and a reversal both takes its original out of them
  (`reversed`) and adds the swapped entry (`posted`). `balance_change`: the reported balance of
  an account moves by minus the original's net as of its own date, and by minus the same net
  again as of the day of the reversal. `reversal_neutral_iff`: that is the neutral change
  exactly when the original has no net on the account or the report ends before its date.
-/
import SaasChassis.Ledger.Reports
import SaasChassis.Ledger.StepTotals

namespace SaasChassis.Ledger

open SaasChassis.Lib

/-- Debits minus credits of the entry's own lines on account `a`. -/
def JournalEntry.contribution (e : JournalEntry) (a : Guid) : Decimal := Leg.netOn a e.legs

/-- A reversal on day `d` of an entry dated `date` that contributes `c` should move a balance
    as of `D` by `change`: by nothing before the reversal, by `-c` from then on. -/
def ReversalNeutral (c : Decimal) (date d D : DateOnly) (change : Decimal) : Prop :=
  (D < d → change = 0) ∧ (d ≤ D → date ≤ D → change = -c)

instance (c : Decimal) (date d D : DateOnly) (change : Decimal) :
    Decidable (ReversalNeutral c date d D change) := inferInstanceAs (Decidable (_ ∧ _))

/-- The reversal of `e` on day `d`, from `db` to `db'`, is neutral for account `a` in both
    reports as of `D`. The trial balance of a tenant reports that tenant's accounts. -/
def NeutralInReports (db db' : LedgerDb) (e : JournalEntry) (d : DateOnly) (a : Account)
    (D : DateOnly) : Prop :=
  let T := e.tenantId
  let neutral := ReversalNeutral (e.contribution a.id) e.entryDate d D
  (a.tenantId = T → ∀ now, neutral ((getTrialBalance now ⟨T, some D⟩ db').balanceOf a.id -
      (getTrialBalance now ⟨T, some D⟩ db).balanceOf a.id)) ∧
    ∀ now, ∃ before after, getAccountBalance now ⟨T, a.id, some D⟩ db = .ok before ∧
      getAccountBalance now ⟨T, a.id, some D⟩ db' = .ok after ∧
      neutral (after.balance - before.balance)

theorem reverse_ok {db db' : LedgerDb} {env : Env} {request : ReverseJournalEntryCommand}
    {id : Guid} (h : ReverseJournalEntryHandler.handle env request db = (db', .ok id)) :
    ∃ entry ∈ db.entries, ∃ (reversal current : JournalEntry) (cs : ChangeSet),
      entry.id = request.entryId ∧
      entry.createReversal request.reason request.reversedByUserId (env.newGuid 0) env.utcNow =
        .ok (reversal, current) ∧
      cs = { addedEntries := [reversal], modifiedEntries := [(entry, current)] } ∧
      db' = cs.apply db ∧ db'.Schema := by
  obtain ⟨cs, hp, hs⟩ := commit_ok h
  obtain ⟨entry, hmem, reversal, current, hid, hr, hcs⟩ := ReverseJournalEntryHandler.prepare_ok hp
  obtain ⟨he, hsch⟩ := saveChanges_ok hs
  exact ⟨entry, hmem, reversal, current, cs, hid, hr, hcs, he, hsch⟩

theorem dated_until {T : Guid} {D d : DateOnly} : Dated T none (some D) T d ↔ d ≤ D := by
  simp [Dated]

/-- The net over the tenant's posted lines up to `D` loses the original as of its date and the
    original again as of the day of the reversal. -/
theorem balance_change {db db' : LedgerDb} (hs : db.Schema) {e : JournalEntry}
    (he : e ∈ db.entries) {env : Env} {request : ReverseJournalEntryCommand} {id : Guid}
    (hid : request.entryId = e.id)
    (h : ReverseJournalEntryHandler.handle env request db = (db', .ok id)) (a : Guid)
    (D : DateOnly) :
    Leg.netOn a (db'.postedLegs e.tenantId none (some D)) -
        Leg.netOn a (db.postedLegs e.tenantId none (some D)) =
      -(if e.entryDate ≤ D then e.contribution a else 0)
        - if env.utcNow.date ≤ D then e.contribution a else 0 := by
  obtain ⟨entry, hmem, reversal, current, cs, hid', hr, hcs, rfl, -⟩ := reverse_ok h
  have hsame : entry = e := nodup_keys_inj hs.entries_pkey hmem he (hid'.trans hid)
  subst hsame
  have htotal := postedTotal_reversed (Leg.netOn a) entry.tenantId none (some D) hs hmem hr hcs
  simp only [dated_until, Leg.netOn_swap] at htotal
  rw [netOn_postedLegs, netOn_postedLegs]
  unfold postedTotal at htotal
  rw [htotal, JournalEntry.contribution]
  split <;> split <;> ring

/-- The neutrality law, decided by arithmetic on the change the code makes. -/
theorem neutral_arith (c : Decimal) (date d D : DateOnly) :
    ReversalNeutral c date d D (-(if date ≤ D then c else 0) - if d ≤ D then c else 0) ↔
      c = 0 ∨ D < date := by
  unfold ReversalNeutral
  by_cases hd : d ≤ D
  · simp only [hd, not_lt.mpr hd, false_implies, true_implies, true_and, if_true]
    by_cases ht : date ≤ D
    · simp only [ht, not_lt.mpr ht, if_true, true_implies, or_false]
      constructor
      · intro h
        linarith
      · intro h
        rw [h]
        ring
    · simp [ht, not_le.mp ht]
  · simp only [hd, not_le.mp hd, true_implies, false_implies, and_true, if_false, sub_zero]
    by_cases ht : date ≤ D
    · simp [ht, not_lt.mpr ht]
    · simp [ht, not_le.mp ht]

/-- A reversal is neutral in the reports exactly for the accounts its original has no net on,
    and as of the days before the original's date. -/
theorem reversal_neutral_iff {db db' : LedgerDb} (hdb : Reachable db) {e : JournalEntry}
    (he : e ∈ db.entries) {env : Env} {request : ReverseJournalEntryCommand} {id : Guid}
    (hid : request.entryId = e.id)
    (h : ReverseJournalEntryHandler.handle env request db = (db', .ok id)) {a : Account}
    (ha : a ∈ db.accounts) (D : DateOnly) :
    NeutralInReports db db' e env.utcNow.date a D ↔ e.contribution a.id = 0 ∨ D < e.entryDate := by
  have hs := reachable_schema hdb
  have hchange := balance_change hs he hid h a.id D
  have ha' : a ∈ db'.accounts := by
    obtain ⟨_, -, _, _, cs, -, -, rfl, rfl, -⟩ := reverse_ok h
    simpa [ChangeSet.apply] using ha
  rw [← neutral_arith (e.contribution a.id) e.entryDate env.utcNow.date D, ← hchange]
  constructor
  · rintro ⟨-, hacc⟩
    obtain ⟨x, y, hx, hy, hn⟩ := hacc ⟨0, 0⟩
    obtain ⟨x', hx', -, -, hbx⟩ := getAccountBalance_ok ⟨0, 0⟩ e.tenantId D ha
    obtain ⟨y', hy', -, -, hby⟩ := getAccountBalance_ok ⟨0, 0⟩ e.tenantId D ha'
    rw [hx'] at hx
    rw [hy'] at hy
    cases hx
    cases hy
    rwa [hbx, hby] at hn
  · intro hn
    refine ⟨fun hT now => ?_, fun now => ?_⟩
    · rwa [getTrialBalance_balanceOf now D ha hT, getTrialBalance_balanceOf now D ha' hT]
    · obtain ⟨x, hx, -, -, hbx⟩ := getAccountBalance_ok now e.tenantId D ha
      obtain ⟨y, hy, -, -, hby⟩ := getAccountBalance_ok now e.tenantId D ha'
      exact ⟨x, y, hx, hy, by rwa [hbx, hby]⟩

namespace Sample

/-- The posted sales entry of `setup`. -/
def sales : JournalEntry :=
  { JournalEntry.create 201 1 10 "entry" none none none with
    status := .posted
    postedBy := some 99
    postedAt := some ⟨3, 0⟩
    lines := [⟨201, 1, 101, 100, 0, none⟩, ⟨201, 1, 102, 0, 100, none⟩] }

def cash : Account := Account.create 101 1 "1001" "1001" .asset none none

/-- The reversal of the sales entry on day 25. -/
def reverse : Env × ReverseJournalEntryCommand := (on 25 501, ⟨201, "mistake", 99⟩)

end Sample

theorem reversal_neutral_iff_sample :
    let db := Sample.ledger []
    NeutralInReports db (step db (Sample.reverse.1, .reverseJournalEntry Sample.reverse.2))
        Sample.sales 25 Sample.cash 30 ↔
      Sample.sales.contribution 101 = 0 ∨ 30 < Sample.sales.entryDate :=
  reversal_neutral_iff (Sample.ledger_reachable []) (by decide +kernel) rfl
    (by decide +kernel : ReverseJournalEntryHandler.handle Sample.reverse.1 Sample.reverse.2
      (Sample.ledger []) = (_, .ok 501)) (by decide +kernel) 30

/-- Sales of 100 on day 10 reversed on day 25. As of day 30 Cash moves by -200 instead of -100,
    and as of day 15, before the reversal, by -100 instead of 0. -/
theorem reversal_counted_twice :
    let db := Sample.ledger []
    let db' := step db (Sample.reverse.1, .reverseJournalEntry Sample.reverse.2)
    Reachable db ∧ Sample.sales ∈ db.entries ∧ Sample.sales.status = .posted ∧
      ReverseJournalEntryHandler.handle Sample.reverse.1 Sample.reverse.2 db = (db', .ok 501) ∧
      Sample.cash ∈ db.accounts ∧
      (getTrialBalance ⟨30, 0⟩ ⟨1, some 30⟩ db).balanceOf 101 = 100 ∧
      (getTrialBalance ⟨30, 0⟩ ⟨1, some 30⟩ db').balanceOf 101 = -100 ∧
      (getTrialBalance ⟨30, 0⟩ ⟨1, some 15⟩ db).balanceOf 101 = 100 ∧
      (getTrialBalance ⟨30, 0⟩ ⟨1, some 15⟩ db').balanceOf 101 = 0 ∧
      ¬NeutralInReports db db' Sample.sales 25 Sample.cash 30 ∧
      ¬NeutralInReports db db' Sample.sales 25 Sample.cash 15 := by
  refine ⟨Sample.ledger_reachable [], by decide +kernel, rfl, by decide +kernel,
    by decide +kernel, by decide +kernel, by decide +kernel, by decide +kernel,
    by decide +kernel, ?_, ?_⟩
  · rintro ⟨htb, -⟩
    exact absurd (htb rfl ⟨30, 0⟩) (by decide +kernel)
  · rintro ⟨htb, -⟩
    exact absurd (htb rfl ⟨30, 0⟩) (by decide +kernel)

end SaasChassis.Ledger
