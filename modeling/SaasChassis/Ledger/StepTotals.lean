/-
  What each command does to a total over the posted lines of a tenant in a date range.

  `μ` is any measure of an entry's legs (debits on an account, credits, net). Creating a draft
  moves no total; posting adds the entry's; a reversal takes the original's away and adds the
  swapped one; a close adds its closing and opening entries'. Each lemma gives the new total
  exactly, whatever tenant and range are asked for.
-/
import SaasChassis.Ledger.Step

namespace SaasChassis.Ledger

open SaasChassis.Lib
open LedgerDb (Matches)

/-- Tenant `T`, dated in `[f, t]` (open where `none`). -/
def Dated (T : Guid) (f t : Option DateOnly) (tenantId : Guid) (d : DateOnly) : Prop :=
  tenantId = T ∧ (∀ x ∈ f, x ≤ d) ∧ ∀ x ∈ t, d ≤ x

instance (T : Guid) (f t : Option DateOnly) (tenantId : Guid) (d : DateOnly) :
    Decidable (Dated T f t tenantId d) :=
  @instDecidableAnd _ _ _
    (@instDecidableAnd _ _ (Option.decidableForallMem f) (Option.decidableForallMem t))

section

variable {T : Guid} {f t : Option DateOnly} {e : JournalEntry}

theorem matches_posted (h : e.status = .posted) :
    Matches T f t (some .posted) e ↔ Dated T f t e.tenantId e.entryDate := by
  simp [Matches, Dated, h]

theorem not_matches (h : e.status ≠ .posted) : ¬Matches T f t (some .posted) e :=
  fun hm => h (hm.2.2.2 _ rfl)

end

/-- The total of `μ` over the posted entries of `T` dated in `[f, t]`. -/
def postedTotal (μ : List (Leg Guid Decimal) → Decimal) (T : Guid) (f t : Option DateOnly)
    (db : LedgerDb) : Decimal := postedSum (fun e => μ e.legs) T f t db.entries

section Totals

variable (μ : List (Leg Guid Decimal) → Decimal) (T : Guid) (f t : Option DateOnly)
  {env : Env} {db : LedgerDb}

theorem postedTotal_untouched {cs : ChangeSet} (ha : cs.addedEntries = [])
    (hm : cs.modifiedEntries = []) :
    postedTotal μ T f t (cs.apply db) = postedTotal μ T f t db := by
  rw [postedTotal, apply_entries cs db hm, ha]
  simp [postedTotal]

theorem postedTotal_created (c : CreateJournalEntryCommand) :
    postedTotal μ T f t (({ addedEntries := [CreateJournalEntryHandler.newEntry env c] } :
      ChangeSet).apply db) = postedTotal μ T f t db := by
  have hs : (CreateJournalEntryHandler.newEntry env c).stored.status ≠ .posted := by
    rw [CreateJournalEntryHandler.newEntry_eq]
    exact EntryStatus.noConfusion
  rw [postedTotal, apply_entries _ _ rfl, postedSum_append, List.map_singleton,
    postedSum_singleton, if_neg (not_matches hs), add_zero]
  rfl

/-- One entry rewritten and `added` inserted. -/
theorem postedTotal_modified (hs : db.Schema) {cs : ChangeSet} {entry current : JournalEntry}
    (hmem : entry ∈ db.entries) (h : cs.modifiedEntries = [(entry, current)])
    (hcur : entry.writeChanges current entry = current) :
    postedTotal μ T f t (cs.apply db) =
      postedTotal μ T f t db
        - (if Matches T f t (some .posted) entry then μ entry.legs else 0)
        + (if Matches T f t (some .posted) current then μ current.legs else 0)
        + postedSum (fun e => μ e.legs) T f t (cs.addedEntries.map JournalEntry.stored) := by
  rw [postedTotal, apply_entries_modified hs hmem h hcur, postedSum_append]
  congr 1
  exact sum_map_updateKey hs.entries_pkey hmem _

theorem postedTotal_posted (hs : db.Schema) {entry : JournalEntry} (hmem : entry ∈ db.entries)
    (hdraft : entry.status = .draft) (u : Guid) (now : DateTime) {cs : ChangeSet}
    (h : cs = { modifiedEntries := [(entry,
      { entry with status := .posted, postedBy := some u, postedAt := some now })] }) :
    postedTotal μ T f t (cs.apply db) = postedTotal μ T f t db +
      if Dated T f t entry.tenantId entry.entryDate then μ entry.legs else 0 := by
  subst h
  rw [postedTotal_modified μ T f t hs hmem rfl (writeChanges_posted entry u now),
    if_neg (not_matches (by rw [hdraft]; decide)), sub_zero]
  simp only [matches_posted, List.map_nil, postedSum_nil, add_zero]
  rfl

theorem postedTotal_reversed (hs : db.Schema) {entry reversal current : JournalEntry}
    (hmem : entry ∈ db.entries) {reason : String} {u g : Guid} {now : DateTime}
    (h : entry.createReversal reason u g now = .ok (reversal, current)) {cs : ChangeSet}
    (hcs : cs = { addedEntries := [reversal], modifiedEntries := [(entry, current)] }) :
    postedTotal μ T f t (cs.apply db) = postedTotal μ T f t db
      - (if Dated T f t entry.tenantId entry.entryDate then μ entry.legs else 0)
      + (if Dated T f t entry.tenantId now.date then μ (entry.legs.map Leg.swap) else 0) := by
  have hst := stored_reversal hs hmem h
  obtain ⟨hposted, -, rfl, -, hT, hd, hrs, -, -, -, -, -, hl⟩ := JournalEntry.createReversal_ok h
  have hlegs : reversal.legs = entry.legs.map Leg.swap := by
    rw [JournalEntry.legs, hl, List.map_map, JournalEntry.legs, List.map_map]
    rfl
  subst hcs
  rw [postedTotal_modified μ T f t hs hmem rfl (writeChanges_reversed entry g),
    if_neg (not_matches (e := { entry with status := .reversed, reversedById := some g })
      EntryStatus.noConfusion), add_zero, List.map_singleton, hst, postedSum_singleton]
  simp only [matches_posted hposted, matches_posted hrs, hT, hd, hlegs]

open CloseFiscalPeriodHandler in
theorem postedTotal_closed (hμ : μ [] = 0) (hs : db.Schema) {c : CloseFiscalPeriodCommand}
    {cs : ChangeSet} (p : Prepared env c db cs) :
    postedTotal μ T f t (cs.apply db) = postedTotal μ T f t db
      + (if Dated T f t c.tenantId p.period.endDate then
          μ (closingLegs db c.tenantId p.period.startDate p.period.endDate p.retainedSurplus.id)
        else 0)
      + (if Dated T f t c.tenantId p.nextPeriodStart ∧
            OpeningBalanced db c.tenantId p.period.startDate p.period.endDate then
          μ (openingLegs db c.tenantId p.period.startDate p.period.endDate) else 0) := by
  rw [postedTotal, p.entries_after hs, postedSum_append, postedSum_append, ← add_assoc]
  congr 1
  · congr 1
    rcases p.closing_cases hs with ⟨hnil, hlegs⟩ | ⟨e, he, -, -, hT, hd, hps, hlegs, -⟩
    · rw [hnil, hlegs, hμ]
      simp
    · rw [he, postedSum_singleton]
      simp only [matches_posted hps, hT, hd, hlegs]
  · rcases p.opening_cases hs with ⟨hnil, hnb⟩ | ⟨hb, e, he, -, -, hT, hd, hps, hlegs, -⟩
    · rw [hnil, if_neg fun h => hnb h.2]
      rfl
    · rw [he, postedSum_singleton]
      simp only [matches_posted hps, hT, hd, hlegs, hb, and_true]

end Totals

end SaasChassis.Ledger
