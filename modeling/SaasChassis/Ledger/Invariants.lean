/-
  What holds in every reachable state of the ledger.

  `posted_balanced`: posted and reversed entries balance with a positive total, however they
  came about (a posted draft, a reversal, a closing or an opening entry). `added_oneSided`:
  the lines the code writes satisfy chk_debit_or_credit before the database checks it.
  `open_unlinked`: a period has no opening entry before it is closed.
-/
import SaasChassis.Ledger.StepTotals

namespace SaasChassis.Ledger

open SaasChassis.Lib

/-! ## Posted entries balance -/

/-- Every entry that is posted, or was, has equal debits and credits, above zero. -/
def PostedBalanced (db : LedgerDb) : Prop :=
  ∀ e ∈ db.entries, e.status = .posted ∨ e.status = .reversed → e.IsBalanced

theorem isBalanced_of_legs {e e' : JournalEntry} (h : e'.legs = e.legs) (hb : e.IsBalanced) :
    e'.IsBalanced := by
  rw [JournalEntry.IsBalanced, JournalEntry.totalDebits_eq, JournalEntry.totalCredits_eq] at hb ⊢
  rwa [h]

theorem isBalanced_of_swap {e e' : JournalEntry} (h : e'.legs = e.legs.map Leg.swap)
    (hb : e.IsBalanced) : e'.IsBalanced := by
  rw [JournalEntry.IsBalanced, JournalEntry.totalDebits_eq, JournalEntry.totalCredits_eq] at hb ⊢
  rw [h, Leg.debits_swap, Leg.credits_swap, ← hb.1]
  exact ⟨rfl, hb.2⟩

theorem legs_reversal {e r e' : JournalEntry} {reason : String} {u g : Guid} {now : DateTime}
    (h : e.createReversal reason u g now = .ok (r, e')) : r.legs = e.legs.map Leg.swap := by
  obtain ⟨-, -, -, -, -, -, -, -, -, -, -, -, hl⟩ := JournalEntry.createReversal_ok h
  rw [JournalEntry.legs, hl, List.map_map, JournalEntry.legs, List.map_map]
  rfl

/-- A rewritten entry keeps the invariant when its current value has it. -/
theorem postedBalanced_modified {db : LedgerDb} {cs : ChangeSet} (hs : db.Schema)
    (hi : PostedBalanced db) {entry current : JournalEntry} (hmem : entry ∈ db.entries)
    (hm : cs.modifiedEntries = [(entry, current)])
    (hcur : entry.writeChanges current entry = current) (hb : current.IsBalanced)
    (ha : ∀ e ∈ cs.addedEntries.map JournalEntry.stored, e.IsBalanced) :
    PostedBalanced (cs.apply db) := by
  intro e he hst
  rw [apply_entries_modified hs hmem hm hcur] at he
  rcases List.mem_append.mp he with he | he
  · rcases mem_updateKey.mp he with ⟨_, -, -, rfl⟩ | ⟨he, -⟩
    · exact hb
    · exact hi e he hst
  · exact ha e he

/-- What a command writes keeps the posted entries balanced. -/
theorem postedBalanced_step {env : Env} {cmd : LedgerCommand} {db : LedgerDb} {cs : ChangeSet}
    (hs : db.Schema) (hi : PostedBalanced db) (w : JournalWrite env db cmd cs) :
    PostedBalanced (cs.apply db) := by
  cases w with
  | untouched ha hm =>
    intro e he
    rw [apply_entries cs db hm, ha] at he
    exact hi e (by simpa using he)
  | created c hv =>
    intro e he hst
    rw [apply_entries _ db rfl] at he
    rcases List.mem_append.mp he with he | he
    · exact hi e he hst
    · -- the new entry is a draft
      rw [List.map_singleton, List.mem_singleton] at he
      rw [he, CreateJournalEntryHandler.newEntry_eq] at hst
      rcases hst with hst | hst <;> cases hst
  | posted c entry hmem hid hd hb =>
    exact postedBalanced_modified hs hi hmem rfl (writeChanges_posted entry _ _)
      (isBalanced_of_legs rfl hb) (by simp)
  | reversed c entry reversal current hmem hid hr =>
    have hst := stored_reversal hs hmem hr
    obtain ⟨hposted, -, rfl, -⟩ := JournalEntry.createReversal_ok hr
    have hb := hi entry hmem (Or.inl hposted)
    refine postedBalanced_modified hs hi hmem rfl (writeChanges_reversed entry _)
      (isBalanced_of_legs rfl hb) ?_
    simpa [hst] using isBalanced_of_swap (legs_reversal hr) hb
  | closed c _ p =>
    intro e he hst
    rw [p.entries_after hs] at he
    rcases List.mem_append.mp he with he | he
    · exact hi e he hst
    · obtain ⟨-, -, hb, -⟩ := p.mem_addedEntries hs (p.addedEntries_eq ▸ he)
      exact hb

theorem posted_balanced {db : LedgerDb} (h : Reachable db) : PostedBalanced db :=
  (reachable_invariant (fun _ _ he => absurd he List.not_mem_nil)
    (fun _ _ _ _ _ hs hi hc he _ => by
      rw [he]
      exact postedBalanced_step hs hi (changes_journal hc)) h).2

/-! ## Lines the code writes are one-sided -/

open CloseFiscalPeriodHandler in
theorem oneSided_closingLegs (db : LedgerDb) (T : Guid) (S E : DateOnly) (r : Guid) :
    ∀ l ∈ closingLegs db T S E r, l.OneSided := by
  intro l hl
  rcases List.mem_append.mp hl with hl | hl
  · exact Leg.oneSided_carryAll l hl
  · exact Leg.oneSided_carry l hl

open CloseFiscalPeriodHandler in
theorem oneSided_openingLegs (db : LedgerDb) (T : Guid) (S E : DateOnly) :
    ∀ l ∈ openingLegs db T S E, l.OneSided := fun l hl => Leg.oneSided_carryAll l hl

theorem oneSided_of_legs {e : JournalEntry} (h : ∀ l ∈ e.legs, l.OneSided) :
    ∀ l ∈ e.lines, l.leg.OneSided := fun l hl => h l.leg (List.mem_map_of_mem hl)

/-- Every added entry is stored with one-sided lines; for a user's draft, provided its amounts
    have at most four decimals. -/
theorem added_oneSided {env : Env} {cmd : LedgerCommand} {db : LedgerDb} {cs : ChangeSet}
    (hs : db.Schema) (w : JournalWrite env db cmd cs)
    (hdraft : ∀ e ∈ cs.addedEntries, e.status = .draft → ∀ l ∈ e.lines, LegScale4 l.leg) :
    ∀ e ∈ cs.addedEntries.map JournalEntry.stored, ∀ l ∈ e.lines, l.leg.OneSided := by
  cases w with
  | untouched ha hm => simp [ha]
  | created c hv =>
    have hst : (CreateJournalEntryHandler.newEntry env c).stored =
        CreateJournalEntryHandler.newEntry env c :=
      JournalEntry.stored_of_scale4 (hdraft _ (List.mem_singleton_self _)
        (by rw [CreateJournalEntryHandler.newEntry_eq]; rfl))
    simpa [hst] using CreateJournalEntryHandler.oneSided_of_validator hv env
  | posted c entry hmem hid hd hb => simp
  | reversed c entry reversal current hmem hid hr =>
    have hlegs := legs_reversal hr
    have hone : ∀ l ∈ reversal.lines, l.leg.OneSided := by
      refine oneSided_of_legs fun l hl => ?_
      rw [hlegs, JournalEntry.legs, List.map_map] at hl
      obtain ⟨k, hk, rfl⟩ := List.mem_map.mp hl
      exact Leg.oneSided_swap.mpr (hs.chk_debit_or_credit entry hmem k hk)
    simpa [stored_reversal hs hmem hr] using hone
  | closed c _ p =>
    intro e he
    rw [p.addedEntries_stored hs] at he
    obtain ⟨-, -, -, hlegs | hlegs⟩ := p.mem_addedEntries hs he
    · exact oneSided_of_legs (hlegs ▸ oneSided_closingLegs _ _ _ _ _)
    · exact oneSided_of_legs (hlegs ▸ oneSided_openingLegs _ _ _ _)

/-- An entry of the new journal has the tenant and the lines of an entry that was there, or was
    added. -/
theorem lines_after {env : Env} {cmd : LedgerCommand} {db : LedgerDb} {cs : ChangeSet}
    (hs : db.Schema) (w : JournalWrite env db cmd cs) {e : JournalEntry}
    (he : e ∈ (cs.apply db).entries) :
    (∃ q ∈ db.entries, e.tenantId = q.tenantId ∧ e.lines = q.lines) ∨
      e ∈ cs.addedEntries.map JournalEntry.stored := by
  have hmod : ∀ (x y : JournalEntry), x ∈ db.entries → cs.modifiedEntries = [(x, y)] →
      x.writeChanges y x = y → y.tenantId = x.tenantId ∧ y.lines = x.lines →
        (∃ q ∈ db.entries, e.tenantId = q.tenantId ∧ e.lines = q.lines) ∨
          e ∈ cs.addedEntries.map JournalEntry.stored := by
    intro x y hx hm hcur hl
    rw [apply_entries_modified hs hx hm hcur] at he
    rcases List.mem_append.mp he with he | he
    · rcases mem_updateKey.mp he with ⟨_, -, -, rfl⟩ | ⟨he, -⟩
      · exact Or.inl ⟨x, hx, hl⟩
      · exact Or.inl ⟨e, he, rfl, rfl⟩
    · exact Or.inr he
  have hadd : cs.modifiedEntries = [] →
      (∃ q ∈ db.entries, e.tenantId = q.tenantId ∧ e.lines = q.lines) ∨
        e ∈ cs.addedEntries.map JournalEntry.stored := by
    intro hm
    rw [apply_entries cs db hm] at he
    exact (List.mem_append.mp he).imp (fun he => ⟨e, he, rfl, rfl⟩) id
  cases w with
  | untouched ha hm => exact hadd hm
  | created c hv => exact hadd rfl
  | posted c entry hmem hid hd hb => exact hmod entry _ hmem rfl (writeChanges_posted ..) ⟨rfl, rfl⟩
  | reversed c entry reversal current hmem hid hr =>
    obtain ⟨-, -, rfl, -⟩ := JournalEntry.createReversal_ok hr
    exact hmod entry _ hmem rfl (writeChanges_reversed ..) ⟨rfl, rfl⟩
  | closed c _ p => exact hadd p.modifiedEntries_eq

/-- Tables whose lines are all one-sided are not refused for chk_debit_or_credit. -/
theorem violation_ne_chk {db : LedgerDb}
    (h : ∀ e ∈ db.entries, ∀ l ∈ e.lines, l.leg.OneSided) :
    db.violation ≠ some "chk_debit_or_credit" := by
  intro hv
  obtain ⟨⟨name, ok⟩, hf, hname⟩ := Option.map_eq_some_iff.mp hv
  have hmem := List.mem_of_find?_eq_some hf
  have hok := List.find?_some hf
  dsimp only at hname hok
  subst hname
  have hchk : ok = decide (∀ e ∈ db.entries, ∀ l ∈ e.lines, l.leg.OneSided) := by
    simpa [LedgerDb.constraints] using hmem
  rw [hchk, decide_eq_true h] at hok
  cases hok

/-- The double-entry rules of a ledger state. -/
structure DoubleEntry (db : LedgerDb) : Prop where
  posted_balanced : ∀ e ∈ db.entries, e.status = .posted ∨ e.status = .reversed →
    e.totalDebits = e.totalCredits ∧ 0 < e.totalDebits
  lines_oneSided : ∀ e ∈ db.entries, ∀ l ∈ e.lines, (0 < l.debitAmount ∧ l.creditAmount = 0) ∨
    (0 < l.creditAmount ∧ l.debitAmount = 0)
  /-- No save is refused by chk_debit_or_credit, unless a user's draft had an amount with more
      than four decimals. -/
  never_refused : ∀ env cmd cs, changes env cmd db = .ok cs →
    (∀ e ∈ cs.addedEntries, e.status = .draft → ∀ l ∈ e.lines, LegScale4 l.leg) →
      saveChanges env cs db ≠ .error (.dbUpdate (.violates "chk_debit_or_credit"))

/-- The double-entry invariant: it holds in every reachable state. -/
theorem double_entry {db : LedgerDb} (h : Reachable db) : DoubleEntry db := by
  have hs := reachable_schema h
  refine ⟨posted_balanced h, hs.chk_debit_or_credit, ?_⟩
  intro env cmd cs hc hdraft hsave
  have w := changes_journal hc
  have hone : ∀ e ∈ (cs.apply db).entries, ∀ l ∈ e.lines, l.leg.OneSided := by
    intro e he
    rcases lines_after hs w he with ⟨q, hq, -, hl⟩ | hadded
    · rw [hl]
      exact hs.chk_debit_or_credit q hq
    · exact added_oneSided hs w hdraft e hadded
  unfold saveChanges at hsave
  split at hsave
  · cases hsave
  · split at hsave
    · next name hv =>
      cases hsave
      exact violation_ne_chk hone hv
    · cases hsave

theorem double_entry_sample : DoubleEntry (Sample.ledger [Sample.close 401]) :=
  double_entry (Sample.ledger_reachable [Sample.close 401])

/-! ## Open periods have no opening entry yet -/

def OpenUnlinked (db : LedgerDb) : Prop :=
  ∀ p ∈ db.periods, p.status = .opened → p.openingBalanceEntryId = none

theorem apply_periods (cs : ChangeSet) (db : LedgerDb) (h : cs.modifiedPeriods = []) :
    (cs.apply db).periods = db.periods ++ cs.addedPeriods := by
  simp [ChangeSet.apply, h]

theorem apply_periods_modified {cs : ChangeSet} {db : LedgerDb} (hs : db.Schema)
    {period current : FiscalPeriod} (hmem : period ∈ db.periods)
    (ha : cs.addedPeriods = []) (h : cs.modifiedPeriods = [(period, current)])
    (hcur : period.writeChanges current period = current) :
    (cs.apply db).periods = updateKey (·.id) period.id (fun _ => current) db.periods := by
  simp only [ChangeSet.apply, h, ha, List.foldl_cons, List.foldl_nil, List.append_nil]
  rw [updateKey_const hs.periods_pkey hmem, hcur]

open CloseFiscalPeriodHandler in
theorem writeChanges_linkOpening (p : FiscalPeriod) (u : Guid) (now : DateTime)
    (opening : List JournalEntry) :
    let closed := { p with status := .closed, closedBy := some u, closedAt := some now }
    p.writeChanges (linkOpening closed opening) p = linkOpening closed opening := by
  cases opening <;>
    simp [FiscalPeriod.writeChanges, linkOpening, FiscalPeriod.setOpeningBalanceEntry,
      changedColumn_self]

/-- A close rewrites the period's own row and no other. -/
theorem CloseFiscalPeriodHandler.Prepared.periods_after {env : Env}
    {request : CloseFiscalPeriodCommand} {db : LedgerDb} {cs : ChangeSet} (hs : db.Schema)
    (p : Prepared env request db cs) :
    (cs.apply db).periods = updateKey (·.id) p.period.id
      (fun _ => linkOpening
        { p.period with
          status := .closed
          closedBy := some request.closedByUserId
          closedAt := some env.utcNow } p.opening) db.periods :=
  apply_periods_modified hs p.period_mem (congrArg (·.addedPeriods) p.changes_eq)
    (congrArg (·.modifiedPeriods) p.changes_eq) (writeChanges_linkOpening ..)

open CloseFiscalPeriodHandler in
theorem linkOpening_status (p : FiscalPeriod) (opening : List JournalEntry) :
    (linkOpening p opening).status = p.status := by
  cases opening <;> rfl

open CloseFiscalPeriodHandler in
theorem linkOpening_id (p : FiscalPeriod) (opening : List JournalEntry) :
    (linkOpening p opening).id = p.id := by
  cases opening <;> rfl

open CloseFiscalPeriodHandler in
theorem linkOpening_startDate (p : FiscalPeriod) (opening : List JournalEntry) :
    (linkOpening p opening).startDate = p.startDate := by
  cases opening <;> rfl

open CloseFiscalPeriodHandler in
theorem linkOpening_endDate (p : FiscalPeriod) (opening : List JournalEntry) :
    (linkOpening p opening).endDate = p.endDate := by
  cases opening <;> rfl

theorem openUnlinked_step {env : Env} {cmd : LedgerCommand} {db : LedgerDb} {cs : ChangeSet}
    (hs : db.Schema) (hi : OpenUnlinked db) (w : PeriodWrite env db cmd cs) :
    OpenUnlinked (cs.apply db) := by
  cases w with
  | untouched ha hm =>
    intro p hp
    rw [apply_periods cs db hm, ha] at hp
    exact hi p (by simpa using hp)
  | created c =>
    intro p hp hopen
    rw [apply_periods _ db rfl] at hp
    rcases List.mem_append.mp hp with hp | hp
    · exact hi p hp hopen
    · rw [List.mem_singleton.mp hp]
      rfl
  | closed c _ q =>
    intro p hp hopen
    rw [q.periods_after hs] at hp
    rcases mem_updateKey.mp hp with ⟨_, -, -, rfl⟩ | ⟨hp, -⟩
    · rw [linkOpening_status] at hopen
      cases hopen
    · exact hi p hp hopen

theorem open_unlinked {db : LedgerDb} (h : Reachable db) : OpenUnlinked db :=
  (reachable_invariant (fun _ _ hp => absurd hp List.not_mem_nil)
    (fun _ _ _ _ _ hs hi hc he _ => by
      rw [he]
      exact openUnlinked_step hs hi (changes_periods hc)) h).2

end SaasChassis.Ledger
