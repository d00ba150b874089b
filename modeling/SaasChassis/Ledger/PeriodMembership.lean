/-
  Whether an entry's PeriodId and its date name the same period.

  CreateJournalEntry looks the named period up by id alone and CloseFiscalPeriod looks for drafts
  by the request's tenant and the date range alone. `Filed` is the agreement of the two. Posting,
  reversing and creating periods keep it (`filed_post`, `filed_reverse`, `filed_other`);
  a stored create keeps it exactly when the named period is the tenant's and has the date
  (`filed_create_iff`), a stored close exactly when it is for the period's own tenant or finds
  nothing to write or to check (`filed_close_iff`). `filed_iff` carries both along a run.
-/
import SaasChassis.Ledger.ClosedPeriods

namespace SaasChassis.Ledger

open SaasChassis.Lib
open CloseFiscalPeriodHandler

/-- Tenant and date are the period's. -/
def FiscalPeriod.Contains (p : FiscalPeriod) (tenantId : Guid) (d : DateOnly) : Prop :=
  p.tenantId = tenantId ∧ InPeriod p.startDate p.endDate d

instance (p : FiscalPeriod) (tenantId : Guid) (d : DateOnly) : Decidable (p.Contains tenantId d) :=
  inferInstanceAs (Decidable (_ ∧ _))

/-- `e` may bear the id of `p`: it lies in it, and is no draft once `p` is closed. -/
def FiscalPeriod.Admits (p : FiscalPeriod) (e : JournalEntry) : Prop :=
  p.Contains e.tenantId e.entryDate ∧ (p.status = .closed → e.status ≠ .draft)

instance (p : FiscalPeriod) (e : JournalEntry) : Decidable (p.Admits e) :=
  inferInstanceAs (Decidable (_ ∧ _))

/-- Every entry with a PeriodId lies in that period. -/
def Filed (db : LedgerDb) : Prop :=
  ∀ e ∈ db.entries, ∀ id ∈ e.periodId, ∃ p ∈ db.periods, p.id = id ∧ p.Admits e

instance (db : LedgerDb) : Decidable (Filed db) :=
  @List.decidableBAll _ _ (fun _ => Option.decidableForallMem _) _

/-- The handler gets as far as the save and the database accepts it. -/
def Saved (db : LedgerDb) (i : Env × LedgerCommand) : Prop :=
  ∃ cs, changes i.1 i.2 db = .ok cs ∧ ∃ db', saveChanges i.1 cs db = .ok db'

/-- A create that is saved names, if any, a period of its own tenant that has its date; a close
    that is saved is for the period's own tenant, unless no draft bears the period's id and the
    request's tenant has nothing on its active Revenue and Expense accounts. -/
def FilesRight (db : LedgerDb) (i : Env × LedgerCommand) : Prop :=
  match i.2 with
  | .createJournalEntry c => Saved db i →
      ∀ id ∈ c.periodId, ∃ p ∈ db.periods, p.id = id ∧ p.Contains c.tenantId c.entryDate
  | .closeFiscalPeriod c => Saved db i → ∀ p ∈ db.periods, p.id = c.periodId →
      p.tenantId = c.tenantId ∨
        (∀ e ∈ db.entries, e.periodId = some p.id → e.status ≠ .draft) ∧
        ∀ a ∈ db.accounts, a.tenantId = c.tenantId → a.isActive → a.IsIncome →
          periodNet db c.tenantId p.startDate p.endDate a.id = 0
  | _ => True

/-! ## What is saved -/

theorem commit_saved {α : Type} {env : Env} {b : Bool} {db db' : LedgerDb} {cs : ChangeSet}
    {prepared : Except LedgerException (ChangeSet × α)} (hc : prepared.map (·.1) = .ok cs)
    (hs : saveChanges env cs db = .ok db') : (commit env b prepared db).1 = db' := by
  obtain ⟨a, rfl⟩ := map_fst_eq_ok hc
  simp only [commit, hs]
  split <;> rfl

/-- A command that is not saved leaves the tables alone. -/
theorem step_of_not_saved {db : LedgerDb} {i : Env × LedgerCommand} (h : ¬Saved db i) :
    step db i = db := by
  rcases step_cases db i with he | ⟨cs, hc, hs⟩
  · exact he
  · exact absurd ⟨cs, hc, _, hs⟩ h

theorem step_create_saved {db : LedgerDb} {env : Env} {c : CreateJournalEntryCommand}
    (h : Saved db (env, .createJournalEntry c)) :
    CreateJournalEntryHandler.checkPeriod c.periodId db = .ok () ∧
      (step db (env, .createJournalEntry c)).periods = db.periods ∧
      (step db (env, .createJournalEntry c)).entries =
        db.entries ++ [(CreateJournalEntryHandler.newEntry env c).stored] := by
  obtain ⟨cs, hc, db', hs⟩ := h
  have hstep : step db (env, .createJournalEntry c) = cs.apply db :=
    (commit_saved hc hs).trans (saveChanges_ok hs).1
  obtain ⟨id, hprep⟩ := map_fst_eq_ok hc
  obtain ⟨-, hp, rfl⟩ := CreateJournalEntryHandler.prepare_ok hprep
  rw [hstep]
  exact ⟨hp, (apply_periods _ db rfl).trans (List.append_nil _), apply_entries _ db rfl⟩

/-- `checkPeriod` lets only open periods through. -/
theorem checkPeriod_opened {db : LedgerDb} (hs : db.Schema) {periodId : Option Guid}
    (h : CreateJournalEntryHandler.checkPeriod periodId db = .ok ()) {p : FiscalPeriod}
    (hp : p ∈ db.periods) (hid : periodId = some p.id) : p.status = .opened := by
  have hfind : db.getPeriodById p.id = some p := find?_key hs.periods_pkey hp
  subst hid
  simp only [CreateJournalEntryHandler.checkPeriod, hfind] at h
  split at h
  · cases h
  · next hopen => exact not_not.mp hopen

/-- The drafts a close looks for: those of its tenant in the period's range. -/
theorem no_drafts_of_prepared {env : Env} {c : CloseFiscalPeriodCommand} {db : LedgerDb}
    {cs : ChangeSet} (hs : db.Schema) (h : changes env (.closeFiscalPeriod c) db = .ok cs)
    {p : FiscalPeriod} (hp : p ∈ db.periods) (hid : p.id = c.periodId) :
    ∀ e ∈ periodEntries c p db, e.status ≠ .draft := by
  obtain ⟨u, h⟩ := map_fst_eq_ok h
  obtain ⟨q, hq, h⟩ := bind_eq_ok.mp h
  obtain ⟨_, hd, -⟩ := bind_eq_ok.mp h
  obtain ⟨hmem, hqid, -⟩ := loadPeriod_ok hq
  obtain rfl : p = q := nodup_keys_inj hs.periods_pkey hp hmem (hid.trans hqid.symm)
  exact checkNoDrafts_ok.mp hd

/-! ## Steps that file nothing new -/

theorem filed_untouched {db : LedgerDb} {cs : ChangeSet} (hf : Filed db)
    (ha : cs.addedEntries = []) (hm : cs.modifiedEntries = []) (hp : cs.modifiedPeriods = []) :
    Filed (cs.apply db) := by
  intro e he id hid
  rw [apply_entries cs db hm, ha, List.map_nil, List.append_nil] at he
  obtain ⟨p, hpm, hrest⟩ := hf e he id hid
  rw [apply_periods cs db hp]
  exact ⟨p, List.mem_append_left _ hpm, hrest⟩

/-- An entry rewritten without touching what its period admits it by, and entries that name no
    period. -/
theorem filed_modified {db : LedgerDb} {cs : ChangeSet} (hs : db.Schema) (hf : Filed db)
    {entry current : JournalEntry} (hmem : entry ∈ db.entries)
    (h : cs.modifiedEntries = [(entry, current)])
    (hcur : entry.writeChanges current entry = current)
    (hsame : current.periodId = entry.periodId ∧ current.tenantId = entry.tenantId ∧
      current.entryDate = entry.entryDate) (hst : current.status ≠ .draft)
    (ha : ∀ e ∈ cs.addedEntries, e.stored.periodId = none) (hp : cs.modifiedPeriods = [])
    (hp' : cs.addedPeriods = []) : Filed (cs.apply db) := by
  obtain ⟨hperiod, hT, hdate⟩ := hsame
  intro e he id hid
  rw [apply_periods cs db hp, hp', List.append_nil]
  rw [apply_entries_modified hs hmem h hcur, List.mem_append] at he
  rcases he with he | he
  · rcases mem_updateKey.mp he with ⟨_, -, -, rfl⟩ | ⟨he, -⟩
    · obtain ⟨p, hpm, hpid, hin, -⟩ := hf entry hmem id (hperiod ▸ hid)
      refine ⟨p, hpm, hpid, ?_, fun _ => hst⟩
      rwa [hT, hdate]
    · exact hf e he id hid
  · obtain ⟨a, haa, rfl⟩ := List.mem_map.mp he
    rw [ha a haa] at hid
    cases hid

theorem filed_post {db : LedgerDb} (hs : db.Schema) (hf : Filed db) {entry : JournalEntry}
    (hmem : entry ∈ db.entries) (u : Guid) (now : DateTime) :
    Filed (ChangeSet.apply { modifiedEntries := [(entry,
      { entry with status := .posted, postedBy := some u, postedAt := some now })] } db) :=
  filed_modified hs hf hmem rfl (writeChanges_posted entry u now) ⟨rfl, rfl, rfl⟩
    (fun h => nomatch h) (fun _ he => absurd he List.not_mem_nil) rfl rfl

theorem filed_reverse {db : LedgerDb} (hs : db.Schema) (hf : Filed db)
    {entry reversal current : JournalEntry} (hmem : entry ∈ db.entries) {reason : String}
    {u g : Guid} {now : DateTime}
    (h : entry.createReversal reason u g now = .ok (reversal, current)) :
    Filed (ChangeSet.apply
      { addedEntries := [reversal], modifiedEntries := [(entry, current)] } db) := by
  obtain ⟨-, -, rfl, -, -, -, -, -, hnone, -⟩ := JournalEntry.createReversal_ok h
  refine filed_modified hs hf hmem rfl (writeChanges_reversed entry g) ⟨rfl, rfl, rfl⟩
    (fun h => nomatch h) (fun e he => ?_) rfl rfl
  rw [List.mem_singleton.mp he]
  exact hnone

theorem filed_other {db : LedgerDb} {env : Env} {cmd : LedgerCommand} {cs : ChangeSet}
    (hs : db.Schema) (hf : Filed db) (w : Commits env db cmd cs)
    (hcreate : ∀ c, cmd ≠ .createJournalEntry c) (hclose : ∀ c, cmd ≠ .closeFiscalPeriod c) :
    Filed (cs.apply db) := by
  cases w with
  | createJournalEntry c valid period => exact absurd rfl (hcreate c)
  | closeFiscalPeriod c _ prepared => exact absurd rfl (hclose c)
  | postJournalEntry c entry mem id draft balanced => exact filed_post hs hf mem _ _
  | reverseJournalEntry c entry reversal current mem id ok => exact filed_reverse hs hf mem ok
  | _ => exact filed_untouched hf rfl rfl rfl

/-! ## Creating an entry -/

theorem newEntry_stored_fields (env : Env) (c : CreateJournalEntryCommand) :
    let n := (CreateJournalEntryHandler.newEntry env c).stored
    n.periodId = c.periodId ∧ n.tenantId = c.tenantId ∧ n.entryDate = c.entryDate ∧
      n.status = .draft := by
  rw [CreateJournalEntryHandler.newEntry_eq]
  exact ⟨rfl, rfl, rfl, rfl⟩

theorem filed_create_iff {db : LedgerDb} (hs : db.Schema) (hf : Filed db) {env : Env}
    {c : CreateJournalEntryCommand} (h : Saved db (env, .createJournalEntry c)) :
    Filed (step db (env, .createJournalEntry c)) ↔
      ∀ id ∈ c.periodId, ∃ p ∈ db.periods, p.id = id ∧ p.Contains c.tenantId c.entryDate := by
  obtain ⟨hcheck, hperiods, hentries⟩ := step_create_saved h
  obtain ⟨hperiod, hT, hdate, hdraft⟩ := newEntry_stored_fields env c
  unfold Filed
  rw [hperiods, hentries]
  constructor
  · intro hfiled id hid
    obtain ⟨p, hp, hpid, hin, -⟩ := hfiled _ (List.mem_append_right _ (List.mem_singleton_self _))
      id (hperiod ▸ hid)
    rw [hT, hdate] at hin
    exact ⟨p, hp, hpid, hin⟩
  · intro hright e he id hid
    rcases List.mem_append.mp he with he | he
    · exact hf e he id hid
    · obtain rfl := List.mem_singleton.mp he
      rw [hperiod] at hid
      obtain ⟨p, hp, rfl, hin⟩ := hright id hid
      have hopen : p.status = .opened := checkPeriod_opened hs hcheck hp hid
      refine ⟨p, hp, rfl, ?_, fun hclosed => absurd (hopen.symm.trans hclosed) (by decide)⟩
      rwa [hT, hdate]

/-! ## Closing a period -/

/-- Nothing is swept exactly when no active Revenue or Expense account has anything on it. -/
theorem closingLegs_eq_nil_iff {db : LedgerDb} {T : Guid} {S E : DateOnly} (r : Guid) :
    closingLegs db T S E r = [] ↔ ∀ a ∈ db.accounts, a.tenantId = T → a.isActive → a.IsIncome →
      periodNet db T S E a.id = 0 := by
  refine ⟨fun h a ha hT hact hinc => ?_, closingLegs_eq_nil r⟩
  have hmem : a ∈ incomeAccounts (db.getAllByTenant T) :=
    List.mem_filter.mpr ⟨LedgerDb.mem_getAllByTenant.mpr ⟨ha, hT⟩, decide_eq_true ⟨hact, hinc⟩⟩
  have hz := Leg.carryAll_eq_nil.mp (List.append_eq_nil_iff.mp h).1 a.id (List.mem_map_of_mem hmem)
  exact neg_eq_zero.mp hz

theorem closing_eq_nil_iff {env : Env} {c : CloseFiscalPeriodCommand} {db : LedgerDb}
    {cs : ChangeSet} (hs : db.Schema) (q : Prepared env c db cs) :
    q.closing = [] ↔ ∀ a ∈ db.accounts, a.tenantId = c.tenantId → a.isActive → a.IsIncome →
      periodNet db c.tenantId q.period.startDate q.period.endDate a.id = 0 := by
  rw [← closingLegs_eq_nil_iff q.retainedSurplus.id]
  rcases q.closing_cases hs with ⟨hc, hl⟩ | ⟨e, hc, -, -, -, -, -, hl, hb⟩
  · exact iff_of_true hc hl
  · refine iff_of_false (hc ▸ List.cons_ne_nil e []) fun hnil => ?_
    exact legs_ne_nil hb (hl.trans hnil)

section Close

variable {env : Env} {c : CloseFiscalPeriodCommand} {db : LedgerDb} {cs : ChangeSet}

/-- The row of the closed period. -/
def CloseFiscalPeriodHandler.Prepared.closedRow (q : Prepared env c db cs) : FiscalPeriod :=
  linkOpening
    { q.period with
      status := .closed
      closedBy := some c.closedByUserId
      closedAt := some env.utcNow } q.opening

theorem closedRow_spec (q : Prepared env c db cs) :
    q.closedRow.id = c.periodId ∧ q.closedRow.status = .closed ∧
      ∀ T d, q.closedRow.Contains T d ↔ q.period.Contains T d := by
  have hT : q.closedRow.tenantId = q.period.tenantId := by
    unfold Prepared.closedRow
    cases q.opening <;> rfl
  refine ⟨(linkOpening_id _ _).trans q.period_id, linkOpening_status _ _, fun T d => ?_⟩
  unfold FiscalPeriod.Contains
  rw [hT, Prepared.closedRow, linkOpening_startDate, linkOpening_endDate]

/-- The row a saved close leaves under the period's id. -/
theorem mem_periods_after (hs : db.Schema) (q : Prepared env c db cs) {p : FiscalPeriod} :
    p ∈ (cs.apply db).periods ↔ p = q.closedRow ∨ (p ∈ db.periods ∧ p.id ≠ c.periodId) := by
  rw [q.periods_after hs, mem_updateKey, q.period_id]
  constructor
  · rintro (⟨_, -, -, rfl⟩ | h)
    · exact Or.inl rfl
    · exact Or.inr h
  · rintro (rfl | h)
    · exact Or.inl ⟨q.period, q.period_mem, q.period_id, rfl⟩
    · exact Or.inr h

/-- What `Filed` asks of an entry after the close: of one that names the period, to lie in it and
    be no draft. -/
theorem filed_after_iff (hs : db.Schema) (hf : Filed db) (q : Prepared env c db cs) :
    Filed (cs.apply db) ↔
      (∀ e ∈ db.entries, e.periodId = some q.period.id → e.status ≠ .draft) ∧
        ∀ e ∈ q.closing, q.period.Contains e.tenantId e.entryDate := by
  obtain ⟨hid, hclosed, hcontains⟩ := closedRow_spec q
  have hrow : ∀ {e : JournalEntry}, (∃ p ∈ (cs.apply db).periods, p.id = c.periodId ∧ p.Admits e) ↔
      q.period.Contains e.tenantId e.entryDate ∧ e.status ≠ .draft := by
    intro e
    constructor
    · rintro ⟨p, hp, hpid, hin, hst⟩
      rcases (mem_periods_after hs q).mp hp with rfl | ⟨-, hne⟩
      · exact ⟨(hcontains _ _).mp hin, hst hclosed⟩
      · exact absurd hpid hne
    · rintro ⟨hin, hst⟩
      exact ⟨q.closedRow, (mem_periods_after hs q).mpr (Or.inl rfl), hid, (hcontains _ _).mpr hin,
        fun _ => hst⟩
  unfold Filed
  rw [q.entries_after hs]
  constructor
  · intro h
    refine ⟨fun e he hperiod => ?_, fun e he => ?_⟩
    · rw [q.period_id] at hperiod
      exact (hrow.mp (h e (List.mem_append_left _ he) _ hperiod)).2
    · have hmem : e ∈ db.entries ++ (q.closing ++ q.opening) := by simp [he]
      exact (hrow.mp (h e hmem _ (q.closing_source he).2)).1
  · rintro ⟨hdrafts, hclosing⟩ e he id hperiod
    rcases List.mem_append.mp he with he | he
    · obtain ⟨p, hp, rfl, hadm⟩ := hf e he id hperiod
      by_cases hpid : p.id = c.periodId
      · obtain rfl : p = q.period :=
          nodup_keys_inj hs.periods_pkey hp q.period_mem (hpid.trans q.period_id.symm)
        rw [hpid]
        exact hrow.mpr ⟨hadm.1, hdrafts e he hperiod⟩
      · exact ⟨p, (mem_periods_after hs q).mpr (Or.inr ⟨hp, hpid⟩), rfl, hadm⟩
    · rcases List.mem_append.mp he with he' | he'
      · rw [(q.closing_source he').2] at hperiod
        cases hperiod
        exact hrow.mpr ⟨hclosing e he', by rw [(q.added_header he).1]; decide⟩
      · have hnone : e.periodId = none := congrArg (·.periodId) (q.opening_header he')
        rw [hnone] at hperiod
        cases hperiod

theorem closing_contains_iff (hs : db.Schema) (q : Prepared env c db cs) :
    (∀ e ∈ q.closing, q.period.Contains e.tenantId e.entryDate) ↔
      (q.period.tenantId = c.tenantId ∨ q.closing = []) := by
  rcases q.closing_cases hs with ⟨hnil, -⟩ | ⟨e, hc, -, -, hT, hdate, -, -, -⟩
  · exact iff_of_true (by simp [hnil]) (Or.inr hnil)
  · -- something was read in the range, so it has a day
    have hle : q.period.startDate ≤ q.period.endDate := by
      by_contra hlt
      have hnil := (closing_eq_nil_iff hs q).mpr fun a _ _ _ _ => periodNet_of_empty hlt _ _ _
      exact absurd (hc.symm.trans hnil) (List.cons_ne_nil e [])
    rw [hc]
    simp [FiscalPeriod.Contains, InPeriod, hT, hdate, hle]

theorem filed_close_iff (hs : db.Schema) (hf : Filed db) (q : Prepared env c db cs)
    (hdrafts : ∀ e ∈ periodEntries c q.period db, e.status ≠ .draft) :
    Filed (cs.apply db) ↔ q.period.tenantId = c.tenantId ∨
      (∀ e ∈ db.entries, e.periodId = some q.period.id → e.status ≠ .draft) ∧
        ∀ a ∈ db.accounts, a.tenantId = c.tenantId → a.isActive → a.IsIncome →
          periodNet db c.tenantId q.period.startDate q.period.endDate a.id = 0 := by
  rw [filed_after_iff hs hf q, closing_contains_iff hs q, ← closing_eq_nil_iff hs q, and_or_left]
  refine or_congr_left (and_iff_right_of_imp fun hT e he hperiod => ?_)
  -- what is filed under the period lies in it, where the close looked for drafts
  obtain ⟨p, hp, hpid, ⟨hpT, hin⟩, -⟩ := hf e he _ hperiod
  obtain rfl : p = q.period := nodup_keys_inj hs.periods_pkey hp q.period_mem hpid
  exact hdrafts e (mem_periodEntries.mpr ⟨he, hpT.symm.trans hT, hin⟩)

end Close

/-! ## Runs -/

/-- A step keeps the agreement exactly when it files right. -/
theorem filed_step_iff {db : LedgerDb} (hs : db.Schema) (hf : Filed db)
    (i : Env × LedgerCommand) : FilesRight db i ↔ Filed (step db i) := by
  obtain ⟨env, cmd⟩ := i
  by_cases hsaved : Saved db (env, cmd)
  case neg =>
    rw [step_of_not_saved hsaved]
    refine iff_of_true ?_ hf
    cases cmd <;> first | trivial | exact fun h => absurd h hsaved
  case pos =>
    cases cmd with
    | createJournalEntry c =>
      rw [filed_create_iff hs hf hsaved]
      exact ⟨fun h => h hsaved, fun h _ => h⟩
    | closeFiscalPeriod c =>
      obtain ⟨cs, hc, db', hsave⟩ := hsaved
      have hstep : step db (env, .closeFiscalPeriod c) = cs.apply db :=
        (commit_saved hc hsave).trans (saveChanges_ok hsave).1
      have hsaved : Saved db (env, .closeFiscalPeriod c) := ⟨cs, hc, db', hsave⟩
      obtain ⟨u, hprep⟩ := map_fst_eq_ok hc
      obtain ⟨q⟩ := prepare_ok hprep
      rw [hstep, filed_close_iff hs hf q (no_drafts_of_prepared hs hc q.period_mem q.period_id)]
      constructor
      · exact fun h => h hsaved q.period q.period_mem q.period_id
      · intro h _ p hp hid
        obtain rfl : p = q.period :=
          nodup_keys_inj hs.periods_pkey hp q.period_mem (hid.trans q.period_id.symm)
        exact h
    | _ =>
      refine iff_of_true trivial ?_
      rcases step_cases db (env, _) with he | ⟨cs, hc, hsave⟩
      · rwa [he]
      · rw [(saveChanges_ok hsave).1]
        exact filed_other hs hf (changes_ok hc) (fun _ h => nomatch h) fun _ h => nomatch h

/-- In every run from a new database, every entry with a PeriodId lies in that period, and is no
    draft once it is closed, in every state exactly when every step files right. -/
theorem filed_iff (templates : List AccountTemplate) (cmds : List (Env × LedgerCommand)) :
    StepsSatisfy step FilesRight (LedgerDb.seeded templates) cmds ↔
      ∀ n, Filed (run step (LedgerDb.seeded templates) (cmds.take n)) :=
  stepsSatisfy_iff (I := LedgerDb.Schema)
    (fun db i hs => by
      rcases step_cases db i with he | ⟨cs, -, hsave⟩
      · rwa [he]
      · exact (saveChanges_ok hsave).2)
    (fun db i hs hf => filed_step_iff hs hf i) (seeded_schema templates)
    (fun e he => absurd he List.not_mem_nil) cmds

namespace Sample

/-- A draft of tenant 1 dated day 25 that names the period of days 5 to 20. -/
def misfiled : Env × LedgerCommand :=
  (on 2 601, .createJournalEntry ⟨1, 25, "entry", none, some 301, none,
    [⟨101, 70, 0, none⟩, ⟨102, 0, 70, none⟩]⟩)

end Sample

/-- A draft that names the period is accepted though its date lies outside it, and the period is
    then closed over it. -/
theorem draft_left_in_closed_period :
    let db := Sample.ledger [Sample.misfiled, Sample.close 401]
    Reachable db ∧
      (∃ e ∈ db.entries, e.id = 601 ∧ e.periodId = some 301 ∧ e.entryDate = 25 ∧
        e.status = .draft) ∧
      (∃ p ∈ db.periods, p.id = 301 ∧ p.startDate = 5 ∧ p.endDate = 20 ∧ p.status = .closed) ∧
      ¬Filed db := by
  exact ⟨Sample.ledger_reachable _, by decide +kernel, by decide +kernel, by decide +kernel⟩

end SaasChassis.Ledger
