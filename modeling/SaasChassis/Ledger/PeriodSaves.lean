/-
  What the saves of postings and of closes do to a period, whatever has been saved since their
  requests read it.

  `CloseInvariant` is what holds of the tables while postings and closes of one period run:
  the period is open and no entry has been added, or it is over and the entries added are those
  of one close. `HoldsRequest` is what a request holds in between. A posting cannot slip in
  between the reads and the save of a close: what it posts is a draft, and the close has refused
  drafts (`PostSave.status_eq`). So what a close holds is what it would read and prepare now
  (`PostSave.prepare_eq`), until another close saves (`CloseSave.holds`).
-/
import SaasChassis.Ledger.ClosedPeriods
import SaasChassis.Ledger.PeriodClose
import SaasChassis.Ledger.Requests

namespace SaasChassis.Ledger

open SaasChassis.Lib
open CloseFiscalPeriodHandler (closingLegs periodEntries postedLines checkNoDrafts checkNoDrafts_ok
  mem_periodEntries Prepared)

/-- Entry `e` is of the period's tenant and dated in the period. -/
def FiscalPeriod.Covers (p : FiscalPeriod) (e : JournalEntry) : Prop :=
  e.tenantId = p.tenantId ∧ InPeriod p.startDate p.endDate e.entryDate

theorem matches_posted_iff {p : FiscalPeriod} {e : JournalEntry} :
    LedgerDb.Matches p.tenantId (some p.startDate) (some p.endDate) (some .posted) e ↔
      p.Covers e ∧ e.status = .posted := by
  simp [LedgerDb.Matches, FiscalPeriod.Covers, InPeriod, and_assoc]

/-- The period is stored, and no longer open. -/
def Over (p : FiscalPeriod) (db : LedgerDb) : Prop :=
  ∃ q ∈ db.periods, q.id = p.id ∧ q.status ≠ .opened

/-- The period is still as it was at `start`, open, and no entry has been added. -/
structure StillOpen (start : LedgerDb) (p : FiscalPeriod) (db : LedgerDb) : Prop where
  mem : p ∈ db.periods
  opened : p.status = .opened
  ids : db.entries.map (·.id) = start.entries.map (·.id)

theorem not_stillOpen_of_over {start db : LedgerDb} {p : FiscalPeriod} (hs : db.Schema)
    (h : Over p db) : ¬StillOpen start p db := by
  obtain ⟨q, hq, hid, hst⟩ := h
  intro ho
  rw [nodup_keys_inj hs.periods_pkey hq ho.mem hid] at hst
  exact hst ho.opened

/-- The entries that have come from `sourceModule` since `start`. -/
def storedSince (start db : LedgerDb) (sourceModule : String) : List JournalEntry :=
  db.entries.filter fun e =>
    e.id ∉ start.entries.map (·.id) ∧ e.sourceModule = some sourceModule

/-- The books without the entries added since `start`. -/
def withoutNew (start db : LedgerDb) : LedgerDb :=
  { db with entries := db.entries.filter fun e => e.id ∈ start.entries.map (·.id) }

theorem closingLegs_congr {db db' : LedgerDb} {T : Guid} {S E : DateOnly}
    (ha : db'.accounts = db.accounts)
    (hl : db'.postedLegs T (some S) (some E) = db.postedLegs T (some S) (some E)) (r : Guid) :
    closingLegs db' T S E r = closingLegs db T S E r := by
  have hall : db'.getAllByTenant T = db.getAllByTenant T := by
    unfold LedgerDb.getAllByTenant
    rw [ha]
  have hnet : CloseFiscalPeriodHandler.periodNet db' T S E =
      CloseFiscalPeriodHandler.periodNet db T S E := by
    funext a
    rw [CloseFiscalPeriodHandler.periodNet, CloseFiscalPeriodHandler.periodNet, hl]
  unfold closingLegs
  rw [hall, hnet]

/-! ## The save of a posting -/

/-- What the save of a posting does. It posts a row that is not reversed and was there at
    `start`; when the period is over, not a draft dated in it. -/
structure PostSave (start : LedgerDb) (p : FiscalPeriod) (db db' : LedgerDb) where
  schema : db'.Schema
  periods_eq : db'.periods = db.periods
  accounts_eq : db'.accounts = db.accounts
  write : JournalEntry → JournalEntry
  entries_eq : db'.entries = db.entries.map write
  keeps : ∀ e, ∃ st u t, write e = { e with status := st, postedBy := u, postedAt := t }
  posts : ∀ e ∈ db.entries, write e = e ∨
    ((write e).status = .posted ∧ e.status ≠ .reversed ∧ e.id ∈ start.entries.map (·.id) ∧
      (Over p db → p.Covers e → e.status ≠ .draft))

namespace PostSave

variable {start db db' : LedgerDb} {p : FiscalPeriod} (w : PostSave start p db db')

include w

theorem id_eq (e : JournalEntry) : (w.write e).id = e.id := by
  obtain ⟨st, u, t, h⟩ := w.keeps e
  rw [h]

theorem tenantId_eq (e : JournalEntry) : (w.write e).tenantId = e.tenantId := by
  obtain ⟨st, u, t, h⟩ := w.keeps e
  rw [h]

theorem entryDate_eq (e : JournalEntry) : (w.write e).entryDate = e.entryDate := by
  obtain ⟨st, u, t, h⟩ := w.keeps e
  rw [h]

theorem sourceModule_eq (e : JournalEntry) : (w.write e).sourceModule = e.sourceModule := by
  obtain ⟨st, u, t, h⟩ := w.keeps e
  rw [h]

theorem lines_eq (e : JournalEntry) : (w.write e).lines = e.lines := by
  obtain ⟨st, u, t, h⟩ := w.keeps e
  rw [h]

theorem covers_iff (e : JournalEntry) : p.Covers (w.write e) ↔ p.Covers e := by
  rw [FiscalPeriod.Covers, w.tenantId_eq, w.entryDate_eq]
  rfl

/-- Only the status of a draft changes. -/
theorem status_eq {e : JournalEntry} (he : e ∈ db.entries) (hd : e.status ≠ .draft) :
    (w.write e).status = e.status := by
  rcases w.posts e he with h | ⟨hposted, hr, -⟩
  · rw [h]
  · rw [hposted]
    cases hst : e.status with
    | draft => exact absurd hst hd
    | posted => rfl
    | reversed => exact absurd hst hr

theorem status_ne_draft {e : JournalEntry} (he : e ∈ db.entries) (hd : e.status ≠ .draft) :
    (w.write e).status ≠ .draft := by
  rw [w.status_eq he hd]
  exact hd

/-- The entries added since `start` are not touched. -/
theorem write_new {e : JournalEntry} (he : e ∈ db.entries)
    (hnew : e.id ∉ start.entries.map (·.id)) : w.write e = e := by
  rcases w.posts e he with h | ⟨-, -, hold, -⟩
  · exact h
  · exact absurd hold hnew

theorem ids_eq : db'.entries.map (·.id) = db.entries.map (·.id) := by
  rw [w.entries_eq, List.map_map]
  exact List.map_congr_left fun e _ => w.id_eq e

theorem over_iff : Over p db' ↔ Over p db := by
  rw [Over, w.periods_eq]
  rfl

theorem stillOpen_iff : StillOpen start p db' ↔ StillOpen start p db := by
  constructor
  · rintro ⟨hmem, hopen, hids⟩
    exact ⟨w.periods_eq ▸ hmem, hopen, w.ids_eq ▸ hids⟩
  · rintro ⟨hmem, hopen, hids⟩
    exact ⟨w.periods_eq ▸ hmem, hopen, w.ids_eq.trans hids⟩

theorem storedSince_eq (m : String) : storedSince start db' m = storedSince start db m := by
  unfold storedSince
  rw [w.entries_eq, List.filter_map]
  simp only [Function.comp_def, w.id_eq, w.sourceModule_eq]
  refine (List.map_congr_left fun e he => ?_).trans (List.map_id _)
  obtain ⟨hmem, hnew⟩ := List.mem_filter.mp he
  exact w.write_new hmem (of_decide_eq_true hnew).1

/-! What a close reads. -/

theorem periodEntries_eq (c : CloseFiscalPeriodCommand) :
    periodEntries c p db' = (periodEntries c p db).map w.write :=
  LedgerDb.getByTenant_map w.entries_eq (fun e => ⟨w.tenantId_eq e, w.entryDate_eq e⟩) _ _ _

theorem noDrafts {c : CloseFiscalPeriodCommand}
    (h : checkNoDrafts (periodEntries c p db) = .ok ()) :
    checkNoDrafts (periodEntries c p db') = .ok () := by
  rw [checkNoDrafts_ok] at h ⊢
  rw [w.periodEntries_eq, List.forall_mem_map]
  intro e he
  exact w.status_ne_draft (mem_periodEntries.mp he).1 (h e he)

theorem postedLines_eq {c : CloseFiscalPeriodCommand}
    (h : checkNoDrafts (periodEntries c p db) = .ok ()) :
    postedLines (periodEntries c p db') = postedLines (periodEntries c p db) := by
  rw [checkNoDrafts_ok] at h
  unfold postedLines
  rw [w.periodEntries_eq, List.filter_map, List.flatMap_map]
  simp only [w.lines_eq]
  congr 1
  refine List.filter_congr fun e he => ?_
  show decide ((w.write e).status = .posted) = decide (e.status = .posted)
  rw [w.status_eq (mem_periodEntries.mp he).1 (h e he)]

/-- Once the period is over, the posted lines dated in it stay. -/
theorem postedLegs_eq (h : Over p db) :
    (withoutNew start db').postedLegs p.tenantId (some p.startDate) (some p.endDate) =
      (withoutNew start db).postedLegs p.tenantId (some p.startDate) (some p.endDate) := by
  have hmatch : ∀ e ∈ db.entries, (p.Covers (w.write e) ∧ (w.write e).status = .posted) ↔
      (p.Covers e ∧ e.status = .posted) := by
    intro e he
    rw [w.covers_iff]
    refine and_congr_right fun hc => ?_
    rcases w.posts e he with hsame | ⟨-, -, -, hd⟩
    · rw [hsame]
    · rw [w.status_eq he (hd h hc)]
  have hlegs : ∀ e, (w.write e).legs = e.legs := by
    intro e
    rw [JournalEntry.legs, JournalEntry.legs, w.lines_eq]
  simp only [LedgerDb.postedLegs, withoutNew, w.entries_eq, List.filter_map, List.flatMap_map,
    Function.comp_def, w.id_eq, hlegs]
  congr 1
  refine List.filter_congr fun e he => ?_
  rw [decide_eq_decide, matches_posted_iff, matches_posted_iff]
  exact hmatch e (List.mem_of_mem_filter he)

end PostSave

/-! ## The invariant -/

/-- What the entries stored since `start` are: at most one closing and one opening entry. When
    the period was closed since, the amounts of the closing entry are those of all entries now
    posted in it; without a closing entry there are none. -/
structure ClosedOnce (start : LedgerDb) (p : FiscalPeriod) (db : LedgerDb) : Prop where
  one_closing : (storedSince start db "period_close").length ≤ 1
  one_opening : (storedSince start db "period_open").length ≤ 1
  included : p.status = .opened → Over p db →
    ∃ r ∈ db.accounts, r.tenantId = p.tenantId ∧ r.code = "3002" ∧
      (storedSince start db "period_close").map (·.legs) =
        [closingLegs (withoutNew start db) p.tenantId p.startDate p.endDate r.id].filter (· ≠ [])

structure CloseInvariant (start : LedgerDb) (p : FiscalPeriod) (db : LedgerDb) : Prop where
  schema : db.Schema
  new_posted : ∀ e ∈ db.entries, e.id ∉ start.entries.map (·.id) → e.status = .posted
  phase : StillOpen start p db ∨ Over p db
  once : ClosedOnce start p db

/-- Posting the entry does not reach into the period once it is over. -/
def LeavesOver (p : FiscalPeriod) (db : LedgerDb) (entryId : Guid) : Prop :=
  Over p db → ∀ e ∈ db.entries, e.id = entryId → p.Covers e → e.status ≠ .draft

/-- The posting a request has prepared, from a draft that was there at `start`. The row may have
    been posted since. -/
structure PreparedPost (start : LedgerDb) (env : Env) (c : PostJournalEntryCommand)
    (cs : ChangeSet) (db : LedgerDb) where
  entry : JournalEntry
  entry_id : entry.id = c.entryId
  draft : entry.status = .draft
  changes_eq : cs = { modifiedEntries := [(entry,
    { entry with
      status := .posted
      postedBy := some c.postedByUserId
      postedAt := some env.utcNow })] }
  old : entry.id ∈ start.entries.map (·.id)
  unreversed : ∀ row ∈ db.entries, row.id = entry.id → row.status ≠ .reversed

/-- What a request holds. While the period is open, a close holds what it would read, and
    prepare, now. -/
def HoldsRequest (start : LedgerDb) (p : FiscalPeriod) (db : LedgerDb) : Request → Prop
  | .post _ c => LeavesOver p db c.entryId
  | .close _ c => c.periodId = p.id
  | .periodRead _ c period => c.periodId = p.id ∧ (StillOpen start p db → period = p)
  | .entriesRead _ c period entries => c.periodId = p.id ∧ (StillOpen start p db →
      period = p ∧ checkNoDrafts (periodEntries c p db) = .ok () ∧
        postedLines entries = postedLines (periodEntries c p db))
  | .saving env (.postJournalEntry c) cs =>
    Nonempty (PreparedPost start env c cs db) ∧ LeavesOver p db c.entryId
  | .saving env (.closeFiscalPeriod c) cs => c.periodId = p.id ∧ (StillOpen start p db →
      CloseFiscalPeriodHandler.prepare env c db = .ok (cs, ()))
  | .finished _ => True
  | _ => False

/-- The request is not about to save a close, with the database accepting it, of a period that
    is no longer open or for a tenant it does not belong to. -/
def OpenAtSave (p : FiscalPeriod) (db : LedgerDb) (r : Request) : Prop :=
  ∀ env c cs db', r = .saving env (.closeFiscalPeriod c) cs → saveChanges env cs db = .ok db' →
    c.tenantId = p.tenantId ∧ ∀ q ∈ db.periods, q.id = p.id → q.status = .opened

variable {start db db' : LedgerDb} {p : FiscalPeriod}

/-- Only postings and closes are saved. -/
theorem HoldsRequest.saving_cases {env : Env} {cmd : LedgerCommand} {cs : ChangeSet}
    (h : HoldsRequest start p db (.saving env cmd cs)) :
    (∃ c, cmd = .postJournalEntry c) ∨ ∃ c, cmd = .closeFiscalPeriod c := by
  cases cmd with
  | postJournalEntry c => exact Or.inl ⟨c, rfl⟩
  | closeFiscalPeriod c => exact Or.inr ⟨c, rfl⟩
  | createAccount c => exact h.elim
  | initializeFromTemplate c => exact h.elim
  | updateAccount id req => exact h.elim
  | createJournalEntry c => exact h.elim
  | reverseJournalEntry c => exact h.elim
  | createFiscalPeriod c => exact h.elim

/-! ## What a close would prepare -/

theorem loadPeriod_of_stillOpen (hs : db.Schema) (h : StillOpen start p db)
    {c : CloseFiscalPeriodCommand} (hid : c.periodId = p.id) :
    CloseFiscalPeriodHandler.loadPeriod c db = .ok p := by
  have hget : db.getPeriodById c.periodId = some p := by
    rw [hid]
    exact find?_key hs.periods_pkey h.mem
  simp [CloseFiscalPeriodHandler.loadPeriod, hget, h.opened]

theorem prepare_of_stillOpen (hs : db.Schema) (h : StillOpen start p db) (env : Env)
    {c : CloseFiscalPeriodCommand} (hid : c.periodId = p.id) :
    CloseFiscalPeriodHandler.prepare env c db =
      (checkNoDrafts (periodEntries c p db) >>= fun _ =>
        CloseFiscalPeriodHandler.prepareFrom env c p (periodEntries c p db)
          (db.getAllByTenant c.tenantId)) := by
  rw [CloseFiscalPeriodHandler.prepare_eq, loadPeriod_of_stillOpen hs h hid]
  rfl

/-! ## A posting saves -/

/-- Posting writes the status, the poster and the time, whatever the row holds. -/
theorem writeChanges_draft {entry : JournalEntry} (h : entry.status = .draft) (u : Guid)
    (now : DateTime) (row : JournalEntry) : ∃ u' t,
      entry.writeChanges { entry with status := .posted, postedBy := some u, postedAt := some now }
        row = { row with status := .posted, postedBy := u', postedAt := t } := by
  refine ⟨changedColumn entry.postedBy (some u) row.postedBy,
    changedColumn entry.postedAt (some now) row.postedAt, ?_⟩
  simp [JournalEntry.writeChanges, changedColumn, h]

def PreparedPost.postSave {env : Env} {c : PostJournalEntryCommand} {cs : ChangeSet}
    (q : PreparedPost start env c cs db) (hl : LeavesOver p db c.entryId)
    (hsave : saveChanges env cs db = .ok db') : PostSave start p db db' where
  schema := (saveChanges_ok hsave).2
  periods_eq := by
    rw [(saveChanges_ok hsave).1, q.changes_eq]
    exact List.append_nil _
  accounts_eq := by
    rw [(saveChanges_ok hsave).1, q.changes_eq]
    exact List.append_nil _
  write row := if row.id = q.entry.id then q.entry.writeChanges { q.entry with
      status := .posted
      postedBy := some c.postedByUserId
      postedAt := some env.utcNow } row else row
  entries_eq := by
    have hcs := congrArg (fun c : ChangeSet => (c.apply db).entries) q.changes_eq
    rw [(saveChanges_ok hsave).1]
    exact hcs.trans (List.append_nil _)
  keeps row := by
    split
    · obtain ⟨u, t, h⟩ := writeChanges_draft q.draft c.postedByUserId env.utcNow row
      exact ⟨_, _, _, h⟩
    · exact ⟨_, _, _, rfl⟩
  posts row hrow := by
    by_cases hid : row.id = q.entry.id
    · obtain ⟨u, t, h⟩ := writeChanges_draft q.draft c.postedByUserId env.utcNow row
      rw [if_pos hid, h]
      exact Or.inr ⟨rfl, q.unreversed row hrow hid, hid ▸ q.old,
        fun ho hc => hl ho row hrow (hid.trans q.entry_id) hc⟩
    · exact Or.inl (if_neg hid)

namespace PostSave

theorem leavesOver (w : PostSave start p db db') {id : Guid} (h : LeavesOver p db id) :
    LeavesOver p db' id := by
  intro ho e' he' hid hc
  rw [w.entries_eq] at he'
  obtain ⟨e, he, rfl⟩ := List.mem_map.mp he'
  exact w.status_ne_draft he (h (w.over_iff.mp ho) e he ((w.id_eq e).symm.trans hid)
    ((w.covers_iff e).mp hc))

/-- A close would prepare the same after the posting. -/
theorem prepare_eq (w : PostSave start p db db') (hs : db.Schema) (h : StillOpen start p db)
    {env : Env} {c : CloseFiscalPeriodCommand} (hid : c.periodId = p.id) {cs : ChangeSet}
    (hp : CloseFiscalPeriodHandler.prepare env c db = .ok (cs, ())) :
    CloseFiscalPeriodHandler.prepare env c db' = .ok (cs, ()) := by
  rw [prepare_of_stillOpen hs h env hid] at hp
  obtain ⟨u, hd, hp⟩ := bind_eq_ok.mp hp
  have hall : db'.getAllByTenant c.tenantId = db.getAllByTenant c.tenantId := by
    unfold LedgerDb.getAllByTenant
    rw [w.accounts_eq]
  rw [prepare_of_stillOpen w.schema (w.stillOpen_iff.mpr h) env hid, w.noDrafts hd, hall]
  exact (CloseFiscalPeriodHandler.prepareFrom_congr (w.postedLines_eq hd)).trans hp

theorem holds (w : PostSave start p db db') (hs : db.Schema) {r : Request}
    (h : HoldsRequest start p db r) : HoldsRequest start p db' r := by
  cases r with
  | post env c => exact w.leavesOver h
  | close env c => exact h
  | periodRead env c period => exact ⟨h.1, fun ho => h.2 (w.stillOpen_iff.mp ho)⟩
  | entriesRead env c period entries =>
    refine ⟨h.1, fun ho => ?_⟩
    obtain ⟨hp, hd, hl⟩ := h.2 (w.stillOpen_iff.mp ho)
    exact ⟨hp, w.noDrafts hd, hl.trans (w.postedLines_eq hd).symm⟩
  | saving env cmd cs =>
    rcases h.saving_cases with ⟨c, rfl⟩ | ⟨c, rfl⟩
    · obtain ⟨⟨q⟩, hl⟩ := h
      refine ⟨⟨{ q with unreversed := fun row hrow hid => ?_ }⟩, w.leavesOver hl⟩
      rw [w.entries_eq] at hrow
      obtain ⟨e, he, rfl⟩ := List.mem_map.mp hrow
      rcases w.posts e he with hsame | ⟨hposted, -⟩
      · rw [hsame]
        exact q.unreversed e he ((w.id_eq e).symm.trans hid)
      · rw [hposted]
        exact EntryStatus.noConfusion
    · refine ⟨h.1, fun ho => ?_⟩
      have hopen := w.stillOpen_iff.mp ho
      exact w.prepare_eq hs hopen h.1 (h.2 hopen)
  | finished result => exact trivial
  | reverse env c => exact h.elim

theorem closeInvariant (w : PostSave start p db db') (h : CloseInvariant start p db) :
    CloseInvariant start p db' := by
  refine ⟨w.schema, fun e' he' hnew => ?_, ?_, ?_, ?_, fun hopened ho => ?_⟩
  · rw [w.entries_eq] at he'
    obtain ⟨e, he, rfl⟩ := List.mem_map.mp he'
    rw [w.id_eq] at hnew
    rw [w.write_new he hnew]
    exact h.new_posted e he hnew
  · exact h.phase.imp w.stillOpen_iff.mpr w.over_iff.mpr
  · rw [w.storedSince_eq]
    exact h.once.one_closing
  · rw [w.storedSince_eq]
    exact h.once.one_opening
  · have hover := w.over_iff.mp ho
    obtain ⟨r, hr, hT, hcode, hlegs⟩ := h.once.included hopened hover
    have haccounts : (withoutNew start db').accounts = (withoutNew start db).accounts :=
      w.accounts_eq
    have hsame := closingLegs_congr haccounts (w.postedLegs_eq hover) r.id
    refine ⟨r, w.accounts_eq ▸ hr, hT, hcode, ?_⟩
    rw [w.storedSince_eq, hsame]
    exact hlegs

end PostSave

/-! ## A close saves -/

/-- A close that saves while the period is open, for the period's tenant. -/
structure CloseSave (start : LedgerDb) (p : FiscalPeriod) (db db' : LedgerDb) where
  env : Env
  request : CloseFiscalPeriodCommand
  cs : ChangeSet
  prepared : Prepared env request db cs
  noDrafts : checkNoDrafts (periodEntries request p db) = .ok ()
  period_eq : prepared.period = p
  tenantId_eq : request.tenantId = p.tenantId
  stillOpen : StillOpen start p db
  saved : saveChanges env cs db = .ok db'

/-- What a close holds while the period is open is enough for that. -/
theorem closeSave_of_prepare (hs : db.Schema) {env : Env} {c : CloseFiscalPeriodCommand}
    {cs : ChangeSet} (ho : StillOpen start p db) (hid : c.periodId = p.id)
    (hT : c.tenantId = p.tenantId)
    (hp : CloseFiscalPeriodHandler.prepare env c db = .ok (cs, ()))
    (hsave : saveChanges env cs db = .ok db') : Nonempty (CloseSave start p db db') := by
  obtain ⟨q⟩ := CloseFiscalPeriodHandler.prepare_ok hp
  rw [prepare_of_stillOpen hs ho env hid] at hp
  obtain ⟨_, hd, -⟩ := bind_eq_ok.mp hp
  exact ⟨⟨env, c, cs, q, hd, nodup_keys_inj hs.periods_pkey q.period_mem ho.mem
    (q.period_id.trans hid), hT, ho, hsave⟩⟩

namespace CloseSave

variable (w : CloseSave start p db db')

include w

theorem schema : db'.Schema := (saveChanges_ok w.saved).2

theorem entries_eq (hs : db.Schema) :
    db'.entries = db.entries ++ (w.prepared.closing ++ w.prepared.opening) :=
  (congrArg LedgerDb.entries (saveChanges_ok w.saved).1).trans (w.prepared.entries_after hs)

theorem accounts_eq : db'.accounts = db.accounts :=
  (congrArg LedgerDb.accounts (saveChanges_ok w.saved).1).trans (accounts_after_close w.prepared)

/-- The period is closed. -/
theorem period_over (hs : db.Schema) : Over p db' := by
  have hperiods := (congrArg LedgerDb.periods (saveChanges_ok w.saved).1).trans
    (w.prepared.periods_after hs)
  rw [Over, hperiods]
  refine ⟨_, mem_updateKey.mpr (Or.inl ⟨_, w.prepared.period_mem, rfl, rfl⟩), ?_, ?_⟩
  · exact (linkOpening_id _ _).trans (congrArg (·.id) w.period_eq)
  · rw [linkOpening_status]
    exact PeriodStatus.noConfusion

/-- No draft dated in the period is left. -/
theorem noDraft_after (hs : db.Schema) {e : JournalEntry} (he : e ∈ db'.entries)
    (hc : p.Covers e) : e.status ≠ .draft := by
  rw [w.entries_eq hs] at he
  rcases List.mem_append.mp he with he | he
  · refine checkNoDrafts_ok.mp w.noDrafts e (mem_periodEntries.mpr ⟨he, ?_, hc.2⟩)
    rw [hc.1, w.tenantId_eq]
  · rw [(w.prepared.added_header he).1]
    exact EntryStatus.noConfusion

theorem old_id {e : JournalEntry} (he : e ∈ db.entries) : e.id ∈ start.entries.map (·.id) :=
  w.stillOpen.ids ▸ List.mem_map_of_mem he

theorem new_id (hs : db.Schema) {e : JournalEntry}
    (he : e ∈ w.prepared.closing ++ w.prepared.opening) : e.id ∉ start.entries.map (·.id) := by
  have hnd := w.schema.entries_pkey
  rw [w.entries_eq hs, List.map_append, w.stillOpen.ids] at hnd
  exact fun hold => List.disjoint_of_nodup_append hnd hold (List.mem_map_of_mem he)

/-- The entries stored since `start` are the ones the close adds. -/
theorem storedSince_eq (hs : db.Schema) (m : String) : storedSince start db' m =
    (w.prepared.closing ++ w.prepared.opening).filter (·.sourceModule = some m) := by
  unfold storedSince
  rw [w.entries_eq hs, List.filter_append, List.filter_eq_nil_iff.mpr, List.nil_append]
  · exact List.filter_congr fun e he => by simp [w.new_id hs he]
  · intro e he h
    exact (of_decide_eq_true h).1 (w.old_id he)

theorem withoutNew_entries (hs : db.Schema) : (withoutNew start db').entries = db.entries := by
  unfold withoutNew
  dsimp only
  rw [w.entries_eq hs, List.filter_append, List.filter_eq_self.mpr, List.filter_eq_nil_iff.mpr,
    List.append_nil]
  · intro e he h
    exact w.new_id hs he (of_decide_eq_true h)
  · exact fun e he => decide_eq_true (w.old_id he)

theorem closings_eq (hs : db.Schema) :
    storedSince start db' "period_close" = w.prepared.closing := by
  rw [w.storedSince_eq hs, List.filter_append, List.filter_eq_self.mpr,
    List.filter_eq_nil_iff.mpr, List.append_nil]
  · intro o ho
    simp [w.prepared.opening_source ho]
  · intro c hc
    simp [(w.prepared.closing_source hc).1]

theorem openings_eq (hs : db.Schema) :
    storedSince start db' "period_open" = w.prepared.opening := by
  rw [w.storedSince_eq hs, List.filter_append, List.filter_eq_nil_iff.mpr,
    List.filter_eq_self.mpr, List.nil_append]
  · intro o ho
    simp [w.prepared.opening_source ho]
  · intro c hc
    simp [(w.prepared.closing_source hc).1]

/-- The closing entry carries the amounts of everything posted in the period. -/
theorem closings_legs (hs : db.Schema) :
    (storedSince start db' "period_close").map (·.legs) =
      [closingLegs (withoutNew start db') p.tenantId p.startDate p.endDate
        w.prepared.retainedSurplus.id].filter (· ≠ []) := by
  have haccounts : (withoutNew start db').accounts = db.accounts := w.accounts_eq
  have hposted : (withoutNew start db').postedLegs p.tenantId (some p.startDate)
      (some p.endDate) = db.postedLegs p.tenantId (some p.startDate) (some p.endDate) := by
    unfold LedgerDb.postedLegs
    rw [w.withoutNew_entries hs]
  rw [w.closings_eq hs, closingLegs_congr haccounts hposted]
  have hcases := w.prepared.closing_cases hs
  rw [w.period_eq, w.tenantId_eq] at hcases
  rcases hcases with ⟨hc, hnil⟩ | ⟨c, hc, -, -, -, -, -, hlegs, hb⟩
  · rw [hc, hnil]
    rfl
  · have hne := CloseFiscalPeriodHandler.legs_ne_nil hb
    rw [hc, List.map_singleton, ← hlegs, List.filter_cons_of_pos (by simpa using hne),
      List.filter_nil]

theorem closeInvariant (hs : db.Schema) : CloseInvariant start p db' := by
  refine ⟨w.schema, fun e he hnew => ?_, Or.inr (w.period_over hs), ?_, ?_, fun _ _ => ?_⟩
  · rw [w.entries_eq hs] at he
    rcases List.mem_append.mp he with he | he
    · exact absurd (w.old_id he) hnew
    · exact (w.prepared.added_header he).1
  · rw [w.closings_eq hs]
    rcases w.prepared.closing_cases hs with ⟨hc, -⟩ | ⟨c, hc, -⟩ <;> simp [hc]
  · rw [w.openings_eq hs]
    rcases w.prepared.opening_cases hs with ⟨ho, -⟩ | ⟨-, o, ho, -⟩ <;> simp [ho]
  · obtain ⟨hmem, hT, hcode, -⟩ := w.prepared.retainedSurplus_spec
    exact ⟨_, w.accounts_eq ▸ hmem, hT.trans w.tenantId_eq, hcode, w.closings_legs hs⟩

/-- Nothing that a request holds while the period is open matters any more. -/
theorem holds (hs : db.Schema) {r : Request} (h : HoldsRequest start p db r) :
    HoldsRequest start p db' r := by
  have hover : ¬StillOpen start p db' := not_stillOpen_of_over w.schema (w.period_over hs)
  have hleaves : ∀ id, LeavesOver p db' id := fun id _ e he _ hc => w.noDraft_after hs he hc
  cases r with
  | post env c => exact hleaves _
  | close env c => exact h
  | periodRead env c period => exact ⟨h.1, fun ho => absurd ho hover⟩
  | entriesRead env c period entries => exact ⟨h.1, fun ho => absurd ho hover⟩
  | saving env cmd cs =>
    rcases h.saving_cases with ⟨c, rfl⟩ | ⟨c, rfl⟩
    · obtain ⟨⟨q⟩, -⟩ := h
      refine ⟨⟨{ q with unreversed := fun row hrow hid => ?_ }⟩, hleaves _⟩
      rw [w.entries_eq hs] at hrow
      rcases List.mem_append.mp hrow with hrow | hrow
      · exact q.unreversed row hrow hid
      · exact absurd (hid ▸ q.old) (w.new_id hs hrow)
    · exact ⟨h.1, fun ho => absurd ho hover⟩
  | finished result => exact trivial
  | reverse env c => exact h.elim

end CloseSave

end SaasChassis.Ledger
