/-
  The ledger service under row-level security.

  The service connects as chassis_app, and TenantContextInterceptor sets the request's tenant and
  flag before every command text: a `Session`. `visible` is what the queries of a session read of the
  tables; `saveChangesAs` sends the change set as the statements EF makes of it, an UPDATE for each
  modified row, which must find its row, and the INSERTs. Keys and references are checked
  against all rows, whoever wrote them. `handleAs` is the handlers of `step` with these two. The
  session and the tenant id in the command need not agree.

  `handleAs_refines`: under the policies a command does what it does without them, or nothing.
  `row_security_refines`: a run under the policies is a run without them of some of its commands, so
  what holds in every `Reachable` state holds of the service as it is deployed.
-/
import SaasChassis.Ledger.PeriodMembership
import SaasChassis.Lib.Noninterference
import SaasChassis.Rls.Policies

namespace SaasChassis.Ledger

open SaasChassis.Lib SaasChassis.Lib.RowPolicies SaasChassis.Rls

/-! ## What a session reads -/

def accountPolicies : RowPolicies (Session Guid) Account := supplemented Account.tenantId

def entryPolicies : RowPolicies (Session Guid) JournalEntry := supplemented JournalEntry.tenantId

def linePolicies : RowPolicies (Session Guid) JournalLine := supplemented JournalLine.tenantId

def periodPolicies : RowPolicies (Session Guid) FiscalPeriod :=
  supplemented FiscalPeriod.tenantId

/-- The entry with the lines a session may read. -/
def JournalEntry.visibleLines (s : Session Guid) (e : JournalEntry) : JournalEntry :=
  { e with lines := e.lines.filter (linePolicies.allows .select s) }

/-- The tables as the queries of a session see them. Templates have no policies. -/
def LedgerDb.visible (s : Session Guid) (db : LedgerDb) : LedgerDb :=
  { db with
    accounts := db.accounts.filter (accountPolicies.allows .select s)
    entries := (db.entries.filter (entryPolicies.allows .select s)).map
      (JournalEntry.visibleLines s)
    periods := db.periods.filter (periodPolicies.allows .select s) }

/-! ## What it writes -/

section Rows

variable {ρ : Type}

/-- The UPDATE of one tracked row. EF throws when it does not find the row. -/
def updateRow (ps : RowPolicies (Session Guid) ρ) (s : Session Guid) (table : String)
    (key : ρ → Guid) (rows : List ρ) (m : Guid × (ρ → ρ)) : Except DbError (List ρ) :=
  match ps.exec s (.update (fun r => decide (key r = m.1)) m.2) rows with
  | (.rows [_], rows') => .ok rows'
  | (.rows _, _) => .error (.violates s!"one row of {table} with the key")
  | (.refused, _) => .error (.violates s!"row-level security policy for table {table}")

/-- The INSERTs. -/
def insertRows (ps : RowPolicies (Session Guid) ρ) (s : Session Guid) (table : String)
    (rows new : List ρ) : Except DbError (List ρ) :=
  match ps.exec s (.insert new false) rows with
  | (.rows _, rows') => .ok rows'
  | (.refused, _) => .error (.violates s!"row-level security policy for table {table}")

/-- The statements on one table. -/
def saveRows (ps : RowPolicies (Session Guid) ρ) (s : Session Guid) (table : String)
    (key : ρ → Guid) (modified : List (Guid × (ρ → ρ))) (added rows : List ρ) :
    Except DbError (List ρ) := do
  let rows' ← modified.foldlM (updateRow ps s table key) rows
  insertRows ps s table rows' added

end Rows

/-- The lines of the added entries are rows of a table of their own. -/
def checkLines (s : Session Guid) (lines : List JournalLine) : Except DbError Unit :=
  if lines.all (linePolicies.acceptsNew s false) then .ok ()
  else .error (.violates "row-level security policy for table journal_lines")

namespace ChangeSet

/-- The statements of a change set. -/
def execute (cs : ChangeSet) (s : Session Guid) (db : LedgerDb) : Except DbError LedgerDb := do
  let accounts ← saveRows accountPolicies s "accounts" (·.id)
    (cs.modifiedAccounts.map fun m => (m.1.id, m.1.writeChanges m.2)) cs.addedAccounts db.accounts
  let entries ← saveRows entryPolicies s "journal_entries" (·.id)
    (cs.modifiedEntries.map fun m => (m.1.id, m.1.writeChanges m.2))
    (cs.addedEntries.map JournalEntry.stored) db.entries
  checkLines s (cs.addedEntries.flatMap (·.stored.lines))
  let periods ← saveRows periodPolicies s "fiscal_periods" (·.id)
    (cs.modifiedPeriods.map fun m => (m.1.id, m.1.writeChanges m.2)) cs.addedPeriods db.periods
  .ok { db with accounts, entries, periods }

end ChangeSet

/-- `SaveChangesAsync` in a session: all statements or none. -/
def saveChangesAs (s : Session Guid) (env : Env) (cs : ChangeSet) (db : LedgerDb) :
    Except LedgerException LedgerDb :=
  if env.saveFails then .error (.dbUpdate .unavailable)
  else match cs.execute s db with
    | .error e => .error (.dbUpdate e)
    | .ok db' =>
      match db'.violation with
      | some c => .error (.dbUpdate (.violates c))
      | none => .ok db'

/-! ## Commands of a session -/

/-- What a command returns. -/
inductive Reply where
  | id (g : Guid)
  | accountsCreated (n : Nat)
  /-- `none` is the 404 answer. -/
  | account (a : Option Account)
  | done
  deriving DecidableEq

/-- Save and publish; `commit` in a session. -/
def commitAs {α : Type} (s : Session Guid) (env : Env) (publishes : Bool) (reply : α → Reply)
    (prepared : Except LedgerException (ChangeSet × α)) (db : LedgerDb) :
    LedgerDb × Except LedgerException Reply :=
  match prepared with
  | .error ex => (db, .error ex)
  | .ok (cs, a) =>
    match saveChangesAs s env cs db with
    | .error ex => (db, .error ex)
    | .ok db' =>
      if publishes ∧ env.publisher = some false then (db', .error .publishFailed)
      else (db', .ok (reply a))

/-- A command in a session: its reads see `db.visible s`. -/
def handleAs (s : Session Guid) (i : Env × LedgerCommand) (db : LedgerDb) :
    LedgerDb × Except LedgerException Reply :=
  match i.2 with
  | .createAccount c =>
    commitAs s i.1 true .id (CreateAccountHandler.prepare i.1 c (db.visible s)) db
  | .initializeFromTemplate c =>
    match InitializeFromTemplateHandler.prepare i.1 c (db.visible s) with
    | .ok (_, 0) => (db, .ok (.accountsCreated 0))
    | prepared => commitAs s i.1 false .accountsCreated prepared db
  | .updateAccount id req =>
    match (db.visible s).getAccountById id with
    | none => (db, .ok (.account none))
    | some _ =>
      commitAs s i.1 false .account (UpdateAccountEndpoint.prepare id req (db.visible s)) db
  | .createJournalEntry c =>
    commitAs s i.1 false .id (CreateJournalEntryHandler.prepare i.1 c (db.visible s)) db
  | .postJournalEntry c =>
    commitAs s i.1 true (fun _ => .done) (PostJournalEntryHandler.prepare i.1 c (db.visible s)) db
  | .reverseJournalEntry c =>
    commitAs s i.1 false .id (ReverseJournalEntryHandler.prepare i.1 c (db.visible s)) db
  | .createFiscalPeriod c =>
    commitAs s i.1 false .id (CreateFiscalPeriodHandler.prepare i.1 c) db
  | .closeFiscalPeriod c =>
    commitAs s i.1 true (fun _ => .done) (CloseFiscalPeriodHandler.prepare i.1 c (db.visible s)) db

/-- A command with the session it runs in. -/
structure SessionCommand where
  session : Session Guid
  env : Env
  command : LedgerCommand

/-- The tables after a command of a session, and its reply. -/
def stepAs (db : LedgerDb) (i : SessionCommand) : LedgerDb × Except LedgerException Reply :=
  handleAs i.session (i.env, i.command) db

/-! ## A save is the save without policies, or none -/

section Rows

variable {ρ : Type} {ps : RowPolicies (Session Guid) ρ} {s : Session Guid}
  {table : String} {key : ρ → Guid} {rows rows' : List ρ}

/-- An UPDATE that found its row wrote it, and nothing else. -/
theorem updateRow_ok (hnd : (rows.map key).Nodup) {m : Guid × (ρ → ρ)}
    (h : updateRow ps s table key rows m = .ok rows') : rows' = updateKey key m.1 m.2 rows := by
  unfold updateRow at h
  rw [exec] at h
  split at h
  next x rows₁ heq =>
    cases h
    split at heq
    next hall =>
      simp only [Prod.mk.injEq, RowAnswer.rows.injEq] at heq
      obtain ⟨hone, rfl⟩ := heq
      obtain ⟨r, hr, -⟩ := List.map_eq_singleton_iff.mp hone
      have hmem : r ∈ rows.filter (ps.target .update s fun q => decide (key q = m.1)) :=
        hr ▸ List.mem_singleton_self r
      rw [List.mem_filter] at hmem
      refine List.map_congr_left fun q hq => ?_
      have htarget : ps.target .update s (fun q => decide (key q = m.1)) q = true ↔
          key q = m.1 := by
        constructor
        · intro ht
          simpa using (Bool.and_eq_true_iff.mp ht).2
        · intro hk
          have hrk : key r = m.1 := by simpa using (Bool.and_eq_true_iff.mp hmem.2).2
          rw [nodup_keys_inj hnd hq hmem.1 (hk.trans hrk.symm)]
          exact hmem.2
      simp only [htarget]
    next => simp at heq
  next => cases h
  next => cases h

theorem insertRows_ok {new : List ρ} (h : insertRows ps s table rows new = .ok rows') :
    rows' = rows ++ new ∧ ∀ r ∈ new, ps.acceptsNew s false r = true := by
  unfold insertRows at h
  rw [exec] at h
  split at h
  next rs rows₁ heq =>
    cases h
    split at heq
    next hall =>
      simp only [Prod.mk.injEq] at heq
      exact ⟨heq.2.symm, List.all_eq_true.mp hall⟩
    next => simp at heq
  next => cases h

/-- The statements on a table leave what the change set says. -/
theorem saveRows_ok {modified : List (Guid × (ρ → ρ))}
    (hkey : ∀ m ∈ modified, ∀ r, key (m.2 r) = key r) {added : List ρ}
    (hnd : (rows.map key).Nodup)
    (h : saveRows ps s table key modified added rows = .ok rows') :
    rows' = modified.foldl (fun rows m => updateKey key m.1 m.2 rows) rows ++ added ∧
      ∀ r ∈ added, ps.acceptsNew s false r = true := by
  obtain ⟨rows₁, hmod, hins⟩ := bind_eq_ok.mp h
  obtain ⟨rfl, hadd⟩ := insertRows_ok hins
  refine ⟨?_, hadd⟩
  congr 1
  clear hins hadd h
  induction modified generalizing rows with
  | nil =>
    cases hmod
    rfl
  | cons m modified ih =>
    rw [List.foldlM_cons] at hmod
    obtain ⟨rows₂, hm, hrest⟩ := bind_eq_ok.mp hmod
    obtain rfl := updateRow_ok hnd hm
    refine ih (fun m' hm' => hkey m' (List.mem_cons_of_mem m hm')) ?_ hrest
    rwa [map_updateKey key (hkey m List.mem_cons_self)]

end Rows

theorem checkLines_ok {s : Session Guid} {lines : List JournalLine} {u : Unit}
    (h : checkLines s lines = .ok u) : ∀ l ∈ lines, linePolicies.acceptsNew s false l = true := by
  unfold checkLines at h
  split at h
  next hall => exact List.all_eq_true.mp hall
  next => cases h

/-- The rows a change set adds are rows of tenants the session sees. -/
structure OwnRows (s : Session Guid) (cs : ChangeSet) : Prop where
  accounts : ∀ a ∈ cs.addedAccounts, s.sees a.tenantId = true
  entries : ∀ e ∈ cs.addedEntries, s.sees e.tenantId = true
  lines : ∀ e ∈ cs.addedEntries, ∀ l ∈ e.lines, s.sees l.tenantId = true
  periods : ∀ p ∈ cs.addedPeriods, s.sees p.tenantId = true

theorem sees_of_acceptsNew {ρ : Type} {owner : ρ → Guid} {s : Session Guid} {r : ρ}
    (h : (supplemented owner).acceptsNew s false r = true) : s.sees (owner r) = true :=
  (isolates_supplemented owner).confines.acceptsNew h

theorem execute_ok {cs : ChangeSet} {s : Session Guid} {db db' : LedgerDb} (hs : db.Schema)
    (h : cs.execute s db = .ok db') : db' = cs.apply db ∧ OwnRows s cs := by
  obtain ⟨accounts, ha, h⟩ := bind_eq_ok.mp h
  obtain ⟨entries, he, h⟩ := bind_eq_ok.mp h
  obtain ⟨_, hl, h⟩ := bind_eq_ok.mp h
  obtain ⟨periods, hp, h⟩ := bind_eq_ok.mp h
  cases h
  obtain ⟨rfl, haccounts⟩ := saveRows_ok (List.forall_mem_map.mpr fun _ _ _ => rfl) hs.accounts_pkey ha
  obtain ⟨rfl, hentries⟩ := saveRows_ok (List.forall_mem_map.mpr fun _ _ _ => rfl) hs.entries_pkey he
  obtain ⟨rfl, hperiods⟩ := saveRows_ok (List.forall_mem_map.mpr fun _ _ _ => rfl) hs.periods_pkey hp
  refine ⟨?_, fun a hmem => sees_of_acceptsNew (haccounts a hmem), fun e hmem => ?_,
    fun e hmem l hl' => ?_, fun p hmem => sees_of_acceptsNew (hperiods p hmem)⟩
  · simp only [ChangeSet.apply, List.foldl_map]
  · exact sees_of_acceptsNew (hentries e.stored (List.mem_map_of_mem hmem))
  · exact sees_of_acceptsNew (checkLines_ok hl l.stored
      (List.mem_flatMap.mpr ⟨e, hmem, List.mem_map_of_mem hl'⟩))

theorem saveChangesAs_ok {s : Session Guid} {env : Env} {cs : ChangeSet} {db db' : LedgerDb}
    (hs : db.Schema) (h : saveChangesAs s env cs db = .ok db') :
    saveChanges env cs db = .ok db' ∧ OwnRows s cs := by
  unfold saveChangesAs at h
  split at h
  next => cases h
  next hfails =>
    split at h
    next => cases h
    next db₁ hex =>
      obtain ⟨rfl, hown⟩ := execute_ok hs hex
      split at h
      next => cases h
      next hv =>
        cases h
        exact ⟨by rw [saveChanges, if_neg hfails, hv], hown⟩

/-! ## The lines of an entry are its tenant's -/

def JournalEntry.LinesOwned (e : JournalEntry) : Prop := ∀ l ∈ e.lines, l.tenantId = e.tenantId

/-- The tenant column of journal_lines agrees with the entries. -/
def LinesOwned (db : LedgerDb) : Prop := ∀ e ∈ db.entries, e.LinesOwned

theorem JournalEntry.LinesOwned.addLine {e : JournalEntry} (h : e.LinesOwned) (a : Guid)
    (d c : Decimal) (t : Option String) : (e.addLine a d c t).LinesOwned := by
  intro l hl
  rcases List.mem_append.mp hl with hl | hl
  · exact h l hl
  · rw [List.mem_singleton.mp hl]
    rfl

theorem JournalEntry.LinesOwned.create (id tenantId : Guid) (entryDate : DateOnly)
    (description : String) (reference : Option String) (periodId : Option Guid)
    (sourceModule : Option String) : (JournalEntry.create id tenantId entryDate description
      reference periodId sourceModule).LinesOwned :=
  fun _ hl => absurd hl List.not_mem_nil

theorem JournalEntry.LinesOwned.stored {e : JournalEntry} (h : e.LinesOwned) :
    e.stored.LinesOwned := by
  intro l hl
  obtain ⟨k, hk, rfl⟩ := List.mem_map.mp hl
  exact h k hk

namespace CloseFiscalPeriodHandler

theorem closeAccount_linesOwned (balances : List (Guid × (Decimal × Decimal)))
    {acc : JournalEntry × Decimal} (h : acc.1.LinesOwned) (account : Account) :
    (closeAccount balances acc account).1.LinesOwned := by
  unfold closeAccount
  split
  · exact h
  · dsimp only
    split_ifs
    · exact h.addLine _ _ _ _
    · exact h.addLine _ _ _ _
    · exact h

theorem closingEntry_linesOwned (g : Guid) (request : CloseFiscalPeriodCommand)
    (period : FiscalPeriod) (lines : List JournalLine) (allAccounts : List Account)
    (r : Account) : (closingEntry g request period lines allAccounts r).LinesOwned := by
  have hfold : ∀ (accounts : List Account) (acc : JournalEntry × Decimal), acc.1.LinesOwned →
      (accounts.foldl (closeAccount (accountBalances lines)) acc).1.LinesOwned := fun accounts acc h =>
    List.foldlRecOn (motive := fun acc : JournalEntry × Decimal => acc.1.LinesOwned) accounts _ h
      fun acc hacc account _ => closeAccount_linesOwned _ hacc account
  have h := hfold (incomeAccounts allAccounts) (JournalEntry.create g request.tenantId period.endDate
    s!"Period Closing Entry: {period.name}" none (some request.periodId) (some "period_close"), 0)
    (.create _ _ _ _ _ _ _)
  unfold closingEntry postNetIncome
  dsimp only
  split_ifs
  · exact h.addLine _ _ _ _
  · exact h.addLine _ _ _ _
  · exact h

theorem openAccount_linesOwned (balances : List (Guid × (Decimal × Decimal))) {e : JournalEntry}
    (h : e.LinesOwned) (account : Account) : (openAccount balances e account).LinesOwned := by
  unfold openAccount
  split
  · exact h
  · dsimp only
    split_ifs
    all_goals first | exact h.addLine _ _ _ _ | exact h

theorem openingEntry_linesOwned (g : Guid) (request : CloseFiscalPeriodCommand)
    (period : FiscalPeriod) (next : DateOnly) (lines : List JournalLine)
    (allAccounts : List Account) :
    (openingEntry g request period next lines allAccounts).LinesOwned :=
  List.foldlRecOn (balanceSheetAccounts allAccounts) (openAccount (accountBalances lines))
    (JournalEntry.LinesOwned.create _ _ _ _ _ _ _) fun _ he account _ =>
      openAccount_linesOwned _ he account

theorem Prepared.linesOwned {env : Env} {request : CloseFiscalPeriodCommand} {db : LedgerDb}
    {cs : ChangeSet} (p : Prepared env request db cs) :
    ∀ e ∈ cs.addedEntries, e.LinesOwned := by
  intro e he
  rw [p.addedEntries_eq] at he
  rcases List.mem_append.mp he with he | he
  · rcases postClosing_ok p.closing_ok with ⟨-, hnil⟩ | ⟨-, -, hone⟩
    · exact absurd (hnil ▸ he) List.not_mem_nil
    · rw [hone, List.mem_singleton] at he
      rw [he]
      exact fun l hl => closingEntry_linesOwned _ _ _ _ _ _ l hl
  · rcases postOpening_ok p.opening_ok with ⟨-, hnil⟩ | ⟨-, hone⟩
    · exact absurd (hnil ▸ he) List.not_mem_nil
    · rw [hone, List.mem_singleton] at he
      rw [he]
      exact fun l hl => openingEntry_linesOwned _ _ _ _ _ _ l hl

end CloseFiscalPeriodHandler

/-- What a command adds to the journal. -/
theorem added_linesOwned {env : Env} {cmd : LedgerCommand} {db : LedgerDb} {cs : ChangeSet}
    (w : JournalWrite env db cmd cs) : ∀ e ∈ cs.addedEntries, e.LinesOwned := by
  cases w with
  | untouched ha hm => simp [ha]
  | created c hv =>
    intro e he l hl
    rw [List.mem_singleton.mp he, CreateJournalEntryHandler.newEntry_eq] at hl ⊢
    obtain ⟨q, -, rfl⟩ := List.mem_map.mp hl
    rfl
  | posted c entry hmem hid hd hb => simp
  | reversed c entry reversal current hmem hid hr =>
    intro e he l hl
    rw [List.mem_singleton.mp he] at hl ⊢
    obtain ⟨-, -, -, -, hT, -, -, -, -, -, -, -, hlines⟩ := JournalEntry.createReversal_ok hr
    rw [hlines] at hl
    obtain ⟨k, -, rfl⟩ := List.mem_map.mp hl
    exact hT.symm
  | closed c _ p => exact p.linesOwned

theorem lines_owned {db : LedgerDb} (h : Reachable db) : LinesOwned db := by
  refine (reachable_invariant (fun _ e he => absurd he List.not_mem_nil) ?_ h).2
  intro db env cmd cs db' hs hi hc he _ e hmem
  have w := changes_journal hc
  rw [he] at hmem
  rcases lines_after hs w hmem with ⟨q, hq, hT, hlines⟩ | hadded
  · intro l hl
    rw [hT]
    exact hi q hq l (hlines ▸ hl)
  · obtain ⟨x, hx, rfl⟩ := List.mem_map.mp hadded
    exact (added_linesOwned w x hx).stored

/-! ## A read sees what it would see -/

section Visible

variable {s : Session Guid} {db : LedgerDb}

theorem allows_select (owner : ρ → Guid) (s : Session Guid) (r : ρ) :
    (supplemented owner).allows .select s r = s.sees (owner r) :=
  (isolates_supplemented owner).allows .select s r nofun

theorem visible_accounts (s : Session Guid) (db : LedgerDb) :
    (db.visible s).accounts = db.accounts.filter fun a => s.sees a.tenantId :=
  List.filter_congr fun a _ => allows_select Account.tenantId s a

theorem visible_periods (s : Session Guid) (db : LedgerDb) :
    (db.visible s).periods = db.periods.filter fun p => s.sees p.tenantId :=
  List.filter_congr fun p _ => allows_select FiscalPeriod.tenantId s p

theorem visible_entries (hl : LinesOwned db) (s : Session Guid) :
    (db.visible s).entries = db.entries.filter fun e => s.sees e.tenantId := by
  have hfilter : db.entries.filter (entryPolicies.allows .select s) =
      db.entries.filter fun e => s.sees e.tenantId :=
    List.filter_congr fun e _ => allows_select JournalEntry.tenantId s e
  show (db.entries.filter (entryPolicies.allows .select s)).map _ = _
  rw [hfilter]
  refine (List.map_congr_left fun e he => ?_).trans (List.map_id _)
  obtain ⟨hmem, hsees⟩ := List.mem_filter.mp he
  have hlines : e.lines.filter (linePolicies.allows .select s) = e.lines :=
    List.filter_eq_self.mpr fun l hl' => by
      rw [linePolicies, allows_select, hl e hmem l hl']
      exact hsees
  rw [JournalEntry.visibleLines, hlines]
  rfl

/-- Reading one tenant's rows. -/
theorem filter_sees {ρ : Type} {owner : ρ → Guid} {T : Guid} (h : s.sees T = true)
    (rows : List ρ) : (rows.filter fun r => s.sees (owner r)).filter (owner · = T) =
      rows.filter (owner · = T) := by
  rw [List.filter_filter]
  refine List.filter_congr fun r _ => ?_
  by_cases hr : owner r = T
  · simp [hr, h]
  · simp [hr]

/-- Reading a row by its key finds the row, or nothing. -/
theorem find?_visible {ρ : Type} {key : ρ → Guid} {rows : List ρ} {p : ρ → Bool}
    (hnd : (rows.map key).Nodup) {k : Guid} {r : ρ}
    (h : (rows.filter p).find? (key · = k) = some r) : rows.find? (key · = k) = some r := by
  have hmem := List.mem_of_mem_filter (List.mem_of_find?_eq_some h)
  have hk : key r = k := by simpa using List.find?_some h
  rw [← hk]
  exact find?_key hnd hmem

theorem getAllByTenant_visible {T : Guid} (h : s.sees T = true) :
    (db.visible s).getAllByTenant T = db.getAllByTenant T := by
  rw [LedgerDb.getAllByTenant, visible_accounts, filter_sees h]
  rfl

theorem getAllByTenant_unseen {T : Guid} (h : s.sees T = false) :
    (db.visible s).getAllByTenant T = [] := by
  have hnil : ((db.visible s).accounts.filter fun a => a.tenantId = T) = [] := by
    rw [visible_accounts, List.filter_filter]
    refine List.filter_eq_nil_iff.mpr fun a _ ha => ?_
    simp only [Bool.and_eq_true, decide_eq_true_eq] at ha
    rw [ha.1, h] at ha
    exact absurd ha.2 Bool.false_ne_true
  rw [LedgerDb.getAllByTenant, hnil]
  rfl

theorem getByTenant_visible (hl : LinesOwned db) {T : Guid} (h : s.sees T = true)
    (f t : Option DateOnly) (st : Option EntryStatus) (a : Option Guid) :
    (db.visible s).getByTenant T f t st a = db.getByTenant T f t st a := by
  rw [LedgerDb.getByTenant, visible_entries hl, filter_sees h]
  rfl

theorem getAccountByCode_visible {T : Guid} (h : s.sees T = true) (code : String) :
    (db.visible s).getAccountByCode T code = db.getAccountByCode T code := by
  rw [LedgerDb.getAccountByCode, LedgerDb.getAccountByCode, visible_accounts, List.find?_filter]
  congr 1
  funext a
  by_cases ha : a.tenantId = T
  · simp [ha, h]
  · simp [ha]

theorem getAccountById_visible (hs : db.Schema) {id : Guid} {a : Account}
    (h : (db.visible s).getAccountById id = some a) : db.getAccountById id = some a :=
  find?_visible hs.accounts_pkey h

theorem getPeriodById_visible (hs : db.Schema) {id : Guid} {p : FiscalPeriod}
    (h : (db.visible s).getPeriodById id = some p) : db.getPeriodById id = some p :=
  find?_visible hs.periods_pkey h

theorem getEntryById_visible (hs : db.Schema) (hl : LinesOwned db) {id : Guid} {e : JournalEntry}
    (h : (db.visible s).getEntryById id = some e) : db.getEntryById id = some e := by
  rw [LedgerDb.getEntryById, visible_entries hl] at h
  exact find?_visible hs.entries_pkey h

end Visible

/-! ## A command does what it does without the policies, or nothing -/

section Commands

variable {s : Session Guid} {env : Env} {db : LedgerDb} {cs : ChangeSet}

open InitializeFromTemplateHandler in
/-- Accounts from a template belong to the tenant of the command. -/
theorem template_tenant {T : Guid} {existing : List String} {entries : List TemplateAccountEntry}
    {created added : List Account} (h : ∀ a ∈ created, a.tenantId = T)
    (hok : entries.foldlM (createOne env T existing) created = .ok added) :
    ∀ a ∈ added, a.tenantId = T := by
  induction entries generalizing created with
  | nil => exact Except.ok.inj hok ▸ h
  | cons entry entries ih =>
    rw [List.foldlM_cons] at hok
    obtain ⟨created', hone, hrest⟩ := bind_eq_ok.mp hok
    refine ih (fun a ha => ?_) hrest
    unfold createOne at hone
    split at hone
    · cases hone
      exact h a ha
    · obtain ⟨type, -, hone⟩ := bind_eq_ok.mp hone
      cases hone
      rcases List.mem_append.mp ha with ha | ha
      · exact h a ha
      · rw [List.mem_singleton.mp ha]
        rfl

theorem findEntry_visible (hs : db.Schema) (hl : LinesOwned db) {id : Guid} {e : JournalEntry}
    (h : findEntry id (db.visible s) = .ok e) : findEntry id db = .ok e := by
  unfold findEntry at h ⊢
  split at h
  next hf =>
    cases h
    rw [getEntryById_visible hs hl hf]
  next => cases h

open CreateJournalEntryHandler in
theorem checkPeriod_visible (hs : db.Schema) {periodId : Option Guid}
    (h : checkPeriod periodId (db.visible s) = .ok ()) : checkPeriod periodId db = .ok () := by
  unfold checkPeriod at h ⊢
  split at h
  next => rfl
  next id =>
    split at h
    next => cases h
    next period hf =>
      rw [getPeriodById_visible hs hf]
      exact h

open CloseFiscalPeriodHandler in
theorem loadPeriod_visible (hs : db.Schema) {c : CloseFiscalPeriodCommand} {p : FiscalPeriod}
    (h : loadPeriod c (db.visible s) = .ok p) : loadPeriod c db = .ok p := by
  unfold loadPeriod at h ⊢
  split at h
  next => cases h
  next period hf =>
    dsimp only
    rw [getPeriodById_visible hs hf]
    exact h

open CloseFiscalPeriodHandler in
/-- A close in a session that does not see the tenant finds no Retained Surplus account. -/
theorem close_sees {c : CloseFiscalPeriodCommand}
    (h : changes env (.closeFiscalPeriod c) (db.visible s) = .ok cs) :
    s.sees c.tenantId = true := by
  obtain ⟨u, h⟩ := map_fst_eq_ok h
  obtain ⟨q⟩ := prepare_ok h
  by_contra hT
  rw [Bool.not_eq_true] at hT
  have hr := (findRetainedSurplus_ok q.retainedSurplus_ok).1
  rw [getAllByTenant_unseen hT] at hr
  exact absurd hr List.not_mem_nil

/-- What a command prepares from what it sees is what it would prepare from all rows, or changes
    nothing; provided the rows it adds are ones the session may write. -/
theorem changes_visible (hs : db.Schema) (hl : LinesOwned db) {cmd : LedgerCommand}
    (h : changes env cmd (db.visible s) = .ok cs) (hown : OwnRows s cs) :
    changes env cmd db = .ok cs ∨ cs.apply db = db := by
  cases cmd with
  | createAccount c =>
    obtain ⟨id, hp⟩ := map_fst_eq_ok h
    obtain ⟨-, -, rfl⟩ := CreateAccountHandler.prepare_ok hp
    have hT : s.sees c.tenantId = true := hown.accounts _ (List.mem_singleton_self _)
    refine Or.inl ?_
    rw [← h]
    simp only [changes, CreateAccountHandler.prepare, getAccountByCode_visible hT]
  | initializeFromTemplate c =>
    by_cases hT : s.sees c.tenantId = true
    · refine Or.inl ?_
      rw [← h]
      simp only [changes, InitializeFromTemplateHandler.prepare, getAllByTenant_visible hT]
      rfl
    · obtain ⟨n, hp⟩ := map_fst_eq_ok h
      obtain ⟨template, entries, added, -, -, hok, rfl⟩ :=
        InitializeFromTemplateHandler.prepare_ok hp
      have hnil : added = [] := List.eq_nil_iff_forall_not_mem.mpr fun a ha => by
        have hsees := hown.accounts a ha
        rw [template_tenant (fun _ hb => absurd hb List.not_mem_nil) hok a ha] at hsees
        exact hT hsees
      subst hnil
      exact Or.inr (by simp [ChangeSet.apply])
  | updateAccount id req =>
    obtain ⟨res, hp⟩ := map_fst_eq_ok h
    cases hf : (db.visible s).getAccountById id with
    | none =>
      obtain rfl := UpdateAccountEndpoint.prepare_ok hp
      rw [hf]
      exact Or.inr (by simp [ChangeSet.apply])
    | some a =>
      refine Or.inl ?_
      rw [← h]
      simp only [changes, UpdateAccountEndpoint.prepare, hf, getAccountById_visible hs hf]
  | createJournalEntry c =>
    obtain ⟨id, hp⟩ := map_fst_eq_ok h
    obtain ⟨-, hc, -⟩ := CreateJournalEntryHandler.prepare_ok hp
    refine Or.inl ?_
    rw [← h]
    simp only [changes, CreateJournalEntryHandler.prepare, hc, checkPeriod_visible hs hc]
  | postJournalEntry c =>
    obtain ⟨u, hp⟩ := map_fst_eq_ok h
    obtain ⟨_, -, hrest⟩ := bind_eq_ok.mp hp
    obtain ⟨entry, hf, -⟩ := bind_eq_ok.mp hrest
    refine Or.inl ?_
    rw [← h]
    simp only [changes, PostJournalEntryHandler.prepare, hf, findEntry_visible hs hl hf]
  | reverseJournalEntry c =>
    obtain ⟨id, hp⟩ := map_fst_eq_ok h
    obtain ⟨entry, hf, -⟩ := bind_eq_ok.mp hp
    refine Or.inl ?_
    rw [← h]
    simp only [changes, ReverseJournalEntryHandler.prepare, hf, findEntry_visible hs hl hf]
  | createFiscalPeriod c => exact Or.inl h
  | closeFiscalPeriod c =>
    have hT := close_sees h
    obtain ⟨u, hp⟩ := map_fst_eq_ok h
    obtain ⟨period, hf, -⟩ := bind_eq_ok.mp hp
    refine Or.inl ?_
    rw [← h]
    simp only [changes, CloseFiscalPeriodHandler.prepare, hf, loadPeriod_visible hs hf,
      CloseFiscalPeriodHandler.periodEntries, getByTenant_visible hl hT,
      getAllByTenant_visible hT]

theorem commitAs_cases {α : Type} (s : Session Guid) (env : Env) (publishes : Bool)
    (reply : α → Reply) (prepared : Except LedgerException (ChangeSet × α)) (db : LedgerDb) :
    (commitAs s env publishes reply prepared db).1 = db ∨
      ∃ cs, prepared.map (·.1) = .ok cs ∧
        saveChangesAs s env cs db = .ok (commitAs s env publishes reply prepared db).1 := by
  cases prepared with
  | error ex => exact Or.inl rfl
  | ok p =>
    obtain ⟨cs, a⟩ := p
    cases hs : saveChangesAs s env cs db with
    | error ex =>
      left
      simp only [commitAs, hs]
    | ok db' =>
      refine Or.inr ⟨cs, rfl, ?_⟩
      simp only [commitAs, hs]
      split <;> rfl

/-- A command in a session leaves the tables alone or commits what it prepared from what it sees. -/
theorem handleAs_cases (s : Session Guid) (i : Env × LedgerCommand) (db : LedgerDb) :
    (handleAs s i db).1 = db ∨ ∃ cs, changes i.1 i.2 (db.visible s) = .ok cs ∧
      saveChangesAs s i.1 cs db = .ok (handleAs s i db).1 := by
  obtain ⟨env, cmd⟩ := i
  cases cmd with
  | createAccount c => exact commitAs_cases s env true ..
  | createJournalEntry c => exact commitAs_cases s env false ..
  | postJournalEntry c => exact commitAs_cases s env true ..
  | reverseJournalEntry c => exact commitAs_cases s env false ..
  | createFiscalPeriod c => exact commitAs_cases s env false ..
  | closeFiscalPeriod c => exact commitAs_cases s env true ..
  | initializeFromTemplate c =>
    simp only [handleAs, changes]
    split
    · exact Or.inl rfl
    · exact commitAs_cases s env false ..
  | updateAccount id req =>
    simp only [handleAs, changes]
    split
    · exact Or.inl rfl
    · exact commitAs_cases s env false ..

/-- A prepared change set that is saved is what the command's step saves. -/
theorem step_of_saved {cmd : LedgerCommand} {db' : LedgerDb} (h : changes env cmd db = .ok cs)
    (hsave : saveChanges env cs db = .ok db') : step db (env, cmd) = db' := by
  cases cmd with
  | createAccount c => exact commit_saved h hsave
  | createJournalEntry c => exact commit_saved h hsave
  | postJournalEntry c => exact commit_saved h hsave
  | reverseJournalEntry c => exact commit_saved h hsave
  | createFiscalPeriod c => exact commit_saved h hsave
  | closeFiscalPeriod c => exact commit_saved h hsave
  | initializeFromTemplate c =>
    simp only [step, InitializeFromTemplateHandler.handle]
    split
    next cs' hp =>
      obtain ⟨template, entries, added, ht, hparsed, hok, rfl⟩ :=
        InitializeFromTemplateHandler.prepare_ok hp
      have hnil : added = [] := by
        have hlen := hp
        simp only [InitializeFromTemplateHandler.prepare, ht, hparsed, hok] at hlen
        exact List.length_eq_zero_iff.mp (Prod.mk.inj (Except.ok.inj hlen)).2
      rw [changes, hp] at h
      cases h
      rw [(saveChanges_ok hsave).1, hnil]
      simp [ChangeSet.apply]
    next => exact commit_saved h hsave
  | updateAccount id req =>
    simp only [step, UpdateAccountEndpoint.handle]
    split
    next hf =>
      rw [changes, UpdateAccountEndpoint.prepare, hf] at h
      cases h
      rw [(saveChanges_ok hsave).1]
      simp [ChangeSet.apply]
    next => exact commit_saved h hsave

/-- The policies only refuse: a command in a session does what it does without them, or nothing. -/
theorem handleAs_refines (hs : db.Schema) (hl : LinesOwned db) (s : Session Guid)
    (i : Env × LedgerCommand) : (handleAs s i db).1 = db ∨ (handleAs s i db).1 = step db i := by
  rcases handleAs_cases s i db with h | ⟨cs, hc, hsave⟩
  · exact Or.inl h
  · obtain ⟨hsave, hown⟩ := saveChangesAs_ok hs hsave
    rcases changes_visible hs hl hc hown with hc | hsame
    · exact Or.inr (step_of_saved hc hsave).symm
    · exact Or.inl ((saveChanges_ok hsave).1.trans hsame)

end Commands

/-! ## Runs -/

/-- The tables after a run of commands, each in its session. -/
def runAs (db : LedgerDb) (is : List SessionCommand) : LedgerDb := run (afterInput stepAs) db is

theorem stepAs_reachable {db : LedgerDb} (h : Reachable db) (i : SessionCommand) :
    Reachable (stepAs db i).1 := by
  rcases handleAs_refines (reachable_schema h) (lines_owned h) i.session (i.env, i.command) with
    he | he
  · rwa [stepAs, he]
  · rw [stepAs, he]
    exact h.step _

theorem runAs_reachable {db : LedgerDb} (h : Reachable db) (is : List SessionCommand) :
    Reachable (runAs db is) :=
  run_invariant (I := Reachable) (fun _ i hdb => stepAs_reachable hdb i) h is

/-- Whatever sessions send whatever commands, the service under row-level security ends where the
    service without it ends after some of the commands, in the same order. -/
theorem row_security_refines (templates : List AccountTemplate) (is : List SessionCommand) :
    ∃ cmds, cmds.Sublist (is.map fun i => (i.env, i.command)) ∧
      runAs (LedgerDb.seeded templates) is = run step (LedgerDb.seeded templates) cmds := by
  have hrun : ∀ (is : List SessionCommand) (db : LedgerDb), Reachable db →
      ∃ cmds, cmds.Sublist (is.map fun i => (i.env, i.command)) ∧
        runAs db is = run step db cmds := by
    intro is
    induction is with
    | nil => exact fun db _ => ⟨[], .slnil, rfl⟩
    | cons i is ih =>
      intro db h
      obtain ⟨cmds, hsub, he⟩ := ih (stepAs db i).1 (stepAs_reachable h i)
      have hstep := handleAs_refines (reachable_schema h) (lines_owned h) i.session
        (i.env, i.command)
      rw [← stepAs] at hstep
      rcases hstep with hsame | hsame
      · rw [hsame] at he
        refine ⟨cmds, hsub.cons _, ?_⟩
        show runAs (stepAs db i).1 is = _
        rw [hsame, he]
      · rw [hsame] at he
        refine ⟨(i.env, i.command) :: cmds, hsub.cons_cons _, ?_⟩
        show runAs (stepAs db i).1 is = _
        rw [hsame, he]
        rfl
  exact hrun is _ ⟨templates, [], rfl⟩

end SaasChassis.Ledger
