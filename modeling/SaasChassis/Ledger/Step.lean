/-
  The ledger service as a machine: one command after another on the tables.

  `step` runs a command in an environment; a failed one leaves the tables alone (`step_cases`).
  `Commits` says what each command commits. `JournalWrite` lists what of it goes into the
  journal, `PeriodWrite` what goes into the periods; every later result about a step is a case
  split on them.
  `Reachable` states satisfy the schema (`reachable_schema`).
-/
import SaasChassis.Ledger.CloseFiscalPeriod
import SaasChassis.Lib.Runs

namespace SaasChassis.Ledger

open SaasChassis.Lib

inductive LedgerCommand where
  | createAccount (c : CreateAccountCommand)
  | initializeFromTemplate (c : InitializeFromTemplateCommand)
  | updateAccount (id : Guid) (req : UpdateAccountRequest)
  | createJournalEntry (c : CreateJournalEntryCommand)
  | postJournalEntry (c : PostJournalEntryCommand)
  | reverseJournalEntry (c : ReverseJournalEntryCommand)
  | createFiscalPeriod (c : CreateFiscalPeriodCommand)
  | closeFiscalPeriod (c : CloseFiscalPeriodCommand)

def step (db : LedgerDb) (i : Env × LedgerCommand) : LedgerDb :=
  match i.2 with
  | .createAccount c => (CreateAccountHandler.handle i.1 c db).1
  | .initializeFromTemplate c => (InitializeFromTemplateHandler.handle i.1 c db).1
  | .updateAccount id req => (UpdateAccountEndpoint.handle i.1 id req db).1
  | .createJournalEntry c => (CreateJournalEntryHandler.handle i.1 c db).1
  | .postJournalEntry c => (PostJournalEntryHandler.handle i.1 c db).1
  | .reverseJournalEntry c => (ReverseJournalEntryHandler.handle i.1 c db).1
  | .createFiscalPeriod c => (CreateFiscalPeriodHandler.handle i.1 c db).1
  | .closeFiscalPeriod c => (CloseFiscalPeriodHandler.handle i.1 c db).1

/-- The change set a command prepares. -/
def changes (env : Env) (cmd : LedgerCommand) (db : LedgerDb) :
    Except LedgerException ChangeSet :=
  match cmd with
  | .createAccount c => (CreateAccountHandler.prepare env c db).map (·.1)
  | .initializeFromTemplate c => (InitializeFromTemplateHandler.prepare env c db).map (·.1)
  | .updateAccount id req => (UpdateAccountEndpoint.prepare id req db).map (·.1)
  | .createJournalEntry c => (CreateJournalEntryHandler.prepare env c db).map (·.1)
  | .postJournalEntry c => (PostJournalEntryHandler.prepare env c db).map (·.1)
  | .reverseJournalEntry c => (ReverseJournalEntryHandler.prepare env c db).map (·.1)
  | .createFiscalPeriod c => (CreateFiscalPeriodHandler.prepare env c).map (·.1)
  | .closeFiscalPeriod c => (CloseFiscalPeriodHandler.prepare env c db).map (·.1)

theorem map_fst_ok {ε α β : Type} {x : Except ε (α × β)} {a : α} {b : β} (h : x = .ok (a, b)) :
    x.map (·.1) = .ok a := by
  rw [h]
  rfl

theorem map_fst_eq_ok {ε α β : Type} {x : Except ε (α × β)} {a : α}
    (h : x.map (·.1) = .ok a) : ∃ b, x = .ok (a, b) := by
  cases x with
  | error e => cases h
  | ok p =>
    cases h
    exact ⟨p.2, rfl⟩

/-- A command leaves the tables alone or commits exactly the change set it prepared. -/
theorem step_cases (db : LedgerDb) (i : Env × LedgerCommand) :
    step db i = db ∨
      ∃ cs, changes i.1 i.2 db = .ok cs ∧ saveChanges i.1 cs db = .ok (step db i) := by
  have key : ∀ {α : Type} (b : Bool) (p : Except LedgerException (ChangeSet × α)),
      (commit i.1 b p db).1 = db ∨
        ∃ cs, p.map (·.1) = .ok cs ∧ saveChanges i.1 cs db = .ok (commit i.1 b p db).1 := by
    intro α b p
    rcases commit_cases i.1 b p db with h | ⟨cs, a, hp, hs⟩
    · exact Or.inl h
    · exact Or.inr ⟨cs, map_fst_ok hp, hs⟩
  obtain ⟨env, cmd⟩ := i
  cases cmd with
  | createAccount c => exact key true _
  | createJournalEntry c => exact key false _
  | postJournalEntry c => exact key true _
  | reverseJournalEntry c => exact key false _
  | createFiscalPeriod c => exact key false _
  | closeFiscalPeriod c => exact key true _
  | initializeFromTemplate c =>
    have hk := key false (InitializeFromTemplateHandler.prepare env c db)
    simp only [step, changes, InitializeFromTemplateHandler.handle]
    split
    · exact Or.inl rfl
    · exact hk
  | updateAccount id req =>
    have hk := key false (UpdateAccountEndpoint.prepare id req db)
    simp only [step, changes, UpdateAccountEndpoint.handle]
    split
    · exact Or.inl rfl
    · exact hk

/-! ## What a command writes -/

/-- What each command commits, with what it found in the tables. -/
inductive Commits (env : Env) (db : LedgerDb) : LedgerCommand → ChangeSet → Prop
  | createAccount (c : CreateAccountCommand) (valid : CreateAccountHandler.validator c = [])
      (fresh : db.getAccountByCode c.tenantId c.code = none) :
      Commits env db (.createAccount c)
        { addedAccounts := [Account.create (env.newGuid 0) c.tenantId c.code c.name
          c.accountType c.parentId c.description] }
  | initializeFromTemplate (c : InitializeFromTemplateCommand) (template : AccountTemplate)
      (entries : List TemplateAccountEntry) (added : List Account)
      (found : db.getTemplateByCode c.templateCode = some template)
      (parsed : template.accounts = some entries)
      (created : (entries.insertionSort
          (InitializeFromTemplateHandler.entryLe env.culture)).foldlM
        (InitializeFromTemplateHandler.createOne env c.tenantId
          ((db.getAllByTenant c.tenantId).map (·.code))) [] = .ok added) :
      Commits env db (.initializeFromTemplate c) { addedAccounts := added }
  | updateAccount (id : Guid) (req : UpdateAccountRequest) :
      Commits env db (.updateAccount id req)
        { modifiedAccounts := (db.getAccountById id).toList.map fun account =>
          (account, account.update req.name req.description req.isActive) }
  | createJournalEntry (c : CreateJournalEntryCommand)
      (valid : CreateJournalEntryHandler.validator c = [])
      (period : CreateJournalEntryHandler.checkPeriod c.periodId db = .ok ()) :
      Commits env db (.createJournalEntry c)
        { addedEntries := [CreateJournalEntryHandler.newEntry env c] }
  | postJournalEntry (c : PostJournalEntryCommand) (entry : JournalEntry)
      (mem : entry ∈ db.entries) (id : entry.id = c.entryId) (draft : entry.status = .draft)
      (balanced : entry.IsBalanced) :
      Commits env db (.postJournalEntry c)
        { modifiedEntries := [(entry,
          { entry with
            status := .posted
            postedBy := some c.postedByUserId
            postedAt := some env.utcNow })] }
  | reverseJournalEntry (c : ReverseJournalEntryCommand) (entry reversal current : JournalEntry)
      (mem : entry ∈ db.entries) (id : entry.id = c.entryId)
      (ok : entry.createReversal c.reason c.reversedByUserId (env.newGuid 0) env.utcNow =
        .ok (reversal, current)) :
      Commits env db (.reverseJournalEntry c)
        { addedEntries := [reversal], modifiedEntries := [(entry, current)] }
  | createFiscalPeriod (c : CreateFiscalPeriodCommand) :
      Commits env db (.createFiscalPeriod c)
        { addedPeriods := [FiscalPeriod.create (env.newGuid 0) c.tenantId c.name c.startDate
          c.endDate] }
  | closeFiscalPeriod (c : CloseFiscalPeriodCommand) (cs : ChangeSet)
      (prepared : CloseFiscalPeriodHandler.Prepared env c db cs) :
      Commits env db (.closeFiscalPeriod c) cs

theorem changes_ok {env : Env} {cmd : LedgerCommand} {db : LedgerDb} {cs : ChangeSet}
    (h : changes env cmd db = .ok cs) : Commits env db cmd cs := by
  cases cmd with
  | createAccount c =>
    obtain ⟨id, h⟩ := map_fst_eq_ok h
    obtain ⟨hv, hn, rfl⟩ := CreateAccountHandler.prepare_ok h
    exact .createAccount c hv hn
  | initializeFromTemplate c =>
    obtain ⟨n, h⟩ := map_fst_eq_ok h
    obtain ⟨template, entries, added, ht, he, hc, rfl⟩ :=
      InitializeFromTemplateHandler.prepare_ok h
    exact .initializeFromTemplate c template entries added ht he hc
  | updateAccount id req =>
    obtain ⟨res, h⟩ := map_fst_eq_ok h
    obtain rfl := UpdateAccountEndpoint.prepare_ok h
    exact .updateAccount id req
  | createJournalEntry c =>
    obtain ⟨id, h⟩ := map_fst_eq_ok h
    obtain ⟨hv, hp, rfl⟩ := CreateJournalEntryHandler.prepare_ok h
    exact .createJournalEntry c hv hp
  | postJournalEntry c =>
    obtain ⟨u, h⟩ := map_fst_eq_ok h
    obtain ⟨entry, hmem, hid, hs, hb, rfl⟩ := PostJournalEntryHandler.prepare_ok h
    exact .postJournalEntry c entry hmem hid hs hb
  | reverseJournalEntry c =>
    obtain ⟨id, h⟩ := map_fst_eq_ok h
    obtain ⟨entry, hmem, reversal, current, hid, hr, rfl⟩ :=
      ReverseJournalEntryHandler.prepare_ok h
    exact .reverseJournalEntry c entry reversal current hmem hid hr
  | createFiscalPeriod c =>
    have h : (CreateFiscalPeriodHandler.prepare env c).map (·.1) = .ok cs := h
    obtain ⟨id, h⟩ := map_fst_eq_ok h
    cases h
    exact .createFiscalPeriod c
  | closeFiscalPeriod c =>
    obtain ⟨u, h⟩ := map_fst_eq_ok h
    obtain ⟨p⟩ := CloseFiscalPeriodHandler.prepare_ok h
    exact .closeFiscalPeriod c cs p

/-- What a command can do to the journal. -/
inductive JournalWrite (env : Env) (db : LedgerDb) : LedgerCommand → ChangeSet → Prop
  | untouched {cmd : LedgerCommand} {cs : ChangeSet} (added : cs.addedEntries = [])
      (modified : cs.modifiedEntries = []) : JournalWrite env db cmd cs
  | created (c : CreateJournalEntryCommand)
      (valid : CreateJournalEntryHandler.validator c = []) :
      JournalWrite env db (.createJournalEntry c)
        { addedEntries := [CreateJournalEntryHandler.newEntry env c] }
  | posted (c : PostJournalEntryCommand) (entry : JournalEntry) (mem : entry ∈ db.entries)
      (id : entry.id = c.entryId) (draft : entry.status = .draft)
      (balanced : entry.IsBalanced) :
      JournalWrite env db (.postJournalEntry c)
        { modifiedEntries := [(entry,
          { entry with
            status := .posted
            postedBy := some c.postedByUserId
            postedAt := some env.utcNow })] }
  | reversed (c : ReverseJournalEntryCommand) (entry reversal current : JournalEntry)
      (mem : entry ∈ db.entries) (id : entry.id = c.entryId)
      (ok : entry.createReversal c.reason c.reversedByUserId (env.newGuid 0) env.utcNow =
        .ok (reversal, current)) :
      JournalWrite env db (.reverseJournalEntry c)
        { addedEntries := [reversal], modifiedEntries := [(entry, current)] }
  | closed (c : CloseFiscalPeriodCommand) (cs : ChangeSet)
      (prepared : CloseFiscalPeriodHandler.Prepared env c db cs) :
      JournalWrite env db (.closeFiscalPeriod c) cs

theorem changes_journal {env : Env} {cmd : LedgerCommand} {db : LedgerDb} {cs : ChangeSet}
    (h : changes env cmd db = .ok cs) : JournalWrite env db cmd cs := by
  cases changes_ok h with
  | createAccount c valid fresh => exact .untouched rfl rfl
  | initializeFromTemplate c template entries added found parsed created =>
    exact .untouched rfl rfl
  | updateAccount id req => exact .untouched rfl rfl
  | createJournalEntry c valid period => exact .created c valid
  | postJournalEntry c entry mem id draft balanced => exact .posted c entry mem id draft balanced
  | reverseJournalEntry c entry reversal current mem id ok =>
    exact .reversed c entry reversal current mem id ok
  | createFiscalPeriod c => exact .untouched rfl rfl
  | closeFiscalPeriod c _ p => exact .closed c cs p

/-- What a command can do to the periods. -/
inductive PeriodWrite (env : Env) (db : LedgerDb) : LedgerCommand → ChangeSet → Prop
  | untouched {cmd : LedgerCommand} {cs : ChangeSet} (added : cs.addedPeriods = [])
      (modified : cs.modifiedPeriods = []) : PeriodWrite env db cmd cs
  | created (c : CreateFiscalPeriodCommand) :
      PeriodWrite env db (.createFiscalPeriod c)
        { addedPeriods := [FiscalPeriod.create (env.newGuid 0) c.tenantId c.name c.startDate
          c.endDate] }
  | closed (c : CloseFiscalPeriodCommand) (cs : ChangeSet)
      (prepared : CloseFiscalPeriodHandler.Prepared env c db cs) :
      PeriodWrite env db (.closeFiscalPeriod c) cs

theorem changes_periods {env : Env} {cmd : LedgerCommand} {db : LedgerDb} {cs : ChangeSet}
    (h : changes env cmd db = .ok cs) : PeriodWrite env db cmd cs := by
  cases changes_ok h with
  | createAccount c valid fresh => exact .untouched rfl rfl
  | initializeFromTemplate c template entries added found parsed created =>
    exact .untouched rfl rfl
  | updateAccount id req => exact .untouched rfl rfl
  | createJournalEntry c valid period => exact .untouched rfl rfl
  | postJournalEntry c entry mem id draft balanced => exact .untouched rfl rfl
  | reverseJournalEntry c entry reversal current mem id ok => exact .untouched rfl rfl
  | createFiscalPeriod c => exact .created c
  | closeFiscalPeriod c _ p => exact .closed c cs p

/-! ## Reachable states -/

/-- A new database: the seeded templates and nothing else. -/
def LedgerDb.seeded (templates : List AccountTemplate) : LedgerDb := ⟨[], [], [], templates⟩

/-- The states the service reaches from a new database. -/
def Reachable (db : LedgerDb) : Prop :=
  ∃ templates cmds, db = run step (LedgerDb.seeded templates) cmds

theorem seeded_schema (templates : List AccountTemplate) :
    (LedgerDb.seeded templates).Schema := by
  rw [← LedgerDb.violation_eq_none]
  rfl

/-- An invariant of the new database that every committed change set keeps holds in every
    reachable state. -/
theorem reachable_invariant {I : LedgerDb → Prop}
    (h0 : ∀ templates, I (LedgerDb.seeded templates))
    (hstep : ∀ db env cmd cs db', db.Schema → I db → changes env cmd db = .ok cs →
      db' = cs.apply db → db'.Schema → I db') {db : LedgerDb} (h : Reachable db) :
    db.Schema ∧ I db := by
  obtain ⟨templates, cmds, rfl⟩ := h
  refine run_invariant (I := fun db => db.Schema ∧ I db) ?_ ⟨seeded_schema templates, h0 _⟩ cmds
  rintro db i ⟨hs, hi⟩
  rcases step_cases db i with he | ⟨cs, hc, hsave⟩
  · rw [he]
    exact ⟨hs, hi⟩
  · obtain ⟨he, hs'⟩ := saveChanges_ok hsave
    exact ⟨hs', hstep db i.1 i.2 cs _ hs hi hc he hs'⟩

theorem reachable_schema {db : LedgerDb} (h : Reachable db) : db.Schema :=
  (reachable_invariant (I := fun _ => True) (fun _ => trivial)
    (fun _ _ _ _ _ _ _ _ _ _ => trivial) h).1

theorem Reachable.step {db : LedgerDb} (h : Reachable db) (i : Env × LedgerCommand) :
    Reachable (Ledger.step db i) := by
  obtain ⟨templates, cmds, rfl⟩ := h
  exact ⟨templates, cmds ++ [i], (run_append Ledger.step _ cmds [i]).symm⟩

/-! ## The journal after a save -/

theorem apply_entries (cs : ChangeSet) (db : LedgerDb) (h : cs.modifiedEntries = []) :
    (cs.apply db).entries = db.entries ++ cs.addedEntries.map JournalEntry.stored := by
  simp [ChangeSet.apply, h]

/-- One entry rewritten: its row becomes the current value. -/
theorem apply_entries_modified {cs : ChangeSet} {db : LedgerDb} (hs : db.Schema)
    {entry current : JournalEntry} (hmem : entry ∈ db.entries)
    (h : cs.modifiedEntries = [(entry, current)])
    (hcur : entry.writeChanges current entry = current) :
    (cs.apply db).entries = updateKey (·.id) entry.id (fun _ => current) db.entries ++
      cs.addedEntries.map JournalEntry.stored := by
  simp only [ChangeSet.apply, h, List.foldl_cons, List.foldl_nil]
  rw [updateKey_const hs.entries_pkey hmem, hcur]

theorem CloseFiscalPeriodHandler.Prepared.entries_after {env : Env}
    {request : CloseFiscalPeriodCommand} {db : LedgerDb} {cs : ChangeSet} (hs : db.Schema)
    (p : Prepared env request db cs) :
    (cs.apply db).entries = db.entries ++ (p.closing ++ p.opening) := by
  rw [apply_entries cs db p.modifiedEntries_eq, p.addedEntries_stored hs, p.addedEntries_eq]

theorem writeChanges_posted (entry : JournalEntry) (u : Guid) (now : DateTime) :
    entry.writeChanges { entry with status := .posted, postedBy := some u, postedAt := some now }
      entry =
        { entry with status := .posted, postedBy := some u, postedAt := some now } := by
  simp [JournalEntry.writeChanges, changedColumn_self]

theorem writeChanges_reversed (entry : JournalEntry) (g : Guid) :
    entry.writeChanges { entry with status := .reversed, reversedById := some g } entry =
      { entry with status := .reversed, reversedById := some g } := by
  simp [JournalEntry.writeChanges, changedColumn_self]

/-- A reversal is stored as it is: its amounts are stored amounts. -/
theorem stored_reversal {db : LedgerDb} (hs : db.Schema) {entry reversal current : JournalEntry}
    (hmem : entry ∈ db.entries) {reason : String} {u g : Guid} {now : DateTime}
    (h : entry.createReversal reason u g now = .ok (reversal, current)) :
    reversal.stored = reversal := by
  obtain ⟨-, -, -, -, -, -, -, -, -, -, -, -, hl⟩ := JournalEntry.createReversal_ok h
  refine JournalEntry.stored_of_scale4 fun l hl' => ?_
  rw [hl] at hl'
  obtain ⟨k, hk, rfl⟩ := List.mem_map.mp hl'
  exact (hs.scale4 hmem hk).symm

/-! ## A small ledger, for the concrete runs of the modules below -/

namespace Sample

/-- A request on day `date` whose new ids start at `id`, with nothing failing. -/
def on (date : DateOnly) (id : Guid) : Env :=
  ⟨⟨date, 0⟩, fun k => id + k, false, none, .ordinal⟩

def account (id tenant : Guid) (code : String) (type : AccountType) : Env × LedgerCommand :=
  (on 1 id, .createAccount ⟨tenant, code, code, type, none, none⟩)

/-- A draft of tenant `tenant` dated `date`: `amount` from account `cr` to account `dr`. -/
def draft (id tenant : Guid) (date : DateOnly) (dr cr : Guid) (amount : Decimal) :
    Env × LedgerCommand :=
  (on 2 id, .createJournalEntry ⟨tenant, date, "entry", none, none, none,
    [⟨dr, amount, 0, none⟩, ⟨cr, 0, amount, none⟩]⟩)

def post (id : Guid) : Env × LedgerCommand := (on 3 900, .postJournalEntry ⟨id, 99⟩)

/-- Tenant 1 with Cash 101, Sales 102, Retained Surplus 103 and the open period 301 of days
    5 to 20, in which sales of 100 are posted on day 10. -/
def setup : List (Env × LedgerCommand) :=
  [account 101 1 "1001" .asset, account 102 1 "4001" .revenue, account 103 1 "3002" .equity,
   (on 1 301, .createFiscalPeriod ⟨1, "P1", 5, 20⟩), draft 201 1 10 101 102 100, post 201]

def ledger (cmds : List (Env × LedgerCommand)) : LedgerDb :=
  run step (LedgerDb.seeded []) (setup ++ cmds)

theorem ledger_reachable (cmds : List (Env × LedgerCommand)) : Reachable (ledger cmds) :=
  ⟨[], setup ++ cmds, rfl⟩

def close (id : Guid) : Env × LedgerCommand := (on 30 id, .closeFiscalPeriod ⟨301, 1, 99⟩)

end Sample

end SaasChassis.Ledger
