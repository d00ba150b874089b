/-
  The command handlers of Ledger.Application with the validators the MediatR pipeline runs
  before them (CloseFiscalPeriod has its own module).

  Each handler is `prepare` (everything up to the save: reads, guards and domain calls, giving a
  change set) followed by `commit` (the save, then the publish where the handler has one).
  A publish that throws ends the handler with an exception after the save was committed.
  The text of FluentValidation's default messages is its documented one.
-/
import SaasChassis.Ledger.Database

namespace SaasChassis.Ledger

theorem bind_eq_ok {ε α β : Type} {x : Except ε α} {f : α → Except ε β} {b : β} :
    (x >>= f) = .ok b ↔ ∃ a, x = .ok a ∧ f a = .ok b := by
  cases x with
  | error e => simp [Bind.bind, Except.bind]
  | ok a => simp [Bind.bind, Except.bind]

/-! ## Validation -/

/-- .NET `char.IsWhiteSpace`. -/
def isWhiteSpace (c : Char) : Bool :=
  let n := c.toNat
  (9 ≤ n && n ≤ 13) || n == 0x20 || n == 0x85 || n == 0xA0 || n == 0x1680 ||
    (0x2000 ≤ n && n ≤ 0x200A) || n == 0x2028 || n == 0x2029 || n == 0x202F || n == 0x205F ||
    n == 0x3000

/-- .NET `string.Length`: UTF-16 code units. -/
def utf16Length (s : String) : Nat :=
  (s.toList.map fun c => if c.toNat < 0x10000 then 1 else 2).sum

def guidNotEmpty (property : String) (g : Guid) : List String :=
  if g = Guid.empty then [s!"'{property}' must not be empty."] else []

def stringNotEmpty (property : String) (s : String) : List String :=
  if s.toList.all isWhiteSpace then [s!"'{property}' must not be empty."] else []

def maximumLength (property : String) (max : Nat) (s : String) : List String :=
  let entered := utf16Length s
  if entered ≤ max then []
  else [s!"The length of '{property}' must be {max} characters or fewer. You entered {entered} characters."]

/-- `ValidationBehavior`: the handler runs when no rule failed. -/
def validate (errors : List String) : Except LedgerException Unit :=
  if errors = [] then .ok () else .error (.validation errors)

theorem validate_ok {errors : List String} {u : Unit} (h : validate errors = .ok u) :
    errors = [] := by
  unfold validate at h
  split at h
  · assumption
  · cases h

/-! ## Save and publish -/

/-- The end of a handler: save what was prepared, then publish if the handler publishes. -/
def commit {α : Type} (env : Env) (publishes : Bool)
    (prepared : Except LedgerException (ChangeSet × α)) (db : LedgerDb) :
    LedgerDb × Except LedgerException α :=
  match prepared with
  | .error ex => (db, .error ex)
  | .ok (cs, a) =>
    match saveChanges env cs db with
    | .error ex => (db, .error ex)
    | .ok db' =>
      if publishes ∧ env.publisher = some false then (db', .error .publishFailed)
      else (db', .ok a)

/-- A handler leaves the tables alone or commits exactly what it prepared. -/
theorem commit_cases {α : Type} (env : Env) (publishes : Bool)
    (prepared : Except LedgerException (ChangeSet × α)) (db : LedgerDb) :
    (commit env publishes prepared db).1 = db ∨
      ∃ cs a, prepared = .ok (cs, a) ∧
        saveChanges env cs db = .ok (commit env publishes prepared db).1 := by
  cases prepared with
  | error ex => exact Or.inl rfl
  | ok p =>
    obtain ⟨cs, a⟩ := p
    cases hs : saveChanges env cs db with
    | error ex =>
      left
      simp only [commit, hs]
    | ok db' =>
      refine Or.inr ⟨cs, a, rfl, ?_⟩
      simp only [commit, hs]
      split <;> rfl

theorem commit_ok {α : Type} {env : Env} {publishes : Bool}
    {prepared : Except LedgerException (ChangeSet × α)} {db db' : LedgerDb} {a : α}
    (h : commit env publishes prepared db = (db', .ok a)) :
    ∃ cs, prepared = .ok (cs, a) ∧ saveChanges env cs db = .ok db' := by
  cases prepared with
  | error ex => simp [commit] at h
  | ok p =>
    obtain ⟨cs, b⟩ := p
    cases hs : saveChanges env cs db with
    | error ex => simp [commit, hs] at h
    | ok db₁ =>
      simp only [commit, hs] at h
      split at h
      · simp at h
      · simp only [Prod.mk.injEq, Except.ok.injEq] at h
        obtain ⟨rfl, rfl⟩ := h
        exact ⟨cs, rfl, hs⟩

/-! ## CreateAccount -/

structure CreateAccountCommand where
  tenantId : Guid
  code : String
  name : String
  accountType : AccountType
  parentId : Option Guid
  description : Option String

namespace CreateAccountHandler

def validator (request : CreateAccountCommand) : List String :=
  guidNotEmpty "Tenant Id" request.tenantId ++
    stringNotEmpty "Code" request.code ++ maximumLength "Code" 20 request.code ++
    stringNotEmpty "Name" request.name ++ maximumLength "Name" 200 request.name

def prepare (env : Env) (request : CreateAccountCommand) (db : LedgerDb) :
    Except LedgerException (ChangeSet × Guid) := do
  validate (validator request)
  match db.getAccountByCode request.tenantId request.code with
  | some _ =>
    let code := request.code
    .error (.invalidOperation s!"Account with code '{code}' already exists.")
  | none =>
    let account := Account.create (env.newGuid 0) request.tenantId request.code request.name
      request.accountType request.parentId request.description
    .ok ({ addedAccounts := [account] }, account.id)

def handle (env : Env) (request : CreateAccountCommand) (db : LedgerDb) :
    LedgerDb × Except LedgerException Guid :=
  commit env true (prepare env request db) db

theorem prepare_ok {env : Env} {request : CreateAccountCommand} {db : LedgerDb} {cs : ChangeSet}
    {id : Guid} (h : prepare env request db = .ok (cs, id)) :
    validator request = [] ∧ db.getAccountByCode request.tenantId request.code = none ∧
      cs = { addedAccounts := [Account.create (env.newGuid 0) request.tenantId request.code
        request.name request.accountType request.parentId request.description] } := by
  obtain ⟨_, hv, h⟩ := bind_eq_ok.mp h
  split at h
  · cases h
  · next hn =>
    cases h
    exact ⟨validate_ok hv, hn, rfl⟩

end CreateAccountHandler

/-! ## InitializeFromTemplate -/

structure InitializeFromTemplateCommand where
  tenantId : Guid
  templateCode : String

namespace InitializeFromTemplateHandler

def parseAccountType (type : String) : Except LedgerException AccountType :=
  match type.toLower with
  | "asset" => .ok .asset
  | "liability" => .ok .liability
  | "equity" => .ok .equity
  | "revenue" => .ok .revenue
  | "expense" => .ok .expense
  | _ => .error (.invalidOperation s!"Unknown account type: {type}")

/-- Parents first (no parent code), then by code. -/
def entryLe (culture : Culture) (a b : TemplateAccountEntry) : Prop :=
  let rank := fun e : TemplateAccountEntry => if e.parentCode.isNone then 0 else 1
  rank a < rank b ∨ (rank a = rank b ∧ culture.le a.code b.code = true)

instance (culture : Culture) : DecidableRel (entryLe culture) :=
  fun _ _ => inferInstanceAs (Decidable (_ ∨ _))

/-- One turn of the loop: `created` holds the accounts made so far, in order (`toCreate`, and
    `createdMap` read by code, the last entry of a code winning). -/
def createOne (env : Env) (tenantId : Guid) (existingCodes : List String)
    (created : List Account) (entry : TemplateAccountEntry) :
    Except LedgerException (List Account) :=
  if entry.code ∈ existingCodes then .ok created
  else do
    let accountType ← parseAccountType entry.type
    let parentId := match entry.parentCode with
      | some code =>
        if code = "" then none else (created.reverse.find? (·.code = code)).map (·.id)
      | none => none
    .ok (created ++ [Account.create (env.newGuid created.length) tenantId entry.code entry.name
      accountType parentId none])

def prepare (env : Env) (request : InitializeFromTemplateCommand) (db : LedgerDb) :
    Except LedgerException (ChangeSet × Nat) :=
  match db.getTemplateByCode request.templateCode with
  | none =>
    let code := request.templateCode
    .error (.invalidOperation s!"Template '{code}' not found.")
  | some template =>
    match template.accounts with
    | none => .error (.invalidOperation "Failed to parse template accounts.")
    | some templateEntries => do
      let existingCodes := (db.getAllByTenant request.tenantId).map (·.code)
      let toCreate ← (templateEntries.insertionSort (entryLe env.culture)).foldlM
        (createOne env request.tenantId existingCodes) []
      .ok ({ addedAccounts := toCreate }, toCreate.length)

def handle (env : Env) (request : InitializeFromTemplateCommand) (db : LedgerDb) :
    LedgerDb × Except LedgerException Nat :=
  match prepare env request db with
  -- nothing to create: no save is attempted
  | .ok (_, 0) => (db, .ok 0)
  | prepared => commit env false prepared db

theorem prepare_ok {env : Env} {request : InitializeFromTemplateCommand} {db : LedgerDb}
    {cs : ChangeSet} {n : Nat} (h : prepare env request db = .ok (cs, n)) :
    ∃ template entries toCreate, db.getTemplateByCode request.templateCode = some template ∧
      template.accounts = some entries ∧
      (entries.insertionSort (entryLe env.culture)).foldlM (createOne env request.tenantId
        ((db.getAllByTenant request.tenantId).map (·.code))) [] = .ok toCreate ∧
      cs = { addedAccounts := toCreate } := by
  unfold prepare at h
  split at h
  · cases h
  · next template ht =>
    split at h
    · cases h
    · next entries he =>
      obtain ⟨toCreate, hc, h⟩ := bind_eq_ok.mp h
      cases h
      exact ⟨template, entries, toCreate, ht, he, hc, rfl⟩

end InitializeFromTemplateHandler

/-! ## PATCH /accounts/{id} -/

structure UpdateAccountRequest where
  name : String
  description : Option String
  isActive : Bool

namespace UpdateAccountEndpoint

/-- `none` is the 404 answer. -/
def prepare (id : Guid) (req : UpdateAccountRequest) (db : LedgerDb) :
    Except LedgerException (ChangeSet × Option Account) :=
  match db.getAccountById id with
  | none => .ok ({}, none)
  | some account =>
    let current := account.update req.name req.description req.isActive
    .ok ({ modifiedAccounts := [(account, current)] }, some current)

def handle (env : Env) (id : Guid) (req : UpdateAccountRequest) (db : LedgerDb) :
    LedgerDb × Except LedgerException (Option Account) :=
  match db.getAccountById id with
  | none => (db, .ok none)
  | some _ => commit env false (prepare id req db) db

theorem prepare_ok {id : Guid} {req : UpdateAccountRequest} {db : LedgerDb} {cs : ChangeSet}
    {res : Option Account} (h : prepare id req db = .ok (cs, res)) :
    cs = { modifiedAccounts := (db.getAccountById id).toList.map fun account =>
      (account, account.update req.name req.description req.isActive) } := by
  unfold prepare at h
  split at h
  · next hn =>
    cases h
    rw [hn]
    rfl
  · next account hs =>
    cases h
    rw [hs]
    rfl

end UpdateAccountEndpoint

/-! ## CreateJournalEntry -/

structure JournalLineRequest where
  accountId : Guid
  debitAmount : Decimal
  creditAmount : Decimal
  description : Option String

structure CreateJournalEntryCommand where
  tenantId : Guid
  entryDate : DateOnly
  description : String
  reference : Option String
  periodId : Option Guid
  sourceModule : Option String
  lines : List JournalLineRequest

namespace CreateJournalEntryHandler

def lineValidator (l : JournalLineRequest) : List String :=
  guidNotEmpty "Account Id" l.accountId ++
    if (0 < l.debitAmount ∧ l.creditAmount = 0) ∨ (0 < l.creditAmount ∧ l.debitAmount = 0) then []
    else ["Each line must have either a debit or a credit amount, not both."]

def validator (request : CreateJournalEntryCommand) : List String :=
  guidNotEmpty "Tenant Id" request.tenantId ++
    stringNotEmpty "Description" request.description ++
    maximumLength "Description" 500 request.description ++
    (if request.lines = [] then ["Journal entry must have at least one line."] else []) ++
    request.lines.flatMap lineValidator

/-- The check on the optional `PeriodId` of the request. -/
def checkPeriod (periodId : Option Guid) (db : LedgerDb) : Except LedgerException Unit :=
  match periodId with
  | none => .ok ()
  | some id =>
    match db.getPeriodById id with
    | none => .error (.invalidOperation s!"Fiscal period {id} not found.")
    | some period => if period.status ≠ .opened then .error (.closedPeriod id) else .ok ()

def newEntry (env : Env) (request : CreateJournalEntryCommand) : JournalEntry :=
  request.lines.foldl (fun e l => e.addLine l.accountId l.debitAmount l.creditAmount l.description)
    (JournalEntry.create (env.newGuid 0) request.tenantId request.entryDate request.description
      request.reference request.periodId request.sourceModule)

def prepare (env : Env) (request : CreateJournalEntryCommand) (db : LedgerDb) :
    Except LedgerException (ChangeSet × Guid) := do
  validate (validator request)
  checkPeriod request.periodId db
  let entry := newEntry env request
  .ok ({ addedEntries := [entry] }, entry.id)

def handle (env : Env) (request : CreateJournalEntryCommand) (db : LedgerDb) :
    LedgerDb × Except LedgerException Guid :=
  commit env false (prepare env request db) db

/-- The line made of one line of the request. -/
def newLine (e : JournalEntry) (l : JournalLineRequest) : JournalLine :=
  { journalEntryId := e.id, tenantId := e.tenantId, accountId := l.accountId,
    debitAmount := l.debitAmount, creditAmount := l.creditAmount, description := l.description }

theorem foldl_addLine (ls : List JournalLineRequest) (e : JournalEntry) :
    ls.foldl (fun e l => e.addLine l.accountId l.debitAmount l.creditAmount l.description) e =
      { e with lines := e.lines ++ ls.map (newLine e) } := by
  induction ls generalizing e with
  | nil => simp
  | cons l ls ih =>
    rw [List.foldl_cons, ih]
    simp only [JournalEntry.addLine, List.append_assoc, List.cons_append, List.nil_append,
      List.map_cons]
    rfl

theorem newEntry_eq (env : Env) (request : CreateJournalEntryCommand) :
    newEntry env request =
      let e := JournalEntry.create (env.newGuid 0) request.tenantId request.entryDate
        request.description request.reference request.periodId request.sourceModule
      { e with lines := request.lines.map (newLine e) } := by
  rw [newEntry, foldl_addLine]
  rfl

/-- The validator lets only one-sided lines through. -/
theorem oneSided_of_validator {request : CreateJournalEntryCommand}
    (h : validator request = []) (env : Env) :
    ∀ l ∈ (newEntry env request).lines, l.leg.OneSided := by
  rw [newEntry_eq]
  intro l hl
  obtain ⟨q, hq, rfl⟩ := List.mem_map.mp hl
  have hv : lineValidator q = [] :=
    List.flatMap_eq_nil_iff.mp (List.append_eq_nil_iff.mp h).2 q hq
  obtain ⟨-, hv⟩ := List.append_eq_nil_iff.mp hv
  split at hv
  · next hside => exact hside
  · exact absurd hv (List.cons_ne_nil _ _)

theorem prepare_ok {env : Env} {request : CreateJournalEntryCommand} {db : LedgerDb}
    {cs : ChangeSet} {id : Guid} (h : prepare env request db = .ok (cs, id)) :
    validator request = [] ∧ checkPeriod request.periodId db = .ok () ∧
      cs = { addedEntries := [newEntry env request] } := by
  obtain ⟨_, hv, h⟩ := bind_eq_ok.mp h
  obtain ⟨_, hp, h⟩ := bind_eq_ok.mp h
  cases h
  exact ⟨validate_ok hv, hp, rfl⟩

end CreateJournalEntryHandler

/-! ## PostJournalEntry -/

structure PostJournalEntryCommand where
  entryId : Guid
  postedByUserId : Guid

/-- `GetByIdAsync(id) ?? throw`. -/
def findEntry (id : Guid) (db : LedgerDb) : Except LedgerException JournalEntry :=
  match db.getEntryById id with
  | some entry => .ok entry
  | none => .error (.invalidOperation s!"Journal entry {id} not found.")

theorem findEntry_ok {id : Guid} {db : LedgerDb} {e : JournalEntry}
    (h : findEntry id db = .ok e) : e ∈ db.entries ∧ e.id = id := by
  unfold findEntry at h
  split at h
  · next hf =>
    cases h
    exact LedgerDb.getEntryById_eq hf
  · cases h

namespace PostJournalEntryHandler

def validator (request : PostJournalEntryCommand) : List String :=
  guidNotEmpty "Entry Id" request.entryId ++
    guidNotEmpty "Posted By User Id" request.postedByUserId

def prepare (env : Env) (request : PostJournalEntryCommand) (db : LedgerDb) :
    Except LedgerException (ChangeSet × Unit) := do
  validate (validator request)
  let entry ← findEntry request.entryId db
  let current ← entry.post request.postedByUserId env.utcNow
  .ok ({ modifiedEntries := [(entry, current)] }, ())

def handle (env : Env) (request : PostJournalEntryCommand) (db : LedgerDb) :
    LedgerDb × Except LedgerException Unit :=
  commit env true (prepare env request db) db

theorem prepare_ok {env : Env} {request : PostJournalEntryCommand} {db : LedgerDb}
    {cs : ChangeSet} {u : Unit} (h : prepare env request db = .ok (cs, u)) :
    ∃ entry ∈ db.entries, entry.id = request.entryId ∧ entry.status = .draft ∧
      entry.IsBalanced ∧
      cs = { modifiedEntries := [(entry,
        { entry with
          status := .posted
          postedBy := some request.postedByUserId
          postedAt := some env.utcNow })] } := by
  obtain ⟨_, -, h⟩ := bind_eq_ok.mp h
  obtain ⟨entry, hf, h⟩ := bind_eq_ok.mp h
  obtain ⟨current, hp, h⟩ := bind_eq_ok.mp h
  obtain ⟨hmem, hid⟩ := findEntry_ok hf
  obtain ⟨hs, hb, rfl⟩ := JournalEntry.post_ok hp
  cases h
  exact ⟨entry, hmem, hid, hs, hb, rfl⟩

end PostJournalEntryHandler

/-! ## ReverseJournalEntry -/

structure ReverseJournalEntryCommand where
  entryId : Guid
  reason : String
  reversedByUserId : Guid

namespace ReverseJournalEntryHandler

def prepare (env : Env) (request : ReverseJournalEntryCommand) (db : LedgerDb) :
    Except LedgerException (ChangeSet × Guid) := do
  let entry ← findEntry request.entryId db
  let (reversal, current) ← entry.createReversal request.reason request.reversedByUserId
    (env.newGuid 0) env.utcNow
  .ok ({ addedEntries := [reversal], modifiedEntries := [(entry, current)] }, reversal.id)

def handle (env : Env) (request : ReverseJournalEntryCommand) (db : LedgerDb) :
    LedgerDb × Except LedgerException Guid :=
  commit env false (prepare env request db) db

theorem prepare_ok {env : Env} {request : ReverseJournalEntryCommand} {db : LedgerDb}
    {cs : ChangeSet} {id : Guid} (h : prepare env request db = .ok (cs, id)) :
    ∃ entry ∈ db.entries, ∃ reversal current, entry.id = request.entryId ∧
      entry.createReversal request.reason request.reversedByUserId (env.newGuid 0) env.utcNow =
        .ok (reversal, current) ∧
      cs = { addedEntries := [reversal], modifiedEntries := [(entry, current)] } := by
  obtain ⟨entry, hf, h⟩ := bind_eq_ok.mp h
  obtain ⟨⟨reversal, current⟩, hr, h⟩ := bind_eq_ok.mp h
  obtain ⟨hmem, hid⟩ := findEntry_ok hf
  cases h
  exact ⟨entry, hmem, reversal, current, hid, hr, rfl⟩

end ReverseJournalEntryHandler

/-! ## CreateFiscalPeriod -/

structure CreateFiscalPeriodCommand where
  tenantId : Guid
  name : String
  startDate : DateOnly
  endDate : DateOnly

namespace CreateFiscalPeriodHandler

def prepare (env : Env) (request : CreateFiscalPeriodCommand) :
    Except LedgerException (ChangeSet × Guid) :=
  let period := FiscalPeriod.create (env.newGuid 0) request.tenantId request.name
    request.startDate request.endDate
  .ok ({ addedPeriods := [period] }, period.id)

def handle (env : Env) (request : CreateFiscalPeriodCommand) (db : LedgerDb) :
    LedgerDb × Except LedgerException Guid :=
  commit env false (prepare env request) db

end CreateFiscalPeriodHandler

end SaasChassis.Ledger
