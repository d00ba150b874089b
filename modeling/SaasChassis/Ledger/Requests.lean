/-
  Requests of the ledger that run at the same time.

  A request stands between two of its accesses to the database, and `Request.next` takes it
  through the next one. Posting and reversing read the entry (`GetByIdAsync`) and save. The close
  reads the period, then the entries, then the accounts, each with a query of its own, and saves.
  Each query sees what is committed at that moment; what was read lives in the request's own
  context. The save is one transaction: updates by primary key and inserts, which only the
  constraints of the schema can refuse. No column of the mapping is a concurrency token.

  `next_shared`: the tables change only by a save. `uninterrupted_reverse`, `uninterrupted_post`,
  `uninterrupted_close`: a request that nobody interrupts does what the command does in `step`.
  `commit_of_saved`: so does the save of a change set that the handler would prepare at that
  very moment.
-/
import SaasChassis.Ledger.Step
import SaasChassis.Lib.Interleaving

namespace SaasChassis.Ledger

open SaasChassis.Lib

/-! ## The close, read by read -/

namespace CloseFiscalPeriodHandler

/-- 3 to 8. What the handler does once the entries and the accounts are read. -/
def prepareFrom (env : Env) (request : CloseFiscalPeriodCommand) (period : FiscalPeriod)
    (entries : List JournalEntry) (allAccounts : List Account) :
    Except LedgerException (ChangeSet × Unit) := do
  let lines := postedLines entries
  let retainedSurplus ← findRetainedSurplus allAccounts
  let closing ← postClosing
    (closingEntry (env.newGuid 0) request period lines allAccounts retainedSurplus)
    request.closedByUserId env.utcNow
  let closed ← period.close request.closedByUserId env.utcNow
  let nextPeriodStart ← addDays period.endDate 1
  let opening ← postOpening
    (openingEntry (env.newGuid 1) request period nextPeriodStart lines allAccounts)
    request.closedByUserId env.utcNow
  .ok ({ addedEntries := closing ++ opening,
         modifiedPeriods := [(period, linkOpening closed opening)] }, ())

theorem prepare_eq (env : Env) (request : CloseFiscalPeriodCommand) (db : LedgerDb) :
    prepare env request db = (do
      let period ← loadPeriod request db
      checkNoDrafts (periodEntries request period db)
      prepareFrom env request period (periodEntries request period db)
        (db.getAllByTenant request.tenantId)) := rfl

/-- Of the entries only the lines of the posted ones matter. -/
theorem prepareFrom_congr {env : Env} {request : CloseFiscalPeriodCommand}
    {period : FiscalPeriod} {entries entries' : List JournalEntry} {allAccounts : List Account}
    (h : postedLines entries = postedLines entries') :
    prepareFrom env request period entries allAccounts =
      prepareFrom env request period entries' allAccounts := by
  unfold prepareFrom
  rw [h]

end CloseFiscalPeriodHandler

open CloseFiscalPeriodHandler (loadPeriod periodEntries checkNoDrafts prepareFrom)

/-! ## Requests -/

/-- The commands whose handler publishes an event after the save. -/
def publishes : LedgerCommand → Bool
  | .createAccount _ | .postJournalEntry _ | .closeFiscalPeriod _ => true
  | _ => false

/-- A request, by what it does next. -/
inductive Request where
  | reverse (env : Env) (c : ReverseJournalEntryCommand)
  | post (env : Env) (c : PostJournalEntryCommand)
  | close (env : Env) (c : CloseFiscalPeriodCommand)
  /-- A close that holds the period. -/
  | periodRead (env : Env) (c : CloseFiscalPeriodCommand) (period : FiscalPeriod)
  /-- A close that holds the period and its entries. -/
  | entriesRead (env : Env) (c : CloseFiscalPeriodCommand) (period : FiscalPeriod)
    (entries : List JournalEntry)
  | saving (env : Env) (cmd : LedgerCommand) (cs : ChangeSet)
  | finished (result : Except LedgerException Unit)

namespace Request

/-- All reads are done: the save is next, unless the handler threw. -/
def prepared (env : Env) (cmd : LedgerCommand) : Except LedgerException ChangeSet → Request
  | .ok cs => .saving env cmd cs
  | .error ex => .finished (.error ex)

/-- The request's next access to the database, and what it does up to the one after it. -/
def next (db : LedgerDb) : Request → LedgerDb × Request
  | .reverse env c =>
    (db, prepared env (.reverseJournalEntry c) (changes env (.reverseJournalEntry c) db))
  | .post env c => (db, prepared env (.postJournalEntry c) (changes env (.postJournalEntry c) db))
  | .close env c =>
    match loadPeriod c db with
    | .ok period => (db, .periodRead env c period)
    | .error ex => (db, .finished (.error ex))
  | .periodRead env c period =>
    match checkNoDrafts (periodEntries c period db) with
    | .ok _ => (db, .entriesRead env c period (periodEntries c period db))
    | .error ex => (db, .finished (.error ex))
  | .entriesRead env c period entries =>
    (db, prepared env (.closeFiscalPeriod c)
      ((prepareFrom env c period entries (db.getAllByTenant c.tenantId)).map (·.1)))
  | .saving env cmd cs =>
    let res := commit env (publishes cmd) (.ok (cs, ())) db
    (res.1, .finished res.2)
  | .finished result => (db, .finished result)

/-- The tables after a save, which a failed publish does not undo. -/
theorem commit_fst {α : Type} (env : Env) (b : Bool) (cs : ChangeSet) (a : α) (db : LedgerDb) :
    (commit env b (.ok (cs, a)) db).1 =
      match saveChanges env cs db with
      | .ok db' => db'
      | .error _ => db := by
  cases hs : saveChanges env cs db with
  | error ex => simp only [commit, hs]
  | ok db' =>
    simp only [commit, hs]
    split <;> rfl

theorem next_saved {env : Env} {cmd : LedgerCommand} {cs : ChangeSet} {db db' : LedgerDb}
    (h : saveChanges env cs db = .ok db') : (next db (.saving env cmd cs)).1 = db' := by
  have he := commit_fst env (publishes cmd) cs () db
  rw [h] at he
  exact he

theorem next_refused {env : Env} {cmd : LedgerCommand} {cs : ChangeSet} {db : LedgerDb}
    {ex : LedgerException} (h : saveChanges env cs db = .error ex) :
    (next db (.saving env cmd cs)).1 = db := by
  have he := commit_fst env (publishes cmd) cs () db
  rw [h] at he
  exact he

/-- Only a save that the database accepts changes the tables. -/
theorem next_shared (db : LedgerDb) (r : Request) :
    (next db r).1 = db ∨ ∃ env cmd cs, r = .saving env cmd cs ∧
      saveChanges env cs db = .ok (next db r).1 := by
  cases r with
  | reverse env c => exact Or.inl rfl
  | post env c => exact Or.inl rfl
  | close env c =>
    left
    simp only [next]
    split <;> rfl
  | periodRead env c period =>
    left
    simp only [next]
    split <;> rfl
  | entriesRead env c period entries => exact Or.inl rfl
  | saving env cmd cs =>
    cases hs : saveChanges env cs db with
    | error ex => exact Or.inl (next_refused hs)
    | ok db' =>
      refine Or.inr ⟨env, cmd, cs, rfl, ?_⟩
      rw [next_saved hs, hs]
  | finished result => exact Or.inl rfl

/-! ## One request at a time -/

theorem next_prepared {α : Type} (env : Env) (cmd : LedgerCommand)
    (p : Except LedgerException (ChangeSet × α)) (db : LedgerDb) :
    next db (prepared env cmd (p.map (·.1))) =
      ((commit env (publishes cmd) p db).1,
        .finished ((commit env (publishes cmd) p db).2.map fun _ => ())) := by
  cases p with
  | error ex => rfl
  | ok q =>
    obtain ⟨cs, a⟩ := q
    show ((commit env (publishes cmd) (.ok (cs, ())) db).1, _) = _
    cases hs : saveChanges env cs db with
    | error ex => simp only [commit, hs, Except.map]
    | ok db' =>
      simp only [commit, hs]
      split <;> rfl

theorem alone_reverse (env : Env) (c : ReverseJournalEntryCommand) (db : LedgerDb) :
    (Pool.alone next 2 db (.reverse env c)).1 = step db (env, .reverseJournalEntry c) :=
  congrArg Prod.fst (next_prepared env (.reverseJournalEntry c)
    (ReverseJournalEntryHandler.prepare env c db) db)

theorem alone_post (env : Env) (c : PostJournalEntryCommand) (db : LedgerDb) :
    (Pool.alone next 2 db (.post env c)).1 = step db (env, .postJournalEntry c) :=
  congrArg Prod.fst (next_prepared env (.postJournalEntry c)
    (PostJournalEntryHandler.prepare env c db) db)

theorem alone_close (env : Env) (c : CloseFiscalPeriodCommand) (db : LedgerDb) :
    (Pool.alone next 4 db (.close env c)).1 = step db (env, .closeFiscalPeriod c) := by
  have hstep : step db (env, .closeFiscalPeriod c) =
      (commit env true (CloseFiscalPeriodHandler.prepare env c db) db).1 := rfl
  rw [hstep, CloseFiscalPeriodHandler.prepare_eq]
  cases hp : loadPeriod c db with
  | error ex =>
    have h1 : next db (.close env c) = (db, .finished (.error ex)) := by simp only [next, hp]
    simp only [Pool.alone, h1]
    rfl
  | ok period =>
    have h1 : next db (.close env c) = (db, .periodRead env c period) := by simp only [next, hp]
    show (Pool.alone next 4 db (.close env c)).1 = (commit env true
      (checkNoDrafts (periodEntries c period db) >>= fun _ => prepareFrom env c period
        (periodEntries c period db) (db.getAllByTenant c.tenantId)) db).1
    cases hd : checkNoDrafts (periodEntries c period db) with
    | error ex =>
      have h2 : next db (.periodRead env c period) = (db, .finished (.error ex)) := by
        simp only [next, hd]
      simp only [Pool.alone, h1, h2]
      rfl
    | ok u =>
      have h2 : next db (.periodRead env c period) =
          (db, .entriesRead env c period (periodEntries c period db)) := by
        simp only [next, hd]
      simp only [Pool.alone, h1, h2]
      exact congrArg Prod.fst (next_prepared env (.closeFiscalPeriod c) (prepareFrom env c period
        (periodEntries c period db) (db.getAllByTenant c.tenantId)) db)

section Uninterrupted

variable {p : Pool LedgerDb Request} {k : Nat} {env : Env}

theorem uninterrupted_reverse {c : ReverseJournalEntryCommand}
    (h : p.threads[k]? = some (.reverse env c)) :
    (run (Pool.step next) p (List.replicate 2 k)).shared =
      step p.shared (env, .reverseJournalEntry c) := by
  rw [Pool.run_replicate 2 h]
  exact alone_reverse env c p.shared

theorem uninterrupted_post {c : PostJournalEntryCommand}
    (h : p.threads[k]? = some (.post env c)) :
    (run (Pool.step next) p (List.replicate 2 k)).shared =
      step p.shared (env, .postJournalEntry c) := by
  rw [Pool.run_replicate 2 h]
  exact alone_post env c p.shared

theorem uninterrupted_close {c : CloseFiscalPeriodCommand}
    (h : p.threads[k]? = some (.close env c)) :
    (run (Pool.step next) p (List.replicate 4 k)).shared =
      step p.shared (env, .closeFiscalPeriod c) := by
  rw [Pool.run_replicate 4 h]
  exact alone_close env c p.shared

end Uninterrupted

/-- The save of what a handler would prepare now is what the handler does. -/
theorem commit_of_saved {α : Type} {env : Env} {b : Bool} {cs : ChangeSet} {db db' : LedgerDb}
    {p : Except LedgerException (ChangeSet × α)} (h : p.map (·.1) = .ok cs)
    (hs : saveChanges env cs db = .ok db') : (commit env b p db).1 = db' := by
  obtain ⟨a, rfl⟩ := map_fst_eq_ok h
  rw [commit_fst, hs]

end Request

/-- The requests from state `db` on, in the order of `schedule`. -/
def interleave (db : LedgerDb) (requests : List Request) (schedule : List Nat) :
    Pool LedgerDb Request :=
  run (Pool.step Request.next) ⟨db, requests⟩ schedule

/-- Every step of the schedule meets `C`. -/
def ScheduleSatisfies (C : LedgerDb → Request → Prop) (db : LedgerDb) (requests : List Request)
    (schedule : List Nat) : Prop :=
  StepsSatisfy (Pool.step Request.next) (Pool.OnStep C) ⟨db, requests⟩ schedule

end SaasChassis.Ledger
