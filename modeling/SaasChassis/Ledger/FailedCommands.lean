/-
  What a failed CreateAccount, PostJournalEntry or CloseFiscalPeriod leaves in the tables.

  The handlers here make their calls one by one: lookups, the save, the publish, each of which may
  throw any exception. Up to the save they only read (`createAccount_reads`,
  `postJournalEntry_reads`, `closeFiscalPeriod_reads`), and a save writes all or nothing.
  `saveAndPublish_iff`: an exception then means unchanged tables unless it is the publish that
  throws, after a save that was accepted. `failed_command_iff` is this for the three handlers;
  `handle_calls` says that they are the handlers of Commands when no lookup fails.
-/
import SaasChassis.Ledger.Invariants
import SaasChassis.Lib.Faults

namespace SaasChassis.Ledger

open SaasChassis.Lib SaasChassis.Lib.Faulty

/-- A handler that calls the database and RabbitMQ. -/
abbrev Handler (α : Type) := Faulty LedgerDb LedgerException α

/-- `SaveChangesAsync`, when the database can be reached. -/
def saveChangesAsync (cs : ChangeSet) : Handler Unit :=
  execute fun db =>
    match (cs.apply db).violation with
    | some c => .error (.dbUpdate (.violates c))
    | none => .ok (cs.apply db)

/-- `if (_publisher != null) await _publisher.PublishAsync(...)`. -/
def publishAsync (configured : Bool) : Handler Unit :=
  if configured then query fun _ => () else pure ()

/-- The end of the three handlers. -/
def saveAndPublish {α : Type} (configured : Bool) (prepared : Handler (ChangeSet × α)) :
    Handler α := do
  let (cs, a) ← prepared
  saveChangesAsync cs
  publishAsync configured
  return a

namespace CreateAccountHandler

def prepareCalls (env : Env) (request : CreateAccountCommand) : Handler (ChangeSet × Guid) := do
  ofExcept (validate (validator request))
  let existing ← query (·.getAccountByCode request.tenantId request.code)
  ofExcept (match existing with
    | some _ =>
      let code := request.code
      .error (.invalidOperation s!"Account with code '{code}' already exists.")
    | none =>
      let account := Account.create (env.newGuid 0) request.tenantId request.code request.name
        request.accountType request.parentId request.description
      .ok ({ addedAccounts := [account] }, account.id))

def handleCalls (env : Env) (configured : Bool) (request : CreateAccountCommand) : Handler Guid :=
  saveAndPublish configured (prepareCalls env request)

end CreateAccountHandler

namespace PostJournalEntryHandler

def prepareCalls (env : Env) (request : PostJournalEntryCommand) :
    Handler (ChangeSet × Unit) := do
  ofExcept (validate (validator request))
  let found ← query (findEntry request.entryId)
  let entry ← ofExcept found
  let current ← ofExcept (entry.post request.postedByUserId env.utcNow)
  return ({ modifiedEntries := [(entry, current)] }, ())

def handleCalls (env : Env) (configured : Bool) (request : PostJournalEntryCommand) :
    Handler Unit :=
  saveAndPublish configured (prepareCalls env request)

end PostJournalEntryHandler

namespace CloseFiscalPeriodHandler

def prepareCalls (env : Env) (request : CloseFiscalPeriodCommand) :
    Handler (ChangeSet × Unit) := do
  let found ← query (loadPeriod request)
  let period ← ofExcept found
  let entries ← query (periodEntries request period)
  ofExcept (checkNoDrafts entries)
  let lines := postedLines entries
  let allAccounts ← query (·.getAllByTenant request.tenantId)
  let retainedSurplus ← ofExcept (findRetainedSurplus allAccounts)
  let closing ← ofExcept (postClosing
    (closingEntry (env.newGuid 0) request period lines allAccounts retainedSurplus)
    request.closedByUserId env.utcNow)
  let closed ← ofExcept (period.close request.closedByUserId env.utcNow)
  let nextPeriodStart ← ofExcept (addDays period.endDate 1)
  let opening ← ofExcept (postOpening
    (openingEntry (env.newGuid 1) request period nextPeriodStart lines allAccounts)
    request.closedByUserId env.utcNow)
  return ({ addedEntries := closing ++ opening,
            modifiedPeriods := [(period, linkOpening closed opening)] }, ())

def handleCalls (env : Env) (configured : Bool) (request : CloseFiscalPeriodCommand) :
    Handler Unit :=
  saveAndPublish configured (prepareCalls env request)

end CloseFiscalPeriodHandler

/-! ## Up to the save -/

theorem createAccount_reads (env : Env) (request : CreateAccountCommand) :
    Reads (CreateAccountHandler.prepareCalls env request) 1
      (CreateAccountHandler.prepare env request) :=
  (Reads.ofExcept _).bind fun _ => (Reads.query _).bind fun _ => Reads.ofExcept _

theorem postJournalEntry_reads (env : Env) (request : PostJournalEntryCommand) :
    Reads (PostJournalEntryHandler.prepareCalls env request) 1
      (PostJournalEntryHandler.prepare env request) :=
  (Reads.ofExcept _).bind fun _ => (Reads.query _).bind fun _ => (Reads.ofExcept _).bind fun _ =>
    (Reads.ofExcept _).bind fun _ => Reads.pure _

theorem closeFiscalPeriod_reads (env : Env) (request : CloseFiscalPeriodCommand) :
    Reads (CloseFiscalPeriodHandler.prepareCalls env request) 3
      (CloseFiscalPeriodHandler.prepare env request) :=
  Reads.congr ((Reads.query _).bind fun _ => (Reads.ofExcept _).bind fun _ =>
    (Reads.query _).bind fun _ => (Reads.ofExcept _).bind fun _ =>
    (Reads.query _).bind fun _ => (Reads.ofExcept _).bind fun _ =>
    (Reads.ofExcept _).bind fun _ => (Reads.ofExcept _).bind fun _ =>
    (Reads.ofExcept _).bind fun _ => (Reads.ofExcept _).bind fun _ => Reads.pure _)
    rfl fun _ => rfl

/-! ## Save and publish -/

/-- If the handler ends with an exception, the tables are those before the call. -/
def ErrorChangesNothing {α : Type} (handler : Handler α) (fault : Faults LedgerException)
    (db : LedgerDb) : Prop :=
  ∀ e n db', handler fault 0 db = (.error e, n, db') → db' = db

/-- Every guard passes, none of the `lookups` calls nor the save fails, the tables take the save,
    and the publish throws. -/
def PublishFails {α : Type} (configured : Bool) (lookups : ℕ)
    (prepared : Except LedgerException (ChangeSet × α)) (fault : Faults LedgerException)
    (db : LedgerDb) : Prop :=
  configured = true ∧ (∃ cs a, prepared = .ok (cs, a) ∧ (cs.apply db).Schema) ∧
    Clear fault 0 (lookups + 1) ∧ ∃ e, fault (lookups + 1) = some e

section SaveAndPublish

variable {α : Type} {prepared : Handler (ChangeSet × α)} {lookups : ℕ}
  {f : LedgerDb → Except LedgerException (ChangeSet × α)} {configured : Bool}
  {fault : Faults LedgerException} {db : LedgerDb}

theorem saveAndPublish_error {e : LedgerException} {n : ℕ}
    (h : prepared fault 0 db = (.error e, n, db)) :
    saveAndPublish configured prepared fault 0 db = (.error e, n, db) :=
  bind_error _ h

theorem saveAndPublish_saved {cs : ChangeSet} {a : α}
    (h : prepared fault 0 db = (.ok (cs, a), lookups, db)) (hsave : fault lookups = none)
    (hs : (cs.apply db).Schema) :
    saveAndPublish configured prepared fault 0 db =
      (publishAsync configured >>= fun _ => pure a) fault (lookups + 1) (cs.apply db) := by
  unfold saveAndPublish
  rw [bind_ok _ h]
  refine bind_ok _ (execute_ok hsave ?_)
  rw [LedgerDb.violation_eq_none.mpr hs]

theorem saveAndPublish_refused {cs : ChangeSet} {a : α} {e : LedgerException} {n : ℕ}
    (h : prepared fault 0 db = (.ok (cs, a), lookups, db))
    (hsave : saveChangesAsync cs fault lookups db = (.error e, n, db)) :
    saveAndPublish configured prepared fault 0 db = (.error e, n, db) := by
  unfold saveAndPublish
  rw [bind_ok _ h]
  exact bind_error _ hsave

theorem saveChangesAsync_unavailable {cs : ChangeSet} {e : LedgerException} {m : ℕ}
    (h : fault m = some e) : saveChangesAsync cs fault m db = (.error e, m + 1, db) := by
  unfold saveChangesAsync execute
  rw [h]

theorem saveChangesAsync_violates {cs : ChangeSet} {c : String} {m : ℕ} (h : fault m = none)
    (hv : (cs.apply db).violation = some c) :
    saveChangesAsync cs fault m db = (.error (.dbUpdate (.violates c)), m + 1, db) := by
  unfold saveChangesAsync execute
  rw [h]
  simp only [hv]

/-- A save that fails leaves the tables alone. -/
theorem saveChangesAsync_error {cs : ChangeSet} {m : ℕ}
    (hno : ¬(fault m = none ∧ (cs.apply db).Schema)) :
    ∃ e, saveChangesAsync cs fault m db = (.error e, m + 1, db) := by
  cases hf : fault m with
  | some e => exact ⟨e, saveChangesAsync_unavailable hf⟩
  | none =>
    cases hv : (cs.apply db).violation with
    | some c => exact ⟨_, saveChangesAsync_violates hf hv⟩
    | none => exact absurd ⟨hf, LedgerDb.violation_eq_none.mp hv⟩ hno

theorem saveAndPublish_iff (hr : Reads prepared lookups f)
    (hchange : ∀ cs a, f db = .ok (cs, a) → (cs.apply db).Schema → cs.apply db ≠ db) :
    ErrorChangesNothing (saveAndPublish configured prepared) fault db ↔
      ¬PublishFails configured lookups (f db) fault db := by
  rcases hr fault 0 db with ⟨⟨cs, a⟩, hf, hclear, hrun⟩ | ⟨e, n, hrun, herr⟩
  · rw [Nat.zero_add] at hclear hrun
    by_cases hsaved : fault lookups = none ∧ (cs.apply db).Schema
    · have hrun : saveAndPublish configured prepared fault 0 db = _ :=
        saveAndPublish_saved hrun hsaved.1 hsaved.2
      by_cases hpub : configured = true ∧ ∃ e, fault (lookups + 1) = some e
      · obtain ⟨rfl, e, he⟩ := hpub
        have hthrows := hrun.trans (bind_error _ (call_error _ he _))
        refine iff_of_false (fun h => hchange cs a hf hsaved.2 (h _ _ _ hthrows)) ?_
        exact not_not.mpr ⟨rfl, ⟨cs, a, hf, hsaved.2⟩, clear_succ.mpr ⟨hclear, hsaved.1⟩, e, he⟩
      · refine iff_of_true ?_ fun h => hpub ⟨h.1, h.2.2.2⟩
        have hends : ∃ n, saveAndPublish configured prepared fault 0 db =
            (.ok a, n, cs.apply db) := by
          cases configured with
          | false => exact ⟨_, hrun⟩
          | true =>
            cases he : fault (lookups + 1) with
            | none => exact ⟨_, hrun.trans (bind_ok _ (call_ok _ he _))⟩
            | some e => exact absurd ⟨rfl, e, he⟩ hpub
        obtain ⟨n, hends⟩ := hends
        intro e m db' h
        rw [hends] at h
        cases h
    · obtain ⟨e, hsave⟩ := saveChangesAsync_error hsaved
      have hrefused : saveAndPublish configured prepared fault 0 db = _ :=
        saveAndPublish_refused hrun hsave
      refine iff_of_true (fun e' n db' h => ?_) fun h => ?_
      · rw [hrefused] at h
        cases h
        rfl
      · obtain ⟨-, ⟨cs', a', hf', hs⟩, hclear', -⟩ := h
        rw [hf] at hf'
        cases hf'
        exact hsaved ⟨(clear_succ.mp hclear').2, hs⟩
  · have hrun : saveAndPublish configured prepared fault 0 db = _ := saveAndPublish_error hrun
    refine iff_of_true (fun e' n' db' h => ?_) fun h => ?_
    · rw [hrun] at h
      cases h
      rfl
    · obtain ⟨-, ⟨cs, a, hf, -⟩, hclear, -⟩ := h
      rw [herr (by simpa using (clear_succ.mp hclear).1)] at hf
      cases hf

end SaveAndPublish

/-! ## What is saved changes the tables -/

theorem createAccount_changes {env : Env} {request : CreateAccountCommand} {db : LedgerDb}
    {cs : ChangeSet} {id : Guid}
    (h : CreateAccountHandler.prepare env request db = .ok (cs, id)) : cs.apply db ≠ db := by
  obtain ⟨-, -, rfl⟩ := CreateAccountHandler.prepare_ok h
  intro he
  have hlen := congrArg (·.accounts.length) he
  simp [ChangeSet.apply] at hlen

theorem postJournalEntry_changes {env : Env} {request : PostJournalEntryCommand} {db : LedgerDb}
    {cs : ChangeSet} {u : Unit}
    (h : PostJournalEntryHandler.prepare env request db = .ok (cs, u)) : cs.apply db ≠ db := by
  obtain ⟨entry, hmem, -, hdraft, -, rfl⟩ := PostJournalEntryHandler.prepare_ok h
  intro he
  have hrows := congrArg (·.entries) he
  simp only [ChangeSet.apply, List.foldl_cons, List.foldl_nil, List.map_nil,
    List.append_nil] at hrows
  have hrow := congrArg (·.status) (updateKey_eq_self_iff.mp hrows entry hmem rfl)
  rw [writeChanges_posted, hdraft] at hrow
  cases hrow

theorem closeFiscalPeriod_changes {env : Env} {request : CloseFiscalPeriodCommand} {db : LedgerDb}
    {cs : ChangeSet} {u : Unit}
    (h : CloseFiscalPeriodHandler.prepare env request db = .ok (cs, u)) : cs.apply db ≠ db := by
  obtain ⟨p⟩ := CloseFiscalPeriodHandler.prepare_ok h
  intro he
  have hrows := congrArg (·.periods) he
  simp only [ChangeSet.apply, p.changes_eq, List.foldl_cons, List.foldl_nil,
    List.append_nil] at hrows
  have hrow := congrArg (·.status) (updateKey_eq_self_iff.mp hrows p.period p.period_mem rfl)
  rw [writeChanges_linkOpening, linkOpening_status, p.period_opened] at hrow
  cases hrow

/-- Whatever fails, each of the three handlers changes nothing if it ends with an exception, exactly
    when it is not the publish that throws after an accepted save. -/
theorem failed_command_iff (env : Env) (configured : Bool) (fault : Faults LedgerException)
    (db : LedgerDb) :
    (∀ c, ErrorChangesNothing (CreateAccountHandler.handleCalls env configured c) fault db ↔
      ¬PublishFails configured 1 (CreateAccountHandler.prepare env c db) fault db) ∧
    (∀ c, ErrorChangesNothing (PostJournalEntryHandler.handleCalls env configured c) fault db ↔
      ¬PublishFails configured 1 (PostJournalEntryHandler.prepare env c db) fault db) ∧
    ∀ c, ErrorChangesNothing (CloseFiscalPeriodHandler.handleCalls env configured c) fault db ↔
      ¬PublishFails configured 3 (CloseFiscalPeriodHandler.prepare env c db) fault db := by
  refine ⟨fun c => ?_, fun c => ?_, fun c => ?_⟩
  · exact saveAndPublish_iff (createAccount_reads env c) fun _ _ h _ => createAccount_changes h
  · exact saveAndPublish_iff (postJournalEntry_reads env c) fun _ _ h _ =>
      postJournalEntry_changes h
  · exact saveAndPublish_iff (closeFiscalPeriod_reads env c) fun _ _ h _ =>
      closeFiscalPeriod_changes h

/-! ## The same handlers in one piece -/

/-- The faults `env` stands for: none in a lookup, then the save's and the publish's. -/
def faultsOf (env : Env) (lookups : ℕ) : Faults LedgerException := fun i =>
  if i = lookups ∧ env.saveFails then some (.dbUpdate .unavailable)
  else if i = lookups + 1 ∧ env.publisher = some false then some .publishFailed
  else none

theorem faultsOf_save (env : Env) (k : ℕ) :
    faultsOf env k k = if env.saveFails then some (.dbUpdate .unavailable) else none := by
  simp [faultsOf]

theorem faultsOf_publish (env : Env) (k : ℕ) :
    faultsOf env k (k + 1) = if env.publisher = some false then some .publishFailed else none := by
  simp [faultsOf]

theorem clear_faultsOf (env : Env) (k : ℕ) : Clear (faultsOf env k) 0 k := by
  intro i _ hlt
  rw [faultsOf, if_neg fun h => absurd h.1 (by omega), if_neg fun h => absurd h.1 (by omega)]

/-- The tables afterwards, and the answer. -/
def Handler.run {α : Type} (handler : Handler α) (fault : Faults LedgerException) (db : LedgerDb) :
    LedgerDb × Except LedgerException α :=
  ((handler fault 0 db).2.2, (handler fault 0 db).1)

theorem saveAndPublish_commit {α : Type} (env : Env) {prepared : Handler (ChangeSet × α)} {k : ℕ}
    {f : LedgerDb → Except LedgerException (ChangeSet × α)} (hr : Reads prepared k f)
    (db : LedgerDb) :
    Handler.run (saveAndPublish env.publisher.isSome prepared) (faultsOf env k) db =
      commit env true (f db) db := by
  unfold Handler.run
  rcases hr (faultsOf env k) 0 db with ⟨⟨cs, a⟩, hf, -, hrun⟩ | ⟨e, n, hrun, herr⟩
  · rw [Nat.zero_add] at hrun
    have hsave := faultsOf_save env k
    rw [hf]
    cases hsf : env.saveFails with
    | true =>
      rw [hsf, if_pos rfl] at hsave
      rw [saveAndPublish_refused hrun (saveChangesAsync_unavailable hsave)]
      simp only [commit, saveChanges, hsf, if_true]
    | false =>
      rw [hsf, if_neg Bool.false_ne_true] at hsave
      cases hv : (cs.apply db).violation with
      | some c =>
        rw [saveAndPublish_refused hrun (saveChangesAsync_violates hsave hv)]
        simp only [commit, saveChanges, hsf, hv, Bool.false_eq_true, if_false]
      | none =>
        have hpub := faultsOf_publish env k
        rw [saveAndPublish_saved hrun hsave (LedgerDb.violation_eq_none.mp hv)]
        simp only [commit, saveChanges, hsf, hv, Bool.false_eq_true, if_false]
        rcases hp : env.publisher with _ | _ | _
        · rfl
        · rw [hp, if_pos rfl] at hpub
          have hthrows := call_error (fun db : LedgerDb => ((), db)) hpub (cs.apply db)
          rw [Option.isSome_some, bind_error (x := publishAsync true) _ hthrows]
          rfl
        · rw [hp, if_neg (by decide)] at hpub
          have hsent := call_ok (fun db : LedgerDb => ((), db)) hpub (cs.apply db)
          rw [Option.isSome_some, bind_ok (x := publishAsync true) _ hsent]
          rfl
  · rw [saveAndPublish_error hrun, herr (by simpa using clear_faultsOf env k)]
    rfl

/-- Call by call or in one piece, the handlers do the same. -/
theorem handle_calls (env : Env) (db : LedgerDb) :
    (∀ c, Handler.run (CreateAccountHandler.handleCalls env env.publisher.isSome c)
      (faultsOf env 1) db = CreateAccountHandler.handle env c db) ∧
    (∀ c, Handler.run (PostJournalEntryHandler.handleCalls env env.publisher.isSome c)
      (faultsOf env 1) db = PostJournalEntryHandler.handle env c db) ∧
    ∀ c, Handler.run (CloseFiscalPeriodHandler.handleCalls env env.publisher.isSome c)
      (faultsOf env 3) db = CloseFiscalPeriodHandler.handle env c db :=
  ⟨fun c => saveAndPublish_commit env (createAccount_reads env c) db,
    fun c => saveAndPublish_commit env (postJournalEntry_reads env c) db,
    fun c => saveAndPublish_commit env (closeFiscalPeriod_reads env c) db⟩

/-! ## A publish that throws -/

namespace Sample

/-- The ledger with a draft that balances. -/
def drafted : LedgerDb := ledger [draft 601 1 25 101 102 70]

/-- The third call fails: the publish of a posting. -/
def brokerDown : Faults LedgerException := fun i => if i = 2 then some .publishFailed else none

def posting : Handler Unit := PostJournalEntryHandler.handleCalls (on 3 900) true ⟨601, 99⟩

end Sample

/-- The posting ends with an exception and the entry is posted; called again, the handler refuses
    it. -/
theorem posted_though_failed :
    let res := Handler.run Sample.posting Sample.brokerDown Sample.drafted
    Reachable Sample.drafted ∧ res.2 = .error .publishFailed ∧
      Sample.drafted.entries.map (·.status) = [.posted, .draft] ∧
      res.1.entries.map (·.status) = [.posted, .posted] ∧
      (Handler.run Sample.posting noFaults res.1).2 =
        .error (.invalidOperation "Only draft entries can be posted.") ∧
      ¬ErrorChangesNothing Sample.posting Sample.brokerDown Sample.drafted := by
  have herr : (Handler.run Sample.posting Sample.brokerDown Sample.drafted).2 =
      .error .publishFailed := by decide +kernel
  have hbefore : Sample.drafted.entries.map (·.status) = [.posted, .draft] := by decide +kernel
  have hafter : (Handler.run Sample.posting Sample.brokerDown Sample.drafted).1.entries.map
      (·.status) = [.posted, .posted] := by decide +kernel
  refine ⟨Sample.ledger_reachable _, herr, hbefore, hafter, by decide +kernel, fun h => ?_⟩
  have hsame : (Handler.run Sample.posting Sample.brokerDown Sample.drafted).1 = Sample.drafted :=
    h _ _ _ (Prod.ext herr rfl)
  rw [hsame, hbefore] at hafter
  exact absurd hafter (by decide)

end SaasChassis.Ledger
