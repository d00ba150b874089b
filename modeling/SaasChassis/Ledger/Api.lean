/-
  The HTTP side of the ledger service.

  A request brings the headers the gateway forwarded and an `ApiCall`, what ASP.NET's routing and
  model binding make of method, path, query and body. TenantContextMiddleware turns the headers
  into a tenant context; the endpoints read the ids they need from the headers once more. The
  interceptor refuses a context whose tenant id does not parse, before the first query, and sets
  the others as the `Session` of every query.

  `Guid.TryParse` is a parameter: .NET and PostgreSQL do not accept the same texts. A text that
  parses holds no quote, so the SET LOCAL of the interceptor is the setting it writes.
  `receive` is everything before the first query, `performAs` what the endpoint then does.
-/
import SaasChassis.Gateway.Http
import SaasChassis.Ledger.AccountTree
import SaasChassis.Ledger.SessionReports
import Mathlib.Data.Nat.Digits.Lemmas

namespace SaasChassis.Ledger

open SaasChassis.Lib SaasChassis.Lib.Postgres SaasChassis.Rls SaasChassis.Gateway

/-! ## Ids -/

/-- A value of PostgreSQL's `uuid` as the .NET side reads it from a column. -/
def ofUuid (u : Uuid) : Guid := Nat.ofDigits 16 (u.digits.map Fin.val)

theorem ofUuid_injective : Function.Injective ofUuid := by
  intro u v h
  obtain ⟨ds, hds⟩ := u
  obtain ⟨es, hes⟩ := v
  have hvals : ds.map Fin.val = es.map Fin.val := by
    refine Nat.ofDigits_inj_of_len_eq (by decide : 1 < 16) ?_ ?_ ?_ h
    · simp [hds, hes]
    · intro d hd
      obtain ⟨e, -, rfl⟩ := List.mem_map.mp hd
      exact e.isLt
    · intro d hd
      obtain ⟨e, -, rfl⟩ := List.mem_map.mp hd
      exact e.isLt
  obtain rfl := List.map_injective_iff.mpr Fin.val_injective hvals
  rfl

def sessionOf (s : Session Uuid) : Session Guid :=
  ⟨s.currentTenantId.map ofUuid, s.isPlatformAdmin⟩

/-! ## TenantContextMiddleware -/

/-- `headers[key].FirstOrDefault()`. -/
def firstOrDefault (h : Header) (key : String) : Option String := (h (canonicalHeaderKey key)).head?

structure TenantContextInfo where
  tenantId : String
  userId : String
  isPlatformAdmin : Bool

/-- `none` is the 401 answer. -/
def tenantContext (h : Header) : Option TenantContextInfo :=
  let tenantId := firstOrDefault h "X-Tenant-ID"
  let userId := firstOrDefault h "X-User-ID"
  let isPlatformAdmin := decide (firstOrDefault h "X-Is-Platform-Admin" = some "true")
  if tenantId.getD "" = "" && !isPlatformAdmin then none
  else some
    { tenantId := tenantId.getD "00000000-0000-0000-0000-000000000000"
      userId := userId.getD ""
      isPlatformAdmin := isPlatformAdmin }

/-- `TenantContextInterceptor.SetTenantContext`. -/
def setTenantContext (tryParse : String → Option Guid) (context : TenantContextInfo) :
    Except LedgerException (Session Guid) :=
  if (tryParse context.tenantId).isSome then
    .ok (sessionOf (Settings.request context.tenantId context.isPlatformAdmin).session)
  else .error (.invalidOperation s!"Invalid tenant ID format: {context.tenantId}")

/-! ## Endpoints -/

inductive ApiCall where
  | health
  /-- No endpoint, or a request the framework refuses to bind: its status. -/
  | unbound (status : ℕ)
  | getAccounts
  | createAccount (code name : String) (accountType : AccountType) (parentId : Option Guid)
      (description : Option String)
  | fromTemplate (templateCode : String)
  | updateAccount (id : Guid) (req : UpdateAccountRequest)
  | getEntries (fromDate toDate : Option DateOnly) (status : Option EntryStatus)
  | createEntry (entryDate : DateOnly) (description : String) (reference : Option String)
      (periodId : Option Guid) (sourceModule : Option String) (lines : List JournalLineRequest)
  | postEntry (id : Guid)
  | reverseEntry (id : Guid) (reason : String)
  | getPeriods
  | createPeriod (name : String) (startDate endDate : DateOnly)
  | closePeriod (id : Guid)
  | trialBalance (asOfDate : Option DateOnly)
  | generalLedger (accountId : Guid) (fromDate toDate : Option DateOnly)
  | profitLoss (fromDate toDate : DateOnly)
  | balanceSheet (asOfDate : Option DateOnly)
  /-- A query of the entries or of a report with a date or status that `Parse` refuses. -/
  | unreadable

/-- The queries of the endpoints that change nothing. -/
inductive ApiQuery where
  | accounts
  | entries (fromDate toDate : Option DateOnly) (status : Option EntryStatus)
  | periods
  | report (q : ReportQuery)

inductive ApiAction where
  | command (cmd : LedgerCommand)
  | query (tenantId : Guid) (q : ApiQuery)

/-- The answers, before they are written as JSON. -/
inductive ApiAnswer where
  | healthy
  | unbound (status : ℕ)
  /-- 401 of TenantContextMiddleware. -/
  | unauthorized
  /-- An exception of the service's own, for `writeErrorAsync`. -/
  | failed (e : LedgerException)
  /-- Any other exception: 500. -/
  | internalError
  | replied (r : Reply)
  | accounts (roots : List AccountDto)
  | entries (es : List JournalEntryDto)
  | periods (ps : List FiscalPeriod)
  | report (r : Report)

/-- `GetTenantId` and `GetUserId` of the endpoints. -/
def getGuid (tryParse : String → Option Guid) (key : String) (h : Header) :
    Except ApiAnswer Guid :=
  match firstOrDefault h key with
  | none => .error (.failed (.invalidOperation s!"{key} header is required."))
  | some val =>
    match tryParse val with
    | some g => .ok g
    -- FormatException
    | none => .error .internalError

def getTenantId (tryParse : String → Option Guid) : Header → Except ApiAnswer Guid :=
  getGuid tryParse "X-Tenant-ID"

def getUserId (tryParse : String → Option Guid) : Header → Except ApiAnswer Guid :=
  getGuid tryParse "X-User-ID"

/-- What an endpoint sends to its mediator or repository. -/
def ApiCall.action (tryParse : String → Option Guid) (h : Header) :
    ApiCall → Except ApiAnswer ApiAction
  | .health => .error .healthy
  | .unbound status => .error (.unbound status)
  | .getAccounts => do
    let tenantId ← getTenantId tryParse h
    return .query tenantId .accounts
  | .createAccount code name accountType parentId description => do
    let tenantId ← getTenantId tryParse h
    return .command (.createAccount ⟨tenantId, code, name, accountType, parentId, description⟩)
  | .fromTemplate templateCode => do
    let tenantId ← getTenantId tryParse h
    return .command (.initializeFromTemplate ⟨tenantId, templateCode⟩)
  -- no tenant id is read here, nor by the next endpoints that name an entry
  | .updateAccount id req => return .command (.updateAccount id req)
  | .getEntries fromDate toDate status => do
    let tenantId ← getTenantId tryParse h
    return .query tenantId (.entries fromDate toDate status)
  | .createEntry entryDate description reference periodId sourceModule lines => do
    let tenantId ← getTenantId tryParse h
    return .command (.createJournalEntry
      ⟨tenantId, entryDate, description, reference, periodId, sourceModule, lines⟩)
  | .postEntry id => do
    let userId ← getUserId tryParse h
    return .command (.postJournalEntry ⟨id, userId⟩)
  | .reverseEntry id reason => do
    let userId ← getUserId tryParse h
    return .command (.reverseJournalEntry ⟨id, reason, userId⟩)
  | .getPeriods => do
    let tenantId ← getTenantId tryParse h
    return .query tenantId .periods
  | .createPeriod name startDate endDate => do
    let tenantId ← getTenantId tryParse h
    return .command (.createFiscalPeriod ⟨tenantId, name, startDate, endDate⟩)
  | .closePeriod id => do
    let tenantId ← getTenantId tryParse h
    let userId ← getUserId tryParse h
    return .command (.closeFiscalPeriod ⟨id, tenantId, userId⟩)
  | .trialBalance asOfDate => do
    let tenantId ← getTenantId tryParse h
    return .query tenantId (.report (.trialBalance asOfDate))
  | .generalLedger accountId fromDate toDate => do
    let tenantId ← getTenantId tryParse h
    return .query tenantId (.report (.generalLedger accountId fromDate toDate))
  | .profitLoss fromDate toDate => do
    let tenantId ← getTenantId tryParse h
    return .query tenantId (.report (.profitAndLoss fromDate toDate))
  | .balanceSheet asOfDate => do
    let tenantId ← getTenantId tryParse h
    return .query tenantId (.report (.balanceSheet asOfDate))
  | .unreadable => do
    let _ ← getTenantId tryParse h
    .error .internalError

/-- The exception of the interceptor as the endpoint ends with it. Of the commands that need not
    have read a tenant id only PostJournalEntry validates before it queries. -/
def ApiAction.refused (e : LedgerException) : ApiAction → ApiAnswer
  | .command (.postJournalEntry c) =>
    let errors := PostJournalEntryHandler.validator c
    if errors = [] then .failed e else .failed (.validation errors)
  | _ => .failed e

/-- What the middlewares, the endpoint and the interceptor make of the headers: an answer, or a
    session for the endpoint's action. -/
def receive (tryParse : String → Option Guid) (h : Header) (call : ApiCall) :
    ApiAnswer ⊕ (Session Guid × ApiAction) :=
  match call with
  -- past the middleware without a context
  | .health => .inl .healthy
  | call =>
    match tenantContext h with
    | none => .inl .unauthorized
    | some context =>
      match call.action tryParse h with
      | .error answer => .inl answer
      | .ok action =>
        match setTenantContext tryParse context with
        | .error e => .inl (action.refused e)
        | .ok s => .inr (s, action)

/-! ## Performing the action -/

/-- `FiscalPeriodRepository.GetByTenantAsync`. -/
def LedgerDb.getPeriodsByTenant (db : LedgerDb) (tenantId : Guid) : List FiscalPeriod :=
  (db.periods.filter (·.tenantId = tenantId)).insertionSort (·.startDate ≤ ·.startDate)

def ApiQuery.answer (now : DateTime) (tenantId : Guid) (db : LedgerDb) : ApiQuery → ApiAnswer
  | .accounts =>
    match AccountEndpoints.getAccounts db tenantId with
    | some roots => .accounts roots
    -- ArgumentException
    | none => .internalError
  -- the lines come without the codes and names of their accounts
  | .entries fromDate toDate status =>
    .entries ((db.getByTenant tenantId fromDate toDate status none).map (JournalEntry.toDto []))
  | .periods => .periods (db.getPeriodsByTenant tenantId)
  | .report q => .report (Ledger.report now tenantId q db)

/-- A request that got to its endpoint. -/
structure SessionAction where
  session : Session Guid
  env : Env
  action : ApiAction

def ApiAnswer.ofReply : Except LedgerException Reply → ApiAnswer
  | .ok r => .replied r
  | .error e => .failed e

def performAs (db : LedgerDb) (i : SessionAction) : LedgerDb × ApiAnswer :=
  match i.action with
  | .command cmd =>
    let res := stepAs db ⟨i.session, i.env, cmd⟩
    (res.1, .ofReply res.2)
  | .query tenantId q => (db, q.answer i.env.utcNow tenantId (db.visible i.session))

end SaasChassis.Ledger
