/-
  TenantAwareRepository: every operation in a transaction of its own, under the caller's tenant.

  TypeORM is modelled as far as `withTenantContext` sees it: a query runner with a flag that says
  whether a transaction is active, a working copy of the rows and the variables of `SET LOCAL`.
  `Failures` says which calls fail; the entity manager is a parameter. `body_cases` says what the
  try block leaves behind, `withTenantContext_eq` how catch and finally settle it, and
  `error_path_iff` that all goes as it should unless the failed call left no transaction to roll
  back.
-/
import Mathlib.Data.Nat.Notation
import Mathlib.Tactic.Common

namespace SaasChassis.Sdk

/-! ## TypeORM -/

structure TenantContextData where
  tenantId : String
  userId : String
  isPlatformAdmin : Bool

/-- What the session's variables are set to. -/
abbrev SessionVariables := List (String × String)

inductive DriverEvent where
  | createQueryRunner | connect | startTransaction
  | setLocal (name value : String)
  /-- The operation, with the variables it ran under. -/
  | operation (session : SessionVariables)
  | commitTransaction | rollbackTransaction | release
  deriving DecidableEq

inductive CallError (ε : Type) where
  /-- What a call or the operation threw. -/
  | raised (error : ε)
  /-- TypeORM's `TransactionNotStartedError`. -/
  | transactionNotStarted
  /-- `new Error(message)`. -/
  | error (message : String)
  deriving DecidableEq

/-- The database and the query runner. -/
structure Connection (σ : Type) where
  /-- What is committed. -/
  db : σ
  /-- What the transaction sees. -/
  working : σ
  session : SessionVariables
  isTransactionActive : Bool
  events : List DriverEvent

/-- The calls that fail. A transaction may be active after `startTransaction` or
    `commitTransaction` has failed, and may not. A ROLLBACK or a release that fails itself, as on a
    lost connection, is left out. -/
structure Failures (ε : Type) where
  connect : Option ε
  startTransaction : Option (ε × Bool)
  setTenantId : Option ε
  setPlatformAdmin : Option ε
  commitTransaction : Option (ε × Bool)

abbrev Driver (σ ε : Type) := ExceptT (CallError ε) (StateM (Connection σ))

namespace Driver

variable {σ ε α : Type}

def exec (x : Driver σ ε α) (c : Connection σ) : Except (CallError ε) α × Connection σ :=
  x.run.run c

def log (event : DriverEvent) : Driver σ ε Unit :=
  modify fun c => { c with events := c.events ++ [event] }

/-- Throws when the call fails. -/
def check : Option ε → Driver σ ε Unit
  | some e => throw (.raised e)
  | none => pure ()

/-- The same for a call that may leave the transaction active or not. -/
def checkTransaction : Option (ε × Bool) → Driver σ ε Unit
  | some (e, active) => do
    modify fun c => { c with isTransactionActive := active }
    throw (.raised e)
  | none => pure ()

def createQueryRunner : Driver σ ε Unit := do
  log .createQueryRunner
  modify fun c => { c with isTransactionActive := false }

def connect (failures : Failures ε) : Driver σ ε Unit := do
  log .connect
  check failures.connect

def startTransaction (failures : Failures ε) : Driver σ ε Unit := do
  log .startTransaction
  checkTransaction failures.startTransaction
  modify fun c => { c with working := c.db, session := [], isTransactionActive := true }

/-- `SET LOCAL name = value`. -/
def setLocal (failure : Option ε) (name value : String) : Driver σ ε Unit := do
  log (.setLocal name value)
  check failure
  modify fun c => { c with session := c.session ++ [(name, value)] }

/-- A program of the entity manager runs in the transaction; it may fail half way. -/
def operation (fn : SessionVariables → σ → Except ε α × σ) : Driver σ ε α := do
  let c ← get
  log (.operation c.session)
  let (result, working) := fn c.session c.working
  modify fun c => { c with working }
  match result with
  | .ok a => return a
  | .error e => throw (.raised e)

def commitTransaction (failures : Failures ε) : Driver σ ε Unit := do
  log .commitTransaction
  if !(← get).isTransactionActive then throw .transactionNotStarted
  checkTransaction failures.commitTransaction
  modify fun c => { c with db := c.working, session := [], isTransactionActive := false }

def rollbackTransaction : Driver σ ε Unit := do
  log .rollbackTransaction
  if !(← get).isTransactionActive then throw .transactionNotStarted
  modify fun c => { c with working := c.db, session := [], isTransactionActive := false }

def release : Driver σ ε Unit := log .release

end Driver

/-! ## TenantAwareRepository -/

section Repository

variable {σ ε α : Type}

open Driver

/-- The try block of `withTenantContext`. -/
def body (failures : Failures ε) (context : TenantContextData)
    (fn : SessionVariables → σ → Except ε α × σ) : Driver σ ε α := do
  connect failures
  startTransaction failures
  setLocal failures.setTenantId "app.current_tenant_id" context.tenantId
  setLocal failures.setPlatformAdmin "app.is_platform_admin" (toString context.isPlatformAdmin)
  let result ← operation fn
  commitTransaction failures
  return result

def noContext : String :=
  "TenantAwareRepository: No tenant context found. Ensure TenantContextMiddleware is applied."

def withTenantContext (failures : Failures ε) (store : Option TenantContextData)
    (fn : SessionVariables → σ → Except ε α × σ) : Driver σ ε α := do
  match store with
  | none => throw (.error noContext)
  | some context =>
    createQueryRunner
    try body failures context fn
    catch err =>
      rollbackTransaction
      throw err
    finally release

end Repository

/-- TypeORM's manager for one entity: each program reads and writes the rows that the session's
    variables let it. -/
structure EntityManager (σ ε Entity Many One Draft : Type) where
  find : Option Many → SessionVariables → σ → Except ε (List Entity) × σ
  findOne : One → SessionVariables → σ → Except ε (Option Entity) × σ
  save : Draft → SessionVariables → σ → Except ε Entity × σ
  remove : Entity → SessionVariables → σ → Except ε Entity × σ
  count : Option Many → SessionVariables → σ → Except ε ℕ × σ

inductive Operation (Entity Many One Draft : Type) : Type → Type 1 where
  | findAll (options : Option Many) : Operation Entity Many One Draft (List Entity)
  | findOne (options : One) : Operation Entity Many One Draft (Option Entity)
  | save (entity : Draft) : Operation Entity Many One Draft Entity
  | remove (entity : Entity) : Operation Entity Many One Draft Entity
  | count (options : Option Many) : Operation Entity Many One Draft ℕ

namespace TenantAwareRepository

variable {σ ε Entity Many One Draft α : Type} (manager : EntityManager σ ε Entity Many One Draft)
  (failures : Failures ε) (store : Option TenantContextData)

def findAll (options : Option Many) : Driver σ ε (List Entity) :=
  withTenantContext failures store (manager.find options)

def findOne (options : One) : Driver σ ε (Option Entity) :=
  withTenantContext failures store (manager.findOne options)

def save (entity : Draft) : Driver σ ε Entity :=
  withTenantContext failures store (manager.save entity)

def remove (entity : Entity) : Driver σ ε Entity :=
  withTenantContext failures store (manager.remove entity)

def count (options : Option Many) : Driver σ ε ℕ :=
  withTenantContext failures store (manager.count options)

def call : Operation Entity Many One Draft α → Driver σ ε α
  | .findAll options => findAll manager failures store options
  | .findOne options => findOne manager failures store options
  | .save entity => save manager failures store entity
  | .remove entity => remove manager failures store entity
  | .count options => count manager failures store options

end TenantAwareRepository

/-- What the manager does for an operation. -/
def EntityManager.perform {σ ε Entity Many One Draft α : Type}
    (manager : EntityManager σ ε Entity Many One Draft) :
    Operation Entity Many One Draft α → SessionVariables → σ → Except ε α × σ
  | .findAll options => manager.find options
  | .findOne options => manager.findOne options
  | .save entity => manager.save entity
  | .remove entity => manager.remove entity
  | .count options => manager.count options

theorem TenantAwareRepository.call_eq {σ ε Entity Many One Draft α : Type}
    (manager : EntityManager σ ε Entity Many One Draft) (failures : Failures ε)
    (store : Option TenantContextData) (op : Operation Entity Many One Draft α) :
    call manager failures store op = withTenantContext failures store (manager.perform op) := by
  cases op <;> rfl

/-! ## Statement -/

section Statement

variable {σ ε α : Type}

/-- Before the call: no query runner yet. -/
def Connection.idle (db : σ) : Connection σ :=
  { db, working := db, session := [], isTransactionActive := false, events := [] }

/-- The context's values. -/
def variablesOf (context : TenantContextData) : SessionVariables :=
  [("app.current_tenant_id", context.tenantId),
    ("app.is_platform_admin", toString context.isPlatformAdmin)]

def errorOf : Except ε α → Option ε
  | .error e => some e
  | .ok _ => none

/-- The error of the first step that fails. -/
def originalError (failures : Failures ε) (store : Option TenantContextData)
    (fn : SessionVariables → σ → Except ε α × σ) (db : σ) : Option (CallError ε) :=
  match store with
  | none => some (.error noContext)
  | some context =>
    (failures.connect <|> failures.startTransaction.map Prod.fst <|> failures.setTenantId <|>
      failures.setPlatformAdmin <|> errorOf (fn (variablesOf context) db).1 <|>
      failures.commitTransaction.map Prod.fst).map .raised

/-- What is asked of a call that ends with `result` and leaves `after`. -/
structure ErrorPath (failures : Failures ε) (store : Option TenantContextData)
    (fn : SessionVariables → σ → Except ε α × σ) (db : σ)
    (result : Except (CallError ε) α) (after : Connection σ) : Prop where
  original : ∀ e, originalError failures store fn db = some e → result = .error e
  committed : ∀ context, store = some context → result.isOk →
    after.db = (fn (variablesOf context) db).2
  undone : ¬ result.isOk → after.db = db
  session : ∀ context, store = some context →
    ∀ held, .operation held ∈ after.events → held = variablesOf context
  released : store.isSome → after.events.count .release = 1
  noRunner : store = none → .createQueryRunner ∉ after.events

/-- The first step to fail leaves no transaction that is active. -/
def NoneToRollBack (failures : Failures ε) (context : TenantContextData)
    (fn : SessionVariables → σ → Except ε α × σ) (db : σ) : Prop :=
  failures.connect.isSome ∨
  (failures.connect = none ∧ ∃ e, failures.startTransaction = some (e, false)) ∨
  (failures.connect = none ∧ failures.startTransaction = none ∧ failures.setTenantId = none ∧
    failures.setPlatformAdmin = none ∧ (fn (variablesOf context) db).1.isOk ∧
    ∃ e, failures.commitTransaction = some (e, false))

end Statement

/-! ## Evaluation -/

section Evaluation

variable {σ ε α β : Type} (x : Driver σ ε α) (c : Connection σ)

namespace Driver

@[simp] theorem exec_pure (a : α) : exec (pure a : Driver σ ε α) c = (.ok a, c) := rfl

theorem exec_bind (f : α → Driver σ ε β) :
    exec (x >>= f) c =
      match exec x c with
      | (.ok a, c) => exec (f a) c
      | (.error e, c) => (.error e, c) := by
  unfold exec ExceptT.run StateT.run
  simp only [bind, ExceptT.bind, ExceptT.mk, StateT.bind, ExceptT.bindCont]
  rcases x c with ⟨e | a, c'⟩ <;> rfl

theorem exec_tryCatch (handler : CallError ε → Driver σ ε α) :
    exec (tryCatch x handler) c =
      match exec x c with
      | (.ok a, c) => (.ok a, c)
      | (.error e, c) => exec (handler e) c := by
  unfold exec ExceptT.run StateT.run
  simp only [tryCatch, tryCatchThe, MonadExceptOf.tryCatch, ExceptT.tryCatch, ExceptT.mk, bind,
    StateT.bind]
  rcases x c with ⟨e | a, c'⟩ <;> rfl

theorem exec_tryFinally (y : Driver σ ε Unit) :
    exec (tryFinally x y) c =
      match exec x c with
      | (.ok a, c) => exec (y >>= fun _ => pure a) c
      | (.error e, c) => exec (y >>= fun _ => throw e) c := by
  unfold exec ExceptT.run StateT.run tryFinally
  simp only [tryFinally', ExceptT.mk, bind, ExceptT.bind, ExceptT.bindCont, StateT.bind,
    Functor.map, ExceptT.map]
  rcases x c with ⟨e | a, c'⟩
  · dsimp only
    rcases y c' with ⟨e' | _, c''⟩ <;> rfl
  · dsimp only
    rcases y c' with ⟨e' | _, c''⟩ <;> rfl

end Driver

end Evaluation

/-! ## The call -/

section Call

open Driver

variable {σ ε α : Type} (failures : Failures ε) (context : TenantContextData)
  (fn : SessionVariables → σ → Except ε α × σ) (db : σ)

/-- Where the try block starts. -/
def created (db : σ) : Connection σ := { Connection.idle db with events := [.createQueryRunner] }

/-- Catch and finally. -/
def settle : Except (CallError ε) α × Connection σ → Except (CallError ε) α × Connection σ
  | (.ok a, c) => (.ok a, { c with events := c.events ++ [.release] })
  | (.error e, c) =>
    let events := c.events ++ [.rollbackTransaction] ++ [.release]
    if c.isTransactionActive then
      (.error e, { c with working := c.db, session := [], isTransactionActive := false, events })
    else (.error .transactionNotStarted, { c with events })

theorem exec_rollback (c : Connection σ) :
    exec (rollbackTransaction : Driver σ ε Unit) c =
      if c.isTransactionActive then (.ok (),
        { c with
          working := c.db
          session := []
          isTransactionActive := false
          events := c.events ++ [.rollbackTransaction] })
      else (.error .transactionNotStarted,
        { c with events := c.events ++ [.rollbackTransaction] }) := by
  obtain ⟨_, _, _, _ | _, _⟩ := c <;> rfl

theorem withTenantContext_eq :
    exec (withTenantContext failures (some context) fn) (.idle db) =
      settle (exec (body failures context fn) (created db)) := by
  have hrun : exec (withTenantContext failures (some context) fn) (.idle db) =
      exec (tryFinally (tryCatch (body failures context fn) fun err => do
        rollbackTransaction
        throw err) Driver.release) (created db) := rfl
  rw [hrun, exec_tryFinally, exec_tryCatch]
  rcases exec (body failures context fn) (created db) with ⟨e | a, c⟩
  · cases hactive : c.isTransactionActive with
    | true =>
      dsimp only
      rw [exec_bind, exec_rollback, hactive]
      simp only [settle, hactive, if_true]
      rfl
    | false =>
      dsimp only
      rw [exec_bind, exec_rollback, hactive]
      simp only [settle, hactive]
      rfl
  · rfl

/-- When the operation starts. -/
def ready (context : TenantContextData) (db : σ) : Connection σ :=
  { db, working := db
    session := variablesOf context
    isTransactionActive := true
    events := [.createQueryRunner, .connect, .startTransaction,
      .setLocal "app.current_tenant_id" context.tenantId,
      .setLocal "app.is_platform_admin" (toString context.isPlatformAdmin)] }

/-- When it has ended. -/
def performed (context : TenantContextData) (db working : σ) : Connection σ :=
  { ready context db with
    working
    events := (ready context db).events ++ [.operation (variablesOf context)] }

theorem exec_operation :
    exec (operation fn) (ready context db) =
      match fn (variablesOf context) db with
      | (.ok a, working) => (.ok a, performed context db working)
      | (.error e, working) => (.error (.raised e), performed context db working) := by
  show exec (match fn (variablesOf context) db with
    | (result, working) => do
      modify fun c => { c with working }
      match result with
      | .ok a => return a
      | .error e => throw (.raised e)) (performed context db db) = _
  rcases fn (variablesOf context) db with ⟨e | a, working⟩ <;> rfl

theorem exec_commit (working : σ) :
    exec (commitTransaction failures) (performed context db working) =
      match failures.commitTransaction with
      | some (e, active) => (.error (.raised e),
          { performed context db working with
            isTransactionActive := active
            events := (performed context db working).events ++ [.commitTransaction] })
      | none => (.ok (),
          { performed context db working with
            db := working
            session := []
            isTransactionActive := false
            events := (performed context db working).events ++ [.commitTransaction] }) := by
  obtain ⟨_, _, _, _, _ | ⟨e, active⟩⟩ := failures <;> rfl

/-- What the try block leaves. -/
structure BodyEnd (out : Except (CallError ε) α × Connection σ) : Prop where
  unreleased : .release ∉ out.2.events
  session : ∀ held, .operation held ∈ out.2.events → held = variablesOf context
  outcome :
    (∃ a, out.1 = .ok a ∧ originalError failures (some context) fn db = none ∧
      out.2.db = (fn (variablesOf context) db).2 ∧ ¬ NoneToRollBack failures context fn db) ∨
    (∃ e, out.1 = .error (.raised e) ∧
      originalError failures (some context) fn db = some (.raised e) ∧ out.2.db = db ∧
      (out.2.isTransactionActive = false ↔ NoneToRollBack failures context fn db))

theorem body_end :
    BodyEnd failures context fn db (exec (body failures context fn) (created db)) := by
  obtain ⟨connect, start, tenantId, platformAdmin, commit⟩ := failures
  cases connect
  case some e =>
    have hrun : exec (body ⟨some e, start, tenantId, platformAdmin, commit⟩ context fn)
        (created db) = (.error (.raised e),
          { created db with events := [.createQueryRunner, .connect] }) := rfl
    rw [hrun]
    exact ⟨by simp, by simp, Or.inr ⟨e, rfl, rfl, rfl, iff_of_true rfl (Or.inl rfl)⟩⟩
  cases start
  case some failed =>
    obtain ⟨e, active⟩ := failed
    have hrun : exec (body ⟨none, some (e, active), tenantId, platformAdmin, commit⟩ context fn)
        (created db) = (.error (.raised e),
          { created db with
            isTransactionActive := active
            events := [.createQueryRunner, .connect, .startTransaction] }) := rfl
    rw [hrun]
    refine ⟨by simp, by simp, Or.inr ⟨e, rfl, rfl, rfl, ?_⟩⟩
    simp [NoneToRollBack]
  cases tenantId
  case some e =>
    have hrun : exec (body ⟨none, none, some e, platformAdmin, commit⟩ context fn) (created db) =
        (.error (.raised e),
          { created db with
            isTransactionActive := true
            events := [.createQueryRunner, .connect, .startTransaction,
              .setLocal "app.current_tenant_id" context.tenantId] }) := rfl
    rw [hrun]
    refine ⟨by simp, by simp, Or.inr ⟨e, rfl, rfl, rfl, ?_⟩⟩
    simp [NoneToRollBack]
  cases platformAdmin
  case some e =>
    have hrun : exec (body ⟨none, none, none, some e, commit⟩ context fn) (created db) =
        (.error (.raised e),
          { ready context db with
            session := [("app.current_tenant_id", context.tenantId)] }) := rfl
    rw [hrun]
    refine ⟨by simp [ready], by simp [ready], Or.inr ⟨e, rfl, rfl, rfl, ?_⟩⟩
    simp [NoneToRollBack, ready]
  have hrun : exec (body ⟨none, none, none, none, commit⟩ context fn) (created db) =
      exec (operation fn >>= fun result =>
        commitTransaction ⟨none, none, none, none, commit⟩ >>= fun _ => pure result)
        (ready context db) := rfl
  rw [hrun, exec_bind, exec_operation]
  rcases hfn : fn (variablesOf context) db with ⟨e | a, working⟩
  · refine ⟨by simp [performed, ready], by simp [performed, ready], Or.inr ⟨e, rfl, ?_, rfl, ?_⟩⟩
    · simp [originalError, hfn, errorOf]
    · simp [NoneToRollBack, hfn, performed, ready, Except.isOk, Except.toBool]
  · dsimp only
    rw [exec_bind, exec_commit]
    cases commit with
    | some failed =>
      obtain ⟨e, active⟩ := failed
      refine ⟨by simp [performed, ready], by simp [performed, ready],
        Or.inr ⟨e, rfl, ?_, rfl, ?_⟩⟩
      · simp [originalError, hfn, errorOf]
      · simp [NoneToRollBack, hfn, Except.isOk, Except.toBool]
    | none =>
      refine ⟨by simp [performed, ready], by simp [performed, ready],
        Or.inl ⟨a, rfl, ?_, ?_, ?_⟩⟩
      · simp [originalError, hfn, errorOf]
      · rw [hfn]
        rfl
      · simp [NoneToRollBack]

end Call

/-! ## Error path -/

section ErrorPath

variable {σ ε α : Type} {failures : Failures ε} {context : TenantContextData}
  {fn : SessionVariables → σ → Except ε α × σ} {db : σ}

/-- Catch and finally release once and run no operation. -/
theorem settle_events (out : Except (CallError ε) α × Connection σ)
    (h : .release ∉ out.2.events) :
    (settle out).2.events.count .release = 1 ∧
      ∀ held, .operation held ∈ (settle out).2.events → .operation held ∈ out.2.events := by
  have hcount : out.2.events.count .release = 0 := List.count_eq_zero.mpr h
  obtain ⟨e | a, _, _, _, active, _⟩ := out
  · cases active <;> simp_all [settle]
  · simp_all [settle]

/-- The call goes as it should unless catch finds nothing to roll back. -/
theorem settle_path {out : Except (CallError ε) α × Connection σ}
    (hbody : BodyEnd failures context fn db out) :
    ErrorPath failures (some context) fn db (settle out).1 (settle out).2 ↔
      ¬ NoneToRollBack failures context fn db := by
  obtain ⟨hunreleased, hsession, houtcome⟩ := hbody
  obtain ⟨hreleased, hheld⟩ := settle_events out hunreleased
  have hvariables : ∀ other, some context = some other → ∀ held,
      .operation held ∈ (settle out).2.events → held = variablesOf other := by
    intro other ho held hmem
    obtain rfl := Option.some.inj ho
    exact hsession held (hheld held hmem)
  obtain ⟨result, c⟩ := out
  obtain ⟨a, rfl, horiginal, hdb, hnone⟩ | ⟨e, rfl, horiginal, hdb, hactive⟩ := houtcome
  · refine iff_of_true ?_ hnone
    exact
      { original := fun e he => by
          rw [horiginal] at he
          cases he
        committed := fun other ho _ => by
          obtain rfl := Option.some.inj ho
          exact hdb
        undone := fun hnot => absurd rfl hnot
        session := hvariables
        released := fun _ => hreleased
        noRunner := nofun }
  · cases hc : c.isTransactionActive with
    | true =>
      have hsettled : (settle (.error (.raised e), c) : Except (CallError ε) α × _).1 =
          .error (.raised e) := by simp [settle, hc]
      have hdb' : (settle (.error (.raised e), c) : Except (CallError ε) α × _).2.db = c.db := by
        simp [settle, hc]
      refine iff_of_true ?_ fun hnone => ?_
      · exact
          { original := fun e' he => by
              rw [horiginal] at he
              obtain rfl := Option.some.inj he
              exact hsettled
            committed := fun _ _ hok => by
              rw [hsettled] at hok
              cases hok
            undone := fun _ => hdb'.trans hdb
            session := hvariables
            released := fun _ => hreleased
            noRunner := nofun }
      · rw [hactive.mpr hnone] at hc
        cases hc
    | false =>
      have hsettled : (settle (.error (.raised e), c) : Except (CallError ε) α × _).1 =
          .error .transactionNotStarted := by simp [settle, hc]
      refine iff_of_false (fun h => ?_) (not_not_intro (hactive.mp hc))
      have hmasked := h.original _ horiginal
      rw [hsettled] at hmasked
      cases hmasked

end ErrorPath

/-- Whatever fails, all is as it should be exactly when the first step to fail leaves a transaction
    to roll back. Otherwise `rollbackTransaction` throws in its turn, and the caller gets that
    error. -/
theorem error_path_iff {σ ε Entity Many One Draft α : Type}
    (manager : EntityManager σ ε Entity Many One Draft) (failures : Failures ε)
    (store : Option TenantContextData) (op : Operation Entity Many One Draft α) (db : σ) :
    ErrorPath failures store (manager.perform op) db
        ((TenantAwareRepository.call manager failures store op).exec (.idle db)).1
        ((TenantAwareRepository.call manager failures store op).exec (.idle db)).2 ↔
      ∀ context, store = some context →
        ¬ NoneToRollBack failures context (manager.perform op) db := by
  rw [TenantAwareRepository.call_eq]
  cases store with
  | none =>
    refine iff_of_true ?_ nofun
    exact
      { original := fun e he => by
          cases he
          rfl
        committed := nofun
        undone := fun _ => rfl
        session := nofun
        released := nofun
        noRunner := fun _ => nofun }
  | some context =>
    rw [withTenantContext_eq, settle_path (body_end failures context (manager.perform op) db)]
    simp only [Option.some.injEq, forall_eq']

namespace Sample

/-- Rows of names, all of them visible. -/
def rows : EntityManager (List String) String String Unit Unit String :=
  { find := fun _ _ db => (.ok db, db)
    findOne := fun _ _ db => (.ok db.head?, db)
    save := fun name _ db => (.ok name, db ++ [name])
    remove := fun name _ db => (.ok name, db.erase name)
    count := fun _ _ db => (.ok db.length, db) }

def unreachable : Failures String :=
  { connect := some "ECONNREFUSED", startTransaction := none, setTenantId := none
    setPlatformAdmin := none, commitTransaction := none }

def caller : TenantContextData :=
  { tenantId := "t1", userId := "u1", isPlatformAdmin := false }

end Sample

/-- The caller is told that no transaction was started, not that the database cannot be reached. -/
theorem connect_error_masked :
    ¬ ErrorPath Sample.unreachable (some Sample.caller)
      (Sample.rows.perform (.findAll none)) []
      ((TenantAwareRepository.call Sample.rows Sample.unreachable (some Sample.caller)
        (.findAll none)).exec (.idle [])).1
      ((TenantAwareRepository.call Sample.rows Sample.unreachable (some Sample.caller)
        (.findAll none)).exec (.idle [])).2 := by
  intro h
  cases h.original (.raised "ECONNREFUSED") rfl

end SaasChassis.Sdk
