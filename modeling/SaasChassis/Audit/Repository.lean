/-
  The audit service: the events it receives and `BatchInsert`, which stores them in
  `audit.entries`.

  An event is decoded as Go decodes it and bound to the INSERT's casts; `Entry.ofEvent` is the row
  or `none` where the table refuses it. A batch is one transaction: an event whose tenant is no
  UUID is left out, and one that the table refuses undoes the others (`batchInsert_ok_iff`).
  Reading entries back, and row-level security, are in `Queries`.
-/
import SaasChassis.Lib.Postgres

namespace SaasChassis.Audit

open SaasChassis.Lib SaasChassis.Lib.Postgres

/-! ## Events -/

/-- The shape received from RabbitMQ. A `json.RawMessage` is `none` while it is empty. -/
structure AuditEvent where
  tenantID : String
  userID : String
  action : String
  resourceType : String
  resourceID : String
  description : String
  changes : Option WireJson
  metadata : Option WireJson
  ipAddress : String
  userAgent : String
  requestID : String
  serviceName : String

inductive EventField where
  | tenantID | userID | action | resourceType | resourceID | description | changes | metadata
  | ipAddress | userAgent | requestID | serviceName
  deriving DecidableEq, Repr

namespace AuditEvent

def zero : AuditEvent :=
  { tenantID := "", userID := "", action := "", resourceType := "", resourceID := "",
    description := "", changes := none, metadata := none, ipAddress := "", userAgent := "",
    requestID := "", serviceName := "" }

def fields : List EventField :=
  [.tenantID, .userID, .action, .resourceType, .resourceID, .description, .changes, .metadata,
   .ipAddress, .userAgent, .requestID, .serviceName]

def tag : EventField → String
  | .tenantID => "tenantId"
  | .userID => "userId"
  | .action => "action"
  | .resourceType => "resourceType"
  | .resourceID => "resourceId"
  | .description => "description"
  | .changes => "changes"
  | .metadata => "metadata"
  | .ipAddress => "ipAddress"
  | .userAgent => "userAgent"
  | .requestID => "requestId"
  | .serviceName => "serviceName"

def field (key : Utf16) : Option EventField := Json.matchField tag fields key.toWellFormed

def assign (f : EventField) (j : WireJson) (e : AuditEvent) : Option AuditEvent :=
  match f with
  | .tenantID => (j.decodeString e.tenantID).map fun s => { e with tenantID := s }
  | .userID => (j.decodeString e.userID).map fun s => { e with userID := s }
  | .action => (j.decodeString e.action).map fun s => { e with action := s }
  | .resourceType => (j.decodeString e.resourceType).map fun s => { e with resourceType := s }
  | .resourceID => (j.decodeString e.resourceID).map fun s => { e with resourceID := s }
  | .description => (j.decodeString e.description).map fun s => { e with description := s }
  -- a raw message keeps any value, null included
  | .changes => some { e with changes := some j }
  | .metadata => some { e with metadata := some j }
  | .ipAddress => (j.decodeString e.ipAddress).map fun s => { e with ipAddress := s }
  | .userAgent => (j.decodeString e.userAgent).map fun s => { e with userAgent := s }
  | .requestID => (j.decodeString e.requestID).map fun s => { e with requestID := s }
  | .serviceName => (j.decodeString e.serviceName).map fun s => { e with serviceName := s }

/-- `json.Unmarshal(msg.Body, &event)`. -/
def decode : WireJson → Option AuditEvent := Json.decodeStruct field assign zero

/-- Every field is found under its own tag. -/
theorem field_tag : ∀ f ∈ fields, field (tag f) = some f := by decide +kernel

end AuditEvent

/-! ## The table -/

/-- The type `audit_action`. -/
inductive AuditAction where
  | create | update | delete | login | logout | impersonate | export | configChange
  deriving DecidableEq, Repr

namespace AuditAction

def all : List AuditAction :=
  [.create, .update, .delete, .login, .logout, .impersonate, .export, .configChange]

def label : AuditAction → String
  | .create => "create"
  | .update => "update"
  | .delete => "delete"
  | .login => "login"
  | .logout => "logout"
  | .impersonate => "impersonate"
  | .export => "export"
  | .configChange => "config_change"

/-- The input function of the type. -/
def ofLabel (s : String) : Option AuditAction := all.find? fun a => a.label = s

theorem label_of_ofLabel {s : String} {a : AuditAction} (h : ofLabel s = some a) :
    a.label = s := by
  simpa using List.find?_some h

end AuditAction

/-- A row of `audit.entries`, without the `id` and `created_at` that are its defaults. -/
structure Entry where
  tenantId : Uuid
  userId : Option Uuid
  action : AuditAction
  resourceType : String
  resourceId : Option String
  description : Option String
  changes : Option WireJson
  metadata : Option WireJson
  ipAddress : Option String
  userAgent : Option String
  serviceName : Option String
  requestId : Option Uuid

def nilIfEmpty (s : String) : Option String := if s = "" then none else some s

/-- A column that may be null, with the function that reads its text. -/
def column {α : Type} (read : String → Option α) : Option String → Option (Option α)
  | none => some none
  | some s => (read s).map some

def jsonb : Option WireJson → Option (Option WireJson)
  | none => some none
  | some j => if isJsonb j then some (some j) else none

def text (s : String) : Option String := if isText s then some s else none

/-! ## BatchInsert -/

/-- What the service does not define itself: `uuid.Parse`, and how PostgreSQL reads an `inet`. -/
structure Libraries where
  uuidParse : String → Bool
  /-- The standard form is accepted. -/
  uuidParse_format : ∀ u : Uuid, uuidParse u.format
  inet : String → Option String

section Batch

variable (lib : Libraries)

/-- The row that the INSERT stores for an event. -/
def Entry.ofEvent (e : AuditEvent) : Option Entry := do
  let metadata := if e.metadata.isSome then e.metadata else some (.obj [])
  let tenantId ← uuidIn e.tenantID
  let userId ← column uuidIn (nilIfEmpty e.userID)
  let action ← AuditAction.ofLabel e.action
  let resourceType ← varchar 100 e.resourceType
  let resourceId ← column (varchar 255) (nilIfEmpty e.resourceID)
  let description ← column text (nilIfEmpty e.description)
  let changes ← jsonb e.changes
  let metadata ← jsonb metadata
  let ipAddress ← column lib.inet (nilIfEmpty e.ipAddress)
  let userAgent ← column (varchar 500) (nilIfEmpty e.userAgent)
  let serviceName ← column (varchar 100) (nilIfEmpty e.serviceName)
  let requestId ← column uuidIn (nilIfEmpty e.requestID)
  return { tenantId, userId, action, resourceType, resourceId, description, changes, metadata,
           ipAddress, userAgent, serviceName, requestId }

/-- `batch exec [i]` with the database's error. -/
inductive BatchError where
  | exec (i : ℕ)
  deriving DecidableEq, Repr

/-- The events of a batch that are queued. -/
def queued (events : List AuditEvent) : List AuditEvent :=
  events.filter fun e => lib.uuidParse e.tenantID

/-- The statements of the transaction one after the other, from the `i`-th on. -/
def execAll : ℕ → List AuditEvent → Except BatchError (List Entry)
  | _, [] => .ok []
  | i, e :: es =>
    match Entry.ofEvent lib e with
    | none => .error (.exec i)
    | some entry => (execAll (i + 1) es).map (entry :: ·)

/-- `BatchInsert` with a database that is up: the table afterwards, or the error that rolled the
    transaction back. -/
def batchInsert (table : List Entry) (events : List AuditEvent) :
    Except BatchError (List Entry) :=
  if queued lib events = [] then .ok table
  else (execAll lib 0 (queued lib events)).map (table ++ ·)

/-- The columns that decide whether the table takes an event. -/
structure Columns (e : AuditEvent) : Prop where
  tenantId : (uuidIn e.tenantID).isSome
  userId : (column uuidIn (nilIfEmpty e.userID)).isSome
  action : (AuditAction.ofLabel e.action).isSome
  resourceType : (varchar 100 e.resourceType).isSome
  resourceId : (column (varchar 255) (nilIfEmpty e.resourceID)).isSome
  description : (column text (nilIfEmpty e.description)).isSome
  changes : (jsonb e.changes).isSome
  metadata : (jsonb e.metadata).isSome
  ipAddress : (column lib.inet (nilIfEmpty e.ipAddress)).isSome
  userAgent : (column (varchar 500) (nilIfEmpty e.userAgent)).isSome
  serviceName : (column (varchar 100) (nilIfEmpty e.serviceName)).isSome
  requestId : (column uuidIn (nilIfEmpty e.requestID)).isSome

variable {lib}

theorem queued_of_parse {e : AuditEvent} (h : lib.uuidParse e.tenantID = true)
    (es : List AuditEvent) : queued lib (e :: es) = e :: queued lib es :=
  List.filter_cons_of_pos (p := fun e : AuditEvent => lib.uuidParse e.tenantID) h

theorem queued_of_not_parse {e : AuditEvent} (h : lib.uuidParse e.tenantID = false)
    (es : List AuditEvent) : queued lib (e :: es) = queued lib es :=
  List.filter_cons_of_neg (p := fun e : AuditEvent => lib.uuidParse e.tenantID) (by simp [h])

theorem jsonb_metadata (metadata : Option WireJson) :
    (jsonb (if metadata.isSome then metadata else some (.obj []))).isSome =
      (jsonb metadata).isSome := by
  cases metadata <;> rfl

/-- Where every next read succeeds or fails whatever was read before, only the reads count. -/
theorem any_const {α : Type} (x : Option α) (b : Bool) :
    x.any (fun _ => b) = (x.isSome && b) := by
  cases x <;> rfl

theorem ofEvent_isSome {e : AuditEvent} : (Entry.ofEvent lib e).isSome ↔ Columns lib e := by
  simp only [Entry.ofEvent, Option.bind_eq_bind, Option.isSome_bind, any_const, Option.pure_def,
    Option.isSome_some, jsonb_metadata, Bool.and_eq_true, and_true]
  constructor
  · intro ⟨htenant, huser, haction, htype, hid, hdescription, hchanges, hmetadata, hip, hagent,
      hservice, hrequest⟩
    exact ⟨htenant, huser, haction, htype, hid, hdescription, hchanges, hmetadata, hip, hagent,
      hservice, hrequest⟩
  · intro h
    exact ⟨h.tenantId, h.userId, h.action, h.resourceType, h.resourceId, h.description, h.changes,
      h.metadata, h.ipAddress, h.userAgent, h.serviceName, h.requestId⟩

theorem of_ofEvent {e : AuditEvent} {entry : Entry} (h : Entry.ofEvent lib e = some entry) :
    uuidIn e.tenantID = some entry.tenantId ∧
      column uuidIn (nilIfEmpty e.userID) = some entry.userId ∧
      AuditAction.ofLabel e.action = some entry.action := by
  simp only [Entry.ofEvent, Option.bind_eq_bind, Option.bind_eq_some_iff, Option.pure_def] at h
  obtain ⟨tenantId, htenant, userId, huser, action, haction, _, _, _, _, _, _, _, _, _, _, _, _,
    _, _, _, _, _, _, hentry⟩ := h
  cases hentry
  exact ⟨htenant, huser, haction⟩

theorem execAll_ok_iff {i : ℕ} {events : List AuditEvent} {entries : List Entry} :
    execAll lib i events = .ok entries ↔ events.mapM (Entry.ofEvent lib) = some entries := by
  induction events generalizing i entries with
  | nil => simp [execAll]
  | cons e es ih =>
    rw [execAll, List.mapM_cons]
    cases Entry.ofEvent lib e with
    | none => simp
    | some entry =>
      cases hrest : execAll lib (i + 1) es with
      | error err =>
        have hnone : es.mapM (Entry.ofEvent lib) = none := by
          cases hm : es.mapM (Entry.ofEvent lib) with
          | none => rfl
          | some entries' =>
            rw [ih.mpr hm] at hrest
            exact nomatch hrest
        simp [hnone, Except.map]
      | ok entries' =>
        rw [ih.mp hrest]
        simp [Except.map, eq_comm]

/-- A batch is stored when the table takes all the events that are queued, and then adds their
    rows. -/
theorem batchInsert_ok_iff {table table' : List Entry} {events : List AuditEvent} :
    batchInsert lib table events = .ok table' ↔
      ∃ entries, (queued lib events).mapM (Entry.ofEvent lib) = some entries ∧
        table' = table ++ entries := by
  unfold batchInsert
  split
  next hempty =>
    rw [hempty]
    simp [eq_comm]
  next =>
    cases hexec : execAll lib 0 (queued lib events) with
    | error err =>
      constructor
      · exact fun h => nomatch h
      · rintro ⟨entries, hm, _⟩
        rw [execAll_ok_iff.mpr hm] at hexec
        exact nomatch hexec
    | ok entries =>
      rw [execAll_ok_iff.mp hexec]
      simp [Except.map, eq_comm]

end Batch

end SaasChassis.Audit
