/-
  Reading the audit log: `QueryEntries`, and the handler `ListEntries` before it.

  The two statements are built condition by condition, each with the number of its placeholder, and
  are run with a list of arguments: a placeholder means the argument at its number, read as the type
  it is cast to. Row-level security hides rows first. Rows with one `created_at` come in whatever
  order the server scans them in (`Scan`).

  `countStatement_bound` and `dataStatement_bound` say what every placeholder refers to,
  `queryEntries_ok_iff` when there is an answer and which, and `queryEntries_exact` puts them
  together.
-/
import SaasChassis.Lib.Decimal
import SaasChassis.Lib.Paging
import SaasChassis.Audit.Repository

namespace SaasChassis.Audit

open SaasChassis.Lib SaasChassis.Lib.Postgres

/-! ## Rows and filters -/

structure StoredEntry where
  id : Uuid
  entry : Entry
  /-- A `timestamptz`: microseconds. -/
  createdAt : ℤ

/-- Times are in nanoseconds. -/
structure QueryFilter where
  tenantID : String
  userID : String
  action : String
  resourceType : String
  fromTime : Option ℤ
  toTime : Option ℤ
  page : ℤ
  pageSize : ℤ

structure TenantContext where
  tenantID : String
  isPlatformAdmin : Bool

/-- What pgx makes of a `time.Time`. -/
def timestamptz (nanoseconds : ℤ) : ℤ := nanoseconds / 1000

/-- The order in which one query comes upon the rows it selects. -/
structure Scan where
  order : List StoredEntry → List StoredEntry
  perm : ∀ rows, (order rows).Perm rows

/-- What the service does not define itself. -/
structure QueryLibraries where
  uuidParse : String → Bool
  /-- `time.Parse(time.RFC3339, s)`. -/
  parseTime : String → Option ℤ
  /-- Whether the connection takes `SET LOCAL … = $1` with this value. `SET` has no parameters, so
      by pgx's default protocol, which no `DATABASE_URL` of the repository changes, PostgreSQL
      refuses the statement and every read of the log is answered 500. It works where pgx puts the
      value into the text itself. -/
  setLocal : String → Bool

/-! ## Statements -/

inductive Arg where
  | text (s : String)
  | time (t : ℤ)
  | int (n : ℤ)
  deriving DecidableEq, Repr

/-- The conditions that `QueryEntries` knows. -/
inductive Clause where
  | tenantId | userId | action | resourceType | createdFrom | createdTo
  deriving DecidableEq, Repr

structure Condition where
  clause : Clause
  placeholder : ℕ
  deriving DecidableEq, Repr

def Condition.sql (c : Condition) : String :=
  match c.clause with
  | .tenantId => s!"tenant_id = ${c.placeholder}::uuid"
  | .userId => s!"user_id = ${c.placeholder}::uuid"
  | .action => s!"action = ${c.placeholder}::audit_action"
  | .resourceType => s!"resource_type = ${c.placeholder}"
  | .createdFrom => s!"created_at >= ${c.placeholder}"
  | .createdTo => s!"created_at <= ${c.placeholder}"

def whereSQL (conditions : List Condition) : String :=
  if conditions = [] then "" else "WHERE " ++ " AND ".intercalate (conditions.map (·.sql))

/-- `SELECT COUNT(*)`, or the rows by `created_at DESC` with the placeholders of its limit and its
    offset. -/
structure Statement where
  conditions : List Condition
  paging : Option (ℕ × ℕ)

def Statement.sql (st : Statement) : String :=
  match st.paging with
  | none => s!"SELECT COUNT(*) FROM audit.entries {whereSQL st.conditions}"
  | some (limit, offset) =>
    "SELECT id::text, tenant_id::text, user_id::text, action::text, resource_type, resource_id, " ++
    "description, changes::text, metadata::text, ip_address::text, user_agent, " ++
    s!"request_id::text, service_name, created_at FROM audit.entries {whereSQL st.conditions} " ++
    s!"ORDER BY created_at DESC LIMIT ${limit} OFFSET ${offset}"

def Statement.placeholders (st : Statement) : List ℕ :=
  st.conditions.map (·.placeholder) ++
    match st.paging with
    | none => []
    | some (limit, offset) => [limit, offset]

/-- `$k`: arguments are numbered from 1. -/
def argument (args : List Arg) : ℕ → Option Arg
  | 0 => none
  | k + 1 => args[k]?

/-- What a condition says of a row, once its argument is read as its type. -/
def Clause.bind : Clause → Option Arg → Option (StoredEntry → Bool)
  | .tenantId, some (.text s) => (uuidIn s).map fun u row => row.entry.tenantId = u
  | .userId, some (.text s) => (uuidIn s).map fun u row => row.entry.userId = some u
  | .action, some (.text s) => (AuditAction.ofLabel s).map fun a row => row.entry.action = a
  | .resourceType, some (.text s) => (text s).map fun t row => row.entry.resourceType = t
  | .createdFrom, some (.time t) => some fun row => timestamptz t ≤ row.createdAt
  | .createdTo, some (.time t) => some fun row => row.createdAt ≤ timestamptz t
  | _, _ => none

/-- The rows a statement selects; none where it has other placeholders than arguments or an argument
    is not of its type. -/
def Statement.select (st : Statement) (args : List Arg) (rows : List StoredEntry) :
    Option (List StoredEntry) :=
  if st.placeholders = (List.range args.length).map (· + 1) then
    (st.conditions.mapM fun c : Condition =>
      c.clause.bind (argument args c.placeholder)).map fun ps =>
        rows.filter fun row => ps.all (· row)
  else none

/-- A limit or an offset. -/
def count : Option Arg → Option ℕ
  | some (.int n) => if 0 ≤ n then some n.toNat else none
  | _ => none

def Statement.fetch (st : Statement) (args : List Arg) (scan : Scan) (rows : List StoredEntry) :
    Option (List StoredEntry) := do
  let (limit, offset) ← st.paging
  let selected ← st.select args rows
  let limit ← count (argument args limit)
  let offset ← count (argument args offset)
  return ((listed (·.createdAt) (scan.order selected)).drop offset).take limit

/-! ## QueryEntries -/

/-- `where`, `args` and `n`. -/
structure QueryBuilder where
  conditions : List Condition
  args : List Arg
  n : ℕ

def QueryBuilder.addIf (b : QueryBuilder) (applies : Bool) (clause : Clause) (arg : Arg) :
    QueryBuilder :=
  if applies then
    { conditions := b.conditions ++ [⟨clause, b.n⟩], args := b.args ++ [arg], n := b.n + 1 }
  else b

def buildQuery (tc : TenantContext) (f : QueryFilter) : QueryBuilder :=
  let b : QueryBuilder := { conditions := [], args := [], n := 1 }
  let b :=
    if !tc.isPlatformAdmin then b.addIf true .tenantId (.text tc.tenantID)
    else b.addIf (f.tenantID ≠ "") .tenantId (.text f.tenantID)
  let b := b.addIf (f.userID ≠ "") .userId (.text f.userID)
  let b := b.addIf (f.action ≠ "") .action (.text f.action)
  let b := b.addIf (f.resourceType ≠ "") .resourceType (.text f.resourceType)
  let b := b.addIf f.fromTime.isSome .createdFrom (.time (f.fromTime.getD 0))
  b.addIf f.toTime.isSome .createdTo (.time (f.toTime.getD 0))

namespace QueryFilter

def clampedPage (f : QueryFilter) : ℤ := if f.page < 1 then 1 else f.page

def clampedPageSize (f : QueryFilter) : ℤ :=
  if f.pageSize < 1 ∨ 200 < f.pageSize then 50 else f.pageSize

/-- `(f.Page - 1) * f.PageSize` in an `int`. -/
def offset (f : QueryFilter) : ℤ := ((f.clampedPage - 1) * f.clampedPageSize).bmod (2 ^ 64)

end QueryFilter

def countStatement (b : QueryBuilder) : Statement := { conditions := b.conditions, paging := none }

def dataStatement (b : QueryBuilder) : Statement :=
  { conditions := b.conditions, paging := some (b.n, b.n + 1) }

/-- A copy of `args`, with the limit and the offset. -/
def pageArgs (b : QueryBuilder) (f : QueryFilter) : List Arg :=
  b.args ++ [.int f.clampedPageSize, .int f.offset]

inductive QueryError where
  | setTenantID | setPlatformAdmin | count | query
  deriving DecidableEq, Repr

/-- `current_tenant_id()`. -/
def currentTenantID (setting : String) : Option Uuid :=
  if setting = "" then none else uuidIn setting

/-- The rows that `audit_read_policy` shows. -/
def visibleRows (tc : TenantContext) (rows : List StoredEntry) : List StoredEntry :=
  rows.filter fun row => currentTenantID tc.tenantID = some row.entry.tenantId || tc.isPlatformAdmin

def queryEntries (lib : QueryLibraries) (scan : Scan) (rows : List StoredEntry)
    (tc : TenantContext) (f : QueryFilter) : Except QueryError (List StoredEntry × ℕ) :=
  let b := buildQuery tc f
  if !lib.setLocal tc.tenantID then .error .setTenantID
  else if !lib.setLocal (if tc.isPlatformAdmin then "true" else "false") then
    .error .setPlatformAdmin
  else
    match (countStatement b).select b.args (visibleRows tc rows) with
    | none => .error .count
    | some counted =>
      match (dataStatement b).fetch (pageArgs b f) scan (visibleRows tc rows) with
      | none => .error .query
      | some entries => .ok (entries, counted.length)

/-! ## ListEntries -/

/-- A request: `GetHeader` and `Query` give the empty string for what is not there. -/
structure ListRequest where
  getHeader : String → String
  query : String → String

inductive ListResponse where
  | listed (data : List StoredEntry) (total : ℕ) (page pageSize : ℤ)
  | refused (status : ℕ) (error : String)

structure CallerCtx where
  tenantID : String
  userID : String
  isPlatformAdmin : Bool

def extractCaller (req : ListRequest) : Option CallerCtx :=
  let tenantID := req.getHeader "X-Tenant-ID"
  let isPlatformAdmin := req.getHeader "X-Is-Platform-Admin" = "true"
  if tenantID = "" ∧ ¬ isPlatformAdmin then none
  else some { tenantID, userID := req.getHeader "X-User-ID", isPlatformAdmin }

def parseIntQuery (req : ListRequest) (key : String) (defaultVal : ℤ) : ℤ :=
  match atoi (req.query key) with
  | some n => if 0 < n then n else defaultVal
  | none => defaultVal

/-- A time that cannot be parsed is left out. -/
def parseTimeQuery (lib : QueryLibraries) (req : ListRequest) (key : String) : Option ℤ :=
  if req.query key = "" then none else lib.parseTime (req.query key)

def filterOf (lib : QueryLibraries) (req : ListRequest) : QueryFilter :=
  { tenantID := req.query "tenantId"
    userID := req.query "userId"
    action := req.query "action"
    resourceType := req.query "resourceType"
    fromTime := parseTimeQuery lib req "from"
    toTime := parseTimeQuery lib req "to"
    page := parseIntQuery req "page" 1
    pageSize := parseIntQuery req "pageSize" 50 }

/-- The page and its size are reported as they were asked for: `QueryEntries` has its own copy of
    the filter. -/
def listEntries (lib : QueryLibraries) (scan : Scan) (rows : List StoredEntry) (req : ListRequest) :
    ListResponse :=
  match extractCaller req with
  | none => .refused 401 "unauthorized"
  | some caller =>
    let f := filterOf lib req
    if f.tenantID ≠ "" ∧ lib.uuidParse f.tenantID = false then
      .refused 400 "invalid tenantId format"
    else if f.userID ≠ "" ∧ lib.uuidParse f.userID = false then
      .refused 400 "invalid userId format"
    else
      match queryEntries lib scan rows ⟨caller.tenantID, caller.isPlatformAdmin⟩ f with
      | .error _ => .refused 500 "internal error"
      | .ok (entries, total) => .listed entries total f.page f.pageSize

/-! ## What a filter asks for -/

namespace Clause

def all : List Clause := [.tenantId, .userId, .action, .resourceType, .createdFrom, .createdTo]

theorem mem_all (c : Clause) : c ∈ all := by cases c <;> decide

/-- The value a condition is about, where it is asked for. -/
def value (tc : TenantContext) (f : QueryFilter) : Clause → Option Arg
  | .tenantId =>
    if tc.isPlatformAdmin then if f.tenantID ≠ "" then some (.text f.tenantID) else none
    else some (.text tc.tenantID)
  | .userId => if f.userID ≠ "" then some (.text f.userID) else none
  | .action => if f.action ≠ "" then some (.text f.action) else none
  | .resourceType => if f.resourceType ≠ "" then some (.text f.resourceType) else none
  | .createdFrom => f.fromTime.map .time
  | .createdTo => f.toTime.map .time

/-- What each field of a filter says of a row. -/
def Holds (tc : TenantContext) (f : QueryFilter) (row : StoredEntry) : Clause → Prop
  | .tenantId =>
    if tc.isPlatformAdmin then f.tenantID = "" ∨ uuidIn f.tenantID = some row.entry.tenantId
    else uuidIn tc.tenantID = some row.entry.tenantId
  | .userId => f.userID = "" ∨ row.entry.userId.isSome ∧ uuidIn f.userID = row.entry.userId
  | .action => f.action = "" ∨ f.action = row.entry.action.label
  | .resourceType => f.resourceType = "" ∨ f.resourceType = row.entry.resourceType
  | .createdFrom => ∀ t ∈ f.fromTime, timestamptz t ≤ row.createdAt
  | .createdTo => ∀ t ∈ f.toTime, row.createdAt ≤ timestamptz t

instance (tc : TenantContext) (f : QueryFilter) (row : StoredEntry) (c : Clause) :
    Decidable (c.Holds tc f row) := by
  cases c
  all_goals
    dsimp only [Holds]
    infer_instance

end Clause

def wanted (tc : TenantContext) (f : QueryFilter) : List (Clause × Arg) :=
  Clause.all.flatMap fun c => ((c.value tc f).map (c, ·)).toList

def Matches (tc : TenantContext) (f : QueryFilter) (row : StoredEntry) : Prop :=
  ∀ c ∈ Clause.all, c.Holds tc f row

instance (tc : TenantContext) (f : QueryFilter) (row : StoredEntry) :
    Decidable (Matches tc f row) :=
  inferInstanceAs (Decidable (∀ c ∈ Clause.all, c.Holds tc f row))

def matching (tc : TenantContext) (f : QueryFilter) (rows : List StoredEntry) : List StoredEntry :=
  rows.filter fun row => Matches tc f row

/-- Every value can be read as its column's type. -/
def Readable (tc : TenantContext) (f : QueryFilter) : Prop :=
  ∀ x ∈ wanted tc f, (x.1.bind (some x.2)).isSome

/-- What a caller needs to be answered. -/
structure Accepted (lib : QueryLibraries) (tc : TenantContext) (f : QueryFilter) : Prop where
  setTenantID : lib.setLocal tc.tenantID
  setPlatformAdmin : lib.setLocal (if tc.isPlatformAdmin then "true" else "false")
  readable : Readable tc f

/-! ## What the statements are bound to -/

section Building

variable {tc : TenantContext} {f : QueryFilter} {b : QueryBuilder} {bound : List (Clause × Arg)}

/-- A builder that has taken these conditions with their values: the numbers run from 1. -/
structure QueryBuilder.Built (b : QueryBuilder) (bound : List (Clause × Arg)) : Prop where
  conditions : b.conditions = (bound.zipIdx 1).map fun x => ⟨x.1.1, x.2⟩
  args : b.args = bound.map (·.2)
  n : b.n = bound.length + 1

theorem QueryBuilder.Built.addIf (h : b.Built bound) {applies : Bool} {clause : Clause} {arg : Arg}
    (hvalue : clause.value tc f = if applies then some arg else none) :
    (b.addIf applies clause arg).Built
      (bound ++ ((clause.value tc f).map (clause, ·)).toList) := by
  rw [hvalue]
  cases applies with
  | false => simpa [QueryBuilder.addIf] using h
  | true =>
    refine ⟨?_, ?_, ?_⟩
    · simp [QueryBuilder.addIf, h.conditions, h.n, List.zipIdx_append, Nat.add_comm]
    · simp [QueryBuilder.addIf, h.args]
    · simp [QueryBuilder.addIf, h.n]

theorem buildQuery_built (tc : TenantContext) (f : QueryFilter) :
    (buildQuery tc f).Built (wanted tc f) := by
  have hempty : QueryBuilder.Built ⟨[], [], 1⟩ [] := ⟨rfl, rfl, rfl⟩
  have htenant : (if !tc.isPlatformAdmin then
        QueryBuilder.addIf ⟨[], [], 1⟩ true .tenantId (.text tc.tenantID)
      else QueryBuilder.addIf ⟨[], [], 1⟩ (f.tenantID ≠ "") .tenantId (.text f.tenantID)).Built
        ([] ++ ((Clause.tenantId.value tc f).map (.tenantId, ·)).toList) := by
    cases hadmin : tc.isPlatformAdmin with
    | false =>
      have hvalue : Clause.tenantId.value tc f =
          if true then some (.text tc.tenantID) else none := by
        simp [Clause.value, hadmin]
      exact hempty.addIf hvalue
    | true =>
      have hvalue : Clause.tenantId.value tc f =
          if decide (f.tenantID ≠ "") then some (.text f.tenantID) else none := by
        simp [Clause.value, hadmin]
      exact hempty.addIf hvalue
  have huser : Clause.userId.value tc f =
      if decide (f.userID ≠ "") then some (.text f.userID) else none := by
    simp [Clause.value]
  have haction : Clause.action.value tc f =
      if decide (f.action ≠ "") then some (.text f.action) else none := by
    simp [Clause.value]
  have hresource : Clause.resourceType.value tc f =
      if decide (f.resourceType ≠ "") then some (.text f.resourceType) else none := by
    simp [Clause.value]
  have hfrom : Clause.createdFrom.value tc f =
      if f.fromTime.isSome then some (.time (f.fromTime.getD 0)) else none := by
    rw [Clause.value]
    cases f.fromTime <;> rfl
  have hto : Clause.createdTo.value tc f =
      if f.toTime.isSome then some (.time (f.toTime.getD 0)) else none := by
    rw [Clause.value]
    cases f.toTime <;> rfl
  have hbuilt : (buildQuery tc f).Built _ :=
    ((((htenant.addIf huser).addIf haction).addIf hresource).addIf hfrom).addIf hto
  simpa only [wanted, Clause.all, List.flatMap_cons, List.flatMap_nil, List.append_nil,
    List.nil_append, List.append_assoc] using hbuilt

/-- Every placeholder has its argument: a condition the value of its own field, the limit and the
    offset theirs. -/
structure Statement.Bound (tc : TenantContext) (f : QueryFilter) (st : Statement)
    (args : List Arg) : Prop where
  placeholders : st.placeholders = (List.range args.length).map (· + 1)
  conditions : (st.conditions.map fun c => (c.clause, argument args c.placeholder)) =
    (wanted tc f).map fun x => (x.1, some x.2)
  paging : ∀ limit offset, st.paging = some (limit, offset) →
    argument args limit = some (.int f.clampedPageSize) ∧
      argument args offset = some (.int f.offset)

theorem QueryBuilder.Built.argument (h : b.Built bound) (rest : List Arg) :
    (b.conditions.map fun c => (c.clause, Audit.argument (b.args ++ rest) c.placeholder)) =
      bound.map fun x => (x.1, some x.2) := by
  have hbound : bound = (bound.zipIdx 1).map Prod.fst := (List.zipIdx_map_fst 1 bound).symm
  rw [h.conditions, h.args, List.map_map]
  conv_rhs => rw [hbound, List.map_map]
  refine List.map_congr_left fun x hx => ?_
  obtain ⟨hle, hget⟩ := List.mem_zipIdx_iff_le_and_getElem?_sub.mp hx
  obtain ⟨k, hk⟩ : ∃ k, x.2 = k + 1 := ⟨x.2 - 1, by omega⟩
  rw [hk, Nat.add_sub_cancel] at hget
  have hlt : k < (bound.map (·.2)).length := by
    rw [List.length_map]
    exact (List.getElem?_eq_some_iff.mp hget).1
  have harg : Audit.argument (bound.map (·.2) ++ rest) x.2 = some x.1.2 := by
    rw [hk, Audit.argument, List.getElem?_append_left hlt, List.getElem?_map, hget]
    rfl
  simp only [Function.comp_apply, harg]

theorem QueryBuilder.Built.placeholders (h : b.Built bound) :
    b.conditions.map (·.placeholder) = (List.range b.args.length).map (· + 1) := by
  rw [h.conditions, h.args, List.map_map, List.length_map]
  have hnumbers : (bound.zipIdx 1).map Prod.snd = List.range' 1 bound.length :=
    List.zipIdx_map_snd 1 bound
  rw [List.range'_eq_map_range] at hnumbers
  simp only [Nat.add_comm 1] at hnumbers
  exact hnumbers

theorem countStatement_bound (tc : TenantContext) (f : QueryFilter) :
    (countStatement (buildQuery tc f)).Bound tc f (buildQuery tc f).args := by
  have hbuilt := buildQuery_built tc f
  refine ⟨?_, ?_, fun _ _ h => nomatch h⟩
  · simpa [Statement.placeholders, countStatement] using hbuilt.placeholders
  · simpa [countStatement] using hbuilt.argument []

theorem dataStatement_bound (tc : TenantContext) (f : QueryFilter) :
    (dataStatement (buildQuery tc f)).Bound tc f (pageArgs (buildQuery tc f) f) := by
  have hbuilt := buildQuery_built tc f
  have hn : (buildQuery tc f).n = (buildQuery tc f).args.length + 1 := by
    rw [hbuilt.n, hbuilt.args, List.length_map]
  refine ⟨?_, hbuilt.argument _, fun limit offset h => ?_⟩
  · simp [Statement.placeholders, dataStatement, pageArgs, hbuilt.placeholders, hn,
      List.range_succ]
  · obtain ⟨rfl, rfl⟩ := Prod.mk.inj (Option.some.inj h)
    simp [hn, pageArgs, argument]

/-- The text of a statement. -/
example : (countStatement (buildQuery ⟨"", true⟩
      { tenantID := "t", userID := "", action := "login", resourceType := "", fromTime := none,
        toTime := some 0, page := 1, pageSize := 50 })).sql =
    "SELECT COUNT(*) FROM audit.entries WHERE tenant_id = $1::uuid AND " ++
      "action = $2::audit_action AND created_at <= $3" := by
  rfl

theorem value_of_mem_wanted {x : Clause × Arg} (h : x ∈ wanted tc f) :
    x.1.value tc f = some x.2 := by
  obtain ⟨c, -, hx⟩ := List.mem_flatMap.mp h
  rw [Option.mem_toList, Option.map_eq_some_iff] at hx
  obtain ⟨v, hv, rfl⟩ := hx
  exact hv

theorem mem_wanted {c : Clause} {v : Arg} (h : c.value tc f = some v) : (c, v) ∈ wanted tc f :=
  List.mem_flatMap.mpr ⟨c, c.mem_all, by simp [h]⟩

end Building

/-! ## What the statements select -/

section Selecting

variable {tc : TenantContext} {f : QueryFilter} {row : StoredEntry}

theorem AuditAction.ofLabel_label (a : AuditAction) : AuditAction.ofLabel a.label = some a := by
  cases a <;> decide

/-- A condition with the value of its own field says what the field says. -/
theorem Clause.bind_value {c : Clause} {v : Arg} {p : StoredEntry → Bool}
    (hv : c.value tc f = some v) (hp : c.bind (some v) = some p) :
    p row = true ↔ c.Holds tc f row := by
  cases c with
  | tenantId =>
    simp only [Clause.value] at hv
    split at hv
    next hadmin =>
      split at hv
      next hne =>
        cases hv
        obtain ⟨u, hu, rfl⟩ := Option.map_eq_some_iff.mp hp
        simp [Clause.Holds, hadmin, hne, hu, eq_comm]
      next => cases hv
    next hadmin =>
      cases hv
      obtain ⟨u, hu, rfl⟩ := Option.map_eq_some_iff.mp hp
      simp [Clause.Holds, hadmin, hu, eq_comm]
  | userId =>
    simp only [Clause.value] at hv
    split at hv
    next hne =>
      cases hv
      obtain ⟨u, hu, rfl⟩ := Option.map_eq_some_iff.mp hp
      simp only [Clause.Holds, hne, hu, false_or, decide_eq_true_eq]
      constructor
      · intro h
        simp [h]
      · rintro ⟨-, h⟩
        exact h.symm
    next => cases hv
  | action =>
    simp only [Clause.value] at hv
    split at hv
    next hne =>
      cases hv
      obtain ⟨a, ha, rfl⟩ := Option.map_eq_some_iff.mp hp
      simp only [Clause.Holds, hne, false_or, decide_eq_true_eq]
      constructor
      · intro h
        rw [h, AuditAction.label_of_ofLabel ha]
      · intro h
        rw [h, AuditAction.ofLabel_label] at ha
        exact Option.some.inj ha
    next => cases hv
  | resourceType =>
    simp only [Clause.value] at hv
    split at hv
    next hne =>
      cases hv
      obtain ⟨t, ht, rfl⟩ := Option.map_eq_some_iff.mp hp
      simp only [text] at ht
      split at ht
      next =>
        cases ht
        simp [Clause.Holds, hne, eq_comm]
      next => cases ht
    next => cases hv
  | createdFrom =>
    obtain ⟨t, ht, rfl⟩ := Option.map_eq_some_iff.mp hv
    cases hp
    simp [Clause.Holds, ht]
  | createdTo =>
    obtain ⟨t, ht, rfl⟩ := Option.map_eq_some_iff.mp hv
    cases hp
    simp [Clause.Holds, ht]

/-- A field that is not asked for holds of every row. -/
theorem Clause.holds_of_value_none {c : Clause} (h : c.value tc f = none) : c.Holds tc f row := by
  cases c with
  | tenantId =>
    simp only [Clause.value] at h
    split at h
    next hadmin =>
      split at h
      next => cases h
      next hempty => simp_all [Clause.Holds]
    next => cases h
  | userId | action | resourceType =>
    simp only [Clause.value] at h
    split at h
    next => cases h
    next hempty => exact .inl (not_not.mp hempty)
  | createdFrom | createdTo => simp_all [Clause.value, Clause.Holds]

theorem mapM_bind {l : List (Clause × Arg)} (h : ∀ x ∈ l, (x.1.bind (some x.2)).isSome) :
    ∃ ps, (l.mapM fun x => x.1.bind (some x.2)) = some ps ∧
      ∀ row, ps.all (· row) = true ↔ ∀ x ∈ l, ∀ p ∈ x.1.bind (some x.2), p row = true := by
  induction l with
  | nil => exact ⟨[], rfl, by simp⟩
  | cons x l ih =>
    obtain ⟨hx, hl⟩ := List.forall_mem_cons.mp h
    obtain ⟨p, hp⟩ := Option.isSome_iff_exists.mp hx
    obtain ⟨ps, hps, hall⟩ := ih hl
    refine ⟨p :: ps, by rw [List.mapM_cons, hp, hps]; rfl, fun row => ?_⟩
    rw [List.all_cons, Bool.and_eq_true, hall row]
    simp [hp]

theorem mapM_bind_none {l : List (Clause × Arg)}
    (h : ¬ ∀ x ∈ l, (x.1.bind (some x.2)).isSome) :
    (l.mapM fun x => x.1.bind (some x.2)) = none := by
  induction l with
  | nil => exact absurd (fun _ hx => nomatch hx) h
  | cons x l ih =>
    rw [List.mapM_cons]
    cases hx : x.1.bind (some x.2) with
    | none => rfl
    | some p =>
      have hl : ¬ ∀ x ∈ l, (x.1.bind (some x.2)).isSome :=
        fun hl => h (List.forall_mem_cons.mpr ⟨by simp [hx], hl⟩)
      rw [ih hl]
      rfl

theorem Statement.Bound.mapM_conditions {st : Statement} {args : List Arg}
    (h : st.Bound tc f args) :
    (st.conditions.mapM fun c : Condition => c.clause.bind (argument args c.placeholder)) =
      (wanted tc f).mapM fun x => x.1.bind (some x.2) := by
  have hpairs := congrArg (List.mapM fun y : Clause × Option Arg => y.1.bind y.2) h.conditions
  rwa [List.mapM_map, List.mapM_map] at hpairs

theorem Statement.Bound.select {st : Statement} {args : List Arg} (h : st.Bound tc f args)
    (hreadable : Readable tc f) (rows : List StoredEntry) :
    st.select args rows = some (matching tc f rows) := by
  obtain ⟨ps, hps, hall⟩ := mapM_bind hreadable
  rw [Statement.select, if_pos h.placeholders, h.mapM_conditions, hps, Option.map_some, matching]
  congr 1
  refine List.filter_congr fun row _ => Bool.eq_iff_iff.mpr ?_
  rw [hall row, decide_eq_true_eq]
  constructor
  · intro h c _
    cases hv : c.value tc f with
    | none => exact c.holds_of_value_none hv
    | some v =>
      obtain ⟨p, hp⟩ := Option.isSome_iff_exists.mp (hreadable _ (mem_wanted hv))
      exact (Clause.bind_value hv hp).mp (h _ (mem_wanted hv) p hp)
  · intro h x hx p hp
    exact (Clause.bind_value (value_of_mem_wanted hx) hp).mpr (h x.1 x.1.mem_all)

theorem Statement.Bound.select_none {st : Statement} {args : List Arg} (h : st.Bound tc f args)
    (hreadable : ¬ Readable tc f) (rows : List StoredEntry) : st.select args rows = none := by
  rw [Statement.select, if_pos h.placeholders, h.mapM_conditions, mapM_bind_none hreadable,
    Option.map_none]

/-- Row-level security hides nothing that matches. -/
theorem matching_visibleRows (tc : TenantContext) (f : QueryFilter) (rows : List StoredEntry) :
    matching tc f (visibleRows tc rows) = matching tc f rows := by
  rw [matching, visibleRows, List.filter_filter]
  refine List.filter_congr fun row _ => ?_
  cases hmatches : decide (Matches tc f row) with
  | false => rfl
  | true =>
    have htenant := of_decide_eq_true hmatches .tenantId (by decide)
    cases hadmin : tc.isPlatformAdmin with
    | true => simp
    | false =>
      simp only [Clause.Holds, hadmin, Bool.false_eq_true, if_false] at htenant
      have hne : tc.tenantID ≠ "" := by
        intro he
        rw [he] at htenant
        exact nomatch htenant
      simp [currentTenantID, hne, htenant]

/-- The entries of the page asked for. -/
def pageOf (scan : Scan) (tc : TenantContext) (f : QueryFilter) (rows : List StoredEntry) :
    List StoredEntry :=
  ((listed (·.createdAt) (scan.order (matching tc f rows))).drop f.offset.toNat).take
    f.clampedPageSize.toNat

theorem clampedPageSize_pos (f : QueryFilter) : 0 < f.clampedPageSize := by
  unfold QueryFilter.clampedPageSize
  split <;> omega

theorem Statement.Bound.fetch {st : Statement} {args : List Arg} {paging : ℕ × ℕ}
    (h : st.Bound tc f args) (hpaging : st.paging = some paging) (hreadable : Readable tc f)
    (scan : Scan) (rows : List StoredEntry) :
    st.fetch args scan rows =
      if 0 ≤ f.offset then
        some (((listed (·.createdAt) (scan.order (matching tc f rows))).drop f.offset.toNat).take
          f.clampedPageSize.toNat)
      else none := by
  obtain ⟨hlimit, hoffset⟩ := h.paging paging.1 paging.2 hpaging
  have hsize : count (some (.int f.clampedPageSize)) = some f.clampedPageSize.toNat :=
    if_pos (clampedPageSize_pos f).le
  simp only [Statement.fetch, hpaging, h.select hreadable, Option.bind_eq_bind, Option.bind_some,
    hlimit, hoffset, hsize]
  by_cases hnonneg : 0 ≤ f.offset
  · rw [if_pos hnonneg, count, if_pos hnonneg]
    rfl
  · rw [if_neg hnonneg, count, if_neg hnonneg]
    rfl

/-- When there is an answer, and which. -/
theorem queryEntries_ok_iff {lib : QueryLibraries} {scan : Scan} {rows entries : List StoredEntry}
    {total : ℕ} :
    queryEntries lib scan rows tc f = .ok (entries, total) ↔
      Accepted lib tc f ∧ 0 ≤ f.offset ∧ entries = pageOf scan tc f rows ∧
        total = (matching tc f rows).length := by
  have hcount := countStatement_bound tc f
  have hdata := dataStatement_bound tc f
  unfold queryEntries
  by_cases htenant : lib.setLocal tc.tenantID = true
  swap
  · simp only [htenant]
    exact ⟨fun h => (nomatch h), fun h => absurd h.1.setTenantID htenant⟩
  by_cases hplatform : lib.setLocal (if tc.isPlatformAdmin then "true" else "false") = true
  swap
  · simp only [htenant, hplatform]
    exact ⟨fun h => (nomatch h), fun h => absurd h.1.setPlatformAdmin hplatform⟩
  by_cases hreadable : Readable tc f
  swap
  · simp only [htenant, hplatform, hcount.select_none hreadable]
    exact ⟨fun h => (nomatch h), fun h => absurd h.1.readable hreadable⟩
  have haccepted : Accepted lib tc f := ⟨htenant, hplatform, hreadable⟩
  simp only [htenant, hplatform, hcount.select hreadable, hdata.fetch rfl hreadable,
    matching_visibleRows, haccepted, true_and]
  by_cases hnonneg : 0 ≤ f.offset
  · rw [if_pos hnonneg]
    simp only [hnonneg, true_and]
    constructor
    · intro h
      obtain ⟨rfl, rfl⟩ := Prod.mk.inj (Except.ok.inj h)
      exact ⟨rfl, rfl⟩
    · rintro ⟨rfl, rfl⟩
      rfl
  · rw [if_neg hnonneg]
    exact ⟨fun h => (nomatch h), fun h => absurd h.1 hnonneg⟩

/-- Both statements are bound to the filter, and an answer consists of the matching rows: how many
    there are, and a page of them. A caller who is no admin is shown and counts only rows of its own
    tenant. -/
theorem queryEntries_exact (lib : QueryLibraries) (scan : Scan) (rows : List StoredEntry)
    (tc : TenantContext) (f : QueryFilter) :
    (countStatement (buildQuery tc f)).Bound tc f (buildQuery tc f).args ∧
    (dataStatement (buildQuery tc f)).Bound tc f (pageArgs (buildQuery tc f) f) ∧
    ((queryEntries lib scan rows tc f).isOk ↔ Accepted lib tc f ∧ 0 ≤ f.offset) ∧
    ∀ entries total, queryEntries lib scan rows tc f = .ok (entries, total) →
      total = (matching tc f rows).length ∧
      (∃ l, Listing (·.createdAt) (matching tc f rows) l ∧
        entries = (l.drop f.offset.toNat).take f.clampedPageSize.toNat) ∧
      (tc.isPlatformAdmin = false →
        ∀ row ∈ entries ++ matching tc f rows, uuidIn tc.tenantID = some row.entry.tenantId) := by
  refine ⟨countStatement_bound tc f, dataStatement_bound tc f, ?_, fun entries total h => ?_⟩
  · constructor
    · intro h
      cases hanswer : queryEntries lib scan rows tc f with
      | error e => rw [hanswer] at h; exact nomatch h
      | ok answer =>
        obtain ⟨haccepted, hnonneg, -⟩ := queryEntries_ok_iff.mp hanswer
        exact ⟨haccepted, hnonneg⟩
    · rintro ⟨haccepted, hnonneg⟩
      rw [queryEntries_ok_iff.mpr ⟨haccepted, hnonneg, rfl, rfl⟩]
      rfl
  · obtain ⟨-, -, rfl, rfl⟩ := queryEntries_ok_iff.mp h
    have hlisting : Listing (·.createdAt) (matching tc f rows)
        (listed (·.createdAt) (scan.order (matching tc f rows))) :=
      listing_listed _ (scan.perm _)
    refine ⟨rfl, ⟨_, hlisting, rfl⟩, fun hadmin row hrow => ?_⟩
    have hmem : row ∈ matching tc f rows := by
      rcases List.mem_append.mp hrow with hrow | hrow
      · exact hlisting.perm.mem_iff.mp (List.mem_of_mem_drop (List.mem_of_mem_take hrow))
      · exact hrow
    have htenant := of_decide_eq_true (List.mem_filter.mp hmem).2 .tenantId (by decide)
    simpa [Clause.Holds, hadmin] using htenant

end Selecting

end SaasChassis.Audit
