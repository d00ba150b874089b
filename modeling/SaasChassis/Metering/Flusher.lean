/-
  The flusher that moves usage counters from Redis to `gateway.api_requests`, run beside the
  requests that write them.

  A `Flush` is one run of `Flusher.Flush`, between two of its calls to Redis or the database; an
  `Answer` is what the call comes back with. Any number of flushes and requests take steps in any
  order (`MeterState.step`); every gateway process has a loop of its own, so a tick may start a
  flush beside another. `bulkInsert_rows`: the statement stores one row for each `MeterRow`, with
  all of it but the count.
-/
import SaasChassis.Lib.Runs
import SaasChassis.Metering.Counters

namespace SaasChassis.Metering

open SaasChassis.Lib

/-! ## The INSERT -/

inductive Arg where
  | text (s : String)
  | int (i : ℤ)
  | time (t : Day)
  deriving DecidableEq

/-- `INSERT INTO gateway.api_requests(columns) VALUES placeholders` with its arguments. -/
structure Statement where
  columns : List String
  /-- For each row the numbers of its placeholders: `[1, 2]` is `($1,$2)`. -/
  placeholders : List (List ℕ)
  args : List Arg
  deriving DecidableEq

def MeterRow.args (r : MeterRow) : List Arg :=
  [.text r.tenantID, .text r.plan, .text r.endpoint, .text r.method, .int r.statusCode,
    .time r.requestAt]

def rowPlaceholders (i : ℕ) : List ℕ :=
  let n := i * 6
  [n + 1, n + 2, n + 3, n + 4, n + 5, n + 6]

def bulkInsert (rows : List MeterRow) : Statement where
  columns := ["tenant_id", "plan", "endpoint", "method", "status_code", "request_at"]
  placeholders := rows.mapIdx fun i _ => rowPlaceholders i
  args := rows.flatMap MeterRow.args

/-- A row of `gateway.api_requests`. Its `id` and `flushed_at` are defaults of the table. -/
structure ApiRequest where
  tenant_id : String
  plan : String
  endpoint : String
  method : String
  status_code : ℤ
  request_at : Day
  deriving DecidableEq

namespace Statement

def arg (st : Statement) : ℕ → Option Arg
  | 0 => none
  | n + 1 => st.args[n]?

/-- The row that one tuple of placeholders stores. -/
def row (st : Statement) (tuple : List ℕ) : Option ApiRequest :=
  let value := fun column => ((st.columns.zip tuple).lookup column).bind st.arg
  match value "tenant_id", value "plan", value "endpoint", value "method", value "status_code",
    value "request_at" with
  | some (.text tenant_id), some (.text plan), some (.text endpoint), some (.text method),
    some (.int status_code), some (.time request_at) =>
    some ⟨tenant_id, plan, endpoint, method, status_code, request_at⟩
  | _, _, _, _, _, _ => none

def rows (st : Statement) : Option (List ApiRequest) := st.placeholders.mapM st.row

end Statement

def MeterRow.apiRequest (r : MeterRow) : ApiRequest :=
  ⟨r.tenantID, r.plan, r.endpoint, r.method, r.statusCode, r.requestAt⟩

theorem args_getElem? {rows : List MeterRow} {i : ℕ} {r : MeterRow} (h : rows[i]? = some r)
    {j : ℕ} (hj : j < 6) : (rows.flatMap MeterRow.args)[i * 6 + j]? = r.args[j]? := by
  induction rows generalizing i with
  | nil => exact nomatch h
  | cons r' rows ih =>
    have hlen : r'.args.length = 6 := rfl
    rw [List.flatMap_cons]
    cases i with
    | zero =>
      cases h
      rw [List.getElem?_append_left (by omega), zero_mul, zero_add]
    | succ i =>
      rw [List.getElem?_append_right (by omega)]
      have hsub : (i + 1) * 6 + j - r'.args.length = i * 6 + j := by omega
      rw [hsub]
      exact ih h

theorem mapM_mapIdx {α β γ : Type} {g : β → Option γ} {h : α → γ} {l : List α} {f : ℕ → α → β}
    (hl : ∀ i a, l[i]? = some a → g (f i a) = some (h a)) :
    (l.mapIdx f).mapM g = some (l.map h) := by
  induction l generalizing f with
  | nil => rfl
  | cons a l ih =>
    rw [List.mapIdx_cons, List.mapM_cons, hl 0 a rfl, ih fun i b hb => hl (i + 1) b hb]
    rfl

theorem bulkInsert_rows (rows : List MeterRow) :
    (bulkInsert rows).rows = some (rows.map MeterRow.apiRequest) := by
  refine mapM_mapIdx fun i r hr => ?_
  have harg : ∀ j < 6, (bulkInsert rows).arg (i * 6 + j + 1) = r.args[j]? := by
    intro j hj
    exact args_getElem? hr hj
  have hvalue : ∀ column j, j < 6 →
      ((bulkInsert rows).columns.zip (rowPlaceholders i)).lookup column = some (i * 6 + j + 1) →
      (((bulkInsert rows).columns.zip (rowPlaceholders i)).lookup column).bind
        (bulkInsert rows).arg = r.args[j]? := by
    intro column j hj hcolumn
    rw [hcolumn, Option.bind_some, harg j hj]
  simp only [Statement.row]
  rw [hvalue "tenant_id" 0 (by omega) rfl, hvalue "plan" 1 (by omega) rfl,
    hvalue "endpoint" 2 (by omega) rfl, hvalue "method" 3 (by omega) rfl,
    hvalue "status_code" 4 (by omega) rfl, hvalue "request_at" 5 (by omega) rfl]
  rfl

/-! ## One flush -/

/-- Where a flush stands: the call it waits for, with its local variables. -/
inductive Flush where
  /-- `SCAN`, in the loop of `scanMeterKeys`. -/
  | scanning (keys : List String)
  /-- `HGETALL key`; `keys` are those after it. -/
  | reading (key tenantID : String) (requestAt : Day) (keys : List String)
      (rows : List MeterRow) (flushedKeys : List String)
  /-- The `INSERT`. -/
  | inserting (rows : List MeterRow) (flushedKeys : List String)
  /-- `DEL flushedKeys`. -/
  | deleting (rows : List MeterRow) (flushedKeys : List String)
  | finished (err : Option String)
  deriving DecidableEq

/-- The order in which Go ranges over a map: any, and every entry once. -/
structure MapOrder where
  visit : List (String × String) → List (String × String)
  visit_perm : ∀ fields, (visit fields).Perm fields

/-- The order in which Redis sent the fields. -/
def MapOrder.sent : MapOrder := ⟨id, fun _ => .refl _⟩

/-- What a call to Redis or to the database comes back with. -/
inductive Answer where
  /-- Some elements and the next cursor, of which those that match `meter:*` are returned. -/
  | scanned (elements : List String) (cursor : ℕ)
  | fields (order : MapOrder)
  | ok
  | failed (err : String)

namespace Flush

/-- The loop over the keys, up to the next one that is read. -/
def nextKey : List String → List MeterRow → List String → Flush
  | [], rows, flushedKeys => if rows = [] then finished none else inserting rows flushedKeys
  | key :: keys, rows, flushedKeys =>
    match parseMeterKey key with
    | none => nextKey keys rows flushedKeys
    | some (tenantID, requestAt) => reading key tenantID requestAt keys rows flushedKeys

def next (redis : Redis) : Flush → Answer → Flush
  | scanning keys, .scanned elements cursor =>
    let keys := keys ++ elements.filter (hasPrefix · "meter:")
    if cursor = 0 then nextKey keys [] [] else scanning keys
  | scanning _, .failed err => finished (some ("redis scan: " ++ err))
  | reading key tenantID requestAt keys rows flushedKeys, .fields order =>
    let keyRows := meterRows tenantID requestAt (order.visit (redis.hgetAll key))
    nextKey keys (rows ++ keyRows) (if keyRows = [] then flushedKeys else flushedKeys ++ [key])
  | reading _ _ _ keys rows flushedKeys, .failed _ => nextKey keys rows flushedKeys
  | inserting rows flushedKeys, .ok =>
    if flushedKeys = [] then finished none else deleting rows flushedKeys
  | inserting _ _, .failed err => finished (some ("bulk insert: " ++ err))
  | deleting _ _, .ok => finished none
  -- a failed `DEL` is logged, no more
  | deleting _ _, .failed _ => finished none
  | flush, _ => flush

/-- The rows that a successful call inserts. -/
def inserts : Flush → Answer → List MeterRow
  | inserting rows _, .ok => rows
  | _, _ => []

/-- The keys that a successful call deletes. -/
def deletes : Flush → Answer → List String
  | deleting _ flushedKeys, .ok => flushedKeys
  | _, _ => []

end Flush

/-! ## Flushes and requests -/

/-- Redis, the table and the flushes. `completed` and `inserted` are records for the statements:
    the requests answered so far, and the rows of the INSERTs that succeeded. -/
structure MeterState where
  redis : Redis
  apiRequests : List ApiRequest
  flushes : List Flush
  completed : List Completed
  inserted : List MeterRow

inductive Input where
  | request (r : Completed)
  | tick
  /-- The flush at index `i` gets an answer. -/
  | answer (i : ℕ) (a : Answer)

namespace MeterState

def start : MeterState := ⟨∅, [], [], [], []⟩

/-- The state after the flush at index `i` got its answer. -/
def answered (s : MeterState) (i : ℕ) (flush : Flush) (a : Answer) : MeterState :=
  { s with
    redis := s.redis.del (flush.deletes a)
    apiRequests := s.apiRequests ++ ((bulkInsert (flush.inserts a)).rows).getD []
    flushes := s.flushes.set i (flush.next s.redis a)
    inserted := s.inserted ++ flush.inserts a }

def step (s : MeterState) : Input → MeterState
  | .request r =>
    { s with redis := meteringMiddleware r s.redis, completed := s.completed ++ [r] }
  | .tick => { s with flushes := s.flushes ++ [.scanning []] }
  | .answer i a => (s.flushes[i]?).elim s fun flush => s.answered i flush a

theorem step_answer {s : MeterState} {i : ℕ} {flush : Flush} (h : s.flushes[i]? = some flush)
    (a : Answer) : s.step (.answer i a) = s.answered i flush a := by
  rw [step, h]
  rfl

theorem step_answer_none {s : MeterState} {i : ℕ} (h : s.flushes[i]? = none) (a : Answer) :
    s.step (.answer i a) = s := by
  rw [step, h]
  rfl

end MeterState

end SaasChassis.Metering
