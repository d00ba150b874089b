/-
  Can one bad key hold up the counts of all the others?

  The keys of all tenants go into one INSERT, and `gateway.api_requests` takes a statement whole
  or not at all (`Statement.accepted`). The flusher only leaves out a key whose tenant holds a
  colon; a request without `X-Tenant-ID` leaves the key of the empty tenant, which is read and
  refused. `good_written_iff`: one flush writes the counts of all the tenants with a UUID if and
  only if every row it reads is one the table takes and they fit in one statement, unless there
  is no such count. `anonymous_blocks` is one anonymous request.
-/
import Mathlib.Data.List.Count
import Mathlib.Data.List.Dedup
import SaasChassis.Lib.Postgres
import SaasChassis.Metering.Rows

namespace SaasChassis.Metering

open SaasChassis.Lib SaasChassis.Lib.Postgres
open SaasChassis.Gateway (Header)

/-! ## The table -/

/-- The columns of `gateway.api_requests` take the row: `status_code` is an `INT`. -/
def ApiRequest.accepted (a : ApiRequest) : Bool :=
  (uuidIn a.tenant_id).isSome && (varchar 50 a.plan).isSome && (varchar 500 a.endpoint).isSome &&
    (varchar 10 a.method).isSome && (-2 ^ 31 ≤ a.status_code && a.status_code < 2 ^ 31)

/-- A statement has at most 65535 parameters, and is carried out for all its rows or for none. -/
def Statement.accepted (st : Statement) : Bool :=
  st.args.length ≤ 65535 && st.rows.elim false fun rows => rows.all ApiRequest.accepted

/-- The answer of a database that is up, with the text of its error. -/
def Flush.reply (err : String) : Flush → Answer
  | inserting rows _ => if (bulkInsert rows).accepted then .ok else .failed err
  | _ => .ok

def MeterState.replied (err : String) (s : MeterState) : MeterState :=
  s.step (.answer 0 (s.flushes[0]?.elim .ok (Flush.reply err)))

/-- One flush of the recorded requests, from its tick to its return. -/
def flushed (rs : List Completed) (h : Healthy (recorded rs).redis) (err : String) : MeterState :=
  ((run MeterState.step (recorded rs)
    (.tick :: (Healthy.scans h.last h.batches ++ h.reads h.keys).map (.answer 0))).replied
      err).replied err

/-- The cell's row is in the table, and the INSERT was handed its count. -/
structure Written (s : MeterState) (c : Cell) (n : ℕ) : Prop where
  row : c.apiRequest ∈ s.apiRequests
  count : total c s.inserted = n

/-- Every count under a key with a UUID tenant is written. -/
def GoodWritten (rs : List Completed) (h : Healthy (recorded rs).redis) (err : String) : Prop :=
  ∀ c : Cell, (uuidIn c.tenantID).isSome → stored (recorded rs).redis c ≠ 0 →
    Written (flushed rs h err) c (stored (recorded rs).redis c)

/-! ## The rows of one flush -/

/-- The cells whose keys the flusher reads. -/
def readCells (rs : List Completed) : List Cell :=
  (rs.map Completed.cell).dedup.filter fun c => ':' ∉ c.tenantID.toList

/-- The rows of the requests, six parameters each, fit in one statement, and the table takes each
    of them. -/
structure Accepted (rs : List Completed) : Prop where
  parameters : 6 * (readCells rs).length ≤ 65535
  columns : ∀ c ∈ readCells rs, (uuidIn c.tenantID).isSome ∧ (varchar 500 c.path).isSome ∧
    (varchar 10 c.method.name).isSome

variable {rs : List Completed}

theorem mem_readCells {c : Cell} :
    c ∈ readCells rs ↔ ':' ∉ c.tenantID.toList ∧ stored (recorded rs).redis c ≠ 0 := by
  rw [readCells, List.mem_filter, List.mem_dedup, List.mem_map, stored_recorded, and_comm,
    decide_eq_true_iff]

theorem readCells_nodup (rs : List Completed) : (readCells rs).Nodup :=
  (List.nodup_dedup _).filter _

theorem colon_of_uuidIn {s : String} (h : (uuidIn s).isSome) : ':' ∉ s.toList :=
  notMem_of_uuidIn h (by decide) (by decide) (by decide) (by decide)

theorem apiRequest_injective : Function.Injective Cell.apiRequest := by
  rintro ⟨t, d, ⟨m, hm⟩, p⟩ ⟨t', d', ⟨m', hm'⟩, p'⟩ h
  simp only [Cell.apiRequest, ApiRequest.mk.injEq, true_and] at h
  obtain ⟨rfl, rfl, rfl, rfl⟩ := h
  rfl

theorem accepted_apiRequest (c : Cell) :
    c.apiRequest.accepted ↔ (uuidIn c.tenantID).isSome ∧ (varchar 500 c.path).isSome ∧
      (varchar 10 c.method.name).isSome := by
  have hplan : (varchar 50 "unknown").isSome = true := by decide
  simp [ApiRequest.accepted, Cell.apiRequest, hplan, and_assoc]

/-- One row is read for each cell that the flusher can read. -/
theorem rows_perm (h : Healthy (recorded rs).redis) :
    (h.rows.map MeterRow.apiRequest).Perm ((readCells rs).map Cell.apiRequest) := by
  rw [List.perm_iff_count]
  intro a
  by_cases ha : ∃ c : Cell, a = c.apiRequest
  · obtain ⟨c, rfl⟩ := ha
    have hrows := count_apiRequest (fun _ hrow => read_of_mem_rows (h := h) hrow) c
    rw [weigh_readable] at hrows
    have hcells : ((readCells rs).map Cell.apiRequest).count c.apiRequest =
        if c ∈ readCells rs then 1 else 0 := by
      rw [List.count_map_of_injective _ _ apiRequest_injective, (readCells_nodup rs).count]
    rw [hcells]
    simp only [← mem_readCells] at hrows
    split at hrows
    next hmem =>
      rw [if_pos hmem]
      exact_mod_cast hrows
    next hmem =>
      rw [if_neg hmem]
      exact_mod_cast hrows
  · have hrows : a ∉ h.rows.map MeterRow.apiRequest := by
      intro hmem
      obtain ⟨row, hrow, rfl⟩ := List.mem_map.mp hmem
      have hread := read_of_mem_rows hrow
      let c : Cell := ⟨row.tenantID, row.requestAt, ⟨row.method, hread.method⟩, row.endpoint⟩
      exact ha ⟨c, (apiRequest_eq_iff hread c).mpr ⟨rfl, rfl, rfl, rfl⟩⟩
    have hcells : a ∉ (readCells rs).map Cell.apiRequest := by
      intro hmem
      obtain ⟨c, _, rfl⟩ := List.mem_map.mp hmem
      exact ha ⟨c, rfl⟩
    rw [List.count_eq_zero.mpr hrows, List.count_eq_zero.mpr hcells]

theorem length_args (rows : List MeterRow) : (bulkInsert rows).args.length = 6 * rows.length := by
  induction rows with
  | nil => rfl
  | cons row rows ih =>
    have hcons : (bulkInsert (row :: rows)).args = row.args ++ (bulkInsert rows).args := rfl
    rw [hcons, List.length_append, ih, List.length_cons]
    have hrow : row.args.length = 6 := rfl
    omega

theorem accepted_rows (h : Healthy (recorded rs).redis) :
    (bulkInsert h.rows).accepted ↔ Accepted rs := by
  have hlen : h.rows.length = (readCells rs).length := by
    simpa using (rows_perm h).length_eq
  have hall : (∀ a ∈ h.rows.map MeterRow.apiRequest, a.accepted = true) ↔
      ∀ c ∈ readCells rs, (uuidIn c.tenantID).isSome ∧ (varchar 500 c.path).isSome ∧
        (varchar 10 c.method.name).isSome := by
    simp only [(rows_perm h).mem_iff, List.forall_mem_map, accepted_apiRequest]
  rw [Statement.accepted, bulkInsert_rows, length_args, hlen, Bool.and_eq_true,
    decide_eq_true_iff, Option.elim_some, List.all_eq_true, hall]
  exact ⟨fun ⟨hp, hc⟩ => ⟨hp, hc⟩, fun ⟨hp, hc⟩ => ⟨hp, hc⟩⟩

/-! ## The result -/

/-- A reply to the only flush. -/
theorem replied_only (err : String) (redis : Redis) (table : List ApiRequest) (flush : Flush)
    (completed : List Completed) (inserted : List MeterRow) :
    MeterState.replied err ⟨redis, table, [flush], completed, inserted⟩ =
      ⟨redis.del (flush.deletes (flush.reply err)),
        table ++ (flush.inserts (flush.reply err)).map MeterRow.apiRequest,
        [flush.next redis (flush.reply err)], completed,
        inserted ++ flush.inserts (flush.reply err)⟩ := step_only _ _ _ _ _ _

/-- What the INSERT of one flush stores. -/
def Healthy.taken {redis : Redis} (h : Healthy redis) : List MeterRow :=
  if (bulkInsert h.rows).accepted then h.rows else []

theorem flushed_eq (h : Healthy (recorded rs).redis) (err : String) :
    (flushed rs h err).apiRequests = h.taken.map MeterRow.apiRequest ∧
      (flushed rs h err).inserted = (recorded rs).inserted ++ h.taken := by
  obtain ⟨flushedKeys, hrows⟩ := run_to_rows h
  have hfirst : ∀ flush : Flush, flush = Flush.nextKey [] h.rows flushedKeys →
      flush.inserts (flush.reply err) = h.taken := by
    rintro flush rfl
    rw [Healthy.taken, Flush.nextKey]
    split
    next hempty =>
      rw [hempty, ite_self]
      rfl
    next =>
      rw [Flush.reply]
      split <;> rfl
  have hsecond : ∀ flush : Flush, flush = (Flush.nextKey [] h.rows flushedKeys).next
      (recorded rs).redis ((Flush.nextKey [] h.rows flushedKeys).reply err) →
      flush.inserts (flush.reply err) = [] := by
    rintro flush rfl
    rw [Flush.nextKey]
    split
    next => rfl
    next =>
      rw [Flush.reply]
      split
      next =>
        rw [Flush.next]
        split <;> rfl
      next => rfl
  rw [flushed, hrows, replied_only, replied_only]
  dsimp only
  rw [hfirst _ rfl, hsecond _ rfl, (recorded_quiet rs).2, List.map_nil, List.append_nil,
    List.append_nil, List.nil_append]
  exact ⟨rfl, rfl⟩

theorem recorded_inserted (rs : List Completed) : (recorded rs).inserted = [] := by
  induction rs using List.reverseRecOn with
  | nil => rfl
  | append_singleton rs r ih =>
    rw [recorded_append]
    exact ih

/-- The flush has written the counts of the cells it reads if its statement was accepted, and
    nothing if not. -/
theorem written_iff (h : Healthy (recorded rs).redis) (err : String) {c : Cell}
    (hc : c ∈ readCells rs) :
    Written (flushed rs h err) c (stored (recorded rs).redis c) ↔ Accepted rs := by
  obtain ⟨htable, hinserted⟩ := flushed_eq h err
  rw [recorded_inserted, List.nil_append] at hinserted
  constructor
  · rintro ⟨hrow, _⟩
    rw [← accepted_rows h]
    by_contra hrefused
    rw [htable, Healthy.taken, if_neg hrefused] at hrow
    exact absurd hrow List.not_mem_nil
  · intro hacc
    have htaken : h.taken = h.rows := if_pos ((accepted_rows h).mpr hacc)
    rw [htaken] at htable hinserted
    refine ⟨?_, ?_⟩
    · rw [htable, (rows_perm h).mem_iff]
      exact List.mem_map_of_mem hc
    · rw [hinserted, total, weigh_readable, if_pos (mem_readCells.mp hc)]
      rfl

/-- The counts under UUID tenants are written if and only if there are none, or the table takes
    every row that the flusher reads. -/
theorem good_written_iff (rs : List Completed) (h : Healthy (recorded rs).redis) (err : String) :
    GoodWritten rs h err ↔ (∀ r ∈ rs, ¬ (uuidIn r.tenantID).isSome) ∨ Accepted rs := by
  constructor
  · intro hgood
    by_cases hsome : ∃ r ∈ rs, (uuidIn r.tenantID).isSome
    · obtain ⟨r, hr, hu⟩ := hsome
      have hstored : stored (recorded rs).redis r.cell ≠ 0 := stored_recorded.mpr ⟨r, hr, rfl⟩
      have hread : r.cell ∈ readCells rs := mem_readCells.mpr ⟨colon_of_uuidIn hu, hstored⟩
      exact Or.inr ((written_iff h err hread).mp (hgood r.cell hu hstored))
    · exact Or.inl fun r hr hu => hsome ⟨r, hr, hu⟩
  · rintro (hnone | hacc)
    · intro c hu hstored
      obtain ⟨r, hr, rfl⟩ := stored_recorded.mp hstored
      exact absurd hu (hnone r hr)
    · intro c hu hstored
      exact (written_iff h err (mem_readCells.mpr ⟨colon_of_uuidIn hu, hstored⟩)).mpr hacc

namespace Sample

/-- A request without `X-Tenant-ID`. -/
def login : Completed := { users with header := Header.empty, fullPath := "/api/v1/auth/login" }

end Sample

open Sample

theorem anonymous_blocks : ¬ GoodWritten [login, billed] (.plain _) "" := by
  intro hgood
  have hrow := (hgood billed.cell (by decide +kernel) (by decide +kernel)).row
  have hempty : (flushed [login, billed] (.plain _) "").apiRequests = [] := by decide +kernel
  rw [hempty] at hrow
  exact absurd hrow List.not_mem_nil

end SaasChassis.Metering
