/-
  Do the rows in `gateway.api_requests` tell how many requests there were?

  Keys and fields are read back as they were written (`readBack`), and the flusher hands the count
  of every endpoint to `bulkInsert` (`total_rows`). The statement has no column for it: one flush
  of the requests `rs` writes one row for each cell that occurs in `rs`, whatever its count
  (`written_perm_iff`). So the rows tell the counts only if nothing was recorded
  (`rows_represent_iff`); `same_rows` is one request against two.
-/
import SaasChassis.Metering.Totals

namespace SaasChassis.Metering

open SaasChassis.Lib
open SaasChassis.Gateway (Header)

/-! ## Statement -/

/-- A UUID as PostgreSQL and the identity service write it. -/
def isUuid (s : String) : Bool :=
  s.toList.length = 36 && s.toList.zipIdx.all fun (c, i) =>
    if i ∈ [8, 13, 18, 23] then c = '-' else c.isDigit || 'a' ≤ c && c ≤ 'f'

/-- The requests, recorded by the middleware with no flush in between. -/
def recorded (rs : List Completed) : MeterState := run MeterState.step .start (rs.map .request)

/-- What a healthy Redis answers to a flush: SCAN returns every key once, in any batches, and the
    fields of a key come in any order. -/
structure Healthy (redis : Redis) where
  batches : List (List String)
  last : List String
  scan_perm : (batches.flatten ++ last).Perm redis.keys
  order : String → MapOrder

namespace Healthy

variable {redis : Redis}

def keys (h : Healthy redis) : List String := h.batches.flatten ++ h.last

/-- The answers to SCAN: the cursor is zero with the last batch only. -/
def scans (last : List String) : List (List String) → List Answer
  | [] => [.scanned last 0]
  | batch :: batches => .scanned batch 1 :: scans last batches

/-- All the answers that a flush gets, those to its INSERT and its DEL included. -/
def answers (h : Healthy redis) : List Answer :=
  scans h.last h.batches ++ (h.keys.map fun key => .fields (h.order key)) ++ [.ok, .ok]

end Healthy

/-- The rows that one flush of the recorded requests writes, with nothing else going on. -/
def written (rs : List Completed) (h : Healthy (recorded rs).redis) : List ApiRequest :=
  (run MeterState.step (recorded rs) (.tick :: h.answers.map (.answer 0))).apiRequests

/-- The flusher reads back what the middleware wrote. -/
structure Completed.ReadBack (r : Completed) : Prop where
  key : parseMeterKey (meterKey r.tenantID r.today) = some (r.tenantID, r.today)
  field : parseEndpoint (endpointField r.method.name r.fullPath) = some (r.method.name, r.fullPath)

/-- Keys and fields are read back, and requests with other counts write other rows. -/
structure RowsRepresent (rs : List Completed) : Prop where
  readBack : ∀ r ∈ rs, r.ReadBack
  counts : ∀ rs', (∀ r ∈ rs', isUuid r.tenantID) → ∀ h h', (written rs h).Perm (written rs' h') →
    ∀ c : Cell, (rs.countP fun r => r.cell = c) = rs'.countP fun r => r.cell = c

/-! ## The recorded state -/

theorem isUuid_colon {s : String} (h : isUuid s) : ':' ∉ s.toList := by
  intro hmem
  obtain ⟨i, hi⟩ := List.mem_iff_getElem?.mp hmem
  rw [isUuid, Bool.and_eq_true] at h
  have hc := List.all_eq_true.mp h.2 (':', i) (List.mem_zipIdx_iff_getElem?.mpr hi)
  dsimp only at hc
  split at hc <;> exact nomatch hc

theorem Completed.readBack {r : Completed} (hu : isUuid r.tenantID) : r.ReadBack where
  key := parseMeterKey_meterKey (isUuid_colon hu) r.today
  field := parseEndpoint_eq_some_iff.mpr ⟨rfl, r.method.colon_notMem⟩

theorem recorded_append (rs : List Completed) (r : Completed) :
    recorded (rs ++ [r]) = (recorded rs).step (.request r) := by
  rw [recorded, List.map_append, run_append]
  rfl

theorem recorded_quiet (rs : List Completed) :
    (recorded rs).flushes = [] ∧ (recorded rs).apiRequests = [] := by
  induction rs using List.reverseRecOn with
  | nil => exact ⟨rfl, rfl⟩
  | append_singleton rs r ih =>
    rw [recorded_append]
    exact ih

theorem recorded_redis (rs : List Completed) (r : Completed) :
    (recorded (rs ++ [r])).redis = meteringMiddleware r (recorded rs).redis := by
  rw [recorded_append]
  rfl

theorem mem_recorded {rs : List Completed} {key : String} (h : key ∈ (recorded rs).redis) :
    ∃ r ∈ rs, key = r.cell.key := by
  induction rs using List.reverseRecOn with
  | nil => exact absurd h (AList.notMem_empty key)
  | append_singleton rs r ih =>
    rw [recorded_redis] at h
    obtain hkey | hkey := mem_meteringMiddleware h
    · exact ⟨r, by simp, hkey⟩
    · obtain ⟨r', hr', he⟩ := ih hkey
      exact ⟨r', List.mem_append_left _ hr', he⟩

theorem stored_recorded {rs : List Completed} {c : Cell} :
    stored (recorded rs).redis c ≠ 0 ↔ ∃ r ∈ rs, r.cell = c := by
  induction rs using List.reverseRecOn with
  | nil => simp [recorded, run, MeterState.start, stored, Redis.count, Redis.hash]
  | append_singleton rs r ih =>
    have hsplit : (∃ r' ∈ rs ++ [r], r'.cell = c) ↔ (∃ r' ∈ rs, r'.cell = c) ∨ c = r.cell := by
      simp [or_and_right, exists_or, eq_comm]
    rw [recorded_redis, stored_meteringMiddleware, hsplit, ← ih]
    by_cases hcell : c = r.cell
    · -- a counter that is full is not zero either
      have hpos : (if c = r.cell ∧ stored (recorded rs).redis c + 1 < 2 ^ 63 then
          stored (recorded rs).redis c + 1 else stored (recorded rs).redis c) ≠ 0 := by
        split
        next => omega
        next hfull =>
          have := not_and.mp hfull hcell
          omega
      exact ⟨fun _ => Or.inr hcell, fun _ => hpos⟩
    · rw [if_neg fun h => hcell h.1]
      simp [hcell]

/-! ## One flush alone -/

section Alone

variable {redis : Redis}

/-- The rows read from one key. -/
def Healthy.keyRows (h : Healthy redis) (key : String) : List MeterRow :=
  (parseMeterKey key).elim [] fun (tenantID, requestAt) =>
    meterRows tenantID requestAt ((h.order key).visit (redis.hgetAll key))

/-- The rows handed to `bulkInsert`. -/
def Healthy.rows (h : Healthy redis) : List MeterRow := h.keys.flatMap h.keyRows

/-- An answer to the only flush. -/
theorem step_only (redis : Redis) (table : List ApiRequest) (flush : Flush)
    (completed : List Completed) (inserted : List MeterRow) (a : Answer) :
    MeterState.step ⟨redis, table, [flush], completed, inserted⟩ (.answer 0 a) =
      ⟨redis.del (flush.deletes a), table ++ (flush.inserts a).map MeterRow.apiRequest,
        [flush.next redis a], completed, inserted ++ flush.inserts a⟩ := by
  rw [MeterState.step_answer (i := 0) rfl, MeterState.answered, bulkInsert_rows]
  rfl

/-- An answer to the only flush that neither inserts nor deletes. -/
theorem step_alone (s : MeterState) {flush : Flush} {a : Answer} (hi : flush.inserts a = [])
    (hd : flush.deletes a = []) :
    MeterState.step { s with flushes := [flush] } (.answer 0 a) =
      { s with flushes := [flush.next s.redis a] } := by
  rw [step_only, hi, hd, List.map_nil, List.append_nil, List.append_nil]
  rfl

theorem run_scans (s : MeterState) (last : List String) (batches : List (List String))
    (keys : List String) :
    run MeterState.step { s with flushes := [.scanning keys] }
        ((Healthy.scans last batches).map (.answer 0)) =
      { s with flushes := [Flush.nextKey
          (keys ++ (batches.flatten ++ last).filter (hasPrefix · "meter:")) [] []] } := by
  induction batches generalizing keys with
  | nil => exact step_alone s rfl rfl
  | cons batch batches ih =>
    have hstep : MeterState.step { s with flushes := [.scanning keys] }
        (.answer 0 (.scanned batch 1)) =
        { s with flushes := [.scanning (keys ++ batch.filter (hasPrefix · "meter:"))] } :=
      step_alone s rfl rfl
    have hcons : run MeterState.step { s with flushes := [.scanning keys] }
        ((Healthy.scans last (batch :: batches)).map (.answer 0)) =
        run MeterState.step (MeterState.step { s with flushes := [.scanning keys] }
          (.answer 0 (.scanned batch 1))) ((Healthy.scans last batches).map (.answer 0)) := rfl
    rw [hcons, hstep, ih, List.append_assoc, ← List.filter_append, ← List.append_assoc batch,
      ← List.flatten_cons]

/-- The answers to HGETALL: a key that does not parse is not read. -/
def Healthy.reads (h : Healthy redis) (keys : List String) : List Answer :=
  (keys.filter fun key => (parseMeterKey key).isSome).map fun key => .fields (h.order key)

theorem run_reads (s : MeterState) (h : Healthy s.redis) (keys : List String)
    (rows : List MeterRow) (flushedKeys : List String) :
    ∃ flushedKeys', run MeterState.step { s with flushes := [Flush.nextKey keys rows flushedKeys] }
        ((h.reads keys).map (.answer 0)) =
      { s with flushes := [Flush.nextKey [] (rows ++ keys.flatMap h.keyRows) flushedKeys'] } := by
  induction keys generalizing rows flushedKeys with
  | nil => exact ⟨flushedKeys, by rw [List.flatMap_nil, List.append_nil]; rfl⟩
  | cons key keys ih =>
    cases hkey : parseMeterKey key with
    | none =>
      have hrows : h.keyRows key = [] := by
        rw [Healthy.keyRows, hkey]
        rfl
      have hreads : h.reads (key :: keys) = h.reads keys := by
        rw [Healthy.reads, List.filter_cons_of_neg (by rw [hkey]; decide)]
        rfl
      have hnext : Flush.nextKey (key :: keys) rows flushedKeys =
          Flush.nextKey keys rows flushedKeys := by
        rw [Flush.nextKey, hkey]
      rw [hreads, hnext, List.flatMap_cons, hrows, List.nil_append]
      exact ih rows flushedKeys
    | some e =>
      obtain ⟨tenantID, requestAt⟩ := e
      have hrows : h.keyRows key =
          meterRows tenantID requestAt ((h.order key).visit (s.redis.hgetAll key)) := by
        rw [Healthy.keyRows, hkey]
        rfl
      have hreads : h.reads (key :: keys) = .fields (h.order key) :: h.reads keys := by
        rw [Healthy.reads, List.filter_cons_of_pos (by rw [hkey]; rfl)]
        rfl
      have hnext : Flush.nextKey (key :: keys) rows flushedKeys =
          .reading key tenantID requestAt keys rows flushedKeys := by
        rw [Flush.nextKey, hkey]
      have hstep : MeterState.step
          { s with flushes := [.reading key tenantID requestAt keys rows flushedKeys] }
          (.answer 0 (.fields (h.order key))) =
          { s with flushes := [Flush.nextKey keys (rows ++ h.keyRows key)
            (if h.keyRows key = [] then flushedKeys else flushedKeys ++ [key])] } := by
        rw [hrows]
        exact step_alone s rfl rfl
      obtain ⟨flushedKeys', hrest⟩ := ih (rows ++ h.keyRows key)
        (if h.keyRows key = [] then flushedKeys else flushedKeys ++ [key])
      refine ⟨flushedKeys', ?_⟩
      rw [hnext, hreads, List.flatMap_cons, ← List.append_assoc, ← hrest, ← hstep]
      rfl

/-- The answers to the INSERT and the DEL: the INSERT is made unless there are no rows. -/
theorem run_ends (s : MeterState) (rows : List MeterRow) (flushedKeys : List String) :
    (run MeterState.step { s with flushes := [Flush.nextKey [] rows flushedKeys] }
      ([.ok, .ok].map (.answer 0))).apiRequests =
        s.apiRequests ++ rows.map MeterRow.apiRequest := by
  have hrows : Flush.inserts (Flush.nextKey [] rows flushedKeys) .ok = rows := by
    rw [Flush.nextKey]
    split
    next hempty => exact hempty.symm
    next => rfl
  have hdone : Flush.inserts (Flush.next s.redis (Flush.nextKey [] rows flushedKeys) .ok) .ok =
      [] := by
    rw [Flush.nextKey]
    split
    next => rfl
    next =>
      dsimp only [Flush.next]
      split <;> rfl
  have htwo : ∀ s : MeterState, run MeterState.step s ([.ok, .ok].map (.answer 0)) =
      (s.step (.answer 0 .ok)).step (.answer 0 .ok) := fun _ => rfl
  rw [htwo, step_only, step_only]
  dsimp only
  rw [hrows, hdone, List.map_nil, List.append_nil]

end Alone

theorem prefix_recorded {rs : List Completed} {key : String}
    (hkey : key ∈ (recorded rs).redis) : hasPrefix key "meter:" := by
  obtain ⟨r, _, rfl⟩ := mem_recorded hkey
  refine hasPrefix_iff.mpr ⟨r.tenantID ++ ":" ++ r.today.format, ?_⟩
  rw [← String.toList_inj]
  simp [Cell.key, meterKey, Completed.cell]

theorem prefix_keys {rs : List Completed} (h : Healthy (recorded rs).redis) {key : String}
    (hkey : key ∈ h.keys) : hasPrefix key "meter:" :=
  prefix_recorded (AList.mem_keys.mpr (h.scan_perm.mem_iff.mp hkey))

theorem parse_keys {rs : List Completed} (hu : ∀ r ∈ rs, isUuid r.tenantID)
    (h : Healthy (recorded rs).redis) {key : String} (hkey : key ∈ h.keys) :
    (parseMeterKey key).isSome := by
  obtain ⟨r, hr, rfl⟩ := mem_recorded (AList.mem_keys.mpr (h.scan_perm.mem_iff.mp hkey))
  have hparse := (Completed.readBack (hu r hr)).key
  rw [Cell.key, Completed.cell, hparse]
  rfl

/-- The flush has read all its keys. -/
theorem run_to_rows {rs : List Completed} (h : Healthy (recorded rs).redis) :
    ∃ flushedKeys, run MeterState.step (recorded rs)
        (.tick :: (Healthy.scans h.last h.batches ++ h.reads h.keys).map (.answer 0)) =
      { recorded rs with flushes := [Flush.nextKey [] h.rows flushedKeys] } := by
  have htick : (recorded rs).step .tick = { recorded rs with flushes := [.scanning []] } := by
    rw [MeterState.step, (recorded_quiet rs).1]
    rfl
  have hfilter : ([] ++ (h.batches.flatten ++ h.last).filter (hasPrefix · "meter:")) = h.keys :=
    List.filter_eq_self.mpr fun key hkey => prefix_keys h hkey
  obtain ⟨flushedKeys, hreads⟩ := run_reads (recorded rs) h h.keys [] []
  refine ⟨flushedKeys, ?_⟩
  have hcons : run MeterState.step (recorded rs)
      (.tick :: (Healthy.scans h.last h.batches ++ h.reads h.keys).map (.answer 0)) =
      run MeterState.step ((recorded rs).step .tick)
        ((Healthy.scans h.last h.batches ++ h.reads h.keys).map (.answer 0)) := rfl
  rw [hcons, htick, List.map_append, run_append, run_scans, hfilter, hreads]
  rfl

theorem written_eq {rs : List Completed} (hu : ∀ r ∈ rs, isUuid r.tenantID)
    (h : Healthy (recorded rs).redis) : written rs h = h.rows.map MeterRow.apiRequest := by
  have hreads : h.keys.map (fun key => Answer.fields (h.order key)) = h.reads h.keys := by
    rw [Healthy.reads, List.filter_eq_self.mpr fun key hkey => parse_keys hu h hkey]
  obtain ⟨flushedKeys, hrows⟩ := run_to_rows h
  rw [written, Healthy.answers, hreads, List.map_append, ← List.cons_append, run_append, hrows,
    run_ends, (recorded_quiet rs).2]
  rfl

/-! ## What the rows tell -/

/-- The row written for a cell. -/
def Cell.apiRequest (c : Cell) : ApiRequest :=
  ⟨c.tenantID, "unknown", c.path, c.method.name, 0, c.date⟩

theorem apiRequest_eq_iff {row : MeterRow} (h : row.Read) (c : Cell) :
    row.apiRequest = c.apiRequest ↔ row.IsFor c := by
  simp only [MeterRow.apiRequest, Cell.apiRequest, ApiRequest.mk.injEq, MeterRow.IsFor, h.plan,
    h.statusCode, true_and]
  tauto

theorem count_apiRequest {rows : List MeterRow} (h : ∀ row ∈ rows, row.Read) (c : Cell) :
    ((rows.map MeterRow.apiRequest).count c.apiRequest : ℤ) = weigh (fun _ => 1) c rows := by
  induction rows with
  | nil => rfl
  | cons row rows ih =>
    rw [List.forall_mem_cons] at h
    have hrest := ih h.2
    rw [weigh] at hrest ⊢
    rw [List.map_cons, List.count_cons, List.map_cons, List.sum_cons, ← hrest]
    simp only [beq_iff_eq, apiRequest_eq_iff h.1]
    split <;> push_cast <;> omega

/-- What the rows of some keys carry: a key with a colon in its tenant is not read. -/
theorem weigh_flatMap {redis : Redis} (h : Healthy redis) (g : ℤ → ℤ) (c : Cell)
    {keys : List String} (hnd : keys.Nodup) (hkeys : ∀ key ∈ keys, hasPrefix key "meter:") :
    weigh g c (keys.flatMap h.keyRows) =
      if (c.key ∈ keys ∧ ':' ∉ c.tenantID.toList) ∧ stored redis c ≠ 0 then g (stored redis c)
      else 0 := by
  induction keys with
  | nil => simp [weigh]
  | cons key keys ih =>
    rw [List.forall_mem_cons] at hkeys
    rw [List.nodup_cons] at hnd
    have hread : weigh g c (h.keyRows key) =
        if (c.key = key ∧ ':' ∉ c.tenantID.toList) ∧ stored redis c ≠ 0 then g (stored redis c)
        else 0 := by
      cases hparse : parseMeterKey key with
      | none =>
        have hnot : ¬ (c.key = key ∧ ':' ∉ c.tenantID.toList) := by
          rintro ⟨rfl, hcolon⟩
          rw [Cell.key, parseMeterKey_meterKey hcolon] at hparse
          cases hparse
        rw [if_neg fun hc => hnot hc.1, Healthy.keyRows, hparse]
        rfl
      | some e =>
        obtain ⟨tenantID, requestAt⟩ := e
        have hcolon : c.key = key → ':' ∉ c.tenantID.toList := by
          rintro rfl
          obtain ⟨hkey, hcolon⟩ := eq_of_parseMeterKey hkeys.1 hparse
          rw [(meterKey_inj.mp hkey).1]
          exact hcolon
        simp only [and_iff_left_of_imp hcolon, Healthy.keyRows, hparse]
        exact weigh_hgetAll g hkeys.1 hparse ((h.order key).visit_perm _) c
    rw [List.flatMap_cons, weigh_append, hread, ih hnd.2 hkeys.2]
    by_cases hkey : c.key = key
    · have hnot : c.key ∉ keys := fun hmem => hnd.1 (hkey ▸ hmem)
      simp [hkey, hkey ▸ hnot]
    · simp [hkey]

theorem read_of_mem_rows {redis : Redis} {h : Healthy redis} {row : MeterRow}
    (hrow : row ∈ h.rows) : row.Read := by
  obtain ⟨key, _, hmem⟩ := List.mem_flatMap.mp hrow
  unfold Healthy.keyRows at hmem
  cases hparse : parseMeterKey key with
  | none =>
    rw [hparse] at hmem
    exact absurd hmem List.not_mem_nil
  | some e =>
    rw [hparse] at hmem
    exact read_of_mem hmem

theorem weigh_readable {rs : List Completed} (h : Healthy (recorded rs).redis) (g : ℤ → ℤ)
    (c : Cell) :
    weigh g c h.rows =
      if ':' ∉ c.tenantID.toList ∧ stored (recorded rs).redis c ≠ 0 then
        g (stored (recorded rs).redis c)
      else 0 := by
  have hnd : h.keys.Nodup := h.scan_perm.nodup_iff.mpr (AList.keys_nodup _)
  have hmem : stored (recorded rs).redis c ≠ 0 → c.key ∈ h.keys := fun hne =>
    h.scan_perm.mem_iff.mpr (AList.mem_keys.mp (Redis.mem_of_count_ne_zero hne))
  rw [Healthy.rows, weigh_flatMap h g c hnd fun key hkey => prefix_keys h hkey]
  by_cases hne : stored (recorded rs).redis c ≠ 0
  · simp only [hmem hne, true_and]
  · rw [if_neg fun hc => hne hc.2, if_neg fun hc => hne hc.2]

theorem weigh_rows {rs : List Completed} (hu : ∀ r ∈ rs, isUuid r.tenantID)
    (h : Healthy (recorded rs).redis) (g : ℤ → ℤ) (c : Cell) :
    weigh g c h.rows =
      if stored (recorded rs).redis c ≠ 0 then g (stored (recorded rs).redis c) else 0 := by
  have hcolon : stored (recorded rs).redis c ≠ 0 → ':' ∉ c.tenantID.toList := by
    intro hne
    obtain ⟨r, hr, rfl⟩ := stored_recorded.mp hne
    exact isUuid_colon (hu r hr)
  simp only [weigh_readable h g c, and_iff_right_of_imp hcolon]

/-- `bulkInsert` is handed the counts. -/
theorem total_rows {rs : List Completed} (hu : ∀ r ∈ rs, isUuid r.tenantID)
    (h : Healthy (recorded rs).redis) (c : Cell) :
    total c h.rows = stored (recorded rs).redis c := by
  rw [total, weigh_rows hu]
  split
  next => rfl
  next hzero =>
    rw [not_not.mp hzero]
    rfl

/-- It writes one row for a cell that occurs in the requests, and none for another. -/
theorem count_written {rs : List Completed} (hu : ∀ r ∈ rs, isUuid r.tenantID)
    (h : Healthy (recorded rs).redis) (c : Cell) :
    ((written rs h).count c.apiRequest : ℤ) = if ∃ r ∈ rs, r.cell = c then 1 else 0 := by
  rw [written_eq hu, count_apiRequest fun _ hrow => read_of_mem_rows hrow, weigh_rows hu]
  simp only [stored_recorded]

theorem mem_written {rs : List Completed} (hu : ∀ r ∈ rs, isUuid r.tenantID)
    {h : Healthy (recorded rs).redis} {a : ApiRequest} (ha : a ∈ written rs h) :
    ∃ c : Cell, a = c.apiRequest := by
  rw [written_eq hu] at ha
  obtain ⟨row, hrow, rfl⟩ := List.mem_map.mp ha
  have hread := read_of_mem_rows hrow
  let c : Cell := ⟨row.tenantID, row.requestAt, ⟨row.method, hread.method⟩, row.endpoint⟩
  exact ⟨c, (apiRequest_eq_iff hread c).mpr ⟨rfl, rfl, rfl, rfl⟩⟩

/-- Two flushes write the same rows if and only if the same cells occur in their requests. -/
theorem written_perm_iff {rs rs' : List Completed} (hu : ∀ r ∈ rs, isUuid r.tenantID)
    (hu' : ∀ r ∈ rs', isUuid r.tenantID) (h : Healthy (recorded rs).redis)
    (h' : Healthy (recorded rs').redis) :
    (written rs h).Perm (written rs' h') ↔
      ∀ c, (∃ r ∈ rs, r.cell = c) ↔ ∃ r ∈ rs', r.cell = c := by
  rw [List.perm_iff_count]
  constructor
  · intro hperm c
    have hc := count_written hu h c
    rw [hperm, count_written hu' h' c] at hc
    by_cases hmem : ∃ r ∈ rs, r.cell = c <;> by_cases hmem' : ∃ r ∈ rs', r.cell = c
    all_goals simp [hmem, hmem'] at hc ⊢
  · intro hcells a
    by_cases ha : ∃ c : Cell, a = c.apiRequest
    · obtain ⟨c, rfl⟩ := ha
      have hc := count_written hu h c
      simp only [hcells c] at hc
      rw [← count_written hu' h' c] at hc
      exact_mod_cast hc
    · rw [List.count_eq_zero.mpr fun hmem => ha (mem_written hu hmem),
        List.count_eq_zero.mpr fun hmem => ha (mem_written hu' hmem)]

/-! ## The result -/

/-- A Redis that returns its keys in one batch and its fields as they are. -/
def Healthy.plain (redis : Redis) : Healthy redis where
  batches := []
  last := redis.keys
  scan_perm := .refl _
  order := fun _ => .sent

/-- Keys and fields are always read back. The counts are not, once there are any. -/
theorem rows_represent_iff (rs : List Completed) (hu : ∀ r ∈ rs, isUuid r.tenantID) :
    (∀ r ∈ rs, r.ReadBack) ∧ (RowsRepresent rs ↔ rs = []) := by
  refine ⟨fun r hr => Completed.readBack (hu r hr), ?_⟩
  constructor
  · intro h
    by_contra hne
    obtain ⟨r, rest, rfl⟩ := List.exists_cons_of_ne_nil hne
    -- one more request of a cell that is there already
    have hu' : ∀ r' ∈ r :: r :: rest, isUuid r'.tenantID := by
      rw [List.forall_mem_cons]
      exact ⟨hu r List.mem_cons_self, hu⟩
    have hsame : (written (r :: rest) (.plain _)).Perm (written (r :: r :: rest) (.plain _)) := by
      rw [written_perm_iff hu hu']
      intro c
      simp
    have hcount := h.counts (r :: r :: rest) hu' _ _ hsame r.cell
    rw [List.countP_cons_of_pos (l := r :: rest) (by simp)] at hcount
    omega
  · rintro rfl
    refine ⟨fun _ hr => absurd hr List.not_mem_nil, ?_⟩
    intro rs' hu' h h' hperm c
    have hnone := ((written_perm_iff hu hu' h h').mp hperm c).not.mp
      (by rintro ⟨r, hr, _⟩; exact absurd hr List.not_mem_nil)
    rw [List.countP_nil, eq_comm, List.countP_eq_zero]
    intro r hr hc
    exact hnone ⟨r, hr, of_decide_eq_true hc⟩

namespace Sample

def billed : Completed :=
  { users with header := Header.empty.set "X-Tenant-ID" "8c5b9c1e-3f0a-4d52-9c6e-0d1f5a7b2e44" }

end Sample

open Sample

theorem rows_represent_iff_sample :
    (∀ r ∈ [billed], r.ReadBack) ∧ (RowsRepresent [billed] ↔ [billed] = []) :=
  rows_represent_iff [billed] (by decide +kernel)

theorem same_rows :
    written [billed] (.plain _) = written [billed, billed] (.plain _) ∧
      ¬ RowsRepresent [billed] := by
  have hsame : written [billed] (.plain _) = written [billed, billed] (.plain _) := by
    decide +kernel
  refine ⟨hsame, fun h => ?_⟩
  have hcount := h.counts [billed, billed] (by decide +kernel) (.plain _) (.plain _)
    (hsame ▸ .refl _) billed.cell
  revert hcount
  decide +kernel

end SaasChassis.Metering
