/-
  One entry of the audit log (`FindByID`, `GetEntry`), and what a caller can rely on in the log.

  `GetEntry` leaves the choice of rows to row-level security, where `ListEntries` names the tenant
  in its own condition. `audit_trail` follows entries from the exchange to the reader, over any run
  of the consumer: what a caller is shown was published, under its own tenant unless it is a
  platform admin; a list without filters counts and pages the very rows that `GetEntry` shows; an
  entry of another tenant is answered like one that does not exist; and what was shown once is shown
  again, unchanged, however the log grows.
-/
import SaasChassis.Audit.Pages
import SaasChassis.Audit.Poison
import SaasChassis.Audit.Settlement

namespace SaasChassis.Audit

open SaasChassis.Lib SaasChassis.Lib.Postgres

/-! ## GetEntry -/

inductive FindError where
  | setTenantID | setPlatformAdmin | query | noRows
  deriving DecidableEq, Repr

def findByID (lib : QueryLibraries) (rows : List StoredEntry) (tc : TenantContext) (id : String) :
    Except FindError StoredEntry :=
  if !lib.setLocal tc.tenantID then .error .setTenantID
  else if !lib.setLocal (if tc.isPlatformAdmin then "true" else "false") then
    .error .setPlatformAdmin
  else
    match uuidIn id with
    -- `$1::uuid`
    | none => .error .query
    | some u =>
      match (visibleRows tc rows).find? (·.id = u) with
      | none => .error .noRows
      | some row => .ok row

inductive EntryResponse where
  | found (data : StoredEntry)
  | refused (status : ℕ) (error : String)

def getEntry (lib : QueryLibraries) (rows : List StoredEntry) (req : ListRequest) (id : String) :
    EntryResponse :=
  match extractCaller req with
  | none => .refused 401 "unauthorized"
  | some caller =>
    if lib.uuidParse id = false then .refused 400 "invalid id format"
    else
      match findByID lib rows ⟨caller.tenantID, caller.isPlatformAdmin⟩ id with
      | .error .noRows => .refused 404 "not found"
      | .error _ => .refused 500 "internal error"
      | .ok row => .found row

/-- A request for an entry that gets as far as the rows. -/
structure EntryServed (lib : QueryLibraries) (req : ListRequest) (id : String) : Prop where
  caller : (extractCaller req).isSome
  parsed : lib.uuidParse id
  setTenantID : lib.setLocal req.context.tenantID
  setPlatformAdmin : lib.setLocal (if req.context.isPlatformAdmin then "true" else "false")
  read : (uuidIn id).isSome

section Reading

variable {lib : QueryLibraries} {rows : List StoredEntry} {req : ListRequest} {id : String}

theorem findByID_of_set {tc : TenantContext} (htenant : lib.setLocal tc.tenantID)
    (hplatform : lib.setLocal (if tc.isPlatformAdmin then "true" else "false")) :
    findByID lib rows tc id =
      match uuidIn id with
      | none => .error .query
      | some u =>
        match (visibleRows tc rows).find? (·.id = u) with
        | none => .error .noRows
        | some row => .ok row := by
  unfold findByID
  rw [if_neg (by simp [htenant]), if_neg (by simp [hplatform])]

/-- A request that gets as far as the rows is answered with the row of its id, or 404. -/
theorem getEntry_of_served (rows : List StoredEntry) (h : EntryServed lib req id) :
    ∃ u, uuidIn id = some u ∧ getEntry lib rows req id =
      match (visibleRows req.context rows).find? (·.id = u) with
      | none => .refused 404 "not found"
      | some row => .found row := by
  obtain ⟨caller, hcaller⟩ := Option.isSome_iff_exists.mp h.caller
  obtain ⟨u, hu⟩ := Option.isSome_iff_exists.mp h.read
  refine ⟨u, hu, ?_⟩
  unfold getEntry
  rw [hcaller]
  dsimp only
  rw [context_of_extractCaller hcaller, if_neg (by simp [h.parsed]),
    findByID_of_set h.setTenantID h.setPlatformAdmin, hu]
  dsimp only
  cases (visibleRows req.context rows).find? (·.id = u) with
  | none => rfl
  | some row => rfl

/-- Whoever is shown a row got as far as the rows. -/
theorem served_of_found {row : StoredEntry} (h : getEntry lib rows req id = .found row) :
    EntryServed lib req id := by
  unfold getEntry at h
  cases hcaller : extractCaller req with
  | none =>
    rw [hcaller] at h
    cases h
  | some caller =>
    rw [hcaller] at h
    dsimp only at h
    rw [context_of_extractCaller hcaller] at h
    unfold findByID at h
    by_cases hparse : lib.uuidParse id = false
    · rw [if_pos hparse] at h
      cases h
    rw [if_neg hparse] at h
    by_cases htenant : lib.setLocal req.context.tenantID
    swap
    · simp only [htenant] at h
      cases h
    by_cases hplatform : lib.setLocal (if req.context.isPlatformAdmin then "true" else "false")
    swap
    · simp only [htenant, hplatform] at h
      cases h
    cases hread : uuidIn id with
    | none =>
      simp only [htenant, hplatform, hread] at h
      cases h
    | some u =>
      exact ⟨by rw [hcaller]; rfl, by simpa using hparse, htenant, hplatform, by rw [hread]; rfl⟩

theorem getEntry_found_iff (hids : (rows.map (·.id)).Nodup) {row : StoredEntry} :
    getEntry lib rows req id = .found row ↔
      EntryServed lib req id ∧ row ∈ visibleRows req.context rows ∧ uuidIn id = some row.id := by
  have hvisible : ((visibleRows req.context rows).map (·.id)).Nodup :=
    hids.sublist (List.filter_sublist.map _)
  constructor
  · intro h
    have hserved := served_of_found h
    obtain ⟨u, hu, hanswer⟩ := getEntry_of_served rows hserved
    rw [hanswer] at h
    cases hfind : (visibleRows req.context rows).find? (·.id = u) with
    | none =>
      rw [hfind] at h
      cases h
    | some row' =>
      rw [hfind] at h
      cases h
      have hid : row.id = u := by simpa using List.find?_some hfind
      exact ⟨hserved, List.mem_of_find?_eq_some hfind, by rw [hu, hid]⟩
  · rintro ⟨hserved, hmem, hid⟩
    obtain ⟨u, hu, hanswer⟩ := getEntry_of_served rows hserved
    obtain rfl : row.id = u := Option.some.inj (hid.symm.trans hu)
    rw [hanswer, find?_key hvisible hmem]

end Reading

/-! ## The table of the consumer -/

theorem exists_of_mapM {lib : Libraries} {events : List AuditEvent} {entries : List Entry}
    (h : events.mapM (Entry.ofEvent lib) = some entries) {entry : Entry} (he : entry ∈ entries) :
    ∃ e ∈ events, Entry.ofEvent lib e = some entry := by
  induction events generalizing entries with
  | nil =>
    cases h
    cases he
  | cons e' es ih =>
    rw [List.mapM_cons] at h
    obtain ⟨entry', hentry, h⟩ := Option.bind_eq_some_iff.mp h
    obtain ⟨rest, hrest, h⟩ := Option.bind_eq_some_iff.mp h
    cases h
    rcases List.mem_cons.mp he with rfl | he
    · exact ⟨e', List.mem_cons_self, hentry⟩
    · obtain ⟨e, hmem, hrow⟩ := ih hrest he
      exact ⟨e, List.mem_cons_of_mem _ hmem, hrow⟩

namespace ConsumerState

variable {lib : Libraries} {s : ConsumerState}

theorem batchInsert_prefix (lib : Libraries) (table : List Entry) (events : List AuditEvent) :
    table <+: (batchInsert lib table events).toOption.getD table := by
  cases h : batchInsert lib table events with
  | error e => exact List.prefix_refl table
  | ok table' =>
    obtain ⟨entries, -, rfl⟩ := batchInsert_ok_iff.mp h
    exact List.prefix_append table entries

/-- The rows of a batch are rows of its events. -/
theorem mem_batchInsert {table : List Entry} {events : List AuditEvent} {entry : Entry}
    (h : entry ∈ (batchInsert lib table events).toOption.getD table) :
    entry ∈ table ∨ ∃ e ∈ events, Entry.ofEvent lib e = some entry := by
  cases hbatch : batchInsert lib table events with
  | error e =>
    rw [hbatch] at h
    exact Or.inl h
  | ok table' =>
    rw [hbatch] at h
    obtain ⟨entries, hentries, rfl⟩ := batchInsert_ok_iff.mp hbatch
    rcases List.mem_append.mp h with h | h
    · exact Or.inl h
    · obtain ⟨e, he, hrow⟩ := exists_of_mapM hentries h
      exact Or.inr ⟨e, List.mem_of_mem_filter he, hrow⟩

theorem flush_table (s : ConsumerState) :
    (s.flush lib).table = (batchInsert lib s.table s.batch).toOption.getD s.table := by
  unfold flush
  split
  next hb =>
    rw [hb]
    rfl
  next =>
    cases batchInsert lib s.table s.batch with
    | error e => rfl
    | ok table => rfl

theorem flushClosed_table (s : ConsumerState) :
    (s.flushClosed lib).table = (batchInsert lib s.table s.batch).toOption.getD s.table := by
  unfold flushClosed
  split
  next hb =>
    rw [hb]
    rfl
  next => rfl

theorem received_table (s : ConsumerState) (i : ℕ) : (s.received i).table = s.table := by
  unfold received
  split
  next => rfl
  next =>
    split
    next => rfl
    next => rfl

/-- A step leaves the table, or inserts the batch of the state it flushes. -/
theorem step_table (lib : Libraries) (s : ConsumerState) (i : ConsumerInput) :
    (s.step lib i).table = s.table ∨ ∃ t, s.flushing i = some t ∧ t.table = s.table ∧
      (s.step lib i).table = (batchInsert lib s.table t.batch).toOption.getD s.table := by
  cases i with
  | publish m => exact Or.inl rfl
  | deliver i =>
    by_cases hfull : 100 ≤ (s.received i).batch.length
    · refine Or.inr ⟨s.received i, if_pos hfull, received_table s i, ?_⟩
      simp only [step, if_pos hfull, flush_table, received_table]
    · simp only [step, if_neg hfull, received_table, true_or]
  | tick => exact Or.inr ⟨s, rfl, rfl, flush_table s⟩
  | closed => exact Or.inr ⟨s, rfl, rfl, flushClosed_table s⟩

theorem received_published (s : ConsumerState) (i : ℕ) :
    (s.received i).published = s.published := by
  unfold received
  split
  next => rfl
  next =>
    split
    next => rfl
    next => rfl

theorem flush_published (s : ConsumerState) : (s.flush lib).published = s.published := by
  unfold flush
  split
  next => rfl
  next =>
    split
    next => rfl
    next => rfl

theorem step_published (s : ConsumerState) (i : ConsumerInput) :
    s.published ⊆ (s.step lib i).published := by
  cases i with
  | publish m => exact List.subset_append_left _ _
  | deliver i =>
    rw [step]
    split
    next => rw [flush_published, received_published]; exact List.Subset.refl _
    next => rw [received_published]; exact List.Subset.refl _
  | tick => rw [step, flush_published]; exact List.Subset.refl _
  | closed =>
    rw [step, flushClosed]
    split
    next => exact List.Subset.refl _
    next => exact List.Subset.refl _

theorem flushing_aligned (h : s.Aligned) {i : ConsumerInput} {t : ConsumerState}
    (ht : s.flushing i = some t) : t.Aligned ∧ t.published = s.published := by
  cases i with
  | publish m => cases ht
  | deliver i =>
    by_cases hfull : 100 ≤ (s.received i).batch.length
    · rw [flushing, if_pos hfull] at ht
      cases ht
      exact ⟨received_aligned h i, received_published s i⟩
    · rw [flushing, if_neg hfull] at ht
      cases ht
  | tick =>
    cases ht
    exact ⟨h, rfl⟩
  | closed =>
    cases ht
    exact ⟨h, rfl⟩

/-- The events of the batch are published events. -/
theorem Aligned.event_published (h : s.Aligned) {e : AuditEvent} (he : e ∈ s.batch) :
    ∃ m ∈ s.published, m.event = some e := by
  have hmem : some e ∈ s.pending.map Message.event := by
    rw [h.batch]
    exact List.mem_map_of_mem he
  obtain ⟨m, hm, hevent⟩ := List.mem_map.mp hmem
  refine ⟨m, h.published.mem_iff.mpr ?_, hevent⟩
  simp [hm]

/-- Every row of the table is the row of a published message. -/
def Traced (lib : Libraries) (s : ConsumerState) : Prop :=
  ∀ entry ∈ s.table, ∃ m ∈ s.published, m.row lib = some entry

theorem step_traced (h : s.Aligned) (hs : Traced lib s) (i : ConsumerInput) :
    Traced lib (s.step lib i) := by
  intro entry hentry
  have hold : entry ∈ s.table → ∃ m ∈ (s.step lib i).published, m.row lib = some entry := by
    intro hmem
    obtain ⟨m, hm, hrow⟩ := hs entry hmem
    exact ⟨m, step_published s i hm, hrow⟩
  rcases step_table lib s i with htable | ⟨t, ht, -, htable⟩
  · exact hold (htable ▸ hentry)
  · rw [htable] at hentry
    rcases mem_batchInsert hentry with hmem | ⟨e, he, hrow⟩
    · exact hold hmem
    · obtain ⟨halign, hpub⟩ := flushing_aligned h ht
      obtain ⟨m, hm, hevent⟩ := halign.event_published he
      exact ⟨m, step_published s i (hpub ▸ hm), by rw [Message.row, hevent]; exact hrow⟩

theorem run_traced (lib : Libraries) (is : List ConsumerInput) :
    Traced lib (run (step lib) start is) := by
  refine (run_invariant (I := fun s => s.Aligned ∧ Traced lib s) ?_ ?_ is).2
  · exact fun s i h => ⟨step_aligned h.1 i, step_traced h.1 h.2 i⟩
  · exact ⟨start_aligned, fun _ h => absurd h List.not_mem_nil⟩

theorem run_table_grows (lib : Libraries) (s : ConsumerState) (is : List ConsumerInput) :
    s.table <+: (run (step lib) s is).table := by
  induction is generalizing s with
  | nil => exact List.prefix_refl _
  | cons i is ih =>
    refine List.IsPrefix.trans ?_ (ih (s.step lib i))
    rcases step_table lib s i with htable | ⟨t, -, -, htable⟩
    · exact htable ▸ List.prefix_refl _
    · rw [htable]
      exact batchInsert_prefix lib s.table t.batch

end ConsumerState

/-! ## The trail -/

/-- The rows as they are stored: `stamp k` is the id and the time that the `k`-th row gets. -/
def stored (stamp : ℕ → Uuid × ℤ) (table : List Entry) : List StoredEntry :=
  table.zipIdx.map fun e => ⟨(stamp e.2).1, e.1, (stamp e.2).2⟩

theorem stored_prefix {stamp : ℕ → Uuid × ℤ} {table table' : List Entry} (h : table <+: table') :
    stored stamp table <+: stored stamp table' := by
  obtain ⟨new, rfl⟩ := h
  unfold stored
  rw [List.zipIdx_append, List.map_append]
  exact List.prefix_append _ _

theorem mem_of_stored {stamp : ℕ → Uuid × ℤ} {table : List Entry} {row : StoredEntry}
    (h : row ∈ stored stamp table) : row.entry ∈ table := by
  obtain ⟨e, he, rfl⟩ := List.mem_map.mp h
  exact List.fst_mem_of_mem_zipIdx he

/-- The request with nothing but its page and page size in the query. -/
def ListRequest.unfiltered (req : ListRequest) : ListRequest :=
  { req with
    query := fun key => if key = "page" ∨ key = "pageSize" then req.query key else "" }

/-- What the caller of `req` can rely on between the log `rows` and a later one. -/
structure AuditTrail (lib : Libraries) (qlib : QueryLibraries) (published : List Message)
    (rows later : List StoredEntry) (req : ListRequest) : Prop where
  /-- A row that is shown was published. Only a platform admin sees other tenants' events. -/
  published : ∀ id row, getEntry qlib rows req id = .found row →
    ∃ m ∈ published, m.row lib = some row.entry ∧
      (req.context.isPlatformAdmin = true ∨
        uuidIn req.context.tenantID = some row.entry.tenantId)
  /-- A list without filters counts the rows of the log that `GetEntry` shows, and is the page asked
      for of a listing of them by descending time. -/
  agree : ∀ scan data total page size,
    listEntries qlib scan rows req.unfiltered = .listed data total page size →
      ∃ shown listing : List StoredEntry, shown.Sublist rows ∧
        (∀ row ∈ rows, row ∈ shown ↔ getEntry qlib rows req row.id.format = .found row) ∧
        total = shown.length ∧ Listing (·.createdAt) shown listing ∧
        data = (listing.drop (filterOf qlib req).offset.toNat).take
          (filterOf qlib req).clampedPageSize.toNat
  /-- An id of another tenant's row is answered like an id of no row. -/
  hidden : ∀ row ∈ rows, req.context.isPlatformAdmin = false →
    uuidIn req.context.tenantID ≠ some row.entry.tenantId →
      getEntry qlib rows req row.id.format = getEntry qlib [] req row.id.format
  /-- Nothing that was shown changes or goes away. -/
  kept : ∀ id row, getEntry qlib rows req id = .found row → getEntry qlib later req id = .found row
  grows : ∀ scan scan' data data' total total' page page' size size',
    listEntries qlib scan rows req = .listed data total page size →
      listEntries qlib scan' later req = .listed data' total' page' size' → total ≤ total'

section Trail

variable {lib : Libraries} {qlib : QueryLibraries} {rows later : List StoredEntry}
  {req : ListRequest}

theorem mem_visibleRows {tc : TenantContext} {row : StoredEntry} :
    row ∈ visibleRows tc rows ↔ row ∈ rows ∧
      (tc.isPlatformAdmin = true ∨ uuidIn tc.tenantID = some row.entry.tenantId) := by
  have hempty : uuidIn "" = none := rfl
  rw [visibleRows, List.mem_filter, Bool.or_eq_true, decide_eq_true_eq, or_comm]
  refine and_congr_right fun _ => or_congr_right ?_
  unfold currentTenantID
  by_cases h : tc.tenantID = ""
  · rw [if_pos h, h, hempty]
  · rw [if_neg h]

theorem filterOf_unfiltered (qlib : QueryLibraries) (req : ListRequest) :
    filterOf qlib req.unfiltered =
      { filterOf qlib req with
        tenantID := "", userID := "", action := "", resourceType := "", fromTime := none,
        toTime := none } := by
  simp [filterOf, parseTimeQuery, parseIntQuery, ListRequest.unfiltered]

/-- Without filters all visible rows match. -/
theorem matching_unfiltered (req : ListRequest) :
    matching req.unfiltered.context (filterOf qlib req.unfiltered) rows =
      visibleRows req.context rows := by
  rw [← matching_visibleRows, matching, filterOf_unfiltered]
  refine List.filter_eq_self.mpr fun row hrow => decide_eq_true fun c _ => ?_
  obtain ⟨-, hsees⟩ := mem_visibleRows.mp hrow
  cases c with
  | tenantId =>
    show if req.unfiltered.context.isPlatformAdmin then _ else _
    rcases hsees with hadmin | htenant
    · rw [if_pos hadmin]
      exact Or.inl rfl
    · split
      · exact Or.inl rfl
      · exact htenant
  | userId => exact Or.inl rfl
  | action => exact Or.inl rfl
  | resourceType => exact Or.inl rfl
  | createdFrom => exact fun t ht => absurd ht (Option.not_mem_none t)
  | createdTo => exact fun t ht => absurd ht (Option.not_mem_none t)

theorem pageOf_unfiltered (scan : Scan) (req : ListRequest) :
    pageOf scan req.unfiltered.context (filterOf qlib req.unfiltered) rows =
      ((listed (·.createdAt) (scan.order (visibleRows req.context rows))).drop
        (filterOf qlib req).offset.toNat).take (filterOf qlib req).clampedPageSize.toNat := by
  rw [pageOf, matching_unfiltered, filterOf_unfiltered]
  rfl

theorem found_published (hids : (rows.map (·.id)).Nodup) {published : List Message}
    (htraced : ∀ row ∈ rows, ∃ m ∈ published, m.row lib = some row.entry) {id : String}
    {row : StoredEntry} (h : getEntry qlib rows req id = .found row) :
    ∃ m ∈ published, m.row lib = some row.entry ∧
      (req.context.isPlatformAdmin = true ∨
        uuidIn req.context.tenantID = some row.entry.tenantId) := by
  obtain ⟨-, hvisible, -⟩ := (getEntry_found_iff hids).mp h
  obtain ⟨hmem, hsees⟩ := mem_visibleRows.mp hvisible
  obtain ⟨m, hm, hrow⟩ := htraced row hmem
  exact ⟨m, hm, hrow, hsees⟩

/-- The handlers of the list and of one entry mean the same rows. -/
theorem list_agrees (hids : (rows.map (·.id)).Nodup)
    (hparse : ∀ u : Uuid, qlib.uuidParse u.format) {scan : Scan} {data : List StoredEntry}
    {total : ℕ} {page size : ℤ}
    (h : listEntries qlib scan rows req.unfiltered = .listed data total page size) :
    ∃ shown listing : List StoredEntry, shown.Sublist rows ∧
      (∀ row ∈ rows, row ∈ shown ↔ getEntry qlib rows req row.id.format = .found row) ∧
      total = shown.length ∧ Listing (·.createdAt) shown listing ∧
      data = (listing.drop (filterOf qlib req).offset.toNat).take
        (filterOf qlib req).clampedPageSize.toNat := by
  obtain ⟨hserved, -, hdata, htotal, -, -⟩ := listEntries_listed_iff.mp h
  rw [matching_unfiltered] at htotal
  rw [pageOf_unfiltered] at hdata
  refine ⟨visibleRows req.context rows, _, List.filter_sublist, fun row hrow => ?_, htotal,
    listing_listed StoredEntry.createdAt (scan.perm (visibleRows req.context rows)), hdata⟩
  rw [getEntry_found_iff hids]
  have haccepted : EntryServed qlib req row.id.format :=
    ⟨hserved.caller, hparse row.id, hserved.accepted.setTenantID,
      hserved.accepted.setPlatformAdmin, by rw [uuidIn_format]; rfl⟩
  exact ⟨fun hv => ⟨haccepted, hv, uuidIn_format row.id⟩, fun hv => hv.2.1⟩

/-- An answer depends on the row of the id alone. -/
theorem getEntry_congr {rows' : List StoredEntry} {id : String}
    (h : ∀ u, uuidIn id = some u → (visibleRows req.context rows).find? (·.id = u) =
      (visibleRows req.context rows').find? (·.id = u)) :
    getEntry qlib rows req id = getEntry qlib rows' req id := by
  unfold getEntry
  cases hcaller : extractCaller req with
  | none => rfl
  | some caller =>
    dsimp only
    rw [context_of_extractCaller hcaller]
    have hfind : findByID qlib rows req.context id = findByID qlib rows' req.context id := by
      unfold findByID
      cases hu : uuidIn id with
      | none => rfl
      | some u => simp only [h u hu]
    rw [hfind]

theorem unseen_hidden (hids : (rows.map (·.id)).Nodup) {row : StoredEntry} (hmem : row ∈ rows)
    (hadmin : req.context.isPlatformAdmin = false)
    (htenant : uuidIn req.context.tenantID ≠ some row.entry.tenantId) :
    getEntry qlib rows req row.id.format = getEntry qlib [] req row.id.format := by
  refine getEntry_congr fun u hu => ?_
  obtain rfl : row.id = u := Option.some.inj ((uuidIn_format row.id).symm.trans hu)
  refine List.find?_eq_none.mpr fun row' hrow' hid => ?_
  obtain ⟨hmem', hsees⟩ := mem_visibleRows.mp hrow'
  rw [nodup_keys_inj hids hmem' hmem (of_decide_eq_true hid)] at hsees
  rcases hsees with hsees | hsees
  · exact absurd hsees (by simp [hadmin])
  · exact htenant hsees

theorem found_kept (hids : (later.map (·.id)).Nodup) (hgrown : rows <+: later) {id : String}
    {row : StoredEntry} (h : getEntry qlib rows req id = .found row) :
    getEntry qlib later req id = .found row := by
  have hids' : (rows.map (·.id)).Nodup := hids.sublist (hgrown.sublist.map _)
  obtain ⟨hserved, hvisible, hid⟩ := (getEntry_found_iff hids').mp h
  obtain ⟨hmem, hsees⟩ := mem_visibleRows.mp hvisible
  exact (getEntry_found_iff hids).mpr
    ⟨hserved, mem_visibleRows.mpr ⟨hgrown.subset hmem, hsees⟩, hid⟩

theorem total_grows (hgrown : rows <+: later) {scan scan' : Scan} {data data' : List StoredEntry}
    {total total' : ℕ} {page page' size size' : ℤ}
    (h : listEntries qlib scan rows req = .listed data total page size)
    (h' : listEntries qlib scan' later req = .listed data' total' page' size') :
    total ≤ total' := by
  obtain ⟨-, -, -, rfl, -, -⟩ := listEntries_listed_iff.mp h
  obtain ⟨-, -, -, rfl, -, -⟩ := listEntries_listed_iff.mp h'
  exact (hgrown.sublist.filter _).length_le

end Trail

open ConsumerState in
/-- After any run of the consumer and any continuation of it, a reader of the log can rely on what
    it is shown. -/
theorem audit_trail (lib : Libraries) (qlib : QueryLibraries)
    (hparse : ∀ u : Uuid, qlib.uuidParse u.format) (stamp : ℕ → Uuid × ℤ)
    (is is' : List ConsumerInput)
    (hids : ((stored stamp (run (step lib) start (is ++ is')).table).map (·.id)).Nodup)
    (req : ListRequest) :
    AuditTrail lib qlib (run (step lib) start is).published
      (stored stamp (run (step lib) start is).table)
      (stored stamp (run (step lib) start (is ++ is')).table) req := by
  have hgrown : stored stamp (run (step lib) start is).table <+:
      stored stamp (run (step lib) start (is ++ is')).table := by
    rw [run_append]
    exact stored_prefix (run_table_grows lib _ is')
  have hids' := hids.sublist (hgrown.sublist.map _)
  have htraced : ∀ row ∈ stored stamp (run (step lib) start is).table,
      ∃ m ∈ (run (step lib) start is).published, m.row lib = some row.entry :=
    fun row hrow => run_traced lib is row.entry (mem_of_stored hrow)
  exact ⟨fun id row h => found_published hids' htraced h,
    fun scan data total page size h => list_agrees hids' hparse h,
    fun row hmem hadmin htenant => unseen_hidden hids' hmem hadmin htenant,
    fun id row h => found_kept hids hgrown h,
    fun scan scan' data data' total total' page page' size size' h h' => total_grows hgrown h h'⟩

namespace Sample

/-- An event of another tenant. -/
def elsewhere : Message := ⟨3, some (creation ones).message⟩

/-- An event of each of two tenants is stored. -/
def twoStored : List ConsumerInput :=
  [.publish created, .publish elsewhere, .deliver 0, .deliver 0, .tick]

/-- Then another of the first. -/
def oneMore : List ConsumerInput := [.publish updated, .deliver 0, .tick]

/-- The ids are all zeros, all ones and all of the last digit. -/
def stamp (k : ℕ) : Uuid × ℤ :=
  (if k = 0 then zeros else if k = 1 then ones else uuid (Fin.last 15), k)

/-- A user of the first tenant. -/
def tenantRequest : ListRequest :=
  { getHeader := fun key => if key = "X-Tenant-ID" then zeros.format else ""
    query := fun _ => "" }

end Sample

open Sample ConsumerState in
/-- At the first read two rows are stored. The tenant's own is shown and the other one is not. -/
theorem audit_trail_sample :
    let rows := stored stamp (run (step libraries) start twoStored).table
    rows.map (·.id) = [zeros, ones] ∧
      (∃ row ∈ rows, getEntry queryLibraries rows tenantRequest zeros.format = .found row) ∧
      getEntry queryLibraries rows tenantRequest ones.format = .refused 404 "not found" ∧
      AuditTrail libraries queryLibraries (run (step libraries) start twoStored).published rows
        (stored stamp (run (step libraries) start (twoStored ++ oneMore)).table)
        tenantRequest := by
  refine ⟨rfl, ⟨_, List.mem_cons_self, rfl⟩, rfl, ?_⟩
  refine audit_trail libraries queryLibraries (fun u => ?_) stamp twoStored oneMore ?_
    tenantRequest
  · show (uuidIn u.format).isSome = true
    rw [uuidIn_format]
    rfl
  · show [zeros, ones, uuid (Fin.last 15)].Nodup
    decide

end SaasChassis.Audit
