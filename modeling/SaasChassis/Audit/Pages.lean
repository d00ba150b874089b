/-
  A client that reads the audit log page by page.

  It asks `ListEntries` for the first page and, by the total and the page size reported there, for
  all pages (`fetchPages`). The rows are ordered by `created_at` alone, the size reported is the one
  asked for and not the one used, and an offset is computed in an `int`. `exactlyOnce_iff` says when
  the pages make up the log, `emptyBeyond_iff` when a page after the last is empty, and
  `partition_iff` both.
-/
import SaasChassis.Audit.Queries

namespace SaasChassis.Audit

open SaasChassis.Lib SaasChassis.Lib.Postgres

/-! ## Requests and answers -/

/-- What `COUNT(*)` can count. -/
structure AuditLog where
  rows : List StoredEntry
  nodup_id : (rows.map (·.id)).Nodup
  length_lt : rows.length < 2 ^ 63

namespace ListRequest

/-- The request with `page` and `pageSize` in its query. -/
def paged (req : ListRequest) (page pageSize : ℕ) : ListRequest :=
  { req with
    query := fun key =>
      if key = "page" then page.repr
      else if key = "pageSize" then pageSize.repr
      else req.query key }

def context (req : ListRequest) : TenantContext :=
  ⟨req.getHeader "X-Tenant-ID", req.getHeader "X-Is-Platform-Admin" = "true"⟩

end ListRequest

/-- A request that is let through to its answer. -/
structure Served (lib : QueryLibraries) (req : ListRequest) : Prop where
  caller : (extractCaller req).isSome
  tenantId : req.query "tenantId" = "" ∨ lib.uuidParse (req.query "tenantId")
  userId : req.query "userId" = "" ∨ lib.uuidParse (req.query "userId")
  accepted : Accepted lib req.context (filterOf lib req)

/-- What a page number and a page size are read as. -/
def pageRead (page : ℕ) : ℤ := if page < 2 ^ 63 then page else 1
def pageSizeRead (pageSize : ℕ) : ℕ := if pageSize < 2 ^ 63 then pageSize else 50

/-- The page size that is used. -/
def pageSizeUsed (pageSize : ℕ) : ℕ :=
  if 200 < pageSizeRead pageSize then 50 else pageSizeRead pageSize

def offsetUsed (page pageSize : ℕ) : ℤ :=
  ((pageRead page - 1) * pageSizeUsed pageSize).bmod (2 ^ 64)

variable {lib : QueryLibraries} {scan : Scan} {rows data : List StoredEntry} {req : ListRequest}
  {page pageSize total : ℕ}

theorem context_of_extractCaller {caller : CallerCtx} (h : extractCaller req = some caller) :
    TenantContext.mk caller.tenantID caller.isPlatformAdmin = req.context := by
  simp only [extractCaller] at h
  split at h
  next => cases h
  next =>
    cases h
    rfl

theorem not_refused_iff {s : String} :
    ¬ (s ≠ "" ∧ lib.uuidParse s = false) ↔ s = "" ∨ lib.uuidParse s := by
  rw [not_and_or, not_not, Bool.not_eq_false]

theorem listEntries_listed_iff {p size : ℤ} :
    listEntries lib scan rows req = .listed data total p size ↔
      Served lib req ∧ 0 ≤ (filterOf lib req).offset ∧
        data = pageOf scan req.context (filterOf lib req) rows ∧
        total = (matching req.context (filterOf lib req) rows).length ∧
        p = (filterOf lib req).page ∧ size = (filterOf lib req).pageSize := by
  unfold listEntries
  cases hcaller : extractCaller req with
  | none =>
    refine ⟨fun h => (nomatch h), fun h => ?_⟩
    have hsome := h.1.caller
    rw [hcaller] at hsome
    exact nomatch hsome
  | some caller =>
    dsimp only
    rw [context_of_extractCaller hcaller]
    split
    next htenant =>
      exact ⟨fun h => (nomatch h), fun h => absurd htenant (not_refused_iff.mpr h.1.tenantId)⟩
    next htenant =>
      split
      next huser =>
        exact ⟨fun h => (nomatch h), fun h => absurd huser (not_refused_iff.mpr h.1.userId)⟩
      next huser =>
        have hserved (haccepted) : Served lib req :=
          ⟨by rw [hcaller]; rfl, not_refused_iff.mp htenant, not_refused_iff.mp huser, haccepted⟩
        cases hanswer : queryEntries lib scan rows req.context (filterOf lib req) with
        | error e =>
          refine ⟨fun h => (nomatch h), fun h => ?_⟩
          rw [queryEntries_ok_iff.mpr ⟨h.1.accepted, h.2.1, rfl, rfl⟩] at hanswer
          exact nomatch hanswer
        | ok answer =>
          obtain ⟨entries, counted⟩ := answer
          obtain ⟨haccepted, hoffset, rfl, rfl⟩ := queryEntries_ok_iff.mp hanswer
          simp only [ListResponse.listed.injEq, hserved haccepted, hoffset, true_and]
          simp only [eq_comm]

/-! ## Pages of a request -/

theorem parseIntQuery_repr {key : String} {n : ℕ} (defaultVal : ℤ) (h : req.query key = n.repr)
    (hn : 0 < n) :
    parseIntQuery req key defaultVal = if n < 2 ^ 63 then (n : ℤ) else defaultVal := by
  rw [parseIntQuery, h, atoi_repr]
  by_cases hlt : n < 2 ^ 63
  · rw [if_pos hlt, if_pos hlt]
    exact if_pos (by omega)
  · rw [if_neg hlt, if_neg hlt]

/-- A page and its size change nothing else of a filter. -/
theorem filterOf_paged (lib : QueryLibraries) (req : ListRequest) (hpage : 0 < page)
    (hsize : 0 < pageSize) :
    filterOf lib (req.paged page pageSize) =
      { filterOf lib req with page := pageRead page, pageSize := pageSizeRead pageSize } := by
  have hread : parseIntQuery (req.paged page pageSize) "page" 1 = pageRead page :=
    parseIntQuery_repr 1 rfl hpage
  have hreadSize :
      parseIntQuery (req.paged page pageSize) "pageSize" 50 = pageSizeRead pageSize := by
    rw [parseIntQuery_repr 50 rfl hsize, pageSizeRead]
    split <;> rfl
  rw [filterOf, hread, hreadSize]
  rfl

theorem served_paged (hpage : 0 < page) (hsize : 0 < pageSize) :
    Served lib (req.paged page pageSize) ↔ Served lib req := by
  have hreadable : Readable req.context (filterOf lib (req.paged page pageSize)) ↔
      Readable req.context (filterOf lib req) := by
    rw [filterOf_paged lib req hpage hsize]
    rfl
  constructor
  · rintro ⟨hcaller, htenant, huser, hset, hadmin, h⟩
    exact ⟨hcaller, htenant, huser, hset, hadmin, hreadable.mp h⟩
  · rintro ⟨hcaller, htenant, huser, hset, hadmin, h⟩
    exact ⟨hcaller, htenant, huser, hset, hadmin, hreadable.mpr h⟩

/-- The rows that a request asks for. -/
def matched (lib : QueryLibraries) (req : ListRequest) (rows : List StoredEntry) :
    List StoredEntry :=
  matching req.context (filterOf lib req) rows

theorem pageSizeRead_pos (h : 0 < pageSize) : 0 < pageSizeRead pageSize := by
  unfold pageSizeRead
  split <;> omega

theorem pageRead_pos (h : 0 < page) : 0 < pageRead page := by
  unfold pageRead
  split <;> omega

theorem pageSizeUsed_pos (h : 0 < pageSize) : 0 < pageSizeUsed pageSize := by
  have hpos := pageSizeRead_pos h
  unfold pageSizeUsed
  split <;> omega

theorem clampedPageSize_read {f : QueryFilter} (h : f.pageSize = pageSizeRead pageSize)
    (hsize : 0 < pageSize) : f.clampedPageSize = pageSizeUsed pageSize := by
  have hpos := pageSizeRead_pos hsize
  rw [QueryFilter.clampedPageSize, pageSizeUsed, h]
  split <;> split <;> omega

theorem offset_read {f : QueryFilter} (hp : f.page = pageRead page)
    (hs : f.pageSize = pageSizeRead pageSize) (hpage : 0 < page) (hsize : 0 < pageSize) :
    f.offset = offsetUsed page pageSize := by
  have hpos := pageRead_pos hpage
  have hclamped : f.clampedPage = pageRead page := by
    rw [QueryFilter.clampedPage, hp]
    exact if_neg (by omega)
  rw [QueryFilter.offset, offsetUsed, hclamped, clampedPageSize_read hs hsize]

theorem listEntries_paged_iff (hpage : 0 < page) (hsize : 0 < pageSize) {p size : ℤ} :
    listEntries lib scan rows (req.paged page pageSize) = .listed data total p size ↔
      Served lib req ∧ 0 ≤ offsetUsed page pageSize ∧
        data = ((listed (·.createdAt) (scan.order (matched lib req rows))).drop
          (offsetUsed page pageSize).toNat).take (pageSizeUsed pageSize) ∧
        total = (matched lib req rows).length ∧
        p = pageRead page ∧ size = pageSizeRead pageSize := by
  have hfilter := filterOf_paged lib req hpage hsize
  have hmatching : matching (req.paged page pageSize).context
      (filterOf lib (req.paged page pageSize)) rows = matched lib req rows := by
    rw [hfilter]
    rfl
  have hpageRead : (filterOf lib (req.paged page pageSize)).page = pageRead page := by rw [hfilter]
  have hsizeRead : (filterOf lib (req.paged page pageSize)).pageSize = pageSizeRead pageSize := by
    rw [hfilter]
  rw [listEntries_listed_iff, served_paged hpage hsize, pageOf, hmatching, hpageRead, hsizeRead,
    offset_read hpageRead hsizeRead hpage hsize, clampedPageSize_read hsizeRead hsize,
    Int.toNat_natCast]

/-! ## A client -/

def ListResponse.data? : ListResponse → Option (List StoredEntry)
  | .listed data _ _ _ => some data
  | .refused _ _ => none

/-- `ceil(total / pageSize)`. -/
def pageCount (total pageSize : ℕ) : ℕ := (total + pageSize - 1) / pageSize

/-- All pages, by what the first answer reports; every query comes upon the rows in an order of its
    own. -/
def fetchPages (lib : QueryLibraries) (scans : ℕ → Scan) (rows : List StoredEntry)
    (req : ListRequest) (pageSize : ℕ) : Option (List StoredEntry) :=
  match listEntries lib (scans 0) rows (req.paged 1 pageSize) with
  | .refused _ _ => none
  | .listed _ total _ reported =>
    ((List.range (pageCount total reported.toNat)).mapM fun k =>
      (listEntries lib (scans (k + 1)) rows (req.paged (k + 1) pageSize)).data?).map List.flatten

/-- Whatever the orders, the pages make up the matching rows. -/
def ExactlyOnce (lib : QueryLibraries) (log : AuditLog) (req : ListRequest) (pageSize : ℕ) : Prop :=
  ∀ scans, ∃ data, fetchPages lib scans log.rows req pageSize = some data ∧
    data.Perm (matched lib req log.rows)

/-- A page after the last is answered, and empty. -/
def EmptyBeyond (lib : QueryLibraries) (log : AuditLog) (req : ListRequest)
    (page pageSize : ℕ) : Prop :=
  pageCount (matched lib req log.rows).length (pageSizeRead pageSize) < page →
    ∀ scan, (listEntries lib scan log.rows (req.paged page pageSize)).data? = some []

/-- No `created_at` has rows on two pages, or all rows fit on the page that is made of a size too
    large. -/
def Separated (log : AuditLog) (lib : QueryLibraries) (req : ListRequest) (pageSize : ℕ) : Prop :=
  if 200 < pageSizeRead pageSize then (matched lib req log.rows).length ≤ 50
  else ∀ k, CleanCut (·.createdAt) (matched lib req log.rows) (k * pageSizeRead pageSize)

theorem lt_pageCount_iff {k size : ℕ} (hsize : 0 < size) :
    k < pageCount total size ↔ k * size < total := by
  rw [pageCount, Nat.lt_iff_add_one_le, Nat.le_div_iff_mul_le hsize, Nat.succ_mul]
  omega

theorem le_pageCount_mul {size : ℕ} (hsize : 0 < size) : total ≤ pageCount total size * size :=
  not_lt.mp fun h => lt_irrefl _ ((lt_pageCount_iff hsize).mpr h)

/-- Pages of 50, as many as of more than 200 are expected. -/
theorem le_pageCount_mul_fifty_iff {size : ℕ} (hlarge : 200 < size) :
    total ≤ pageCount total size * 50 ↔ total ≤ 50 := by
  have hsize : 0 < size := by omega
  constructor
  · intro h
    by_contra hmore
    have hlast : (pageCount total size - 1) * size < total :=
      (lt_pageCount_iff hsize).mp (by omega)
    have hle : (pageCount total size - 1) * 201 ≤ (pageCount total size - 1) * size :=
      Nat.mul_le_mul_left _ hlarge
    omega
  · intro h
    rcases Nat.eq_zero_or_pos total with rfl | hpos
    · exact Nat.zero_le _
    · have hone : 0 < pageCount total size := (lt_pageCount_iff hsize).mpr (by omega)
      omega

theorem pageSizeUsed_le (pageSize : ℕ) : pageSizeUsed pageSize ≤ pageSizeRead pageSize := by
  unfold pageSizeUsed
  split <;> omega

section Reading

variable {log : AuditLog} {k : ℕ}

theorem length_matched_lt (log : AuditLog) (lib : QueryLibraries) (req : ListRequest) :
    (matched lib req log.rows).length < 2 ^ 63 :=
  lt_of_le_of_lt (List.length_filter_le _ _) log.length_lt

theorem nodup_matched (log : AuditLog) (lib : QueryLibraries) (req : ListRequest) :
    (matched lib req log.rows).Nodup :=
  log.nodup_id.of_map.filter _

/-- The offset of a page that is fetched does not leave `int`. -/
theorem offsetUsed_of_lt (hsize : 0 < pageSize)
    (hk : k < pageCount (matched lib req log.rows).length (pageSizeRead pageSize)) :
    offsetUsed (k + 1) pageSize = (k * pageSizeUsed pageSize : ℕ) := by
  have hread := pageSizeRead_pos hsize
  have htotal := length_matched_lt log lib req
  have hlt := (lt_pageCount_iff hread).mp hk
  have hused : k * pageSizeUsed pageSize ≤ k * pageSizeRead pageSize :=
    Nat.mul_le_mul_left k (pageSizeUsed_le pageSize)
  have hself : k ≤ k * pageSizeRead pageSize := Nat.le_mul_of_pos_right k hread
  have hpage : pageRead (k + 1) - 1 = (k : ℤ) := by
    rw [pageRead, if_pos (by omega)]
    omega
  rw [offsetUsed, hpage, ← Nat.cast_mul]
  exact Int.bmod_eq_of_le (by omega) (by omega)

/-- A page that is fetched. -/
theorem data_of_lt (hserved : Served lib req) (hsize : 0 < pageSize) (scan : Scan)
    (hk : k < pageCount (matched lib req log.rows).length (pageSizeRead pageSize)) :
    (listEntries lib scan log.rows (req.paged (k + 1) pageSize)).data? =
      some (Lib.page (pageSizeUsed pageSize) k
        (listed (·.createdAt) (scan.order (matched lib req log.rows)))) := by
  have hoffset := offsetUsed_of_lt hsize hk
  have hpage : 0 < k + 1 := by omega
  have hnonneg : 0 ≤ offsetUsed (k + 1) pageSize := by omega
  rw [(listEntries_paged_iff hpage hsize).mpr ⟨hserved, hnonneg, rfl, rfl, rfl, rfl⟩, hoffset,
    Int.toNat_natCast]
  rfl

theorem mapM_data {f : ℕ → Option (List StoredEntry)} {g : ℕ → List StoredEntry} {ks : List ℕ}
    (h : ∀ k ∈ ks, f k = some (g k)) : ks.mapM f = some (ks.map g) := by
  induction ks with
  | nil => rfl
  | cons k ks ih =>
    obtain ⟨hk, hks⟩ := List.forall_mem_cons.mp h
    rw [List.mapM_cons, hk, ih hks]
    rfl

/-- What a client reads. -/
theorem fetchPages_eq (hserved : Served lib req) (hsize : 0 < pageSize) (scans : ℕ → Scan) :
    fetchPages lib scans log.rows req pageSize =
      some (pages (pageSizeUsed pageSize)
        (pageCount (matched lib req log.rows).length (pageSizeRead pageSize))
        fun k => listed (·.createdAt) ((scans (k + 1)).order (matched lib req log.rows))) := by
  have hnonneg : 0 ≤ offsetUsed 1 pageSize := by simp [offsetUsed, pageRead]
  rw [fetchPages, (listEntries_paged_iff Nat.one_pos hsize).mpr
    ⟨hserved, hnonneg, rfl, rfl, rfl, rfl⟩]
  dsimp only
  rw [Int.toNat_natCast, mapM_data fun k hk => data_of_lt hserved hsize _ (List.mem_range.mp hk),
    Option.map_some, pages, List.flatMap_def]

/-- A client that reads anything is served. -/
theorem served_of_fetchPages {scans : ℕ → Scan} (hsize : 0 < pageSize)
    (h : fetchPages lib scans rows req pageSize = some data) : Served lib req := by
  unfold fetchPages at h
  split at h
  next => cases h
  next hfirst => exact ((listEntries_paged_iff Nat.one_pos hsize).mp hfirst).1

/-- A scan that comes upon some rows in a given order. -/
theorem exists_scan {l : List StoredEntry} (h : l.Perm rows) :
    ∃ scan : Scan, scan.order rows = l := by
  classical
  refine ⟨⟨fun rows' => if rows' = rows then l else rows', fun rows' => ?_⟩, if_pos rfl⟩
  split
  next heq => rwa [heq]
  next => exact .refl _

/-- Orders of scans are as many as listings. -/
theorem exactlyOnce_iff_pages (hserved : Served lib req) (hsize : 0 < pageSize) :
    ExactlyOnce lib log req pageSize ↔
      ∀ listings, (∀ k, Listing (·.createdAt) (matched lib req log.rows) (listings k)) →
        (pages (pageSizeUsed pageSize)
          (pageCount (matched lib req log.rows).length (pageSizeRead pageSize)) listings).Perm
          (matched lib req log.rows) := by
  constructor
  · intro h listings hlistings
    have hscans (k : ℕ) := exists_scan (hlistings k).perm
    choose scanOf hscanOf using hscans
    obtain ⟨data, hdata, hperm⟩ := h fun k => scanOf (k - 1)
    rw [fetchPages_eq hserved hsize] at hdata
    have hlisted (k : ℕ) : listed (·.createdAt) ((scanOf (k + 1 - 1)).order
        (matched lib req log.rows)) = listings k := by
      rw [Nat.add_sub_cancel, hscanOf, (hlistings k).listed_eq]
    simp only [hlisted] at hdata
    rw [Option.some.inj hdata]
    exact hperm
  · intro h scans
    exact ⟨_, fetchPages_eq hserved hsize scans,
      h _ fun k => listing_listed _ ((scans (k + 1)).perm _)⟩

theorem exactlyOnce_iff (hsize : 0 < pageSize) :
    ExactlyOnce lib log req pageSize ↔ Served lib req ∧ Separated log lib req pageSize := by
  have hread := pageSizeRead_pos hsize
  have hcount : (matched lib req log.rows).length ≤ _ := le_pageCount_mul hread
  have hserved : ExactlyOnce lib log req pageSize → Served lib req := by
    intro h
    obtain ⟨data, hdata, -⟩ := h fun _ => ⟨id, fun _ => .refl _⟩
    exact served_of_fetchPages hsize hdata
  refine ⟨fun h => ⟨hserved h, ?_⟩, fun ⟨hs, h⟩ => ?_⟩
  · have hall := (exactlyOnce_iff_pages (hserved h) hsize).mp h
    unfold Separated
    unfold pageSizeUsed at hall
    split
    next hlarge =>
      simp only [hlarge, if_true] at hall
      have hperm := hall _ fun _ => listing_listed _ (.refl _)
      have hlength := length_pages_le 50 (pageCount (matched lib req log.rows).length
        (pageSizeRead pageSize)) fun _ => listed (·.createdAt) (matched lib req log.rows)
      rw [hperm.length_eq] at hlength
      exact (le_pageCount_mul_fifty_iff hlarge).mp hlength
    next hsmall =>
      simp only [hsmall, if_false] at hall
      exact (pages_perm_iff hread (nodup_matched log lib req) hcount).mp hall
  · refine (exactlyOnce_iff_pages hs hsize).mpr ?_
    unfold Separated at h
    unfold pageSizeUsed
    split at h
    next hlarge =>
      simp only [hlarge, if_true]
      refine (pages_perm_iff (by omega) (nodup_matched log lib req)
        ((le_pageCount_mul_fifty_iff hlarge).mpr h)).mpr fun k => ?_
      rcases Nat.eq_zero_or_pos k with rfl | hk
      · rw [Nat.zero_mul]
        exact cleanCut_zero _ _
      · exact cleanCut_of_length_le (by omega)
    next hsmall =>
      simp only [hsmall, if_false]
      exact (pages_perm_iff hread (nodup_matched log lib req) hcount).mpr h

theorem page_eq_nil_iff (scan : Scan) {size i : ℕ} (hsize : 0 < size) :
    ((listed (·.createdAt) (scan.order rows)).drop i).take size = [] ↔ rows.length ≤ i := by
  have hlength := (listing_listed (·.createdAt) (scan.perm rows)).perm.length_eq
  rw [List.take_eq_nil_iff, List.drop_eq_nil_iff, hlength]
  exact or_iff_right (by omega)

theorem emptyBeyond_iff (hpage : 0 < page) (hsize : 0 < pageSize) :
    EmptyBeyond lib log req page pageSize ↔
      (pageCount (matched lib req log.rows).length (pageSizeRead pageSize) < page →
        Served lib req ∧ (matched lib req log.rows).length ≤ offsetUsed page pageSize) := by
  refine forall_congr' fun _ => ?_
  constructor
  · intro h
    have hanswer := h ⟨id, fun _ => .refl _⟩
    cases hresponse : listEntries lib ⟨id, fun _ => .refl _⟩ log.rows (req.paged page pageSize) with
    | refused status error =>
      rw [hresponse] at hanswer
      exact nomatch hanswer
    | listed data total p size =>
      rw [hresponse] at hanswer
      obtain ⟨hserved, hnonneg, hdata, -⟩ := (listEntries_paged_iff hpage hsize).mp hresponse
      rw [Option.some.inj hanswer] at hdata
      have hle := (page_eq_nil_iff _ (pageSizeUsed_pos hsize)).mp hdata.symm
      exact ⟨hserved, by omega⟩
  · rintro ⟨hserved, hle⟩ scan
    have hnonneg : 0 ≤ offsetUsed page pageSize := by omega
    rw [(listEntries_paged_iff hpage hsize).mpr ⟨hserved, hnonneg, rfl, rfl, rfl, rfl⟩]
    exact congrArg some ((page_eq_nil_iff scan (pageSizeUsed_pos hsize)).mpr (by omega))

/-- The pages partition the log, and the page asked for is empty if it is beyond the last, for
    exactly the requests that are served, whose pages are separated and whose page beyond the last
    has an offset at or after the end. -/
theorem partition_iff (lib : QueryLibraries) (log : AuditLog) (req : ListRequest)
    (hpage : 0 < page) (hsize : 0 < pageSize) :
    ExactlyOnce lib log req pageSize ∧ EmptyBeyond lib log req page pageSize ↔
      Served lib req ∧ Separated log lib req pageSize ∧
        (pageCount (matched lib req log.rows).length (pageSizeRead pageSize) < page →
          (matched lib req log.rows).length ≤ offsetUsed page pageSize) := by
  rw [exactlyOnce_iff hsize, emptyBeyond_iff hpage hsize]
  constructor
  · rintro ⟨⟨hserved, hseparated⟩, hbeyond⟩
    exact ⟨hserved, hseparated, fun h => (hbeyond h).2⟩
  · rintro ⟨hserved, hseparated, hbeyond⟩
    exact ⟨⟨hserved, hseparated⟩, fun h => ⟨hserved, hbeyond h⟩⟩

end Reading

/-! ## Two entries of one batch -/

namespace Sample

def uuid (d : Fin 16) : Uuid := ⟨List.replicate 32 d, by simp⟩

def entry (d : Fin 16) : StoredEntry :=
  { id := uuid d
    entry :=
      { tenantId := uuid d, userId := none, action := .login, resourceType := "user",
        resourceId := none, description := none, changes := none, metadata := none,
        ipAddress := none, userAgent := none, serviceName := none, requestId := none }
    createdAt := 0 }

def log : AuditLog where
  rows := [entry ⟨0, by decide⟩, entry ⟨1, by decide⟩]
  nodup_id := by decide
  length_lt := by decide

def queryLibraries : QueryLibraries :=
  { uuidParse := fun s => (uuidIn s).isSome, parseTime := fun _ => none, setLocal := fun _ => true }

/-- A platform admin without filters. -/
def listRequest : ListRequest :=
  { getHeader := fun key => if key = "X-Is-Platform-Admin" then "true" else ""
    query := fun _ => "" }

theorem served : Served queryLibraries listRequest := by
  refine ⟨rfl, .inl rfl, .inl rfl, rfl, rfl, ?_⟩
  unfold Readable
  decide

end Sample

/-- On pages of one row, the two rows of one `created_at` need not both be seen. -/
theorem pages_overlap : ¬ ExactlyOnce Sample.queryLibraries Sample.log Sample.listRequest 1 := by
  intro h
  have hseparated : ∀ k, CleanCut (·.createdAt) Sample.log.rows (k * 1) :=
    ((exactlyOnce_iff Nat.one_pos).mp h).2
  exact absurd (hseparated 1) (by decide)

/-- Pages of two, and a third page. -/
theorem partition_iff_sample :
    0 < 3 ∧ 0 < 2 ∧
      (ExactlyOnce Sample.queryLibraries Sample.log Sample.listRequest 2 ∧
        EmptyBeyond Sample.queryLibraries Sample.log Sample.listRequest 3 2) := by
  have hseparated : Separated Sample.log Sample.queryLibraries Sample.listRequest 2 := by
    show ∀ k, CleanCut (·.createdAt) Sample.log.rows (k * 2)
    intro k
    rcases Nat.eq_zero_or_pos k with rfl | hk
    · exact cleanCut_zero _ _
    · exact cleanCut_of_length_le (show 2 ≤ k * 2 by omega)
  exact ⟨by decide, by decide,
    (partition_iff Sample.queryLibraries Sample.log Sample.listRequest (by decide) (by decide)).mpr
      ⟨Sample.served, hseparated, fun _ => by decide⟩⟩

end SaasChassis.Audit
