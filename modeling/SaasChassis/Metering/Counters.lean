/-
  Usage counters in Redis: what `MeteringMiddleware` writes under `meter:<tenant>:<date>`, and
  how the flusher reads keys, fields and values back.

  `eq_of_parseMeterKey`, `parseEndpoint_eq_some_iff`: reading accepts just what was written, for
  tenants without a colon. `weigh_hgetAll`: the rows read from one key carry the count of each of
  its endpoints, once. The expiry of a hash after 48 hours is not modelled.
-/
import Mathlib.Data.List.AList
import SaasChassis.Gateway.Http
import SaasChassis.Lib.Calendar
import SaasChassis.Lib.KeyedRows

namespace SaasChassis.Metering

open SaasChassis.Lib
open SaasChassis.Gateway (Header)

/-! ## Redis -/

/-- A hash field under `HINCRBY`: an `int64` that only grows. -/
abbrev Counter := Fin (2 ^ 63)

abbrev Hash := AList fun _ : String => Counter

abbrev Redis := AList fun _ : String => Hash

namespace Redis

def hash (key : String) (redis : Redis) : Hash := (AList.lookup key redis).getD ∅

def count (redis : Redis) (key field : String) : ℕ :=
  ((redis.hash key).lookup field).elim 0 Fin.val

/-- `HINCRBY key field 1`: past the end of `int64` it is an error, and the field stays. -/
def hincrBy (key field : String) (redis : Redis) : Redis :=
  if h : redis.count key field + 1 < 2 ^ 63 then
    AList.insert key ((redis.hash key).insert field ⟨redis.count key field + 1, h⟩) redis
  else redis

/-- `HGETALL key`. -/
def hgetAll (key : String) (redis : Redis) : List (String × String) :=
  (redis.hash key).entries.map fun e => (e.1, (e.2 : ℕ).repr)

/-- `DEL keys`. -/
def del (keys : List String) (redis : Redis) : Redis :=
  keys.foldl (fun redis key => AList.erase key redis) redis

theorem hash_insert (key key' : String) (h : Hash) (redis : Redis) :
    hash key' (AList.insert key h redis) = if key' = key then h else redis.hash key' := by
  by_cases hk : key' = key
  · subst hk
    simp [hash]
  · simp [hash, hk, AList.lookup_insert_ne hk]

theorem hash_del (keys : List String) (key : String) (redis : Redis) :
    (redis.del keys).hash key = if key ∈ keys then ∅ else redis.hash key := by
  induction keys generalizing redis with
  | nil => simp [del]
  | cons k keys ih =>
    have herase : hash key (AList.erase k redis) = if key = k then ∅ else redis.hash key := by
      by_cases hk : key = k
      · subst hk
        simp [hash]
      · simp [hash, hk, AList.lookup_erase_ne hk]
    calc (del (k :: keys) redis).hash key
        = if key ∈ keys then ∅ else hash key (AList.erase k redis) := ih _
      _ = if key ∈ k :: keys then ∅ else redis.hash key := by
        simp only [herase, List.mem_cons]
        by_cases hmem : key ∈ keys <;> simp [hmem]

theorem count_hincrBy (key field key' field' : String) (redis : Redis) :
    (redis.hincrBy key field).count key' field' =
      if key' = key ∧ field' = field ∧ redis.count key field + 1 < 2 ^ 63 then
        redis.count key field + 1
      else redis.count key' field' := by
  unfold hincrBy
  split
  next h =>
    rw [count, hash_insert]
    by_cases hk : key' = key
    · subst hk
      by_cases hf : field' = field
      · subst hf
        rw [if_pos rfl, AList.lookup_insert, if_pos ⟨rfl, rfl, h⟩]
        rfl
      · rw [if_pos rfl, AList.lookup_insert_ne hf, if_neg fun hc => hf hc.2.1]
        rfl
    · rw [if_neg hk, if_neg fun hc => hk hc.1]
      rfl
  next h => rw [if_neg fun hc => h hc.2.2]

theorem mem_hincrBy {key field key' : String} {redis : Redis}
    (h : key' ∈ redis.hincrBy key field) : key' = key ∨ key' ∈ redis := by
  unfold hincrBy at h
  split at h
  next => exact (AList.mem_insert redis).mp h
  next => exact Or.inr h

theorem mem_of_count_ne_zero {redis : Redis} {key field : String}
    (h : redis.count key field ≠ 0) : key ∈ redis := by
  by_contra hkey
  rw [count, hash, AList.lookup_eq_none.mpr hkey] at h
  exact h rfl

-- from here on known by these lemmas only: states are compared without running it
attribute [irreducible] hincrBy

/-- A pipeline of increments on one hash adds one to each field it names once. -/
theorem count_hincrBys {key : String} {fields : List String} (hnd : fields.Nodup)
    (key' field' : String) (redis : Redis) :
    (fields.foldl (fun redis field => redis.hincrBy key field) redis).count key' field' =
      if key' = key ∧ field' ∈ fields ∧ redis.count key field' + 1 < 2 ^ 63 then
        redis.count key field' + 1
      else redis.count key' field' := by
  induction fields generalizing redis with
  | nil => simp
  | cons field fields ih =>
    rw [List.nodup_cons] at hnd
    rw [List.foldl_cons, ih hnd.2, count_hincrBy, count_hincrBy]
    by_cases hf : field' = field
    · subst hf
      simp [hnd.1]
    · simp [hf]

end Redis

/-! ## The middleware -/

/-- A request method. It is an HTTP token; all that matters here is that no token has a colon. -/
structure Method where
  name : String
  colon_notMem : ':' ∉ name.toList
  deriving DecidableEq

/-- A request the gateway has answered. -/
structure Completed where
  header : Header
  method : Method
  fullPath : String
  status : ℤ
  /-- The day of `time.Now()`. -/
  today : Day

def Completed.tenantID (r : Completed) : String := r.header.get "X-Tenant-ID"

def Completed.userID (r : Completed) : String := r.header.get "X-User-ID"

def meterKey (tenantID : String) (date : Day) : String :=
  "meter:" ++ tenantID ++ ":" ++ date.format

def endpointField (method path : String) : String := "endpoint:" ++ method ++ ":" ++ path

/-- The fields that one request increments. -/
def Completed.fields (r : Completed) : List String :=
  ["total", "user:" ++ r.userID, endpointField r.method.name r.fullPath,
    "status:" ++ toString r.status]

def meteringMiddleware (r : Completed) (redis : Redis) : Redis :=
  let dateKey := meterKey r.tenantID r.today
  r.fields.foldl (fun redis field => redis.hincrBy dateKey field) redis

/-! ## Reading keys and fields -/

/-- Key format `meter:<tenantID>:<YYYY-MM-DD>`; `none` is a key the flusher skips. -/
def parseMeterKey (key : String) : Option (String × Day) :=
  match splitThree ':' key with
  | [_, tenantID, dateStr] => (Day.parse dateStr).map fun requestAt => (tenantID, requestAt)
  | _ => none

/-- Field format `endpoint:<METHOD>:<path>`; `none` is any other field. -/
def parseEndpoint (field : String) : Option (String × String) :=
  if hasPrefix field "endpoint:" then
    match splitThree ':' field with
    | [_, method, path] => some (method, path)
    | _ => none
  else none

theorem meterKey_eq (tenantID : String) (date : Day) :
    meterKey tenantID date = "meter" ++ String.singleton ':' ++
      (tenantID ++ String.singleton ':' ++ date.format) := by
  rw [← String.toList_inj]
  simp [meterKey]

theorem endpointField_eq (method path : String) :
    endpointField method path = "endpoint" ++ String.singleton ':' ++
      (method ++ String.singleton ':' ++ path) := by
  rw [← String.toList_inj]
  simp [endpointField]

theorem parseMeterKey_meterKey {tenantID : String} (h : ':' ∉ tenantID.toList) (date : Day) :
    parseMeterKey (meterKey tenantID date) = some (tenantID, date) := by
  rw [parseMeterKey, meterKey_eq, splitThree_append (by decide) h]
  dsimp only
  rw [Day.parse_eq_some_iff.mpr rfl]
  rfl

theorem eq_of_parseMeterKey {key tenantID : String} {date : Day} (hmeter : hasPrefix key "meter:")
    (h : parseMeterKey key = some (tenantID, date)) :
    key = meterKey tenantID date ∧ ':' ∉ tenantID.toList := by
  unfold parseMeterKey at h
  split at h
  next first tenantID' dateStr hsplit =>
    obtain ⟨date', hdate, he⟩ := Option.map_eq_some_iff.mp h
    obtain ⟨rfl, rfl⟩ := Prod.mk.inj he
    obtain ⟨rfl, h1, h2⟩ := eq_of_splitThree hsplit
    rw [first_of_hasPrefix "meter" h1 (by decide) hmeter, Day.parse_eq_some_iff.mp hdate,
      meterKey_eq]
    exact ⟨rfl, h2⟩
  next => exact nomatch h

theorem parseEndpoint_eq_some_iff {field method path : String} :
    parseEndpoint field = some (method, path) ↔
      field = endpointField method path ∧ ':' ∉ method.toList := by
  constructor
  · intro h
    unfold parseEndpoint at h
    split at h
    next hprefix =>
      split at h
      next first method' path' hsplit =>
        obtain ⟨rfl, rfl⟩ := Prod.mk.inj (Option.some.inj h)
        obtain ⟨rfl, h1, h2⟩ := eq_of_splitThree hsplit
        rw [first_of_hasPrefix "endpoint" h1 (by decide) hprefix, endpointField_eq]
        exact ⟨rfl, h2⟩
      next => exact nomatch h
    next => exact nomatch h
  · rintro ⟨rfl, h⟩
    have hprefix : hasPrefix (endpointField method path) "endpoint:" :=
      hasPrefix_iff.mpr ⟨method ++ ":" ++ path, by rw [← String.toList_inj]; simp [endpointField]⟩
    rw [parseEndpoint, if_pos hprefix, endpointField_eq, splitThree_append (by decide) h]

theorem meterKey_inj {t t' : String} {d d' : Day} :
    meterKey t d = meterKey t' d' ↔ t = t' ∧ d = d' := by
  constructor
  · intro h
    -- a tenant may hold colons: the date is found by its length
    have hl : t.toList ++ (':' :: d.format.toList) = t'.toList ++ (':' :: d'.format.toList) := by
      simpa [meterKey] using congrArg String.toList h
    obtain ⟨ht, hd⟩ := List.append_inj' hl (by simp only [List.length_cons, Day.length_format])
    have hday := Day.format_injective (String.toList_inj.mp (List.cons.inj hd).2)
    exact ⟨String.toList_inj.mp ht, hday⟩
  · rintro ⟨rfl, rfl⟩
    rfl

theorem endpointField_inj {m m' : Method} {p p' : String} :
    endpointField m.name p = endpointField m'.name p' ↔ m = m' ∧ p = p' := by
  constructor
  · intro h
    have hm : parseEndpoint (endpointField m.name p) = some (m.name, p) :=
      parseEndpoint_eq_some_iff.mpr ⟨rfl, m.colon_notMem⟩
    rw [h, parseEndpoint_eq_some_iff.mpr ⟨rfl, m'.colon_notMem⟩] at hm
    obtain ⟨hname, hpath⟩ := Prod.mk.inj (Option.some.inj hm)
    cases m
    cases m'
    subst hname hpath
    exact ⟨rfl, rfl⟩
  · rintro ⟨rfl, rfl⟩
    rfl

/-! ## Counts -/

/-- What requests are counted by. -/
structure Cell where
  tenantID : String
  date : Day
  method : Method
  path : String
  deriving DecidableEq

def Completed.cell (r : Completed) : Cell := ⟨r.tenantID, r.today, r.method, r.fullPath⟩

namespace Cell

def key (c : Cell) : String := meterKey c.tenantID c.date

def field (c : Cell) : String := endpointField c.method.name c.path

theorem eq_iff {c c' : Cell} : c = c' ↔ c.key = c'.key ∧ c.field = c'.field := by
  cases c
  cases c'
  simp [key, field, meterKey_inj, endpointField_inj, and_assoc]

end Cell

/-- The count still in Redis. -/
def stored (redis : Redis) (c : Cell) : ℕ := redis.count c.key c.field

theorem Completed.fields_nodup (r : Completed) : r.fields.Nodup := by
  -- the four kinds of field differ in their first letter
  refine List.Nodup.of_map (fun field => field.toList.head?) ?_
  simp [fields, endpointField]

theorem Cell.field_mem_fields (c : Cell) (r : Completed) :
    c.field ∈ r.fields ↔ c.field = r.cell.field := by
  have hletter : ∀ field, field.toList.head? ≠ some 'e' → c.field ≠ field := by
    rintro _ h rfl
    exact h (by simp [field, endpointField])
  have htotal : c.field ≠ "total" := hletter _ (by decide)
  have huser : c.field ≠ "user:" ++ r.userID := hletter _ (by simp)
  have hstatus : c.field ≠ "status:" ++ toString r.status := hletter _ (by simp)
  simp only [Completed.fields, List.mem_cons, htotal, huser, hstatus, List.not_mem_nil, or_false,
    false_or]
  rfl

theorem mem_meteringMiddleware {r : Completed} {redis : Redis} {key : String}
    (h : key ∈ meteringMiddleware r redis) : key = r.cell.key ∨ key ∈ redis := by
  unfold meteringMiddleware at h
  dsimp only at h
  generalize r.fields = fields at h
  induction fields generalizing redis with
  | nil => exact Or.inr h
  | cons field fields ih =>
    obtain hkey | hkey := ih h
    · exact Or.inl hkey
    · exact Redis.mem_hincrBy hkey

theorem stored_meteringMiddleware (r : Completed) (redis : Redis) (c : Cell) :
    stored (meteringMiddleware r redis) c =
      if c = r.cell ∧ stored redis c + 1 < 2 ^ 63 then stored redis c + 1 else stored redis c := by
  rw [stored, meteringMiddleware, Redis.count_hincrBys r.fields_nodup]
  by_cases hc : c = r.cell
  · subst hc
    have hmem := (Cell.field_mem_fields r.cell r).mpr rfl
    have hkey : meterKey r.tenantID r.today = r.cell.key := rfl
    simp only [stored, hmem, hkey, true_and]
  · have hne : ¬ (c.key = meterKey r.tenantID r.today ∧ c.field ∈ r.fields) := by
      rintro ⟨hkey, hfield⟩
      exact hc (Cell.eq_iff.mpr ⟨hkey, (Cell.field_mem_fields c r).mp hfield⟩)
    rw [if_neg fun h => hne ⟨h.1, h.2.1⟩, if_neg fun h => hc h.1]
    rfl

/-! ## Rows -/

structure MeterRow where
  tenantID : String
  plan : String
  endpoint : String
  method : String
  statusCode : ℤ
  count : ℤ
  requestAt : Day
  deriving DecidableEq

/-- The row for one field of a hash. -/
def meterRow? (tenantID : String) (requestAt : Day) (field val : String) : Option MeterRow :=
  match parseEndpoint field, sscanInt64 val with
  | some (method, path), some count =>
    if count ≤ 0 then none
    else some
      { tenantID := tenantID
        plan := "unknown"
        endpoint := path
        method := method
        statusCode := 0
        count := count
        requestAt := requestAt }
  | _, _ => none

/-- The rows for the fields of a hash, in the order they are visited. -/
def meterRows (tenantID : String) (requestAt : Day) (fields : List (String × String)) :
    List MeterRow :=
  fields.filterMap fun f => meterRow? tenantID requestAt f.1 f.2

def MeterRow.IsFor (c : Cell) (row : MeterRow) : Prop :=
  row.tenantID = c.tenantID ∧ row.requestAt = c.date ∧ row.method = c.method.name ∧
    row.endpoint = c.path

instance (c : Cell) (row : MeterRow) : Decidable (row.IsFor c) := by
  unfold MeterRow.IsFor
  infer_instance

/-- The sum of `g count` over a cell's rows. -/
def weigh (g : ℤ → ℤ) (c : Cell) (rows : List MeterRow) : ℤ :=
  (rows.map fun row => if row.IsFor c then g row.count else 0).sum

/-- The counts that the rows carry for a cell. -/
abbrev total : Cell → List MeterRow → ℤ := weigh id

theorem weigh_append (g : ℤ → ℤ) (c : Cell) (rows rows' : List MeterRow) :
    weigh g c (rows ++ rows') = weigh g c rows + weigh g c rows' := by
  rw [weigh, List.map_append, List.sum_append]
  rfl

theorem total_append (c : Cell) (rows rows' : List MeterRow) :
    total c (rows ++ rows') = total c rows + total c rows' := weigh_append id c rows rows'

theorem weigh_perm {rows rows' : List MeterRow} (h : rows.Perm rows') (g : ℤ → ℤ) (c : Cell) :
    weigh g c rows = weigh g c rows' := (h.map _).sum_eq

theorem Cell.parseEndpoint_field (c : Cell) :
    parseEndpoint c.field = some (c.method.name, c.path) :=
  parseEndpoint_eq_some_iff.mpr ⟨rfl, c.method.colon_notMem⟩

theorem eq_field_iff {field method path : String} (h : parseEndpoint field = some (method, path))
    (c : Cell) : field = c.field ↔ method = c.method.name ∧ path = c.path := by
  constructor
  · rintro rfl
    rw [Cell.parseEndpoint_field] at h
    obtain ⟨rfl, rfl⟩ := Prod.mk.inj (Option.some.inj h)
    exact ⟨rfl, rfl⟩
  · rintro ⟨rfl, rfl⟩
    exact (parseEndpoint_eq_some_iff.mp h).1

theorem weigh_meterRow? (g : ℤ → ℤ) (c : Cell) (tenantID : String) (requestAt : Day)
    (field : String) (n : Counter) :
    weigh g c (meterRow? tenantID requestAt field (n : ℕ).repr).toList =
      if tenantID = c.tenantID ∧ requestAt = c.date ∧ field = c.field ∧ (n : ℕ) ≠ 0 then g (n : ℕ)
      else 0 := by
  unfold meterRow?
  rw [sscanInt64_repr n.isLt]
  cases hparse : parseEndpoint field with
  | none =>
    have hne : field ≠ c.field := by
      rintro rfl
      rw [Cell.parseEndpoint_field] at hparse
      exact nomatch hparse
    rw [if_neg fun h => hne h.2.2.1]
    rfl
  | some e =>
    obtain ⟨method, path⟩ := e
    have hfield := eq_field_iff hparse c
    dsimp only
    by_cases hn : (n : ℕ) = 0
    · simp [hn, weigh]
    · have hpos : ¬ ((n : ℕ) : ℤ) ≤ 0 := by omega
      rw [if_neg hpos]
      simp [hn, hfield, weigh, MeterRow.IsFor]

theorem weigh_meterRows (g : ℤ → ℤ) (c : Cell) (tenantID : String) (requestAt : Day)
    (hash : Hash) :
    weigh g c (meterRows tenantID requestAt (hash.entries.map fun e => (e.1, (e.2 : ℕ).repr))) =
      if tenantID = c.tenantID ∧ requestAt = c.date ∧ (hash.lookup c.field).elim 0 Fin.val ≠ 0 then
        g ((hash.lookup c.field).elim 0 Fin.val : ℕ)
      else 0 := by
  obtain ⟨entries, hnd⟩ := hash
  rw [AList.lookup]
  dsimp only
  induction entries with
  | nil => simp [meterRows, weigh]
  | cons e entries ih =>
    rw [List.nodupKeys_cons] at hnd
    have hcons : weigh g c (meterRows tenantID requestAt
        ((e :: entries).map fun e => (e.1, (e.2 : ℕ).repr))) =
        weigh g c (meterRow? tenantID requestAt e.1 (e.2 : ℕ).repr).toList +
          weigh g c (meterRows tenantID requestAt
            (entries.map fun e => (e.1, (e.2 : ℕ).repr))) := by
      rw [← weigh_append]
      unfold meterRows
      rw [List.map_cons, List.filterMap_cons]
      cases meterRow? tenantID requestAt e.1 (e.2 : ℕ).repr <;> rfl
    rw [hcons, weigh_meterRow?, ih hnd.2]
    by_cases hf : e.1 = c.field
    · -- no later entry has this field
      have hrest : entries.dlookup c.field = none := by
        rw [List.dlookup_eq_none, ← hf]
        exact hnd.1
      have hfirst : (e :: entries).dlookup c.field = some e.2 := by
        rw [← hf]
        exact List.dlookup_cons_eq entries e.1 e.2
      rw [hrest, hfirst]
      simp [hf]
    · have hskip : (e :: entries).dlookup c.field = entries.dlookup c.field :=
        List.dlookup_cons_ne entries e (Ne.symm hf)
      rw [hskip, if_neg fun h => hf h.2.2.1, zero_add]

/-- What the rows of one key carry: the counts stored under it. -/
theorem weigh_hgetAll (g : ℤ → ℤ) {key tenantID : String} {requestAt : Day}
    (hmeter : hasPrefix key "meter:") (hparse : parseMeterKey key = some (tenantID, requestAt))
    {fields : List (String × String)} {redis : Redis} (hperm : fields.Perm (redis.hgetAll key))
    (c : Cell) :
    weigh g c (meterRows tenantID requestAt fields) =
      if c.key = key ∧ stored redis c ≠ 0 then g (stored redis c) else 0 := by
  have hrows : (meterRows tenantID requestAt fields).Perm
      (meterRows tenantID requestAt (redis.hgetAll key)) := hperm.filterMap _
  obtain ⟨rfl, _⟩ := eq_of_parseMeterKey hmeter hparse
  rw [weigh_perm hrows, Redis.hgetAll, weigh_meterRows]
  by_cases hkey : c.key = meterKey tenantID requestAt
  · obtain ⟨rfl, rfl⟩ := meterKey_inj.mp hkey
    simp only [hkey, true_and]
    rfl
  · have hcell : ¬ (tenantID = c.tenantID ∧ requestAt = c.date) := by
      rintro ⟨rfl, rfl⟩
      exact hkey rfl
    rw [if_neg fun h => hcell ⟨h.1, h.2.1⟩, if_neg fun h => hkey h.1]

/-- What every row that the flusher makes satisfies. -/
structure MeterRow.Read (row : MeterRow) : Prop where
  plan : row.plan = "unknown"
  statusCode : row.statusCode = 0
  count : 0 < row.count
  method : ':' ∉ row.method.toList

theorem read_of_mem {tenantID : String} {requestAt : Day} {fields : List (String × String)}
    {row : MeterRow} (h : row ∈ meterRows tenantID requestAt fields) : row.Read := by
  obtain ⟨f, _, hrow⟩ := List.mem_filterMap.mp h
  unfold meterRow? at hrow
  split at hrow
  next method path count hparse hcount =>
    split at hrow
    next => exact nomatch hrow
    next hpos =>
      cases hrow
      exact ⟨rfl, rfl, not_le.mp hpos, (parseEndpoint_eq_some_iff.mp hparse).2⟩
  next => exact nomatch hrow

end SaasChassis.Metering
