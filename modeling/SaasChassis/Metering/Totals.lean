/-
  Does metering lose or double requests?

  A flush reads a hash, inserts what it read and deletes the hash. `Accounted`: what was inserted
  and what is still in Redis add up to the requests made, but for what a flush has inserted and
  is about to delete. `accounted_iff`: this holds all along a run if and only if every DEL
  succeeds and finds, under the keys it deletes, just the counts that its flush carries (`Exact`).
  That is so when nothing happens to a key between its HGETALL and its DEL (`Quiet`,
  `quiet_exact`); nothing in the code sees to it. `requests_lost` is a run where a request comes
  in between.
-/
import Mathlib.Algebra.Order.BigOperators.Group.List
import SaasChassis.Metering.Flusher

namespace SaasChassis.Metering

open SaasChassis.Lib
open SaasChassis.Gateway (Header)

/-! ## Statement -/

/-- The number of requests made. -/
def made (s : MeterState) (c : Cell) : ℕ := s.completed.countP fun r => r.cell = c

/-- The counts that a flush has inserted and is about to delete. -/
def Flush.awaiting (c : Cell) : Flush → ℤ
  | .deleting rows _ => total c rows
  | _ => 0

def Accounted (s : MeterState) : Prop :=
  ∀ c, total c s.inserted + stored s.redis c = made s c + (s.flushes.map (·.awaiting c)).sum

/-- No flush stands between its INSERT and its DEL. -/
def AtRest (s : MeterState) : Prop :=
  ∀ rows flushedKeys, .deleting rows flushedKeys ∉ s.flushes

/-- No counter overflows, and a DEL succeeds and deletes the counts that its flush carries. -/
def Exact (s : MeterState) : Input → Prop
  | .request r => stored s.redis r.cell + 1 < 2 ^ 63
  | .tick => True
  | .answer i a =>
    match s.flushes[i]?, a with
    | some (.deleting rows flushedKeys), .ok =>
      ∀ c, total c rows = if c.key ∈ flushedKeys then (stored s.redis c : ℤ) else 0
    | some (.deleting _ _), .failed _ => False
    | _, _ => True

/-- The keys whose counts a flush carries. -/
def Flush.held : Flush → List String
  | .reading _ _ _ _ _ flushedKeys => flushedKeys
  | .inserting _ flushedKeys => flushedKeys
  | .deleting _ flushedKeys => flushedKeys
  | _ => []

/-- No counter overflows, no DEL fails, and neither a request nor a second HGETALL meets a key
    whose counts a flush carries. -/
def Quiet (s : MeterState) : Input → Prop
  | .request r =>
    stored s.redis r.cell + 1 < 2 ^ 63 ∧ ∀ flush ∈ s.flushes, r.cell.key ∉ flush.held
  | .tick => True
  | .answer i a =>
    match s.flushes[i]?, a with
    | some (.reading key _ _ _ _ _), .fields _ => ∀ flush ∈ s.flushes, key ∉ flush.held
    | some (.deleting _ _), .failed _ => False
    | _, _ => True

/-! ## What a flush carries -/

namespace Flush

/-- The rows a flush carries. -/
def rows : Flush → List MeterRow
  | reading _ _ _ _ rows _ => rows
  | inserting rows _ => rows
  | deleting rows _ => rows
  | _ => []

/-- The rows that wait for a DEL no longer. -/
def settles : Flush → Answer → List MeterRow
  | deleting rows _, .ok => rows
  | deleting rows _, .failed _ => rows
  | _, _ => []

/-- Rows that were read, and keys to delete for them. -/
structure Carries (rows : List MeterRow) (flushedKeys : List String) : Prop where
  counted : ∀ row ∈ rows, row.Read
  keyed : rows ≠ [] → flushedKeys ≠ []

/-- What the local variables of a flush satisfy. -/
def Sound : Flush → Prop
  | scanning keys => ∀ key ∈ keys, hasPrefix key "meter:"
  | reading key tenantID requestAt keys rows flushedKeys =>
    hasPrefix key "meter:" ∧ parseMeterKey key = some (tenantID, requestAt) ∧
      (∀ key ∈ keys, hasPrefix key "meter:") ∧ Carries rows flushedKeys
  | inserting rows flushedKeys => rows ≠ [] ∧ Carries rows flushedKeys
  | deleting rows flushedKeys => rows ≠ [] ∧ Carries rows flushedKeys
  | finished _ => True

theorem nextKey_sound {keys : List String} (hkeys : ∀ key ∈ keys, hasPrefix key "meter:")
    {rows : List MeterRow} {flushedKeys : List String} (h : Carries rows flushedKeys) :
    (nextKey keys rows flushedKeys).Sound := by
  induction keys with
  | nil =>
    rw [nextKey]
    split
    next => exact trivial
    next hne => exact ⟨hne, h⟩
  | cons key keys ih =>
    rw [List.forall_mem_cons] at hkeys
    rw [nextKey]
    split
    next => exact ih hkeys.2
    next tenantID requestAt hparse => exact ⟨hkeys.1, hparse, hkeys.2, h⟩

theorem Carries.read {rows keyRows : List MeterRow} {flushedKeys : List String}
    (h : Carries rows flushedKeys)
    (hread : ∀ row ∈ keyRows, row.Read) (key : String) :
    Carries (rows ++ keyRows) (if keyRows = [] then flushedKeys else flushedKeys ++ [key]) where
  counted := fun row hrow => (List.mem_append.mp hrow).elim (h.counted row) (hread row)
  keyed := by
    intro hne
    split
    next hempty =>
      rw [hempty, List.append_nil] at hne
      exact h.keyed hne
    next => simp

/-- What an answer can do to a flush. -/
inductive Next (redis : Redis) : Flush → Answer → Flush → Prop
  | ignored {flush : Flush} {a : Answer} (inserts : flush.inserts a = [])
      (deletes : flush.deletes a = []) (settles : flush.settles a = []) : Next redis flush a flush
  | scanned (keys elements : List String) (cursor : ℕ) :
      Next redis (scanning keys) (.scanned elements cursor)
        (scanning (keys ++ elements.filter (hasPrefix · "meter:")))
  | listed (keys elements : List String) :
      Next redis (scanning keys) (.scanned elements 0)
        (nextKey (keys ++ elements.filter (hasPrefix · "meter:")) [] [])
  | unlisted (keys : List String) (err : String) :
      Next redis (scanning keys) (.failed err) (finished (some ("redis scan: " ++ err)))
  | read (key tenantID : String) (requestAt : Day) (keys flushedKeys : List String)
      (rows keyRows : List MeterRow) (order : MapOrder)
      (hread : meterRows tenantID requestAt (order.visit (redis.hgetAll key)) = keyRows) :
      Next redis (reading key tenantID requestAt keys rows flushedKeys) (.fields order)
        (nextKey keys (rows ++ keyRows)
          (if keyRows = [] then flushedKeys else flushedKeys ++ [key]))
  | skipped (key tenantID : String) (requestAt : Day) (keys flushedKeys : List String)
      (rows : List MeterRow) (err : String) :
      Next redis (reading key tenantID requestAt keys rows flushedKeys) (.failed err)
        (nextKey keys rows flushedKeys)
  | inserted (rows : List MeterRow) (flushedKeys : List String) :
      Next redis (inserting rows flushedKeys) .ok (deleting rows flushedKeys)
  | unkeyed (rows : List MeterRow) : Next redis (inserting rows []) .ok (finished none)
  | refused (rows : List MeterRow) (flushedKeys : List String) (err : String) :
      Next redis (inserting rows flushedKeys) (.failed err)
        (finished (some ("bulk insert: " ++ err)))
  | deleted (rows : List MeterRow) (flushedKeys : List String) :
      Next redis (deleting rows flushedKeys) .ok (finished none)
  | undeleted (rows : List MeterRow) (flushedKeys : List String) (err : String) :
      Next redis (deleting rows flushedKeys) (.failed err) (finished none)

theorem next_cases (redis : Redis) (flush : Flush) (a : Answer) :
    Next redis flush a (flush.next redis a) := by
  cases flush with
  | scanning keys =>
    cases a with
    | scanned elements cursor =>
      dsimp only [next]
      split
      next hlast =>
        subst hlast
        exact .listed keys elements
      next => exact .scanned keys elements cursor
    | failed err => exact .unlisted keys err
    | fields | ok => exact .ignored rfl rfl rfl
  | reading key tenantID requestAt keys rows flushedKeys =>
    cases a with
    | fields order => exact .read key tenantID requestAt keys flushedKeys rows _ order rfl
    | failed err => exact .skipped key tenantID requestAt keys flushedKeys rows err
    | scanned | ok => exact .ignored rfl rfl rfl
  | inserting rows flushedKeys =>
    cases a with
    | ok =>
      dsimp only [next]
      split
      next hnone =>
        subst hnone
        exact .unkeyed rows
      next => exact .inserted rows flushedKeys
    | failed err => exact .refused rows flushedKeys err
    | scanned | fields => exact .ignored rfl rfl rfl
  | deleting rows flushedKeys =>
    cases a with
    | ok => exact .deleted rows flushedKeys
    | failed err => exact .undeleted rows flushedKeys err
    | scanned | fields => exact .ignored rfl rfl rfl
  | finished err => cases a <;> exact .ignored rfl rfl rfl

theorem Next.sound {redis : Redis} {flush next : Flush} {a : Answer} (h : Next redis flush a next)
    (hsound : flush.Sound) : next.Sound := by
  have hscan : ∀ keys elements : List String, (∀ key ∈ keys, hasPrefix key "meter:") →
      ∀ key ∈ keys ++ elements.filter (hasPrefix · "meter:"), hasPrefix key "meter:" := by
    intro keys elements hkeys key hkey
    exact (List.mem_append.mp hkey).elim (hkeys key) fun hk => (List.mem_filter.mp hk).2
  cases h with
  | ignored => exact hsound
  | scanned keys elements cursor => exact hscan keys elements hsound
  | listed keys elements =>
    refine nextKey_sound (hscan keys elements hsound) ⟨fun _ hrow => ?_, fun hne => ?_⟩
    · exact absurd hrow List.not_mem_nil
    · exact absurd rfl hne
  | read key tenantID requestAt keys flushedKeys rows keyRows order hread =>
    obtain ⟨_, _, hkeys, hcarries⟩ := hsound
    refine nextKey_sound hkeys (hcarries.read (fun row hrow => ?_) key)
    exact read_of_mem (hread ▸ hrow)
  | skipped key tenantID requestAt keys flushedKeys rows err =>
    obtain ⟨_, _, hkeys, hcarries⟩ := hsound
    exact nextKey_sound hkeys hcarries
  | inserted => exact hsound
  | unlisted | unkeyed | refused | deleted | undeleted => exact trivial

theorem awaiting_nextKey (c : Cell) (keys : List String) (rows : List MeterRow)
    (flushedKeys : List String) : (nextKey keys rows flushedKeys).awaiting c = 0 := by
  induction keys with
  | nil =>
    rw [nextKey]
    split <;> rfl
  | cons key keys ih =>
    rw [nextKey]
    split
    next => exact ih
    next => rfl

theorem Next.awaiting {redis : Redis} {flush next : Flush} {a : Answer}
    (h : Next redis flush a next) (hsound : flush.Sound) (c : Cell) :
    next.awaiting c = flush.awaiting c + total c (flush.inserts a) - total c (flush.settles a) := by
  have hnil : total c [] = 0 := rfl
  cases h with
  | ignored inserts deletes settles => rw [inserts, settles, hnil, add_zero, sub_zero]
  | listed | read | skipped => exact awaiting_nextKey c _ _ _
  | inserted rows flushedKeys =>
    dsimp only [Flush.awaiting, inserts, settles]
    rw [hnil, zero_add, sub_zero]
  | unkeyed rows => exact absurd rfl (hsound.2.keyed hsound.1)
  | deleted rows flushedKeys | undeleted rows flushedKeys =>
    dsimp only [Flush.awaiting, inserts, settles]
    rw [hnil, add_zero, sub_self]
  | scanned | unlisted | refused => rfl

end Flush

/-! ## The law of a step -/

theorem exists_total_pos {rows : List MeterRow} (hne : rows ≠ []) (h : ∀ row ∈ rows, row.Read) :
    ∃ c, 0 < total c rows := by
  obtain ⟨row, rest, rfl⟩ := List.exists_cons_of_ne_nil hne
  rw [List.forall_mem_cons] at h
  let c : Cell := ⟨row.tenantID, row.requestAt, ⟨row.method, h.1.method⟩, row.endpoint⟩
  have hfor : row.IsFor c := ⟨rfl, rfl, rfl, rfl⟩
  have hrest : 0 ≤ (rest.map fun row => if row.IsFor c then id row.count else 0).sum := by
    refine List.sum_nonneg fun x hx => ?_
    obtain ⟨row', hrow', rfl⟩ := List.mem_map.mp hx
    split
    next => exact (h.2 row' hrow').count.le
    next => exact le_rfl
  refine ⟨c, ?_⟩
  rw [total, weigh, List.map_cons, List.sum_cons, if_pos hfor]
  exact add_pos_of_pos_of_nonneg h.1.count hrest

/-- The DELs that keep the totals. -/
theorem exact_answer_iff {s : MeterState} {i : ℕ} {flush : Flush} (h : s.flushes[i]? = some flush)
    (hsound : flush.Sound) (a : Answer) :
    Exact s (.answer i a) ↔ ∀ c, total c (flush.settles a) =
      if c.key ∈ flush.deletes a then (stored s.redis c : ℤ) else 0 := by
  unfold Exact
  dsimp only
  rw [h]
  cases flush with
  | deleting rows flushedKeys =>
    cases a with
    | ok => exact Iff.rfl
    | failed err =>
      refine ⟨False.elim, fun hzero => ?_⟩
      obtain ⟨c, hc⟩ := exists_total_pos hsound.1 hsound.2.counted
      exact hc.ne' (hzero c)
    | scanned | fields => exact ⟨fun _ c => rfl, fun _ => trivial⟩
  | scanning | reading | inserting | finished =>
    exact ⟨fun _ c => by cases a <;> rfl, fun _ => by cases a <;> trivial⟩

theorem stored_del (keys : List String) (redis : Redis) (c : Cell) :
    stored (redis.del keys) c = if c.key ∈ keys then 0 else stored redis c := by
  unfold stored Redis.count
  rw [Redis.hash_del]
  split <;> rfl

theorem accounted_request {s : MeterState} (hacc : Accounted s) (r : Completed) :
    Exact s (.request r) ↔ Accounted (s.step (.request r)) := by
  have hmade : ∀ c, made (s.step (.request r)) c = made s c + if r.cell = c then 1 else 0 := by
    intro c
    simp only [made, MeterState.step, List.countP_append, List.countP_singleton, decide_eq_true_eq]
  have hredis : (s.step (.request r)).redis = meteringMiddleware r s.redis := rfl
  have hinserted : (s.step (.request r)).inserted = s.inserted := rfl
  have hflushes : (s.step (.request r)).flushes = s.flushes := rfl
  unfold Exact
  constructor
  · intro h c
    have hc := hacc c
    rw [hmade, hredis, stored_meteringMiddleware, hinserted, hflushes]
    by_cases hcell : c = r.cell
    · subst hcell
      rw [if_pos ⟨rfl, h⟩, if_pos rfl]
      push_cast
      omega
    · rw [if_neg fun h => hcell h.1, if_neg fun h => hcell h.symm]
      exact hc
  · intro h
    by_contra hover
    have hbefore := hacc r.cell
    have hafter := h r.cell
    rw [hmade, hredis, stored_meteringMiddleware, hinserted, hflushes,
      if_neg fun hc => hover hc.2, if_pos rfl] at hafter
    push_cast at hafter
    omega

theorem accounted_tick {s : MeterState} (hacc : Accounted s) : Accounted (s.step .tick) := by
  intro c
  have hflushes : ((s.step .tick).flushes.map (·.awaiting c)).sum =
      (s.flushes.map (·.awaiting c)).sum := by
    simp [MeterState.step, Flush.awaiting]
  rw [hflushes]
  exact hacc c

theorem accounted_answer {s : MeterState} (hacc : Accounted s) {i : ℕ} {flush : Flush}
    (h : s.flushes[i]? = some flush) (hsound : flush.Sound) (a : Answer) :
    Exact s (.answer i a) ↔ Accounted (s.step (.answer i a)) := by
  rw [exact_answer_iff h hsound, MeterState.step_answer h]
  refine forall_congr' fun c => ?_
  have hc := hacc c
  have hmade : made (s.answered i flush a) c = made s c := rfl
  have hawaiting := sum_map_set h (flush.next s.redis a) (·.awaiting c)
  rw [(flush.next_cases s.redis a).awaiting hsound] at hawaiting
  rw [hmade, MeterState.answered]
  dsimp only
  rw [hawaiting, total_append, stored_del]
  split <;> push_cast <;> constructor <;> intro <;> omega

/-- The law says of each step just what the condition says. -/
theorem accounted_step {s : MeterState} (hsound : ∀ flush ∈ s.flushes, flush.Sound)
    (hacc : Accounted s) (i : Input) : Exact s i ↔ Accounted (s.step i) := by
  cases i with
  | request r => exact accounted_request hacc r
  | tick => exact ⟨fun _ => accounted_tick hacc, fun _ => trivial⟩
  | answer i a =>
    cases h : s.flushes[i]? with
    | none =>
      have hexact : Exact s (.answer i a) := by
        unfold Exact
        dsimp only
        rw [h]
        exact trivial
      rw [MeterState.step_answer_none h]
      exact ⟨fun _ => hacc, fun _ => hexact⟩
    | some flush => exact accounted_answer hacc h (hsound flush (List.mem_of_getElem? h)) a

theorem sound_step {s : MeterState} (hsound : ∀ flush ∈ s.flushes, flush.Sound) (i : Input) :
    ∀ flush ∈ (s.step i).flushes, flush.Sound := by
  cases i with
  | request r => exact hsound
  | tick =>
    intro flush hflush
    rcases List.mem_append.mp hflush with hflush | hflush
    · exact hsound flush hflush
    · rw [List.mem_singleton.mp hflush]
      exact fun _ hkey => absurd hkey List.not_mem_nil
  | answer i a =>
    cases h : s.flushes[i]? with
    | none =>
      rw [MeterState.step_answer_none h]
      exact hsound
    | some flush =>
      rw [MeterState.step_answer h]
      intro flush' hflush'
      rcases List.mem_or_eq_of_mem_set hflush' with hflush' | rfl
      · exact hsound flush' hflush'
      · exact (flush.next_cases s.redis a).sound (hsound flush (List.mem_of_getElem? h))

theorem accounted_start : Accounted .start := fun _ => rfl

theorem sound_start : ∀ flush ∈ MeterState.start.flushes, flush.Sound :=
  fun _ hflush => absurd hflush List.not_mem_nil

/-! ## Quiet runs -/

namespace Flush

/-- What an answer does to the rows and keys that a flush carries. -/
inductive Moves (redis : Redis) (a : Answer) : Flush → Flush → Prop
  | keeps {flush next : Flush} (rows : next.rows = flush.rows) (held : next.held = flush.held)
      (deletes : flush.deletes a = []) : Moves redis a flush next
  | drops {flush next : Flush} (rows : next.rows = []) (held : next.held = []) :
      Moves redis a flush next
  | reads {key tenantID : String} {requestAt : Day} {keys flushedKeys : List String}
      {rows : List MeterRow} {next : Flush} (order : MapOrder) (answer : a = .fields order)
      (read : next.rows = rows ++ meterRows tenantID requestAt (order.visit (redis.hgetAll key)))
      (held : next.held =
        if meterRows tenantID requestAt (order.visit (redis.hgetAll key)) = [] then flushedKeys
        else flushedKeys ++ [key]) :
      Moves redis a (reading key tenantID requestAt keys rows flushedKeys) next

/-- The loop over the keys loses what the flush carries only when that is nothing. -/
theorem nextKey_carries (keys : List String) (rows : List MeterRow) (flushedKeys : List String) :
    (nextKey keys rows flushedKeys).rows = rows ∧
      ((nextKey keys rows flushedKeys).held = flushedKeys ∨
        rows = [] ∧ (nextKey keys rows flushedKeys).held = []) := by
  induction keys with
  | nil =>
    rw [nextKey]
    split
    next hempty => exact ⟨hempty.symm, Or.inr ⟨hempty, rfl⟩⟩
    next => exact ⟨rfl, Or.inl rfl⟩
  | cons key keys ih =>
    rw [nextKey]
    split
    next => exact ih
    next => exact ⟨rfl, Or.inl rfl⟩

theorem Next.moves {redis : Redis} {flush next : Flush} {a : Answer}
    (h : Next redis flush a next) : Moves redis a flush next := by
  cases h with
  | ignored inserts deletes settles => exact .keeps rfl rfl deletes
  | listed keys elements =>
    obtain ⟨hrows, hheld⟩ := nextKey_carries
      (keys ++ elements.filter (hasPrefix · "meter:")) [] []
    exact .drops hrows (hheld.elim id fun h => h.2)
  | read key tenantID requestAt keys flushedKeys rows keyRows order hread =>
    subst hread
    obtain ⟨hrows, hheld | ⟨hempty, hheld⟩⟩ := nextKey_carries keys
      (rows ++ meterRows tenantID requestAt (order.visit (redis.hgetAll key)))
      (if meterRows tenantID requestAt (order.visit (redis.hgetAll key)) = [] then flushedKeys
        else flushedKeys ++ [key])
    · exact .reads order rfl hrows hheld
    · exact .drops (hrows.trans hempty) hheld
  | skipped key tenantID requestAt keys flushedKeys rows err =>
    obtain ⟨hrows, hheld | ⟨hempty, hheld⟩⟩ := nextKey_carries keys rows flushedKeys
    · exact .keeps hrows hheld rfl
    · exact .drops (hrows.trans hempty) hheld
  | inserted => exact .keeps rfl rfl rfl
  | scanned | unlisted | unkeyed | refused | deleted | undeleted => exact .drops rfl rfl

theorem deletes_held {flush : Flush} {a : Answer} {key : String} (h : key ∈ flush.deletes a) :
    key ∈ flush.held := by
  unfold deletes at h
  split at h
  next => exact h
  next => exact absurd h List.not_mem_nil

end Flush

/-- What each flush carries is in Redis, and no two flushes carry one key. -/
structure Untouched (s : MeterState) : Prop where
  sound : ∀ flush ∈ s.flushes, flush.Sound
  copies : ∀ flush ∈ s.flushes, ∀ c,
    total c flush.rows = if c.key ∈ flush.held then (stored s.redis c : ℤ) else 0
  apart : ∀ (i j : ℕ) (f g : Flush), s.flushes[i]? = some f → s.flushes[j]? = some g → i ≠ j →
    ∀ key ∈ f.held, key ∉ g.held

theorem flush_answered {s : MeterState} {i j : ℕ} {f g : Flush} (h : s.flushes[i]? = some f)
    {a : Answer} (hg : (s.answered i f a).flushes[j]? = some g) :
    i = j ∧ g = f.next s.redis a ∨ i ≠ j ∧ s.flushes[j]? = some g := by
  have hset : (s.answered i f a).flushes = s.flushes.set i (f.next s.redis a) := rfl
  rw [hset, List.getElem?_set] at hg
  split at hg
  next hij =>
    subst hij
    have hlt := (List.getElem?_eq_some_iff.mp h).1
    rw [if_pos hlt] at hg
    exact Or.inl ⟨rfl, (Option.some.inj hg).symm⟩
  next hij => exact Or.inr ⟨hij, hg⟩

theorem untouched_answered {s : MeterState} (hu : Untouched s) {i : ℕ} {f : Flush}
    (h : s.flushes[i]? = some f) {a : Answer}
    (hcopies : ∀ c, total c (f.next s.redis a).rows =
      if c.key ∈ (f.next s.redis a).held then (stored s.redis c : ℤ) else 0)
    (hheld : ∀ key ∈ (f.next s.redis a).held,
      key ∉ f.deletes a ∧ (key ∈ f.held ∨ ∀ g ∈ s.flushes, key ∉ g.held)) :
    Untouched (s.answered i f a) where
  sound := by
    rw [← MeterState.step_answer h]
    exact sound_step hu.sound _
  copies := by
    intro g hg c
    obtain ⟨j, hj⟩ := List.mem_iff_getElem?.mp hg
    have hredis : (s.answered i f a).redis = s.redis.del (f.deletes a) := rfl
    rw [hredis, stored_del]
    obtain ⟨_, rfl⟩ | ⟨hij, hj⟩ := flush_answered h hj
    · -- the flush that moved deletes nothing that it still carries
      rw [hcopies c]
      split
      next hmem => rw [if_neg (hheld _ hmem).1]
      next => rfl
    · rw [hu.copies g (List.mem_of_getElem? hj) c]
      split
      next hmem =>
        have hnot : c.key ∉ f.deletes a := by
          intro hdel
          exact hu.apart i j f g h hj hij _ (Flush.deletes_held hdel) hmem
        rw [if_neg hnot]
      next => rfl
  apart := by
    -- what the flush that moved carries is apart from the others
    have hmoved : ∀ j g, i ≠ j → s.flushes[j]? = some g →
        ∀ key ∈ (f.next s.redis a).held, key ∉ g.held := by
      intro j g hij hj key hkey
      obtain hold | hnew := (hheld key hkey).2
      · exact hu.apart i j f g h hj hij key hold
      · exact hnew g (List.mem_of_getElem? hj)
    intro j k g g' hg hg' hjk key hkey hkey'
    obtain ⟨rfl, rfl⟩ | ⟨hij, hj⟩ := flush_answered h hg
    · obtain ⟨hik, _⟩ | ⟨hik, hk⟩ := flush_answered h hg'
      · exact hjk hik
      · exact hmoved k g' hik hk key hkey hkey'
    · obtain ⟨rfl, rfl⟩ | ⟨_, hk⟩ := flush_answered h hg'
      · exact hmoved j g hij hj key hkey' hkey
      · exact hu.apart j k g g' hj hk hjk key hkey hkey'

/-- The rows read from a key that no flush carries are that key's counts. -/
theorem copies_read {s : MeterState} (hu : Untouched s) {key tenantID : String} {requestAt : Day}
    {keys flushedKeys : List String} {rows : List MeterRow}
    (hmem : .reading key tenantID requestAt keys rows flushedKeys ∈ s.flushes)
    (hnew : key ∉ flushedKeys) (order : MapOrder) (c : Cell) :
    total c (rows ++ meterRows tenantID requestAt (order.visit (s.redis.hgetAll key))) =
      if c.key ∈ (if meterRows tenantID requestAt (order.visit (s.redis.hgetAll key)) = [] then
        flushedKeys else flushedKeys ++ [key]) then (stored s.redis c : ℤ) else 0 := by
  obtain ⟨hmeter, hparse, _, _⟩ := hu.sound _ hmem
  have hold : total c rows = if c.key ∈ flushedKeys then (stored s.redis c : ℤ) else 0 :=
    hu.copies _ hmem c
  have hread := weigh_hgetAll id hmeter hparse (order.visit_perm (s.redis.hgetAll key)) c
  generalize meterRows tenantID requestAt (order.visit (s.redis.hgetAll key)) = keyRows at hread ⊢
  rw [total_append, hold, total, hread]
  by_cases hempty : keyRows = []
  · -- nothing is stored under the key
    rw [hempty] at hread
    have hnone : (if c.key = key ∧ stored s.redis c ≠ 0 then id (stored s.redis c : ℤ)
        else 0) = 0 := hread.symm
    rw [hnone, add_zero, if_pos hempty]
  · rw [if_neg hempty]
    by_cases hkey : c.key = key
    · subst hkey
      by_cases hzero : stored s.redis c = 0 <;> simp [hnew, hzero]
    · simp [hkey]

theorem quiet_answer {s : MeterState} (hu : Untouched s) {i : ℕ} {flush : Flush}
    (h : s.flushes[i]? = some flush) {a : Answer} (hq : Quiet s (.answer i a)) :
    Untouched (s.answered i flush a) := by
  have hmem := List.mem_of_getElem? h
  unfold Quiet at hq
  dsimp only at hq
  rw [h] at hq
  cases (flush.next_cases s.redis a).moves with
  | keeps rows held deletes =>
    refine untouched_answered hu h (fun c => ?_) (fun key hkey => ?_)
    · rw [rows, held]
      exact hu.copies flush hmem c
    · rw [held] at hkey
      rw [deletes]
      exact ⟨List.not_mem_nil, Or.inl hkey⟩
  | drops rows held =>
    refine untouched_answered hu h (fun c => ?_) (fun key hkey => ?_)
    · rw [rows, held]
      rfl
    · rw [held] at hkey
      exact absurd hkey List.not_mem_nil
  | reads order answer read held =>
    subst answer
    refine untouched_answered hu h (fun c => ?_) (fun key hkey => ?_)
    · rw [read, held]
      exact copies_read hu hmem (hq _ hmem) order c
    · refine ⟨List.not_mem_nil, ?_⟩
      rw [held] at hkey
      split at hkey
      next => exact Or.inl hkey
      next =>
        obtain hkey | hkey := List.mem_append.mp hkey
        · exact Or.inl hkey
        · rw [List.mem_singleton.mp hkey]
          exact Or.inr hq

theorem quiet_request {s : MeterState} (hu : Untouched s) {r : Completed}
    (hq : Quiet s (.request r)) : Untouched (s.step (.request r)) := by
  have hredis : (s.step (.request r)).redis = meteringMiddleware r s.redis := rfl
  have hflushes : (s.step (.request r)).flushes = s.flushes := rfl
  refine ⟨?_, ?_, ?_⟩
  · rw [hflushes]
    exact hu.sound
  · rw [hflushes]
    intro flush hflush c
    rw [hu.copies flush hflush c, hredis, stored_meteringMiddleware]
    split
    next hmem =>
      have hcell : c ≠ r.cell := by
        rintro rfl
        exact hq.2 flush hflush hmem
      rw [if_neg fun hc => hcell hc.1]
    next => rfl
  · rw [hflushes]
    exact hu.apart

theorem quiet_tick {s : MeterState} (hu : Untouched s) : Untouched (s.step .tick) := by
  have hflushes : (s.step .tick).flushes = s.flushes ++ [.scanning []] := rfl
  have hold : ∀ (i : ℕ) (f : Flush), (s.step .tick).flushes[i]? = some f →
      s.flushes[i]? = some f ∨ f = .scanning [] := by
    intro i f hf
    rw [hflushes, List.getElem?_append] at hf
    split at hf
    next => exact Or.inl hf
    next => exact Or.inr (List.mem_singleton.mp (List.mem_of_getElem? hf))
  refine ⟨sound_step hu.sound _, fun flush hflush c => ?_, fun i j f g hf hg hij key hkey => ?_⟩
  · rcases List.mem_append.mp hflush with hflush | hflush
    · exact hu.copies flush hflush c
    · rw [List.mem_singleton.mp hflush]
      rfl
  · rcases hold i f hf with hf | rfl
    · rcases hold j g hg with hg | rfl
      · exact hu.apart i j f g hf hg hij key hkey
      · exact List.not_mem_nil
    · exact absurd hkey List.not_mem_nil

theorem quiet_step (s : MeterState) (i : Input) (hu : Untouched s) (hq : Quiet s i) :
    Untouched (s.step i) := by
  cases i with
  | request r => exact quiet_request hu hq
  | tick => exact quiet_tick hu
  | answer i a =>
    cases h : s.flushes[i]? with
    | none =>
      rw [MeterState.step_answer_none h]
      exact hu
    | some flush =>
      rw [MeterState.step_answer h]
      exact quiet_answer hu h hq

theorem quiet_exact (s : MeterState) (i : Input) (hu : Untouched s) (hq : Quiet s i) :
    Exact s i := by
  cases i with
  | request r => exact hq.1
  | tick => exact trivial
  | answer i a =>
    unfold Exact
    unfold Quiet at hq
    dsimp only at hq ⊢
    cases h : s.flushes[i]? with
    | none => exact trivial
    | some flush =>
      rw [h] at hq
      cases flush with
      | deleting rows flushedKeys =>
        cases a with
        | ok => exact hu.copies _ (List.mem_of_getElem? h)
        | failed err => exact hq
        | scanned | fields => exact trivial
      | scanning | reading | inserting | finished => exact trivial

theorem untouched_start : Untouched .start where
  sound := sound_start
  copies := fun _ hflush => absurd hflush List.not_mem_nil
  apart := fun _ _ _ _ hf => nomatch hf

/-! ## The law of a run -/

theorem Accounted.totals {s : MeterState} (h : Accounted s) (hrest : AtRest s) (c : Cell) :
    total c s.inserted + stored s.redis c = made s c := by
  have hzero : (s.flushes.map (·.awaiting c)).sum = 0 := by
    refine List.sum_eq_zero fun x hx => ?_
    obtain ⟨flush, hflush, rfl⟩ := List.mem_map.mp hx
    cases flush with
    | deleting rows flushedKeys => exact absurd hflush (hrest rows flushedKeys)
    | scanning | reading | inserting | finished => rfl
  rw [h c, hzero, add_zero]

/-- A run loses and doubles nothing, in any of its states, if and only if its DELs are exact;
    then the totals are right whenever no flush is about to delete. Quiet runs are of this kind. -/
theorem accounted_iff (is : List Input) :
    ((∀ n, Accounted (run MeterState.step .start (is.take n))) ↔
      StepsSatisfy MeterState.step Exact .start is) ∧
    (StepsSatisfy MeterState.step Exact .start is →
      ∀ n s, s = run MeterState.step .start (is.take n) → AtRest s →
        ∀ c, total c s.inserted + stored s.redis c = made s c) ∧
    (StepsSatisfy MeterState.step Quiet .start is →
      StepsSatisfy MeterState.step Exact .start is) := by
  have hlaw := stepsSatisfy_iff (I := fun s : MeterState => ∀ flush ∈ s.flushes, flush.Sound)
    (fun s i hsound => sound_step hsound i) (fun s i hsound hacc => accounted_step hsound hacc i)
    sound_start accounted_start is
  refine ⟨hlaw.symm, fun hexact n s hs hrest c => ?_, ?_⟩
  · subst hs
    exact (hlaw.mp hexact n).totals hrest c
  · exact StepsSatisfy.mono (I := Untouched) quiet_step quiet_exact untouched_start

/-! ## Two runs that are not exact -/

namespace Sample

def today : Day := ⟨2024, 1, 15, by decide, by decide, by decide⟩

def get (path : String) : Completed where
  header := Header.empty.set "X-Tenant-ID" "t1"
  method := ⟨"GET", by decide⟩
  fullPath := path
  status := 200
  today := today

def users : Completed := get "/api/v1/users"

/-- The first flush up to its INSERT, with a request between the HGETALL and the INSERT or not. -/
def flushed (between : List Input) : List Input :=
  [.request users, .tick, .answer 0 (.scanned [meterKey "t1" today] 0),
    .answer 0 (.fields .sent)] ++ between ++ [.answer 0 .ok]

/-- A request comes between HGETALL and DEL. -/
def lost : MeterState :=
  run MeterState.step .start (flushed [.request users] ++ [.answer 0 .ok])

/-- The DEL fails. -/
def doubled : MeterState :=
  run MeterState.step .start (flushed [] ++ [.answer 0 (.failed "i/o timeout")])

end Sample

open Sample in
theorem requests_lost :
    (AtRest lost ∧ made lost users.cell = 2 ∧
      total users.cell lost.inserted + stored lost.redis users.cell = 1) ∧
    (AtRest doubled ∧ made doubled users.cell = 1 ∧
      total users.cell doubled.inserted + stored doubled.redis users.cell = 2) := by
  have hrest : ∀ s : MeterState, s.flushes = [.finished none] → AtRest s := by
    intro s hs rows flushedKeys hmem
    rw [hs, List.mem_singleton] at hmem
    exact nomatch hmem
  have hlost : lost.flushes = [.finished none] := by decide +kernel
  have hdoubled : doubled.flushes = [.finished none] := by decide +kernel
  refine ⟨⟨hrest _ hlost, ?_, ?_⟩, hrest _ hdoubled, ?_, ?_⟩
  all_goals decide +kernel

end SaasChassis.Metering
