/-
  What `StartConsumer` does with each delivery of one channel: every body, every insert that fails
  for whatever reason, a tick at any moment, the channel closed or not.

  A delivery is settled by a call: `Ack`, `Nack` with requeue, or `Nack` without. After the channel
  is closed the broker no longer hears these calls; they are recorded all the same.

  `run_settlement`: after every step each delivery is pending or settled, never both and never
  twice, and how it was settled says what became of its event.
-/
import SaasChassis.Audit.Repository
import SaasChassis.Lib.KeyedRows
import SaasChassis.Lib.Runs

namespace SaasChassis.Audit

open SaasChassis.Lib SaasChassis.Lib.Postgres

/-! ## The loop -/

structure Delivery where
  /-- Counts the deliveries of a channel. -/
  deliveryTag : ℕ
  /-- `none` where the body is not JSON. -/
  body : Option WireJson

/-- The event that `json.Unmarshal` makes of the body. -/
def Delivery.event (d : Delivery) : Option AuditEvent := d.body.bind AuditEvent.decode

inductive Settlement where
  /-- `Ack(false)` -/
  | acknowledged
  /-- `Nack(false, true)` -/
  | requeued
  /-- `Nack(false, false)` -/
  | discarded
  deriving DecidableEq, Repr

/-- How a `BatchInsert` goes. -/
inductive Connection where
  | healthy
  /-- An error before the commit takes effect. -/
  | broken
  /-- The commit takes effect, its answer is lost. -/
  | lostAnswer
  deriving DecidableEq, Repr

/-- Whether `BatchInsert` returns no error, and the table it leaves. -/
def insertBatch (lib : Libraries) (connection : Connection) (table : List Entry)
    (events : List AuditEvent) : Bool × List Entry :=
  match connection, batchInsert lib table events with
  | .healthy, .ok table' => (true, table')
  | .healthy, .error _ => (false, table)
  | .broken, _ => (false, table)
  -- without a queued event nothing is committed
  | .lostAnswer, .ok table' => (decide (queued lib events = []), table')
  | .lostAnswer, .error _ => (false, table)

/-- One call of `BatchInsert`. -/
structure Insert where
  pending : List Delivery
  batch : List AuditEvent
  succeeded : Bool

/-- The consumer of one channel with the table. `delivered`, `settlements` and `inserts` are records
    for the statements. -/
structure Consumer where
  batch : List AuditEvent
  pending : List Delivery
  table : List Entry
  delivered : List Delivery
  settlements : List (ℕ × Settlement)
  inserts : List Insert
  returned : Bool

inductive ChannelInput where
  /-- A delivery; the connection is the one of the insert that it may set off. -/
  | message (body : Option WireJson) (connection : Connection)
  | tick (connection : Connection)
  | closed (connection : Connection)

namespace Consumer

def start (table : List Entry) : Consumer :=
  { batch := [], pending := [], table := table, delivered := [], settlements := [], inserts := [],
    returned := false }

variable (lib : Libraries)

/-- Every delivery of the batch is settled the same way. -/
def settleAll (pending : List Delivery) (succeeded : Bool) : List (ℕ × Settlement) :=
  pending.map fun d => (d.deliveryTag, if succeeded then .acknowledged else .requeued)

def flush (connection : Connection) (s : Consumer) : Consumer :=
  if s.batch.length = 0 then s
  else
    let (succeeded, table) := insertBatch lib connection s.table s.batch
    { s with
      batch := []
      pending := []
      table := table
      settlements := s.settlements ++ settleAll s.pending succeeded
      inserts := s.inserts ++ [{ pending := s.pending, batch := s.batch, succeeded := succeeded }] }

/-- A delivery, before the length of the batch is looked at. -/
def receive (body : Option WireJson) (s : Consumer) : Consumer :=
  let msg : Delivery := { deliveryTag := s.delivered.length, body := body }
  match msg.event with
  | none =>
    { s with
      delivered := s.delivered ++ [msg]
      settlements := s.settlements ++ [(msg.deliveryTag, .discarded)] }
  | some event =>
    { s with
      delivered := s.delivered ++ [msg]
      batch := s.batch ++ [event]
      pending := s.pending ++ [msg] }

def step (s : Consumer) (input : ChannelInput) : Consumer :=
  if s.returned then s
  else
    match input with
    | .message body connection =>
      let s := s.receive body
      if 100 ≤ s.batch.length then s.flush lib connection else s
    | .tick connection => s.flush lib connection
    | .closed connection => { s.flush lib connection with returned := true }

/-! ## Statement -/

/-- The event of the delivery is a row of the table. -/
def Stored (table : List Entry) (d : Delivery) : Prop :=
  ∃ e, d.event = some e ∧
    (lib.uuidParse e.tenantID = true → ∃ entry ∈ table, Entry.ofEvent lib e = some entry)

/-- The insert whose batch the delivery was in has ended this way. -/
def Inserted (s : Consumer) (d : Delivery) (succeeded : Bool) : Prop :=
  ∃ i ∈ s.inserts, d ∈ i.pending ∧ i.succeeded = succeeded

/-- `once`: a delivery is pending or settled, not both, and settled once at most. -/
structure Settled (s : Consumer) : Prop where
  aligned : s.pending.map (·.event) = s.batch.map some
  short : s.batch.length < 100 ∧ s.pending.length < 100
  tags : (s.delivered.map (·.deliveryTag)).Nodup
  pending : ∀ d ∈ s.pending, d ∈ s.delivered
  settlements : ∀ x ∈ s.settlements, ∃ d ∈ s.delivered, d.deliveryTag = x.1
  inserts : ∀ i ∈ s.inserts, i.pending.map (·.event) = i.batch.map some
  once : ∀ d ∈ s.delivered, s.pending.countP (·.deliveryTag = d.deliveryTag) +
    s.settlements.countP (·.1 = d.deliveryTag) = 1
  discarded_iff : ∀ d ∈ s.delivered,
    (d.deliveryTag, Settlement.discarded) ∈ s.settlements ↔ d.event = none
  requeued_iff : ∀ d ∈ s.delivered,
    (d.deliveryTag, Settlement.requeued) ∈ s.settlements ↔ Inserted s d false
  acknowledged : ∀ d ∈ s.delivered, (d.deliveryTag, Settlement.acknowledged) ∈ s.settlements →
    Inserted s d true ∧ Stored lib s.table d

/-! ## One insert -/

variable {lib} {s : Consumer}

theorem mem_of_mapM {events : List AuditEvent} {entries : List Entry}
    (h : events.mapM (Entry.ofEvent lib) = some entries) {e : AuditEvent} (he : e ∈ events) :
    ∃ entry ∈ entries, Entry.ofEvent lib e = some entry := by
  induction events generalizing entries with
  | nil => cases he
  | cons e' es ih =>
    rw [List.mapM_cons] at h
    obtain ⟨entry, hentry, h⟩ := Option.bind_eq_some_iff.mp h
    obtain ⟨rest, hrest, h⟩ := Option.bind_eq_some_iff.mp h
    cases h
    rcases List.mem_cons.mp he with rfl | he
    · exact ⟨entry, List.mem_cons_self, hentry⟩
    · obtain ⟨entry', hmem, hrow⟩ := ih hrest he
      exact ⟨entry', List.mem_cons_of_mem _ hmem, hrow⟩

theorem batchInsert_stored {table table' : List Entry} {events : List AuditEvent}
    (h : batchInsert lib table events = .ok table') :
    table ⊆ table' ∧ ∀ e ∈ events, lib.uuidParse e.tenantID = true →
      ∃ entry ∈ table', Entry.ofEvent lib e = some entry := by
  obtain ⟨entries, hentries, rfl⟩ := batchInsert_ok_iff.mp h
  refine ⟨List.subset_append_left table entries, fun e he hparse => ?_⟩
  obtain ⟨entry, hmem, hrow⟩ := mem_of_mapM hentries (List.mem_filter.mpr ⟨he, hparse⟩)
  exact ⟨entry, List.mem_append_right table hmem, hrow⟩

/-- No row is lost, and without an error the queued events are there. -/
theorem insertBatch_stored (connection : Connection) (table : List Entry)
    (events : List AuditEvent) :
    table ⊆ (insertBatch lib connection table events).2 ∧
      ((insertBatch lib connection table events).1 = true →
        ∀ e ∈ events, lib.uuidParse e.tenantID = true →
          ∃ entry ∈ (insertBatch lib connection table events).2,
            Entry.ofEvent lib e = some entry) := by
  unfold insertBatch
  cases hbatch : batchInsert lib table events with
  | error err => cases connection <;> exact ⟨fun _ h => h, nofun⟩
  | ok table' =>
    obtain ⟨hsub, hstored⟩ := batchInsert_stored hbatch
    cases connection with
    | healthy => exact ⟨hsub, fun _ => hstored⟩
    | broken => exact ⟨fun _ h => h, nofun⟩
    | lostAnswer => exact ⟨hsub, fun _ => hstored⟩

/-! ## One step -/

/-- Why a delivery is settled as it is. -/
def Reason (lib : Libraries) (s : Consumer) (d : Delivery) : Settlement → Prop
  | .discarded => d.event = none
  | .requeued => Inserted s d false
  | .acknowledged => Inserted s d true ∧ Stored lib s.table d

structure Accounted (lib : Libraries) (s : Consumer) : Prop where
  tags : s.delivered.map (·.deliveryTag) = List.range s.delivered.length
  aligned : s.pending.map (·.event) = s.batch.map some
  pending : ∀ d ∈ s.pending, d ∈ s.delivered
  once : (s.pending.map (·.deliveryTag) ++ s.settlements.map Prod.fst).Perm
    (s.delivered.map (·.deliveryTag))
  settled : ∀ x ∈ s.settlements, ∃ d ∈ s.delivered, d.deliveryTag = x.1 ∧ Reason lib s d x.2
  inserts : ∀ i ∈ s.inserts, i.pending.map (·.event) = i.batch.map some ∧
    ∀ x ∈ settleAll i.pending i.succeeded, x ∈ s.settlements

theorem start_accounted (table : List Entry) : Accounted lib (start table) :=
  ⟨rfl, rfl, nofun, .refl _, nofun, nofun⟩

theorem Stored.mono {table table' : List Entry} {d : Delivery} (hsub : table ⊆ table')
    (h : Stored lib table d) : Stored lib table' d := by
  obtain ⟨e, he, hstored⟩ := h
  refine ⟨e, he, fun hparse => ?_⟩
  obtain ⟨entry, hmem, hrow⟩ := hstored hparse
  exact ⟨entry, hsub hmem, hrow⟩

theorem Reason.mono {s' : Consumer} {d : Delivery} {how : Settlement}
    (hinserts : s.inserts ⊆ s'.inserts) (htable : s.table ⊆ s'.table) (h : Reason lib s d how) :
    Reason lib s' d how := by
  have hinserted {succeeded : Bool} (h : Inserted s d succeeded) : Inserted s' d succeeded := by
    obtain ⟨i, hi, hrest⟩ := h
    exact ⟨i, hinserts hi, hrest⟩
  cases how with
  | discarded => exact h
  | requeued => exact hinserted h
  | acknowledged => exact ⟨hinserted h.1, h.2.mono htable⟩

theorem Accounted.receive (h : Accounted lib s) (body : Option WireJson) :
    Accounted lib (s.receive body) := by
  obtain ⟨htags, haligned, hpending, honce, hsettled, hinserts⟩ := h
  have htags' : (s.delivered ++ [(⟨s.delivered.length, body⟩ : Delivery)]).map (·.deliveryTag) =
      List.range (s.delivered.length + 1) := by
    rw [List.map_append, htags, List.range_succ]
    rfl
  unfold Consumer.receive
  dsimp only
  split
  next hevent =>
    refine ⟨?_, haligned, fun d hd => List.mem_append_left _ (hpending d hd), ?_, ?_, ?_⟩
    · rw [List.length_append]
      exact htags'
    · rw [List.map_append, List.map_append, ← List.append_assoc]
      exact honce.append_right _
    · intro x hx
      rcases List.mem_append.mp hx with hx | hx
      · obtain ⟨d, hd, htag, hreason⟩ := hsettled x hx
        exact ⟨d, List.mem_append_left _ hd, htag, hreason.mono (fun _ h => h) fun _ h => h⟩
      · obtain rfl := List.mem_singleton.mp hx
        exact ⟨_, List.mem_append_right _ List.mem_cons_self, rfl, hevent⟩
    · intro i hi
      exact ⟨(hinserts i hi).1, fun x hx => List.mem_append_left _ ((hinserts i hi).2 x hx)⟩
  next event hevent =>
    refine ⟨?_, ?_, ?_, ?_, ?_, hinserts⟩
    · rw [List.length_append]
      exact htags'
    · simp [haligned, hevent]
    · intro d hd
      rcases List.mem_append.mp hd with hd | hd
      · exact List.mem_append_left _ (hpending d hd)
      · exact List.mem_append_right _ hd
    · rw [List.map_append, List.map_append, List.append_assoc]
      have hmove : ([s.delivered.length] ++ s.settlements.map Prod.fst).Perm
          (s.settlements.map Prod.fst ++ [s.delivered.length]) := List.perm_append_comm
      refine (hmove.append_left _).trans ?_
      rw [← List.append_assoc]
      exact honce.append_right _
    · intro x hx
      obtain ⟨d, hd, htag, hreason⟩ := hsettled x hx
      exact ⟨d, List.mem_append_left _ hd, htag, hreason.mono (fun _ h => h) fun _ h => h⟩

/-- A delivery in the batch has its event in the batch. -/
theorem Accounted.event_mem (h : Accounted lib s) {d : Delivery} (hd : d ∈ s.pending) :
    ∃ e ∈ s.batch, d.event = some e := by
  have hmem : d.event ∈ s.pending.map (·.event) := List.mem_map_of_mem hd
  rw [h.aligned] at hmem
  obtain ⟨e, he, hevent⟩ := List.mem_map.mp hmem
  exact ⟨e, he, hevent.symm⟩

theorem Accounted.flush (h : Accounted lib s) (connection : Connection) :
    Accounted lib (s.flush lib connection) ∧ (s.flush lib connection).batch = [] := by
  unfold Consumer.flush
  split
  next hempty => exact ⟨h, List.length_eq_zero_iff.mp hempty⟩
  next hsome =>
    obtain ⟨hsub, hstored⟩ := @insertBatch_stored lib connection s.table s.batch
    dsimp only
    generalize insertBatch lib connection s.table s.batch = result at hsub hstored ⊢
    obtain ⟨succeeded, table⟩ := result
    refine ⟨⟨h.tags, rfl, nofun, ?_, ?_, ?_⟩, rfl⟩
    · have hsettled : (settleAll s.pending succeeded).map Prod.fst =
          s.pending.map (·.deliveryTag) := by
        rw [settleAll, List.map_map]
        rfl
      rw [List.map_append, hsettled]
      show (s.settlements.map Prod.fst ++ s.pending.map (·.deliveryTag)).Perm
        (s.delivered.map (·.deliveryTag))
      exact List.perm_append_comm.trans h.once
    · intro x hx
      rcases List.mem_append.mp hx with hx | hx
      · obtain ⟨d, hd, htag, hreason⟩ := h.settled x hx
        exact ⟨d, hd, htag, hreason.mono (List.subset_append_left ..) hsub⟩
      · obtain ⟨d, hd, rfl⟩ := List.mem_map.mp hx
        refine ⟨d, h.pending d hd, rfl, ?_⟩
        have hmem : (⟨s.pending, s.batch, succeeded⟩ : Insert) ∈
            s.inserts ++ [⟨s.pending, s.batch, succeeded⟩] :=
          List.mem_append_right _ List.mem_cons_self
        cases succeeded with
        | false => exact ⟨_, hmem, hd, rfl⟩
        | true =>
          obtain ⟨e, he, hevent⟩ := h.event_mem hd
          exact ⟨⟨_, hmem, hd, rfl⟩, e, hevent, hstored rfl e he⟩
    · intro i hi
      rcases List.mem_append.mp hi with hi | hi
      · exact ⟨(h.inserts i hi).1, fun x hx => List.mem_append_left _ ((h.inserts i hi).2 x hx)⟩
      · obtain rfl := List.mem_singleton.mp hi
        exact ⟨h.aligned, fun x hx => List.mem_append_right _ hx⟩

theorem Accounted.step (h : Accounted lib s) (input : ChannelInput) :
    Accounted lib (s.step lib input) := by
  unfold Consumer.step
  split
  next => exact h
  next =>
    cases input with
    | message body connection =>
      have hreceived := h.receive body
      dsimp only
      split
      next => exact (hreceived.flush connection).1
      next => exact hreceived
    | tick connection => exact (h.flush connection).1
    | closed connection =>
      obtain ⟨htags, haligned, hpending, honce, hsettled, hinserts⟩ := (h.flush connection).1
      refine ⟨htags, haligned, hpending, honce, fun x hx => ?_, hinserts⟩
      obtain ⟨d, hd, htag, hreason⟩ := hsettled x hx
      exact ⟨d, hd, htag, hreason.mono (fun _ h => h) fun _ h => h⟩

theorem flush_batch_le (connection : Connection) (s : Consumer) :
    (s.flush lib connection).batch.length ≤ s.batch.length := by
  unfold Consumer.flush
  split
  · exact Nat.le_refl _
  · exact Nat.zero_le _

theorem step_short (h : Accounted lib s) (hshort : s.batch.length < 100) (input : ChannelInput) :
    (s.step lib input).batch.length < 100 := by
  unfold Consumer.step
  split
  next => exact hshort
  next =>
    cases input with
    | message body connection =>
      dsimp only
      split
      next =>
        rw [((h.receive body).flush connection).2]
        exact Nat.zero_lt_succ _
      next hnot => exact Nat.lt_of_not_le hnot
    | tick connection => exact Nat.lt_of_le_of_lt (flush_batch_le connection s) hshort
    | closed connection => exact Nat.lt_of_le_of_lt (flush_batch_le connection s) hshort

/-! ## Every run -/

theorem Accounted.tags_nodup (h : Accounted lib s) : (s.delivered.map (·.deliveryTag)).Nodup := by
  rw [h.tags]
  exact List.nodup_range

/-- The delivery that a settlement is about. -/
theorem Accounted.reason (h : Accounted lib s) {d : Delivery} {how : Settlement}
    (hd : d ∈ s.delivered) (hsettled : (d.deliveryTag, how) ∈ s.settlements) :
    Reason lib s d how := by
  obtain ⟨d', hd', htag, hreason⟩ := h.settled _ hsettled
  rw [← nodup_keys_inj h.tags_nodup hd' hd htag]
  exact hreason

/-- The deliveries of an insert have events. -/
theorem Accounted.inserted_event (h : Accounted lib s) {d : Delivery} {succeeded : Bool}
    (hd : Inserted s d succeeded) : d.event ≠ none := by
  obtain ⟨i, hi, hmem, -⟩ := hd
  have hevent : d.event ∈ i.pending.map (·.event) := List.mem_map_of_mem hmem
  rw [(h.inserts i hi).1] at hevent
  obtain ⟨e, -, he⟩ := List.mem_map.mp hevent
  rw [← he]
  exact Option.some_ne_none e

theorem Accounted.discarded (h : Accounted lib s) {d : Delivery} (hd : d ∈ s.delivered)
    (hnone : d.event = none) : (d.deliveryTag, Settlement.discarded) ∈ s.settlements := by
  have hmem : d.deliveryTag ∈ s.delivered.map (·.deliveryTag) := List.mem_map_of_mem hd
  rcases List.mem_append.mp (h.once.mem_iff.mpr hmem) with hpending | hsettled
  · obtain ⟨d', hd', htag⟩ := List.mem_map.mp hpending
    obtain ⟨e, -, he⟩ := h.event_mem hd'
    rw [nodup_keys_inj h.tags_nodup (h.pending d' hd') hd htag, hnone] at he
    cases he
  · obtain ⟨⟨tag, how⟩, hx, rfl⟩ := List.mem_map.mp hsettled
    have hreason := h.reason hd hx
    cases how with
    | discarded => exact hx
    | requeued => exact absurd hnone (h.inserted_event hreason)
    | acknowledged => exact absurd hnone (h.inserted_event hreason.1)

theorem Accounted.toSettled (h : Accounted lib s) (hshort : s.batch.length < 100) :
    Settled lib s := by
  have hlength : s.pending.length = s.batch.length := by
    rw [← List.length_map (·.event), h.aligned, List.length_map]
  refine ⟨h.aligned, ⟨hshort, hlength ▸ hshort⟩, h.tags_nodup, h.pending, fun x hx => ?_,
    fun i hi => (h.inserts i hi).1, fun d hd => ?_, fun d hd => ?_, fun d hd => ?_,
    fun d hd hx => h.reason hd hx⟩
  · obtain ⟨d, hd, htag, -⟩ := h.settled x hx
    exact ⟨d, hd, htag⟩
  · have hcount := h.once.countP_eq (· = d.deliveryTag)
    rw [List.countP_append, List.countP_map, List.countP_map] at hcount
    have hone : (s.delivered.map (·.deliveryTag)).count d.deliveryTag = 1 :=
      List.count_eq_one_of_mem h.tags_nodup (List.mem_map_of_mem hd)
    exact hcount.trans hone
  · exact ⟨h.reason hd, h.discarded hd⟩
  · refine ⟨h.reason hd, fun ⟨i, hi, hmem, hfailed⟩ => ?_⟩
    refine (h.inserts i hi).2 _ ?_
    rw [hfailed]
    exact List.mem_map_of_mem (f := fun d : Delivery => (d.deliveryTag, Settlement.requeued)) hmem

end Consumer

open Consumer

theorem run_settlement (lib : Libraries) (table : List Entry) (inputs : List ChannelInput) :
    Settled lib (run (Consumer.step lib) (Consumer.start table) inputs) := by
  have hinv : Accounted lib (run (Consumer.step lib) (Consumer.start table) inputs) ∧
      (run (Consumer.step lib) (Consumer.start table) inputs).batch.length < 100 :=
    run_invariant (I := fun s => Accounted lib s ∧ s.batch.length < 100)
      (fun s input hs => ⟨hs.1.step input, step_short hs.1 hs.2 input⟩)
      ⟨start_accounted table, Nat.zero_lt_succ 99⟩ inputs
  exact hinv.1.toSettled hinv.2

end SaasChassis.Audit
