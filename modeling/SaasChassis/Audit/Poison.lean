/-
  Can an event that the database refuses hold up the others?

  A batch is stored and acknowledged as a whole or goes back to the queue as a whole. A flush does
  its job (`FlushDone`) if and only if the check of the tenant and the table agree on every event
  of the batch (`flush_done_iff`): an event that passes the check and is refused takes the whole
  batch with it, and comes back with it. `not_blocked_iff` says this of whole runs: where the
  condition is met throughout, nothing ever goes back, and once the queue has been delivered, in
  any order, one tick leaves every acceptable event stored once. `payment_blocks` is a payment
  event behind an event of the SDK.
-/
import SaasChassis.Audit.Agreement
import SaasChassis.Audit.Consumer

namespace SaasChassis.Audit

open SaasChassis.Lib SaasChassis.Lib.Postgres

/-! ## Statement -/

section Statement

variable (lib : Libraries)

/-- The row that the table accepts for a message. -/
def Message.row (m : Message) : Option Entry := m.event.bind (Entry.ofEvent lib)

/-- The check of the tenant and the table agree on the events. -/
def Agrees (events : List AuditEvent) : Prop :=
  ∀ e ∈ events, lib.uuidParse e.tenantID ↔ (Entry.ofEvent lib e).isSome

namespace ConsumerState

/-- The state that a step flushes. -/
def flushing (s : ConsumerState) : ConsumerInput → Option ConsumerState
  | .publish _ => none
  | .deliver i => if 100 ≤ (s.received i).batch.length then some (s.received i) else none
  | .tick => some s
  | .closed => some s

/-- Every acceptable event of the batch is stored, once, the batch is acknowledged, and nothing
    goes back. -/
structure FlushDone (s s' : ConsumerState) : Prop where
  stored : s'.table = s.table ++ s.pending.filterMap (Message.row lib)
  acked : s'.acked = s.acked ++ s.pending
  requeued : s'.requeued = s.requeued

/-- If the step flushes, the flush does its job. -/
def NotBlocked (s : ConsumerState) (i : ConsumerInput) : Prop :=
  ∀ t, s.flushing i = some t → FlushDone lib t (s.step lib i)

/-- No batch is flushed with an event on which the check and the table differ, and the channel
    is not closed with a batch in hand. -/
def Sound (s : ConsumerState) : ConsumerInput → Prop
  | .closed => s.batch = []
  | i => ∀ t, s.flushing i = some t → Agrees lib t.batch

/-- Nothing has ever gone back, and what was acknowledged is what is stored. -/
structure Settled (s : ConsumerState) : Prop where
  requeued : s.requeued = []
  stored : s.table = s.acked.filterMap (Message.row lib)

end ConsumerState

end Statement

/-- The indices of `n` ready messages in the order in which they are delivered. -/
def Order : ℕ → List ℕ → Prop
  | 0, ks => ks = []
  | n + 1, k :: ks => k < n + 1 ∧ Order n ks
  | _ + 1, [] => False

/-! ## One flush -/

namespace ConsumerState

variable {lib : Libraries} {s : ConsumerState}

theorem length_queued_le {events : List AuditEvent} {entries : List Entry}
    (h : (queued lib events).mapM (Entry.ofEvent lib) = some entries) :
    entries.length ≤ (events.filterMap (Entry.ofEvent lib)).length := by
  induction events generalizing entries with
  | nil =>
    cases h
    exact le_rfl
  | cons e es ih =>
    rw [List.filterMap_cons]
    cases hparse : lib.uuidParse e.tenantID with
    | false =>
      rw [queued_of_not_parse hparse] at h
      have hrest := ih h
      cases Entry.ofEvent lib e with
      | none => exact hrest
      | some entry => exact hrest.trans (by simp)
    | true =>
      rw [queued_of_parse hparse, List.mapM_cons] at h
      obtain ⟨entry, hentry, h⟩ := Option.bind_eq_some_iff.mp h
      obtain ⟨rest, hrest, h⟩ := Option.bind_eq_some_iff.mp h
      cases h
      rw [hentry]
      simpa using ih hrest

/-- The queued events give the rows of all acceptable ones just when the check and the table
    agree. -/
theorem mapM_queued_iff {events : List AuditEvent} :
    (queued lib events).mapM (Entry.ofEvent lib) = some (events.filterMap (Entry.ofEvent lib)) ↔
      Agrees lib events := by
  induction events with
  | nil => exact ⟨fun _ _ he => absurd he List.not_mem_nil, fun _ => rfl⟩
  | cons e es ih =>
    rw [Agrees, List.forall_mem_cons, List.filterMap_cons]
    cases hparse : lib.uuidParse e.tenantID with
    | false =>
      rw [queued_of_not_parse hparse]
      cases Entry.ofEvent lib e with
      | none => simpa [Agrees] using ih
      | some entry =>
        -- the row of a skipped event would be one too many
        have hshort : ∀ h : (queued lib es).mapM (Entry.ofEvent lib) =
            some (entry :: es.filterMap (Entry.ofEvent lib)), False := by
          intro h
          have hlen := length_queued_le h
          rw [List.length_cons] at hlen
          omega
        simpa using hshort
    | true =>
      rw [queued_of_parse hparse, List.mapM_cons]
      cases Entry.ofEvent lib e with
      | none => simp
      | some entry =>
        have hcons : (some entry >>= fun entry => (queued lib es).mapM (Entry.ofEvent lib) >>=
            fun rest => pure (entry :: rest)) =
              some (entry :: es.filterMap (Entry.ofEvent lib)) ↔
            (queued lib es).mapM (Entry.ofEvent lib) =
              some (es.filterMap (Entry.ofEvent lib)) := by
          cases (queued lib es).mapM (Entry.ofEvent lib) <;> simp
        rw [hcons, ih]
        simp [Agrees]

theorem Aligned.rows (h : s.Aligned) :
    s.pending.filterMap (Message.row lib) = s.batch.filterMap (Entry.ofEvent lib) := by
  calc s.pending.filterMap (Message.row lib)
      = (s.pending.map Message.event).filterMap (·.bind (Entry.ofEvent lib)) := by
        rw [List.filterMap_map]
        rfl
    _ = (s.batch.map some).filterMap (·.bind (Entry.ofEvent lib)) := by rw [h.batch]
    _ = s.batch.filterMap (Entry.ofEvent lib) := by
        rw [List.filterMap_map]
        rfl

theorem Aligned.pending_ne_nil (h : s.Aligned) (hb : s.batch ≠ []) : s.pending ≠ [] := by
  intro hp
  have hmap := h.batch
  rw [hp, List.map_nil, eq_comm, List.map_eq_nil_iff] at hmap
  exact hb hmap

theorem flush_nil (hb : s.batch = []) : s.flush lib = s := if_pos hb

/-- A flush that changes nothing has nothing to do. -/
theorem flush_done_nil (h : s.Aligned) (hb : s.batch = []) : FlushDone lib s s := by
  have hp := h.pending_eq_nil hb
  exact ⟨by rw [hp, List.filterMap_nil, List.append_nil], by rw [hp, List.append_nil], rfl⟩

theorem flush_done_iff (h : s.Aligned) : FlushDone lib s (s.flush lib) ↔ Agrees lib s.batch := by
  by_cases hb : s.batch = []
  · rw [flush_nil hb, hb]
    exact ⟨fun _ _ he => absurd he List.not_mem_nil, fun _ => flush_done_nil h hb⟩
  · have hp := h.pending_ne_nil hb
    rw [← mapM_queued_iff]
    constructor
    · rintro ⟨hstored, hacked, _⟩
      rw [flush, if_neg hb] at hstored hacked
      cases hbatch : batchInsert lib s.table s.batch with
      | error err =>
        rw [hbatch] at hacked
        exact absurd (List.self_eq_append_right.mp hacked) hp
      | ok table =>
        rw [hbatch] at hstored
        obtain ⟨entries, hentries, htable⟩ := batchInsert_ok_iff.mp hbatch
        rw [hentries, ← h.rows]
        dsimp only at hstored
        rw [htable] at hstored
        rw [List.append_cancel_left hstored]
    · intro hrows
      have hbatch : batchInsert lib s.table s.batch =
          .ok (s.table ++ s.batch.filterMap (Entry.ofEvent lib)) :=
        batchInsert_ok_iff.mpr ⟨_, hrows, rfl⟩
      rw [flush, if_neg hb, hbatch]
      exact ⟨by rw [h.rows], rfl, rfl⟩

theorem flushClosed_done_iff (h : s.Aligned) :
    FlushDone lib s (s.flushClosed lib) ↔ s.batch = [] := by
  constructor
  · rintro ⟨_, hacked, _⟩
    by_contra hb
    rw [flushClosed, if_neg hb] at hacked
    exact h.pending_ne_nil hb (List.self_eq_append_right.mp hacked)
  · intro hb
    rw [flushClosed, if_pos hb]
    exact flush_done_nil h hb

/-! ## Runs -/

theorem sound_iff (h : s.Aligned) (i : ConsumerInput) : Sound lib s i ↔ NotBlocked lib s i := by
  cases i with
  | publish m =>
    constructor
    · intro _ t ht
      cases ht
    · intro _ t ht
      cases ht
  | deliver i =>
    rw [Sound, NotBlocked, flushing, step]
    · split
      next =>
        simp only [Option.some.injEq, forall_eq']
        exact (flush_done_iff (received_aligned h i)).symm
      next => simp
    · intro h
      cases h
  | tick =>
    rw [Sound, NotBlocked, flushing, step]
    · simp only [Option.some.injEq, forall_eq']
      exact (flush_done_iff h).symm
    · intro h
      cases h
  | closed =>
    rw [Sound, NotBlocked, flushing, step]
    simp only [Option.some.injEq, forall_eq']
    exact (flushClosed_done_iff h).symm

theorem FlushDone.settled {s' : ConsumerState} (h : FlushDone lib s s') (hs : Settled lib s) :
    Settled lib s' where
  requeued := h.requeued.trans hs.requeued
  stored := by rw [h.stored, h.acked, hs.stored, List.filterMap_append]

theorem received_settled (hs : Settled lib s) (i : ℕ) : Settled lib (s.received i) := by
  unfold received
  split
  next => exact hs
  next => split <;> exact ⟨hs.requeued, hs.stored⟩

theorem step_settled (h : s.Aligned) (hs : Settled lib s) {i : ConsumerInput}
    (hi : Sound lib s i) : Settled lib (s.step lib i) := by
  have hdone := (sound_iff h i).mp hi
  cases i with
  | publish m => exact ⟨hs.requeued, hs.stored⟩
  | deliver i =>
    by_cases hfull : 100 ≤ (s.received i).batch.length
    · exact (hdone _ (if_pos hfull)).settled (received_settled hs i)
    · rw [step, if_neg hfull]
      exact received_settled hs i
  | tick => exact (hdone s rfl).settled hs
  | closed => exact (hdone s rfl).settled hs

/-- A flush that sends nothing back leaves the queue as it is. -/
theorem flush_queue (h : (s.flush lib).requeued = s.requeued) : (s.flush lib).queue = s.queue := by
  unfold flush at h ⊢
  split at h
  next hb => rw [if_pos hb]
  next hb =>
    rw [if_neg hb]
    split at h
    next =>
      have hp : s.pending = [] := List.self_eq_append_right.mp h.symm
      show s.queue ++ s.pending = s.queue
      rw [hp, List.append_nil]
    next => rfl

theorem length_queue_received {i : ℕ} (hi : i < s.queue.length) :
    (s.received i).queue.length + 1 = s.queue.length := by
  obtain ⟨msg, hmsg⟩ : ∃ msg, s.queue[i]? = some msg := ⟨_, List.getElem?_eq_getElem hi⟩
  have herase : (s.queue.eraseIdx i).length + 1 = s.queue.length := by
    rw [List.length_eraseIdx_of_lt hi]
    omega
  unfold received
  rw [hmsg]
  dsimp only
  split <;> exact herase

/-- A delivery takes a message off the queue for good. -/
theorem length_queue_deliver (h : s.Aligned) {i : ℕ} (hi : i < s.queue.length)
    (hc : Sound lib s (.deliver i)) :
    (s.step lib (.deliver i)).queue.length + 1 = s.queue.length := by
  have hdone := (sound_iff h (.deliver i)).mp hc
  by_cases hfull : 100 ≤ (s.received i).batch.length
  · have hrequeued := (hdone _ (if_pos hfull)).requeued
    rw [step, if_pos hfull] at hrequeued ⊢
    rw [flush_queue hrequeued]
    exact length_queue_received hi
  · rw [step, if_neg hfull]
    exact length_queue_received hi

theorem run_deliveries (h : s.Aligned) {ks : List ℕ} (hk : Order s.queue.length ks)
    (hc : StepsSatisfy (step lib) (Sound lib) s (ks.map .deliver)) :
    (run (step lib) s (ks.map .deliver)).queue = [] := by
  induction ks generalizing s with
  | nil =>
    cases hq : s.queue with
    | nil => exact hq
    | cons m queue =>
      rw [hq] at hk
      exact hk.elim
  | cons k ks ih =>
    obtain ⟨hfirst, hrest⟩ := hc
    cases hq : s.queue.length with
    | zero =>
      rw [hq] at hk
      exact nomatch hk
    | succ n =>
      rw [hq] at hk
      have hlen := length_queue_deliver h (hq ▸ hk.1) hfirst
      have hn : (s.step lib (.deliver k)).queue.length = n := by omega
      exact ih (step_aligned h _) (hn ▸ hk.2) hrest

/-- Everything that was published has been settled: each acceptable event is stored, once. -/
structure Drained (lib : Libraries) (s : ConsumerState) : Prop where
  queue : s.queue = []
  pending : s.pending = []
  requeued : s.requeued = []
  stored : s.table.Perm (s.published.filterMap (Message.row lib))

theorem Settled.drained (h : s.Aligned) (hs : Settled lib s) (hq : s.queue = [])
    (hp : s.pending = []) : Drained lib s where
  queue := hq
  pending := hp
  requeued := hs.requeued
  stored := by
    have hrows := h.published.filterMap (Message.row lib)
    have hdiscarded : s.discarded.filterMap (Message.row lib) = [] := by
      rw [List.filterMap_eq_nil_iff]
      intro m hm
      rw [Message.row, h.discarded m hm]
      rfl
    rw [hq, hp, List.append_nil, List.nil_append, List.filterMap_append, hdiscarded,
      List.append_nil] at hrows
    rw [hs.stored]
    exact hrows.symm

theorem pending_tick (h : s.Aligned) : (s.step lib .tick).pending = [] := by
  rw [step, flush]
  split
  next hb => exact h.pending_eq_nil hb
  next => split <;> rfl

theorem run_settled (lib : Libraries) {is : List ConsumerInput}
    (hc : StepsSatisfy (step lib) (Sound lib) start is) :
    Settled lib (run (step lib) start is) := by
  have hboth : ∀ s i, (Aligned s ∧ Settled lib s) → Sound lib s i →
      (Aligned (s.step lib i) ∧ Settled lib (s.step lib i)) :=
    fun s i h hi => ⟨step_aligned h.1 i, step_settled h.1 h.2 hi⟩
  exact (run_invariant_of (I := fun s => Aligned s ∧ Settled lib s) hboth
    ⟨start_aligned, rfl, rfl⟩ hc).2

/-- The condition says of every flush of a run whether it does its job. Where it is met nothing
    goes back, and delivering the queue, in any order, and one tick settle everything. -/
theorem not_blocked_iff (lib : Libraries) (is : List ConsumerInput) :
    (StepsSatisfy (step lib) (Sound lib) start is ↔
      StepsSatisfy (step lib) (NotBlocked lib) start is) ∧
    (StepsSatisfy (step lib) (Sound lib) start is → Settled lib (run (step lib) start is)) ∧
    ∀ ks, Order (run (step lib) start is).queue.length ks →
      StepsSatisfy (step lib) (Sound lib) start (is ++ ks.map .deliver ++ [.tick]) →
      Drained lib (run (step lib) start (is ++ ks.map .deliver ++ [.tick])) := by
  refine ⟨?_, run_settled lib, ?_⟩
  · exact stepsSatisfy_congr (I := Aligned) (fun s i h _ => step_aligned h i)
      (fun s i h => sound_iff h i) start_aligned is
  · intro ks hk hc
    have hdelivered := (stepsSatisfy_append.mp hc).1
    have hqueue : (run (step lib) start (is ++ ks.map .deliver)).queue = [] := by
      rw [run_append]
      exact run_deliveries (run_aligned lib is) hk (stepsSatisfy_append.mp hdelivered).2
    have hbefore := run_aligned lib (is ++ ks.map .deliver)
    have hsettled := run_settled lib hc
    have haligned := run_aligned lib (is ++ ks.map .deliver ++ [.tick])
    rw [run_append] at hsettled haligned ⊢
    have htick := (stepsSatisfy_append.mp hc).2.1
    have hrequeued := ((sound_iff hbefore .tick).mp htick _ rfl).requeued
    exact hsettled.drained haligned ((flush_queue hrequeued).trans hqueue) (pending_tick hbefore)

end ConsumerState

namespace Sample

/-- An event of the SDK that fits, but perhaps for its action. -/
def handled (tenant : Uuid) (auditAction : Utf16) (h : auditAction ≠ "") : Published :=
  .decorated ⟨tenant, ones⟩
    { auditAction := auditAction
      auditAction_ne := h
      className := "ProjectsController"
      responseData := none
      body := none
      requestIdHeader := none
      uuidv4 := ones
      serviceNameOption := some "projects"
      timestamp := "2024-01-15T10:00:00.000Z" }

/-- A project is made in the tenant. -/
def creation (tenant : Uuid) : Published := handled tenant "create" (by decide)

def created : Message := ⟨0, some (creation zeros).message⟩

def updated : Message := ⟨1, some (handled zeros "update" (by decide)).message⟩

def payment : Message where
  id := 2
  body := some (Published.message (.paymentSucceeded ⟨zeros, ones⟩
    { stripeInvoiceId := "in_1"
      stripeCustomerId := "cus_1"
      amountPaid := 49
      currency := "usd"
      occurredAt := "2024-01-15T10:00:00.000Z" }))

def publishes : List ConsumerInput := [.publish created, .publish payment]

/-- Both messages are delivered and flushed. -/
def round : List ConsumerInput := [.deliver 0, .deliver 0, .tick]

end Sample

open Sample ConsumerState

/-- Two events of the SDK, of which the second is delivered first. -/
theorem created_drained : Drained libraries (run (step libraries) start
    ([.publish created, .publish updated] ++ [1, 0].map .deliver ++ [.tick])) := by
  refine (not_blocked_iff libraries [.publish created, .publish updated]).2.2 [1, 0]
    ⟨by decide, by decide, rfl⟩ ?_
  refine ⟨fun _ h => (nomatch h), fun _ h => (nomatch h), fun _ h => (nomatch h),
    fun _ h => (nomatch h), ?_, trivial⟩
  intro t ht
  cases ht
  have hagrees : ∀ m ∈ [updated, created], ∀ e, m.event = some e →
      (libraries.uuidParse e.tenantID ↔ (Entry.ofEvent libraries e).isSome) := by
    simp only [List.forall_mem_cons, List.not_mem_nil, false_implies, implies_true, and_true]
    constructor
    · rintro e ⟨⟩
      exact ⟨fun _ => rfl, fun _ => rfl⟩
    · rintro e ⟨⟩
      exact ⟨fun _ => rfl, fun _ => rfl⟩
  intro e he
  have hbatch : some e ∈ [updated, created].map Message.event := List.mem_map_of_mem he
  obtain ⟨m, hm, hevent⟩ := List.mem_map.mp hbatch
  exact hagrees m hm e hevent

/-- The first event is acceptable, and is neither stored nor acknowledged. -/
theorem payment_blocks : (created.row libraries).isSome ∧
    ¬ StepsSatisfy (step libraries) (NotBlocked libraries) start (publishes ++ round) := by
  refine ⟨rfl, fun h => ?_⟩
  have hacked := (h.2.2.2.2.1 _ rfl).acked
  exact nomatch hacked

end SaasChassis.Audit
