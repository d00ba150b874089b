/-
  The audit consumer: deliveries are collected, and a flush stores them and answers the broker
  for all of them at once.

  A message stays with the broker until it is acknowledged or discarded; one that is negatively
  acknowledged goes back to the queue, and any ready message may be delivered next. When the
  channel is closed, what it did not acknowledge goes back too. A step either flushes the state
  `flushing` gives or is `received`.
-/
import Mathlib.Data.List.Perm.Basic
import SaasChassis.Audit.Repository
import SaasChassis.Lib.Runs

namespace SaasChassis.Audit

open SaasChassis.Lib SaasChassis.Lib.Postgres

structure Message where
  id : ℕ
  /-- `none` where the body is not JSON. -/
  body : Option WireJson

/-- The event that `json.Unmarshal` makes of the body. -/
def Message.event (m : Message) : Option AuditEvent := m.body.bind AuditEvent.decode

/-- The queue `audit.log-entry`, the consumer's `batch` and `pending` and the table. The last
    four fields are records for the statements. -/
structure ConsumerState where
  queue : List Message
  batch : List AuditEvent
  pending : List Message
  table : List Entry
  published : List Message
  acked : List Message
  discarded : List Message
  /-- What has gone back to the queue, once for each time. -/
  requeued : List Message

inductive ConsumerInput where
  | publish (m : Message)
  /-- The broker delivers the ready message at index `i`. -/
  | deliver (i : ℕ)
  | tick
  /-- The channel is closed, and opened again by `StartWithReconnect`. -/
  | closed

namespace ConsumerState

def start : ConsumerState := ⟨[], [], [], [], [], [], [], []⟩

section Step

variable (lib : Libraries)

def flush (s : ConsumerState) : ConsumerState :=
  if s.batch = [] then s
  else
    match batchInsert lib s.table s.batch with
    | .error _ =>
      { s with
        queue := s.queue ++ s.pending
        requeued := s.requeued ++ s.pending
        batch := []
        pending := [] }
    | .ok table =>
      { s with
        table := table
        acked := s.acked ++ s.pending
        batch := []
        pending := [] }

/-- The flush of a closed channel: its acknowledgements reach nobody. -/
def flushClosed (s : ConsumerState) : ConsumerState :=
  if s.batch = [] then s
  else
    { s with
      table := (batchInsert lib s.table s.batch).toOption.getD s.table
      queue := s.queue ++ s.pending
      requeued := s.requeued ++ s.pending
      batch := []
      pending := [] }

/-- A delivery, before the length of the batch is looked at. -/
def received (s : ConsumerState) (i : ℕ) : ConsumerState :=
  match s.queue[i]? with
  | none => s
  | some msg =>
    match msg.event with
    | none =>
      { s with queue := s.queue.eraseIdx i, discarded := s.discarded ++ [msg] }
    | some event =>
      { s with
        queue := s.queue.eraseIdx i
        batch := s.batch ++ [event]
        pending := s.pending ++ [msg] }

def step (s : ConsumerState) : ConsumerInput → ConsumerState
  | .publish m => { s with queue := s.queue ++ [m], published := s.published ++ [m] }
  | .deliver i =>
    let s := s.received i
    if 100 ≤ s.batch.length then s.flush lib else s
  | .tick => s.flush lib
  | .closed => s.flushClosed lib

end Step

/-! ## The batch and the deliveries -/

/-- The consumer's two slices hold the same messages, and what was published is somewhere. -/
structure Aligned (s : ConsumerState) : Prop where
  batch : s.pending.map Message.event = s.batch.map some
  discarded : ∀ m ∈ s.discarded, m.event = none
  published : s.published.Perm (s.queue ++ s.pending ++ s.acked ++ s.discarded)

variable {s : ConsumerState} {lib : Libraries}

theorem start_aligned : start.Aligned := ⟨rfl, fun _ hm => absurd hm List.not_mem_nil, .refl _⟩

theorem Aligned.pending_eq_nil (h : s.Aligned) (hb : s.batch = []) : s.pending = [] := by
  have hmap := h.batch
  rw [hb, List.map_nil, List.map_eq_nil_iff] at hmap
  exact hmap

/-- What was pending went back to the queue. -/
theorem perm_returned (queue pending acked discarded : List Message) :
    (queue ++ pending ++ acked ++ discarded).Perm
      (queue ++ pending ++ [] ++ acked ++ discarded) := by
  rw [List.append_nil]

/-- What was pending was acknowledged. -/
theorem perm_settled (queue pending acked discarded : List Message) :
    (queue ++ pending ++ acked ++ discarded).Perm
      (queue ++ [] ++ (acked ++ pending) ++ discarded) := by
  have hmove : (pending ++ acked).Perm (acked ++ pending) := List.perm_append_comm
  simpa [List.append_assoc] using (hmove.append_left queue).append_right discarded

theorem flush_aligned (h : s.Aligned) : (s.flush lib).Aligned := by
  unfold flush
  split
  next => exact h
  next =>
    split
    next => exact ⟨rfl, h.discarded, h.published.trans (perm_returned _ _ _ _)⟩
    next => exact ⟨rfl, h.discarded, h.published.trans (perm_settled _ _ _ _)⟩

theorem flushClosed_aligned (h : s.Aligned) : (s.flushClosed lib).Aligned := by
  unfold flushClosed
  split
  next => exact h
  next => exact ⟨rfl, h.discarded, h.published.trans (perm_returned _ _ _ _)⟩

theorem perm_eraseIdx {queue : List Message} {i : ℕ} {m : Message} (h : queue[i]? = some m) :
    queue.Perm (m :: queue.eraseIdx i) := by
  obtain ⟨hi, rfl⟩ := List.getElem?_eq_some_iff.mp h
  exact (List.getElem_cons_eraseIdx_perm hi).symm

theorem received_aligned (h : s.Aligned) (i : ℕ) : (s.received i).Aligned := by
  unfold received
  split
  next => exact h
  next msg hmsg =>
    have hqueue := perm_eraseIdx hmsg
    split
    next hevent =>
      refine ⟨h.batch, ?_, h.published.trans ?_⟩
      · intro m hm
        obtain hm | hm := List.mem_append.mp hm
        · exact h.discarded m hm
        · rw [List.mem_singleton.mp hm]
          exact hevent
      · rw [← List.append_assoc]
        have hrest := (hqueue.append_right (s.pending ++ s.acked ++ s.discarded)).trans
          (List.perm_append_singleton msg _).symm
        simpa [List.append_assoc] using hrest
    next event hevent =>
      refine ⟨?_, h.discarded, h.published.trans ?_⟩
      · simp [h.batch, hevent]
      · have hrest := (hqueue.append_right s.pending).trans
          (List.perm_append_singleton msg (s.queue.eraseIdx i ++ s.pending)).symm
        rw [← List.append_assoc]
        exact (hrest.append_right s.acked).append_right s.discarded

theorem step_aligned (h : s.Aligned) (i : ConsumerInput) : (s.step lib i).Aligned := by
  cases i with
  | publish m =>
    refine ⟨h.batch, h.discarded, ?_⟩
    have hrest := (h.published.append_right [m])
    have hmove : (s.queue ++ s.pending ++ s.acked ++ s.discarded ++ [m]).Perm
        (s.queue ++ [m] ++ s.pending ++ s.acked ++ s.discarded) := by
      simp only [List.append_assoc]
      refine List.Perm.append_left _ ?_
      simp only [← List.append_assoc]
      exact List.perm_append_comm
    exact hrest.trans hmove
  | deliver i =>
    rw [step]
    split
    next => exact flush_aligned (received_aligned h i)
    next => exact received_aligned h i
  | tick => exact flush_aligned h
  | closed => exact flushClosed_aligned h

theorem run_aligned (lib : Libraries) (is : List ConsumerInput) :
    (run (step lib) start is).Aligned :=
  run_invariant (I := Aligned) (fun _ i h => step_aligned h i) start_aligned is

end ConsumerState

end SaasChassis.Audit
