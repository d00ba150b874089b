/-
  Does a 2xx answer to a webhook mean that the event was processed?

  Stripe delivers an event again until it is answered 2xx, so such an answer is the last word on
  it. The endpoint fails loudly when it cannot look the event up or store it, but a failure of
  the handler, or of marking the row, is only recorded: the code then falls through to the same
  200. `answers_truly_iff` says which schedules of faults are harmless all the same.
-/
import SaasChassis.Billing.Endpoint

namespace SaasChassis.Billing

open SaasChassis.Lib Faulty

/-! ## Statement -/

def Answers2xx (answer : Except String Reply) : Prop :=
  200 ≤ answerStatus answer ∧ answerStatus answer < 300

/-- The event's row says processed, and its handler has run to the end at least once. -/
def BillingDb.Done (db : BillingDb) (stripeEventId : String) : Prop :=
  (∃ row ∈ db.webhookEvents, row.stripeEventId = stripeEventId ∧ row.processed = true) ∧
  stripeEventId ∈ db.handled

def AnswersTruly (db : BillingDb) : BillingInput → Prop
  | .webhook env (.ok event) fault =>
    Answers2xx (handleWebhook env (.ok event) fault 0 db).1 →
      (handleWebhook env (.ok event) fault 0 db).2.2.Done event.id
  | _ => True

/-- The event is processed already, or a failure is no secret: it hits one of the first two
    calls, or the first failure of the handler and the marking is followed by another one when
    it is to be recorded. -/
def FailsLoudly (db : BillingDb) : BillingInput → Prop
  | .webhook _ (.ok event) fault =>
    db.isProcessed event.id = true ∨ fault 0 ≠ none ∨ fault 1 ≠ none ∨
      ∀ i e, FailsFirst fault 2 i e → i < 2 + attemptCalls event db → fault (i + 1) ≠ none
  | _ => True

/-! ## The law -/

theorem error_not_2xx (e : String) : ¬ Answers2xx (.error e) :=
  fun h => absurd (show 500 < 300 from h.2) (by decide)

theorem received_2xx : Answers2xx (.ok received) :=
  ⟨show 200 ≤ 200 by decide, show 200 < 300 by decide⟩

/-- A failure that was recorded leaves the row unprocessed. -/
theorem not_done_of_recorded {event : StripeEvent} {db u : BillingDb} {message : String}
    (h : (db.stored event).Beside u) :
    ¬ (u.withWebhookEvents (updateWebhookEvent event.id (recordError message))).Done
      event.id := by
  intro ⟨⟨row, hrow, hid, hp⟩, _⟩
  have hstored : ∀ q ∈ u.webhookEvents, q.stripeEventId = event.id → q.processed = false := by
    intro q hq
    rw [h.rows] at hq
    exact upsert_unprocessed hq
  obtain ⟨q, hq, hqid, rfl⟩ | ⟨_, hne⟩ := mem_updateKey.mp hrow
  · exact absurd ((hstored q hq hqid).symm.trans hp) (by decide)
  · exact hne hid

theorem done_of_processed (env : Env) (event : StripeEvent) (db : BillingDb) :
    (db.processed env event).Done event.id := by
  refine ⟨?_, List.mem_cons_self⟩
  obtain ⟨row, hrow, hid⟩ := upsert_row event db.webhookEvents
  rw [← show (applyEvent env event (db.stored event)).webhookEvents =
    upsertWebhookEvent event db.webhookEvents from (applyEvent_beside env event _).rows] at hrow
  exact ⟨_, mem_updateKey.mpr (Or.inl ⟨row, hrow, hid, rfl⟩), hid, rfl⟩

theorem answersTruly_step_iff {db : BillingDb} (hs : db.Sound) (i : BillingInput) :
    AnswersTruly db i ↔ FailsLoudly db i := by
  cases i with
  | provisioned env msg customer fault => exact Iff.rfl
  | webhook env constructed fault =>
    cases constructed with
    | error message => exact Iff.rfl
    | ok event =>
      have houtcome := handleWebhook_outcome env event fault db
      simp only [AnswersTruly, FailsLoudly]
      generalize handleWebhook env (.ok event) fault 0 db = r at houtcome ⊢
      cases houtcome with
      | lookupFails e h =>
        refine ⟨fun _ => Or.inr (Or.inl ?_), fun _ h2xx => absurd h2xx (error_not_2xx e)⟩
        rw [h]
        exact Option.some_ne_none e
      | duplicate h done =>
        obtain ⟨row, hrow, hid, hp⟩ := isProcessed_row done
        have hhandled := hid ▸ hs.honest row hrow hp
        exact ⟨fun _ => Or.inl done, fun _ _ => ⟨⟨row, hrow, hid, hp⟩, hhandled⟩⟩
      | storeFails e h0 new h =>
        refine ⟨fun _ => Or.inr (Or.inr (Or.inl ?_)), fun _ h2xx => absurd h2xx (error_not_2xx e)⟩
        rw [h]
        exact Option.some_ne_none e
      | processed h0 new h1 clear =>
        refine ⟨fun _ => Or.inr (Or.inr (Or.inr ?_)), fun _ _ => done_of_processed env event db⟩
        intro i e hfails hi
        have hi' := clear i hfails.1 hi
        rw [hfails.2.2] at hi'
        cases hi'
      | recorded i e u h0 new h1 fails early beside h =>
        constructor
        · intro htruly
          exact absurd (htruly received_2xx) (not_done_of_recorded beside)
        · rintro (hp | h0' | h1' | hloud)
          · exact absurd (hp.symm.trans new) (by decide)
          · exact absurd h0 h0'
          · exact absurd h1 h1'
          · exact absurd h (hloud i e fails early)
      | recordFails i e e' u h0 new h1 fails early beside h =>
        refine ⟨fun _ => Or.inr (Or.inr (Or.inr ?_)),
          fun _ h2xx => absurd h2xx (error_not_2xx e')⟩
        intro j e'' hfails _
        rw [hfails.unique fails, h]
        exact Option.some_ne_none e'

/-- In every run of the billing engine, every 2xx answer means processed if and only if every
    delivery of the run fails loudly or not at all. -/
theorem answers_truly_iff {db : BillingDb} (hr : Reachable db) (inputs : List BillingInput) :
    StepsSatisfy BillingDb.step AnswersTruly db inputs ↔
      StepsSatisfy BillingDb.step FailsLoudly db inputs :=
  stepsSatisfy_congr (I := BillingDb.Sound) (fun _ i hs _ => hs.step i)
    (fun _ i hs => answersTruly_step_iff hs i) (reachable_sound hr) inputs

namespace Sample

def env : Env := { now := 1000, channel := true }

/-- The `n`-th call of the run fails. -/
def failsAt (n : ℕ) : Faults String := fun i => if i = n then some "connection lost" else none

def subscription : StripeSubscription :=
  { id := "sub_1", customer := .reference "cus_1", status := .active, currentPeriodStart := 0,
    currentPeriodEnd := 2592000, cancelAtPeriodEnd := false,
    items := [some { lookupKey := some "pro", id := "price_1" }] }

def updated : StripeEvent :=
  { id := "evt_1", created := 0, data := .subscriptionUpdated subscription }

end Sample

theorem answers_truly_iff_sample :
    StepsSatisfy BillingDb.step AnswersTruly .empty
      [.webhook Sample.env (.ok Sample.updated) (Sample.failsAt 1)] :=
  (answers_truly_iff ⟨[], rfl⟩ _).mpr ⟨Or.inr (Or.inr (Or.inl (by decide))), trivial⟩

/-- The lookup of the subscription fails, and the event is answered 200 all the same. -/
theorem failed_handler_answers_ok :
    Reachable .empty ∧ ¬ StepsSatisfy BillingDb.step AnswersTruly .empty
      [.webhook Sample.env (.ok Sample.updated) (Sample.failsAt 2)] := by
  refine ⟨⟨[], rfl⟩, ?_⟩
  intro ⟨h, _⟩
  have hdone := h ⟨by decide, by decide⟩
  obtain ⟨_, hhandled⟩ := hdone
  revert hhandled
  decide

end SaasChassis.Billing
