/-
  The webhook endpoint under every schedule of faults, and the billing engine as a machine.

  `WebhookOutcome` lists what one delivery can come to: refused before the handler runs, a
  duplicate, processed, or a failure of the handler that is recorded or not even that.
  `handleWebhook_outcome` says that nothing else happens. `BillingDb.step` is one delivery or
  one tenant.provisioned message; `Sound` is what its runs keep (`reachable_sound`).
-/
import SaasChassis.Billing.Effects

namespace SaasChassis.Billing

open SaasChassis.Lib Faulty

/-! ## One delivery -/

/-- The state in which the handler starts. -/
def BillingDb.stored (event : StripeEvent) (db : BillingDb) : BillingDb :=
  db.withWebhookEvents (upsertWebhookEvent event)

/-- The state after the handler and the marking of the row. -/
def BillingDb.processed (env : Env) (event : StripeEvent) (db : BillingDb) : BillingDb :=
  let db := applyEvent env event (db.stored event)
  { db with
    handled := event.id :: db.handled
    webhookEvents := updateWebhookEvent event.id (markProcessed env) db.webhookEvents }

def received : Reply := { status := 200, body := .obj [("received", .bool true)] }

def duplicate : Reply :=
  { status := 200, body := .obj [("received", .bool true), ("duplicate", .bool true)] }

/-- The calls of the handler and the marking: the third of the delivery and so on. -/
def attemptCalls (event : StripeEvent) (db : BillingDb) : ℕ :=
  handlerCalls event.data db.subscriptions + 1

/-- The state `u` of a delivery that stopped short: its handler may have written some of its
    effect, to subscriptions, invoices and messages. -/
structure BillingDb.Beside (db u : BillingDb) : Prop where
  rows : u.webhookEvents = db.webhookEvents
  handled : ∀ id ∈ db.handled, id ∈ u.handled
  tenants : u.subscriptions.map (·.tenantId) = db.subscriptions.map (·.tenantId)

inductive WebhookOutcome (env : Env) (event : StripeEvent) (fault : Faults String)
    (db : BillingDb) : Except String Reply × ℕ × BillingDb → Prop
  | lookupFails (e : String) (h : fault 0 = some e) :
      WebhookOutcome env event fault db (.error e, 1, db)
  | duplicate (h : fault 0 = none) (done : db.isProcessed event.id = true) :
      WebhookOutcome env event fault db (.ok duplicate, 1, db)
  | storeFails (e : String) (h0 : fault 0 = none) (new : db.isProcessed event.id = false)
      (h : fault 1 = some e) : WebhookOutcome env event fault db (.error e, 2, db)
  | processed (h0 : fault 0 = none) (new : db.isProcessed event.id = false) (h1 : fault 1 = none)
      (clear : Clear fault 2 (2 + attemptCalls event db)) :
      WebhookOutcome env event fault db
        (.ok received, 2 + attemptCalls event db, db.processed env event)
  | recorded (i : ℕ) (e : String) (u : BillingDb) (h0 : fault 0 = none)
      (new : db.isProcessed event.id = false) (h1 : fault 1 = none)
      (fails : FailsFirst fault 2 i e) (early : i < 2 + attemptCalls event db)
      (beside : (db.stored event).Beside u) (h : fault (i + 1) = none) :
      WebhookOutcome env event fault db (.ok received, i + 2,
        u.withWebhookEvents (updateWebhookEvent event.id (recordError e)))
  | recordFails (i : ℕ) (e e' : String) (u : BillingDb) (h0 : fault 0 = none)
      (new : db.isProcessed event.id = false) (h1 : fault 1 = none)
      (fails : FailsFirst fault 2 i e) (early : i < 2 + attemptCalls event db)
      (beside : (db.stored event).Beside u) (h : fault (i + 1) = some e') :
      WebhookOutcome env event fault db (.error e', i + 2, u)

/-- The body of the endpoint's try block. -/
def attempt (env : Env) (event : StripeEvent) : Method Unit := do
  processEvent env event
  effect fun db => { db with handled := event.id :: db.handled }
  write (·.withWebhookEvents (updateWebhookEvent event.id (markProcessed env)))

theorem attempt_runs (env : Env) (event : StripeEvent) (db : BillingDb) :
    Runs (attempt env event) (db.stored event) (attemptCalls event db) ()
      (db.processed env event) :=
  (processEvent_runs env event (db.stored event)).bind (k := 1)
    ((Runs.effect _ _).bind (k := 1) (Runs.write _ _))

theorem BillingDb.Beside.refl (db : BillingDb) : db.Beside db := ⟨rfl, fun _ h => h, rfl⟩

theorem processEvent_beside (env : Env) (event : StripeEvent) (db : BillingDb) :
    Keeps db.Beside (processEvent env event) := by
  refine processEvent_keeps ?_ ?_ ?_ env
  · intro env ms u h
    refine ⟨?_, ?_, ?_⟩
    · rw [send_webhookEvents]
      exact h.rows
    · rw [send_handled]
      exact h.handled
    · rw [send_subscriptions]
      exact h.tenants
  · exact fun f hf u h => ⟨h.rows, h.handled, (hf.tenants u.subscriptions).trans h.tenants⟩
  · exact fun _ _ f u h => ⟨h.rows, h.handled, h.tenants⟩

theorem applyEvent_beside (env : Env) (event : StripeEvent) (db : BillingDb) :
    db.Beside (applyEvent env event db) := by
  have h := processEvent_beside env event db noFaults 0 db (.refl db)
  rwa [(processEvent_runs env event db).ok noFaults 0 fun _ _ _ => rfl] at h

theorem attempt_beside (env : Env) (event : StripeEvent) (db : BillingDb) :
    KeepsOnError db.Beside (attempt env event) := by
  refine KeepsOnError.bind (processEvent_beside env event db) fun _ =>
    KeepsOnError.bind (Keeps.effect fun u h => ?_) fun _ => KeepsOnError.write _
  exact ⟨h.rows, fun id hid => List.mem_cons_of_mem _ (h.handled id hid), h.tenants⟩

abbrev recordFailure (event : StripeEvent) (message : String) : Method Unit :=
  write (·.withWebhookEvents (updateWebhookEvent event.id (recordError message)))

/-- The endpoint after it has found no processed row. -/
def store (env : Env) (event : StripeEvent) : Method Reply := do
  write (·.withWebhookEvents (upsertWebhookEvent event))
  tryCatch (attempt env event) (recordFailure event)
  return received

theorem store_outcome {env : Env} {event : StripeEvent} {fault : Faults String} {db : BillingDb}
    (h0 : fault 0 = none) (new : db.isProcessed event.id = false) :
    WebhookOutcome env event fault db (store env event fault 1 db) := by
  cases h1 : fault 1 with
  | some e =>
    have hrun : store env event fault 1 db = (.error e, 2, db) := bind_error _ (call_error _ h1 db)
    rw [hrun]
    exact .storeFails e h0 new h1
  | none =>
    obtain hclear | ⟨i, e, hfails, hi⟩ :=
      Runs.clear_or_failsFirst fault 2 (attemptCalls event db)
    · have hdone := (attempt_runs env event db).ok fault 2 hclear
      have hrun : store env event fault 1 db =
          (.ok received, 2 + attemptCalls event db, db.processed env event) :=
        (bind_ok _ (call_ok _ h1 db)).trans (bind_ok _ (tryCatch_ok _ hdone))
      rw [hrun]
      exact .processed h0 new h1 hclear
    · obtain ⟨u, hu⟩ := (attempt_runs env event db).error fault 2 i e hfails hi
      have hbeside : (db.stored event).Beside u := by
        have h := attempt_beside env event _ fault 2 (db.stored event) e (.refl _) (by rw [hu])
        rwa [hu] at h
      cases hnext : fault (i + 1) with
      | some e' =>
        have hrecord : recordFailure event e fault (i + 1) u = (.error e', i + 2, u) :=
          call_error _ hnext u
        have hcatch := (tryCatch_error (recordFailure event) hu).trans hrecord
        have hrun : store env event fault 1 db = (.error e', i + 2, u) :=
          (bind_ok _ (call_ok _ h1 db)).trans (bind_error _ hcatch)
        rw [hrun]
        exact .recordFails i e e' u h0 new h1 hfails hi hbeside hnext
      | none =>
        have hrecord : recordFailure event e fault (i + 1) u = (.ok (), i + 2,
            u.withWebhookEvents (updateWebhookEvent event.id (recordError e))) :=
          call_ok _ hnext u
        have hcatch := (tryCatch_error (recordFailure event) hu).trans hrecord
        have hrun : store env event fault 1 db = (.ok received, i + 2,
            u.withWebhookEvents (updateWebhookEvent event.id (recordError e))) :=
          (bind_ok _ (call_ok _ h1 db)).trans (bind_ok _ hcatch)
        rw [hrun]
        exact .recorded i e u h0 new h1 hfails hi hbeside hnext

/-- What a delivery can come to. -/
theorem handleWebhook_outcome (env : Env) (event : StripeEvent) (fault : Faults String)
    (db : BillingDb) :
    WebhookOutcome env event fault db (handleWebhook env (.ok event) fault 0 db) := by
  cases h0 : fault 0 with
  | some e =>
    have hrun : handleWebhook env (.ok event) fault 0 db = (.error e, 1, db) :=
      bind_error _ (call_error _ h0 db)
    rw [hrun]
    exact .lookupFails e h0
  | none =>
    have hread : handleWebhook env (.ok event) fault 0 db =
        (if db.isProcessed event.id then return duplicate else store env event) fault 1 db :=
      bind_ok _ (call_ok _ h0 db)
    rw [hread]
    cases hp : db.isProcessed event.id with
    | true => exact .duplicate h0 hp
    | false => exact store_outcome h0 hp

/-! ## Deliveries that meet no fault -/

def BillingDb.deliver (env : Env) (event : StripeEvent) (db : BillingDb) : BillingDb :=
  (handleWebhook env (.ok event) noFaults 0 db).2.2

theorem deliver_new {env : Env} {event : StripeEvent} {db : BillingDb}
    (new : db.isProcessed event.id = false) : db.deliver env event = db.processed env event := by
  have h := handleWebhook_outcome env event noFaults db
  unfold BillingDb.deliver
  generalize handleWebhook env (.ok event) noFaults 0 db = r at h
  cases h with
  | processed => rfl
  | duplicate _ done => exact absurd (done.symm.trans new) (by decide)
  | lookupFails e h => cases h
  | storeFails e _ _ h => cases h
  | recorded i e u _ _ _ fails => cases fails.2.2
  | recordFails i e e' u _ _ _ fails => cases fails.2.2

theorem deliver_again {env : Env} {event : StripeEvent} {db : BillingDb}
    (done : db.isProcessed event.id = true) : db.deliver env event = db := by
  have h := handleWebhook_outcome env event noFaults db
  unfold BillingDb.deliver
  generalize handleWebhook env (.ok event) noFaults 0 db = r at h
  cases h with
  | duplicate => rfl
  | processed _ new => exact absurd (done.symm.trans new) (by decide)
  | lookupFails e h => cases h
  | storeFails e _ _ h => cases h
  | recorded i e u _ _ _ fails => cases fails.2.2
  | recordFails i e e' u _ _ _ fails => cases fails.2.2

theorem processed_subscriptions (env : Env) (event : StripeEvent) (db : BillingDb) :
    (db.processed env event).subscriptions = subscriptionsAfter event.data db.subscriptions := by
  unfold BillingDb.processed applyEvent
  exact send_subscriptions env _ _

theorem processed_messages (env : Env) (event : StripeEvent) (db : BillingDb) :
    (db.processed env event).messages =
      db.messages ++ if env.channel then messagesOf env event.data db.subscriptions else [] := by
  unfold BillingDb.processed applyEvent BillingDb.send
  cases env.channel with
  | true => rfl
  | false => exact (List.append_nil db.messages).symm

theorem subscriptionsAfter_tenants (data : EventData) (rows : List Subscription) :
    (subscriptionsAfter data rows).map (·.tenantId) = rows.map (·.tenantId) := by
  have h := (applyEvent_beside { now := 0, channel := false } ⟨"", 0, data⟩
    { BillingDb.empty with subscriptions := rows }).tenants
  unfold applyEvent at h
  rw [send_subscriptions] at h
  exact h

theorem findWebhookEvent_update {k : String} {f : WebhookEvent → WebhookEvent}
    (hf : ∀ row, (f row).stripeEventId = row.stripeEventId) (id : String)
    (rows : List WebhookEvent) :
    findWebhookEvent id (updateWebhookEvent k f rows) =
      (findWebhookEvent id rows).map fun row => if row.stripeEventId = k then f row else row := by
  unfold findWebhookEvent updateWebhookEvent
  refine find?_updateKey fun row _ _ => ?_
  rw [hf]

/-- An update of another event's row. -/
theorem findWebhookEvent_update_ne {k id : String} {f : WebhookEvent → WebhookEvent}
    (hf : ∀ row, (f row).stripeEventId = row.stripeEventId) (hne : id ≠ k)
    (rows : List WebhookEvent) :
    findWebhookEvent id (updateWebhookEvent k f rows) = findWebhookEvent id rows := by
  rw [findWebhookEvent_update hf]
  cases h : findWebhookEvent id rows with
  | none => rfl
  | some row =>
    have hid : row.stripeEventId = id := by simpa using List.find?_some h
    rw [Option.map_some, if_neg (hid ▸ hne)]

theorem findWebhookEvent_upsert_ne {event : StripeEvent} {id : String} (hne : id ≠ event.id)
    (rows : List WebhookEvent) :
    findWebhookEvent id (upsertWebhookEvent event rows) = findWebhookEvent id rows := by
  unfold upsertWebhookEvent
  split
  · refine findWebhookEvent_update_ne (fun row => ?_) hne rows
    rfl
  · unfold findWebhookEvent
    rw [List.find?_append, List.find?_singleton, if_neg (by simpa using hne.symm), Option.or_none]

/-- After the upsert the event has a row. -/
theorem upsert_row (event : StripeEvent) (rows : List WebhookEvent) :
    ∃ row ∈ upsertWebhookEvent event rows, row.stripeEventId = event.id := by
  unfold upsertWebhookEvent
  split
  next h =>
    obtain ⟨row, hrow, hid⟩ := List.any_eq_true.mp h
    rw [decide_eq_true_eq] at hid
    exact ⟨_, mem_updateKey.mpr (Or.inl ⟨row, hrow, hid, rfl⟩), hid⟩
  next => exact ⟨_, List.mem_append_right _ (List.mem_singleton_self _), rfl⟩

/-- An event that has a row is processed once it is marked. -/
theorem any_processed_mark (env : Env) {id : String} {rows : List WebhookEvent}
    (h : ∃ row ∈ rows, row.stripeEventId = id) :
    (findWebhookEvent id (updateWebhookEvent id (markProcessed env) rows)).any (·.processed) := by
  have hmark : ∀ row, (markProcessed env row).stripeEventId = row.stripeEventId := fun _ => rfl
  rw [findWebhookEvent_update hmark]
  cases hf : findWebhookEvent id rows with
  | none =>
    obtain ⟨row, hrow, hid⟩ := h
    exact absurd (List.find?_eq_none.mp hf row hrow) (by simpa using hid)
  | some row =>
    have hid : row.stripeEventId = id := by simpa using List.find?_some hf
    simp [hid, markProcessed]

/-- A delivery marks its event and no other. -/
theorem isProcessed_deliver {env : Env} {event : StripeEvent} {db : BillingDb}
    (new : db.isProcessed event.id = false) (id : String) :
    (db.deliver env event).isProcessed id = (db.isProcessed id || decide (id = event.id)) := by
  have hrows : (applyEvent env event (db.stored event)).webhookEvents =
      upsertWebhookEvent event db.webhookEvents := (applyEvent_beside env event _).rows
  have hmark : ∀ row, (markProcessed env row).stripeEventId = row.stripeEventId := fun _ => rfl
  rw [deliver_new new]
  unfold BillingDb.isProcessed BillingDb.processed
  dsimp only
  rw [hrows]
  by_cases hid : id = event.id
  · subst hid
    rw [any_processed_mark env (upsert_row event db.webhookEvents)]
    simp
  · rw [findWebhookEvent_update_ne hmark hid, findWebhookEvent_upsert_ne hid]
    simp [hid]

/-! ## The machine -/

/-- One delivery to the endpoint, or one tenant.provisioned message. -/
inductive BillingInput where
  | webhook (env : Env) (constructed : Except String StripeEvent) (fault : Faults String)
  | provisioned (env : Env) (msg : TenantProvisionedEvent) (customer : String)
      (fault : Faults String)

def BillingDb.step (db : BillingDb) : BillingInput → BillingDb
  | .webhook env constructed fault => (handleWebhook env constructed fault 0 db).2.2
  | .provisioned env msg customer fault => (onTenantProvisioned env msg customer fault 0 db).2.2

def Reachable (db : BillingDb) : Prop := ∃ inputs, db = run BillingDb.step .empty inputs

structure BillingDb.Sound (db : BillingDb) : Prop where
  schema : db.Schema
  /-- A row says processed only after its event's handler has run to its end. -/
  honest : ∀ row ∈ db.webhookEvents, row.processed = true → row.stripeEventId ∈ db.handled

theorem isProcessed_row {db : BillingDb} {id : String} (h : db.isProcessed id = true) :
    ∃ row ∈ db.webhookEvents, row.stripeEventId = id ∧ row.processed = true := by
  unfold BillingDb.isProcessed at h
  cases hf : findWebhookEvent id db.webhookEvents with
  | none =>
    rw [hf] at h
    cases h
  | some row =>
    rw [hf] at h
    exact ⟨row, List.mem_of_find?_eq_some hf, by simpa using List.find?_some hf, h⟩

theorem mem_upsert {event : StripeEvent} {rows : List WebhookEvent} {row : WebhookEvent}
    (h : row ∈ upsertWebhookEvent event rows) :
    row ∈ rows ∨ row.stripeEventId = event.id ∧ row.processed = false := by
  unfold upsertWebhookEvent at h
  split at h
  · obtain ⟨q, _, hid, rfl⟩ | ⟨hr, _⟩ := mem_updateKey.mp h
    · exact Or.inr ⟨hid, rfl⟩
    · exact Or.inl hr
  · obtain hr | hr := List.mem_append.mp h
    · exact Or.inl hr
    · obtain rfl := List.mem_singleton.mp hr
      exact Or.inr ⟨rfl, rfl⟩

/-- All its rows are then unprocessed. -/
theorem upsert_unprocessed {event : StripeEvent} {rows : List WebhookEvent} {row : WebhookEvent}
    (h : row ∈ upsertWebhookEvent event rows) (hid : row.stripeEventId = event.id) :
    row.processed = false := by
  unfold upsertWebhookEvent at h
  split at h
  · obtain ⟨q, _, _, rfl⟩ | ⟨_, hne⟩ := mem_updateKey.mp h
    · rfl
    · exact absurd hid hne
  next hany =>
    obtain hr | hr := List.mem_append.mp h
    · exact absurd (List.any_eq_true.mpr ⟨row, hr, by simpa using hid⟩) hany
    · rw [List.mem_singleton.mp hr]

theorem BillingDb.Sound.webhook {db : BillingDb} (hs : db.Sound) (env : Env)
    (event : StripeEvent) (fault : Faults String) :
    (handleWebhook env (.ok event) fault 0 db).2.2.Sound := by
  have hstored : (db.stored event).Sound :=
    { schema := ⟨hs.schema.uq_subscription_tenant⟩
      honest := by
        intro row hrow hp
        obtain hold | ⟨_, hnew⟩ := mem_upsert hrow
        · exact hs.honest row hold hp
        · rw [hnew] at hp
          cases hp }
  have hbeside : ∀ u, (db.stored event).Beside u → u.Sound := by
    intro u hu
    refine ⟨⟨?_⟩, ?_⟩
    · rw [hu.tenants]
      exact hstored.schema.uq_subscription_tenant
    · intro row hrow hp
      rw [hu.rows] at hrow
      exact hu.handled _ (hstored.honest row hrow hp)
  have houtcome := handleWebhook_outcome env event fault db
  generalize handleWebhook env (.ok event) fault 0 db = r at houtcome ⊢
  cases houtcome with
  | lookupFails e h => exact hs
  | duplicate h done => exact hs
  | storeFails e h0 new h => exact hs
  | processed h0 new h1 clear =>
    have happlied := hbeside _ (applyEvent_beside env event (db.stored event))
    refine ⟨⟨happlied.schema.uq_subscription_tenant⟩, ?_⟩
    intro row hrow hp
    obtain ⟨q, _, hid, rfl⟩ | ⟨hrow, _⟩ := mem_updateKey.mp hrow
    · exact hid ▸ List.mem_cons_self
    · exact List.mem_cons_of_mem _ (happlied.honest row hrow hp)
  | recorded i e u h0 new h1 fails early beside h =>
    have hu := hbeside u beside
    refine ⟨⟨hu.schema.uq_subscription_tenant⟩, ?_⟩
    intro row hrow hp
    obtain ⟨q, hq, _, rfl⟩ | ⟨hrow, _⟩ := mem_updateKey.mp hrow
    · exact hu.honest q hq hp
    · exact hu.honest row hrow hp
  | recordFails i e e' u h0 new h1 fails early beside h => exact hbeside u beside

/-- A tenant without a row may get one. -/
theorem BillingDb.Schema.insert {db : BillingDb} (hs : db.Schema) {sub : Subscription}
    (hnew : byTenant sub.tenantId db.subscriptions = none) :
    (db.withSubscriptions (· ++ [sub])).Schema := by
  refine ⟨?_⟩
  show ((db.subscriptions ++ [sub]).map fun row : Subscription => row.tenantId).Nodup
  rw [List.map_append, List.nodup_append]
  refine ⟨hs.uq_subscription_tenant, List.nodup_singleton _, ?_⟩
  intro t ht t' ht' he
  obtain ⟨row, hrow, rfl⟩ := List.mem_map.mp ht
  rw [List.mem_singleton.mp ht'] at he
  exact absurd (List.find?_eq_none.mp hnew row hrow) (by simpa using he)

theorem create_keeps (dto : SubscriptionsService.CreateSubscriptionDto) :
    Keeps BillingDb.Sound (SubscriptionsService.create dto) := by
  intro fault n db hs
  cases h0 : fault n with
  | some e =>
    have hrun : SubscriptionsService.create dto fault n db = (.error e, n + 1, db) :=
      bind_error _ (call_error _ h0 db)
    rw [hrun]
    exact hs
  | none =>
    simp only [SubscriptionsService.create, bind, query, call, h0]
    cases ht : byTenant dto.tenantId db.subscriptions with
    | some sub => exact hs
    | none =>
      cases h1 : fault (n + 1) with
      | some e =>
        simp only [write, call, h1]
        exact hs
      | none =>
        simp only [write, call, h1]
        exact ⟨hs.schema.insert ht, hs.honest⟩

theorem provisioned_keeps (env : Env) (msg : TenantProvisionedEvent) (customer : String) :
    Keeps BillingDb.Sound (onTenantProvisioned env msg customer) := by
  refine Keeps.tryCatch ?_ fun _ => Keeps.pure ()
  refine (Keeps.query _).bind fun customerId => (create_keeps _).bind fun _ => ?_
  refine keeps_publish (fun env ms db hs => ?_) env _ _ _
  unfold BillingDb.send
  split
  · exact ⟨⟨hs.schema.uq_subscription_tenant⟩, hs.honest⟩
  · exact hs

theorem BillingDb.Sound.step {db : BillingDb} (hs : db.Sound) (i : BillingInput) :
    (db.step i).Sound := by
  cases i with
  | webhook env constructed fault =>
    cases constructed with
    | error message => exact hs
    | ok event => exact hs.webhook env event fault
  | provisioned env msg customer fault => exact provisioned_keeps env msg customer fault 0 db hs

theorem reachable_sound {db : BillingDb} (h : Reachable db) : db.Sound := by
  obtain ⟨inputs, rfl⟩ := h
  refine run_invariant (I := BillingDb.Sound) (fun _ i hs => hs.step i) ?_ inputs
  exact ⟨⟨List.nodup_nil⟩, fun _ h => absurd h List.not_mem_nil⟩

end SaasChassis.Billing
