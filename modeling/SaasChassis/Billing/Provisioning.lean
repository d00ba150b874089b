/-
  A tenant.provisioned message that is delivered more than once, and the customer.created webhooks
  of the customers that come of it.

  A delivery asks Stripe for a customer first and looks for the tenant's row only then. The row
  stays one (the table allows no second), and the conflict is swallowed; but the customer is made,
  and its webhook rewrites the row's link (`link_rewritten`).

  `provisioned_once_iff`: the tenant gets one customer and its row keeps its link exactly when one
  delivery of the message is taken up.
-/
import SaasChassis.Billing.ConcurrentDeliveries

namespace SaasChassis.Billing

open SaasChassis.Lib Faulty

/-! ## The consumer, step by step -/

/-- What Stripe gives the customers it makes, by the order in which it makes them: an id, and an
    event customer.created. -/
structure StripeAccount where
  customerId : ℕ → String
  eventId : ℕ → String
  created : ℕ → ℤ

def StripeAccount.customerCreated (stripe : StripeAccount) (msg : TenantProvisionedEvent) (n : ℕ) :
    StripeEvent :=
  { id := stripe.eventId n
    created := stripe.created n
    data := .customerCreated { id := stripe.customerId n, tenantId := some msg.tenantId } }

/-- The tables, and how many customers Stripe has made for the tenant. -/
structure Provisioned where
  db : BillingDb
  customers : ℕ

/-- Where a delivery of the message is, or one of a webhook. -/
inductive ProvisioningTask where
  | received (env : Env)
  | customerMade (env : Env) (customerId : String)
  | noneFound (env : Env) (customerId : String)
  | inserted (env : Env) (customerId : String)
  | ended
  /-- The event of the `n`-th customer, which Stripe delivers once the customer is there. -/
  | webhook (n : ℕ) (delivery : Delivery)

namespace ProvisioningTask

def isReceived : ProvisioningTask → Bool
  | .received _ => true
  | _ => false

def isEnded : ProvisioningTask → Bool
  | .ended => true
  | _ => false

/-- The customer a delivery has been given. -/
def customer : ProvisioningTask → Option String
  | .customerMade _ customerId | .noneFound _ customerId | .inserted _ customerId =>
    some customerId
  | _ => none

/-- The tenant's row is there: this delivery has inserted it or has been refused. -/
def knowsRow : ProvisioningTask → Bool
  | .inserted _ _ | .ended => true
  | _ => false

def atStart : ProvisioningTask → Bool
  | .received _ => true
  | .webhook _ delivery => delivery.isArrived
  | _ => false

end ProvisioningTask

def TenantProvisionedEvent.subscription (msg : TenantProvisionedEvent) (customerId : String) :
    Subscription :=
  { tenantId := msg.tenantId
    stripeCustomerId := customerId
    stripeSubscriptionId := none
    planCode := msg.plan
    status := if msg.plan = "free" then .active else .trialing
    currentPeriodStart := none
    currentPeriodEnd := none
    cancelAtPeriodEnd := false }

variable {stripe : StripeAccount} {msg : TenantProvisionedEvent}

def ProvisioningTask.next (stripe : StripeAccount) (msg : TenantProvisionedEvent)
    (s : Provisioned) : ProvisioningTask → Provisioned × ProvisioningTask
  | .received env =>
    ({ s with customers := s.customers + 1 }, .customerMade env (stripe.customerId s.customers))
  | .customerMade env customerId =>
    match byTenant msg.tenantId s.db.subscriptions with
    -- the ConflictException, which is swallowed
    | some _ => (s, .ended)
    | none => (s, .noneFound env customerId)
  | .noneFound env customerId =>
    match byTenant msg.tenantId s.db.subscriptions with
    -- `uq_subscription_tenant` refuses the row, which is swallowed as well
    | some _ => (s, .ended)
    | none => ({ s with db := s.db.withSubscriptions (· ++ [msg.subscription customerId]) },
        .inserted env customerId)
  | .inserted env customerId =>
    ({ s with db := (publish env "chassis.tenants" "billing.synced"
        (.billingSynced msg.tenantId customerId) noFaults 0 s.db).2.2 }, .ended)
  | .ended => (s, .ended)
  | .webhook n delivery =>
    if n < s.customers then
      let moved := delivery.next (stripe.customerCreated msg n) s.db
      ({ s with db := moved.1 }, .webhook n moved.2)
    else (s, .webhook n delivery)

section Next

variable {s : Provisioned} (env : Env) (customerId : String)

theorem next_conflict {row : Subscription}
    (h : byTenant msg.tenantId s.db.subscriptions = some row) :
    ProvisioningTask.next stripe msg s (.customerMade env customerId) = (s, .ended) := by
  simp only [ProvisioningTask.next, h]

theorem next_noneFound (h : byTenant msg.tenantId s.db.subscriptions = none) :
    ProvisioningTask.next stripe msg s (.customerMade env customerId) =
      (s, .noneFound env customerId) := by
  simp only [ProvisioningTask.next, h]

theorem next_refused {row : Subscription}
    (h : byTenant msg.tenantId s.db.subscriptions = some row) :
    ProvisioningTask.next stripe msg s (.noneFound env customerId) = (s, .ended) := by
  simp only [ProvisioningTask.next, h]

theorem next_inserted (h : byTenant msg.tenantId s.db.subscriptions = none) :
    ProvisioningTask.next stripe msg s (.noneFound env customerId) =
      ({ s with db := s.db.withSubscriptions (· ++ [msg.subscription customerId]) },
        .inserted env customerId) := by
  simp only [ProvisioningTask.next, h]

end Next

section Create

variable {db : BillingDb} (customerId : String) (n : ℕ)

/-- What the consumer asks to be created. -/
def TenantProvisionedEvent.dto (msg : TenantProvisionedEvent) :
    SubscriptionsService.CreateSubscriptionDto :=
  { tenantId := msg.tenantId
    stripeCustomerId := customerId
    planCode := msg.plan
    status := some (if msg.plan = "free" then .active else .trialing)
    stripeSubscriptionId := none }

theorem create_conflict {row : Subscription}
    (h : byTenant msg.tenantId db.subscriptions = some row) :
    SubscriptionsService.create (msg.dto customerId) noFaults n db =
      (.error s!"Subscription already exists for tenant {msg.tenantId}", n + 1, db) := by
  unfold SubscriptionsService.create TenantProvisionedEvent.dto
  rw [query_bind_noFaults, h]
  rfl

theorem create_new (h : byTenant msg.tenantId db.subscriptions = none) :
    SubscriptionsService.create (msg.dto customerId) noFaults n db =
      (.ok (msg.subscription customerId), n + 2,
        db.withSubscriptions (· ++ [msg.subscription customerId])) := by
  unfold SubscriptionsService.create TenantProvisionedEvent.dto
  rw [query_bind_noFaults, h]
  rfl

/-- The body of the consumer's try block. -/
def TenantProvisionedEvent.provision (env : Env) (msg : TenantProvisionedEvent) : Method Unit := do
  let customerId ← query fun _ => customerId
  let _ ← SubscriptionsService.create (msg.dto customerId)
  publish env "chassis.tenants" "billing.synced" (.billingSynced msg.tenantId customerId)

theorem onTenantProvisioned_conflict (env : Env) {row : Subscription}
    (h : byTenant msg.tenantId db.subscriptions = some row) :
    (onTenantProvisioned env msg customerId noFaults 0 db).2.2 = db := by
  have hbody : msg.provision customerId env noFaults 0 db =
      (.error s!"Subscription already exists for tenant {msg.tenantId}", 2, db) :=
    (query_bind_noFaults _ _).trans (bind_error _ (create_conflict customerId 1 h))
  exact congrArg (·.2.2) (tryCatch_error (fun _ => pure ()) hbody)

theorem onTenantProvisioned_new (env : Env) (h : byTenant msg.tenantId db.subscriptions = none) :
    (onTenantProvisioned env msg customerId noFaults 0 db).2.2 =
      (publish env "chassis.tenants" "billing.synced" (.billingSynced msg.tenantId customerId)
        noFaults 0 (db.withSubscriptions (· ++ [msg.subscription customerId]))).2.2 := by
  have hbody : msg.provision customerId env noFaults 0 db =
      publish env "chassis.tenants" "billing.synced" (.billingSynced msg.tenantId customerId)
        noFaults 3 (db.withSubscriptions (· ++ [msg.subscription customerId])) :=
    (query_bind_noFaults _ _).trans (bind_ok _ (create_new customerId 1 h))
  exact congrArg (·.2.2) (tryCatch_ok (fun _ => pure ()) hbody)

end Create

/-- Without interruption the steps are the consumer. -/
theorem onTenantProvisioned_alone (env : Env) (s : Provisioned) :
    Pool.alone (ProvisioningTask.next stripe msg) 4 s (.received env) =
      (⟨(onTenantProvisioned env msg (stripe.customerId s.customers) noFaults 0 s.db).2.2,
        s.customers + 1⟩, .ended) := by
  let made : Provisioned := { s with customers := s.customers + 1 }
  show Pool.alone (ProvisioningTask.next stripe msg) 3 made
    (.customerMade env (stripe.customerId s.customers)) = _
  rw [Pool.alone]
  cases h : byTenant msg.tenantId made.db.subscriptions with
  | some row =>
    rw [next_conflict env _ h, onTenantProvisioned_conflict _ env h]
    rfl
  | none =>
    rw [next_noneFound env _ h, Pool.alone, next_inserted env _ h,
      onTenantProvisioned_new _ env h]
    rfl

/-! ## Statement -/

abbrev ProvisioningPool := Pool Provisioned ProvisioningTask

/-- Nothing has happened for the tenant. -/
structure Unprovisioned (msg : TenantProvisionedEvent) (start : ProvisioningPool) : Prop where
  schema : start.shared.db.Schema
  tenant : byTenant msg.tenantId start.shared.db.subscriptions = none
  customers : start.shared.customers = 0
  tasks : ∀ t ∈ start.threads, t.atStart

/-- The tenant has at most one row, and one as soon as a delivery has ended. -/
def OneRow (msg : TenantProvisionedEvent) (p : ProvisioningPool) : Prop :=
  (p.shared.db.subscriptions.map (·.tenantId)).count msg.tenantId ≤ 1 ∧
    ∀ t ∈ p.threads, t.isEnded →
      (p.shared.db.subscriptions.map (·.tenantId)).count msg.tenantId = 1

/-- The tenant's row, if there is one, has the same customer after the step. -/
def KeepsLink (stripe : StripeAccount) (msg : TenantProvisionedEvent) (p : ProvisioningPool)
    (k : ℕ) : Prop :=
  ∀ row, byTenant msg.tenantId p.shared.db.subscriptions = some row →
    ((byTenant msg.tenantId
      (p.step (ProvisioningTask.next stripe msg) k).shared.db.subscriptions).map
        (·.stripeCustomerId)) = some row.stripeCustomerId

structure ProvisionedOnce (stripe : StripeAccount) (msg : TenantProvisionedEvent)
    (start : ProvisioningPool) (schedule : List ℕ) : Prop where
  customer :
    (run (Pool.step (ProvisioningTask.next stripe msg)) start schedule).shared.customers ≤ 1
  row : OneRow msg (run (Pool.step (ProvisioningTask.next stripe msg)) start schedule)
  link : StepsSatisfy (Pool.step (ProvisioningTask.next stripe msg)) (KeepsLink stripe msg) start
    schedule

/-- Thread `k` is a delivery of the message that has not been taken up. -/
def Waits (p : ProvisioningPool) (k : ℕ) : Bool := p.threads[k]?.any (·.isReceived)

/-- One delivery of the message is taken up at most. -/
def DeliveredOnce (start : ProvisioningPool) (schedule : List ℕ) : Prop :=
  ∀ i ∈ schedule, ∀ j ∈ schedule, Waits start i → Waits start j → i = j

instance (start : ProvisioningPool) (schedule : List ℕ) :
    Decidable (DeliveredOnce start schedule) :=
  inferInstanceAs (Decidable (∀ i ∈ schedule, ∀ j ∈ schedule,
    Waits start i → Waits start j → i = j))

/-! ## One step -/

/-- Taking a message up is what makes a customer, and no step gives it back. -/
theorem next_received (s : Provisioned) (t : ProvisioningTask) :
    (t.next stripe msg s).2.isReceived = false ∧
      (t.next stripe msg s).1.customers = s.customers + if t.isReceived then 1 else 0 := by
  cases t with
  | received env => exact ⟨rfl, rfl⟩
  | inserted env customerId => exact ⟨rfl, rfl⟩
  | ended => exact ⟨rfl, rfl⟩
  | customerMade env customerId =>
    simp only [ProvisioningTask.next]
    split <;> exact ⟨rfl, rfl⟩
  | noneFound env customerId =>
    simp only [ProvisioningTask.next]
    split <;> exact ⟨rfl, rfl⟩
  | webhook n delivery =>
    simp only [ProvisioningTask.next]
    split <;> exact ⟨rfl, rfl⟩

theorem waits_step (p : ProvisioningPool) (k i : ℕ) :
    Waits (p.step (ProvisioningTask.next stripe msg) k) i = (Waits p i && decide (k ≠ i)) := by
  unfold Waits
  cases hi : p.threads[i]? with
  | none =>
    cases hk : p.threads[k]? with
    | none => rw [Pool.step_none hk, hi]; rfl
    | some t =>
      have hne : i ≠ k := by
        rintro rfl
        cases hi.symm.trans hk
      rw [Pool.step_some hk, List.getElem?_set_ne hne.symm, hi]
      rfl
  | some t =>
    rw [Pool.step_getElem? hi]
    by_cases hk : k = i
    · rw [if_pos hk]
      simp [hk, (next_received _ t).1]
    · rw [if_neg hk]
      simp [hk]

theorem waits_step_of_not {p : ProvisioningPool} {k : ℕ} (hk : Waits p k = false) (i : ℕ) :
    Waits (p.step (ProvisioningTask.next stripe msg) k) i = Waits p i := by
  rw [waits_step]
  by_cases hki : k = i
  · simp [← hki, hk]
  · simp [hki]

theorem customers_step (p : ProvisioningPool) (k : ℕ) :
    (p.step (ProvisioningTask.next stripe msg) k).shared.customers =
      p.shared.customers + if Waits p k then 1 else 0 := by
  unfold Waits
  cases hk : p.threads[k]? with
  | none =>
    rw [Pool.step_none hk]
    rfl
  | some t =>
    rw [Pool.step_some hk]
    exact (next_received p.shared t).2

/-! ## How many customers -/

theorem customers_le_run (p : ProvisioningPool) (schedule : List ℕ) :
    p.shared.customers ≤
      (run (Pool.step (ProvisioningTask.next stripe msg)) p schedule).shared.customers :=
  run_invariant (I := fun q : ProvisioningPool => p.shared.customers ≤ q.shared.customers)
    (fun q k hq => Nat.le_trans hq (by rw [customers_step]; exact Nat.le_add_right _ _))
    (Nat.le_refl _) schedule

/-- No further customer is made if and only if no further delivery is taken up. -/
theorem no_customer_iff (p : ProvisioningPool) (schedule : List ℕ) :
    (run (Pool.step (ProvisioningTask.next stripe msg)) p schedule).shared.customers ≤
        p.shared.customers ↔ ∀ i ∈ schedule, Waits p i = false := by
  induction schedule generalizing p with
  | nil => exact iff_of_true (Nat.le_refl _) fun _ hi => absurd hi List.not_mem_nil
  | cons k schedule ih =>
    show (run _ (p.step (ProvisioningTask.next stripe msg) k) schedule).shared.customers ≤ _ ↔ _
    have hle := @customers_le_run stripe msg (p.step (ProvisioningTask.next stripe msg) k) schedule
    have hstep := @customers_step stripe msg p k
    rw [List.forall_mem_cons]
    cases hk : Waits p k with
    | true =>
      rw [hk, if_pos rfl] at hstep
      exact iff_of_false (by omega) fun h => nomatch h.1
    | false =>
      rw [hk, if_neg Bool.false_ne_true, Nat.add_zero] at hstep
      rw [← hstep, ih, and_iff_right rfl]
      exact forall₂_congr fun i _ => by rw [waits_step_of_not hk]

/-- One customer is made at most if and only if one delivery is taken up at most. -/
theorem one_customer_iff {p : ProvisioningPool} (hp : p.shared.customers = 0) (schedule : List ℕ) :
    (run (Pool.step (ProvisioningTask.next stripe msg)) p schedule).shared.customers ≤ 1 ↔
      DeliveredOnce p schedule := by
  induction schedule generalizing p with
  | nil =>
    refine iff_of_true ?_ fun _ hi => absurd hi List.not_mem_nil
    show p.shared.customers ≤ 1
    omega
  | cons k schedule ih =>
    show (run _ (p.step (ProvisioningTask.next stripe msg) k) schedule).shared.customers ≤ _ ↔ _
    have hstep := @customers_step stripe msg p k
    have hwaits := @waits_step stripe msg p k
    cases hk : Waits p k with
    | true =>
      rw [hk, if_pos rfl, hp] at hstep
      rw [← show (p.step (ProvisioningTask.next stripe msg) k).shared.customers = 1 from hstep,
        no_customer_iff]
      constructor
      · intro h
        have honly : ∀ i ∈ k :: schedule, Waits p i → k = i := by
          intro i hi hwi
          rcases List.mem_cons.mp hi with rfl | hi
          · rfl
          · have hnone := h i hi
            rw [hwaits, hwi] at hnone
            simpa using hnone
        exact fun i hi j hj hwi hwj => (honly i hi hwi).symm.trans (honly j hj hwj)
      · intro h i hi
        rw [Bool.eq_false_iff]
        intro hwi
        rw [hwaits, Bool.and_eq_true, decide_eq_true_eq] at hwi
        exact hwi.2 (h k List.mem_cons_self i (List.mem_cons_of_mem _ hi) hk hwi.1)
    | false =>
      rw [hk, if_neg Bool.false_ne_true, Nat.add_zero, hp] at hstep
      rw [ih hstep]
      have hsame := @waits_step_of_not stripe msg p k hk
      constructor
      · intro h i hi j hj hwi hwj
        rcases List.mem_cons.mp hi with rfl | hi
        · exact nomatch hk.symm.trans hwi
        · rcases List.mem_cons.mp hj with rfl | hj
          · exact nomatch hk.symm.trans hwj
          · exact h i hi j hj ((hsame i).trans hwi) ((hsame j).trans hwj)
      · intro h i hi j hj hwi hwj
        exact h i (List.mem_cons_of_mem _ hi) j (List.mem_cons_of_mem _ hj)
          ((hsame i).symm.trans hwi) ((hsame j).symm.trans hwj)

/-! ## The row and its link -/

/-- What a step does to the rows. -/
inductive SubscriptionStep (stripe : StripeAccount) (msg : TenantProvisionedEvent)
    (s : Provisioned) : ProvisioningTask → List Subscription → Prop
  | same (t : ProvisioningTask) : SubscriptionStep stripe msg s t s.db.subscriptions
  | inserted (env : Env) (customerId : String)
      (new : byTenant msg.tenantId s.db.subscriptions = none) :
      SubscriptionStep stripe msg s (.noneFound env customerId)
        (s.db.subscriptions ++ [msg.subscription customerId])
  | linked (n : ℕ) (delivery : Delivery) (made : n < s.customers) :
      SubscriptionStep stripe msg s (.webhook n delivery)
        (subscriptionsAfter (stripe.customerCreated msg n).data s.db.subscriptions)

theorem delivery_subscriptions (event : StripeEvent) (db : BillingDb) (d : Delivery) :
    (d.next event db).1.subscriptions = db.subscriptions ∨
      (d.next event db).1.subscriptions = subscriptionsAfter event.data db.subscriptions := by
  cases d with
  | arrived env =>
    refine Or.inl ?_
    simp only [Delivery.next]
    split <;> rfl
  | unprocessed env => exact Or.inl rfl
  | stored env =>
    refine Or.inr ?_
    show (db.handle env event).subscriptions = _
    rw [handle_eq]
    exact send_subscriptions env _ _
  | handled env => exact Or.inl rfl
  | answered reply => exact Or.inl rfl

theorem next_subscriptions (s : Provisioned) (t : ProvisioningTask) :
    SubscriptionStep stripe msg s t (t.next stripe msg s).1.db.subscriptions := by
  cases t with
  | received env => exact .same _
  | customerMade env customerId =>
    simp only [ProvisioningTask.next]
    split <;> exact .same _
  | noneFound env customerId =>
    cases h : byTenant msg.tenantId s.db.subscriptions with
    | some row =>
      rw [next_refused env customerId h]
      exact .same _
    | none =>
      rw [next_inserted env customerId h]
      exact .inserted env customerId h
  | inserted env customerId =>
    have h : (ProvisioningTask.next stripe msg s (.inserted env customerId)).1.db.subscriptions =
        s.db.subscriptions := by
      simp only [ProvisioningTask.next, publish, effect]
      split <;> rfl
    rw [h]
    exact .same _
  | ended => exact .same _
  | webhook n delivery =>
    simp only [ProvisioningTask.next]
    split
    next made =>
      obtain h | h := delivery_subscriptions (stripe.customerCreated msg n) s.db delivery
      · simp only [h]
        exact .same _
      · simp only [h]
        exact .linked n delivery made
    next => exact .same _

theorem mem_tenants_iff {tenantId : String} {rows : List Subscription} :
    tenantId ∈ rows.map (·.tenantId) ↔ ∃ row, byTenant tenantId rows = some row := by
  rw [← Option.isSome_iff_exists, byTenant, List.find?_isSome]
  simp [List.mem_map]

namespace SubscriptionStep

variable {s : Provisioned} {t : ProvisioningTask} {rows : List Subscription}

theorem tenants (h : SubscriptionStep stripe msg s t rows) :
    rows.map (·.tenantId) = s.db.subscriptions.map (·.tenantId) ∨
      byTenant msg.tenantId s.db.subscriptions = none ∧
        rows.map (·.tenantId) = s.db.subscriptions.map (·.tenantId) ++ [msg.tenantId] := by
  cases h with
  | same => exact Or.inl rfl
  | inserted env customerId new => exact Or.inr ⟨new, List.map_append⟩
  | linked n delivery made => exact Or.inl (subscriptionsAfter_tenants _ _)

theorem subset (h : SubscriptionStep stripe msg s t rows) {tenantId : String}
    (hmem : tenantId ∈ s.db.subscriptions.map (·.tenantId)) :
    tenantId ∈ rows.map (·.tenantId) := by
  obtain he | ⟨-, he⟩ := h.tenants
  · rwa [he]
  · rw [he]
    exact List.mem_append_left _ hmem

theorem nodup (h : SubscriptionStep stripe msg s t rows) (hs : s.db.Schema) :
    (rows.map (·.tenantId)).Nodup := by
  obtain he | ⟨hnew, he⟩ := h.tenants
  · rw [he]
    exact hs.uq_subscription_tenant
  · have hnot : msg.tenantId ∉ s.db.subscriptions.map (·.tenantId) := by
      rw [mem_tenants_iff, hnew]
      exact fun ⟨row, hrow⟩ => nomatch hrow
    rw [he]
    exact hs.uq_subscription_tenant.append (List.nodup_singleton _)
      (List.disjoint_singleton.mpr hnot)

/-- A row's link is as before, or of the customer the step is about. -/
theorem link (h : SubscriptionStep stripe msg s t rows) {row : Subscription} (hrow : row ∈ rows)
    (htenant : row.tenantId = msg.tenantId) :
    row ∈ s.db.subscriptions ∨ t.customer = some row.stripeCustomerId ∨
      ∃ n, n < s.customers ∧ row.stripeCustomerId = stripe.customerId n := by
  cases h with
  | same => exact Or.inl hrow
  | inserted env customerId new =>
    obtain hrow | hrow := List.mem_append.mp hrow
    · exact Or.inl hrow
    · rw [List.mem_singleton.mp hrow]
      exact Or.inr (Or.inl rfl)
  | linked n delivery made =>
    unfold subscriptionsAfter StripeAccount.customerCreated at hrow
    dsimp only at hrow
    split at hrow
    · exact Or.inl hrow
    · obtain ⟨q, -, -, rfl⟩ | ⟨hrow, -⟩ := mem_updateKey.mp hrow
      · exact Or.inr (Or.inr ⟨n, made, rfl⟩)
      · exact Or.inl hrow

end SubscriptionStep

/-- A delivery that has inserted the row or has been refused finds it there. -/
def RowKnown (msg : TenantProvisionedEvent) (s : Provisioned) (t : ProvisioningTask) : Prop :=
  t.knowsRow → msg.tenantId ∈ s.db.subscriptions.map (·.tenantId)

theorem rowKnown_next {s : Provisioned} {t : ProvisioningTask} (h : RowKnown msg s t) :
    RowKnown msg (t.next stripe msg s).1 (t.next stripe msg s).2 := by
  have hfound : ∀ {row}, byTenant msg.tenantId s.db.subscriptions = some row →
      msg.tenantId ∈ s.db.subscriptions.map (·.tenantId) := fun hrow =>
    mem_tenants_iff.mpr ⟨_, hrow⟩
  have hstep := @next_subscriptions stripe msg s t
  intro hknows
  cases t with
  | received env => cases hknows
  | customerMade env customerId =>
    cases hrow : byTenant msg.tenantId s.db.subscriptions with
    | some row =>
      rw [next_conflict env customerId hrow]
      exact hfound hrow
    | none =>
      rw [next_noneFound env customerId hrow] at hknows
      cases hknows
  | noneFound env customerId =>
    cases hrow : byTenant msg.tenantId s.db.subscriptions with
    | some row =>
      rw [next_refused env customerId hrow]
      exact hfound hrow
    | none =>
      rw [next_inserted env customerId hrow]
      show msg.tenantId ∈ (s.db.subscriptions ++ [msg.subscription customerId]).map (·.tenantId)
      rw [List.map_append]
      exact List.mem_append_right _ (List.mem_singleton_self _)
  | inserted env customerId => exact hstep.subset (h rfl)
  | ended => exact h rfl
  | webhook n delivery =>
    simp only [ProvisioningTask.next] at hknows
    split at hknows <;> cases hknows

theorem rows_step {p : ProvisioningPool} (h : p.Holds (·.db.Schema) (RowKnown msg)) (k : ℕ) :
    (p.step (ProvisioningTask.next stripe msg) k).Holds (·.db.Schema) (RowKnown msg) := by
  refine Pool.Holds.step (C := fun _ _ => True) (fun s t hs ht _ => ?_) h fun _ _ => trivial
  have hstep := @next_subscriptions stripe msg s t
  exact ⟨⟨hstep.nodup hs⟩, rowKnown_next ht, fun u hu hknows => hstep.subset (hu hknows)⟩

theorem oneRow_of_holds {p : ProvisioningPool} (h : p.Holds (·.db.Schema) (RowKnown msg)) :
    OneRow msg p := by
  have hnd := h.shared.uq_subscription_tenant
  refine ⟨List.nodup_iff_count_le_one.mp hnd _, fun t ht hended => ?_⟩
  refine List.count_eq_one_of_mem hnd (h.threads t ht ?_)
  cases t with
  | ended => rfl
  | _ => cases hended

/-- The links are those of the first customer. -/
def FirstLinked (stripe : StripeAccount) (msg : TenantProvisionedEvent) (s : Provisioned) : Prop :=
  ∀ row ∈ s.db.subscriptions, row.tenantId = msg.tenantId →
    row.stripeCustomerId = stripe.customerId 0

def FirstGiven (stripe : StripeAccount) (_ : Provisioned) (t : ProvisioningTask) : Prop :=
  ∀ customerId ∈ t.customer, customerId = stripe.customerId 0

/-- The step leaves one customer at most. -/
def LeavesOne (stripe : StripeAccount) (msg : TenantProvisionedEvent) (s : Provisioned)
    (t : ProvisioningTask) : Prop :=
  (t.next stripe msg s).1.customers ≤ 1

theorem firstGiven_next {s : Provisioned} {t : ProvisioningTask} (h : FirstGiven stripe s t)
    (hone : LeavesOne stripe msg s t) :
    FirstGiven stripe (t.next stripe msg s).1 (t.next stripe msg s).2 := by
  intro customerId hmem
  cases t with
  | received env =>
    have hzero : s.customers = 0 := by
      have hle : s.customers + 1 ≤ 1 := hone
      omega
    cases hmem
    rw [hzero]
  | customerMade env made =>
    simp only [ProvisioningTask.next] at hmem
    split at hmem
    · cases hmem
    · exact h customerId hmem
  | noneFound env made =>
    simp only [ProvisioningTask.next] at hmem
    split at hmem
    · cases hmem
    · exact h customerId hmem
  | inserted env made => cases hmem
  | ended => cases hmem
  | webhook n delivery =>
    simp only [ProvisioningTask.next] at hmem
    split at hmem <;> cases hmem

theorem customers_le_next (s : Provisioned) (t : ProvisioningTask) :
    s.customers ≤ (t.next stripe msg s).1.customers := by
  have h := @customers_step stripe msg ⟨s, [t]⟩ 0
  exact Nat.le.intro h.symm

theorem firstLinked_step {p : ProvisioningPool}
    (h : p.Holds (FirstLinked stripe msg) (FirstGiven stripe)) {k : ℕ}
    (hone : p.OnStep (LeavesOne stripe msg) k) :
    (p.step (ProvisioningTask.next stripe msg) k).Holds (FirstLinked stripe msg)
      (FirstGiven stripe) := by
  refine Pool.Holds.step (fun s t hs ht hone => ?_) h hone
  refine ⟨fun row hrow htenant => ?_, firstGiven_next ht hone, fun u hu => hu⟩
  obtain hold | hown | ⟨n, hn, hlink⟩ := (next_subscriptions s t).link hrow htenant
  · exact hs row hold htenant
  · exact ht _ hown
  · have hle := Nat.le_trans (@customers_le_next stripe msg s t) hone
    obtain rfl : n = 0 := by omega
    exact hlink

theorem keepsLink_of_holds {p : ProvisioningPool} {k : ℕ}
    (h : p.Holds (FirstLinked stripe msg) (FirstGiven stripe))
    (hone : p.OnStep (LeavesOne stripe msg) k) : KeepsLink stripe msg p k := by
  intro row hrow
  have hlink := h.shared row (List.mem_of_find?_eq_some hrow) (by simpa using List.find?_some hrow)
  obtain ⟨row', hrow'⟩ : ∃ row', byTenant msg.tenantId
      (p.step (ProvisioningTask.next stripe msg) k).shared.db.subscriptions = some row' := by
    rw [← mem_tenants_iff]
    have hmem := mem_tenants_iff.mpr ⟨row, hrow⟩
    cases hk : p.threads[k]? with
    | none =>
      rw [Pool.step_none hk]
      exact hmem
    | some t =>
      rw [Pool.step_some hk]
      exact (next_subscriptions p.shared t).subset hmem
  have hlink' := (firstLinked_step h hone).shared row' (List.mem_of_find?_eq_some hrow')
    (by simpa using List.find?_some hrow')
  rw [hrow', Option.map_some, hlink, hlink']

/-! ## Runs -/

theorem leavesOne_of_run {p : ProvisioningPool} {schedule : List ℕ}
    (h : (run (Pool.step (ProvisioningTask.next stripe msg)) p schedule).shared.customers ≤ 1) :
    StepsSatisfy (Pool.step (ProvisioningTask.next stripe msg)) (Pool.OnStep (LeavesOne stripe msg))
      p schedule := by
  induction schedule generalizing p with
  | nil => exact trivial
  | cons k schedule ih =>
    refine ⟨fun t hk => ?_, ih h⟩
    have hle := @customers_le_run stripe msg (p.step (ProvisioningTask.next stripe msg) k) schedule
    rw [Pool.step_some hk] at hle
    exact Nat.le_trans hle (by rw [← Pool.step_some hk]; exact h)

theorem Unprovisioned.rows {start : ProvisioningPool} (h : Unprovisioned msg start) :
    start.Holds (·.db.Schema) (RowKnown msg) := by
  refine ⟨h.schema, fun t ht hknows => ?_⟩
  have hstart := h.tasks t ht
  cases t with
  | inserted env customerId => cases hstart
  | ended => cases hstart
  | _ => cases hknows

theorem Unprovisioned.links {start : ProvisioningPool} (h : Unprovisioned msg start) :
    start.Holds (FirstLinked stripe msg) (FirstGiven stripe) := by
  refine ⟨fun row hrow htenant => ?_, fun t ht customerId hmem => ?_⟩
  · exact absurd (List.find?_eq_none.mp h.tenant row hrow) (by simpa using htenant)
  · have hstart := h.tasks t ht
    cases t with
    | received env => cases hmem
    | webhook n delivery => cases hmem
    | _ => cases hstart

/-- For any number of deliveries of the message and of the webhooks of the customers made, in any
    order of their steps: the tenant never has two rows, and has one once a delivery has ended. It
    gets one customer at most and its row keeps its link if and only if one delivery of the message
    is taken up at most. -/
theorem provisioned_once_iff {start : ProvisioningPool} (hstart : Unprovisioned msg start)
    (schedule : List ℕ) :
    OneRow msg (run (Pool.step (ProvisioningTask.next stripe msg)) start schedule) ∧
      (DeliveredOnce start schedule ↔ ProvisionedOnce stripe msg start schedule) := by
  have hrow : OneRow msg (run (Pool.step (ProvisioningTask.next stripe msg)) start schedule) :=
    oneRow_of_holds (run_invariant
      (I := fun p : ProvisioningPool => p.Holds (·.db.Schema) (RowKnown msg))
      (fun p k h => rows_step h k) hstart.rows schedule)
  refine ⟨hrow, ?_⟩
  rw [← @one_customer_iff stripe msg _ hstart.customers schedule]
  constructor
  · intro hone
    refine ⟨hone, hrow, ?_⟩
    exact StepsSatisfy.mono
      (I := fun p : ProvisioningPool => p.Holds (FirstLinked stripe msg) (FirstGiven stripe))
      (fun p k h hk => firstLinked_step h hk) (fun p k h hk => keepsLink_of_holds h hk)
      hstart.links (leavesOne_of_run hone)
  · exact fun h => h.customer

namespace Sample

def numbered : StripeAccount :=
  { customerId := fun n => s!"cus_{n}", eventId := fun n => s!"evt_{n}", created := fun _ => 0 }

def provisioning : TenantProvisionedEvent :=
  { tenantId := "t1", slug := "acme", plan := "pro", adminEmail := "admin@acme.com" }

def redelivered : ProvisioningPool :=
  ⟨⟨.empty, 0⟩, [.received env, .received env, .webhook 0 (.arrived env),
    .webhook 1 (.arrived env)]⟩

theorem redelivered_unprovisioned : Unprovisioned provisioning redelivered :=
  ⟨⟨List.nodup_nil⟩, rfl, rfl, by decide⟩

end Sample

theorem provisioned_once_iff_sample :
    ProvisionedOnce Sample.numbered Sample.provisioning Sample.redelivered
      [0, 0, 2, 2, 0, 2, 0, 2] :=
  (provisioned_once_iff Sample.redelivered_unprovisioned [0, 0, 2, 2, 0, 2, 0, 2]).2.mp
    (by decide)

/-- The second delivery finds the row and ends in the swallowed conflict, but only after Stripe has
    made a second customer, whose webhook rewrites the link. -/
theorem link_rewritten :
    let after := run (Pool.step (ProvisioningTask.next Sample.numbered Sample.provisioning))
      Sample.redelivered
    Unprovisioned Sample.provisioning Sample.redelivered ∧
      (after [0, 0, 0, 0, 2, 2, 2, 2, 1, 1, 3, 3, 3, 3]).shared.customers = 2 ∧
      ((byTenant "t1" (after [0, 0, 0, 0, 2, 2, 2, 2]).shared.db.subscriptions).map
        (·.stripeCustomerId)) = some "cus_0" ∧
      ((byTenant "t1"
        (after [0, 0, 0, 0, 2, 2, 2, 2, 1, 1, 3, 3, 3, 3]).shared.db.subscriptions).map
          (·.stripeCustomerId)) = some "cus_1" ∧
      ¬ ProvisionedOnce Sample.numbered Sample.provisioning Sample.redelivered
        [0, 0, 0, 0, 2, 2, 2, 2, 1, 1, 3, 3, 3, 3] := by
  refine ⟨Sample.redelivered_unprovisioned, by decide +kernel, by decide +kernel,
    by decide +kernel, fun h => ?_⟩
  have hone := h.customer
  revert hone
  decide +kernel

end SaasChassis.Billing
