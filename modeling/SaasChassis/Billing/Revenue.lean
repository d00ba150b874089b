/-
  The month's revenue, as one figure and by plan.

  `getCurrentMonthRevenue` adds up the paid invoices of the month. `getArrByPlan` would join them
  with the subscriptions, but it names the table with its schema, "billing.subscriptions", which
  TypeORM takes for the relation `subscriptions` of an alias `billing` (`parentAlias`): there is
  none and the query is refused before it is built (`getArrByPlan_refused`).

  `arr_never_reconciles`: in no state of any run do the two figures belong together, as there is no
  second one.
-/
import Mathlib.Tactic.NormNum
import SaasChassis.Billing.Customers

namespace SaasChassis.Billing

open SaasChassis.Lib

/-! ## TypeORM's joins -/

/-- `/^[a-zA-Z0-9_-]+$/`. -/
def isAliasName (cs : List Char) : Bool :=
  !cs.isEmpty && cs.all fun c => c.isAlphanum || c = '_' || c = '-'

/-- The alias of "alias.property", which is a relation; `none` is a table or an entity. -/
def parentAlias (entityOrProperty : String) : Option String :=
  match entityOrProperty.toList.splitOn '.' with
  | aliasName :: propertyName :: _ =>
    if isAliasName aliasName && isAliasName propertyName &&
        !entityOrProperty.toList.any (fun c => c = '(' || c = ')') then
      some (String.ofList aliasName)
    else none
  | _ => none

/-- What `findAliasByName` throws. -/
def aliasNotFound (aliasName : String) : String :=
  s!"\"{aliasName}\" alias was not found. Maybe you forgot to join it?"

/-- The first argument of `innerJoin`: the alias of a relation has to be one of the query's. -/
def joinAttribute (aliases : List String) (entityOrProperty : String) : Except String Unit :=
  match parentAlias entityOrProperty with
  | none => .ok ()
  | some aliasName =>
    if aliasName ∈ aliases then .ok ()
    else .error (aliasNotFound aliasName)

/-! ## RevenueService -/

section Queries

-- `DATE_TRUNC('month', ...)` in the time zone of the session, and `NOW()`
variable (month : ℤ → ℤ) (now : ℤ)

/-- The paid invoices of the current month. -/
def currentMonth (invoices : List Invoice) : List Invoice :=
  invoices.filter fun invoice =>
    invoice.status = .paid ∧ invoice.paidAt.map month = some (month now)

def getCurrentMonthRevenue (db : BillingDb) : ℚ :=
  ((currentMonth month now db.invoices).map (·.amountPaid)).sum

/-- Invoices with the subscriptions that have their customer. -/
def joinCustomers (invoices : List Invoice) (subs : List Subscription) :
    List (Invoice × Subscription) :=
  invoices.flatMap fun invoice =>
    (subs.filter (·.stripeCustomerId = invoice.stripeCustomerId)).map fun sub => (invoice, sub)

/-- Plans with their revenue in a year: the query, once it is built, on the tables. -/
def getArrByPlan : Except String (BillingDb → List (String × ℚ)) := do
  joinAttribute ["invoice"] "billing.subscriptions"
  return fun db => (groupBy (·.2.planCode)
    (joinCustomers (currentMonth month now db.invoices) db.subscriptions)).map fun g =>
      (g.1, (g.2.map (·.1.amountPaid)).sum * 12)

end Queries

theorem joinAttribute_unknown {aliases : List String} {entityOrProperty aliasName : String}
    (hparent : parentAlias entityOrProperty = some aliasName) (hunknown : aliasName ∉ aliases) :
    joinAttribute aliases entityOrProperty = .error (aliasNotFound aliasName) := by
  unfold joinAttribute
  rw [hparent]
  exact if_neg hunknown

/-- Whatever the tables hold. -/
theorem getArrByPlan_refused (month : ℤ → ℤ) (now : ℤ) :
    getArrByPlan month now = .error (aliasNotFound "billing") := by
  have hparent : parentAlias "billing.subscriptions" = some "billing" := by decide
  unfold getArrByPlan
  rw [joinAttribute_unknown hparent (by decide)]
  rfl

/-! ## The two figures -/

/-- There are plans, and together they make twelve times the month's revenue. -/
def Reconciles (month : ℤ → ℤ) (now : ℤ) (db : BillingDb) : Prop :=
  ∃ rows, getArrByPlan month now = .ok rows ∧
    ((rows db).map (·.2)).sum = 12 * getCurrentMonthRevenue month now db

/-- In no run, at no time. -/
theorem arr_never_reconciles (month : ℤ → ℤ) (inputs : List BillingInput) (now : ℤ) :
    ¬ Reconciles month now (run BillingDb.step .empty inputs) := by
  rintro ⟨rows, hrows, -⟩
  rw [getArrByPlan_refused] at hrows
  cases hrows

/-- A paid invoice is revenue of the month, whatever the month is, and of no plan. -/
theorem paid_invoice_of_no_plan :
    let db := run BillingDb.step .empty Sample.paidOnce
    (fun month => getCurrentMonthRevenue month Sample.env.now db) = (fun _ => 10) ∧
      (fun month => getArrByPlan month Sample.env.now) =
        (fun _ => .error (aliasNotFound "billing")) ∧
      ¬ Reconciles (fun t => t) Sample.env.now db := by
  intro db
  have hinvoices : db.invoices = [Sample.monthly.paidRow Sample.env "t1"] := by decide +kernel
  refine ⟨funext fun month => ?_, funext fun month => getArrByPlan_refused month _, ?_⟩
  · rw [getCurrentMonthRevenue, hinvoices, currentMonth,
      List.filter_cons_of_pos (by simp [StripeInvoice.paidRow])]
    norm_num [StripeInvoice.paidRow, Sample.monthly]
  · rintro ⟨rows, hrows, -⟩
    rw [getArrByPlan_refused] at hrows
    cases hrows

end SaasChassis.Billing
