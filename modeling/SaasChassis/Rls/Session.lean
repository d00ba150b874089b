/-
  The session mechanism of infrastructure/postgres/init/02-rls-foundation.sql.

  A transaction carries two custom settings, which the services set before every query.
  `currentTenantId` and `isPlatformAdmin` are the two SQL functions that the policies call; both
  catch what the cast of a setting throws. `Session` is what the two return, and `Session.sees` the
  expression of the policies, `tenant_id = current_tenant_id() OR is_platform_admin()`.

  `session_of_request`: the settings a service writes for a tenant id give that tenant, and all rows
  if and only if the flag was set.
-/
import SaasChassis.Lib.Postgres
import SaasChassis.Lib.Text

namespace SaasChassis.Rls

open SaasChassis.Lib SaasChassis.Lib.Postgres

/-! ## Settings -/

/-- `app.current_tenant_id` and `app.is_platform_admin`; `none` where never set, and a setting made
    by `SET LOCAL` is the empty string once its transaction has ended. -/
structure Settings where
  currentTenantId : Option String
  isPlatformAdmin : Option String

/-- C `isspace`, as the input function of `boolean` trims it. -/
def isBlank (c : Char) : Bool := [0x09, 0x0A, 0x0B, 0x0C, 0x0D, 0x20].contains c.toNat

/-- The input function of `boolean`: a prefix of a word that no other word has. -/
def boolIn (text : String) : Option Bool :=
  let word := (trimBy isBlank text).toList.map Char.toLower
  let isWord := fun (w : List Char) (shortest : ℕ) => shortest ≤ word.length ∧ word.isPrefixOf w
  if isWord ['t', 'r', 'u', 'e'] 1 ∨ isWord ['y', 'e', 's'] 1 ∨ isWord ['o', 'n'] 2 ∨
    isWord ['1'] 1 then some true
  else if isWord ['f', 'a', 'l', 's', 'e'] 1 ∨ isWord ['n', 'o'] 1 ∨ isWord ['o', 'f', 'f'] 2 ∨
    isWord ['0'] 1 then some false
  else none

/-- `current_tenant_id()`. -/
def currentTenantId (settings : Settings) : Option Uuid :=
  match settings.currentTenantId with
  | none => none
  -- NULLIF(..., ''): no cast is tried
  | some text => if text = "" then none else uuidIn text

/-- `is_platform_admin()`. -/
def isPlatformAdmin (settings : Settings) : Bool :=
  match boolIn (settings.isPlatformAdmin.getD "false") with
  | some b => b
  -- EXCEPTION WHEN OTHERS
  | none => false

/-! ## Sessions -/

/-- What the two functions return. -/
structure Session (τ : Type) where
  currentTenantId : Option τ
  isPlatformAdmin : Bool
  deriving DecidableEq

def Settings.session (settings : Settings) : Session Uuid :=
  ⟨Rls.currentTenantId settings, Rls.isPlatformAdmin settings⟩

section Session

variable {τ : Type} [DecidableEq τ]

/-- `tenant_id = current_tenant_id() OR is_platform_admin()`. -/
def Session.sees (s : Session τ) (tenantId : τ) : Bool :=
  decide (s.currentTenantId = some tenantId) || s.isPlatformAdmin

/-- The session of one tenant. -/
def Session.tenant (tenantId : τ) : Session τ := ⟨some tenantId, false⟩

theorem sees_tenant (t u : τ) : (Session.tenant t).sees u = decide (u = t) := by
  simp [Session.sees, Session.tenant, eq_comm]

/-- Whoever is no admin sees at most one tenant. -/
theorem sees_iff {s : Session τ} (h : s.isPlatformAdmin = false) {t : τ} :
    s.sees t = true ↔ s.currentTenantId = some t := by
  simp [Session.sees, h]

theorem sees_of_admin {s : Session τ} (h : s.isPlatformAdmin = true) (t : τ) :
    s.sees t = true := by
  simp [Session.sees, h]

end Session

/-- The settings a service writes before a query: `SET LOCAL` with the request's tenant and flag. -/
def Settings.request (tenantId : String) (admin : Bool) : Settings :=
  ⟨some tenantId, some (toString admin)⟩

theorem isPlatformAdmin_request (tenantId : String) (admin : Bool) :
    isPlatformAdmin (.request tenantId admin) = admin := by
  have hflag : boolIn (toString admin) = some admin := by
    revert admin
    decide
  simp only [isPlatformAdmin, Settings.request, Option.getD_some, hflag]

theorem currentTenantId_request {tenantId : String} {t : Uuid} (h : uuidIn tenantId = some t)
    (admin : Bool) : currentTenantId (.request tenantId admin) = some t := by
  have hne : tenantId ≠ "" := by
    rintro rfl
    exact nomatch h
  simp only [currentTenantId, Settings.request]
  rw [if_neg hne, h]

theorem session_of_request {tenantId : String} {t : Uuid} (h : uuidIn tenantId = some t)
    (admin : Bool) : (Settings.request tenantId admin).session = ⟨some t, admin⟩ := by
  rw [Settings.session, currentTenantId_request h, isPlatformAdmin_request]

/-- A tenant id that is no UUID gives a session of no tenant. -/
theorem session_of_malformed {tenantId : String} (h : uuidIn tenantId = none) (admin : Bool) :
    (Settings.request tenantId admin).session = ⟨none, admin⟩ := by
  have hnone : currentTenantId (.request tenantId admin) = none := by
    simp only [currentTenantId, Settings.request]
    split
    · rfl
    · exact h
  rw [Settings.session, hnone, isPlatformAdmin_request]

/-- Settings left over from an ended transaction, or never made, see nothing. -/
example : (Settings.mk (some "") (some "")).session = ⟨none, false⟩ := by decide

end SaasChassis.Rls
