import SaasChassis.Ledger.Reversal
import SaasChassis.Ledger.PeriodClose
import SaasChassis.Ledger.ClosedPeriods
import SaasChassis.Ledger.ClosedReports
import SaasChassis.Ledger.Reconcile
import SaasChassis.Ledger.Recognition
import SaasChassis.Ledger.ConcurrentReversals
import SaasChassis.Ledger.ConcurrentCloses
import SaasChassis.Gateway.TokenHeaders
import SaasChassis.Gateway.IdentityHeaders
import SaasChassis.Identity.Authority
import SaasChassis.Identity.Attribution
import SaasChassis.Identity.Revocation
import SaasChassis.Identity.Deactivation
import SaasChassis.Billing.DeliveryOrder
import SaasChassis.Billing.PublishedStatus
import SaasChassis.Tenants.BillingStatus
import SaasChassis.Tenants.PlanChange
import SaasChassis.Metering.Blocking
import SaasChassis.Audit.Agreement
import SaasChassis.Audit.Consumer
import SaasChassis.Audit.Poison
import SaasChassis.Ledger.PeriodMembership
import SaasChassis.Ledger.FailedCommands
import SaasChassis.Tenants.ConcurrentToggles
import SaasChassis.Tenants.Snapshot
import SaasChassis.Sdk.FeatureFlags
import SaasChassis.Billing.Provisioning
import SaasChassis.Identity.TenantContext
import SaasChassis.Identity.LoginLockout
import SaasChassis.Gateway.RateLimits
import SaasChassis.Audit.Settlement
import SaasChassis.Audit.Pages
import SaasChassis.Tenants.TenantsController
import SaasChassis.Tenants.Provisioning
import SaasChassis.Billing.Reprocessing
import SaasChassis.Billing.ChurnRate
import SaasChassis.Ledger.ReversalOutcomes
import SaasChassis.Ledger.Templates
import SaasChassis.Billing.Revenue
import SaasChassis.Identity.EndedSessions
import SaasChassis.Identity.RoleTenants
import SaasChassis.Sdk.Guards
import SaasChassis.Sdk.TenantAwareRepository
import SaasChassis.Sdk.FlagCache
import SaasChassis.Gateway.RateExactness
import SaasChassis.Ledger.AccountTree
import SaasChassis.Identity.TokenLifetimes
import SaasChassis.Rls.Policies
import SaasChassis.Ledger.RowSecurity
import SaasChassis.Ledger.PrivateLedgers
import SaasChassis.Ledger.SessionReports
import SaasChassis.Audit.Trail
import SaasChassis.Audit.Summary
import SaasChassis.Tenants.PrivateTenants
import SaasChassis.Billing.PrivateBilling
import SaasChassis.Ledger.BehindGateway
import SaasChassis.Identity.Escalation
import SaasChassis.Audit.BehindGateway
