import Trustctl.Projections.Tokens
import Trustctl.Projections.Isolation
import Trustctl.Acme.Caa
import Trustctl.Acme.Accounts
import Trustctl.Acme.Issuance
import Trustctl.Acme.Lifecycle
import Trustctl.Acme.Ownership
import Trustctl.Acme.Recovery
import Trustctl.Signing.Custody
import Trustctl.Secrets.Vault
import Trustctl.Projections.Consumption
import Trustctl.Revocation.Deltas
import Trustctl.Revocation.Leases
import Trustctl.Issuing.Enforcement
import Trustctl.Issuing.Sanctions
import Trustctl.Outbox.Fencing
import Trustctl.Outbox.Caps
import Trustctl.Outbox.Dispatch
import Trustctl.Idempotency.Do
import Trustctl.Lifecycle.Transitions
import Trustctl.Events.Erasure
import Trustctl.Audit.Payloads
import Trustctl.Audit.Retention
import Trustctl.Idempotency.Keys
import Trustctl.Projections.Certificates
import Trustctl.Approvals.AccessChanges
import Trustctl.Approvals.Manager
import Trustctl.Audit.Service
import Trustctl.Leader.Elector
import Trustctl.Byok.Signer
import Trustctl.Bulkhead.Pool
import Trustctl.Notify.Dispatch
import Trustctl.Crypto.Detrand
import Trustctl.Secrets.Shares
