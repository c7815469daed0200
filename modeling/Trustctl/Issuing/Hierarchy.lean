import Trustctl.Issuing.Purposes
import Trustctl.Store.Ceremonies
import Trustctl.Systems.Run

/-!
# The served hierarchy

`ca_hierarchy.go`: the operations of every tenant on its private CAs, as transactions on the key
ceremonies and the authorities.  An operation that is refused has no successor state.  The PEM
text of an authority is identified with the certificates in it; the key of a signer handle is
named by the handle.  `issued` is a history variable.

* `World.perform`: one operation;
* `Outcome`, `perform_outcome`: everything it can do.
-/

namespace Trustctl.Issuing.Hierarchy

open Store Relational Systems List Option

/-! ## Authorities -/

inductive AuthorityStatus
  | active
  | superseded
  | revoked
deriving DecidableEq

/-- `store.CAAuthority`; the chain starts with the authority's own certificate. -/
structure Authority where
  id : Uuid
  tenantId : Uuid
  parentId : Option Uuid := none
  commonName : String
  kind : AuthorityKind
  status : AuthorityStatus := .active
  certificate : CaCert
  above : List CaCert := []
  /-- Empty for an offline root. -/
  signerHandle : String := ""
  maxPathLen : Int
  permittedDnsNames : List String
  ekus : List String
  replacesId : Option Uuid := none
  createdAt : Time

/-- The certificates of the PEM text. -/
def Authority.chain (a : Authority) : List CaCert := a.certificate :: a.above

def errCaHierarchyConflict (msg : String) : String :=
  "api: CA hierarchy request conflicts with current ceremony state: " ++ msg

def errCaHierarchyUnavailable (msg : String) : String :=
  "api: CA hierarchy surface is not enabled: " ++ msg

def getCaAuthority (authorities : List Authority) (τ id : Uuid) : Except String Authority :=
  match authorities.find? fun a => a.tenantId = τ ∧ a.id = id with
  | some a => .ok a
  | none => .error "no rows in result set"

/-- The row that `ORDER BY created_at DESC, id DESC` puts first. -/
def newest : List Authority → Option Authority
  | [] => none
  | a :: rest =>
    match newest rest with
    | none => some a
    | some b => if b.createdAt < a.createdAt ∨ a.createdAt = b.createdAt ∧ b.id < a.id then some a
      else some b

def findActiveCaAuthoritySuccessor (authorities : List Authority) (τ replacesId : Uuid) :
    Option Authority :=
  newest (authorities.filter fun a =>
    a.tenantId = τ ∧ a.replacesId = some replacesId ∧ a.status = .active)

/-- `InsertCAAuthorityTx`, under the keys of the table. -/
def insertCaAuthorityTx (authorities : List Authority) (a : Authority) :
    Except String (List Authority) := do
  demand (∀ b ∈ authorities, b.id ≠ a.id)
    "duplicate key value violates unique constraint \"ca_authorities_pkey\""
  demand (a.signerHandle = "" ∨
      ∀ b ∈ authorities, ¬ (b.tenantId = a.tenantId ∧ b.signerHandle = a.signerHandle))
    "duplicate key value violates unique constraint \"ca_authorities_tenant_signer_handle_idx\""
  .ok (authorities ++ [a])

def Authority.supersede (a : Authority) : Authority := { a with status := .superseded }

/-- `ApplyCAAuthorityRotatedTx`. -/
def applyCaAuthorityRotated (authorities : List Authority) (τ predecessorId successorId : Uuid) :
    List Authority :=
  updateRows (fun a => a.tenantId = τ ∧ a.id = successorId)
    (fun a => { a with replacesId := some predecessorId })
    (updateRows (fun a => a.tenantId = τ ∧ a.id = predecessorId) Authority.supersede authorities)

/-- `ApplyCAAuthorityRekeyedTx`; the id of the successor is new. -/
def applyCaAuthorityRekeyed (authorities : List Authority) (successor : Authority)
    (predecessorId : Uuid) : Except String (List Authority) :=
  insertCaAuthorityTx (updateRows (fun a => a.tenantId = successor.tenantId ∧ a.id = predecessorId)
      Authority.supersede authorities)
    { successor with replacesId := some predecessorId }

def applyAuthorityLane (profile : LeafProfile) (ca : Authority) : LeafProfile :=
  let permittedDnsSuffixes :=
    if ca.permittedDnsNames = [] then profile.permittedDnsSuffixes
    else if profile.permittedDnsSuffixes = [] then ca.permittedDnsNames
    else intersectDnsSuffixes profile.permittedDnsSuffixes ca.permittedDnsNames
  let allowedExtKeyUsage :=
    if profile.allowedExtKeyUsage = [] ∧ ca.ekus ≠ [] then ca.ekus else profile.allowedExtKeyUsage
  { profile with permittedDnsSuffixes, allowedExtKeyUsage }

/-! ## The system -/

structure Config where
  hash : Hash
  lib : Library
  leafProfile : LeafProfile

/-- A certificate that was issued or imported. -/
inductive Issued
  /-- A CA certificate and those above it; `signer` is the authority whose key signed it. -/
  | ca (tenantId ceremonyId : Uuid) (request : CaRequest) (certificate : CaCert)
      (above : List CaCert) (signer : Option Authority)
  /-- A leaf, of the authority. -/
  | leaf (tenantId : Uuid) (leaf : Leaf) (signer : Authority)

structure World where
  /-- The ceremonies and their approvals. -/
  db : Database Row := .empty
  /-- `ca_authorities`. -/
  authorities : List Authority := []
  issued : List Issued := []

/-- What the database draws for a new row. -/
structure NewRow where
  id : Uuid
  createdAt : Time

inductive Action
  | startCeremony (tenantId id : Uuid) (request : CaRequest) (threshold : Int) (opener : String)
      (createdAt : Time)
  | approveCeremony (tenantId id : Uuid) (custodian eventId : String) (eventSeq : Nat)
      (approvedAt : Time)
  | createRoot (tenantId ceremonyId : Uuid) (spec : CaSpec) (draw : Draw) (row : NewRow)
  | importOfflineRoot (tenantId ceremonyId : Uuid) (certificate : CaCert) (spec : CaSpec)
      (draw : Draw) (row : NewRow)
  | importExisting (tenantId ceremonyId : Uuid) (certificate : CaCert) (above : List CaCert)
      (signerHandle : String) (spec : CaSpec) (draw : Draw) (row : NewRow)
  | createIntermediate (tenantId ceremonyId parentId : Uuid) (spec : CaSpec) (draw : Draw)
      (row : NewRow)
  | importOfflineIntermediate (tenantId ceremonyId caId : Uuid) (certificate : CaCert)
      (spec : CaSpec) (draw : Draw) (row : NewRow)
  | issueIntermediateCsr (tenantId ceremonyId caId : Uuid) (csr : CaCsrDer) (spec : CaSpec)
      (draw : Draw)
  | issueLeaf (tenantId caId : Uuid) (csr : CsrDer) (ttlSeconds : Int) (draw : Draw)
  | rotateAuthority (tenantId caId successorId : Uuid)
  | rekeyAuthority (tenantId ceremonyId caId : Uuid) (ttlSeconds : Int) (draw : Draw) (row : NewRow)

/-- The text of a failed statement; the refusals of a ceremony are conflicts. -/
def faultText : Fault ApplyError → String
  | .raised (.store text) => errCaHierarchyConflict text
  | .raised _ => "no rows in result set"
  | .constraint => "constraint violation"
  | .rowSecurity => "row-level security violation"

def hierarchySignerHandle (ceremonyId : Uuid) : String := "ca-hierarchy-" ++ ceremonyId

namespace World

/-- `StartCeremony`, with the projection of its event. -/
def startCeremony (cfg : Config) (w : World) (τ id : Uuid) (request : CaRequest) (threshold : Int)
    (opener : String) (createdAt : Time) : Except String World := do
  demand (1 ≤ threshold) (errCaHierarchyInvalid "threshold must be at least 1")
  let purpose ← request.purpose cfg.hash
  let db ← (run .rowSecurity (applyKeyCeremonyStartedTx
    { id, tenantId := τ, purpose, threshold, status := "pending", opener, createdAt })
      w.db).mapError
    faultText
  .ok { w with db }

/-- `ApproveCeremony`: the projection of its event makes its checks. -/
def approveCeremony (w : World) (τ id : Uuid) (custodian eventId : String) (eventSeq : Nat)
    (approvedAt : Time) : Except String World := do
  let sink ← (applyKeyCeremonyApprovedTx τ id custodian eventId eventSeq approvedAt).mapError
    fun e => faultText (.raised e)
  let db ← (run .rowSecurity sink w.db).mapError faultText
  .ok { w with db }

/-- `ConsumeKeyCeremonyTx`, as the first statement of the transaction. -/
def consume (w : World) (τ ceremonyId : Uuid) (purpose : String) : Except String (Database Row) :=
  (run .rowSecurity (consumeKeyCeremonyTx τ ceremonyId purpose) w.db).mapError faultText

/-- The end of a transaction that creates an authority. -/
def commit (w : World) (db : Database Row) (authorities : List Authority) (entry : Issued) :
    World :=
  { db, authorities, issued := w.issued ++ [entry] }

def createRoot (cfg : Config) (w : World) (τ ceremonyId : Uuid) (spec : CaSpec) (draw : Draw)
    (row : NewRow) : Except String World := do
  demand (ceremonyId ≠ "") (errCaHierarchyInvalid "ceremony_id is required")
  let request := CaRequest.createRoot spec
  let purpose ← request.purpose cfg.hash
  let handle := hierarchySignerHandle ceremonyId
  let db ← w.consume τ ceremonyId purpose
  let issued ← (selfSignedHierarchyCa (.held handle) (cryptoProfile spec) draw).mapError
    errCaHierarchyInvalid
  let authorities ← insertCaAuthorityTx w.authorities {
    id := row.id, tenantId := τ, commonName := spec.commonName, kind := .root
    certificate := issued.certificate, signerHandle := handle, maxPathLen := issued.maxPathLen
    permittedDnsNames := issued.permittedDnsDomains, ekus := issued.ekus
    createdAt := row.createdAt }
  .ok (w.commit db authorities (.ca τ ceremonyId request issued.certificate [] none))

def importOfflineRoot (cfg : Config) (w : World) (τ ceremonyId : Uuid) (certificate : CaCert)
    (spec : CaSpec) (draw : Draw) (row : NewRow) : Except String World := do
  demand (ceremonyId ≠ "") (errCaHierarchyInvalid "ceremony_id is required")
  let request := CaRequest.importOfflineRoot certificate spec
  let issued ← (verifyImportedOfflineRoot draw.now certificate (cryptoProfile spec)).mapError
    errCaHierarchyInvalid
  let purpose ← request.purpose cfg.hash
  let db ← w.consume τ ceremonyId purpose
  let authorities ← insertCaAuthorityTx w.authorities {
    id := row.id, tenantId := τ, commonName := certificate.commonName, kind := .root
    certificate, maxPathLen := issued.maxPathLen
    permittedDnsNames := issued.permittedDnsDomains, ekus := issued.ekus
    createdAt := row.createdAt }
  .ok (w.commit db authorities (.ca τ ceremonyId request certificate [] none))

def importExisting (cfg : Config) (w : World) (τ ceremonyId : Uuid) (certificate : CaCert)
    (above : List CaCert) (signerHandle : String) (spec : CaSpec) (draw : Draw) (row : NewRow) :
    Except String World := do
  demand (ceremonyId ≠ "" ∧ signerHandle ≠ "")
    (errCaHierarchyInvalid "ceremony_id and signer_handle are required")
  let request := CaRequest.importExisting certificate above signerHandle spec
  draw.outcome
  let (issued, kind) ← (verifyImportedCaChain draw.now certificate above (.held signerHandle)
    (cryptoProfile spec)).mapError errCaHierarchyInvalid
  let purpose ← request.purpose cfg.hash
  let db ← w.consume τ ceremonyId purpose
  let authorities ← insertCaAuthorityTx w.authorities {
    id := row.id, tenantId := τ, commonName := certificate.commonName, kind
    certificate, above, signerHandle, maxPathLen := issued.maxPathLen
    permittedDnsNames := issued.permittedDnsDomains, ekus := issued.ekus
    createdAt := row.createdAt }
  .ok (w.commit db authorities (.ca τ ceremonyId request certificate above none))

def signerForAuthority (ca : Authority) : Except String Key := do
  demand (ca.signerHandle ≠ "")
    (errCaHierarchyUnavailable ("CA " ++ ca.id ++ " has no signer handle"))
  .ok (.held ca.signerHandle)

def createIntermediate (cfg : Config) (w : World) (τ ceremonyId parentId : Uuid) (spec : CaSpec)
    (draw : Draw) (row : NewRow) : Except String World := do
  demand (ceremonyId ≠ "" ∧ parentId ≠ "")
    (errCaHierarchyInvalid "ceremony_id and parent_id are required")
  let parent ← getCaAuthority w.authorities τ parentId
  let parentSigner ← signerForAuthority parent
  let request := CaRequest.createIntermediate parentId spec
  let purpose ← request.purpose cfg.hash
  let handle := hierarchySignerHandle ceremonyId
  let db ← w.consume τ ceremonyId purpose
  let issued ← (signIntermediateHierarchyCa parent.certificate parentSigner (.held handle)
    (cryptoProfile spec) draw).mapError errCaHierarchyInvalid
  let authorities ← insertCaAuthorityTx w.authorities {
    id := row.id, tenantId := τ, parentId := some parentId, commonName := spec.commonName
    kind := .intermediate, certificate := issued.certificate, above := parent.chain
    signerHandle := handle, maxPathLen := issued.maxPathLen
    permittedDnsNames := issued.permittedDnsDomains, ekus := issued.ekus
    createdAt := row.createdAt }
  .ok (w.commit db authorities
    (.ca τ ceremonyId request issued.certificate parent.chain (some parent)))

def importOfflineIntermediate (cfg : Config) (w : World) (τ ceremonyId caId : Uuid)
    (certificate : CaCert) (spec : CaSpec) (draw : Draw) (row : NewRow) : Except String World := do
  demand (ceremonyId ≠ "") (errCaHierarchyInvalid "ceremony_id is required")
  let parent ← getCaAuthority w.authorities τ caId
  demand (parent.kind = .root ∧ parent.signerHandle = "")
    (errCaHierarchyInvalid "parent must be an imported offline root")
  let request := CaRequest.importOfflineIntermediate caId certificate spec
  let purpose ← request.purpose cfg.hash
  let handle := hierarchySignerHandle ceremonyId
  draw.outcome.mapError fun _ =>
    errCaHierarchyConflict "offline intermediate CSR has not been generated"
  let issued ← (verifyOfflineSignedIntermediate draw.now parent.certificate certificate
    (.held handle) (cryptoProfile spec)).mapError errCaHierarchyInvalid
  let db ← w.consume τ ceremonyId purpose
  let authorities ← insertCaAuthorityTx w.authorities {
    id := row.id, tenantId := τ, parentId := some caId, commonName := certificate.commonName
    kind := .intermediate, certificate, above := parent.chain, signerHandle := handle
    maxPathLen := issued.maxPathLen, permittedDnsNames := issued.permittedDnsDomains
    ekus := issued.ekus, createdAt := row.createdAt }
  .ok (w.commit db authorities (.ca τ ceremonyId request certificate parent.chain none))

/-- The profile of `IssueIntermediateCSR`: the names it leaves open are those of the row. -/
def csrProfile (ca : Authority) (spec : CaSpec) : HierarchyCaProfile :=
  { cryptoProfile spec with
    permittedDnsDomains :=
      if spec.permittedDnsDomains = [] then ca.permittedDnsNames else spec.permittedDnsDomains }

/-- `IssueIntermediateCSR`, of a CSR that is not empty; no row is written for the intermediate. -/
def issueIntermediateCsr (cfg : Config) (w : World) (τ ceremonyId caId : Uuid) (csr : CaCsrDer)
    (spec : CaSpec) (draw : Draw) : Except String World := do
  demand (ceremonyId ≠ "") (errCaHierarchyInvalid "ceremony_id is required")
  demand (0 < spec.ttlSeconds) (errCaHierarchyInvalid "spec.ttl_seconds must be positive")
  validateCaSpec spec
  let ca ← getCaAuthority w.authorities τ caId
  let signer ← signerForAuthority ca
  let request := CaRequest.issueIntermediateCsr caId csr spec
  let purpose ← request.purpose cfg.hash
  let db ← w.consume τ ceremonyId purpose
  let issued ← (signIntermediateHierarchyCaFromCsr ca.certificate signer (csrProfile ca spec) draw
    csr).mapError errCaHierarchyInvalid
  .ok (w.commit db w.authorities (.ca τ ceremonyId request issued.certificate ca.chain (some ca)))

/-- `issuingAuthority`: a superseded authority is routed to its active successor. -/
def issuingAuthority (w : World) (τ caId : Uuid) : Except String Authority := do
  let ca ← getCaAuthority w.authorities τ caId
  match ca.status with
  | .active => .ok ca
  | .superseded =>
    match findActiveCaAuthoritySuccessor w.authorities τ ca.id with
    | some successor => .ok successor
    | none =>
      .error (errCaHierarchyConflict ("superseded CA " ++ ca.id ++ " has no active successor"))
  | .revoked => .error (errCaHierarchyConflict ("revoked CA " ++ ca.id ++ " cannot issue"))

def issueLeaf (cfg : Config) (w : World) (τ caId : Uuid) (csr : CsrDer) (ttlSeconds : Int)
    (draw : Draw) : Except String World := do
  demand (0 < ttlSeconds) (errCaHierarchyInvalid "ttl_seconds must be positive")
  let ca ← w.issuingAuthority τ caId
  let signer ← signerForAuthority ca
  let issuer : Issuer := { sign := do
    draw.outcome
    demand (ca.certificate.key = signer)
      "crypto: sign leaf: x509: provided PrivateKey doesn't match parent's PublicKey" }
  let leaf ← signLeafFromCsrWithProfile cfg.lib issuer draw.now csr (durationOfSeconds ttlSeconds)
    (applyAuthorityLane cfg.leafProfile ca)
  .ok (w.commit w.db w.authorities (.leaf τ leaf ca))

/-- `sameStringSet`: the names are the same, in any order, case and space apart. -/
def sameStringSet (a b : List String) : Bool :=
  (a.map fun name => toLower (trimSpace name)).isPerm (b.map fun name => toLower (trimSpace name))

def validateAuthorityRotation (predecessor successor : Authority) : Except String Unit := do
  demand (predecessor.status = .active) (errCaHierarchyConflict "predecessor CA must be active")
  demand (successor.status = .active) (errCaHierarchyConflict "successor CA must be active")
  demand (predecessor.signerHandle ≠ "" ∧ successor.signerHandle ≠ "") (errCaHierarchyInvalid
      "predecessor and successor must both be signer-backed issuing authorities")
  demand (predecessor.kind = successor.kind)
    (errCaHierarchyInvalid "successor kind must match predecessor kind")
  demand (predecessor.parentId = successor.parentId)
    (errCaHierarchyInvalid "successor must share the predecessor parent authority")
  demand (successor.replacesId = none ∨ successor.replacesId = some predecessor.id)
    (errCaHierarchyConflict "successor already replaces a different CA")
  demand (predecessor.maxPathLen = successor.maxPathLen)
    (errCaHierarchyInvalid "successor max_path_len must match predecessor")
  demand (sameStringSet predecessor.permittedDnsNames successor.permittedDnsNames)
    (errCaHierarchyInvalid "successor DNS constraints must match predecessor")
  demand (sameStringSet predecessor.ekus successor.ekus)
    (errCaHierarchyInvalid "successor EKUs must match predecessor")

def rotateAuthority (w : World) (τ caId successorId : Uuid) : Except String World := do
  let successorId := trimSpace successorId
  demand (caId ≠ "" ∧ successorId ≠ "")
    (errCaHierarchyInvalid "predecessor and successor_id are required")
  demand (caId ≠ successorId)
    (errCaHierarchyInvalid "successor_id must be a different CA authority")
  let predecessor ← getCaAuthority w.authorities τ caId
  let successor ← getCaAuthority w.authorities τ successorId
  validateAuthorityRotation predecessor successor
  .ok { w with authorities := applyCaAuthorityRotated w.authorities τ predecessor.id successor.id }

def validateAuthorityRekey (ca : Authority) : Except String Unit := do
  demand (ca.status = .active) (errCaHierarchyConflict "CA authority must be active to re-key")
  demand (ca.signerHandle ≠ "")
    (errCaHierarchyInvalid "CA authority must be signer-backed to re-key")

def rekeyAuthoritySpec (ca : Authority) (ttlSeconds : Int) : CaSpec where
  commonName := ca.commonName
  permittedDnsDomains := ca.permittedDnsNames
  maxPathLen := ca.maxPathLen
  extendedKeyUsages := ca.ekus
  ttlSeconds
  signatureAlgorithm := "ecdsa-p256"

/-- `issueRekeyedCA`: the certificate, those above it and the authority that signed it. -/
def issueRekeyedCa (w : World) (τ : Uuid) (predecessor : Authority) (signer : Key) (spec : CaSpec)
    (draw : Draw) : Except String (IssuedHierarchyCa × List CaCert × Option Authority) :=
  match predecessor.kind, predecessor.parentId with
  | .root, _ => do
    let issued ← (selfSignedHierarchyCa signer (cryptoProfile spec) draw).mapError
      errCaHierarchyInvalid
    .ok (issued, [], none)
  | .intermediate, none =>
    .error (errCaHierarchyInvalid "intermediate CA has no parent authority")
  | .intermediate, some parentId => do
    let parent ← getCaAuthority w.authorities τ parentId
    demand (parent.status = .active ∧ parent.signerHandle ≠ "")
      (errCaHierarchyInvalid "parent CA must be active and signer-backed for served re-key")
    let parentSigner ← signerForAuthority parent
    let issued ← (signIntermediateHierarchyCa parent.certificate parentSigner signer
      (cryptoProfile spec) draw).mapError errCaHierarchyInvalid
    .ok (issued, parent.chain, some parent)

def rekeyAuthority (cfg : Config) (w : World) (τ ceremonyId caId : Uuid) (ttlSeconds : Int)
    (draw : Draw) (row : NewRow) : Except String World := do
  let ceremonyId := trimSpace ceremonyId
  demand (caId ≠ "" ∧ ceremonyId ≠ "")
    (errCaHierarchyInvalid "authority id and ceremony_id are required")
  demand (0 ≤ ttlSeconds) (errCaHierarchyInvalid "ttl_seconds cannot be negative")
  let request := CaRequest.rekey caId ttlSeconds
  let purpose ← request.purpose cfg.hash
  let handle := hierarchySignerHandle ceremonyId
  let predecessor ← getCaAuthority w.authorities τ caId
  validateAuthorityRekey predecessor
  let db ← w.consume τ ceremonyId purpose
  let spec := rekeyAuthoritySpec predecessor ttlSeconds
  let (issued, above, parent) ← w.issueRekeyedCa τ predecessor (.held handle) spec draw
  let authorities ← applyCaAuthorityRekeyed w.authorities {
    id := row.id, tenantId := τ, parentId := predecessor.parentId, commonName := spec.commonName
    kind := predecessor.kind, certificate := issued.certificate, above, signerHandle := handle
    maxPathLen := issued.maxPathLen, permittedDnsNames := issued.permittedDnsDomains
    ekus := issued.ekus, createdAt := row.createdAt } predecessor.id
  .ok (w.commit db authorities (.ca τ ceremonyId request issued.certificate above parent))

def perform (cfg : Config) (w : World) : Action → Except String World
  | .startCeremony τ id request threshold opener createdAt =>
    w.startCeremony cfg τ id request threshold opener createdAt
  | .approveCeremony τ id custodian eventId eventSeq approvedAt =>
    w.approveCeremony τ id custodian eventId eventSeq approvedAt
  | .createRoot τ ceremonyId spec draw row => w.createRoot cfg τ ceremonyId spec draw row
  | .importOfflineRoot τ ceremonyId certificate spec draw row =>
    w.importOfflineRoot cfg τ ceremonyId certificate spec draw row
  | .importExisting τ ceremonyId certificate above signerHandle spec draw row =>
    w.importExisting cfg τ ceremonyId certificate above signerHandle spec draw row
  | .createIntermediate τ ceremonyId parentId spec draw row =>
    w.createIntermediate cfg τ ceremonyId parentId spec draw row
  | .importOfflineIntermediate τ ceremonyId caId certificate spec draw row =>
    w.importOfflineIntermediate cfg τ ceremonyId caId certificate spec draw row
  | .issueIntermediateCsr τ ceremonyId caId csr spec draw =>
    w.issueIntermediateCsr cfg τ ceremonyId caId csr spec draw
  | .issueLeaf τ caId csr ttlSeconds draw => w.issueLeaf cfg τ caId csr ttlSeconds draw
  | .rotateAuthority τ caId successorId => w.rotateAuthority τ caId successorId
  | .rekeyAuthority τ ceremonyId caId ttlSeconds draw row =>
    w.rekeyAuthority cfg τ ceremonyId caId ttlSeconds draw row

/-- An operation that is refused has no successor state. -/
def step (cfg : Config) (w : World) (a : Action) : Option World := (w.perform cfg a).toOption

end World

/-! ## What an operation does -/

/-- The two rows have the same certificates, names and usages. -/
def Authority.SameLane (a b : Authority) : Prop :=
  a.certificate = b.certificate ∧ a.above = b.above ∧ a.permittedDnsNames = b.permittedDnsNames ∧
    a.ekus = b.ekus

/-- The row was written for the certificate. -/
def Authority.Holds (a : Authority) (issued : IssuedHierarchyCa) (above : List CaCert) : Prop :=
  a.certificate = issued.certificate ∧ a.above = above ∧
    a.permittedDnsNames = issued.permittedDnsDomains ∧ a.ekus = issued.ekus

/-- Every row was there before, whatever its status. -/
def Kept (w w' : World) : Prop := ∀ a ∈ w'.authorities, ∃ b ∈ w.authorities, a.SameLane b

structure Creates (cfg : Config) (w w' : World) (τ ceremonyId : Uuid) (request : CaRequest)
    (issued : IssuedHierarchyCa) (above : List CaCert) (signer : Option Authority) : Prop where
  consumed : ∃ purpose, request.purpose cfg.hash = .ok purpose ∧
    w.consume τ ceremonyId purpose = .ok w'.db
  recorded : w'.issued = w.issued ++ [.ca τ ceremonyId request issued.certificate above signer]
  authorities : ∀ a ∈ w'.authorities, (∃ b ∈ w.authorities, a.SameLane b) ∨ a.Holds issued above

/-- Everything an operation can do. -/
inductive Outcome (cfg : Config) (w w' : World) : Action → Prop
  | quiet {a : Action} (issued : w'.issued = w.issued) (kept : Kept w w') : Outcome cfg w w' a
  | createRoot {τ ceremonyId : Uuid} {spec : CaSpec} {draw : Draw} {row : NewRow}
      {issued : IssuedHierarchyCa} {signer : Key}
      (creates : Creates cfg w w' τ ceremonyId (.createRoot spec) issued [] none)
      (signed : selfSignedHierarchyCa signer (cryptoProfile spec) draw = .ok issued) :
      Outcome cfg w w' (.createRoot τ ceremonyId spec draw row)
  | importOfflineRoot {τ ceremonyId : Uuid} {certificate : CaCert} {spec : CaSpec} {draw : Draw}
      {row : NewRow}
      (creates : Creates cfg w w' τ ceremonyId (.importOfflineRoot certificate spec)
        (hierarchyResultFromCert certificate) [] none) :
      Outcome cfg w w' (.importOfflineRoot τ ceremonyId certificate spec draw row)
  | importExisting {τ ceremonyId : Uuid} {certificate : CaCert} {above : List CaCert}
      {signerHandle : String} {spec : CaSpec} {draw : Draw} {row : NewRow}
      (creates : Creates cfg w w' τ ceremonyId (.importExisting certificate above signerHandle spec)
        (hierarchyResultFromCert certificate) above none)
      (keeps : ChainKeeps (certificate :: above)) :
      Outcome cfg w w' (.importExisting τ ceremonyId certificate above signerHandle spec draw row)
  | createIntermediate {τ ceremonyId parentId : Uuid} {spec : CaSpec} {draw : Draw} {row : NewRow}
      {parent : Authority} {issued : IssuedHierarchyCa} {signer subject : Key}
      (found : getCaAuthority w.authorities τ parentId = .ok parent)
      (creates : Creates cfg w w' τ ceremonyId (.createIntermediate parentId spec) issued
        parent.chain (some parent))
      (signed : signIntermediateHierarchyCa parent.certificate signer subject (cryptoProfile spec)
        draw = .ok issued) :
      Outcome cfg w w' (.createIntermediate τ ceremonyId parentId spec draw row)
  | importOfflineIntermediate {τ ceremonyId caId : Uuid} {certificate : CaCert} {spec : CaSpec}
      {draw : Draw} {row : NewRow} {parent : Authority}
      (found : getCaAuthority w.authorities τ caId = .ok parent)
      (creates : Creates cfg w w' τ ceremonyId (.importOfflineIntermediate caId certificate spec)
        (hierarchyResultFromCert certificate) parent.chain none)
      (path : PathBelow certificate parent.certificate)
      (lifetime : certificate.notAfter ≤ parent.certificate.notAfter) :
      Outcome cfg w w' (.importOfflineIntermediate τ ceremonyId caId certificate spec draw row)
  | issueIntermediateCsr {τ ceremonyId caId : Uuid} {csr : CaCsrDer} {spec : CaSpec} {draw : Draw}
      {ca : Authority} {issued : IssuedHierarchyCa} {signer subject : Key} {commonName : String}
      (found : getCaAuthority w.authorities τ caId = .ok ca)
      (creates : Creates cfg w w' τ ceremonyId (.issueIntermediateCsr caId csr spec) issued ca.chain
        (some ca))
      (signed : signIntermediateHierarchyCa ca.certificate signer subject
        { World.csrProfile ca spec with commonName } draw = .ok issued) :
      Outcome cfg w w' (.issueIntermediateCsr τ ceremonyId caId csr spec draw)
  | issueLeaf {τ caId : Uuid} {csr : CsrDer} {ttlSeconds : Int} {draw : Draw} {ca : Authority}
      {leaf : Leaf} {issuer : Issuer} (found : w.issuingAuthority τ caId = .ok ca)
      (signed : signLeafFromCsrWithProfile cfg.lib issuer draw.now csr
        (durationOfSeconds ttlSeconds) (applyAuthorityLane cfg.leafProfile ca) = .ok leaf)
      (issued : w'.issued = w.issued ++ [.leaf τ leaf ca])
      (authorities : w'.authorities = w.authorities) :
      Outcome cfg w w' (.issueLeaf τ caId csr ttlSeconds draw)
  | rekeyRoot {τ ceremonyId caId : Uuid} {ttlSeconds : Int} {draw : Draw} {row : NewRow}
      {predecessor : Authority} {issued : IssuedHierarchyCa} {signer : Key}
      (found : getCaAuthority w.authorities τ caId = .ok predecessor)
      (creates : Creates cfg w w' τ (trimSpace ceremonyId) (.rekey caId ttlSeconds) issued [] none)
      (signed : selfSignedHierarchyCa signer
        (cryptoProfile (World.rekeyAuthoritySpec predecessor ttlSeconds)) draw = .ok issued) :
      Outcome cfg w w' (.rekeyAuthority τ ceremonyId caId ttlSeconds draw row)
  | rekeyIntermediate {τ ceremonyId caId parentId : Uuid} {ttlSeconds : Int} {draw : Draw}
      {row : NewRow} {predecessor parent : Authority} {issued : IssuedHierarchyCa}
      {signer subject : Key}
      (found : getCaAuthority w.authorities τ caId = .ok predecessor)
      (intermediate : predecessor.kind = .intermediate)
      (child : predecessor.parentId = some parentId)
      (foundParent : getCaAuthority w.authorities τ parentId = .ok parent)
      (active : parent.status = .active)
      (creates : Creates cfg w w' τ (trimSpace ceremonyId) (.rekey caId ttlSeconds) issued
        parent.chain (some parent))
      (signed : signIntermediateHierarchyCa parent.certificate signer subject
        (cryptoProfile (World.rekeyAuthoritySpec predecessor ttlSeconds)) draw = .ok issued) :
      Outcome cfg w w' (.rekeyAuthority τ ceremonyId caId ttlSeconds draw row)

section Outcomes

variable {cfg : Config} {w w' : World} {a b : Authority} {authorities authorities' : List Authority}

theorem Authority.SameLane.refl (a : Authority) : a.SameLane a := ⟨rfl, rfl, rfl, rfl⟩

theorem Authority.SameLane.trans {c : Authority} (first : a.SameLane b) (second : b.SameLane c) :
    a.SameLane c :=
  ⟨first.1.trans second.1, first.2.1.trans second.2.1, first.2.2.1.trans second.2.2.1,
    first.2.2.2.trans second.2.2.2⟩

theorem getCaAuthority_mem {τ id : Uuid} (hit : getCaAuthority authorities τ id = .ok a) :
    a ∈ authorities := by
  unfold getCaAuthority at hit
  split at hit
  next there =>
    cases hit
    exact List.mem_of_find?_eq_some there
  next => cases hit

theorem newest_mem (newer : newest authorities = some a) : a ∈ authorities := by
  induction authorities generalizing a with
  | nil => cases newer
  | cons b rest ih =>
    unfold newest at newer
    split at newer
    next => exact some.inj newer ▸ mem_cons_self
    next c hit =>
      split at newer
      · exact some.inj newer ▸ mem_cons_self
      · exact mem_cons_of_mem _ (ih (some.inj newer ▸ hit))

theorem issuingAuthority_active {τ caId : Uuid} (hit : w.issuingAuthority τ caId = .ok a) :
    a ∈ w.authorities ∧ a.status = .active := by
  obtain ⟨ca, read, routed⟩ := bind_ok.mp hit
  split at routed
  next active =>
    cases routed
    exact ⟨getCaAuthority_mem read, active⟩
  next =>
    split at routed
    next succ replaced =>
      cases routed
      obtain ⟨there, chosen⟩ := mem_filter.mp (newest_mem replaced)
      exact ⟨there, (of_decide_eq_true chosen).2.2⟩
    next => cases routed
  next => cases routed

/-- An update that leaves the lane of every row alone. -/
theorem updateRows_sameLane {cond : Authority → Bool} {set : Authority → Authority}
    (there : a ∈ updateRows cond set authorities) (keeps : ∀ a, (set a).SameLane a) :
    ∃ b ∈ authorities, a.SameLane b := by
  obtain ⟨b, old, rfl⟩ := mem_map.mp there
  refine ⟨b, old, ?_⟩
  split
  · exact keeps b
  · exact .refl b

theorem mem_inserted {issued : IssuedHierarchyCa} {above : List CaCert}
    (added : insertCaAuthorityTx authorities b = .ok authorities')
    (kept : ∀ a ∈ authorities, ∃ c ∈ w.authorities, a.SameLane c) (holds : b.Holds issued above) :
    ∀ a ∈ authorities', (∃ c ∈ w.authorities, a.SameLane c) ∨ a.Holds issued above := by
  intro a there
  simp only [insertCaAuthorityTx, bind_ok] at added
  obtain ⟨-, -, -, -, ⟨⟩⟩ := added
  rcases mem_append.mp there with old | new
  · exact .inl (kept a old)
  · exact .inr (mem_singleton.mp new ▸ holds)

theorem kept_self (w : World) : ∀ a ∈ w.authorities, ∃ b ∈ w.authorities, a.SameLane b :=
  fun a there => ⟨a, there, .refl a⟩

theorem rekeyAuthority_outcome {τ cid caId : Uuid} {ttlSeconds : Int} {draw : Draw} {row : NewRow}
    (done : w.rekeyAuthority cfg τ cid caId ttlSeconds draw row = .ok w') :
    Outcome cfg w w' (.rekeyAuthority τ cid caId ttlSeconds draw row) := by
  simp only [World.rekeyAuthority, bind_ok] at done
  obtain ⟨-, -, -, -, purpose, derived, pred, hit, -, -, db, spent,
    ⟨issued, above, parent⟩, rekeyed, authorities, inserted, ⟨⟩⟩ := done
  have added := mem_inserted inserted
    (fun a there => updateRows_sameLane there fun b => ⟨rfl, rfl, rfl, rfl⟩)
    (show Authority.Holds _ issued above from ⟨rfl, rfl, rfl, rfl⟩)
  unfold World.issueRekeyedCa at rekeyed
  split at rekeyed
  next =>
    simp only [bind_ok, mapError_eq_ok] at rekeyed
    obtain ⟨_, signed, ⟨⟩⟩ := rekeyed
    exact .rekeyRoot hit ⟨⟨purpose, derived, spent⟩, rfl, added⟩ signed
  next => cases rekeyed
  next parentId mid child =>
    simp only [bind_ok, mapError_eq_ok, demand_eq_ok] at rekeyed
    obtain ⟨parent, foundParent, -, ⟨active, -⟩, signer, -, _, signed, ⟨⟩⟩ := rekeyed
    exact .rekeyIntermediate hit mid child foundParent active
      ⟨⟨purpose, derived, spent⟩, rfl, added⟩ signed

theorem perform_outcome {act : Action} (done : w.perform cfg act = .ok w') :
    Outcome cfg w w' act := by
  cases act with
  | startCeremony τ id req threshold opener createdAt =>
    simp only [World.perform, World.startCeremony, bind_ok] at done
    obtain ⟨-, -, purpose, -, db, -, ⟨⟩⟩ := done
    exact .quiet rfl (kept_self w)
  | approveCeremony τ id owner eid eventSeq approvedAt =>
    simp only [World.perform, World.approveCeremony, bind_ok] at done
    obtain ⟨sink, -, db, -, ⟨⟩⟩ := done
    exact .quiet rfl (kept_self w)
  | rotateAuthority τ caId successorId =>
    simp only [World.perform, World.rotateAuthority, bind_ok] at done
    obtain ⟨-, -, -, -, pred, -, succ, -, -, -, ⟨⟩⟩ := done
    refine .quiet rfl fun a there => ?_
    obtain ⟨b, mid, lane⟩ := updateRows_sameLane there fun b => ⟨rfl, rfl, rfl, rfl⟩
    obtain ⟨c, old, lane'⟩ := updateRows_sameLane mid fun b => ⟨rfl, rfl, rfl, rfl⟩
    exact ⟨c, old, lane.trans lane'⟩
  | createRoot =>
    simp only [World.perform, World.createRoot, bind_ok, mapError_eq_ok] at done
    obtain ⟨-, -, purpose, derived, db, spent, issued, signed, authorities, added, ⟨⟩⟩ := done
    refine .createRoot ⟨⟨purpose, derived, spent⟩, rfl, ?_⟩ signed
    exact mem_inserted added (kept_self w) ⟨rfl, rfl, rfl, rfl⟩
  | importOfflineRoot =>
    simp only [World.perform, World.importOfflineRoot, bind_ok, mapError_eq_ok] at done
    obtain ⟨-, -, issued, verified, purpose, derived, db, spent, authorities, added, ⟨⟩⟩ := done
    obtain rfl := verifyImportedOfflineRoot_eq_ok verified
    refine .importOfflineRoot ⟨⟨purpose, derived, spent⟩, rfl, ?_⟩
    exact mem_inserted added (kept_self w) ⟨rfl, rfl, rfl, rfl⟩
  | importExisting =>
    simp only [World.perform, World.importExisting, bind_ok, mapError_eq_ok] at done
    obtain ⟨-, -, -, -, ⟨issued, kind⟩, verified, purpose, derived, db, spent, authorities, added,
      ⟨⟩⟩ := done
    obtain ⟨rfl, keeps⟩ := verifyImportedCaChain_eq_ok verified
    refine .importExisting ⟨⟨purpose, derived, spent⟩, rfl, ?_⟩ keeps
    exact mem_inserted added (kept_self w) ⟨rfl, rfl, rfl, rfl⟩
  | createIntermediate =>
    simp only [World.perform, World.createIntermediate, bind_ok, mapError_eq_ok] at done
    obtain ⟨-, -, parent, hit, signer, -, purpose, derived, db, spent, issued, signed, authorities,
      added, ⟨⟩⟩ := done
    refine .createIntermediate hit ⟨⟨purpose, derived, spent⟩, rfl, ?_⟩ signed
    exact mem_inserted added (kept_self w) ⟨rfl, rfl, rfl, rfl⟩
  | importOfflineIntermediate =>
    simp only [World.perform, World.importOfflineIntermediate, bind_ok, mapError_eq_ok] at done
    obtain ⟨-, -, parent, hit, -, -, purpose, derived, -, -, issued, verified, db, spent,
      authorities, added, ⟨⟩⟩ := done
    obtain ⟨rfl, path, lifetime⟩ := verifyOfflineSignedIntermediate_eq_ok verified
    refine .importOfflineIntermediate hit ⟨⟨purpose, derived, spent⟩, rfl, ?_⟩ path lifetime
    exact mem_inserted added (kept_self w) ⟨rfl, rfl, rfl, rfl⟩
  | issueIntermediateCsr τ cid caId csr =>
    simp only [World.perform, World.issueIntermediateCsr, bind_ok, mapError_eq_ok] at done
    obtain ⟨-, -, -, -, -, -, ca, hit, signer, -, purpose, derived, db, spent, issued, signed,
      ⟨⟩⟩ :=
      done
    cases csr with
    | unparseable | unsigned => cases signed
    | valid csr =>
      refine .issueIntermediateCsr hit ⟨⟨purpose, derived, spent⟩, rfl, ?_⟩ signed
      exact fun a there => .inl (kept_self w a there)
  | issueLeaf =>
    simp only [World.perform, World.issueLeaf, bind_ok] at done
    obtain ⟨-, -, ca, hit, signer, -, leaf, signed, ⟨⟩⟩ := done
    exact .issueLeaf hit signed rfl rfl
  | rekeyAuthority => exact rekeyAuthority_outcome done

theorem step_outcome {act : Action} (moved : w.step cfg act = some w') : Outcome cfg w w' act := by
  unfold World.step at moved
  cases done : w.perform cfg act with
  | ok after =>
    rw [done] at moved
    cases moved
    exact perform_outcome done
  | error err =>
    rw [done] at moved
    cases moved

end Outcomes

end Trustctl.Issuing.Hierarchy
