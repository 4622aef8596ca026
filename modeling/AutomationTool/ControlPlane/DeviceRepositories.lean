import AutomationTool.Core.Relation
import AutomationTool.Core.RowLocks
import AutomationTool.ControlPlane.Database

/-!
# Device registration, credentials and sessions

Four repositories share five tables. Every request is a transaction: it looks up what a
bearer or a challenge is bound to, locks the rows it decides on, and writes. The key
constraints are those of `schema.py`, the partial index on active credentials included;
its `CHECK`s are not in the tables that `create_schema` makes. The foreign keys hold of
whatever is written here.

* `registration.py:67-170`, `device_credential_repository.py`, `device_session_repository.py`,
  `installation_revocation_repository.py`.

`Accounts` is what the owners of the two columns that nobody here writes may do to them.
-/
namespace AutomationTool.ControlPlane.Devices

open Protocol

abbrev Bytes := List UInt8

abbrev UserId := Nat
abbrev ChallengeId := Nat
abbrev CredentialId := Nat
abbrev SessionId := Nat

/-! ## Tables -/

inductive AccountStatus where
  | active | locked | disabled
  deriving DecidableEq

structure User where
  id : UserId
  status : AccountStatus
  deriving DecidableEq

instance : Schema User where
  apart a b := a.id ≠ b.id
  symm h := Ne.symm h
  irrefl _ h := h rfl
  dec _ _ := inferInstanceAs (Decidable (_ ≠ _))
  check _ := True
  decCheck _ := instDecidableTrue

structure DeviceInstallation where
  id : InstallationId
  devicePublicKey : Bytes
  ownerUserId : Option UserId
  status : InstallationStatus
  revision : Nat
  createdAt : Time
  updatedAt : Time
  revokedAt : Option Time
  deriving DecidableEq

/-- mirrors database/schema.py:473-483 -/
instance : Schema DeviceInstallation where
  apart a b := a.id ≠ b.id ∧ a.devicePublicKey ≠ b.devicePublicKey
  symm h := ⟨h.1.symm, h.2.symm⟩
  irrefl _ h := h.1 rfl
  dec _ _ := inferInstanceAs (Decidable (_ ∧ _))
  check _ := True
  decCheck _ := instDecidableTrue

structure RegistrationChallenge where
  id : ChallengeId
  environmentId : String
  bootstrapFingerprint : Bytes
  devicePublicKey : Bytes
  proofHash : Bytes
  createdAt : Time
  expiresAt : Time
  consumedAt : Option Time
  installationId : Option InstallationId
  deriving DecidableEq

instance : Schema RegistrationChallenge where
  apart a b := a.id ≠ b.id
  symm h := Ne.symm h
  irrefl _ h := h rfl
  dec _ _ := inferInstanceAs (Decidable (_ ≠ _))
  check _ := True
  decCheck _ := instDecidableTrue

inductive CredentialStatus where
  | active | revoked | rotated
  deriving DecidableEq

structure DeviceCredential where
  id : CredentialId
  installationId : InstallationId
  version : Nat
  scope : String
  secretDigest : Bytes
  status : CredentialStatus
  createdAt : Time
  updatedAt : Time
  revokedAt : Option Time
  replacedById : Option CredentialId
  deriving DecidableEq

/-- mirrors database/schema.py:745-766 -/
instance : Schema DeviceCredential where
  apart a b := a.id ≠ b.id ∧ ¬(a.installationId = b.installationId ∧ a.version = b.version) ∧
    a.secretDigest ≠ b.secretDigest ∧
    ¬(a.installationId = b.installationId ∧ a.status = .active ∧ b.status = .active)
  symm h := ⟨h.1.symm, fun he => h.2.1 ⟨he.1.symm, he.2.symm⟩, h.2.2.1.symm,
    fun he => h.2.2.2 ⟨he.1.symm, he.2.2, he.2.1⟩⟩
  irrefl _ h := h.1 rfl
  dec _ _ := inferInstanceAs (Decidable (_ ∧ _ ∧ _ ∧ _))
  check _ := True
  decCheck _ := instDecidableTrue

inductive DeviceSessionCapability where
  | appControlPlane | executorConnect
  deriving DecidableEq

structure DeviceSession where
  id : SessionId
  installationId : InstallationId
  deviceCredentialId : CredentialId
  credentialVersion : Nat
  capability : DeviceSessionCapability
  secretDigest : Bytes
  createdAt : Time
  notBefore : Time
  expiresAt : Time
  revokedAt : Option Time
  deriving DecidableEq

/-- mirrors database/schema.py:2163-2164 -/
instance : Schema DeviceSession where
  apart a b := a.id ≠ b.id ∧ a.secretDigest ≠ b.secretDigest
  symm h := ⟨h.1.symm, h.2.symm⟩
  irrefl _ h := h.1 rfl
  dec _ _ := inferInstanceAs (Decidable (_ ∧ _))
  check _ := True
  decCheck _ := instDecidableTrue

structure DeviceDb where
  users : Relation User
  installations : Relation DeviceInstallation
  challenges : Relation RegistrationChallenge
  credentials : Relation DeviceCredential
  sessions : Relation DeviceSession

namespace DeviceDb

def empty : DeviceDb :=
  ⟨Relation.empty, Relation.empty, Relation.empty, Relation.empty, Relation.empty⟩

def user? (db : DeviceDb) (u : UserId) : Option User := db.users.find? fun r => r.id = u

def installation? (db : DeviceDb) (i : InstallationId) : Option DeviceInstallation :=
  db.installations.find? fun r => r.id = i

def challenge? (db : DeviceDb) (c : ChallengeId) : Option RegistrationChallenge :=
  db.challenges.find? fun r => r.id = c

def credential? (db : DeviceDb) (c : CredentialId) : Option DeviceCredential :=
  db.credentials.find? fun r => r.id = c

def session? (db : DeviceDb) (s : SessionId) : Option DeviceSession :=
  db.sessions.find? fun r => r.id = s

variable {db : DeviceDb}

theorem user?_eq_some {u : UserId} {r : User} : db.user? u = some r ↔ r ∈ db.users ∧ r.id = u :=
  Relation.find?_key_iff fun _ _ ha hb h => h (ha.trans hb.symm)

theorem installation?_eq_some {i : InstallationId} {r : DeviceInstallation} :
    db.installation? i = some r ↔ r ∈ db.installations ∧ r.id = i :=
  Relation.find?_key_iff fun _ _ ha hb h => h.1 (ha.trans hb.symm)

theorem challenge?_eq_some {c : ChallengeId} {r : RegistrationChallenge} :
    db.challenge? c = some r ↔ r ∈ db.challenges ∧ r.id = c :=
  Relation.find?_key_iff fun _ _ ha hb h => h (ha.trans hb.symm)

theorem credential?_eq_some {c : CredentialId} {r : DeviceCredential} :
    db.credential? c = some r ↔ r ∈ db.credentials ∧ r.id = c :=
  Relation.find?_key_iff fun _ _ ha hb h => h.1 (ha.trans hb.symm)

theorem session?_eq_some {s : SessionId} {r : DeviceSession} :
    db.session? s = some r ↔ r ∈ db.sessions ∧ r.id = s :=
  Relation.find?_key_iff fun _ _ ha hb h => h.1 (ha.trans hb.symm)

end DeviceDb

/-! ## Rows that are locked -/

inductive RowKey where
  | user (u : UserId)
  | installation (i : InstallationId)
  | challenge (c : ChallengeId)
  | credential (c : CredentialId)
  | session (s : SessionId)

def RowKey.Row : RowKey → Type
  | .user _ => User
  | .installation _ => DeviceInstallation
  | .challenge _ => RegistrationChallenge
  | .credential _ => DeviceCredential
  | .session _ => DeviceSession

def readRow : (k : RowKey) → DeviceDb → Option k.Row
  | .user u, db => db.user? u
  | .installation i, db => db.installation? i
  | .challenge c, db => db.challenge? c
  | .credential c, db => db.credential? c
  | .session s, db => db.session? s

def deviceRows : Rows RowKey DeviceDb := ⟨RowKey.Row, readRow⟩

/-! ## Requests and answers -/

/-- What the cryptographic libraries compute. -/
structure Primitives where
  sha256 : Bytes → Bytes
  /-- `Ed25519PublicKey.from_public_bytes(key).verify(signature, payload)`. -/
  verify : Bytes → Bytes → Bytes → Bool

def deviceCredentialScope : String := "device.session.exchange"

inductive DeviceError where
  | registrationProofRejected | registrationChallengeUsed | registrationChallengeExpired
  | installationAlreadyRegistered | credentialRejected | sessionRejected
  | installationRevocationRejected
  /-- An `IntegrityError` that nobody catches. -/
  | integrity
  /-- A `NoResultFound` of `one`. -/
  | noRow
  deriving DecidableEq

/-- mirrors application/device_credentials.py:38-53 -/
structure PendingDeviceCredential where
  credentialId : CredentialId
  secretDigest : Bytes

structure ParsedDeviceCredential where
  credentialId : CredentialId
  secretDigest : Bytes

structure IssuedDeviceCredential where
  credentialId : CredentialId
  installationId : InstallationId
  version : Nat
  scope : String

/-- The arguments of `save_challenge`. -/
structure RegistrationChallengeRecord where
  challengeId : ChallengeId
  environmentId : String
  bootstrapFingerprint : Bytes
  devicePublicKey : Bytes
  proofHash : Bytes
  createdAt : Time
  expiresAt : Time

/-- The arguments of `complete_challenge`, and the id that `InstallationId.new()` gives. -/
structure ChallengeCompletion where
  challengeId : ChallengeId
  environmentId : String
  bootstrapFingerprint : Bytes
  signingPayload : Bytes
  signature : Bytes
  completedAt : Time
  initialCredential : PendingDeviceCredential
  installationId : InstallationId

structure RegisteredInstallation where
  installationId : InstallationId
  status : InstallationStatus
  revision : Nat
  deviceCredential : IssuedDeviceCredential

structure RevokedDeviceCredential where
  credentialId : CredentialId
  installationId : InstallationId
  version : Nat

/-- The arguments of `issue`. -/
structure SessionIssue where
  presentedCredential : ParsedDeviceCredential
  sessionId : SessionId
  secretDigest : Bytes
  capability : DeviceSessionCapability
  issuedAt : Time
  notBefore : Time
  expiresAt : Time

structure IssuedDeviceSession where
  sessionId : SessionId
  installationId : InstallationId
  credentialId : CredentialId
  credentialVersion : Nat
  capability : DeviceSessionCapability
  issuedAt : Time
  notBefore : Time
  expiresAt : Time

/-- The arguments of `authenticate`. -/
structure SessionAuthentication where
  sessionId : SessionId
  secretDigest : Bytes
  requiredCapability : DeviceSessionCapability
  authenticatedAt : Time

structure AuthenticatedDeviceSession where
  sessionId : SessionId
  installationId : InstallationId
  credentialId : CredentialId
  credentialVersion : Nat
  capability : DeviceSessionCapability
  expiresAt : Time

structure RevokedInstallation where
  installationId : InstallationId
  revision : Nat
  revokedAt : Time

inductive DeviceRequest where
  | saveChallenge (challenge : RegistrationChallengeRecord)
  | completeChallenge (c : ChallengeCompletion)
  | rotate (presented : ParsedDeviceCredential) (replacement : PendingDeviceCredential)
      (rotatedAt : Time)
  | revokeCredential (presented : ParsedDeviceCredential) (revokedAt : Time)
  | revokeInstallation (installationId : InstallationId) (expectedRevision : Nat) (revokedAt : Time)
  | issue (s : SessionIssue)
  | authenticate (a : SessionAuthentication)

inductive DeviceAnswer where
  | challengeSaved
  | registered (r : RegisteredInstallation)
  | credentialIssued (c : IssuedDeviceCredential)
  | credentialRevoked (c : RevokedDeviceCredential)
  | installationRevoked (r : RevokedInstallation)
  | sessionIssued (s : IssuedDeviceSession)
  | authenticated (s : AuthenticatedDeviceSession)

abbrev DeviceTxn := Txn deviceRows DeviceAnswer DeviceError

/-! ## Registration -/

def challengeRow (c : RegistrationChallengeRecord) : RegistrationChallenge where
  id := c.challengeId
  environmentId := c.environmentId
  bootstrapFingerprint := c.bootstrapFingerprint
  devicePublicKey := c.devicePublicKey
  proofHash := c.proofHash
  createdAt := c.createdAt
  expiresAt := c.expiresAt
  consumedAt := none
  installationId := none

/-- mirrors database/registration.py:54-65 -/
def saveChallenge (c : RegistrationChallengeRecord) : DeviceTxn :=
  .commit .challengeSaved .integrity fun db => do
    let challenges ← db.challenges.insert? (challengeRow c)
    return { db with challenges }

def newInstallation (c : ChallengeCompletion) (devicePublicKey : Bytes) : DeviceInstallation where
  id := c.installationId
  devicePublicKey := devicePublicKey
  ownerUserId := none
  status := .active
  revision := 1
  createdAt := c.completedAt
  updatedAt := c.completedAt
  revokedAt := none

def newCredential (p : PendingDeviceCredential) (i : InstallationId) (version : Nat) (at' : Time) :
    DeviceCredential where
  id := p.credentialId
  installationId := i
  version := version
  scope := deviceCredentialScope
  secretDigest := p.secretDigest
  status := .active
  createdAt := at'
  updatedAt := at'
  revokedAt := none
  replacedById := none

def issuedCredential (p : PendingDeviceCredential) (i : InstallationId) (version : Nat) :
    IssuedDeviceCredential := ⟨p.credentialId, i, version, deviceCredentialScope⟩

def register (c : ChallengeCompletion) (challenge : RegistrationChallenge) (db : DeviceDb) :
    Option DeviceDb := do
  let installations ← db.installations.insert? (newInstallation c challenge.devicePublicKey)
  let credentials ← db.credentials.insert?
    (newCredential c.initialCredential c.installationId 1 c.completedAt)
  let challenges ← db.challenges.update? (fun r => r.id = c.challengeId) fun r =>
    { r with consumedAt := some c.completedAt, installationId := some c.installationId }
  return { db with installations, credentials, challenges }

/-- mirrors database/registration.py:67-170 -/
def completeChallenge (P : Primitives) (c : ChallengeCompletion) : DeviceTxn :=
  .lock (.challenge c.challengeId) .registrationProofRejected
    fun (challenge : RegistrationChallenge) =>
      if challenge.environmentId ≠ c.environmentId ∨
          challenge.bootstrapFingerprint ≠ c.bootstrapFingerprint ∨
          challenge.proofHash ≠ P.sha256 c.signingPayload then .reject .registrationProofRejected
      else if challenge.consumedAt ≠ none then .reject .registrationChallengeUsed
      else if challenge.expiresAt ≤ c.completedAt then .reject .registrationChallengeExpired
      else if P.verify challenge.devicePublicKey c.signature c.signingPayload = false then
        .reject .registrationProofRejected
      else
        .commit
          (.registered ⟨c.installationId, .active, 1,
            issuedCredential c.initialCredential c.installationId 1⟩)
          .installationAlreadyRegistered (register c challenge)

/-! ## Credentials -/

/-- The owner, if there is one, is locked too and has to be active. -/
def lockOwner (installation : DeviceInstallation) (rejected : DeviceError) (next : DeviceTxn) :
    DeviceTxn :=
  match installation.ownerUserId with
  | none => next
  | some u => .lock (.user u) rejected fun (user : User) =>
      if user.status ≠ .active then .reject rejected else next

/-- mirrors device_credential_repository.py:28-78 -/
def lockAuthenticatedDeviceCredential (presented : ParsedDeviceCredential) (seen : DeviceDb)
    (next : DeviceCredential → DeviceTxn) : DeviceTxn :=
  match seen.credential? presented.credentialId with
  | none => .reject .credentialRejected
  | some bound =>
    .lock (.installation bound.installationId) .credentialRejected
      fun (installation : DeviceInstallation) =>
        if installation.status ≠ .active then .reject .credentialRejected
        else
          lockOwner installation .credentialRejected <|
            .lock (.credential presented.credentialId) .noRow
              fun (credential : DeviceCredential) =>
                if credential.status ≠ .active ∨ credential.scope ≠ deviceCredentialScope ∨
                    credential.secretDigest ≠ presented.secretDigest then
                  .reject .credentialRejected
                else next credential

/-- `UPDATE device_sessions … WHERE device_credential_id = … AND revoked_at IS NULL`. -/
def revokeSessions (which : DeviceSession → Bool) (revokedAt : Time) (db : DeviceDb) :
    Option (Relation DeviceSession) :=
  db.sessions.update? (fun r => which r && r.revokedAt = none) fun r =>
    { r with revokedAt := some revokedAt }

def replaceCredential (current : DeviceCredential) (replacement : PendingDeviceCredential)
    (rotatedAt : Time) (db : DeviceDb) : Option DeviceDb := do
  let credentials ← db.credentials.update? (fun r => r.id = current.id) fun r =>
    { r with
      status := .rotated
      updatedAt := rotatedAt
      revokedAt := some rotatedAt
      replacedById := some replacement.credentialId }
  let sessions ← revokeSessions (fun r => r.deviceCredentialId = current.id) rotatedAt db
  let credentials ← credentials.insert?
    (newCredential replacement current.installationId (current.version + 1) rotatedAt)
  return { db with credentials, sessions }

/-- mirrors device_credential_repository.py:87-135 -/
def rotate (presented : ParsedDeviceCredential) (replacement : PendingDeviceCredential)
    (rotatedAt : Time) (seen : DeviceDb) : DeviceTxn :=
  lockAuthenticatedDeviceCredential presented seen fun current =>
    .commit
      (.credentialIssued (issuedCredential replacement current.installationId (current.version + 1)))
      .integrity (replaceCredential current replacement rotatedAt)

def withdrawCredential (current : DeviceCredential) (revokedAt : Time) (db : DeviceDb) :
    Option DeviceDb := do
  let credentials ← db.credentials.update? (fun r => r.id = current.id) fun r =>
    { r with status := .revoked, updatedAt := revokedAt, revokedAt := some revokedAt }
  let sessions ← revokeSessions (fun r => r.deviceCredentialId = current.id) revokedAt db
  return { db with credentials, sessions }

/-- mirrors device_credential_repository.py:137-166 -/
def revokeCredential (presented : ParsedDeviceCredential) (revokedAt : Time) (seen : DeviceDb) :
    DeviceTxn :=
  lockAuthenticatedDeviceCredential presented seen fun current =>
    .commit (.credentialRevoked ⟨current.id, current.installationId, current.version⟩) .integrity
      (withdrawCredential current revokedAt)

def withdrawInstallation (i : InstallationId) (expectedRevision : Nat) (revokedAt : Time)
    (db : DeviceDb) : Option DeviceDb := do
  let installations ← db.installations.update?
    (fun r => r.id = i && r.revision = expectedRevision && r.status = .active) fun r =>
      { r with
        status := .revoked
        revision := expectedRevision + 1
        updatedAt := revokedAt
        revokedAt := some revokedAt }
  let credentials ← db.credentials.update? (fun r => r.installationId = i && r.status = .active)
    fun r => { r with status := .revoked, updatedAt := revokedAt, revokedAt := some revokedAt }
  let sessions ← revokeSessions (fun r => r.installationId = i) revokedAt db
  return { db with installations, credentials, sessions }

/-- mirrors installation_revocation_repository.py:26-90 -/
def revokeInstallation (i : InstallationId) (expectedRevision : Nat) (revokedAt : Time) :
    DeviceTxn :=
  .lock (.installation i) .installationRevocationRejected
    fun (installation : DeviceInstallation) =>
      if installation.status ≠ .active ∨ installation.revision ≠ expectedRevision then
        .reject .installationRevocationRejected
      else
        .commit (.installationRevoked ⟨i, expectedRevision + 1, revokedAt⟩) .integrity
          (withdrawInstallation i expectedRevision revokedAt)

/-! ## Sessions -/

def sessionRow (s : SessionIssue) (credential : DeviceCredential) : DeviceSession where
  id := s.sessionId
  installationId := credential.installationId
  deviceCredentialId := credential.id
  credentialVersion := credential.version
  capability := s.capability
  secretDigest := s.secretDigest
  createdAt := s.issuedAt
  notBefore := s.notBefore
  expiresAt := s.expiresAt
  revokedAt := none

def openSession (s : SessionIssue) (credential : DeviceCredential) (db : DeviceDb) :
    Option DeviceDb := do
  let sessions ← db.sessions.insert? (sessionRow s credential)
  return { db with sessions }

/-- mirrors device_session_repository.py:48-88 -/
def issue (s : SessionIssue) (seen : DeviceDb) : DeviceTxn :=
  lockAuthenticatedDeviceCredential s.presentedCredential seen fun credential =>
    .commit
      (.sessionIssued ⟨s.sessionId, credential.installationId, credential.id, credential.version,
        s.capability, s.issuedAt, s.notBefore, s.expiresAt⟩)
      .integrity (openSession s credential)

/-- The last comparison: the session is the credential's, and the request fits it. -/
def sessionAccepted (a : SessionAuthentication) (credential : DeviceCredential)
    (stored : DeviceSession) : Prop :=
  credential.installationId = stored.installationId ∧ credential.id = stored.deviceCredentialId ∧
    credential.version = stored.credentialVersion ∧ credential.status = .active ∧
    credential.scope = deviceCredentialScope ∧ stored.revokedAt = none ∧
    stored.capability = a.requiredCapability ∧ stored.notBefore ≤ a.authenticatedAt ∧
    a.authenticatedAt < stored.expiresAt ∧ stored.secretDigest = a.secretDigest

instance (a : SessionAuthentication) (credential : DeviceCredential) (stored : DeviceSession) :
    Decidable (sessionAccepted a credential stored) :=
  inferInstanceAs (Decidable (_ ∧ _ ∧ _ ∧ _ ∧ _ ∧ _ ∧ _ ∧ _ ∧ _ ∧ _))

/-- `requireOwner` is the deployment's `require_installation_owner`.
mirrors device_session_repository.py:90-185 -/
def authenticate (requireOwner : Bool) (a : SessionAuthentication) (seen : DeviceDb) : DeviceTxn :=
  match seen.session? a.sessionId with
  | none => .reject .sessionRejected
  | some binding =>
    .lock (.installation binding.installationId) .sessionRejected
      fun (installation : DeviceInstallation) =>
        if installation.status ≠ .active then .reject .sessionRejected
        else if requireOwner = true ∧ installation.ownerUserId = none then .reject .sessionRejected
        else
          lockOwner installation .sessionRejected <|
            .lock (.credential binding.deviceCredentialId) .noRow
              fun (credential : DeviceCredential) =>
                .lock (.session a.sessionId) .sessionRejected fun (stored : DeviceSession) =>
                  if sessionAccepted a credential stored then
                    .commit
                      (.authenticated ⟨stored.id, stored.installationId, stored.deviceCredentialId,
                        stored.credentialVersion, a.requiredCapability, stored.expiresAt⟩)
                      .sessionRejected some
                  else .reject .sessionRejected

/-! ## The system -/

/-- The transaction of a request, after its first look. -/
def program (P : Primitives) (requireOwner : Bool) : DeviceRequest → DeviceDb → DeviceTxn
  | .saveChallenge c, _ => saveChallenge c
  | .completeChallenge c, _ => completeChallenge P c
  | .rotate presented replacement rotatedAt, seen => rotate presented replacement rotatedAt seen
  | .revokeCredential presented revokedAt, seen => revokeCredential presented revokedAt seen
  | .revokeInstallation i expectedRevision revokedAt, _ =>
    revokeInstallation i expectedRevision revokedAt
  | .issue s, seen => issue s seen
  | .authenticate a, seen => authenticate requireOwner a seen

/-- Users come, go and change; installations get and lose owners. -/
structure Accounts (db db' : DeviceDb) : Prop where
  challenges : db'.challenges = db.challenges
  credentials : db'.credentials = db.credentials
  sessions : db'.sessions = db.sessions
  installations : ∃ f : DeviceInstallation → DeviceInstallation,
    (∀ r, (f r).id = r.id ∧ (f r).devicePublicKey = r.devicePublicKey ∧ (f r).status = r.status) ∧
    db'.installations.rows = db.installations.rows.map f

/-- Any number of requests at once, on an empty database. -/
def devices (P : Primitives) (requireOwner : Bool) :
    LTS (Server deviceRows DeviceAnswer DeviceError DeviceRequest)
      (ServerEvent DeviceAnswer DeviceError DeviceRequest) :=
  serverSystem DeviceDb.empty (program P requireOwner) Accounts

end AutomationTool.ControlPlane.Devices
