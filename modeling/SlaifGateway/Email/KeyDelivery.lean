import SlaifGateway.Library.Text
import SlaifGateway.Library.Runs
import SlaifGateway.Library.Outcome
import Mathlib.Algebra.Order.Ring.Rat

/-! The email that carries a new key: a delivery row and the one-time secret behind it. An attempt is prepared in
one transaction under the locks of both rows, the message is sent, and a second transaction settles the attempt.
What opening the secret gives is a parameter; audit rows, message ids and error texts are left out. -/
namespace SlaifGateway.Email
open Library

section Rows

inductive DeliveryStatus where
  | pending | sending | sent | failed | ambiguous | cancelled
  deriving DecidableEq, Repr

inductive SecretStatus where
  | pending | consumed | expired | revoked
  deriving DecidableEq, Repr

inductive Purpose where
  | gatewayKeyEmail | gatewayKeyRotationEmail | other
  deriving DecidableEq, Repr

structure OneTimeSecret where
  id : ℕ
  purpose : Purpose
  ownerId : Option ℕ
  gatewayKeyId : Option ℕ
  expiresAt : ℚ
  consumedAt : Option ℚ := none
  status : SecretStatus := .pending
  deriving DecidableEq

structure EmailDelivery where
  id : ℕ
  ownerId : Option ℕ
  gatewayKeyId : Option ℕ
  oneTimeSecretId : Option ℕ
  recipientEmail : Text
  status : DeliveryStatus
  deriving DecidableEq

structure Owner where
  id : ℕ
  email : Text
  deriving DecidableEq

structure Database where
  secrets : List OneTimeSecret
  deliveries : List EmailDelivery
  owners : List Owner
  gatewayKeys : List ℕ

namespace Database

def secret (db : Database) (id : ℕ) : Option OneTimeSecret := db.secrets.find? fun row => row.id = id

def delivery (db : Database) (id : ℕ) : Option EmailDelivery := db.deliveries.find? fun row => row.id = id

def owner (db : Database) (id : ℕ) : Option Owner := db.owners.find? fun row => row.id = id

-- `update_email_delivery_status`, whatever the status was.
def mark (db : Database) (id : ℕ) (status : DeliveryStatus) : Database := { db with
  deliveries := db.deliveries.map fun row => if row.id = id then { row with status := status } else row }

def markSecret (db : Database) (id : ℕ) (status : SecretStatus) : Database := { db with
  secrets := db.secrets.map fun row => if row.id = id then { row with status := status } else row }

def markConsumed (db : Database) (id : ℕ) (at_ : ℚ) : Database := { db with
  secrets := db.secrets.map fun row =>
    if row.id = id ∧ row.consumedAt = none then { row with status := .consumed, consumedAt := some at_ } else row }

end Database

-- An attempt that may have reached the recipient.
def DeliveryStatus.blocks (status : DeliveryStatus) : Bool := status = .sending || status = .sent || status = .ambiguous

def DeliveryStatus.sendable (status : DeliveryStatus) : Bool := status = .pending || status = .failed

def isAttemptOf (secretId : ℕ) (row : EmailDelivery) : Bool := row.oneTimeSecretId = some secretId

def hasBlockingAttempt (db : Database) (secretId : ℕ) : Bool :=
  db.deliveries.any fun row => isAttemptOf secretId row && row.status.blocks

def hasAttempt (db : Database) (secretId : ℕ) : Bool := db.deliveries.any (isAttemptOf secretId)

end Rows

section Preparation

inductive Selection where
  | notFound | mismatchedSecret | blockedAttempt | priorHistory
  deriving DecidableEq, Repr

-- The errors whose handler records the attempt as failed.
inductive EmailError where
  | secretNotFound | alreadyConsumed | secretExpired (marked : Bool) | notConfigured | wrongPurpose
  | notDeliverable | payloadInvalid | metadataIncomplete
  deriving DecidableEq, Repr

inductive PrepareError where
  | selection (reason : Selection)
  | notSendable (status : DeliveryStatus)
  | email (error : EmailError)
  | unexpected
  deriving DecidableEq, Repr

-- What opening a secret gives: ids in the payload, a payload that is refused, or any other exception.
inductive Opened where
  | payload (gatewayKeyId ownerId : Option ℕ)
  | invalid
  | broken
  deriving DecidableEq, Repr

structure Sender where
  configured : Bool
  opens : OneTimeSecret → Opened

def OneTimeSecret.spent (s : OneTimeSecret) : Bool := s.status = .consumed || s.consumedAt.isSome

def Purpose.deliverable (p : Purpose) : Bool := p = .gatewayKeyEmail || p = .gatewayKeyRotationEmail

-- `_email_delivery_send_blocking_reason`
def blocked (row : EmailDelivery) (secret : Option OneTimeSecret) (now : ℚ) : Bool :=
  row.status = .sending || row.status = .ambiguous || !row.status.sendable || row.oneTimeSecretId.isNone ||
    match secret with
    | none => true
    | some s => row.oneTimeSecretId ≠ some s.id || !s.purpose.deliverable || s.spent ||
        (s.status = .expired || s.expiresAt ≤ now) || s.status ≠ .pending ||
        (s.ownerId ≠ row.ownerId || s.gatewayKeyId ≠ row.gatewayKeyId)

-- The selected row, locked until the transaction ends.
def selectedDelivery (db : Database) (secretId id : ℕ) : Except PrepareError EmailDelivery := do
  match db.delivery id with
  | none => .error (.selection .notFound)
  | some row =>
    failIf (row.status.sendable = false) (.notSendable row.status)
    failIf (row.oneTimeSecretId ≠ some secretId) (.selection .mismatchedSecret)
    pure row

def chosenDelivery (db : Database) (secretId : ℕ) : Option ℕ → Except PrepareError (Option EmailDelivery)
  | none => .ok none
  | some id => (selectedDelivery db secretId id).map some

def lockedSecret (db : Database) (secretId : ℕ) (now : ℚ) : Except PrepareError OneTimeSecret :=
  match db.secret secretId with
  | none => .error (.email .secretNotFound)
  | some s => do
    failIf (s.spent = true) (.email .alreadyConsumed)
    failIf (s.status = .expired) (.email (.secretExpired false))
    failIf (s.expiresAt ≤ now) (.email (.secretExpired true))
    pure s

-- `decrypt_pending_one_time_secret_for_update`
def decryptPending (sender : Sender) (s : OneTimeSecret) (purpose : Purpose) (now : ℚ) : Except EmailError Opened := do
  failIf (sender.configured = false) .notConfigured
  failIf (s.purpose ≠ purpose) .wrongPurpose
  failIf (s.spent = true) .alreadyConsumed
  failIf (s.status ≠ .pending) .alreadyConsumed
  failIf (s.expiresAt ≤ now) (.secretExpired true)
  pure (sender.opens s)

-- The loop over the purposes.
def decryptFor (sender : Sender) (s : OneTimeSecret) (now : ℚ) : List Purpose → Except EmailError Opened
  | [] => .error .notDeliverable
  | purpose :: rest =>
    match decryptPending sender s purpose now with
    | .error .wrongPurpose => decryptFor sender s now rest
    | other => other

def keyEmailPurposes : List Purpose := [.gatewayKeyEmail,.gatewayKeyRotationEmail]

-- The key and the owner of the payload, or else those of the secret.
def recipientOf (db : Database) (s : OneTimeSecret) : Opened → Except PrepareError (ℕ × Owner)
  | .broken => .error .unexpected
  | .invalid => .error (.email .payloadInvalid)
  | .payload gatewayKeyId ownerId =>
    match (gatewayKeyId.or s.gatewayKeyId).filter (· ∈ db.gatewayKeys),(ownerId.or s.ownerId).bind db.owner with
    | some key,some owner => .ok (key,owner)
    | _,_ => .error (.email .metadataIncomplete)

def checkHistory (db : Database) (secretId : ℕ) (existing : Option EmailDelivery) : Except PrepareError Unit := do
  failIf (hasBlockingAttempt db secretId = true) (.selection .blockedAttempt)
  failIf (existing.isNone ∧ hasAttempt db secretId = true) (.selection .priorHistory)

def checkExisting (s : OneTimeSecret) (now : ℚ) : Option EmailDelivery → Except PrepareError Unit
  | none => .ok ()
  | some row => do
    failIf (s.status ≠ .pending) (.email .alreadyConsumed)
    failIf (blocked row (some s) now = true) (.notSendable row.status)

-- `_prepare_key_email_delivery_attempt`; `newId` is the id of a row it creates.
def prepareAttempt (sender : Sender) (db : Database) (secretId : ℕ) (deliveryId : Option ℕ) (newId : ℕ) (now : ℚ) :
    Except PrepareError (EmailDelivery × Database) := do
  let existing ← chosenDelivery db secretId deliveryId
  let s ← lockedSecret db secretId now
  checkHistory db secretId existing
  checkExisting s now existing
  let opened ← (decryptFor sender s now keyEmailPurposes).mapError .email
  let known ← recipientOf db s opened
  let row := existing.getD ⟨newId,some known.2.id,some known.1,some s.id,known.2.email,.pending⟩
  failIf (blocked row (some s) now = true) (.notSendable row.status)
  let sending := { row with status := .sending, recipientEmail := known.2.email }
  pure (sending,{ db with
    deliveries := if existing.isNone then sending :: db.deliveries
      else db.deliveries.map fun other => if other.id = row.id then sending else other })

-- What is written with a recorded refusal.
def recordRefusal (db : Database) (secretId : ℕ) (deliveryId : Option ℕ) (error : EmailError) : Database :=
  let checked := if error = .secretExpired true then db.markSecret secretId .expired else db
  match deliveryId with
  | none => checked
  | some id => checked.mark id .failed

-- `create_pending_key_email_delivery`
def createPending (db : Database) (gatewayKeyId secretId ownerId newId : ℕ) : Option Database := do
  let s ← db.secret secretId
  let owner ← db.owner ownerId
  if gatewayKeyId ∈ db.gatewayKeys ∧ s.gatewayKeyId = some gatewayKeyId ∧ s.ownerId = some ownerId ∧
      s.purpose.deliverable = true ∧ s.status = .pending ∧ s.consumedAt = none then
    some { db with deliveries := ⟨newId,some ownerId,some gatewayKeyId,some secretId,owner.email,.pending⟩ :: db.deliveries }
  else none

-- `get_key_email_delivery_sendability`, for a row that exists.
def canSend (db : Database) (row : EmailDelivery) (now : ℚ) : Bool :=
  !blocked row (row.oneTimeSecretId.bind db.secret) now && !(row.oneTimeSecretId.any (hasBlockingAttempt db))

end Preparation

section Means
variable {sender : Sender} {db db' : Database} {secretId newId : ℕ} {deliveryId : Option ℕ} {now : ℚ} {row : EmailDelivery}
  {s : OneTimeSecret} {error : EmailError}

theorem foundDelivery {id : ℕ} (found : db.delivery id = some row) : row ∈ db.deliveries ∧ row.id = id :=
  ⟨List.mem_of_find?_eq_some found,by simpa using List.find?_some found⟩

theorem foundSecret {id : ℕ} (found : db.secret id = some s) : s ∈ db.secrets ∧ s.id = id :=
  ⟨List.mem_of_find?_eq_some found,by simpa using List.find?_some found⟩

theorem selectedMeans {id : ℕ} (ok : selectedDelivery db secretId id = .ok row) :
    db.delivery id = some row ∧ row.status.sendable = true ∧ row.oneTimeSecretId = some secretId := by
  unfold selectedDelivery at ok
  split at ok
  · cases ok
  · next found =>
    obtain ⟨_,sendable,ok⟩ := okBind ok
    obtain ⟨_,bound,ok⟩ := okBind ok
    cases ok
    exact ⟨found,by simpa using okFailIf sendable,by simpa using okFailIf bound⟩

theorem selectedRefusal {id : ℕ} : selectedDelivery db secretId id ≠ .error (.email error) := by
  unfold selectedDelivery failIf
  split
  · simp
  · split
    · simp [bind,Except.bind]
    · split <;> simp [bind,Except.bind,pure,Except.pure]

theorem lockedMeans (ok : lockedSecret db secretId now = .ok s) : db.secret secretId = some s ∧ s.spent = false ∧
    s.status ≠ .expired ∧ now < s.expiresAt := by
  unfold lockedSecret at ok
  split at ok
  · cases ok
  · next found =>
    obtain ⟨_,unspent,ok⟩ := okBind ok
    obtain ⟨_,unexpired,ok⟩ := okBind ok
    obtain ⟨_,fresh,ok⟩ := okBind ok
    cases ok
    exact ⟨found,by simpa using okFailIf unspent,okFailIf unexpired,not_le.mp (okFailIf fresh)⟩

-- An attempt that is prepared: its row is now sending, and nothing of its secret blocked it.
structure Prepared (db : Database) (secretId : ℕ) (deliveryId : Option ℕ) (newId : ℕ) (row : EmailDelivery)
    (db' : Database) : Prop where
  status : row.status = .sending
  secret : row.oneTimeSecretId = some secretId
  unspent : ∃ s, db.secret secretId = some s ∧ s.spent = false
  clear : hasBlockingAttempt db secretId = false
  secrets : db'.secrets = db.secrets
  written : deliveryId = none ∧ row.id = newId ∧ db'.deliveries = row :: db.deliveries ∨
    ∃ old ∈ db.deliveries, deliveryId = some old.id ∧ old.oneTimeSecretId = some secretId ∧ row.id = old.id ∧
      db'.deliveries = db.deliveries.map fun other => if other.id = row.id then row else other

theorem preparedMeans (ok : prepareAttempt sender db secretId deliveryId newId now = .ok (row,db')) :
    Prepared db secretId deliveryId newId row db' := by
  unfold prepareAttempt at ok
  obtain ⟨existing,chosen,ok⟩ := okBind ok
  obtain ⟨s,locked,ok⟩ := okBind ok
  obtain ⟨_,history,ok⟩ := okBind ok
  obtain ⟨_,checked,ok⟩ := okBind ok
  obtain ⟨opened,decrypted,ok⟩ := okBind ok
  obtain ⟨known,recipient,ok⟩ := okBind ok
  obtain ⟨_,clear,ok⟩ := okBind ok
  obtain ⟨found,unspent,-,-⟩ := lockedMeans locked
  obtain ⟨_,unblocked,-⟩ := okBind history
  cases ok
  have own : s.id = secretId := (foundSecret found).2
  cases deliveryId with
  | none =>
    cases chosen
    exact ⟨rfl,congrArg some own,⟨s,found,unspent⟩,by simpa using okFailIf unblocked,rfl,.inl ⟨rfl,rfl,rfl⟩⟩
  | some id =>
    obtain ⟨old,selected,rfl⟩ := okMap chosen
    obtain ⟨there,-,bound⟩ := selectedMeans selected
    obtain ⟨mem,same⟩ := foundDelivery there
    exact ⟨rfl,bound,⟨s,found,unspent⟩,by simpa using okFailIf unblocked,rfl,
      .inr ⟨old,mem,congrArg some same.symm,bound,rfl,rfl⟩⟩

-- A refusal that is recorded leaves alone what may have reached the recipient.
theorem refusedMeans (refused : prepareAttempt sender db secretId deliveryId newId now = .error (.email error)) {id : ℕ}
    (selected : deliveryId = some id) : ∃ row, db.delivery id = some row ∧ row.status.sendable = true := by
  subst selected
  unfold prepareAttempt at refused
  cases chosen : selectedDelivery db secretId id with
  | error e =>
    simp only [chosenDelivery,chosen] at refused
    cases refused
    exact absurd chosen selectedRefusal
  | ok row => exact ⟨row,(selectedMeans chosen).1,(selectedMeans chosen).2.1⟩

end Means

section Sendability
variable {sender : Sender} {db : Database} {secretId newId : ℕ} {now : ℚ} {row : EmailDelivery} {s : OneTimeSecret}

structure Unblocked (row : EmailDelivery) (s : OneTimeSecret) (now : ℚ) : Prop where
  status : row.status.sendable = true
  secret : row.oneTimeSecretId = some s.id
  purpose : s.purpose.deliverable = true
  unspent : s.spent = false
  fresh : now < s.expiresAt
  pending : s.status = .pending

theorem blockedNot (free : blocked row (some s) now = false) : Unblocked row s now := by
  simp only [blocked,Bool.or_eq_false_iff,Bool.not_eq_false',decide_eq_false_iff_not,not_not,not_le,ne_eq] at free
  obtain ⟨⟨⟨⟨-,-⟩,sendable⟩,-⟩,⟨⟨⟨⟨secret,purpose⟩,unspent⟩,-,fresh⟩,pending⟩,-⟩ := free
  exact ⟨sendable,secret,purpose,unspent,fresh,pending⟩

theorem mapErrorOk {ε δ α : Type} {x : Except ε α} {f : ε → δ} {a : α} (ok : x.mapError f = .ok a) : x = .ok a := by
  cases x with
  | error e => cases ok
  | ok b => exact congrArg Except.ok (Except.ok.inj ok)

theorem decryptMeans {purposes : List Purpose} {opened : Opened} (ok : decryptFor sender s now purposes = .ok opened) :
    sender.configured = true ∧ opened = sender.opens s := by
  induction purposes with
  | nil => cases ok
  | cons purpose rest ih =>
    unfold decryptFor at ok
    split at ok
    · exact ih ok
    · obtain ⟨_,configured,ok⟩ := okBind ok
      obtain ⟨_,-,ok⟩ := okBind ok
      obtain ⟨_,-,ok⟩ := okBind ok
      obtain ⟨_,-,ok⟩ := okBind ok
      obtain ⟨_,-,ok⟩ := okBind ok
      cases ok
      exact ⟨by simpa using okFailIf configured,rfl⟩

theorem decryptOk (free : Unblocked row s now) (configured : sender.configured = true) :
    decryptFor sender s now keyEmailPurposes = .ok (sender.opens s) := by
  have opens : decryptPending sender s s.purpose now = .ok (sender.opens s) := by
    simp [decryptPending,failIf,configured,free.unspent,free.pending,not_le.mpr free.fresh,bind,Except.bind,pure,Except.pure]
  have purposes := free.purpose
  simp only [Purpose.deliverable,Bool.or_eq_true,decide_eq_true_eq] at purposes
  rcases purposes with first | second
  · rw [first] at opens
    simp only [keyEmailPurposes,decryptFor,opens]
  · have wrong : decryptPending sender s .gatewayKeyEmail now = .error .wrongPurpose := by
      simp only [decryptPending,failIf,configured,second]
      rfl
    rw [second] at opens
    simp only [keyEmailPurposes,decryptFor,opens,wrong]

-- The secret can be opened, and leads to a key and an owner.
def Deliverable (sender : Sender) (db : Database) (secretId : ℕ) : Prop :=
  sender.configured = true ∧ ∃ s known, db.secret secretId = some s ∧ recipientOf db s (sender.opens s) = .ok known

theorem prepareOfSendable {id : ℕ} (there : db.delivery id = some row) (bound : row.oneTimeSecretId = some secretId)
    (can : canSend db row now = true) (deliverable : Deliverable sender db secretId) :
    ∃ out, prepareAttempt sender db secretId (some id) newId now = .ok out := by
  obtain ⟨configured,s,known,found,recipient⟩ := deliverable
  simp only [canSend,bound,Option.bind_some,found,Option.any_some,Bool.and_eq_true,Bool.not_eq_true'] at can
  obtain ⟨free,clear⟩ := can
  have fine := blockedNot free
  have selected : chosenDelivery db secretId (some id) = .ok (some row) := by
    simp [chosenDelivery,selectedDelivery,there,failIf,fine.status,bound,Except.map,bind,Except.bind,pure,Except.pure]
  have locked : lockedSecret db secretId now = .ok s := by
    simp [lockedSecret,found,failIf,fine.unspent,fine.pending,not_le.mpr fine.fresh,bind,Except.bind,pure,Except.pure]
  have history : checkHistory db secretId (some row) = .ok () := by
    simp [checkHistory,failIf,clear,bind,Except.bind]
  have checked : checkExisting s now (some row) = .ok () := by
    simp [checkExisting,failIf,fine.pending,free,bind,Except.bind]
  simp [prepareAttempt,selected,locked,history,checked,decryptOk fine configured,recipient,bind,Except.bind,
    Except.mapError,free,failIf,pure,Except.pure]

-- What the dashboard says can be sent is what the sender takes, where the secret opens to a recipient.
theorem sendabilityMatchesSender (sender : Sender) (db : Database) (secretId id newId : ℕ) (now : ℚ) :
    (∃ out, prepareAttempt sender db secretId (some id) newId now = .ok out) ↔
      ∃ row, db.delivery id = some row ∧ row.oneTimeSecretId = some secretId ∧ canSend db row now = true ∧
        Deliverable sender db secretId := by
  refine ⟨fun out => ?_,fun can => ?_⟩
  · obtain ⟨out,ok⟩ := out
    unfold prepareAttempt at ok
    obtain ⟨existing,chosen,ok⟩ := okBind ok
    obtain ⟨s,locked,ok⟩ := okBind ok
    obtain ⟨_,history,ok⟩ := okBind ok
    obtain ⟨_,checked,ok⟩ := okBind ok
    obtain ⟨opened,decrypted,ok⟩ := okBind ok
    obtain ⟨known,recipient,-⟩ := okBind ok
    obtain ⟨row,selected,rfl⟩ := okMap chosen
    obtain ⟨there,-,bound⟩ := selectedMeans selected
    obtain ⟨found,-,-,-⟩ := lockedMeans locked
    obtain ⟨_,clear,-⟩ := okBind history
    obtain ⟨_,-,free⟩ := okBind checked
    obtain ⟨configured,rfl⟩ := decryptMeans (mapErrorOk decrypted)
    refine ⟨row,there,bound,?_,configured,s,known,found,recipient⟩
    simp [canSend,bound,found,okFailIf free,okFailIf clear]
  · obtain ⟨row,there,bound,can,deliverable⟩ := can
    exact prepareOfSendable there bound can deliverable

end Sendability

end SlaifGateway.Email
