import SlaifGateway.Quota.Fence

/-! The external-tool accounting hold: a fenced reservation whose final cost is
unknown keeps its fence `held` until an operator reconciles it. The stored texts of
a reconciliation (the redacted reason, the printed cost) arrive as inputs. -/
namespace SlaifGateway.Quota
open Store Library Library.Tx Library.Table

structure HoldInput where
  gatewayKeyId : Uuid
  reservationId : Uuid
  requestId : String
  reasonCode : HoldReasonCode
  evidenceQuality : HoldEvidenceQuality
  streaming : Bool
  now : Time
  partialTotalTokens : Option ℤ
  estimatedCostEur : Option ℚ
  newId : Uuid
  deriving DecidableEq, Repr

structure HoldProjection where
  gatewayKeyId : Uuid
  reservationId : Uuid
  usageLedgerId : Uuid
  requestId : String
  fenceState : FenceState
  accountingStatus : AccountingStatus
  hold : Option HoldMetadata
  expiresAt : Time
  provider : String
  endpoint : String
  requestedModel : Option String
  reserved : Amounts
  partialTotalTokens : Option ℤ
  estimatedCostEur : Option ℚ
  deriving DecidableEq, Repr

structure HoldReconciliationInput where
  reservationId : Uuid
  action : HoldAction
  execute : Bool
  actorAdminId : Option Uuid
  reason : Option String
  actualCostEur : Option ℚ
  actualTotalTokens : Option ℤ
  success : Option Bool
  confirmNoCharge : Bool
  now : Time
  /-- `reason.strip()` as the metadata sanitizer stores it. -/
  storedReason : String
  /-- `str(actual_cost_eur)`. -/
  actualCostText : String
  deriving DecidableEq, Repr

structure HoldReconciliationResult where
  reservationId : Uuid
  usageLedgerId : Uuid
  action : HoldAction
  executed : Bool
  fenceState : FenceState
  reservationStatus : ReservationStatus
  accountingStatus : AccountingStatus
  actualCostEur : Option ℚ
  actualTotalTokens : ℤ
  success : Option Bool
  idempotent : Bool
  deriving DecidableEq, Repr

def holdInvariant (message : String) : ServiceError := ErrorKind.externalToolAccountingHoldInvariant.saying message

def invalidHold (message : String) : ServiceError := ErrorKind.invalidExternalToolAccountingHold.saying message

def validateHoldInput (i : HoldInput) : Action Unit :=
  raiseIf (i.requestId = "" ∨ 255 < i.requestId.toList.length) (invalidHold "Request ID is invalid")

def validatePartialFacts (partialTotalTokens : Option ℤ) (estimatedCostEur : Option ℚ) : Action Unit := do
  raiseIf (∃ t ∈ partialTotalTokens, t < 0) <|
    ErrorKind.value.saying "partial_total_tokens must be a non-negative integer"
  raiseIf (∃ c ∈ estimatedCostEur, c < 0) <| ErrorKind.value.saying "estimated_cost_eur must be non-negative"

def safeHoldMetadata (i : HoldInput) : ResponseMetadata :=
  { ResponseMetadata.plain false with
    externalToolAccountingHold := some ⟨1,.held,i.reasonCode,true,i.evidenceQuality,i.now⟩ }

def exactHoldMetadata (l : UsageLedger) : Option HoldMetadata :=
  let m := l.responseMetadata
  if m.recoveryState = none ∧ m.needsReconciliation = none ∧ m.externalToolAccountingReconciliation = none ∧
      m.furtherKeys = false then
    m.externalToolAccountingHold.filter fun hold =>
      hold.version = 1 ∧ hold.state = .held ∧ hold.needsReconciliation = true
  else none

def validateLockedCandidate (l : UsageLedger) (r : QuotaReservation) (k : GatewayKey) : Action Unit := do
  raiseIf (k.fence.state ≠ .held) (holdInvariant "Reconciliation requires a held fence")
  raiseIf (r.status ≠ .pending ∨ r.quotaMode ≠ .externalToolFenced) <|
    holdInvariant "Reconciliation requires a pending fenced reservation"
  raiseIf (l.quotaReservationId ≠ some r.id ∨ l.gatewayKeyId ≠ k.id ∨ k.fence.reservationId ≠ some r.id ∨
      k.fence.requestId ≠ some r.requestId ∨ l.requestId ≠ r.requestId ∨ l.endpoint ≠ r.endpoint ∨
      some l.provider ≠ r.externalToolProvider ∨ l.requestedModel ≠ r.requestedModel ∨
      r.externalToolRouteId = none) <|
    holdInvariant "Hold ledger ownership mismatch"
  raiseIf (l.actualCostEur ≠ none ∨ l.actualCostNative ≠ none ∨ l.usageRawPresent = true) <|
    holdInvariant "Hold ledger contains terminal cost or raw usage evidence"
  raiseIf (k.reserved ≠ r.reserved) (holdInvariant "Hold reservation counters are inconsistent")
  raiseIf (exactHoldMetadata l = none ∨ (l.accountingStatus ≠ .estimated ∧ l.accountingStatus ≠ .interrupted) ∨
      l.success ≠ none) <|
    holdInvariant "Ledger is not an unresolved hold"

def validateReservationAndFence (i : HoldInput) (r : QuotaReservation) (k : GatewayKey) : Action Unit := do
  raiseIf (r.gatewayKeyId ≠ i.gatewayKeyId) (holdInvariant "Hold reservation key mismatch")
  raiseIf (r.requestId ≠ i.requestId) (holdInvariant "Hold request ID mismatch")
  raiseIf (r.quotaMode ≠ .externalToolFenced ∨ r.status ≠ .pending) <|
    holdInvariant "Hold requires a pending fenced reservation"
  raiseIf (k.fence.state = .none) (holdInvariant "Hold requires an active fence")
  raiseIf (k.fence.reservationId ≠ some r.id) (holdInvariant "Hold fence reservation mismatch")
  raiseIf (k.fence.requestId ≠ some r.requestId) (holdInvariant "Hold fence request mismatch")
  raiseIf (r.externalToolProvider = none ∨ r.externalToolRouteId = none) <|
    holdInvariant "Hold requires bound route facts"

/-- `_ledger_matches_hold`. -/
def ledgerMatchesHold (l : UsageLedger) (i : HoldInput) : Prop :=
  (∃ hold ∈ exactHoldMetadata l, hold.reasonCode = i.reasonCode ∧ hold.evidenceQuality = i.evidenceQuality) ∧
  l.streaming = i.streaming ∧ l.totalTokens = i.partialTotalTokens.getD 0 ∧ l.estimatedCostEur = i.estimatedCostEur

instance (l : UsageLedger) (i : HoldInput) : Decidable (ledgerMatchesHold l i) := by
  unfold ledgerMatchesHold; infer_instance

def holdProjection (k : GatewayKey) (r : QuotaReservation) (l : UsageLedger) : HoldProjection where
  gatewayKeyId := k.id
  reservationId := r.id
  usageLedgerId := l.id
  requestId := r.requestId
  fenceState := k.fence.state
  accountingStatus := l.accountingStatus
  hold := l.responseMetadata.externalToolAccountingHold
  expiresAt := r.expiresAt
  provider := r.externalToolProvider.getD l.provider
  endpoint := r.endpoint
  requestedModel := r.requestedModel
  reserved := r.reserved
  partialTotalTokens := if l.accountingStatus = .estimated then some l.totalTokens else none
  estimatedCostEur := l.estimatedCostEur

def HoldInput.status (i : HoldInput) : AccountingStatus :=
  if i.partialTotalTokens ≠ none ∨ i.estimatedCostEur ≠ none then .estimated else .interrupted

/-- The unresolved row of a new hold: no actual cost, no outcome. -/
def HoldInput.ledger (i : HoldInput) (r : QuotaReservation) (k : GatewayKey) : UsageLedger where
  id := i.newId
  requestId := r.requestId
  quotaReservationId := some r.id
  gatewayKeyId := k.id
  endpoint := r.endpoint
  provider := (r.externalToolProvider.filter fun p => p ≠ "").getD "unknown"
  requestedModel := r.requestedModel
  resolvedModel := none
  streaming := i.streaming
  success := none
  accountingStatus := i.status
  promptTokens := 0
  completionTokens := 0
  totalTokens := i.partialTotalTokens.getD 0
  estimatedCostEur := i.estimatedCostEur
  actualCostEur := none
  actualCostNative := none
  usageRawPresent := false
  responseMetadata := safeHoldMetadata i

/-- The branch of `place` for a fence that is already held: an exact retry, or a conflict. -/
def placeAgain (i : HoldInput) (r : QuotaReservation) (k : GatewayKey) (ledgers : List UsageLedger) :
    Action HoldProjection := do
  raiseIf (ledgers.length ≠ 1) (holdInvariant "A held fence requires exactly one linked usage ledger")
  let ledger ← orRaise ledgers.head? (holdInvariant "A held fence requires exactly one linked usage ledger")
  validateLockedCandidate ledger r k
  raiseIf (¬ledgerMatchesHold ledger i) (fenceConflict "external_tool_accounting_hold_retry_conflict")
  pure (holdProjection k r ledger)

def placeNew (i : HoldInput) (r : QuotaReservation) (k : GatewayKey) (ledgers : List UsageLedger) :
    Action HoldProjection := do
  raiseIf (k.fence.state ≠ .active) (holdInvariant "A new hold requires an active fence")
  validateReservationAndFence i r k
  raiseIf (ledgers ≠ []) (holdInvariant "A new hold requires zero linked usage ledgers")
  raiseIf (k.reserved ≠ r.reserved) <|
    holdInvariant "Hold requires the complete reservation balance to remain reserved"
  let ledger ← createUsageRecord (i.ledger r k)
  let held ← setExternalToolFence k ⟨.held,some r.id,some r.requestId,k.fence.acquiredAt,k.fence.expiresAt⟩
  pure (holdProjection held r ledger)

def place (i : HoldInput) : Action HoldProjection := do
  validateHoldInput i
  validatePartialFacts i.partialTotalTokens i.estimatedCostEur
  let reservation ← orRaise (← getReservationByIdForUpdate i.reservationId) (holdInvariant "Hold reservation is missing")
  let gatewayKey ← orRaise (← getGatewayKeyForUpdate i.gatewayKeyId) (holdInvariant "Hold gateway key is missing")
  let ledgers ← getUsageRecordsByReservationId reservation.id
  if gatewayKey.fence.state = .held then placeAgain i reservation gatewayKey ledgers
  else placeNew i reservation gatewayKey ledgers

def validateFinalizeActual (i : HoldReconciliationInput) : Action Unit := do
  raiseIf (i.confirmNoCharge = true) (invalidHold "No-charge confirmation is incompatible")
  raiseIf (¬∃ c ∈ i.actualCostEur, 0 ≤ c) (invalidHold "Actual cost must be finite and non-negative")
  raiseIf (¬∃ t ∈ i.actualTotalTokens, 0 ≤ t) (invalidHold "Actual tokens must be non-negative")
  raiseIf (i.success = none) (invalidHold "Provider outcome must be explicit")

def validateReleaseNoCharge (i : HoldReconciliationInput) : Action Unit := do
  raiseIf (i.actualCostEur ≠ none ∨ i.actualTotalTokens ≠ none ∨ i.success ≠ none) <|
    invalidHold "No-charge release cannot include actual usage or outcome fields"
  raiseIf (i.confirmNoCharge = false) (invalidHold "No-charge release requires explicit confirmation")

def validateReconciliationInput (i : HoldReconciliationInput) : Action Unit := do
  raiseIf (∃ reason ∈ i.reason, blank reason = true ∨ 500 < reason.toList.length) <|
    invalidHold "Reconciliation reason is invalid"
  raiseIf (i.execute = true ∧ i.actorAdminId = none) (invalidHold "An admin actor is required")
  raiseIf (i.execute = true ∧ i.reason = none) (invalidHold "A bounded reconciliation reason is required")
  match i.action with
  | .finalizeActual => validateFinalizeActual i
  | .releaseNoCharge => validateReleaseNoCharge i

def ledgerIdForReservation (reservationId : Uuid) : Action Uuid := do
  let rows ← getUsageRecordsByReservationId reservationId
  raiseIf (rows.length ≠ 1) (holdInvariant "Reconciliation requires exactly one linked hold ledger")
  let ledger ← orRaise rows.head? (holdInvariant "Reconciliation requires exactly one linked hold ledger")
  pure ledger.id

/-- `_reconciliation_matches`. -/
def reconciliationMatches (m : Option HoldReconciliationMetadata) (i : HoldReconciliationInput) : Prop :=
  ∃ stored ∈ m, stored.action = i.action ∧ stored.actorAdminId = i.actorAdminId ∧
    some stored.reason = i.reason.map strip ∧
    stored.actualCostEur = (if i.actualCostEur = none then "0" else i.actualCostText) ∧
    stored.actualTotalTokens = i.actualTotalTokens.getD 0 ∧ stored.success = i.success.getD false ∧
    stored.confirmedNoCharge = i.confirmNoCharge

instance (m : Option HoldReconciliationMetadata) (i : HoldReconciliationInput) :
    Decidable (reconciliationMatches m i) := by
  unfold reconciliationMatches; infer_instance

/-- `_terminal_metadata`. -/
def terminalMetadata (l : UsageLedger) (stored : HoldReconciliationMetadata) : ResponseMetadata :=
  { l.responseMetadata with
    externalToolAccountingHold := l.responseMetadata.externalToolAccountingHold.map fun hold =>
      { hold with needsReconciliation := false, state := .reconciled }
    externalToolAccountingReconciliation := some stored }

def holdReconciliationResult (i : HoldReconciliationInput) (l : UsageLedger) (r : QuotaReservation) (k : GatewayKey)
    (idempotent : Bool) : HoldReconciliationResult :=
  ⟨r.id,l.id,i.action,i.execute,k.fence.state,r.status,l.accountingStatus,l.actualCostEur,l.totalTokens,l.success,
    idempotent⟩

def loadCandidate (reservationId : Uuid) : Action (UsageLedger × QuotaReservation × GatewayKey) := do
  let rows ← getUsageRecordsByReservationId reservationId
  raiseIf (rows.length ≠ 1) (holdInvariant "Reconciliation requires exactly one linked hold ledger")
  let ledger ← orRaise rows.head? (holdInvariant "Reconciliation requires exactly one linked hold ledger")
  let reservation ← orRaise (← getReservationById reservationId) (holdInvariant "Hold reservation is missing")
  let gatewayKey ← orRaise (← getGatewayKeyById reservation.gatewayKeyId) (holdInvariant "Hold gateway key is missing")
  validateLockedCandidate ledger reservation gatewayKey
  pure (ledger,reservation,gatewayKey)

/-- What the operator says was used. -/
def HoldReconciliationInput.actual (i : HoldReconciliationInput) : Amounts :=
  ⟨i.actualCostEur.getD 0,i.actualTotalTokens.getD 0,1⟩

def HoldReconciliationInput.stored (i : HoldReconciliationInput) (r : QuotaReservation) :
    HoldReconciliationMetadata where
  action := i.action
  actorAdminId := i.actorAdminId
  reason := i.storedReason
  actualCostEur := if i.actualCostEur = none then "0" else i.actualCostText
  actualTotalTokens := i.actualTotalTokens.getD 0
  success := i.success.getD false
  overrunCost := decide (r.reserved.costEur < i.actualCostEur.getD 0)
  overrunTokens := decide (r.reserved.tokens < i.actualTotalTokens.getD 0)
  confirmedNoCharge := decide (i.action = .releaseNoCharge)

/-- The ledger half of the chosen action: finalized with the operator's amounts, or failed at no charge. -/
def settleHoldLedger (i : HoldReconciliationInput) (l : UsageLedger) (r : QuotaReservation) : Action UsageLedger :=
  match i.action with
  | .finalizeActual => updateExternalToolHoldLedger l .finalized (i.success.getD false) (i.actualCostEur.getD 0)
      (i.actualTotalTokens.getD 0) (terminalMetadata l (i.stored r))
  | .releaseNoCharge => updateExternalToolHoldLedger l .failed false 0 0 (terminalMetadata l (i.stored r))

/-- The counter and reservation half of the chosen action. -/
def settleHeldReservation (i : HoldReconciliationInput) (r : QuotaReservation) (k : GatewayKey) :
    Action QuotaReservation :=
  match i.action with
  | .finalizeActual => do
    let _ ← finalizeReservedCounters k r.reserved i.actual i.now
    markPendingReservationFinalized r i.now
  | .releaseNoCharge => do
    let _ ← subtractReservedCounters k r.reserved
    markPendingReservationReleased r i.now

/-- The executed branch, once ledger, reservation and key are locked. -/
def executeReconciliation (i : HoldReconciliationInput) (l : UsageLedger) (r : QuotaReservation) (k : GatewayKey) :
    Action HoldReconciliationResult := do
  validateLockedCandidate l r k
  let settled ← settleHeldReservation i r k
  let ledger ← settleHoldLedger i l r
  let _ ← resolve k.id r.requestId true
  let cleared ← select fun db => (db.gatewayKeys.find k.id).getD k
  pure (holdReconciliationResult i ledger settled cleared false)

def reconcileLocked (i : HoldReconciliationInput) (l : UsageLedger) (r : QuotaReservation) (k : GatewayKey) :
    Action HoldReconciliationResult :=
  if (r.status = .finalized ∨ r.status = .released) ∧ k.fence.state = .none then do
    raiseIf (¬reconciliationMatches l.responseMetadata.externalToolAccountingReconciliation i) <|
      fenceConflict "external_tool_accounting_reconciliation_conflict"
    pure (holdReconciliationResult i l r k true)
  else executeReconciliation i l r k

def reconcileHold (i : HoldReconciliationInput) : Action HoldReconciliationResult := do
  validateReconciliationInput i
  if i.execute = false then
    let (ledger,reservation,gatewayKey) ← loadCandidate i.reservationId
    pure (holdReconciliationResult i ledger reservation gatewayKey false)
  else
    let ledgerId ← ledgerIdForReservation i.reservationId
    let ledger ← orRaise (← getUsageRecordByIdForUpdate ledgerId) (holdInvariant "Hold ledger is missing")
    let reservation ← orRaise (← getReservationByIdForUpdate i.reservationId) <|
      holdInvariant "Hold reservation is missing"
    let gatewayKey ← orRaise (← getGatewayKeyForUpdate reservation.gatewayKeyId) <|
      holdInvariant "Hold gateway key is missing"
    let lockedLedgers ← getUsageRecordsByReservationId reservation.id
    raiseIf (lockedLedgers.length ≠ 1 ∨ lockedLedgers.head?.map UsageLedger.id ≠ some ledger.id) <|
      holdInvariant "Reconciliation requires exactly one linked hold ledger"
    reconcileLocked i ledger reservation gatewayKey

/-- An active fence was turned into a hold over the same reservation. -/
structure Holds (i : HoldInput) (db db' : Db) (k : GatewayKey) (r : QuotaReservation) : Prop where
  keys : db.gatewayKeys.Updated k
    (k.withFence ⟨.held,some r.id,some r.requestId,k.fence.acquiredAt,k.fence.expiresAt⟩) db'.gatewayKeys
  reservations : db'.quotaReservations = db.quotaReservations
  ledger : db.usageLedger.Inserted (i.ledger r k) db'.usageLedger
  active : k.fence.state = .active
  reservation : k.fence.reservationId = some r.id
  request : k.fence.requestId = some r.requestId
  here : r ∈ db.quotaReservations
  pending : r.status = .pending
  mode : r.quotaMode = .externalToolFenced
  own : r.gatewayKeyId = k.id
  unlinked : ∀ l ∈ db.usageLedger, l.quotaReservationId ≠ some r.id

theorem placeCases {i s a s'} (ok : (place i).Returns s a s') : s'.db = s.db ∨ ∃ k r, Holds i s.db s'.db k r := by
  simp only [place,validateHoldInput,validatePartialFacts,getReservationByIdForUpdate,getGatewayKeyForUpdate,
    getGatewayKeyByIdForQuotaUpdate,getUsageRecordsByReservationId,returnsBind,returnsRaiseIf,returnsOrRaise,
    returnsSelectOneForUpdate,returnsSelect,returnsIte] at ok
  obtain ⟨_,_,⟨-,rfl⟩,_,_,⟨_,_,⟨-,rfl⟩,-,rfl⟩,_,_,⟨rfl,rfl⟩,r,_,⟨found,rfl⟩,_,_,⟨rfl,rfl⟩,k,_,⟨foundKey,rfl⟩,_,_,
    ⟨rfl,rfl⟩,⟨-,again⟩ | ⟨-,fresh⟩⟩ := ok
  · left
    simp only [placeAgain,validateLockedCandidate,returnsBind,returnsRaiseIf,returnsOrRaise,returnsPure] at again
    obtain ⟨_,_,⟨-,rfl⟩,_,_,⟨-,rfl⟩,_,_,⟨_,_,⟨-,rfl⟩,_,_,⟨-,rfl⟩,_,_,⟨-,rfl⟩,_,_,⟨-,rfl⟩,_,_,⟨-,rfl⟩,-,rfl⟩,_,_,
      ⟨-,rfl⟩,-,rfl⟩ := again
    rfl
  · right
    simp only [placeNew,validateReservationAndFence,setExternalToolFence,returnsBind,returnsRaiseIf,
      returnsCreateUsageRecord,returnsFlushKey,returnsPure,not_not,not_or] at fresh
    obtain ⟨_,_,⟨active,rfl⟩,_,_,⟨_,_,⟨own,rfl⟩,_,_,⟨-,rfl⟩,_,_,⟨⟨mode,pending⟩,rfl⟩,_,_,⟨-,rfl⟩,_,_,⟨reservation,rfl⟩,
      _,_,⟨request,rfl⟩,-,rfl⟩,_,_,⟨unlinked,rfl⟩,_,_,⟨-,rfl⟩,_,_,⟨-,t,inserted,rfl⟩,_,_,⟨-,t',updated,rfl⟩,-,rfl⟩ := fresh
    obtain ⟨here,same⟩ := keyFound.mp foundKey
    obtain ⟨present,-⟩ := reservationFound.mp found
    refine ⟨k,r,updateOk here updated rfl,rfl,insertOk inserted,active,reservation,request,present,pending,mode,
      own.trans same.symm,fun l mem linked => ?_⟩
    exact filterNil unlinked mem (decide_eq_true linked)

def HoldReconciliationInput.charge (i : HoldReconciliationInput) : Amounts :=
  match i.action with
  | .finalizeActual => i.actual
  | .releaseNoCharge => 0

def HoldReconciliationInput.closed (i : HoldReconciliationInput) (r : QuotaReservation) : QuotaReservation :=
  match i.action with
  | .finalizeActual => r.markFinalized i.now
  | .releaseNoCharge => r.markReleased i.now

def HoldReconciliationInput.counted (i : HoldReconciliationInput) (k : GatewayKey) (r : QuotaReservation) : GatewayKey :=
  match i.action with
  | .finalizeActual => k.finalizeReserved r.reserved i.actual i.now
  | .releaseNoCharge => k.subtractReserved r.reserved

def HoldReconciliationInput.settledLedger (i : HoldReconciliationInput) (l : UsageLedger) (r : QuotaReservation) :
    UsageLedger :=
  match i.action with
  | .finalizeActual => l.settleHold .finalized (i.success.getD false) (i.actualCostEur.getD 0)
      (i.actualTotalTokens.getD 0) (terminalMetadata l (i.stored r))
  | .releaseNoCharge => l.settleHold .failed false 0 0 (terminalMetadata l (i.stored r))

theorem heldSettled {i r k s a s'} (foundKey : s.db.gatewayKeys.find r.gatewayKeyId = some k)
    (found : s.db.quotaReservations.find r.id = some r) (pending : r.status = .pending)
    (ok : (settleHeldReservation i r k).Returns s a s') :
    Settled s.db s'.db k (i.counted k r) r (i.closed r) i.charge ∧ s'.db.usageLedger = s.db.usageLedger := by
  unfold settleHeldReservation at ok
  unfold HoldReconciliationInput.counted HoldReconciliationInput.closed HoldReconciliationInput.charge
  cases action : i.action with
  | finalizeActual =>
    simp [action,finalizeReservedCounters,markPendingReservationFinalized] at ok
    obtain ⟨enough,t,keys,-,t',reservations,rfl⟩ := ok
    exact ⟨settledByFinalize foundKey found pending enough closesFinalized reservations keys,rfl⟩
  | releaseNoCharge =>
    simp [action,subtractReservedCounters,markPendingReservationReleased] at ok
    obtain ⟨enough,t,keys,-,t',reservations,rfl⟩ := ok
    exact ⟨settledBySubtract foundKey found pending enough closesReleased reservations keys,rfl⟩

theorem holdLedgerUpdated {i l r s a s'} (here : l ∈ s.db.usageLedger)
    (ok : (settleHoldLedger i l r).Returns s a s') :
    s'.db.gatewayKeys = s.db.gatewayKeys ∧ s'.db.quotaReservations = s.db.quotaReservations ∧
      s.db.usageLedger.Updated l (i.settledLedger l r) s'.db.usageLedger := by
  unfold settleHoldLedger at ok
  unfold HoldReconciliationInput.settledLedger
  cases action : i.action with
  | finalizeActual =>
    simp [action,updateExternalToolHoldLedger] at ok
    obtain ⟨-,t,updated,rfl⟩ := ok
    exact ⟨rfl,rfl,updateOk here updated rfl⟩
  | releaseNoCharge =>
    simp [action,updateExternalToolHoldLedger] at ok
    obtain ⟨-,t,updated,rfl⟩ := ok
    exact ⟨rfl,rfl,updateOk here updated rfl⟩

/-- An operator settled a held reservation and its fence was cleared in the same transaction. -/
structure HoldSettles (i : HoldReconciliationInput) (db db' : Db) (k : GatewayKey) (r : QuotaReservation)
    (l : UsageLedger) : Prop where
  settled : Settled db db' k ((i.counted k r).withFence .clear) r (i.closed r) i.charge
  held : k.fence.state = .held
  reservation : k.fence.reservationId = some r.id
  mode : r.quotaMode = .externalToolFenced
  linked : l.quotaReservationId = some r.id
  named : r.id = i.reservationId
  ledger : db.usageLedger.Updated l (i.settledLedger l r) db'.usageLedger
  exact : exactHoldMetadata l ≠ none
  uncosted : l.actualCostEur = none
  cleared : ∃ mid l', Cleared mid db' (i.counted k r) (i.closed r) l'

theorem countedFence {i : HoldReconciliationInput} {k r} : (i.counted k r).fence = k.fence ∧ (i.counted k r).id = k.id := by
  unfold HoldReconciliationInput.counted
  cases i.action <;> exact ⟨rfl,rfl⟩

theorem closedSame {i : HoldReconciliationInput} {r} : (i.closed r).requestId = r.requestId ∧ (i.closed r).id = r.id := by
  unfold HoldReconciliationInput.closed
  cases i.action <;> exact ⟨rfl,rfl⟩

theorem settledHoldSame {i : HoldReconciliationInput} {l r} : (i.settledLedger l r).requestId = l.requestId ∧
    (i.settledLedger l r).quotaReservationId = l.quotaReservationId := by
  unfold HoldReconciliationInput.settledLedger
  cases i.action <;> exact ⟨rfl,rfl⟩

/-- Clearing the fence after a settlement in one transaction is one movement of the key. -/
theorem Settled.thenCleared {db mid db' k k₁ r r' x l actual} (settled : Settled db mid k k₁ r r' actual)
    (cleared : Cleared mid db' k₁ x l) : Settled db db' k (k₁.withFence .clear) r r' actual := by
  refine ⟨settled.keys.trans cleared.keys,?_,settled.pending,settled.terminal,settled.own,settled.row,settled.enough,
    ?_,Or.inr rfl⟩
  · rw [cleared.reservations]
    exact settled.reservations
  · rw [settled.key]
    rfl

theorem reconcileExecuted {i l r k s a s'} (here : l ∈ s.db.usageLedger) (foundKey : s.db.gatewayKeys.find r.gatewayKeyId = some k)
    (found : s.db.quotaReservations.find i.reservationId = some r)
    (ok : (executeReconciliation i l r k).Returns s a s') : HoldSettles i s.db s'.db k r l := by
  simp only [executeReconciliation,validateLockedCandidate,returnsBind,returnsRaiseIf,returnsSelect,returnsPure,
    not_or,not_not] at ok
  obtain ⟨_,_,⟨_,_,⟨held,rfl⟩,_,_,⟨⟨pending,mode⟩,rfl⟩,_,_,⟨⟨linked,-,reservation,-⟩,rfl⟩,_,_,⟨⟨uncosted,-⟩,rfl⟩,
    _,_,⟨-,rfl⟩,⟨exact,-⟩,rfl⟩,
    _,mid,settle,_,mid',ledger,_,last,resolved,_,_,⟨-,rfl⟩,-,rfl⟩ := ok
  obtain ⟨present,same⟩ := reservationFound.mp found
  obtain ⟨settled,sameLedger⟩ := heldSettled foundKey (reservationFound.mpr ⟨present,rfl⟩) pending settle
  have inMid : l ∈ mid.db.usageLedger := by rw [sameLedger]; exact here
  obtain ⟨sameKeys,sameReservations,updated⟩ := holdLedgerUpdated inMid ledger
  have counted : i.counted k r ∈ mid'.db.gatewayKeys := by rw [sameKeys]; exact settled.keys.memNew
  -- the key row is still held here, so the resolution below either cleared it or raised
  rcases resolveCases resolved with ⟨-,-,x,mem,sameId,idle⟩ | ⟨x,r',l',sameId,sameRequest,-,cleared⟩
  · have one : x = i.counted k r := eqOfKey mem counted (sameId.trans countedFence.2.symm)
    subst one
    rw [countedFence.1,held] at idle
    simp at idle
  · have one : x = i.counted k r := eqOfKey cleared.keys.here counted (sameId.trans countedFence.2.symm)
    subst one
    have closed : i.closed r ∈ mid'.db.quotaReservations := by rw [sameReservations]; exact settled.reservations.memNew
    have two : r' = i.closed r := eqOfUnique cleared.here closed (sameRequest.trans closedSame.1.symm)
    subst two
    have moved : Settled s.db mid'.db k (i.counted k r) r (i.closed r) i.charge := by
      refine ⟨?_,?_,settled.pending,settled.terminal,settled.own,settled.row,settled.enough,settled.key,
        settled.fence⟩
      · rw [sameKeys]; exact settled.keys
      · rw [sameReservations]; exact settled.reservations
    refine ⟨moved.thenCleared cleared,held,reservation,mode,linked,same,?_,exact,uncosted,mid'.db,l',cleared⟩
    rw [cleared.ledger,← sameLedger]
    exact updated

theorem reconciliationInputQuiet {i s a s'} (ok : (validateReconciliationInput i).Returns s a s') : s = s' := by
  unfold validateReconciliationInput validateFinalizeActual validateReleaseNoCharge at ok
  cases action : i.action with
  | finalizeActual =>
    simp only [action,returnsBind,returnsRaiseIf] at ok
    obtain ⟨_,_,⟨-,rfl⟩,_,_,⟨-,rfl⟩,_,_,⟨-,rfl⟩,_,_,⟨-,rfl⟩,_,_,⟨-,rfl⟩,_,_,⟨-,rfl⟩,-,rfl⟩ := ok
    rfl
  | releaseNoCharge =>
    simp only [action,returnsBind,returnsRaiseIf] at ok
    obtain ⟨_,_,⟨-,rfl⟩,_,_,⟨-,rfl⟩,_,_,⟨-,rfl⟩,_,_,⟨-,rfl⟩,-,rfl⟩ := ok
    rfl

theorem lockedCandidateQuiet {l r k s a s'} (ok : (validateLockedCandidate l r k).Returns s a s') : s = s' := by
  simp only [validateLockedCandidate,returnsBind,returnsRaiseIf] at ok
  obtain ⟨_,_,⟨-,rfl⟩,_,_,⟨-,rfl⟩,_,_,⟨-,rfl⟩,_,_,⟨-,rfl⟩,_,_,⟨-,rfl⟩,-,rfl⟩ := ok
  rfl

theorem loadCandidateQuiet {id s a s'} (ok : (loadCandidate id).Returns s a s') : s = s' := by
  simp only [loadCandidate,getUsageRecordsByReservationId,getReservationById,getGatewayKeyById,returnsBind,
    returnsRaiseIf,returnsOrRaise,returnsSelect,returnsPure] at ok
  obtain ⟨_,_,⟨-,rfl⟩,_,_,⟨-,rfl⟩,_,_,⟨-,rfl⟩,_,_,⟨-,rfl⟩,_,_,⟨-,rfl⟩,_,_,⟨-,rfl⟩,_,_,⟨-,rfl⟩,_,_,checked,-,rfl⟩ := ok
  exact lockedCandidateQuiet checked

theorem ledgerIdQuiet {id s a s'} (ok : (ledgerIdForReservation id).Returns s a s') : s = s' := by
  simp only [ledgerIdForReservation,getUsageRecordsByReservationId,returnsBind,returnsRaiseIf,returnsOrRaise,
    returnsSelect,returnsPure] at ok
  obtain ⟨_,_,⟨-,rfl⟩,_,_,⟨-,rfl⟩,_,_,⟨-,rfl⟩,-,rfl⟩ := ok
  rfl

theorem reconcileHoldInner {i s a s'} (ok : (reconcileHold i).Returns s a s') :
    (i.execute = false ∧ s' = s) ∨ i.execute = true ∧ ∃ l r k mid, mid.db = s.db ∧ l ∈ s.db.usageLedger ∧
      s.db.gatewayKeys.find r.gatewayKeyId = some k ∧ s.db.quotaReservations.find i.reservationId = some r ∧
      (reconcileLocked i l r k).Returns mid a s' := by
  simp only [reconcileHold,getUsageRecordByIdForUpdate,getReservationByIdForUpdate,
    getGatewayKeyForUpdate,getGatewayKeyByIdForQuotaUpdate,getUsageRecordsByReservationId,returnsBind,returnsIte,
    returnsRaiseIf,returnsOrRaise,returnsSelect,returnsSelectOneForUpdate,returnsPure] at ok
  obtain ⟨_,_,checked,⟨dry,_,_,loaded,-,rfl⟩ | ⟨execute,_,_,named,_,_,⟨rfl,rfl⟩,l,_,⟨foundLedger,rfl⟩,_,_,⟨rfl,rfl⟩,r,_,
    ⟨found,rfl⟩,_,_,⟨rfl,rfl⟩,k,_,⟨foundKey,rfl⟩,_,_,⟨rfl,rfl⟩,_,_,⟨-,rfl⟩,rest⟩⟩ := ok
  · obtain rfl := reconciliationInputQuiet checked
    obtain rfl := loadCandidateQuiet loaded
    exact .inl ⟨dry,rfl⟩
  · obtain rfl := reconciliationInputQuiet checked
    obtain rfl := ledgerIdQuiet named
    exact .inr ⟨Bool.eq_true_of_not_eq_false execute,l,r,k,((s.lock _).lock _).lock _,rfl,(ledgerFound.mp foundLedger).1,
      foundKey,found,rest⟩

theorem reconcileHoldCases {i s a s'} (ok : (reconcileHold i).Returns s a s') :
    s'.db = s.db ∨ ∃ k r l, HoldSettles i s.db s'.db k r l := by
  rcases reconcileHoldInner ok with ⟨-,rfl⟩ | ⟨-,l,r,k,mid,same,here,foundKey,found,rest⟩
  · exact Or.inl rfl
  rw [← same] at here foundKey found ⊢
  simp only [reconcileLocked,returnsIte,returnsBind,returnsRaiseIf,returnsPure] at rest
  rcases rest with ⟨-,_,_,⟨-,rfl⟩,-,rfl⟩ | ⟨-,executed⟩
  · exact Or.inl rfl
  · exact Or.inr ⟨k,r,l,reconcileExecuted here foundKey found executed⟩
end SlaifGateway.Quota
