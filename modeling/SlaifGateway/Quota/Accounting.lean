import SlaifGateway.Quota.QuotaService

/-! Finalization, failure release, interruption estimates and the durable
provider-completed record. Metered usage and cost reach an operation as the outcome
of `extract_usage` and `compute_actual_cost`; how they are computed is not part of
this module. Fixed-request billing is, because it decides the recorded tokens. -/
namespace SlaifGateway.Quota
open Store Library Library.Tx Library.Table

/-- `ActualUsage` and `ActualCost` of one provider response. -/
structure Bill where
  promptTokens : ℤ
  completionTokens : ℤ
  totalTokens : ℤ
  actualCostEur : ℚ
  actualCostNative : ℚ
  usageRawPresent : Bool
  deriving DecidableEq, Repr

def Bill.amounts (b : Bill) : Amounts := ⟨b.actualCostEur,b.totalTokens,1⟩

structure PricingEstimate where
  estimatedTotalCostEur : ℚ
  requestPrice : Option ℚ
  nativeCurrency : String
  deriving DecidableEq, Repr

def accountingNormalizeEndpoint (value : String) : String :=
  let endpoint := strip value
  if endpoint = "chat.completions" then chatCompletionsEndpoint
  else if endpoint = "audio.speech" then "/v1/audio/speech"
  else if endpoint = "audio.transcriptions" then "/v1/audio/transcriptions"
  else if endpoint = "audio.translations" then "/v1/audio/translations"
  else if endpoint = "realtime.client_secrets" then "/v1/realtime/client_secrets"
  else if endpoint = "responses" then "/v1/responses"
  else endpoint

/-- `_normalize_currency` for its failure; the code it returns is not stored here. -/
def normalizeCurrency (value : String) : Except ServiceError Unit :=
  if blank value then .error (ErrorKind.unsupportedProviderCost.naming "Currency is required" "currency") else .ok ()

/-- `_fixed_request_usage` with `_fixed_request_actual_cost`. -/
def fixedRequestBill (estimate : PricingEstimate) : Except ServiceError Bill :=
  match estimate.requestPrice.filter fun p => 0 ≤ p with
  | none => .error <| ErrorKind.unsupportedProviderCost.naming
      "Native module fixed-request pricing is missing or invalid" "request_price"
  | some requestPrice => do
    normalizeCurrency estimate.nativeCurrency
    pure ⟨0,0,0,estimate.estimatedTotalCostEur,requestPrice,false⟩

/-- What a request's own settlement call carries besides its outcome. -/
structure RequestFacts where
  reservationId : Uuid
  authenticatedKey : AuthenticatedGatewayKey
  route : RouteResolutionResult
  pricingEstimate : PricingEstimate
  requestId : String
  endpoint : String
  streaming : Bool
  finishedAt : Time
  newId : Uuid
  deriving DecidableEq, Repr

def ofExcept {α : Type} : Except ServiceError α → Action α
  | .ok a => pure a
  | .error e => throw e

/-- The errors `extract_usage` and `compute_actual_cost` raise. -/
def MeteringError : Type :=
  { e : ServiceError // e.kind = .usageMissing ∨ e.kind = .invalidUsage ∨ e.kind = .unsupportedProviderCost }

def RequestFacts.bill (f : RequestFacts) (metered : Except MeteringError Bill) : Except ServiceError Bill :=
  if isFixedRequestModuleBilling f.route.providerKind f.endpoint then fixedRequestBill f.pricingEstimate
  else metered.mapError Subtype.val

/-- The ledger columns every settlement of the request fills the same way. -/
def RequestFacts.ledger (f : RequestFacts) (b : Bill) (responseMetadata : ResponseMetadata) : UsageLedger where
  id := f.newId
  requestId := f.requestId
  quotaReservationId := some f.reservationId
  gatewayKeyId := f.authenticatedKey.gatewayKeyId
  endpoint := accountingNormalizeEndpoint f.endpoint
  provider := f.route.provider
  requestedModel := some f.route.requestedModel
  resolvedModel := some f.route.resolvedModel
  streaming := f.streaming
  success := none
  accountingStatus := .pending
  promptTokens := b.promptTokens
  completionTokens := b.completionTokens
  totalTokens := b.totalTokens
  estimatedCostEur := some f.pricingEstimate.estimatedTotalCostEur
  actualCostEur := some b.actualCostEur
  actualCostNative := some b.actualCostNative
  usageRawPresent := b.usageRawPresent
  responseMetadata

structure FinalizedAccountingResult where
  usageLedgerId : Uuid
  reservationId : Uuid
  gatewayKeyId : Uuid
  requestId : String
  estimatedCostEur : ℚ
  actualCostEur : ℚ
  actualCostNative : Option ℚ
  promptTokens : ℤ
  completionTokens : ℤ
  totalTokens : ℤ
  accountingStatus : AccountingStatus
  deriving DecidableEq, Repr

structure ProviderFailureAccountingResult where
  usageLedgerId : Uuid
  reservationId : Uuid
  gatewayKeyId : Uuid
  requestId : String
  released : Bool
  accountingStatus : AccountingStatus
  deriving DecidableEq, Repr

structure ProviderCompletedAccountingRecord where
  usageLedgerId : Uuid
  reservationId : Uuid
  gatewayKeyId : Uuid
  requestId : String
  provider : String
  requestedModel : Option String
  resolvedModel : Option String
  endpoint : String
  promptTokens : ℤ
  completionTokens : ℤ
  totalTokens : ℤ
  estimatedCostEur : ℚ
  computedActualCostEur : Option ℚ
  accountingStatus : AccountingStatus
  deriving DecidableEq, Repr

structure FinalizationRecoveryResult where
  usageLedgerId : Uuid
  reservationId : Uuid
  previousStatus : AccountingStatus
  newStatus : AccountingStatus
  needsReconciliation : Bool
  deriving DecidableEq, Repr

def lockedPendingReservation (reservationId : Uuid) (key : AuthenticatedGatewayKey) : Action QuotaReservation := do
  let reservation ← orRaise (← getReservationByIdForUpdate reservationId) <|
    ErrorKind.reservationFinalization.saying "Quota reservation was not found"
  raiseIf (reservation.gatewayKeyId ≠ key.gatewayKeyId) <|
    ErrorKind.reservationFinalization.saying "Quota reservation does not belong to gateway key"
  raiseIf (reservation.status ≠ .pending) ErrorKind.reservationAlreadyFinalized.error
  pure reservation

def lockedFinalizationKey (key : AuthenticatedGatewayKey) : Action GatewayKey := do
  orRaise (← getGatewayKeyByIdForQuotaUpdate key.gatewayKeyId) <|
    ErrorKind.reservationFinalization.saying "Gateway key was not found during finalization"

/-- `except Exception as exc: raise LedgerWriteError() from exc`. -/
def orLedgerWriteError {α : Type} (x : Action α) : Action α := relabel (fun _ => ErrorKind.ledgerWrite.error) x

def finalizedResult (f : RequestFacts) (ledger : UsageLedger) (b : Bill) (native : Option ℚ) :
    FinalizedAccountingResult where
  usageLedgerId := ledger.id
  reservationId := f.reservationId
  gatewayKeyId := f.authenticatedKey.gatewayKeyId
  requestId := f.requestId
  estimatedCostEur := f.pricingEstimate.estimatedTotalCostEur
  actualCostEur := b.actualCostEur
  actualCostNative := native
  promptTokens := b.promptTokens
  completionTokens := b.completionTokens
  totalTokens := b.totalTokens
  accountingStatus := ledger.accountingStatus

structure FinalizeInput where
  facts : RequestFacts
  metered : Except MeteringError Bill
  providerCompletedUsageLedgerId : Option Uuid

def finalizedMetadata : ResponseMetadata :=
  { ResponseMetadata.plain true with recoveryState := some .finalized, needsReconciliation := some false }

def markProviderCompletedLedgerFinalized (usageLedgerId : Uuid) : Action UsageLedger :=
  orLedgerWriteError <| markProviderCompletedRecordFinalized usageLedgerId finalizedMetadata

/-- The ledger half of `finalize_successful_response`. -/
def finalizeLedger (i : FinalizeInput) (bill : Bill) : Action UsageLedger :=
  match i.providerCompletedUsageLedgerId with
  | some usageLedgerId => markProviderCompletedLedgerFinalized usageLedgerId
  | none => orLedgerWriteError <| createSuccessRecord (i.facts.ledger bill (.plain true))

def finalizeSuccessfulResponse (i : FinalizeInput) : Action FinalizedAccountingResult := do
  let f := i.facts
  let reservation ← lockedPendingReservation f.reservationId f.authenticatedKey
  let gatewayKey ← lockedFinalizationKey f.authenticatedKey
  let bill ← ofExcept (f.bill i.metered)
  let _ ← finalizeReservedCounters gatewayKey reservation.reserved bill.amounts f.finishedAt
  let _ ← markPendingReservationFinalized reservation f.finishedAt
  let ledger ← finalizeLedger i bill
  pure (finalizedResult f ledger bill (some bill.actualCostNative))

structure FinalizeCustomInput where
  facts : RequestFacts
  bill : Bill
  nativeCurrency : String
  /-- `response_metadata_extra`, merged over the standard keys. -/
  responseMetadataExtra : ResponseMetadata

def FinalizeCustomInput.ledger (i : FinalizeCustomInput) : UsageLedger :=
  i.facts.ledger i.bill { i.responseMetadataExtra with furtherKeys := true }

def finalizeSuccessfulCustomResponse (i : FinalizeCustomInput) : Action FinalizedAccountingResult := do
  let f := i.facts
  let reservation ← lockedPendingReservation f.reservationId f.authenticatedKey
  let gatewayKey ← lockedFinalizationKey f.authenticatedKey
  let _ ← finalizeReservedCounters gatewayKey reservation.reserved i.bill.amounts f.finishedAt
  let _ ← markPendingReservationFinalized reservation f.finishedAt
  ofExcept (normalizeCurrency i.nativeCurrency)
  let ledger ← orLedgerWriteError <| createSuccessRecord i.ledger
  pure (finalizedResult f ledger i.bill (some i.bill.actualCostNative))

structure RecordInput where
  facts : RequestFacts
  metered : Except MeteringError Bill

/-- The durable row before finalization: not marked for reconciliation. -/
def pendingMetadata : ResponseMetadata :=
  { ResponseMetadata.plain true with
    recoveryState := some .providerCompletedFinalizationPending, needsReconciliation := some false }

def completedRecord (f : RequestFacts) (l : UsageLedger) : ProviderCompletedAccountingRecord where
  usageLedgerId := l.id
  reservationId := f.reservationId
  gatewayKeyId := f.authenticatedKey.gatewayKeyId
  requestId := f.requestId
  provider := l.provider
  requestedModel := l.requestedModel
  resolvedModel := l.resolvedModel
  endpoint := l.endpoint
  promptTokens := l.promptTokens
  completionTokens := l.completionTokens
  totalTokens := l.totalTokens
  estimatedCostEur := l.estimatedCostEur.getD 0
  computedActualCostEur := l.actualCostEur
  accountingStatus := l.accountingStatus

def recordProviderCompletedBeforeFinalization (i : RecordInput) : Action ProviderCompletedAccountingRecord := do
  let f := i.facts
  let reservation ← orRaise (← getReservationById f.reservationId) <|
    ErrorKind.finalizationRecoveryNotSupported.saying "Quota reservation was not found"
  raiseIf (reservation.gatewayKeyId ≠ f.authenticatedKey.gatewayKeyId) <|
    ErrorKind.finalizationRecoveryNotSupported.saying "Quota reservation does not belong to gateway key"
  raiseIf (reservation.status ≠ .pending) <|
    ErrorKind.finalizationRecoveryNotSupported.saying "Quota reservation is not pending"
  let bill ← ofExcept (f.bill i.metered)
  match ← getUsageRecordByRequestId f.requestId with
  | some existing => pure (completedRecord f existing)
  | none =>
    let ledger ← relabel (fun _ => ErrorKind.providerCompletionRecord.error) <|
      createProviderCompletedRecord (f.ledger bill pendingMetadata)
    pure (completedRecord f ledger)

def failedMetadata (m : ResponseMetadata) : ResponseMetadata :=
  { m with
    recoveryState := some .providerCompletedFinalizationFailed
    needsReconciliation := some true
    furtherKeys := true }

def markProviderCompletedFinalizationFailed (usageLedgerId reservationId : Uuid) :
    Action FinalizationRecoveryResult := do
  let row ← orRaise (← getUsageRecordById usageLedgerId) <|
    ErrorKind.accountingFinalizationRecovery.saying "Provider completion record was not found"
  raiseIf (row.quotaReservationId ≠ some reservationId) <|
    ErrorKind.accountingFinalizationRecovery.saying "Provider completion record mismatch"
  let marked ← relabel (fun _ => ErrorKind.accountingFinalizationRecovery.error) <|
    markProviderCompletedRecordFinalizationFailed usageLedgerId (failedMetadata row.responseMetadata)
  pure ⟨marked.id,reservationId,row.accountingStatus,marked.accountingStatus,true⟩

structure FailureInput where
  facts : RequestFacts
  providerDiagnostic : Bool

def FailureInput.ledger (i : FailureInput) : UsageLedger :=
  i.facts.ledger ⟨0,0,0,0,0,false⟩ (.plain i.providerDiagnostic)

/-- `_create_failure_ledger`. -/
def createFailureLedger (i : FailureInput) : Action UsageLedger := orLedgerWriteError do
  ofExcept (normalizeCurrency i.facts.pricingEstimate.nativeCurrency)
  createFailureRecord i.ledger

/-- The body of `if reservation.status == "pending":` in `record_provider_failure_and_release`. -/
def releaseIfPending (k : GatewayKey) (r : QuotaReservation) (releasedAt : Time) : Action Unit :=
  if r.status = .pending then do
    let _ ← subtractReservedCounters k r.reserved
    let _ ← markPendingReservationReleased r releasedAt
    pure ()
  else pure ()

def recordProviderFailureAndRelease (i : FailureInput) : Action ProviderFailureAccountingResult := do
  let f := i.facts
  let reservation ← orRaise (← getReservationByIdForUpdate f.reservationId) <|
    ErrorKind.reservationFinalization.saying "Quota reservation was not found"
  raiseIf (reservation.gatewayKeyId ≠ f.authenticatedKey.gatewayKeyId) <|
    ErrorKind.reservationFinalization.saying "Quota reservation does not belong to gateway key"
  let gatewayKey ← orRaise (← getGatewayKeyByIdForQuotaUpdate f.authenticatedKey.gatewayKeyId) <|
    ErrorKind.reservationFinalization.saying "Gateway key was not found during release"
  releaseIfPending gatewayKey reservation f.finishedAt
  let ledger ← createFailureLedger i
  pure ⟨ledger.id,reservation.id,f.authenticatedKey.gatewayKeyId,f.requestId,reservation.status = .pending,
    ledger.accountingStatus⟩

structure InterruptedInput where
  facts : RequestFacts
  estimatedInputTokens : ℤ
  estimatedOutputTokens : ℤ
  estimatedTotalTokens : ℤ
  estimatedCostEur : ℚ
  responseMetadata : ResponseMetadata

def nonNegativeInt (value : ℤ) (fieldName : String) : Action ℤ := do
  raiseIf (value < 0) <| ErrorKind.invalidUsage.naming "Estimated token counts must be non-negative" fieldName
  pure value

def nonNegativeDecimal (value : ℚ) (fieldName : String) : Action ℚ := do
  raiseIf (value < 0) <| ErrorKind.invalidUsage.naming "Estimated cost must be non-negative" fieldName
  pure value

def InterruptedInput.bill (i : InterruptedInput) : Bill :=
  let inputTokens := min i.estimatedInputTokens i.estimatedTotalTokens
  let outputTokens := min i.estimatedOutputTokens (max (i.estimatedTotalTokens - inputTokens) 0)
  ⟨inputTokens,outputTokens,i.estimatedTotalTokens,i.estimatedCostEur,0,false⟩

/-- The row of an interrupted stream: estimated, not successful, without a native cost. -/
def InterruptedInput.ledger (i : InterruptedInput) : UsageLedger :=
  { i.facts.ledger i.bill { i.responseMetadata with furtherKeys := true } with
    streaming := true
    success := some false
    accountingStatus := .estimated
    estimatedCostEur := some i.estimatedCostEur
    actualCostNative := none }

def recordStreamingInterruptedEstimate (i : InterruptedInput) : Action FinalizedAccountingResult := do
  let f := i.facts
  let reservation ← lockedPendingReservation f.reservationId f.authenticatedKey
  let gatewayKey ← lockedFinalizationKey f.authenticatedKey
  let _ ← nonNegativeInt i.estimatedTotalTokens "estimated_total_tokens"
  let _ ← nonNegativeInt i.estimatedInputTokens "estimated_input_tokens"
  let _ ← nonNegativeInt i.estimatedOutputTokens "estimated_output_tokens"
  let _ ← nonNegativeDecimal i.estimatedCostEur "estimated_cost_eur"
  let _ ← finalizeReservedCounters gatewayKey reservation.reserved i.bill.amounts f.finishedAt
  let _ ← markPendingReservationFinalized reservation f.finishedAt
  let ledger ← orLedgerWriteError do
    ofExcept (normalizeCurrency f.pricingEstimate.nativeCurrency)
    createUsageRecord i.ledger
  pure (finalizedResult f ledger i.bill none)

@[simp] theorem returnsOfExcept {α : Type} {o : Except ServiceError α} {s a s'} :
    (ofExcept o).Returns s a s' ↔ o = .ok a ∧ s = s' := by
  cases o <;> simp [ofExcept]

@[simp] theorem returnsLockedPendingReservation {id key s r s'} :
    (lockedPendingReservation id key).Returns s r s' ↔ s.db.quotaReservations.find id = some r ∧
      r.gatewayKeyId = key.gatewayKeyId ∧ r.status = .pending ∧ s.lock [.reservation r.id] = s' := by
  simp [lockedPendingReservation,getReservationByIdForUpdate]
  grind

@[simp] theorem returnsLockedFinalizationKey {key s k s'} :
    (lockedFinalizationKey key).Returns s k s' ↔
      s.db.gatewayKeys.find key.gatewayKeyId = some k ∧ s.lock [.gatewayKey k.id] = s' := by
  simp [lockedFinalizationKey,getGatewayKeyByIdForQuotaUpdate]

theorem finalizeLedgerCases {i bill s l s'} (ok : (finalizeLedger i bill).Returns s l s') :
    s'.db.gatewayKeys = s.db.gatewayKeys ∧ s'.db.quotaReservations = s.db.quotaReservations ∧
      ((i.providerCompletedUsageLedgerId = none ∧ s.db.usageLedger.Inserted (i.facts.ledger bill (.plain true)).asSuccess s'.db.usageLedger) ∨
        ∃ l, i.providerCompletedUsageLedgerId = some l.id ∧
          s.db.usageLedger.Updated l (l.markFinalized finalizedMetadata) s'.db.usageLedger) := by
  cases carried : i.providerCompletedUsageLedgerId with
  | none =>
    simp [finalizeLedger,carried,orLedgerWriteError,createSuccessRecord] at ok
    obtain ⟨-,t,inserted,rfl⟩ := ok
    exact ⟨rfl,rfl,Or.inl ⟨rfl,insertOk inserted⟩⟩
  | some id =>
    simp [finalizeLedger,carried,orLedgerWriteError,markProviderCompletedLedgerFinalized,
      markProviderCompletedRecordFinalized,getUsageRecordById] at ok
    obtain ⟨row,found,-,t,updated,rfl⟩ := ok
    obtain ⟨here,rfl⟩ := ledgerFound.mp found
    exact ⟨rfl,rfl,Or.inr ⟨row,rfl,updateOk here updated rfl⟩⟩

theorem finalizeSettled {i s a s'} (ok : (finalizeSuccessfulResponse i).Returns s a s') :
    ∃ k r bill, i.facts.bill i.metered = .ok bill ∧ r.id = i.facts.reservationId ∧
      r.gatewayKeyId = i.facts.authenticatedKey.gatewayKeyId ∧
      Settled s.db s'.db k (k.finalizeReserved r.reserved bill.amounts i.facts.finishedAt) r
        (r.markFinalized i.facts.finishedAt) bill.amounts ∧
      ((i.providerCompletedUsageLedgerId = none ∧ s.db.usageLedger.Inserted (i.facts.ledger bill (.plain true)).asSuccess s'.db.usageLedger) ∨
        ∃ l, i.providerCompletedUsageLedgerId = some l.id ∧
          s.db.usageLedger.Updated l (l.markFinalized finalizedMetadata) s'.db.usageLedger) := by
  simp [finalizeSuccessfulResponse,finalizeReservedCounters,markPendingReservationFinalized] at ok
  obtain ⟨r,⟨found,own,pending⟩,k,foundKey,bill,billed,enough,t,keys,t',reservations,l,ledger,-⟩ := ok
  obtain ⟨sameKeys,sameReservations,ledger⟩ := finalizeLedgerCases ledger
  rw [← own] at foundKey
  refine ⟨k,r,bill,billed,(reservationFound.mp found).2,own,?_,ledger⟩
  refine settledByFinalize foundKey found pending enough closesFinalized ?_ ?_
  · rw [sameReservations]; exact reservations
  · rw [sameKeys]; exact keys

theorem finalizeCustomSettled {i s a s'} (ok : (finalizeSuccessfulCustomResponse i).Returns s a s') :
    ∃ k r, r.id = i.facts.reservationId ∧ r.gatewayKeyId = i.facts.authenticatedKey.gatewayKeyId ∧
      Settled s.db s'.db k (k.finalizeReserved r.reserved i.bill.amounts i.facts.finishedAt) r
        (r.markFinalized i.facts.finishedAt) i.bill.amounts ∧
      s.db.usageLedger.Inserted i.ledger.asSuccess s'.db.usageLedger := by
  simp [finalizeSuccessfulCustomResponse,finalizeReservedCounters,markPendingReservationFinalized,
    orLedgerWriteError,createSuccessRecord] at ok
  obtain ⟨r,⟨found,own,pending⟩,k,foundKey,enough,t,keys,t',reservations,-,⟨t'',inserted,rfl⟩,-⟩ := ok
  rw [← own] at foundKey
  exact ⟨k,r,(reservationFound.mp found).2,own,
    settledByFinalize foundKey found pending enough closesFinalized reservations keys,insertOk inserted⟩

theorem interruptedSettled {i s a s'} (ok : (recordStreamingInterruptedEstimate i).Returns s a s') :
    ∃ k r, r.id = i.facts.reservationId ∧ r.gatewayKeyId = i.facts.authenticatedKey.gatewayKeyId ∧
      Settled s.db s'.db k (k.finalizeReserved r.reserved i.bill.amounts i.facts.finishedAt) r
        (r.markFinalized i.facts.finishedAt) i.bill.amounts ∧
      s.db.usageLedger.Inserted i.ledger s'.db.usageLedger := by
  simp [recordStreamingInterruptedEstimate,finalizeReservedCounters,markPendingReservationFinalized,
    orLedgerWriteError,nonNegativeInt,nonNegativeDecimal] at ok
  obtain ⟨r,⟨found,own,pending⟩,k,foundKey,-,-,-,-,enough,t,keys,t',reservations,⟨-,t'',inserted,rfl⟩,-⟩ := ok
  rw [← own] at foundKey
  exact ⟨k,r,(reservationFound.mp found).2,own,
    settledByFinalize foundKey found pending enough closesFinalized reservations keys,insertOk inserted⟩

/-- A failure always writes its row; the counters move only if the reservation was still pending. -/
theorem failureCases {i s a s'} (ok : (recordProviderFailureAndRelease i).Returns s a s') :
    ∃ r, r ∈ s.db.quotaReservations ∧ r.id = i.facts.reservationId ∧
      r.gatewayKeyId = i.facts.authenticatedKey.gatewayKeyId ∧
      s.db.usageLedger.Inserted i.ledger.asFailure s'.db.usageLedger ∧
      ((∃ k, Settled s.db s'.db k (k.subtractReserved r.reserved) r (r.markReleased i.facts.finishedAt) 0) ∨
        (r.status ≠ .pending ∧ s'.db.gatewayKeys = s.db.gatewayKeys ∧
          s'.db.quotaReservations = s.db.quotaReservations)) := by
  simp [recordProviderFailureAndRelease,getReservationByIdForUpdate,getGatewayKeyByIdForQuotaUpdate,
    createFailureLedger,orLedgerWriteError,createFailureRecord,releaseIfPending,subtractReservedCounters,
    markPendingReservationReleased] at ok
  obtain ⟨r,found,own,k,foundKey,mid,released,⟨-,t'',inserted,rfl⟩,-⟩ := ok
  obtain ⟨here,same⟩ := reservationFound.mp found
  rw [← own] at foundKey
  rcases released with ⟨pending,enough,t,keys,t',reservations,rfl⟩ | ⟨closed,rfl⟩
  · exact ⟨r,here,same,own,insertOk inserted,
      Or.inl ⟨k,settledBySubtract foundKey found pending enough closesReleased reservations keys⟩⟩
  · exact ⟨r,here,same,own,insertOk inserted,Or.inr ⟨closed,rfl,rfl⟩⟩

/-- The record needs a pending reservation; a retry finds its row and writes nothing. -/
theorem recordCases {i s a s'} (ok : (recordProviderCompletedBeforeFinalization i).Returns s a s') :
    ∃ r, r ∈ s.db.quotaReservations ∧ r.id = i.facts.reservationId ∧ r.status = .pending ∧
      r.gatewayKeyId = i.facts.authenticatedKey.gatewayKeyId ∧ (s'.db = s.db ∨ ∃ bill, i.facts.bill i.metered = .ok bill ∧
      s'.db.gatewayKeys = s.db.gatewayKeys ∧ s'.db.quotaReservations = s.db.quotaReservations ∧
      s.db.usageLedger.Inserted (i.facts.ledger bill pendingMetadata).asProviderCompleted s'.db.usageLedger) := by
  simp [recordProviderCompletedBeforeFinalization,getReservationById,getUsageRecordByRequestId,
    createProviderCompletedRecord] at ok
  obtain ⟨r,found,own,pending,bill,billed,last⟩ := ok
  obtain ⟨here,same⟩ := reservationFound.mp found
  refine ⟨r,here,same,pending,own,?_⟩
  cases present : s.db.usageLedger.findUnique i.facts.requestId with
  | some existing =>
    simp [present] at last
    exact Or.inl (by rw [last.2])
  | none =>
    simp [present] at last
    obtain ⟨⟨t,inserted,rfl⟩,-⟩ := last
    exact Or.inr ⟨bill,billed,rfl,rfl,insertOk inserted⟩

theorem markFailedUpdated {ledgerId reservationId s a s'}
    (ok : (markProviderCompletedFinalizationFailed ledgerId reservationId).Returns s a s') :
    s'.db.gatewayKeys = s.db.gatewayKeys ∧ s'.db.quotaReservations = s.db.quotaReservations ∧
      ∃ l, l.id = ledgerId ∧ l.quotaReservationId = some reservationId ∧
        s.db.usageLedger.Updated l (l.markFinalizationFailed (failedMetadata l.responseMetadata)) s'.db.usageLedger := by
  simp [markProviderCompletedFinalizationFailed,markProviderCompletedRecordFinalizationFailed,
    getUsageRecordById] at ok
  obtain ⟨l,found,linked,row,⟨again,t,updated,rfl⟩,-⟩ := ok
  cases Option.some.inj (found.symm.trans again)
  obtain ⟨here,same⟩ := ledgerFound.mp found
  exact ⟨rfl,rfl,l,same,linked,updateOk here updated rfl⟩
end SlaifGateway.Quota
