import SlaifGateway.Quota.Accounting

/-! Reconciliation of expired pending reservations, one at a time and as the worker's
batch in one transaction, and of provider-completed recovery rows. Audit rows are
appended by the source and never read back; they are absent here. -/
namespace SlaifGateway.Quota
open Store Library Library.Tx Library.Table

structure ReservationReconciliationResult where
  reservationId : Uuid
  gatewayKeyId : Uuid
  requestId : String
  previousStatus : ReservationStatus
  newStatus : ReservationStatus
  released : Amounts
  ledgerCreated : Bool
  dryRun : Bool
  deriving DecidableEq, Repr

structure ReservationReconciliationSummary where
  checkedCount : Nat
  candidateCount : Nat
  reconciledCount : Nat
  skippedCount : Nat
  dryRun : Bool
  results : List ReservationReconciliationResult
  deriving DecidableEq, Repr

structure ProviderCompletedReconciliationResult where
  usageLedgerId : Uuid
  reservationId : Uuid
  gatewayKeyId : Uuid
  requestId : String
  previousAccountingStatus : AccountingStatus
  newAccountingStatus : AccountingStatus
  reservationStatus : ReservationStatus
  usedCostEur : Option ℚ
  usedTokens : ℤ
  reconciled : Bool
  dryRun : Bool
  deriving DecidableEq, Repr

/-- `except QuotaCounterInvariantError as exc: raise Kind(exc.safe_message, param=exc.param)`. -/
def wrapCounterInvariant (kind : ErrorKind) (e : ServiceError) : ServiceError :=
  if e.kind = .quotaCounterInvariant then kind.wrapping e else e

/-- The zero-cost row of `_create_expired_ledger_if_absent`. -/
def expiredLedger (r : QuotaReservation) (newId : Uuid) : UsageLedger where
  id := newId
  requestId := r.requestId
  quotaReservationId := some r.id
  gatewayKeyId := r.gatewayKeyId
  endpoint := r.endpoint
  provider := (r.provider.filter fun p => p ≠ "").getD "unknown"
  requestedModel := r.requestedModel
  resolvedModel := r.resolvedModel
  streaming := r.streaming.getD false
  success := none
  accountingStatus := .pending
  promptTokens := 0
  completionTokens := 0
  totalTokens := 0
  estimatedCostEur := some r.reserved.costEur
  actualCostEur := some 0
  actualCostNative := some 0
  usageRawPresent := false
  responseMetadata := .plain true

def createExpiredLedgerIfAbsent (r : QuotaReservation) (newId : Uuid) : Action Bool := do
  match ← getUsageRecordByRequestId r.requestId with
  | some _ => pure false
  | none =>
    let _ ← createFailureRecord (expiredLedger r newId)
    pure true

def reconciliationResult (r : QuotaReservation) (previousStatus : ReservationStatus) (ledgerCreated dryRun : Bool) :
    ReservationReconciliationResult :=
  ⟨r.id,r.gatewayKeyId,r.requestId,previousStatus,r.status,r.reserved,ledgerCreated,dryRun⟩

/-- The row still advertises a provider-completed finalization to repair. -/
def UsageLedger.needsReconciliation (l : UsageLedger) : Bool := l.responseMetadata.needsReconciliation = some true

def reconcileExpiredPendingReservation (reservationId : Uuid) (now : Time) (dryRun : Bool) (newId : Uuid) :
    Action ReservationReconciliationResult := do
  let reservation ← orRaise (← getReservationByIdForUpdate reservationId) ErrorKind.staleReservationNotFound.error
  raiseIf (reservation.status ≠ .pending) ErrorKind.reservationNotPending.error
  raiseIf (now < reservation.expiresAt) ErrorKind.reservationNotExpired.error
  raiseIf (reservation.quotaMode = .externalToolFenced) <| ErrorKind.reconciliationInvariant.saying <|
    "External-tool fenced reservations are never released by the ordinary stale-reservation reconciliation path; " ++
    "the fence resolution path owns their settlement"
  let existingLedger ← getUsageRecordByRequestId reservation.requestId
  raiseIf (dryRun = false ∧ existingLedger.any UsageLedger.needsReconciliation) <|
    ErrorKind.reconciliationInvariant.saying <|
      "Provider completed before accounting finalization failed; do not release as zero-cost stale reservation"
  if dryRun then pure (reconciliationResult reservation reservation.status false true)
  else
    let gatewayKey ← orRaise (← getGatewayKeyByIdForQuotaUpdate reservation.gatewayKeyId) <|
      ErrorKind.reconciliationInvariant.saying "Gateway key was not found during reconciliation"
    let _ ← relabel (wrapCounterInvariant .reconciliationInvariant) <|
      subtractReservedCounters gatewayKey reservation.reserved
    let expired ← markPendingReservationExpired reservation now
    let ledgerCreated ← createExpiredLedgerIfAbsent expired newId
    pure (reconciliationResult expired reservation.status ledgerCreated false)

/-- The loop over candidates; fenced ones are skipped for operator review. -/
def reconcileCandidates (now : Time) (dryRun : Bool) (newId : Uuid → Uuid) :
    List QuotaReservation → Action (List ReservationReconciliationResult)
  | [] => pure []
  | candidate :: rest =>
    if candidate.quotaMode = .externalToolFenced then reconcileCandidates now dryRun newId rest
    else do
      let result ← reconcileExpiredPendingReservation candidate.id now dryRun (newId candidate.id)
      let results ← reconcileCandidates now dryRun newId rest
      pure (result :: results)

def reconcileExpiredPendingReservations (now : Time) (limit : Nat) (dryRun : Bool) (newId : Uuid → Uuid) :
    Action ReservationReconciliationSummary := do
  let candidates ← listExpiredPendingReservations now limit
  let results ← reconcileCandidates now dryRun newId candidates
  pure { checkedCount := candidates.length
         candidateCount := candidates.length
         reconciledCount := if dryRun then 0 else results.length
         skippedCount := candidates.countP fun r => r.quotaMode = .externalToolFenced
         dryRun
         results }

def validateProviderCompletedLedger (l : UsageLedger) : Action Unit := do
  raiseIf (l.responseMetadata.needsReconciliation ≠ some true) <|
    ErrorKind.providerCompletedRecoveryNotRepairable.saying "Recovery row is not marked for reconciliation"
  raiseIf (l.responseMetadata.recoveryState ≠ some .providerCompletedFinalizationFailed) <|
    ErrorKind.providerCompletedRecoveryNotRepairable.saying "Recovery row has an unsupported recovery state"
  raiseIf (l.quotaReservationId = none) <|
    ErrorKind.providerCompletedRecoveryMetadataMissing.saying "Recovery row is missing reservation metadata"
  raiseIf (l.provider = "" ∨ l.endpoint = "") <|
    ErrorKind.providerCompletedRecoveryMetadataMissing.saying "Recovery row is missing provider metadata"
  raiseIf (l.totalTokens ≤ 0) <|
    ErrorKind.providerCompletedRecoveryMetadataMissing.saying "Recovery row has no final usage tokens"
  raiseIf (l.estimatedCostEur = none ∨ l.actualCostEur = none) <|
    ErrorKind.providerCompletedRecoveryMetadataMissing.saying "Recovery row is missing cost metadata"
  raiseIf (∃ c ∈ l.actualCostEur, c ≤ 0) <|
    ErrorKind.providerCompletedRecoveryMetadataMissing.saying "Recovery row has no positive actual cost"

/-- `_reconciled_metadata`. -/
def reconciledMetadata (m : ResponseMetadata) : ResponseMetadata :=
  { m with
    needsReconciliation := some false
    recoveryState := some .providerCompletedReconciled
    furtherKeys := true }

/-- What a ledger row says was used: its actual cost and tokens, and one request. -/
def UsageLedger.actual (l : UsageLedger) : Amounts := ⟨l.actualCostEur.getD 0,l.totalTokens,1⟩

def providerCompletedResult (l : UsageLedger) (r : QuotaReservation) (previousAccountingStatus : AccountingStatus)
    (reconciled dryRun : Bool) : ProviderCompletedReconciliationResult :=
  ⟨l.id,r.id,l.gatewayKeyId,l.requestId,previousAccountingStatus,l.accountingStatus,r.status,l.actualCostEur,
    l.totalTokens,reconciled,dryRun⟩

def maybeExistingLedger : Option Uuid → Action (Option UsageLedger)
  | some usageLedgerId => getUsageRecordById usageLedgerId
  | none => pure none

/-- The branch `if ledger is None`, which always raises. -/
def providerCompletedRecoveryMissing (usageLedgerId : Option Uuid) : Action ProviderCompletedReconciliationResult := do
  let maybeExisting ← maybeExistingLedger usageLedgerId
  raiseIf (∃ l ∈ maybeExisting, l.accountingStatus = .finalized)
    ErrorKind.providerCompletedRecoveryAlreadyReconciled.error
  throw ErrorKind.providerCompletedRecoveryNotFound.error

def reconcileProviderCompletedLedger (ledger : UsageLedger) (dryRun : Bool) (now : Time) :
    Action ProviderCompletedReconciliationResult := do
  validateProviderCompletedLedger ledger
  let quotaReservationId ← orRaise ledger.quotaReservationId <|
    ErrorKind.providerCompletedRecoveryMetadataMissing.saying "Recovery row has no quota reservation"
  let reservation ← orRaise (← getReservationByIdForUpdate quotaReservationId) <|
    ErrorKind.providerCompletedRecoveryNotRepairable.saying "Quota reservation was not found"
  raiseIf (reservation.id ≠ quotaReservationId) <|
    ErrorKind.providerCompletedRecoveryInvariant.saying "Recovery row reservation mismatch"
  raiseIf (reservation.gatewayKeyId ≠ ledger.gatewayKeyId) <|
    ErrorKind.providerCompletedRecoveryInvariant.saying "Recovery row gateway key mismatch"
  raiseIf (reservation.status ≠ .pending) <|
    ErrorKind.providerCompletedRecoveryNotRepairable.saying "Quota reservation is not pending"
  if dryRun then pure (providerCompletedResult ledger reservation ledger.accountingStatus false true)
  else
    let gatewayKey ← orRaise (← getGatewayKeyByIdForQuotaUpdate ledger.gatewayKeyId) <|
      ErrorKind.providerCompletedRecoveryInvariant.saying "Gateway key was not found"
    let _ ← relabel (wrapCounterInvariant .providerCompletedRecoveryInvariant) <|
      finalizeReservedCounters gatewayKey reservation.reserved (UsageLedger.actual ledger) now
    let finalized ← markPendingReservationFinalized reservation now
    let reconciled ← markProviderCompletedReconciled ledger.id (reconciledMetadata ledger.responseMetadata)
    pure (providerCompletedResult reconciled finalized ledger.accountingStatus true false)

def reconcileProviderCompletedRecovery (usageLedgerId reservationId : Option Uuid) (dryRun : Bool) (now : Time) :
    Action ProviderCompletedReconciliationResult := do
  raiseIf (usageLedgerId.isNone = reservationId.isNone) <|
    ErrorKind.providerCompletedRecoveryNotRepairable.saying "Provide exactly one of usage_ledger_id or reservation_id"
  match ← getProviderCompletedRecoveryRecordForUpdate usageLedgerId reservationId with
  | none => providerCompletedRecoveryMissing usageLedgerId
  | some ledger => reconcileProviderCompletedLedger ledger dryRun now

/-- One stale reservation ends expired at zero cost. -/
structure Expires (now : Time) (db db' : Db) (k : GatewayKey) (r : QuotaReservation) : Prop where
  settled : Settled db db' k (k.subtractReserved r.reserved) r (r.markExpired now) 0
  due : r.expiresAt ≤ now
  ordinary : r.quotaMode ≠ .externalToolFenced
  unmarked : ∀ l ∈ db.usageLedger, l.requestId = r.requestId → UsageLedger.needsReconciliation l = false
  ledger : (∃ l ∈ db.usageLedger, l.requestId = r.requestId) ∧ db'.usageLedger = db.usageLedger ∨
    ∃ newId, db.usageLedger.Inserted (expiredLedger r newId).asFailure db'.usageLedger

theorem expiredLedgerCases {r newId s a s'} (ok : (createExpiredLedgerIfAbsent r newId).Returns s a s') :
    s'.db.gatewayKeys = s.db.gatewayKeys ∧ s'.db.quotaReservations = s.db.quotaReservations ∧
      ((∃ l ∈ s.db.usageLedger, l.requestId = r.requestId) ∧ s'.db.usageLedger = s.db.usageLedger ∨
        s.db.usageLedger.Inserted (expiredLedger r newId).asFailure s'.db.usageLedger) := by
  simp [createExpiredLedgerIfAbsent,getUsageRecordByRequestId,createFailureRecord] at ok
  cases present : s.db.usageLedger.findUnique r.requestId with
  | some l =>
    simp [present] at ok
    obtain ⟨-,rfl⟩ := ok
    exact ⟨rfl,rfl,Or.inl ⟨⟨l,requestLedgerFound.mp present⟩,rfl⟩⟩
  | none =>
    simp [present] at ok
    obtain ⟨⟨t,inserted,rfl⟩,-⟩ := ok
    exact ⟨rfl,rfl,Or.inr (insertOk inserted)⟩

theorem expiredCases {id now dryRun newId s a s'}
    (ok : (reconcileExpiredPendingReservation id now dryRun newId).Returns s a s') :
    (dryRun = true ∧ s'.db = s.db) ∨ (dryRun = false ∧ ∃ k r, r.id = id ∧ Expires now s.db s'.db k r) := by
  simp [reconcileExpiredPendingReservation,getReservationByIdForUpdate,getUsageRecordByRequestId,
    getGatewayKeyByIdForQuotaUpdate,subtractReservedCounters,markPendingReservationExpired,-Bool.exists_bool] at ok
  obtain ⟨r,found,pending,due,ordinary,unmarked,rest⟩ := ok
  rcases rest with ⟨rfl,-,rfl⟩ | ⟨live,k,foundKey,t,⟨enough,keys⟩,t',reservations,created,ledger,-⟩
  · exact Or.inl ⟨rfl,rfl⟩
  · refine Or.inr ⟨live,k,r,(reservationFound.mp found).2,?_⟩
    obtain ⟨sameKeys,sameReservations,ledger⟩ := expiredLedgerCases ledger
    refine ⟨settledBySubtract foundKey found pending enough closesExpired ?_ ?_,due,ordinary,?_,?_⟩
    · rw [sameReservations]; exact reservations
    · rw [sameKeys]; exact keys
    · intro l mem same
      have clean := unmarked live
      rw [requestLedgerFound.mpr ⟨mem,same⟩] at clean
      exact clean
    · rcases ledger with kept | inserted
      · exact Or.inl kept
      · exact Or.inr ⟨newId,inserted⟩

theorem candidatesDry {now newId candidates s a s'}
    (ok : (reconcileCandidates now true newId candidates).Returns s a s') : s'.db = s.db := by
  induction candidates generalizing s a with
  | nil =>
    simp [reconcileCandidates] at ok
    rw [ok.2]
  | cons candidate rest ih =>
    simp only [reconcileCandidates,returnsIte,returnsBind,returnsPure] at ok
    rcases ok with ⟨-,ok⟩ | ⟨-,result,mid,first,results,last,tail,-,rfl⟩
    · exact ih ok
    · rcases expiredCases first with ⟨-,same⟩ | ⟨live,-⟩
      · exact (ih tail).trans same
      · cases live

/-- One of the named reservations expires. -/
def ExpiresOne (now : Time) (ids : List Uuid) (db db' : Db) : Prop := ∃ k r, r.id ∈ ids ∧ Expires now db db' k r

theorem candidatesChain {now dryRun newId ids candidates s a s'} (named : ∀ r ∈ candidates, r.id ∈ ids)
    (ok : (reconcileCandidates now dryRun newId candidates).Returns s a s') :
    Relation.ReflTransGen (ExpiresOne now ids) s.db s'.db := by
  induction candidates generalizing s a with
  | nil =>
    simp [reconcileCandidates] at ok
    rw [ok.2]
  | cons candidate rest ih =>
    have later : ∀ r ∈ rest, r.id ∈ ids := fun r mem => named r (List.mem_cons_of_mem _ mem)
    simp only [reconcileCandidates,returnsIte,returnsBind,returnsPure] at ok
    rcases ok with ⟨-,ok⟩ | ⟨-,result,mid,first,results,last,tail,-,rfl⟩
    · exact ih later ok
    · rcases expiredCases first with ⟨-,same⟩ | ⟨-,k,r,sameId,expires⟩
      · rw [← same]
        exact ih later tail
      · exact (ih later tail).head ⟨k,r,sameId ▸ named candidate List.mem_cons_self,expires⟩

/-- A committed batch is a chain of single expirations of its candidates. -/
theorem batchChain {now limit dryRun newId s a s'}
    (ok : (reconcileExpiredPendingReservations now limit dryRun newId).Returns s a s') :
    (dryRun = true ∧ s'.db = s.db) ∨ (dryRun = false ∧ Relation.ReflTransGen (ExpiresOne now
      ((s.db.expiredPendingReservations now limit).map QuotaReservation.id)) s.db s'.db) := by
  simp only [reconcileExpiredPendingReservations,listExpiredPendingReservations,returnsBind,returnsSelect,
    returnsPure] at ok
  obtain ⟨candidates,start,⟨rfl,rfl⟩,results,last,chain,-,rfl⟩ := ok
  cases dryRun with
  | true => exact Or.inl ⟨rfl,candidatesDry chain⟩
  | false => exact Or.inr ⟨rfl,candidatesChain (fun r mem => List.mem_map_of_mem mem) chain⟩

/-- One recovery row is finalized with the usage it recorded. -/
structure Completes (now : Time) (db db' : Db) (l : UsageLedger) (k : GatewayKey) (r : QuotaReservation) : Prop where
  recovery : l.isProviderCompletedRecovery = true
  linked : l.quotaReservationId = some r.id
  sameKey : r.gatewayKeyId = l.gatewayKeyId
  sourced : l.provider ≠ "" ∧ l.endpoint ≠ ""
  tokens : 0 < l.totalTokens
  cost : ∃ c, l.actualCostEur = some c ∧ 0 < c
  settled : Settled db db' k (k.finalizeReserved r.reserved (UsageLedger.actual l) now) r (r.markFinalized now)
    (UsageLedger.actual l)
  ledger : db.usageLedger.Updated l (l.markFinalized (reconciledMetadata l.responseMetadata)) db'.usageLedger

theorem completedLedgerQuiet {l s a s'} (ok : (validateProviderCompletedLedger l).Returns s a s') : s = s' := by
  simp only [validateProviderCompletedLedger,returnsBind,returnsRaiseIf] at ok
  obtain ⟨_,_,⟨-,rfl⟩,_,_,⟨-,rfl⟩,_,_,⟨-,rfl⟩,_,_,⟨-,rfl⟩,_,_,⟨-,rfl⟩,_,_,⟨-,rfl⟩,-,rfl⟩ := ok
  rfl

theorem completedLedgerCases {l dryRun now s a s'} (here : l ∈ s.db.usageLedger)
    (recovery : l.isProviderCompletedRecovery = true)
    (ok : (reconcileProviderCompletedLedger l dryRun now).Returns s a s') :
    (dryRun = true ∧ s'.db = s.db) ∨ (dryRun = false ∧ ∃ k r, Completes now s.db s'.db l k r) := by
  simp [reconcileProviderCompletedLedger,validateProviderCompletedLedger,getReservationByIdForUpdate,
    getGatewayKeyByIdForQuotaUpdate,finalizeReservedCounters,markPendingReservationFinalized,
    markProviderCompletedReconciled,getUsageRecordById] at ok
  obtain ⟨-,-,-,sourced,tokens,⟨-,costed⟩,positive,r,linked,found,sameKey,pending,rest⟩ := ok
  rcases rest with ⟨dry,-,rfl⟩ | ⟨live,k,foundKey,t,⟨enough,keys⟩,t',reservations,row,again,⟨t'',updated,rfl⟩,-⟩
  · exact Or.inl ⟨dry,rfl⟩
  · refine Or.inr ⟨live,k,r,recovery,linked,sameKey,sourced,tokens,?_,?_,?_⟩
    · obtain ⟨c,cost⟩ := Option.ne_none_iff_exists'.mp costed
      exact ⟨c,cost,positive c cost⟩
    · rw [← sameKey] at foundKey
      exact settledByFinalize foundKey found pending enough closesFinalized reservations keys
    · cases Option.some.inj (again.symm.trans (ledgerFound.mpr ⟨here,rfl⟩))
      exact updateOk here updated rfl

theorem completedCases {usageLedgerId reservationId dryRun now s a s'}
    (ok : (reconcileProviderCompletedRecovery usageLedgerId reservationId dryRun now).Returns s a s') :
    (dryRun = true ∧ s'.db = s.db) ∨ (dryRun = false ∧ ∃ l k r, (∀ id ∈ usageLedgerId, l.id = id) ∧
      (∀ id ∈ reservationId, r.id = id) ∧ Completes now s.db s'.db l k r) := by
  simp only [reconcileProviderCompletedRecovery,getProviderCompletedRecoveryRecordForUpdate,returnsBind,
    returnsRaiseIf,returnsSelectForUpdate,returnsPure] at ok
  obtain ⟨-,start,⟨-,rfl⟩,row,mid,⟨rows,locked,⟨rfl,rfl⟩,-,last,⟨-,rfl⟩,rfl,rfl⟩,rest⟩ := ok
  cases first : (s.db.providerCompletedRecovery usageLedgerId reservationId).head? with
  | none =>
    rw [first] at rest
    simp [providerCompletedRecoveryMissing] at rest
  | some l =>
    rw [first] at rest
    have mem := memFilter.mp (List.mem_of_mem_head? first)
    simp only [decide_eq_true_eq] at mem
    obtain ⟨here,recovery,named,owned⟩ := mem
    rcases completedLedgerCases (s := s.lock _) here recovery rest with dry | ⟨live,k,r,completes⟩
    · exact Or.inl dry
    · refine Or.inr ⟨live,l,k,r,named,fun id mem => ?_,completes⟩
      exact Option.some.inj (completes.linked.symm.trans (owned id mem))
end SlaifGateway.Quota
