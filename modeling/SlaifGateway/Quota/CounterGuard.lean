import SlaifGateway.Quota.Conservation

/-! The decrement guard of the reserved counters never raises: from a state whose
counters are conserved no transaction, whole or in its middle, ends in its error. -/
namespace SlaifGateway.Quota
open Store Library Library.Tx Library.Table

/-- An error of the decrement guard, as raised or as the reconcilers wrap it. -/
def blamesCounter (e : ServiceError) : Prop :=
  (e.kind = .quotaCounterInvariant ∨ e.kind = .reconciliationInvariant ∨
    e.kind = .providerCompletedRecoveryInvariant) ∧
  (e.param = some "cost_reserved_eur" ∨ e.param = some "tokens_reserved_total" ∨
    e.param = some "requests_reserved_total")

@[simp] theorem blamesError {kind : ErrorKind} : ¬blamesCounter kind.error := by
  simp [blamesCounter,ErrorKind.error]

@[simp] theorem blamesSaying {kind : ErrorKind} {m} : ¬blamesCounter (kind.saying m) := by
  simp [blamesCounter,ErrorKind.saying]

@[simp] theorem blamesCoded {kind : ErrorKind} {m c} : ¬blamesCounter (kind.coded m c) := by
  simp [blamesCounter,ErrorKind.coded]

theorem blamesOther {e : ServiceError} (other : e.kind ≠ .quotaCounterInvariant ∧ e.kind ≠ .reconciliationInvariant ∧
    e.kind ≠ .providerCompletedRecoveryInvariant) : ¬blamesCounter e := by
  rintro ⟨blame,-⟩
  exact blame.elim other.1 (Or.rec other.2.1 other.2.2)

@[simp] theorem blamesEstimate {m p} : ¬blamesCounter (ErrorKind.invalidQuotaEstimate.naming m p) :=
  blamesOther (by simp [ErrorKind.naming])

@[simp] theorem blamesLimit {m p} : ¬blamesCounter (ErrorKind.quotaLimitExceeded.naming m p) :=
  blamesOther (by simp [ErrorKind.naming])

@[simp] theorem blamesUsage {m p} : ¬blamesCounter (ErrorKind.invalidUsage.naming m p) :=
  blamesOther (by simp [ErrorKind.naming])

theorem wrappedIntegrity {kind} : ¬blamesCounter (wrapCounterInvariant kind ErrorKind.integrity.error) := by
  simp [wrapCounterInvariant,ErrorKind.error,blamesCounter]

theorem currencyBlameless {value e} (failed : normalizeCurrency value = .error e) : ¬blamesCounter e := by
  unfold normalizeCurrency at failed
  split at failed
  · cases failed
    exact blamesOther (by simp [ErrorKind.naming])
  · simp at failed

theorem billBlameless {f : RequestFacts} {metered e} (failed : f.bill metered = .error e) : ¬blamesCounter e := by
  unfold RequestFacts.bill fixedRequestBill at failed
  split at failed
  · split at failed
    · cases failed
      exact blamesOther (by simp [ErrorKind.naming])
    · cases currency : normalizeCurrency f.pricingEstimate.nativeCurrency with
      | error e' =>
        rw [currency] at failed
        cases failed
        exact currencyBlameless currency
      | ok _ =>
        rw [currency] at failed
        cases failed
  · cases metered with
    | ok _ => cases failed
    | error raised =>
      cases failed
      refine blamesOther ?_
      rcases raised.2 with kind | kind | kind <;> rw [kind] <;> simp

section Rules
variable {bad : ServiceError → Prop}

@[simp] theorem avoidsSelect {α : Type} {query : Db → α} {s} : (select query).Avoids bad s := avoidsReading

@[simp] theorem avoidsSelectForUpdate {α : Type} {query : Db → List α} {row s} :
    (selectForUpdate query row).Avoids bad s := by
  intro e s' failed
  change (Except.ok (query s.db),_) = (Except.error e,s') at failed
  simp at failed

@[simp] theorem avoidsSelectOneForUpdate {α : Type} {query : Db → Option α} {row s} :
    (selectOneForUpdate query row).Avoids bad s := by
  simp [selectOneForUpdate]

theorem avoidsWrite {τ α : Type} {put : Session → τ → Session} {result : Session → Option τ} {a : α} {s}
    (harmless : ¬bad ErrorKind.integrity.error) : (write put result a).Avoids bad s := by
  intro e s' failed
  rw [execWrite] at failed
  cases written : result s with
  | none =>
    rw [written] at failed
    cases failed
    exact harmless
  | some t =>
    rw [written] at failed
    simp at failed

theorem avoidsConstant {α : Type} {x : Action α} {e s} (harmless : ¬bad e) :
    (relabel (fun _ => e) x).Avoids bad s := by
  rw [avoidsRelabel]
  exact fun _ _ _ => harmless

theorem avoidsOfExcept {α : Type} {o : Except ServiceError α} {s} (harmless : ∀ e, o = .error e → ¬bad e) :
    (ofExcept o).Avoids bad s := by
  cases o with
  | ok a => exact avoidsPure
  | error e => exact avoidsThrow.mpr (harmless e rfl)

variable {k : GatewayKey} {amounts actual : Amounts} {now : Time} {s : Session}
  (harmless : ¬bad ErrorKind.integrity.error) (enough : amounts ≤ k.reserved)
include enough

theorem avoidsEnsure : (ensureReservedCountersCanDecrement k amounts).Avoids bad s := by
  obtain ⟨cost,tokens,requests⟩ := enough
  simp [ensureReservedCountersCanDecrement,not_lt.mpr cost,not_lt.mpr tokens,not_lt.mpr requests]

include harmless

theorem avoidsSubtract : (subtractReservedCounters k amounts).Avoids bad s :=
  avoidsBind.mpr ⟨avoidsEnsure enough,fun _ _ _ => avoidsWrite harmless⟩

theorem avoidsFinalize : (finalizeReservedCounters k amounts actual now).Avoids bad s :=
  avoidsBind.mpr ⟨avoidsEnsure enough,fun _ _ _ => avoidsWrite harmless⟩
end Rules

section Harmless
variable {s : Session}

theorem reserveAvoids {i} : (reserveForChatCompletion i).Avoids blamesCounter s := by
  simp only [reserveForChatCompletion,validateCost,validateTokens,validateKeyCanReserve,validateExternalToolFence,
    validateLimits,getGatewayKeyByIdForQuotaUpdate,createReservation,addReservedCounters,flushKey,avoidsBind,
    avoidsRaiseIf,avoidsOrRaise,avoidsPure,avoidsSelectOneForUpdate,avoidsWrite,blamesError,blamesSaying,
    blamesEstimate,blamesLimit,not_false_eq_true,implies_true,and_self]

theorem acquireAvoids {i} : (acquire i).Avoids blamesCounter s := by
  simp only [acquire,validateTtl,validateRequestId,validateEndpoint,validateRequestedModel,validateProvider,
    validateSafeText,validateCapabilities,validateDestinationIds,validateDecision,validateKeyForFence,
    requirePositiveFiniteLimits,validateStoredFencedPolicy,invalidFenceInput,fenceInvariant,acquireBound,acquireFree,
    rejectExistingKeyExposure,getGatewayKeyForUpdate,getGatewayKeyByIdForQuotaUpdate,getReservationById,
    listPendingReservationsForKey,getReservationByRequestId,createReservation,addReservedCounters,
    setExternalToolFence,flushKey,avoidsBind,avoidsRaiseIf,avoidsOrRaise,avoidsPure,avoidsIte,avoidsSelect,
    avoidsSelectOneForUpdate,avoidsWrite,blamesError,blamesCoded,not_false_eq_true,implies_true,and_self]

theorem resolveAvoids {keyId requestId permitHeld} : (resolve keyId requestId permitHeld).Avoids blamesCounter s := by
  simp only [resolve,resolveLocked,validateBoundRouteFacts,verifyReservedCountersZero,fenceInvariant,fenceConflict,
    getGatewayKeyById,getReservationByIdForUpdate,getGatewayKeyForUpdate,getGatewayKeyByIdForQuotaUpdate,
    getUsageRecordsByReservationId,setExternalToolFence,flushKey,avoidsBind,avoidsRaiseIf,avoidsOrRaise,avoidsPure,
    avoidsThrow,avoidsIte,avoidsSelect,avoidsSelectOneForUpdate,avoidsWrite,avoidsConstant,blamesError,blamesCoded,
    not_false_eq_true,implies_true,and_self]

theorem lockedCandidateAvoids {l r k} : (validateLockedCandidate l r k).Avoids blamesCounter s := by
  simp only [validateLockedCandidate,holdInvariant,avoidsBind,avoidsRaiseIf,blamesSaying,not_false_eq_true,
    implies_true,and_self]

theorem placeAvoids {i} : (place i).Avoids blamesCounter s := by
  simp only [place,validateHoldInput,validatePartialFacts,placeAgain,placeNew,validateReservationAndFence,
    holdInvariant,invalidHold,fenceConflict,getReservationByIdForUpdate,getGatewayKeyForUpdate,
    getGatewayKeyByIdForQuotaUpdate,getUsageRecordsByReservationId,createUsageRecord,setExternalToolFence,flushKey,
    avoidsBind,avoidsRaiseIf,avoidsOrRaise,avoidsPure,avoidsIte,avoidsSelect,avoidsSelectOneForUpdate,avoidsWrite,
    lockedCandidateAvoids,blamesError,blamesSaying,blamesCoded,not_false_eq_true,implies_true,and_self]

theorem avoidsBill {f : RequestFacts} {metered} : (ofExcept (f.bill metered)).Avoids blamesCounter s :=
  avoidsOfExcept fun _ => billBlameless

theorem avoidsCurrency {value} : (ofExcept (normalizeCurrency value)).Avoids blamesCounter s :=
  avoidsOfExcept fun _ => currencyBlameless

theorem recordAvoids {i} : (recordProviderCompletedBeforeFinalization i).Avoids blamesCounter s := by
  simp only [recordProviderCompletedBeforeFinalization,getReservationById,getUsageRecordByRequestId,avoidsBind,
    avoidsRaiseIf,avoidsOrRaise,avoidsSelect,avoidsBill,blamesSaying,not_false_eq_true,implies_true,true_and]
  intro _ _ _ _ _ _ _ _ _ _ _ _ _ _ _ row _ _
  cases row with
  | some existing => exact avoidsPure
  | none => simp only [avoidsBind,avoidsPure,avoidsConstant,blamesError,not_false_eq_true,implies_true,and_self]

theorem markFailedAvoids {ledgerId id} :
    (markProviderCompletedFinalizationFailed ledgerId id).Avoids blamesCounter s := by
  simp only [markProviderCompletedFinalizationFailed,getUsageRecordById,avoidsBind,avoidsRaiseIf,avoidsOrRaise,
    avoidsPure,avoidsSelect,avoidsConstant,blamesError,blamesSaying,not_false_eq_true,implies_true,and_self]

theorem flushReservationAvoids {r} : (flushReservation r).Avoids blamesCounter s := avoidsWrite blamesError

theorem finalizeLedgerAvoids {i bill} : (finalizeLedger i bill).Avoids blamesCounter s := by
  unfold finalizeLedger
  cases i.providerCompletedUsageLedgerId <;> exact avoidsConstant blamesError

theorem lockedReservationAvoids {id key} : (lockedPendingReservation id key).Avoids blamesCounter s := by
  simp only [lockedPendingReservation,getReservationByIdForUpdate,avoidsBind,avoidsRaiseIf,avoidsOrRaise,avoidsPure,
    avoidsSelectOneForUpdate,blamesError,blamesSaying,not_false_eq_true,implies_true,and_self]

theorem lockedKeyAvoids {key} : (lockedFinalizationKey key).Avoids blamesCounter s := by
  simp only [lockedFinalizationKey,getGatewayKeyByIdForQuotaUpdate,avoidsBind,avoidsOrRaise,
    avoidsSelectOneForUpdate,blamesSaying,not_false_eq_true,implies_true,and_self]

theorem expiredLedgerAvoids {r newId} : (createExpiredLedgerIfAbsent r newId).Avoids blamesCounter s := by
  simp only [createExpiredLedgerIfAbsent,getUsageRecordByRequestId,avoidsBind,avoidsSelect,true_and]
  intro row _ _
  cases row with
  | some existing => exact avoidsPure
  | none => exact avoidsBind.mpr ⟨avoidsWrite blamesError,fun _ _ _ => avoidsPure⟩

theorem completedLedgerAvoids {l} : (validateProviderCompletedLedger l).Avoids blamesCounter s := by
  simp only [validateProviderCompletedLedger,avoidsBind,avoidsRaiseIf,blamesSaying,not_false_eq_true,implies_true,
    and_self]

theorem markReconciledAvoids {id m} : (markProviderCompletedReconciled id m).Avoids blamesCounter s := by
  simp only [markProviderCompletedReconciled,getUsageRecordById,flushUnlockedLedger,avoidsBind,avoidsOrRaise,
    avoidsSelect,avoidsWrite,blamesError,not_false_eq_true,implies_true,and_self]

theorem reconciliationInputAvoids {i} : (validateReconciliationInput i).Avoids blamesCounter s := by
  unfold validateReconciliationInput validateFinalizeActual validateReleaseNoCharge invalidHold
  cases i.action <;> simp only [avoidsBind,avoidsRaiseIf,blamesSaying,not_false_eq_true,implies_true,and_self]

theorem holdLedgerAvoids {i l r} : (settleHoldLedger i l r).Avoids blamesCounter s := by
  unfold settleHoldLedger
  cases i.action <;> exact avoidsWrite blamesError

theorem heldAvoids {i r k} (enough : r.reserved ≤ k.reserved) : (settleHeldReservation i r k).Avoids blamesCounter s := by
  unfold settleHeldReservation
  cases i.action with
  | finalizeActual => exact avoidsBind.mpr ⟨avoidsFinalize blamesError enough,fun _ _ _ => flushReservationAvoids⟩
  | releaseNoCharge => exact avoidsBind.mpr ⟨avoidsSubtract blamesError enough,fun _ _ _ => flushReservationAvoids⟩
end Harmless

/-- Every counter covers every pending reservation of its key. -/
def Covered (db : Db) : Prop :=
  ∀ k ∈ db.gatewayKeys, ∀ r ∈ db.quotaReservations, r.gatewayKeyId = k.id → r.status = .pending → r.reserved ≤ k.reserved

theorem conservedCovered {db} (conserved : ∀ id, Conserved id db) : Covered db :=
  fun k mem _ here own pending => pendingCovered (conserved k.id) mem rfl here own pending

theorem coveredFound {db : Db} {r k id} (covered : Covered db) (found : db.quotaReservations.find id = some r)
    (pending : r.status = .pending) (foundKey : db.gatewayKeys.find r.gatewayKeyId = some k) :
    r.reserved ≤ k.reserved := by
  obtain ⟨here,-⟩ := reservationFound.mp found
  obtain ⟨mem,own⟩ := keyFound.mp foundKey
  exact covered k mem r here own.symm pending

section Settlements
variable {s : Session} (covered : Covered s.db)
include covered

theorem releaseAvoids {id now} : (releaseReservation id now).Avoids blamesCounter s := by
  simp [releaseReservation,getReservationByIdForUpdate,getGatewayKeyByIdForQuotaUpdate]
  intro r found pending k foundKey
  exact ⟨avoidsSubtract blamesError (coveredFound covered found pending foundKey),fun _ _ _ => avoidsWrite blamesError⟩

theorem lockedCovered {id key r k s₁ s₂} (locked : (lockedPendingReservation id key).Returns s r s₁)
    (lockedKey : (lockedFinalizationKey key).Returns s₁ k s₂) : r.reserved ≤ k.reserved := by
  obtain ⟨found,own,pending,rfl⟩ := returnsLockedPendingReservation.mp locked
  obtain ⟨foundKey,-⟩ := returnsLockedFinalizationKey.mp lockedKey
  rw [← own] at foundKey
  exact coveredFound covered found pending foundKey

theorem finalizeAvoids {i} : (finalizeSuccessfulResponse i).Avoids blamesCounter s := by
  simp only [finalizeSuccessfulResponse,markPendingReservationFinalized,avoidsBind,avoidsPure,lockedReservationAvoids,
    lockedKeyAvoids,avoidsBill,flushReservationAvoids,finalizeLedgerAvoids,implies_true,true_and,and_true]
  intro r _ locked k _ lockedKey _ _ _
  exact avoidsFinalize blamesError (lockedCovered covered locked lockedKey)

theorem finalizeCustomAvoids {i} : (finalizeSuccessfulCustomResponse i).Avoids blamesCounter s := by
  simp only [finalizeSuccessfulCustomResponse,markPendingReservationFinalized,orLedgerWriteError,avoidsBind,avoidsPure,
    lockedReservationAvoids,lockedKeyAvoids,avoidsCurrency,flushReservationAvoids,avoidsConstant,blamesError,
    not_false_eq_true,implies_true,true_and,and_true]
  intro r _ locked k _ lockedKey
  exact avoidsFinalize blamesError (lockedCovered covered locked lockedKey)

theorem interruptedAvoids {i} : (recordStreamingInterruptedEstimate i).Avoids blamesCounter s := by
  simp only [recordStreamingInterruptedEstimate,nonNegativeInt,nonNegativeDecimal,markPendingReservationFinalized,
    orLedgerWriteError,avoidsBind,avoidsPure,avoidsRaiseIf,lockedReservationAvoids,lockedKeyAvoids,
    flushReservationAvoids,avoidsConstant,blamesError,blamesUsage,not_false_eq_true,implies_true,true_and,and_true]
  intro r _ locked k _ lockedKey _ _ _ _ _ _ _ _ _ _ _ _
  exact avoidsFinalize blamesError (lockedCovered covered locked lockedKey)

theorem failureAvoids {i} : (recordProviderFailureAndRelease i).Avoids blamesCounter s := by
  simp only [recordProviderFailureAndRelease,releaseIfPending,createFailureLedger,orLedgerWriteError,
    getReservationByIdForUpdate,getGatewayKeyByIdForQuotaUpdate,markPendingReservationReleased,avoidsBind,avoidsIte,
    avoidsPure,avoidsRaiseIf,avoidsOrRaise,avoidsSelectOneForUpdate,flushReservationAvoids,avoidsConstant,blamesError,
    blamesSaying,returnsSelectOneForUpdate,returnsOrRaise,returnsRaiseIf,not_false_eq_true,implies_true,true_and,and_true]
  rintro _ _ ⟨rfl,rfl⟩ r _ ⟨found,rfl⟩ _ _ ⟨own,rfl⟩ _ _ ⟨rfl,rfl⟩ k _ ⟨foundKey,rfl⟩ pending
  rw [not_not] at own
  rw [← own] at foundKey
  exact avoidsSubtract blamesError (coveredFound covered found pending foundKey)

theorem expireAvoids {id now dryRun newId} :
    (reconcileExpiredPendingReservation id now dryRun newId).Avoids blamesCounter s := by
  simp only [reconcileExpiredPendingReservation,getReservationByIdForUpdate,getGatewayKeyByIdForQuotaUpdate,
    getUsageRecordByRequestId,markPendingReservationExpired,avoidsBind,avoidsIte,avoidsPure,avoidsRaiseIf,avoidsOrRaise,
    avoidsSelect,avoidsSelectOneForUpdate,avoidsRelabel,flushReservationAvoids,expiredLedgerAvoids,blamesError,blamesSaying,
    returnsSelectOneForUpdate,returnsSelect,returnsOrRaise,returnsRaiseIf,not_false_eq_true,implies_true,true_and,and_true]
  rintro _ _ ⟨rfl,rfl⟩ r _ ⟨found,rfl⟩ _ _ ⟨pending,rfl⟩ _ _ ⟨-,rfl⟩ _ _ ⟨-,rfl⟩ _ _ ⟨-,rfl⟩ _ _ ⟨-,rfl⟩ - _ _ ⟨rfl,rfl⟩ k _
    ⟨foundKey,rfl⟩
  exact avoidsSubtract wrappedIntegrity (coveredFound covered found (not_not.mp pending) foundKey)

theorem completedAvoids {l dryRun now} : (reconcileProviderCompletedLedger l dryRun now).Avoids blamesCounter s := by
  simp only [reconcileProviderCompletedLedger,getReservationByIdForUpdate,getGatewayKeyByIdForQuotaUpdate,
    markPendingReservationFinalized,avoidsBind,avoidsIte,avoidsPure,avoidsRaiseIf,avoidsOrRaise,avoidsSelectOneForUpdate,
    avoidsRelabel,completedLedgerAvoids,markReconciledAvoids,flushReservationAvoids,blamesSaying,
    returnsSelectOneForUpdate,returnsOrRaise,returnsRaiseIf,not_false_eq_true,implies_true,true_and,and_true]
  rintro _ _ valid _ _ ⟨-,rfl⟩ _ _ ⟨rfl,rfl⟩ r _ ⟨found,rfl⟩ _ _ ⟨-,rfl⟩ _ _ ⟨own,rfl⟩ _ _ ⟨pending,rfl⟩ - _ _ ⟨rfl,rfl⟩ k _
    ⟨foundKey,rfl⟩
  obtain rfl := completedLedgerQuiet valid
  rw [← not_not.mp own] at foundKey
  exact avoidsFinalize wrappedIntegrity (coveredFound covered found (not_not.mp pending) foundKey)

theorem recoveryAvoids {ledgerId id dryRun now} :
    (reconcileProviderCompletedRecovery ledgerId id dryRun now).Avoids blamesCounter s := by
  simp only [reconcileProviderCompletedRecovery,getProviderCompletedRecoveryRecordForUpdate,avoidsBind,avoidsRaiseIf,
    avoidsPure,avoidsSelectForUpdate,blamesError,blamesSaying,returnsBind,returnsRaiseIf,returnsSelectForUpdate,
    returnsPure,not_false_eq_true,implies_true,true_and]
  rintro _ _ ⟨-,rfl⟩ row _ ⟨_,_,⟨rfl,rfl⟩,_,_,⟨-,rfl⟩,-,rfl⟩
  cases row with
  | none =>
    cases ledgerId <;> simp [providerCompletedRecoveryMissing,maybeExistingLedger,getUsageRecordById]
  | some l => exact completedAvoids (s := s.lock _) covered

theorem executeAvoids {i l r k} (found : s.db.quotaReservations.find i.reservationId = some r)
    (foundKey : s.db.gatewayKeys.find r.gatewayKeyId = some k) :
    (executeReconciliation i l r k).Avoids blamesCounter s := by
  simp only [executeReconciliation,avoidsBind,avoidsPure,avoidsSelect,lockedCandidateAvoids,holdLedgerAvoids,
    resolveAvoids,implies_true,true_and,and_true]
  intro _ s' checked
  obtain rfl := lockedCandidateQuiet checked
  simp only [validateLockedCandidate,returnsBind,returnsRaiseIf,not_or,not_not] at checked
  obtain ⟨_,_,⟨-,-⟩,_,_,⟨⟨pending,-⟩,-⟩,-⟩ := checked
  exact heldAvoids (coveredFound covered found pending foundKey)

theorem reconcileHoldAvoids {i} : (reconcileHold i).Avoids blamesCounter s := by
  simp only [reconcileHold,reconcileLocked,loadCandidate,ledgerIdForReservation,holdInvariant,fenceConflict,
    getUsageRecordByIdForUpdate,getReservationByIdForUpdate,getGatewayKeyForUpdate,getGatewayKeyByIdForQuotaUpdate,
    getUsageRecordsByReservationId,getReservationById,getGatewayKeyById,avoidsBind,avoidsIte,avoidsPure,avoidsRaiseIf,
    avoidsOrRaise,avoidsSelect,avoidsSelectOneForUpdate,reconciliationInputAvoids,lockedCandidateAvoids,blamesSaying,
    blamesCoded,returnsBind,returnsPure,returnsSelect,returnsSelectOneForUpdate,returnsOrRaise,returnsRaiseIf,
    not_false_eq_true,implies_true,true_and,and_true]
  rintro _ _ checked - _ _ ⟨_,_,⟨rfl,rfl⟩,_,_,⟨-,rfl⟩,_,_,⟨-,rfl⟩,rfl,rfl⟩ _ _ ⟨rfl,rfl⟩ l _ ⟨-,rfl⟩ _ _ ⟨rfl,rfl⟩ r _
    ⟨found,rfl⟩ _ _ ⟨rfl,rfl⟩ k _ ⟨foundKey,rfl⟩ _ _ ⟨rfl,rfl⟩ _ _ ⟨-,rfl⟩ -
  obtain rfl := reconciliationInputQuiet checked
  exact executeAvoids (s := ((s.lock _).lock _).lock _) covered found foundKey
end Settlements

theorem candidatesAvoid {now dryRun newId candidates s} (conserved : ∀ id, Conserved id s.db) :
    (reconcileCandidates now dryRun newId candidates).Avoids blamesCounter s := by
  induction candidates generalizing s with
  | nil => exact avoidsPure
  | cons candidate rest ih =>
    simp only [reconcileCandidates,avoidsIte,avoidsBind,avoidsPure,implies_true,and_true]
    refine ⟨fun _ => ih conserved,fun _ => ⟨expireAvoids (conservedCovered conserved),fun _ s' ok => ih fun id => ?_⟩⟩
    rcases expiredCases ok with ⟨-,same⟩ | ⟨-,_,_,-,expires⟩
    · rw [same]
      exact conserved id
    · exact settledConserves expires.settled (conserved id)

/-- From conserved counters no transaction ends in an error of the decrement guard. -/
theorem transactionAvoids {db} (conserved : ∀ id, Conserved id db) (op : Op) :
    op.transaction.Avoids blamesCounter ⟨db,[]⟩ := by
  have covered : Covered (Session.db ⟨db,[]⟩) := conservedCovered conserved
  have alone {α : Type} {x : Action α} (avoids : x.Avoids blamesCounter ⟨db,[]⟩) :
      (do let _ ← x : Action Unit).Avoids blamesCounter ⟨db,[]⟩ :=
    avoidsBind.mpr ⟨avoids,fun _ _ _ => avoidsPure⟩
  have andResolve {α : Type} {x : Action α} {keyId requestId} (avoids : x.Avoids blamesCounter ⟨db,[]⟩) :
      (do let _ ← x; let _ ← Quota.resolve keyId requestId false : Action Unit).Avoids blamesCounter ⟨db,[]⟩ :=
    avoidsBind.mpr ⟨avoids,fun _ _ _ => avoidsBind.mpr ⟨resolveAvoids,fun _ _ _ => avoidsPure⟩⟩
  cases op with
  | reserve i => exact alone reserveAvoids
  | release id now => exact alone (releaseAvoids covered)
  | finalize i => exact alone (finalizeAvoids covered)
  | finalizeCustom i => exact alone (finalizeCustomAvoids covered)
  | recordCompleted i => exact alone recordAvoids
  | markFailed ledgerId id => exact alone markFailedAvoids
  | failure i => exact alone (failureAvoids covered)
  | interrupted i => exact alone (interruptedAvoids covered)
  | expire id now dryRun newId => exact alone (expireAvoids covered)
  | expireBatch now limit dryRun newId =>
    refine alone (avoidsBind.mpr ⟨avoidsSelect,fun _ s' read => ?_⟩)
    obtain ⟨-,rfl⟩ := returnsSelect.mp read
    exact avoidsBind.mpr ⟨candidatesAvoid conserved,fun _ _ _ => avoidsPure⟩
  | completeRecovery ledgerId id dryRun now => exact alone (recoveryAvoids covered)
  | acquire i => exact alone acquireAvoids
  | resolve keyId requestId permitHeld => exact alone resolveAvoids
  | place i => exact alone placeAvoids
  | reconcileHold i => exact alone (reconcileHoldAvoids covered)
  | finalizeExternal i => exact andResolve (finalizeCustomAvoids covered)
  | failureExternal i => exact andResolve (failureAvoids covered)

theorem reservedCountersConserved {id : Uuid} {db : Db} (start : Idle id db) (ops : List Op) :
    (∀ k ∈ (run db ops).gatewayKeys, k.id = id → k.reserved = pendingTotal (run db ops) id) ∧
    (∀ k ∈ (run db ops).gatewayKeys, ∀ r ∈ (run db ops).quotaReservations, k.id = id → r.gatewayKeyId = id →
      r.status = .pending → ∀ s, (ensureReservedCountersCanDecrement k r.reserved).Returns s () s) ∧
    ((∀ other, Idle other db) → ∀ op : Op, op.transaction.Avoids blamesCounter ⟨run db ops,[]⟩) := by
  have conserved := runConserves (idleConserved start) ops
  refine ⟨conserved,fun k mem r here named own pending s => ?_,fun all op => ?_⟩
  · exact returnsEnsure.mpr ⟨pendingCovered conserved mem named here own pending,rfl⟩
  · exact transactionAvoids (fun other => runConserves (idleConserved (all other)) ops) op

/-- Two reservations open and the first is charged more than it held; the counters keep the second alone. -/
theorem reservedCountersConservedDemo :
    let ops := [Op.reserve (demoReserve 10 "a" 1),Op.reserve (demoReserve 11 "b" (1/2)),
      Op.finalizeCustom ⟨demoFacts 10 "a" 20,⟨20,20,40,2,2,true⟩,"EUR",.plain true⟩]
    Idle 1 demoDb ∧ (∀ k ∈ (run demoDb ops).gatewayKeys, k.id = 1 → k.reserved = ⟨1/2,30,1⟩) ∧
      ∀ op : Op, op.transaction.Avoids blamesCounter ⟨run demoDb ops,[]⟩ := by
  intro ops
  obtain ⟨conserved,-,never⟩ := reservedCountersConserved (demoIdle 1) ops
  refine ⟨demoIdle 1,fun k mem named => ?_,never demoIdle⟩
  rw [conserved k mem named]
  decide +kernel
end SlaifGateway.Quota
