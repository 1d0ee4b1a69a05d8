import SlaifGateway.Quota.History

/-! The row locks of an accounting transaction, in the order it takes them. A plan
names every lock the transaction can reach; what it really takes is the plan up to
the point where it returns or raises. -/
namespace SlaifGateway.Quota
open Store Library Library.Tx Library.Table

/-- A reservation, then its key: the quota lifecycle order. -/
def pairLocks (db : Db) (id : Uuid) : List Row :=
  match db.quotaReservations.find id with
  | some r => [.reservation r.id,.gatewayKey r.gatewayKeyId]
  | none => []

def expirePlan (dryRun : Bool) (r : QuotaReservation) : List Row :=
  .reservation r.id :: if dryRun then [] else [.gatewayKey r.gatewayKeyId]

/-- The candidates of a batch that it does not skip. -/
def batchCandidates (db : Db) (now : Time) (limit : Nat) : List QuotaReservation :=
  (db.expiredPendingReservations now limit).filter fun r => r.quotaMode ≠ .externalToolFenced

/-- What a recovery selects; a call that names both or neither is refused before. -/
def recoveryRows (db : Db) (ledgerId id : Option Uuid) : List UsageLedger :=
  if ledgerId.isNone = id.isNone then [] else db.providerCompletedRecovery ledgerId id

def holdRows (db : Db) (id : Uuid) : List UsageLedger := db.usageLedger.filter fun l => l.quotaReservationId = some id

/-- The ledger rows a reconciliation locks before the reservation. -/
def Op.ledgersFirst (db : Db) : Op → List UsageLedger
  | .completeRecovery ledgerId id _ _ => recoveryRows db ledgerId id
  | .reconcileHold i => holdRows db i.reservationId
  | _ => []

/-- The recorded row a finalization locks after the key. -/
def Op.ledgerLast : Op → Option Uuid
  | .finalize i => i.providerCompletedUsageLedgerId
  | _ => none

/-- The one reservation a transaction locks before its key. -/
def Op.settles (db : Db) : Op → Option Uuid
  | .release id _ => some id
  | .expire id _ _ _ => some id
  | .finalize i => some i.facts.reservationId
  | .finalizeCustom i => some i.facts.reservationId
  | .failure i => some i.facts.reservationId
  | .interrupted i => some i.facts.reservationId
  | .completeRecovery ledgerId id _ _ => (recoveryRows db ledgerId id).head?.bind UsageLedger.quotaReservationId
  | .reconcileHold i => some i.reservationId
  | _ => none

def Op.candidates (db : Db) : Op → List QuotaReservation
  | .expireBatch now limit _ _ => batchCandidates db now limit
  | _ => []

/-- The locks of a batch: each candidate, then its key, all in one transaction. -/
def Op.batchPlan (db : Db) : Op → List Row
  | .expireBatch now limit dryRun _ => (batchCandidates db now limit).flatMap (expirePlan dryRun)
  | _ => []

/-- The transactions whose locks are planned here. -/
def Op.isAccounting : Op → Bool
  | .reserve _ | .release _ _ | .finalize _ | .finalizeCustom _ | .failure _ | .interrupted _ | .expire _ _ _ _
  | .expireBatch _ _ _ _ | .completeRecovery _ _ _ _ | .reconcileHold _ => true
  | _ => false

def Op.lockPlan (db : Db) : Op → List Row
  | .reserve i => [.gatewayKey i.authenticatedKey.gatewayKeyId]
  | .expireBatch now limit dryRun newId => Op.batchPlan db (.expireBatch now limit dryRun newId)
  | .completeRecovery ledgerId id _ _ =>
    (recoveryRows db ledgerId id).map (fun l => .ledger l.id) ++
      (recoveryRows db ledgerId id).head?.elim [] fun l =>
        l.quotaReservationId.elim [] fun id => pairLocks db id ++ [.ledger l.id]
  | .reconcileHold i =>
    (holdRows db i.reservationId).map (fun l => .ledger l.id) ++
      (pairLocks db i.reservationId ++ pairLocks db i.reservationId)
  | op => (op.settles db).elim [] (pairLocks db) ++ op.ledgerLast.toList.map .ledger

section Traces
variable {α : Type} {s : Session}

theorem tracesKey {id e} {f : GatewayKey → Action α} {rest} (next : ∀ k, k.id = id →
      (f k).Traces Session.locks (s.lock [.gatewayKey id]) rest) :
    (getGatewayKeyByIdForQuotaUpdate id >>= fun o => orRaise o e >>= f).Traces Session.locks s
      (.gatewayKey id :: rest) := by
  refine tracesLocked fun k found => ?_
  obtain ⟨-,rfl⟩ := keyFound.mp found
  exact ⟨rest,rfl,next k rfl⟩

theorem tracesPair {id e} {f : QuotaReservation → Action α} {last} (next : ∀ r ∈ s.db.quotaReservations, r.id = id →
      (f r).Traces Session.locks (s.lock [.reservation id]) (.gatewayKey r.gatewayKeyId :: last)) :
    (getReservationByIdForUpdate id >>= fun o => orRaise o e >>= f).Traces Session.locks s
      (pairLocks s.db id ++ last) := by
  refine tracesLocked fun r found => ?_
  obtain ⟨here,rfl⟩ := reservationFound.mp found
  simp only [pairLocks,found]
  exact ⟨_,rfl,next r here rfl⟩

theorem costSilent {value} : (validateCost value).Silent Session.locks := by
  simp [Silent,validateCost]

theorem tokensSilent {value} : (validateTokens value).Silent Session.locks := by
  simp [Silent,validateTokens]

theorem reserveTraces {i} : (reserveForChatCompletion i).Traces Session.locks s
    [.gatewayKey i.authenticatedKey.gatewayKeyId] := by
  unfold reserveForChatCompletion
  refine tracesAfter costSilent fun _ _ _ => tracesAfter tokensSilent fun _ _ _ => tracesAfter tokensSilent fun _ _ _ =>
    tracesAfter tokensSilent fun _ _ _ => tracesAfter tokensSilent fun _ _ _ => tracesAfter tokensSilent fun _ _ _ =>
    tracesKey fun k _ => Silent.traces ?_
  simp [Silent,validateKeyCanReserve,validateExternalToolFence,validateLimits,createReservation,addReservedCounters,flushKey]

theorem releaseTraces {id now} : (releaseReservation id now).Traces Session.locks s (pairLocks s.db id ++ []) := by
  unfold releaseReservation
  refine tracesPair fun r _ _ => ?_
  split
  · exact Silent.traces (by simp [Silent])
  · refine tracesKey fun k _ => Silent.traces ?_
    simp [Silent,subtractReservedCounters,ensureReservedCountersCanDecrement,flushKey,markPendingReservationReleased,
      flushReservation]

/-- The two locks every settlement of a request starts with. -/
theorem settlementTraces {id key last} {f : QuotaReservation → GatewayKey → Action α}
    (next : ∀ r k s, (f r k).Traces Session.locks s last) :
    (lockedPendingReservation id key >>= fun r => lockedFinalizationKey key >>= f r).Traces Session.locks s
      (pairLocks s.db id ++ last) := by
  simp only [lockedPendingReservation,lockedFinalizationKey,bind_assoc,pure_bind]
  refine tracesPair fun r _ _ => tracesRaiseIf fun own => tracesRaiseIf fun _ => ?_
  rw [not_not.mp own]
  exact tracesKey fun k _ => next r k _

theorem billSilent {f : RequestFacts} {metered} : (ofExcept (f.bill metered)).Silent Session.locks := by
  cases f.bill metered <;> simp [Silent,ofExcept]

theorem currencySilent {value} : (ofExcept (normalizeCurrency value)).Silent Session.locks := by
  cases normalizeCurrency value <;> simp [Silent,ofExcept]

theorem finalizeCountersSilent {k amounts actual now} :
    (finalizeReservedCounters k amounts actual now).Silent Session.locks := by
  simp [Silent,finalizeReservedCounters,ensureReservedCountersCanDecrement,flushKey]

theorem subtractCountersSilent {k amounts} : (subtractReservedCounters k amounts).Silent Session.locks := by
  simp [Silent,subtractReservedCounters,ensureReservedCountersCanDecrement,flushKey]

theorem flushReservationSilent {r} : (flushReservation r).Silent Session.locks := by
  simp [Silent,flushReservation]

theorem createLedgerSilent {l} : (createUsageRecord l).Silent Session.locks := by
  simp [Silent,createUsageRecord]

/-- Marking a row that was read without a lock takes its lock. -/
theorem markAdds {id e} {g : UsageLedger → UsageLedger} (same : ∀ l, (g l).id = l.id) :
    (getUsageRecordById id >>= fun o => orRaise o e >>= fun l => flushUnlockedLedger (g l)).Adds Session.locks s
      [.ledger id] := by
  simp only [Adds,getUsageRecordById,flushUnlockedLedger,endsBind,endsSelect,endsOrRaise,endsWrite]
  refine ⟨fun _ => List.prefix_append _ _,fun row found => ⟨fun _ => List.prefix_append _ _,fun t _ => ?_⟩⟩
  rw [← (ledgerFound.mp found).2,← same row]
  rfl

theorem finalizeTraces {i} : (finalizeSuccessfulResponse i).Traces Session.locks s
    (pairLocks s.db i.facts.reservationId ++ i.providerCompletedUsageLedgerId.toList.map .ledger) := by
  refine settlementTraces fun r k s => tracesAfter billSilent fun bill _ _ =>
    tracesAfter finalizeCountersSilent fun _ _ _ => tracesAfter flushReservationSilent fun _ _ _ => ?_
  unfold finalizeLedger
  cases i.providerCompletedUsageLedgerId with
  | some id =>
    refine tracesFinish (addsRelabel (markAdds fun _ => rfl)) fun l => ?_
    simp [Silent]
  | none => exact Silent.traces (by simp [Silent,orLedgerWriteError,createSuccessRecord,createUsageRecord])

theorem finalizeCustomTraces {i} : (finalizeSuccessfulCustomResponse i).Traces Session.locks s
    (pairLocks s.db i.facts.reservationId ++ []) := by
  refine settlementTraces fun r k s => tracesAfter finalizeCountersSilent fun _ _ _ =>
    tracesAfter flushReservationSilent fun _ _ _ => tracesAfter currencySilent fun _ _ _ => Silent.traces ?_
  simp [Silent,orLedgerWriteError,createSuccessRecord,createUsageRecord]

theorem interruptedTraces {i} : (recordStreamingInterruptedEstimate i).Traces Session.locks s
    (pairLocks s.db i.facts.reservationId ++ []) := by
  refine settlementTraces fun r k s => Silent.traces ?_
  cases normalizeCurrency i.facts.pricingEstimate.nativeCurrency <;>
  simp [Silent,nonNegativeInt,nonNegativeDecimal,finalizeReservedCounters,ensureReservedCountersCanDecrement,flushKey,
    markPendingReservationFinalized,flushReservation,orLedgerWriteError,ofExcept,createUsageRecord]

theorem failureTraces {i} : (recordProviderFailureAndRelease i).Traces Session.locks s
    (pairLocks s.db i.facts.reservationId ++ []) := by
  unfold recordProviderFailureAndRelease
  refine tracesPair fun r _ _ => tracesRaiseIf fun own => ?_
  rw [not_not.mp own]
  refine tracesKey fun k _ => Silent.traces ?_
  cases currency : normalizeCurrency i.facts.pricingEstimate.nativeCurrency <;>
  simp [Silent,releaseIfPending,subtractReservedCounters,ensureReservedCountersCanDecrement,flushKey,
    markPendingReservationReleased,flushReservation,createFailureLedger,orLedgerWriteError,currency,ofExcept,
    createFailureRecord,createUsageRecord]

theorem completedLedgerTraces {l dryRun now} : (reconcileProviderCompletedLedger l dryRun now).Traces Session.locks s
    ((l.quotaReservationId.elim [] fun id => pairLocks s.db id ++ [.ledger l.id])) := by
  unfold reconcileProviderCompletedLedger
  refine tracesAfter (by simp [Silent,validateProviderCompletedLedger]) fun _ s' valid => ?_
  cases completedLedgerQuiet valid
  cases l.quotaReservationId with
  | none => exact Silent.traces (by simp [Silent,orRaise])
  | some id =>
    simp only [orRaise,pure_bind,Option.elim_some]
    refine tracesPair fun r _ _ => tracesRaiseIf fun _ => tracesRaiseIf fun own => tracesRaiseIf fun _ => ?_
    split
    · exact Silent.traces (by simp [Silent])
    · rw [not_not.mp own]
      refine tracesKey fun k _ => tracesAfter (silentRelabel finalizeCountersSilent) fun _ _ _ =>
        tracesAfter flushReservationSilent fun _ _ _ => ?_
      refine tracesFinish (markAdds fun _ => rfl) fun _ => ?_
      simp [Silent]

theorem recoveryTraces {ledgerId id dryRun now} :
    (reconcileProviderCompletedRecovery ledgerId id dryRun now).Traces Session.locks s
      ((recoveryRows s.db ledgerId id).map (fun l => .ledger l.id) ++
        ((recoveryRows s.db ledgerId id).head?.elim [] fun l =>
          l.quotaReservationId.elim [] fun id => pairLocks s.db id ++ [.ledger l.id])) := by
  unfold reconcileProviderCompletedRecovery
  refine tracesRaiseIf fun one => ?_
  rw [recoveryRows,if_neg one]
  refine tracesBind ?_ fun row s' found => ?_
  · simp [Adds,getProviderCompletedRecoveryRecordForUpdate]
  · simp [getProviderCompletedRecoveryRecordForUpdate] at found
    obtain ⟨⟨-,rfl⟩,rfl⟩ := found
    cases (s.db.providerCompletedRecovery ledgerId id).head? with
    | none =>
      refine Silent.traces ?_
      cases ledgerId <;> simp [Silent,providerCompletedRecoveryMissing,maybeExistingLedger,getUsageRecordById]
    | some l => exact completedLedgerTraces

theorem expiredLedgerSilent {r newId} : (createExpiredLedgerIfAbsent r newId).Silent Session.locks := by
  intro s
  simp only [createExpiredLedgerIfAbsent,getUsageRecordByRequestId,endsBind,endsSelect]
  cases s.db.usageLedger.findUnique r.requestId <;> simp [createFailureRecord,createUsageRecord]

theorem expireTraces {id now dryRun newId} :
    (reconcileExpiredPendingReservation id now dryRun newId).Traces Session.locks s (pairLocks s.db id ++ []) := by
  unfold reconcileExpiredPendingReservation
  refine tracesPair fun r _ _ => tracesRaiseIf fun _ => tracesRaiseIf fun _ => tracesRaiseIf fun _ =>
    tracesAfter (by simp [Silent,getUsageRecordByRequestId]) fun _ _ _ => tracesRaiseIf fun _ => ?_
  split
  · exact Silent.traces (by simp [Silent])
  · refine tracesKey fun k _ => tracesAfter (silentRelabel subtractCountersSilent) fun _ _ _ =>
      tracesAfter flushReservationSilent fun _ _ _ => tracesAfter expiredLedgerSilent fun _ _ _ => Silent.traces ?_
    simp [Silent]

/-- What one candidate has locked when the batch goes on to the next. -/
theorem expireAdds {id now dryRun newId p} (plan : ∀ r ∈ s.db.quotaReservations, r.id = id → p = expirePlan dryRun r) :
    (reconcileExpiredPendingReservation id now dryRun newId).Adds Session.locks s p := by
  cases found : s.db.quotaReservations.find id with
  | none => simp [Adds,reconcileExpiredPendingReservation,getReservationByIdForUpdate,found]
  | some r =>
    obtain ⟨here,named⟩ := reservationFound.mp found
    rw [plan r here named]
    cases dryRun with
    | true =>
      simp [Adds,expirePlan,reconcileExpiredPendingReservation,getReservationByIdForUpdate,getUsageRecordByRequestId,
        found]
    | false =>
      refine addsOf ?_ fun _ s' ok => ?_
      · have traces : (reconcileExpiredPendingReservation id now false newId).Traces Session.locks s
            (pairLocks s.db id ++ []) := expireTraces
        simpa [pairLocks,found,expirePlan] using traces
      · simp [reconcileExpiredPendingReservation,getReservationByIdForUpdate,getUsageRecordByRequestId,
          getGatewayKeyByIdForQuotaUpdate,found,subtractReservedCounters,markPendingReservationExpired,
          -Bool.exists_bool] at ok
        obtain ⟨-,-,-,-,k,foundKey,t,-,t',-,created,ledger,-⟩ := ok
        rw [expiredLedgerSilent.returns ledger]
        simp [expirePlan,foundKey,(keyFound.mp foundKey).2]

theorem expireCarries {id now dryRun newId a s'}
    (ok : (reconcileExpiredPendingReservation id now dryRun newId).Returns s a s') : Carried s.db s'.db := by
  rcases expiredCases ok with ⟨-,same⟩ | ⟨-,_,_,-,expires⟩
  · exact carriedSame (congrArg Db.quotaReservations same)
  · exact expires.settled.carried

theorem candidatesTrace {now dryRun newId candidates} (owned : ∀ c ∈ candidates, ∀ r ∈ s.db.quotaReservations,
      r.id = c.id → r.gatewayKeyId = c.gatewayKeyId) :
    (reconcileCandidates now dryRun newId candidates).Traces Session.locks s
      ((candidates.filter fun r => r.quotaMode ≠ .externalToolFenced).flatMap (expirePlan dryRun)) := by
  induction candidates generalizing s with
  | nil => exact Silent.traces (by simp [Silent,reconcileCandidates])
  | cons c rest ih =>
    unfold reconcileCandidates
    split
    · rename_i fenced
      rw [List.filter_cons_of_neg (by simp [fenced])]
      exact ih fun x mem => owned x (List.mem_cons_of_mem _ mem)
    · rename_i ordinary
      rw [List.filter_cons_of_pos (by simp [ordinary]),List.flatMap_cons]
      refine tracesBind (expireAdds fun r here named => ?_) fun _ s' ok => tracesThen (ih ?_) fun _ => by simp [Silent]
      · rw [expirePlan,expirePlan,named,owned c List.mem_cons_self r here named]
      -- closing one candidate leaves every reservation with its key
      · intro x mem r' present sameId
        obtain ⟨y,old,follows⟩ := (expireCarries ok).back r' present
        rw [follows.key]
        exact owned x (List.mem_cons_of_mem _ mem) y old (follows.id.symm.trans sameId)

theorem batchTraces {now limit dryRun newId} :
    (reconcileExpiredPendingReservations now limit dryRun newId).Traces Session.locks s
      ((batchCandidates s.db now limit).flatMap (expirePlan dryRun)) := by
  refine tracesAfter (by simp [Silent,listExpiredPendingReservations]) fun candidates s' listed => ?_
  obtain ⟨rfl,rfl⟩ := returnsSelect.mp listed
  refine tracesThen (candidatesTrace fun c mem r here same => ?_) fun _ => by simp [Silent]
  rw [eqOfKey here (expiredPendingMem mem) same]

theorem lockedCandidateSilent {l r k} : (validateLockedCandidate l r k).Silent Session.locks := by
  simp [Silent,validateLockedCandidate]

theorem settleHeldSilent {i r k} : (settleHeldReservation i r k).Silent Session.locks := by
  unfold settleHeldReservation
  cases i.action <;> simp [Silent,finalizeReservedCounters,subtractReservedCounters,ensureReservedCountersCanDecrement,
    flushKey,markPendingReservationFinalized,markPendingReservationReleased,flushReservation]

theorem settleLedgerSilent {i l r} : (settleHoldLedger i l r).Silent Session.locks := by
  unfold settleHoldLedger
  cases i.action <;> simp [Silent,updateExternalToolHoldLedger,flushLedger]

theorem resolveLockedSilent {keyId requestId k r} : (resolveLocked keyId requestId k r).Silent Session.locks := by
  simp [Silent,resolveLocked,validateBoundRouteFacts,validateProvider,validateRequestedModel,validateSafeText,
    getUsageRecordsByReservationId,verifyReservedCountersZero,setExternalToolFence,flushKey]

/-- A resolution locks the reservation the fence names, then the key. -/
theorem resolveTraces {keyId requestId permitHeld bound}
    (fenced : ∀ k ∈ s.db.gatewayKeys, k.id = keyId → ∀ id ∈ k.fence.reservationId, id = bound) :
    (resolve keyId requestId permitHeld).Traces Session.locks s [.reservation bound,.gatewayKey keyId] := by
  unfold resolve
  refine tracesAfter (by simp [Silent,getGatewayKeyById]) fun _ _ read => ?_
  obtain ⟨rfl,rfl⟩ := returnsSelect.mp read
  refine tracesAfter (by simp [Silent]) fun seen _ present => ?_
  obtain ⟨found,rfl⟩ := returnsOrRaise.mp present
  obtain ⟨mem,named⟩ := keyFound.mp found
  simp only
  split
  · exact Silent.traces (by simp [Silent])
  split
  · exact Silent.traces (by simp [Silent])
  refine tracesRaiseIf fun _ => tracesAfter (by simp [Silent]) fun id _ bound => ?_
  obtain ⟨names,rfl⟩ := returnsOrRaise.mp bound
  cases fenced seen mem named id names
  refine tracesLocked fun r foundReservation => ?_
  obtain ⟨-,same⟩ := reservationFound.mp foundReservation
  rw [same]
  refine ⟨_,rfl,tracesKey fun locked _ => Silent.traces fun s => ?_⟩
  simp only [endsIte,endsPure,endsThrow,implies_true,true_and,and_true]
  exact fun _ _ _ => resolveLockedSilent s

theorem executeTraces {i l r k} (here : l ∈ s.db.usageLedger) (foundKey : s.db.gatewayKeys.find r.gatewayKeyId = some k)
    (found : s.db.quotaReservations.find r.id = some r) :
    (executeReconciliation i l r k).Traces Session.locks s [.reservation r.id,.gatewayKey k.id] := by
  unfold executeReconciliation
  refine tracesAfter lockedCandidateSilent fun _ s' valid => ?_
  obtain rfl := lockedCandidateQuiet valid
  simp only [validateLockedCandidate,returnsBind,returnsRaiseIf,not_or,not_not] at valid
  obtain ⟨_,_,-,_,_,⟨⟨pending,-⟩,-⟩,_,_,⟨⟨-,-,reservation,-⟩,-⟩,-⟩ := valid
  refine tracesAfter settleHeldSilent fun _ mid settle => tracesAfter settleLedgerSilent fun _ mid' ledger =>
    tracesThen (resolveTraces fun x mem named id bound => ?_) fun _ => by simp [Silent]
  -- the settlement kept the fence, so the resolution comes back to the same reservation
  obtain ⟨settled,sameLedger⟩ := heldSettled foundKey found pending settle
  have inMid : l ∈ mid.db.usageLedger := by rw [sameLedger]; exact here
  obtain ⟨sameKeys,-⟩ := holdLedgerUpdated inMid ledger
  rw [sameKeys] at mem
  have one : x = i.counted k r := eqOfKey mem settled.keys.memNew (named.trans countedFence.2.symm)
  rw [one,countedFence.1,reservation] at bound
  exact (Option.some.inj bound).symm

theorem holdTraces {i} : (reconcileHold i).Traces Session.locks s
    ((holdRows s.db i.reservationId).map (fun l => .ledger l.id) ++
      (pairLocks s.db i.reservationId ++ pairLocks s.db i.reservationId)) := by
  unfold reconcileHold holdRows
  refine tracesAfter ?_ fun _ s' checked => ?_
  · unfold validateReconciliationInput
    cases i.action <;> simp [Silent,validateFinalizeActual,validateReleaseNoCharge]
  obtain rfl := reconciliationInputQuiet checked
  split
  · exact Silent.traces (by simp [Silent,loadCandidate,getUsageRecordsByReservationId,getReservationById,
      getGatewayKeyById,validateLockedCandidate])
  refine tracesAfter (by simp [Silent,ledgerIdForReservation,getUsageRecordsByReservationId]) fun ledgerId s' named => ?_
  obtain rfl := ledgerIdQuiet named
  simp only [ledgerIdForReservation,getUsageRecordsByReservationId,returnsBind,returnsRaiseIf,returnsOrRaise,
    returnsSelect,returnsPure,not_not] at named
  obtain ⟨rows,_,⟨listed,rfl⟩,_,_,⟨single,rfl⟩,l,_,⟨head,rfl⟩,rfl,-⟩ := named
  obtain ⟨x,one⟩ := List.length_eq_one_iff.mp single
  rw [one] at head listed
  cases Option.some.inj head
  rw [listed]
  have here : l ∈ s.db.usageLedger := (memFilter.mp (listed ▸ List.mem_singleton_self l)).1
  refine tracesLocked fun row foundRow => ?_
  cases Option.some.inj (foundRow.symm.trans (ledgerFound.mpr ⟨here,rfl⟩))
  refine ⟨_,rfl,tracesPair fun r present own => tracesLocked fun k foundKey => ?_⟩
  have found : s.db.quotaReservations.find i.reservationId = some r := reservationFound.mpr ⟨present,own⟩
  have again : pairLocks s.db i.reservationId = [.reservation r.id,.gatewayKey k.id] := by
    rw [pairLocks,found,(keyFound.mp foundKey).2]
  refine ⟨_,by rw [(keyFound.mp foundKey).2],tracesAfter (by simp [Silent,getUsageRecordsByReservationId]) fun _ _ read => ?_⟩
  obtain ⟨-,rfl⟩ := returnsSelect.mp read
  refine tracesRaiseIf fun _ => ?_
  unfold reconcileLocked
  split
  · exact Silent.traces (by simp [Silent])
  · rw [again]
    exact executeTraces here foundKey (own.symm ▸ found)
theorem transactionTraces {op : Op} (accounting : op.isAccounting = true) :
    op.transaction.Traces Session.locks s (op.lockPlan s.db) := by
  cases op with
  | reserve i => exact tracesThen reserveTraces fun _ => by simp [Silent]
  | release id now => exact tracesThen releaseTraces fun _ => by simp [Silent]
  | finalize i => exact tracesThen finalizeTraces fun _ => by simp [Silent]
  | finalizeCustom i => exact tracesThen finalizeCustomTraces fun _ => by simp [Silent]
  | failure i => exact tracesThen failureTraces fun _ => by simp [Silent]
  | interrupted i => exact tracesThen interruptedTraces fun _ => by simp [Silent]
  | expire id now dryRun newId => exact tracesThen expireTraces fun _ => by simp [Silent]
  | expireBatch now limit dryRun newId => exact tracesThen batchTraces fun _ => by simp [Silent]
  | completeRecovery ledgerId id dryRun now => exact tracesThen recoveryTraces fun _ => by simp [Silent]
  | reconcileHold i => exact tracesThen holdTraces fun _ => by simp [Silent]
  | _ => cases accounting
end Traces
end SlaifGateway.Quota
