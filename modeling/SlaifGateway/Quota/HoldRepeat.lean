import SlaifGateway.Quota.FenceExclusivity
import SlaifGateway.Store.Redaction

/-! Executing a hold reconciliation again. The second call compares the request with the metadata of the first,
whose reason went through `redact_text` on its way into the ledger row. -/
namespace SlaifGateway.Quota
open Store Library Library.Tx Library.Table

section Requests
variable {i j : HoldReconciliationInput} {s s' : Session}

def HoldReconciliationInput.Amounted (i : HoldReconciliationInput) : Prop :=
  match i.action with
  | .finalizeActual => i.confirmNoCharge = false ∧ (∃ c ∈ i.actualCostEur, 0 ≤ c) ∧ (∃ t ∈ i.actualTotalTokens, 0 ≤ t) ∧
      i.success ≠ none
  | .releaseNoCharge => i.actualCostEur = none ∧ i.actualTotalTokens = none ∧ i.success = none ∧ i.confirmNoCharge = true

structure HoldReconciliationInput.Valid (i : HoldReconciliationInput) : Prop where
  bounded : ∀ reason ∈ i.reason, blank reason = false ∧ reason.toList.length ≤ 500
  actor : i.execute = true → i.actorAdminId ≠ none
  given : i.execute = true → i.reason ≠ none
  amounted : i.Amounted

theorem validateReturns {u} : (validateReconciliationInput i).Returns s u s' ↔ i.Valid ∧ s = s' := by
  have amounts : (match i.action with
      | .finalizeActual => validateFinalizeActual i
      | .releaseNoCharge => validateReleaseNoCharge i).Returns s u s' ↔ i.Amounted ∧ s = s' := by
    unfold HoldReconciliationInput.Amounted
    cases i.action with
    | finalizeActual =>
      simp only [validateFinalizeActual,returnsBind,returnsRaiseIf,not_not,Bool.not_eq_true]
      constructor
      · rintro ⟨_,_,⟨free,rfl⟩,_,_,⟨cost,rfl⟩,_,_,⟨tokens,rfl⟩,outcome,rfl⟩
        exact ⟨⟨free,cost,tokens,outcome⟩,rfl⟩
      · rintro ⟨⟨free,cost,tokens,outcome⟩,rfl⟩
        exact ⟨(),s,⟨free,rfl⟩,(),s,⟨cost,rfl⟩,(),s,⟨tokens,rfl⟩,outcome,rfl⟩
    | releaseNoCharge =>
      simp only [validateReleaseNoCharge,returnsBind,returnsRaiseIf,not_or,not_not,Bool.not_eq_false]
      constructor
      · rintro ⟨_,_,⟨⟨cost,tokens,outcome⟩,rfl⟩,confirmed,rfl⟩
        exact ⟨⟨cost,tokens,outcome,confirmed⟩,rfl⟩
      · rintro ⟨⟨cost,tokens,outcome,confirmed⟩,rfl⟩
        exact ⟨(),s,⟨⟨cost,tokens,outcome⟩,rfl⟩,confirmed,rfl⟩
  unfold validateReconciliationInput
  simp only [returnsBind,returnsRaiseIf]
  constructor
  · rintro ⟨_,_,⟨bounded,rfl⟩,_,_,⟨actor,rfl⟩,_,_,⟨given,rfl⟩,last⟩
    obtain ⟨amounted,rfl⟩ := amounts.mp last
    refine ⟨⟨fun reason held => ?_,fun executed bare => actor ⟨executed,bare⟩,fun executed bare => given ⟨executed,bare⟩,
      amounted⟩,rfl⟩
    have fine : ¬(blank reason = true ∨ 500 < reason.toList.length) := fun bad => bounded ⟨reason,held,bad⟩
    rw [not_or,Bool.not_eq_true,not_lt] at fine
    exact fine
  · rintro ⟨valid,rfl⟩
    refine ⟨(),s,⟨?_,rfl⟩,(),s,⟨fun bad => valid.actor bad.1 bad.2,rfl⟩,(),s,⟨fun bad => valid.given bad.1 bad.2,rfl⟩,
      amounts.mpr ⟨valid.amounted,rfl⟩⟩
    rintro ⟨reason,held,bad⟩
    obtain ⟨said,short⟩ := valid.bounded reason held
    rcases bad with empty | long
    · rw [said] at empty
      cases empty
    · omega

theorem validateQuiet : (validateReconciliationInput i).Ends s (fun _ s' => s' = s) fun _ s' => s' = s := by
  unfold validateReconciliationInput validateFinalizeActual validateReleaseNoCharge
  cases i.action <;> simp

theorem validateEnds {ok : Unit → Session → Prop} {err : ServiceError → Session → Prop} (valid : i.Valid)
    (done : ok () s) : (validateReconciliationInput i).Ends s ok err := by
  have returned : (validateReconciliationInput i).Returns s () s := validateReturns.mpr ⟨valid,rfl⟩
  unfold Ends
  rw [returned]
  exact done

theorem validateRaises {ok : Unit → Session → Prop} {err : ServiceError → Session → Prop} (invalid : ¬i.Valid)
    (raised : ∀ e, err e s) : (validateReconciliationInput i).Ends s ok err := by
  have quiet := validateQuiet (i := i) (s := s)
  unfold Ends at quiet ⊢
  rcases out : (validateReconciliationInput i).exec s with ⟨e | u,s'⟩
  · rw [out] at quiet
    rw [quiet]
    exact raised e
  · exact absurd (validateReturns.mp out).1 invalid

end Requests

-- The other stored text, a printed decimal, goes through the redaction unchanged.
theorem costTextKept {alnum : Char → Bool} {value : String} (printed : ∀ c ∈ value.toList, c ∈ "0123456789.E+-".toList) :
    redactText alnum value = value := by
  have kept : ("0123456789.E+-".toList.all fun c =>
      decide (c ≠ '=' ∧ caseless 'b' c = false ∧ caseless 's' c = false)) = true := by decide +kernel
  exact redactPlain fun c mem => of_decide_eq_true (List.all_eq_true.mp kept c (printed c mem))

section Repeats
variable {i j : HoldReconciliationInput} {s s₁ : Session} {k : GatewayKey} {r : QuotaReservation} {l : UsageLedger}

-- The rows that a reconciliation leaves.
structure Reconciled (db : Db) (reservationId : Uuid) (l : UsageLedger) (r : QuotaReservation) (k : GatewayKey) : Prop where
  only : db.usageLedger.filter (fun x => x.quotaReservationId = some reservationId) = [l]
  reservation : db.quotaReservations.find reservationId = some r
  named : r.id = reservationId
  key : db.gatewayKeys.find r.gatewayKeyId = some k
  terminal : r.status = .finalized ∨ r.status = .released
  free : k.fence.state = .none

theorem settledReconciled {db db'} (settles : HoldSettles i db db' k r l) :
    Reconciled db' i.reservationId (i.settledLedger l r) (i.closed r) ((i.counted k r).withFence .clear) := by
  obtain ⟨mid,l',cleared⟩ := settles.cleared
  have named : (i.closed r).id = i.reservationId := closedSame.2.trans settles.named
  have inside : i.settledLedger l r ∈ mid.usageLedger := by
    rw [← cleared.ledger]
    exact settles.ledger.memNew
  have linked : (i.settledLedger l r).quotaReservationId = some (i.closed r).id := by
    rw [settledHoldSame.2,settles.linked,closedSame.2]
  have mem : i.settledLedger l r ∈ mid.usageLedger.filter fun x => x.quotaReservationId = some (i.closed r).id :=
    memFilter.mpr ⟨inside,decide_eq_true linked⟩
  have only := cleared.only
  rw [only] at mem
  rw [← List.mem_singleton.mp mem,← cleared.ledger,named] at only
  have own : (i.closed r).gatewayKeyId = ((i.counted k r).withFence .clear).id := cleared.own
  exact ⟨only,reservationFound.mpr ⟨settles.settled.reservations.memNew,named⟩,named,
    keyFound.mpr ⟨settles.settled.keys.memNew,own.symm⟩,cleared.terminal,rfl⟩

theorem endsFound {α : Type} {a : α} {e : ServiceError} {ok : α → Session → Prop} {err : ServiceError → Session → Prop} :
    (orRaise (some a) e).Ends s ok err ↔ ok a s := Iff.rfl

theorem repeatEnds {ok err} (rows : Reconciled s.db j.reservationId l r k) (execute : j.execute = true) (valid : j.Valid)
    (matched : reconciliationMatches l.responseMetadata.externalToolAccountingReconciliation j →
      ∀ s', s'.db = s.db → ok (holdReconciliationResult j l r k true) s')
    (conflict : ¬reconciliationMatches l.responseMetadata.externalToolAccountingReconciliation j →
      ∀ e s', s'.db = s.db → err e s') : (reconcileHold j).Ends s ok err := by
  have here : l ∈ s.db.usageLedger := (memFilter.mp (rows.only ▸ List.mem_singleton_self l)).1
  have found : s.db.usageLedger.find l.id = some l := ledgerFound.mpr ⟨here,rfl⟩
  unfold reconcileHold
  rw [endsBind]
  refine validateEnds valid ?_
  rw [if_neg (by simp [execute])]
  simp only [ledgerIdForReservation,getUsageRecordsByReservationId,getUsageRecordByIdForUpdate,getReservationByIdForUpdate,
    getGatewayKeyForUpdate,getGatewayKeyByIdForQuotaUpdate,endsBind,endsSelect,endsRaiseIf,endsFound,endsPure,
    endsSelectOneForUpdate,Session.lockDb,rows.only,rows.reservation,rows.key,rows.named,found,List.length_singleton,
    List.head?_cons,Option.map_some,ne_eq,not_true_eq_false,or_self,not_false_eq_true,false_implies,true_implies,true_and]
  unfold reconcileLocked
  rw [if_pos ⟨rows.terminal,rows.free⟩]
  simp only [endsBind,endsRaiseIf,endsPure]
  exact ⟨fun differs => conflict differs _ _ rfl,fun same => matched (not_not.mp same) _ rfl⟩

theorem settleHeldReturns {s s' : Session} {a} (ok : (settleHeldReservation i r k).Returns s a s') : a = i.closed r := by
  unfold settleHeldReservation at ok
  unfold HoldReconciliationInput.closed
  cases action : i.action with
  | finalizeActual =>
    simp [action,finalizeReservedCounters,markPendingReservationFinalized] at ok
    exact ok.2.choose_spec.2.1.symm
  | releaseNoCharge =>
    simp [action,subtractReservedCounters,markPendingReservationReleased] at ok
    exact ok.2.choose_spec.2.1.symm

theorem settleLedgerReturns {s s' : Session} {a} (ok : (settleHoldLedger i l r).Returns s a s') : a = i.settledLedger l r := by
  unfold settleHoldLedger at ok
  unfold HoldReconciliationInput.settledLedger
  cases action : i.action with
  | finalizeActual =>
    simp [action,updateExternalToolHoldLedger] at ok
    exact ok.1.symm
  | releaseNoCharge =>
    simp [action,updateExternalToolHoldLedger] at ok
    exact ok.1.symm

theorem executedResult {s s' : Session} {a} (ok : (executeReconciliation i l r k).Returns s a s') :
    a = holdReconciliationResult i (i.settledLedger l r) (i.closed r) ((s'.db.gatewayKeys.find k.id).getD k) false := by
  simp only [executeReconciliation,returnsBind,returnsSelect,returnsPure] at ok
  obtain ⟨_,_,-,settled,_,settle,ledger,_,update,_,_,-,_,_,⟨rfl,rfl⟩,rfl,rfl⟩ := ok
  rw [settleHeldReturns settle,settleLedgerReturns update]

-- The first execution: a valid request that settled a held fence, and its result.
theorem executedFirst {s s' : Session} {a} (ok : (reconcileHold i).Returns s a s') (executed : i.execute = true)
    (fresh : a.idempotent = false) : i.Valid ∧ ∃ k r l, HoldSettles i s.db s'.db k r l ∧
      a = holdReconciliationResult i (i.settledLedger l r) (i.closed r) ((i.counted k r).withFence .clear) false := by
  obtain ⟨_,_,checked,_⟩ := returnsBind.mp ok
  refine ⟨(validateReturns.mp checked).1,?_⟩
  rcases reconcileHoldInner ok with ⟨dry,-⟩ | ⟨-,l,r,k,mid,same,here,foundKey,found,rest⟩
  · rw [dry] at executed
    cases executed
  rw [← same] at here foundKey found ⊢
  simp only [reconcileLocked,returnsIte,returnsBind,returnsRaiseIf,returnsPure] at rest
  rcases rest with ⟨-,_,_,⟨-,rfl⟩,rfl,-⟩ | ⟨-,rest⟩
  · cases fresh
  have settles := reconcileExecuted here foundKey found rest
  refine ⟨k,r,l,settles,?_⟩
  have left : s'.db.gatewayKeys.find k.id = some ((i.counted k r).withFence .clear) := settles.settled.keys.findSelf
  rw [executedResult rest,left]
  rfl

-- What the second call compares.
def HoldReconciliationInput.Same (i j : HoldReconciliationInput) : Prop :=
  i.action = j.action ∧ i.actorAdminId = j.actorAdminId ∧ i.reason.map strip = j.reason.map strip ∧
    i.actualCostEur.map (fun _ => i.actualCostText) = j.actualCostEur.map (fun _ => j.actualCostText) ∧
    i.actualTotalTokens = j.actualTotalTokens ∧ i.success = j.success ∧ i.confirmNoCharge = j.confirmNoCharge

theorem settledMetadata : (i.settledLedger l r).responseMetadata.externalToolAccountingReconciliation = some (i.stored r) := by
  unfold HoldReconciliationInput.settledLedger
  cases i.action <;> rfl

theorem amountedCases (valid : i.Amounted) :
    (i.action = .finalizeActual ∧ i.confirmNoCharge = false ∧ ∃ cost tokens success, i.actualCostEur = some cost ∧
      i.actualTotalTokens = some tokens ∧ i.success = some success) ∨
    i.action = .releaseNoCharge ∧ i.confirmNoCharge = true ∧ i.actualCostEur = none ∧ i.actualTotalTokens = none ∧
      i.success = none := by
  unfold HoldReconciliationInput.Amounted at valid
  cases action : i.action with
  | finalizeActual =>
    rw [action] at valid
    obtain ⟨free,⟨cost,costed,_⟩,⟨tokens,counted,_⟩,outcome⟩ := valid
    obtain ⟨success,said⟩ := Option.ne_none_iff_exists'.mp outcome
    exact .inl ⟨rfl,free,cost,tokens,success,costed,counted,said⟩
  | releaseNoCharge =>
    rw [action] at valid
    exact .inr ⟨rfl,valid.2.2.2,valid.1,valid.2.1,valid.2.2.1⟩

-- A valid request matches exactly if it is the same up to the reason, and its reason is the one that was stored.
theorem matchesIff (first : i.Amounted) (second : j.Amounted) :
    reconciliationMatches (some (i.stored r)) j ↔ { i with reason := j.reason }.Same j ∧
      some i.storedReason = j.reason.map strip := by
  unfold reconciliationMatches HoldReconciliationInput.Same HoldReconciliationInput.stored
  rcases amountedCases first with ⟨action,confirm,cost,tokens,success,costed,counted,said⟩ | ⟨action,confirm,costed,counted,said⟩
  · rcases amountedCases second with ⟨action',confirm',cost',tokens',success',costed',counted',said'⟩ |
      ⟨action',confirm',costed',counted',said'⟩
    · simp [action,confirm,costed,counted,said,action',confirm',costed',counted',said']
      tauto
    · simp [action,action']
  · rcases amountedCases second with ⟨action',confirm',cost',tokens',success',costed',counted',said'⟩ |
      ⟨action',confirm',costed',counted',said'⟩
    · simp [action,action']
    · simp [action,confirm,costed,counted,said,action',confirm',costed',counted',said']

-- The second call: the same request is answered idempotently and every other one is refused, exactly if redaction
-- leaves the reason as it is.
theorem holdReconciliationRepeats {alnum : Char → Bool} {a : HoldReconciliationResult}
    (stored : i.reason.map (fun reason => redactText alnum (strip reason)) = some i.storedReason)
    (first : (reconcileHold i).Returns s a s₁) (executed : i.execute = true) (fresh : a.idempotent = false) :
    ((∀ now locks, (reconcileHold { i with now }).Ends ⟨s₁.db,locks⟩
        (fun b s₂ => b = { a with idempotent := true } ∧ s₂.db = s₁.db) fun _ _ => False) ∧
      ∀ (j : HoldReconciliationInput) locks, j.execute = true → j.reservationId = i.reservationId → ¬i.Same j →
        (reconcileHold j).Ends ⟨s₁.db,locks⟩ (fun _ _ => False) fun _ s₂ => s₂.db = s₁.db) ↔
      ∀ reason ∈ i.reason, redactText alnum (strip reason) = strip reason := by
  obtain ⟨valid,k,r,l,settles,result⟩ := executedFirst first executed fresh
  obtain ⟨reason,given,kept⟩ := Option.map_eq_some_iff.mp stored
  have rows := settledReconciled settles
  have again (now : Time) : ({ i with now } : HoldReconciliationInput).Valid :=
    ⟨valid.bounded,valid.actor,valid.given,valid.amounted⟩
  have matched (now : Time) : reconciliationMatches (some (i.stored r)) { i with now } ↔
      redactText alnum (strip reason) = strip reason := by
    rw [matchesIff valid.amounted (again now).amounted,given,← kept,Option.map_some,Option.some.injEq]
    exact and_iff_right ⟨rfl,rfl,rfl,rfl,rfl,rfl,rfl⟩
  constructor
  · rintro ⟨same,-⟩ said held
    rw [given] at held
    cases held
    have answered := same i.now []
    have compared : (reconcileHold { i with now := i.now }).Ends ⟨s₁.db,[]⟩
        (fun _ _ => redactText alnum (strip reason) = strip reason) fun _ _ => True := by
      refine repeatEnds rows executed (again i.now) (fun found _ _ => ?_) fun _ _ _ _ => trivial
      rw [settledMetadata] at found
      exact (matched i.now).mp found
    unfold Ends at answered compared
    rcases out : (reconcileHold { i with now := i.now }).exec ⟨s₁.db,[]⟩ with ⟨_ | b,s₂⟩
    · rw [out] at answered
      exact answered.elim
    · rw [out] at compared
      exact compared
  · intro unchanged
    have clean := unchanged reason given
    refine ⟨fun now locks => ?_,fun j locks execute named differs => ?_⟩
    · refine repeatEnds rows executed (again now) (fun _ s₂ left => ⟨?_,left⟩) fun conflict => ?_
      · rw [result]
        rfl
      · rw [settledMetadata] at conflict
        exact absurd ((matched now).mpr clean) conflict
    · by_cases good : j.Valid
      · refine repeatEnds (j := j) (named ▸ rows) execute good (fun found => ?_) fun _ _ _ left => left
        rw [settledMetadata,matchesIff valid.amounted good.amounted] at found
        obtain ⟨⟨action,actor,_,rest⟩,reasons⟩ := found
        refine absurd ⟨action,actor,?_,rest⟩ differs
        rw [← reasons,given,← kept,Option.map_some,clean]
      · unfold reconcileHold
        rw [endsBind]
        exact validateRaises good fun _ => rfl

end Repeats

section Demo

def heldDb : Db := run demoDb (demoHold.take 2)

def releaseHold (reason storedReason : String) : HoldReconciliationInput :=
  ⟨30,.releaseNoCharge,true,some 9,some reason,none,none,none,true,3000,storedReason,"0"⟩

theorem holdReconciliationRepeatsDemo : ∃ a s₁, (reconcileHold (releaseHold " no charge" "no charge")).Returns ⟨heldDb,[]⟩ a s₁ ∧
    ∀ locks, (reconcileHold (releaseHold " no charge" "no charge")).Ends ⟨s₁.db,locks⟩
      (fun b s₂ => b = { a with idempotent := true } ∧ s₂.db = s₁.db) fun _ _ => False := by
  have ran : (((reconcileHold (releaseHold " no charge" "no charge")).exec ⟨heldDb,[]⟩).1.toOption.any
      fun a => !a.idempotent) = true := by
    decide +kernel
  rcases out : (reconcileHold (releaseHold " no charge" "no charge")).exec ⟨heldDb,[]⟩ with ⟨e | a,s₁⟩
  · rw [out] at ran
    cases ran
  · rw [out] at ran
    have fresh : a.idempotent = false := Bool.not_eq_true' _ ▸ ran
    have stored : (some " no charge").map (fun reason => redactText (fun _ => false) (strip reason)) = some "no charge" := by
      decide +kernel
    have plain : ∀ reason ∈ some " no charge", redactText (fun _ => false) (strip reason) = strip reason := by
      decide +kernel
    exact ⟨a,s₁,out,((holdReconciliationRepeats (i := releaseHold " no charge" "no charge") stored out rfl fresh).mpr plain).1 3000⟩

-- A reason that reads like an assignment is stored redacted, and the exact repeat is refused.
theorem redactedReasonRefused :
    redactText (fun _ => false) "set password=hunter2" = "set password=***" ∧
      (let first := (reconcileHold (releaseHold "set password=hunter2" "set password=***")).exec ⟨heldDb,[]⟩
      first.1.toOption.isSome = true ∧
        ((reconcileHold (releaseHold "set password=hunter2" "set password=***")).exec ⟨first.2.db,[]⟩).1.toOption = none ∧
        ((reconcileHold (releaseHold "set password=***" "set password=***")).exec ⟨first.2.db,[]⟩).1.toOption.isSome = true) := by
  refine ⟨by decide +kernel,by decide +kernel,by decide +kernel,by decide +kernel⟩

end Demo

end SlaifGateway.Quota
