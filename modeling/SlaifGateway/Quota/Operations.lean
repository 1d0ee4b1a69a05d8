import SlaifGateway.Library.Runs
import SlaifGateway.Quota.Reconciliation
import SlaifGateway.Quota.Hold

/-! The accounting transactions the gateway and its workers run, one constructor a
transaction, and runs of them. A transaction commits as a whole or leaves the rows
as they were; concurrent transactions on the same rows are serialized by their
locks, so a run is a list. The two external-tool settlements resolve the fence in
the transaction that settles. -/
namespace SlaifGateway.Quota
open Store Library Library.Tx Library.Table

inductive Op where
  | reserve (i : ReserveInput)
  | release (reservationId : Uuid) (now : Time)
  | finalize (i : FinalizeInput)
  | finalizeCustom (i : FinalizeCustomInput)
  | recordCompleted (i : RecordInput)
  | markFailed (usageLedgerId reservationId : Uuid)
  | failure (i : FailureInput)
  | interrupted (i : InterruptedInput)
  | expire (reservationId : Uuid) (now : Time) (dryRun : Bool) (newId : Uuid)
  | expireBatch (now : Time) (limit : Nat) (dryRun : Bool) (newId : Uuid → Uuid)
  | completeRecovery (usageLedgerId reservationId : Option Uuid) (dryRun : Bool) (now : Time)
  | acquire (i : AcquireInput)
  | resolve (gatewayKeyId : Uuid) (requestId : String) (permitHeld : Bool)
  | place (i : HoldInput)
  | reconcileHold (i : HoldReconciliationInput)
  | finalizeExternal (i : FinalizeCustomInput)
  | failureExternal (i : FailureInput)

/-- `_finalize_external_web_search_response`: the settlement and the fence in one transaction. -/
def finalizeExternalResponse (i : FinalizeCustomInput) : Action Unit := do
  let _ ← finalizeSuccessfulCustomResponse i
  let _ ← resolve i.facts.authenticatedKey.gatewayKeyId i.facts.requestId false
  pure ()

/-- `_record_provider_failure_and_release(..., external_tool=True)`. -/
def recordExternalFailureAndRelease (i : FailureInput) : Action Unit := do
  let _ ← recordProviderFailureAndRelease i
  let _ ← resolve i.facts.authenticatedKey.gatewayKeyId i.facts.requestId false
  pure ()

def Op.transaction : Op → Action Unit
  | .reserve i => do let _ ← reserveForChatCompletion i
  | .release id now => do let _ ← releaseReservation id now
  | .finalize i => do let _ ← finalizeSuccessfulResponse i
  | .finalizeCustom i => do let _ ← finalizeSuccessfulCustomResponse i
  | .recordCompleted i => do let _ ← recordProviderCompletedBeforeFinalization i
  | .markFailed ledgerId id => do let _ ← markProviderCompletedFinalizationFailed ledgerId id
  | .failure i => do let _ ← recordProviderFailureAndRelease i
  | .interrupted i => do let _ ← recordStreamingInterruptedEstimate i
  | .expire id now dryRun newId => do let _ ← reconcileExpiredPendingReservation id now dryRun newId
  | .expireBatch now limit dryRun newId => do
    let _ ← reconcileExpiredPendingReservations now limit dryRun newId
  | .completeRecovery ledgerId id dryRun now => do
    let _ ← reconcileProviderCompletedRecovery ledgerId id dryRun now
  | .acquire i => do let _ ← Quota.acquire i
  | .resolve keyId requestId permitHeld => do let _ ← Quota.resolve keyId requestId permitHeld
  | .place i => do let _ ← Quota.place i
  | .reconcileHold i => do let _ ← Quota.reconcileHold i
  | .finalizeExternal i => finalizeExternalResponse i
  | .failureExternal i => recordExternalFailureAndRelease i

/-- The rows after a transaction that commits. -/
def committed (x : Action Unit) (db : Db) : Option Db :=
  match x.exec ⟨db,[]⟩ with
  | (.ok _,s) => some s.db
  | (.error _,_) => none

theorem committedIff {x db db'} : committed x db = some db' ↔ ∃ locks, x.Returns ⟨db,[]⟩ () ⟨db',locks⟩ := by
  unfold committed Returns
  rcases x.exec ⟨db,[]⟩ with ⟨_ | _,⟨_,_⟩⟩ <;> simp [eq_comm]

def next (db : Db) (op : Op) : Option Db := committed op.transaction db

def run (db : Db) (ops : List Op) : Db := Runs.run next db ops

def commits (db : Db) (ops : List Op) : List (Commit Db Op) := Runs.commits next db ops

section Inversions
variable {db db' : Db}

theorem committedFirst {α : Type} {x : Action α} (ok : committed (do let _ ← x) db = some db') :
    ∃ a locks, x.Returns ⟨db,[]⟩ a ⟨db',locks⟩ := by
  obtain ⟨locks,ok⟩ := committedIff.mp ok
  simp only [returnsBind,returnsPure] at ok
  obtain ⟨a,_,first,-,rfl⟩ := ok
  exact ⟨a,locks,first⟩

/-- What the fence resolution at the end of a settling transaction did to the settled key. -/
theorem resolvedAfter {mid : Db} {k k₁ r r' actual keyId requestId s a s'} (settled : Settled db mid k k₁ r r' actual)
    (same : s.db = mid) (own : r.gatewayKeyId = keyId) (ok : (Quota.resolve keyId requestId false).Returns s a s') :
    (s'.db = mid ∧ k₁.fence.state ≠ .active) ∨
      ∃ x l, x.requestId = requestId ∧ k₁.fence.state = .active ∧ Cleared mid s'.db k₁ x l := by
  subst same
  have sameId : k₁.id = keyId := settled.counters.1.trans (settled.own.symm.trans own)
  rcases resolveCases ok with ⟨kept,-,x,mem,named,idle⟩ | ⟨x,y,l,named,request,state,cleared⟩
  · left
    rw [eqOfKey mem settled.keys.memNew (named.trans sameId.symm)] at idle
    refine ⟨kept,fun active => ?_⟩
    rw [active] at idle
    simp at idle
  · right
    cases eqOfKey cleared.keys.here settled.keys.memNew (named.trans sameId.symm)
    refine ⟨y,l,request,?_,cleared⟩
    have bound := cleared.bound
    cases now : k₁.fence.state with
    | none => exact absurd now bound
    | active => rfl
    | held => simp [now] at state

theorem finalizeExternalCases {i s a s'} (ok : (finalizeExternalResponse i).Returns s a s') :
    ∃ k r mid, r.id = i.facts.reservationId ∧
      Settled s.db mid k (k.finalizeReserved r.reserved i.bill.amounts i.facts.finishedAt) r
        (r.markFinalized i.facts.finishedAt) i.bill.amounts ∧
      s.db.usageLedger.Inserted i.ledger.asSuccess mid.usageLedger ∧
      ((s'.db = mid ∧ k.fence.state ≠ .active) ∨ ∃ x l, x.requestId = i.facts.requestId ∧ k.fence.state = .active ∧
        Cleared mid s'.db (k.finalizeReserved r.reserved i.bill.amounts i.facts.finishedAt) x l) := by
  simp only [finalizeExternalResponse,returnsBind,returnsPure] at ok
  obtain ⟨_,mid,first,_,_,second,-,rfl⟩ := ok
  obtain ⟨k,r,named,own,settled,ledger⟩ := finalizeCustomSettled first
  exact ⟨k,r,mid.db,named,settled,ledger,resolvedAfter settled rfl own second⟩

theorem failureExternalCases {i s a s'} (ok : (recordExternalFailureAndRelease i).Returns s a s') :
    ∃ r mid, r ∈ s.db.quotaReservations ∧ r.id = i.facts.reservationId ∧
      s.db.usageLedger.Inserted i.ledger.asFailure mid.usageLedger ∧
      ((∃ k, Settled s.db mid k (k.subtractReserved r.reserved) r (r.markReleased i.facts.finishedAt) 0 ∧
          ((s'.db = mid ∧ k.fence.state ≠ .active) ∨ ∃ x l, x.requestId = i.facts.requestId ∧
            k.fence.state = .active ∧ Cleared mid s'.db (k.subtractReserved r.reserved) x l)) ∨
        (r.status ≠ .pending ∧ mid.gatewayKeys = s.db.gatewayKeys ∧
          mid.quotaReservations = s.db.quotaReservations ∧ (s'.db = mid ∨ ∃ k x l, Cleared mid s'.db k x l))) := by
  simp only [recordExternalFailureAndRelease,returnsBind,returnsPure] at ok
  obtain ⟨_,mid,first,_,_,second,-,rfl⟩ := ok
  obtain ⟨r,here,named,own,ledger,⟨k,settled⟩ | ⟨closed,sameKeys,sameReservations⟩⟩ := failureCases first
  · exact ⟨r,mid.db,here,named,ledger,Or.inl ⟨k,settled,resolvedAfter settled rfl own second⟩⟩
  · refine ⟨r,mid.db,here,named,ledger,Or.inr ⟨closed,sameKeys,sameReservations,?_⟩⟩
    rcases resolveCases second with ⟨kept,-⟩ | ⟨k,x,l,-,-,-,cleared⟩
    · exact Or.inl kept
    · exact Or.inr ⟨k,x,l,cleared⟩
end Inversions

/-- Every committed transaction is one of the counter movements, or a chain of zero-cost expirations. -/
inductive Moves (db db' : Db) : Prop where
  | opened {k k' r} (h : Opened db db' k k' r)
  | settled {k k' r r' actual} (h : Settled db db' k k' r r' actual)
  | expired {now ids} (h : Relation.ReflTransGen (ExpiresOne now ids) db db')
  | kept (h : Kept db db')

theorem keptSame {db db' : Db} (keys : db'.gatewayKeys = db.gatewayKeys)
    (reservations : db'.quotaReservations = db.quotaReservations) : Kept db db' := ⟨reservations,Or.inl keys⟩

theorem keptOf {db db' : Db} (same : db' = db) : Kept db db' := by
  rw [same]
  exact keptSame rfl rfl

theorem Cleared.kept {db db' k r l} (h : Cleared db db' k r l) : Kept db db' := 
  ⟨h.reservations,Or.inr ⟨k,_,h.keys,rfl,Or.inr rfl⟩⟩

/-- A clearing after a step that left keys and reservations alone. -/
theorem Cleared.keptAfter {db mid db' : Db} {k r l} (h : Cleared mid db' k r l) (keys : mid.gatewayKeys = db.gatewayKeys)
    (reservations : mid.quotaReservations = db.quotaReservations) : Kept db db' := by
  refine ⟨h.reservations.trans reservations,Or.inr ⟨k,k.withFence .clear,?_,rfl,Or.inr rfl⟩⟩
  rw [← keys]
  exact h.keys

theorem nextMoves {db op db'} (ok : next db op = some db') : Moves db db' := by
  cases op with
  | reserve i =>
    obtain ⟨_,_,ok⟩ := committedFirst ok
    obtain ⟨_,_,opened,-⟩ := reserveOpened ok
    exact .opened opened
  | release id now =>
    obtain ⟨_,_,ok⟩ := committedFirst ok
    rcases releaseCases ok with same | ⟨_,_,_,_,settled,-⟩
    · exact .kept (keptOf same)
    · exact .settled settled
  | finalize i =>
    obtain ⟨_,_,ok⟩ := committedFirst ok
    obtain ⟨_,_,_,-,-,-,settled,-⟩ := finalizeSettled ok
    exact .settled settled
  | finalizeCustom i =>
    obtain ⟨_,_,ok⟩ := committedFirst ok
    obtain ⟨_,_,-,-,settled,-⟩ := finalizeCustomSettled ok
    exact .settled settled
  | recordCompleted i =>
    obtain ⟨_,_,ok⟩ := committedFirst ok
    obtain ⟨_,-,-,-,-,same | ⟨_,-,keys,reservations,-⟩⟩ := recordCases ok
    · exact .kept (keptOf same)
    · exact .kept (keptSame keys reservations)
  | markFailed ledgerId id =>
    obtain ⟨_,_,ok⟩ := committedFirst ok
    obtain ⟨keys,reservations,-⟩ := markFailedUpdated ok
    exact .kept (keptSame keys reservations)
  | failure i =>
    obtain ⟨_,_,ok⟩ := committedFirst ok
    obtain ⟨_,-,-,-,-,⟨_,settled⟩ | ⟨-,keys,reservations⟩⟩ := failureCases ok
    · exact .settled settled
    · exact .kept (keptSame keys reservations)
  | interrupted i =>
    obtain ⟨_,_,ok⟩ := committedFirst ok
    obtain ⟨_,_,-,-,settled,-⟩ := interruptedSettled ok
    exact .settled settled
  | expire id now dryRun newId =>
    obtain ⟨_,_,ok⟩ := committedFirst ok
    rcases expiredCases ok with ⟨-,same⟩ | ⟨-,_,_,-,expires⟩
    · exact .kept (keptOf same)
    · exact .settled expires.settled
  | expireBatch now limit dryRun newId =>
    obtain ⟨_,_,ok⟩ := committedFirst ok
    rcases batchChain ok with ⟨-,same⟩ | ⟨-,chain⟩
    · exact .kept (keptOf same)
    · exact .expired chain
  | completeRecovery ledgerId id dryRun now =>
    obtain ⟨_,_,ok⟩ := committedFirst ok
    rcases completedCases ok with ⟨-,same⟩ | ⟨-,_,_,_,-,-,completes⟩
    · exact .kept (keptOf same)
    · exact .settled completes.settled
  | acquire i =>
    obtain ⟨_,_,ok⟩ := committedFirst ok
    rcases acquireCases ok with ⟨same,-⟩ | ⟨_,_,_,fenced⟩
    · exact .kept (keptOf same)
    · exact .opened fenced.opened
  | resolve keyId requestId permitHeld =>
    obtain ⟨_,_,ok⟩ := committedFirst ok
    rcases resolveCases ok with ⟨same,-⟩ | ⟨_,_,_,-,-,-,cleared⟩
    · exact .kept (keptOf same)
    · exact .kept cleared.kept
  | place i =>
    obtain ⟨_,_,ok⟩ := committedFirst ok
    rcases placeCases ok with same | ⟨_,_,holds⟩
    · exact .kept (keptOf same)
    · exact .kept ⟨holds.reservations,Or.inr ⟨_,_,holds.keys,rfl,Or.inl holds.reservation.symm⟩⟩
  | reconcileHold i =>
    obtain ⟨_,_,ok⟩ := committedFirst ok
    rcases reconcileHoldCases ok with same | ⟨_,_,_,settles⟩
    · exact .kept (keptOf same)
    · exact .settled settles.settled
  | finalizeExternal i =>
    obtain ⟨_,ok⟩ := committedIff.mp ok
    obtain ⟨_,_,_,-,settled,-,⟨rfl,-⟩ | ⟨_,_,-,-,cleared⟩⟩ := finalizeExternalCases ok
    · exact .settled settled
    · exact .settled (settled.thenCleared cleared)
  | failureExternal i =>
    obtain ⟨_,ok⟩ := committedIff.mp ok
    obtain ⟨_,_,-,-,-,⟨_,settled,⟨rfl,-⟩ | ⟨_,_,-,-,cleared⟩⟩ | ⟨-,keys,reservations,rest⟩⟩ := failureExternalCases ok
    · exact .settled settled
    · exact .settled (settled.thenCleared cleared)
    · rcases rest with rfl | ⟨_,_,_,cleared⟩
      · exact .kept (keptSame keys reservations)
      · exact .kept (cleared.keptAfter keys reservations)

/-- A property that one opening, one settlement and a fence change keep survives every transaction. -/
theorem Moves.preserves {P : Db → Prop} {db db'} (h : Moves db db')
    (opens : ∀ {db db' k k' r}, Opened db db' k k' r → P db → P db')
    (settles : ∀ {db db' k k' r r' actual}, Settled db db' k k' r r' actual → P db → P db')
    (keeps : ∀ {db db'}, Kept db db' → P db → P db') (start : P db) : P db' := by
  cases h with
  | opened h => exact opens h start
  | settled h => exact settles h start
  | kept h => exact keeps h start
  | expired h =>
    induction h with
    | refl => exact start
    | tail _ step ih =>
      obtain ⟨_,_,-,expires⟩ := step
      exact settles expires.settled ih

/-! A small gateway to run the model on: one key with finite limits and nothing in flight. -/

def demoKey : GatewayKey where
  id := 1
  status := .active
  keyPurpose := .standard
  validFrom := 0
  validUntil := 1000000000000
  limit := ⟨some 10,some 1000,some 10⟩
  used := 0
  reserved := 0
  externalToolPolicy := some ⟨.externalToolFenced,["provider_web_search"],[],5⟩
  fence := .clear
  lastUsedAt := none
  lastQuotaResetAt := none
  quotaResetCount := 0

def demoDb : Db where
  gatewayKeys := ⟨[demoKey],by simp,by simp [keySchema]; decide +kernel⟩
  quotaReservations := ⟨[],by simp,by simp⟩
  usageLedger := ⟨[],by simp,by simp⟩

def demoRoute : RouteResolutionResult := ⟨"gpt","gpt","openai",some "openai"⟩

def demoReserve (newId : Uuid) (requestId : String) (cost : ℚ) : ReserveInput :=
  ⟨⟨1⟩,demoRoute,⟨10,20,none⟩,⟨10,20,cost⟩,requestId,"chat.completions",1000,newId⟩

def demoFacts (reservationId : Uuid) (requestId : String) (newId : Uuid) : RequestFacts :=
  ⟨reservationId,⟨1⟩,demoRoute,⟨1,none,"EUR"⟩,requestId,"chat.completions",false,2000,newId⟩
end SlaifGateway.Quota
