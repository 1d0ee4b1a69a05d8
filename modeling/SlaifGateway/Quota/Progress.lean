import SlaifGateway.Quota.Settlement

/-! Progress of the reconcilers: for a stale ordinary reservation one of the two
goes through, unless its row is a failed finalization without positive usage and
cost, which the recovery refuses on purpose and the expiry leaves to it. -/
namespace SlaifGateway.Quota
open Store Library Library.Tx Library.Table

/-- Every reservation's key exists. -/
def Keyed (db : Db) : Prop := ∀ r ∈ db.quotaReservations, ∃ k ∈ db.gatewayKeys, k.id = r.gatewayKeyId

section Keys
variable {db db' : Db} {k k' : GatewayKey} {r r' : QuotaReservation} {actual : Amounts}

theorem keyKept (keys : db.gatewayKeys.Updated k k' db'.gatewayKeys) {id} (before : ∃ x ∈ db.gatewayKeys, x.id = id) :
    ∃ x ∈ db'.gatewayKeys, x.id = id := by
  obtain ⟨x,mem,named⟩ := before
  by_cases same : x.id = k.id
  · exact ⟨k',keys.memNew,keys.key.trans (same.symm.trans named)⟩
  · exact ⟨x,keys.memKept mem same,named⟩

theorem nextKeyed {op} (ok : next db op = some db') (before : Keyed db) : Keyed db' := by
  refine (nextMoves ok).preserves ?_ ?_ ?_ before
  · intro _ _ _ _ _ h before x here
    rcases (h.reservations.mem x).mp here with rfl | old
    · exact ⟨_,h.keys.memNew,h.keys.key.trans h.own.symm⟩
    · exact keyKept h.keys (before x old)
  · intro _ _ _ _ _ _ _ h before x here
    obtain ⟨y,old,follows⟩ := h.carried.back x here
    rw [follows.key]
    exact keyKept h.keys (before y old)
  · intro _ _ h before x here
    rw [h.reservations] at here
    rcases h.keys with same | ⟨_,_,updated,-⟩
    · rw [same]
      exact before x here
    · exact keyKept updated (before x here)
end Keys

/-- What the recovery requires of a row beyond its mark. -/
structure Repairable (l : UsageLedger) : Prop where
  sourced : l.provider ≠ "" ∧ l.endpoint ≠ ""
  tokens : 0 < l.totalTokens
  cost : ∃ c ∈ l.actualCostEur, 0 < c

section Succeeds
variable {db : Db} {k : GatewayKey} {r : QuotaReservation} {l : UsageLedger} {now : Time} {newId : Uuid}

theorem committedOf {α : Type} {x : Action α} (ok : ∃ s a, x.Returns ⟨db,[]⟩ a s) :
    ∃ db', committed (do let _ ← x) db = some db' := by
  obtain ⟨s,a,ok⟩ := ok
  exact ⟨s.db,committedIff.mpr ⟨s.locks,returnsBind.mpr ⟨a,s,ok,returnsPure.mpr ⟨rfl,rfl⟩⟩⟩⟩

theorem expiredLedgerSucceeds {s : Session} (cost : 0 ≤ r.reserved.costEur) (fresh : ∀ x ∈ s.db.usageLedger, x.id ≠ newId) :
    ∃ s' a, (createExpiredLedgerIfAbsent r newId).Returns s a s' := by
  simp only [createExpiredLedgerIfAbsent,getUsageRecordByRequestId,returnsBind,returnsSelect]
  cases present : s.db.usageLedger.findUnique r.requestId with
  | some row => exact ⟨s,false,some row,s,⟨rfl,rfl⟩,returnsPure.mpr ⟨rfl,rfl⟩⟩
  | none =>
    have absent := findUniqueNone.mp present
    have valid : UsageLedger.Valid (expiredLedger r newId).asFailure := by
      simp [UsageLedger.Valid,UsageLedger.asFailure,expiredLedger,cost]
    obtain ⟨t,inserted⟩ := insertOf (t := s.db.usageLedger) (r := (expiredLedger r newId).asFailure) valid
      fun x mem => ⟨(fresh x mem).symm,fun same => absent x mem same.symm⟩
    refine ⟨s.withLedger t,true,none,s,⟨rfl,rfl⟩,?_⟩
    simp [createFailureRecord,inserted]

section Counters
variable (mem : k ∈ db.gatewayKeys) (own : r.gatewayKeyId = k.id) (enough : r.reserved ≤ k.reserved)
  (here : r ∈ db.quotaReservations) (pending : r.status = .pending)
include mem own enough here pending

theorem expireReturns {locks : List Row} (due : r.expiresAt ≤ now) (ordinary : r.quotaMode = .strictBounded)
    (unmarked : Unmarked db r) (fresh : ∀ x ∈ db.usageLedger, x.id ≠ newId) :
    ∃ s a, (reconcileExpiredPendingReservation r.id now false newId).Returns ⟨db,locks⟩ a s := by
  have valid : QuotaReservation.Valid r := validOf here
  obtain ⟨used,-,rest⟩ := validOf mem
  obtain ⟨t,keys⟩ := updateOf (r := k.subtractReserved r.reserved) mem ⟨used,sub_nonneg.mpr enough,rest⟩ rfl rfl
  obtain ⟨t',reservations⟩ := updateOf (r := r.markExpired now) here valid rfl rfl
  have found : db.quotaReservations.find r.id = some r := reservationFound.mpr ⟨here,rfl⟩
  have foundKey : db.gatewayKeys.find r.gatewayKeyId = some k := keyFound.mpr ⟨mem,own.symm⟩
  have clean : (db.usageLedger.findUnique r.requestId).any UsageLedger.needsReconciliation = false := by
    cases present : db.usageLedger.findUnique r.requestId with
    | none => rfl
    | some row =>
      obtain ⟨inLedger,request⟩ := requestLedgerFound.mp present
      exact unmarked row inLedger request
  simp [reconcileExpiredPendingReservation,getReservationByIdForUpdate,getUsageRecordByRequestId,
    getGatewayKeyByIdForQuotaUpdate,subtractReservedCounters,markPendingReservationExpired,found,foundKey,pending,due,
    ordinary,clean,enough,keys,reservations,-Bool.exists_bool]
  exact expiredLedgerSucceeds (r := r.markExpired now) valid.1.1 fresh

theorem expireSucceeds (due : r.expiresAt ≤ now) (ordinary : r.quotaMode = .strictBounded) (unmarked : Unmarked db r)
    (fresh : ∀ x ∈ db.usageLedger, x.id ≠ newId) : ∃ db', next db (.expire r.id now false newId) = some db' :=
  committedOf (expireReturns mem own enough here pending due ordinary unmarked fresh)

theorem recoverySucceeds (row : l ∈ db.usageLedger) (linked : l.quotaReservationId = some r.id) (recorded : Recorded l r)
    (marked : UsageLedger.needsReconciliation l = true) (repairable : Repairable l) :
    ∃ db', next db (.completeRecovery (some l.id) none false now) = some db' := by
  have recovery := recorded.marked marked
  have validRow : UsageLedger.Valid l := validOf row
  have valid : QuotaReservation.Valid r := validOf here
  obtain ⟨used,-,rest⟩ := validOf mem
  obtain ⟨c,cost,positive⟩ := repairable.cost
  have nonneg : 0 ≤ UsageLedger.actual l := by
    refine ⟨?_,validRow.2.2.1,zero_le_one⟩
    simp only [UsageLedger.actual,Option.mem_def.mp cost,Option.getD_some]
    exact positive.le
  have only : db.providerCompletedRecovery (some l.id) none = [l] := by
    refine filterOne row (by simp [recovery]) fun x _ chosen => ?_
    simp only [decide_eq_true_eq] at chosen
    exact chosen.2.1 l.id rfl
  obtain ⟨t,keys⟩ := updateOf (r := k.finalizeReserved r.reserved (UsageLedger.actual l) now) mem
    ⟨add_nonneg used nonneg,sub_nonneg.mpr enough,rest⟩ rfl rfl
  obtain ⟨t',reservations⟩ := updateOf (r := r.markFinalized now) here valid rfl rfl
  obtain ⟨t'',ledger⟩ := updateOf (r := l.markFinalized (reconciledMetadata l.responseMetadata)) row validRow rfl rfl
  have found : db.quotaReservations.find r.id = some r := reservationFound.mpr ⟨here,rfl⟩
  have foundKey : db.gatewayKeys.find l.gatewayKeyId = some k := keyFound.mpr ⟨mem,own.symm.trans recorded.key.symm⟩
  have foundRow : db.usageLedger.find l.id = some l := ledgerFound.mpr ⟨row,rfl⟩
  refine committedOf ?_
  simp [reconcileProviderCompletedRecovery,getProviderCompletedRecoveryRecordForUpdate,only]
  simp [reconcileProviderCompletedLedger,validateProviderCompletedLedger,getReservationByIdForUpdate,
    getGatewayKeyByIdForQuotaUpdate,finalizeReservedCounters,markPendingReservationFinalized,
    markProviderCompletedReconciled,getUsageRecordById,linked,found,foundRow,pending,reservations,ledger,
    recorded.key,-Bool.exists_bool]
  simp only [UsageLedger.isProviderCompletedRecovery,decide_eq_true_eq] at recovery
  refine ⟨recovery.2.1,recovery.2.2,repairable.sourced,repairable.tokens,⟨recorded.estimated,recorded.actual⟩,?_,
    k,keyFound.mpr ⟨mem,own.symm⟩,enough,t,keys⟩
  intro x states
  cases Option.some.inj (cost.symm.trans states)
  exact positive
end Counters
end Succeeds

/-- The calls the reconcilers can make for a reservation: its expiry, or the recovery of its request's row. -/
def Reconciles (db : Db) (r : QuotaReservation) (now : Time) (newId : Uuid) (op : Op) : Prop :=
  op = .expire r.id now false newId ∨
    ∃ l ∈ db.usageLedger, l.requestId = r.requestId ∧ op = .completeRecovery (some l.id) none false now

/-- One of them commits and leaves the reservation closed. -/
def Progresses (db : Db) (r : QuotaReservation) (now : Time) (newId : Uuid) : Prop :=
  ∃ op db', Reconciles db r now newId op ∧ next db op = some db' ∧
    ∃ r' ∈ db'.quotaReservations, r'.id = r.id ∧ r'.status ≠ .pending

section Progress
variable {db : Db} {r : QuotaReservation} {now : Time} {newId : Uuid}

theorem expireProgresses {db'} (ok : next db (.expire r.id now false newId) = some db') : Progresses db r now newId := by
  refine ⟨_,db',Or.inl rfl,ok,?_⟩
  obtain ⟨_,_,ok⟩ := committedFirst ok
  rcases expiredCases ok with ⟨dry,-⟩ | ⟨-,k,x,named,expires⟩
  · cases dry
  · exact ⟨_,expires.settled.reservations.memNew,named,expires.settled.terminal⟩

theorem recoveryProgresses {db' l} (row : l ∈ db.usageLedger) (of : RowOf l r)
    (ok : next db (.completeRecovery (some l.id) none false now) = some db') : Progresses db r now newId := by
  refine ⟨_,db',Or.inr ⟨l,row,of.request,rfl⟩,ok,?_⟩
  obtain ⟨_,_,ok⟩ := committedFirst ok
  rcases completedCases ok with ⟨dry,-⟩ | ⟨-,x,k,y,named,-,completes⟩
  · cases dry
  · have one : x = l := eqOfKey completes.ledger.here row (named l.id rfl)
    have mine : y.id = r.id := Option.some.inj (completes.linked.symm.trans (one ▸ of.linked))
    exact ⟨_,completes.settled.reservations.memNew,mine,completes.settled.terminal⟩

/-- What either reconciler needs: the expiry an unmarked row, the recovery a repairable one. -/
theorem progressRepairs (progress : Progresses db r now newId) {l} (row : l ∈ db.usageLedger)
    (request : l.requestId = r.requestId) (here : r ∈ db.quotaReservations)
    (marked : UsageLedger.needsReconciliation l = true) : Repairable l := by
  obtain ⟨op,db',rfl | ⟨x,inLedger,same,rfl⟩,ok,-⟩ := progress
  · obtain ⟨_,_,ok⟩ := committedFirst ok
    rcases expiredCases ok with ⟨dry,-⟩ | ⟨-,k,y,named,expires⟩
    · cases dry
    · have one : y = r := eqOfKey expires.settled.reservations.here here named
      have clean := expires.unmarked l row (one ▸ request)
      rw [clean] at marked
      cases marked
  · obtain ⟨_,_,ok⟩ := committedFirst ok
    rcases completedCases ok with ⟨dry,-⟩ | ⟨-,y,k,_,named,-,completes⟩
    · cases dry
    · have one : y = l := (eqOfKey completes.ledger.here inLedger (named x.id rfl)).trans
        (eqOfUnique inLedger row (same.trans request.symm))
      subst one
      exact ⟨completes.sourced,completes.tokens,completes.cost⟩
end Progress

theorem freshKeyed {db} (h : Fresh db) : Keyed db := fun r here => absurd here (h.reservations r)

theorem runKeyed {db ops} (start : Keyed db) : Keyed (run db ops) :=
  Runs.invariantRun (p := fun _ _ => True) Keyed (fun _ _ _ before _ ok => nextKeyed ok before) start
    (Runs.alongForall fun _ _ _ => trivial)

theorem staleReservationProgresses {db : Db} {ops : List Op} (start : Fresh db)
    (disciplined : Runs.Along next Disciplined db ops) :
    ∀ r ∈ (run db ops).quotaReservations, ∀ now newId, r.quotaMode = .strictBounded → r.status = .pending →
      r.expiresAt ≤ now → (∀ l ∈ (run db ops).usageLedger, l.id ≠ newId) →
      (∀ l ∈ (run db ops).usageLedger, l.requestId = r.requestId → UsageLedger.needsReconciliation l = true →
        Repairable l) →
      Progresses (run db ops) r now newId := by
  intro r here now newId ordinary pending due fresh repairable
  have inv := (runSettle start disciplined).ledger
  obtain ⟨k,mem,own⟩ := runKeyed (freshKeyed start) r here
  have conserved := runConserves (idleConserved (start.idle r.gatewayKeyId)) ops
  have enough := pendingCovered conserved mem own here rfl pending
  by_cases unmarked : Unmarked (run db ops) r
  · obtain ⟨db',ok⟩ := expireSucceeds mem own.symm enough here pending due ordinary unmarked fresh
    exact expireProgresses ok
  · -- the one row of the request is marked, so it is the row of this reservation
    simp only [Unmarked,not_forall] at unmarked
    obtain ⟨l,row,request,marked⟩ := unmarked
    replace marked := eq_true_of_ne_false marked
    obtain ⟨x,other,of⟩ := inv l row
    have one : x = r := eqOfUnique other here (of.request.symm.trans request)
    subst one
    have succeeds : ∃ db', next (run db ops) (.completeRecovery (some l.id) none false now) = some db' :=
      recoverySucceeds mem own.symm enough here pending row of.linked (of.recorded pending ordinary) marked
        (repairable l row request marked)
    obtain ⟨db',ok⟩ := succeeds
    exact recoveryProgresses row of ok

/-- A request whose finalization failed after its usage was recorded. -/
def demoFailed (bill : Bill) : List Op :=
  [.reserve (demoReserve 10 "a" 1),.recordCompleted ⟨demoFacts 10 "a" 20,.ok bill⟩,.markFailed 20 10]

theorem demoFailedDisciplined (bill : Bill) (own : OwnRequest (run demoDb [.reserve (demoReserve 10 "a" 1)])
    (demoFacts 10 "a" 20)) : Runs.Along next Disciplined demoDb (demoFailed bill) :=
  ⟨trivial,own,trivial,trivial⟩

theorem staleReservationProgressesDemo : Fresh demoDb ∧ Runs.Along next Disciplined demoDb (demoFailed demoBill) ∧
    (∃ l ∈ (run demoDb (demoFailed demoBill)).usageLedger, UsageLedger.needsReconciliation l = true) ∧
    Progresses (run demoDb (demoFailed demoBill)) (demoReserve 10 "a" 1).reservation 900001000 21 := by
  have disciplined := demoFailedDisciplined demoBill (by decide +kernel)
  have rows : ∀ l ∈ (run demoDb (demoFailed demoBill)).usageLedger, l.id = 20 ∧ UsageLedger.needsReconciliation l = true ∧
      (l.provider ≠ "" ∧ l.endpoint ≠ "") ∧ 0 < l.totalTokens ∧ l.actualCostEur = some 2 := by
    change ∀ l ∈ (run demoDb (demoFailed demoBill)).usageLedger.rows, _
    decide +kernel
  have some : ∃ l ∈ (run demoDb (demoFailed demoBill)).usageLedger, UsageLedger.needsReconciliation l = true := by
    change ∃ l ∈ (run demoDb (demoFailed demoBill)).usageLedger.rows, _
    decide +kernel
  refine ⟨demoFresh,disciplined,some,staleReservationProgresses demoFresh disciplined _ (by decide +kernel) _ _ rfl rfl
    (by decide +kernel) (fun l mem => ?_) fun l mem _ _ => ?_⟩
  · rw [(rows l mem).1]
    decide
  · obtain ⟨-,-,sourced,tokens,cost⟩ := rows l mem
    exact ⟨sourced,tokens,2,cost,by norm_num⟩

/-- The same request on a zero-cost route: its row is marked, and neither reconciler takes it. -/
theorem zeroCostRecoveryStuck :
    let free : Bill := ⟨20,20,40,0,0,true⟩
    Fresh demoDb ∧ Runs.Along next Disciplined demoDb (demoFailed free) ∧
      ∃ r ∈ (run demoDb (demoFailed free)).quotaReservations, r.quotaMode = .strictBounded ∧ r.status = .pending ∧
        r.expiresAt ≤ 900001000 ∧ ∀ newId, ¬Progresses (run demoDb (demoFailed free)) r 900001000 newId := by
  intro free
  have present : ∃ l ∈ (run demoDb (demoFailed free)).usageLedger, l.requestId = "a" ∧
      UsageLedger.needsReconciliation l = true ∧ l.actualCostEur = some 0 := by
    change ∃ l ∈ (run demoDb (demoFailed free)).usageLedger.rows, _
    decide +kernel
  have here : (demoReserve 10 "a" 1).reservation ∈ (run demoDb (demoFailed free)).quotaReservations := by decide +kernel
  refine ⟨demoFresh,demoFailedDisciplined free (by decide +kernel),_,here,rfl,rfl,by decide +kernel,fun newId progress => ?_⟩
  obtain ⟨l,row,request,marked,cost⟩ := present
  obtain ⟨c,states,positive⟩ := (progressRepairs progress row request here marked).cost
  cases Option.some.inj (cost.symm.trans states)
  exact lt_irrefl _ positive
end SlaifGateway.Quota
