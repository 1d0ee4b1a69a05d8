import SlaifGateway.Quota.LedgerRows

/-! What one committed transaction does to ledger and used counters: it charges
nobody, or it finalizes one reservation for the amounts of that reservation's row.
Where it closes a reservation at no charge, `Forfeits` says which steps do so over
usage that was already recorded. -/
namespace SlaifGateway.Quota
open Store Library Library.Tx Library.Table

/-- No row of the reservation's request states an actual cost. -/
def Unrecorded (db : Db) (r : QuotaReservation) : Prop :=
  ∀ l ∈ db.usageLedger, l.requestId = r.requestId → l.actualCostEur = none

/-- No row of the reservation's request asks for reconciliation. -/
def Unmarked (db : Db) (r : QuotaReservation) : Prop :=
  ∀ l ∈ db.usageLedger, l.requestId = r.requestId → UsageLedger.needsReconciliation l = false

/-- The step may close `r` without looking at recorded usage: a plain release, or an executed expiry
that finds no marked row. -/
def Forfeits (db : Db) (r : QuotaReservation) : Op → Prop
  | .release id _ => r.id = id
  | .expire id now dryRun _ => dryRun = false ∧ r.id = id ∧ r.expiresAt ≤ now ∧ Unmarked db r
  | .expireBatch now limit dryRun _ =>
      dryRun = false ∧ r ∈ db.expiredPendingReservations now limit ∧ Unmarked db r
  | _ => False

instance (db : Db) (r : QuotaReservation) : Decidable (Unrecorded db r) :=
  inferInstanceAs (Decidable (∀ l ∈ db.usageLedger.rows, l.requestId = r.requestId → l.actualCostEur = none))

instance (db : Db) (r : QuotaReservation) : Decidable (Unmarked db r) :=
  inferInstanceAs (Decidable (∀ l ∈ db.usageLedger.rows, l.requestId = r.requestId →
    UsageLedger.needsReconciliation l = false))

instance (db : Db) (r : QuotaReservation) (op : Op) : Decidable (Forfeits db r op) := by
  unfold Forfeits
  cases op <;> infer_instance

/-- A committed transaction either charged nobody, or finalized one reservation for what its row says. -/
inductive Outcome (db : Db) (op : Op) (db' : Db) : Prop where
  | costless (used : ∀ id, usedOf db' id = usedOf db id)
      (final : ∀ r ∈ db'.quotaReservations, r.status = .finalized → r ∈ db.quotaReservations)
      (closes : ∀ r ∈ db.quotaReservations, r.status = .pending → r ∉ db'.quotaReservations →
        Forfeits db r op ∨ Unrecorded db r)
  | charged {k k' r r' actual l} (settled : Settled db db' k k' r r' actual) (final : r'.status = .finalized)
      (row : l ∈ db'.usageLedger) (request : l.requestId = r.requestId) (durable : l.actualCostEur ≠ none)
      (amount : UsageLedger.actual l = actual)

section Outcomes
variable {db db' : Db} {op : Op} {k k' : GatewayKey} {r r' : QuotaReservation} {actual : Amounts} {l : UsageLedger}

theorem keptOutcome (h : Kept db db') : Outcome db op db' := by
  refine .costless (fun id => keptUsed h) (fun x here _ => h.reservations ▸ here) fun x here _ gone => ?_
  rw [h.reservations] at gone
  exact absurd here gone

theorem openedOutcome (h : Opened db db' k k' r) : Outcome db op db' := by
  refine .costless (fun id => updatedUsed h.keys h.counters.2.2.1) (fun x here final => ?_) fun x here _ gone => ?_
  · rcases (h.reservations.mem x).mp here with rfl | old
    · rw [h.pending] at final
      cases final
    · exact old
  · exact absurd (h.reservations.memKept here) gone

/-- A settlement that charges nothing and does not finalize. -/
theorem releasedOutcome (h : Settled db db' k k' r r' 0) (released : r'.status ≠ .finalized)
    (excused : Forfeits db r op ∨ Unrecorded db r) : Outcome db op db' := by
  refine .costless (fun id => updatedUsed h.keys ?_) (fun x here final => ?_) fun x here _ gone => ?_
  · rw [h.counters.2.2.1,add_zero]
  · rcases (h.reservations.memIff x).mp here with rfl | ⟨old,-⟩
    · exact absurd final released
    · exact old
  · by_cases same : x.id = r.id
    · rw [eqOfKey here h.reservations.here same]
      exact excused
    · exact absurd (h.reservations.memKept here same) gone

theorem insertedUnrecorded (inserted : db.usageLedger.Inserted l db'.usageLedger) (request : l.requestId = r.requestId) :
    Unrecorded db r :=
  fun x mem same => absurd (request.trans same.symm) (inserted.fresh x mem).2

theorem chargedInserted (h : Settled db db' k k' r r' actual) (final : r'.status = .finalized)
    (inserted : db.usageLedger.Inserted l db'.usageLedger) (request : l.requestId = r.requestId)
    (durable : l.actualCostEur ≠ none) (amount : UsageLedger.actual l = actual) : Outcome db op db' :=
  .charged h final inserted.memNew request durable amount

theorem expiredLedgerKept {now ids} (h : Relation.ReflTransGen (ExpiresOne now ids) db db') :
    ∀ l ∈ db.usageLedger, l ∈ db'.usageLedger := by
  induction h with
  | refl => exact fun _ mem => mem
  | tail _ step ih =>
    obtain ⟨_,_,-,expires⟩ := step
    intro l mem
    rcases expires.ledger with ⟨-,same⟩ | ⟨newId,inserted⟩
    · rw [same]
      exact ih l mem
    · exact inserted.memKept (ih l mem)

/-- Which reservations a chain of expirations closes: named ones that are due and unmarked. -/
theorem expiredCloses {now ids} (h : Relation.ReflTransGen (ExpiresOne now ids) db db') :
    (∀ r ∈ db'.quotaReservations, r.status = .finalized → r ∈ db.quotaReservations) ∧
    ∀ r ∈ db.quotaReservations, r.status = .pending → r ∉ db'.quotaReservations → r.id ∈ ids ∧ Unmarked db r := by
  induction h with
  | refl => exact ⟨fun _ here _ => here,fun r here _ gone => absurd here gone⟩
  | tail chain step ih =>
    obtain ⟨k,x,named,expires⟩ := step
    have moved := expires.settled.reservations
    refine ⟨fun r here final => ?_,fun r here pending gone => ?_⟩
    · rcases (moved.memIff r).mp here with rfl | ⟨old,-⟩
      · cases final
      · exact ih.1 r old final
    · rename_i mid _
      by_cases inMid : r ∈ mid.quotaReservations
      · -- this step closed it: its rows were unmarked here, and so they were before the chain
        have one : r = x := by
          by_contra other
          exact gone (moved.memKept inMid fun same => other (eqOfKey inMid moved.here same))
        subst one
        exact ⟨named,fun l mem same => expires.unmarked l (expiredLedgerKept chain l mem) same⟩
      · exact ih.2 r here pending inMid
end Outcomes

theorem LedgerInv.row {db : Db} {l r} (inv : LedgerInv db) (mem : l ∈ db.usageLedger) (here : r ∈ db.quotaReservations)
    (linked : l.quotaReservationId = some r.id) : RowOf l r := by
  obtain ⟨x,present,row⟩ := inv l mem
  have one : x = r := eqOfKey present here (Option.some.inj (row.linked.symm.trans linked))
  rwa [one] at row

theorem holdOutcome {i db db' k r l} (inv : LedgerInv db) (h : HoldSettles i db db' k r l) :
    LedgerStep db db' ∧ Outcome db (.reconcileHold i) db' := by
  have row := inv.row h.ledger.here h.settled.reservations.here h.linked
  obtain ⟨request,link⟩ := settledHoldSame (i := i) (l := l) (r := r)
  obtain ⟨id,-,sameRequest,-⟩ := h.settled.sameId
  refine ⟨stepUpdated h.ledger request (fun durable => absurd h.uncosted durable) ⟨i.closed r,
    h.settled.reservations.memNew,rowOfClosed ?_ ((request.trans row.request).trans sameRequest.symm) h.settled.terminal⟩,?_⟩
  · rw [id,link]
    exact h.linked
  · have settled := h.settled
    have written := h.ledger.memNew
    unfold HoldReconciliationInput.counted HoldReconciliationInput.closed HoldReconciliationInput.charge at settled
    unfold HoldReconciliationInput.settledLedger at written
    cases action : i.action with
    | finalizeActual =>
      simp only [action] at settled written
      exact .charged settled rfl written row.request (Option.some_ne_none _) rfl
    | releaseNoCharge =>
      simp only [action] at settled
      refine releasedOutcome settled (by simp [QuotaReservation.markReleased]) (Or.inr fun x mem same => ?_)
      rw [eqOfUnique mem h.ledger.here (same.trans row.request.symm)]
      exact h.uncosted

theorem batchOutcome {db db' now limit newId} (chain : Relation.ReflTransGen (ExpiresOne now
    ((db.expiredPendingReservations now limit).map QuotaReservation.id)) db db') :
    Outcome db (.expireBatch now limit false newId) db' := by
  obtain ⟨final,closes⟩ := expiredCloses chain
  refine .costless (fun id => expiredUsed chain) final fun r here pending gone => ?_
  obtain ⟨named,unmarked⟩ := closes r here pending gone
  obtain ⟨x,candidate,same⟩ := List.mem_map.mp named
  have present : x ∈ db.quotaReservations := expiredPendingMem candidate
  rw [eqOfKey present here same] at candidate
  exact Or.inl ⟨rfl,candidate,unmarked⟩

/-- What one committed transaction does to the ledger and to the used counters. -/
theorem nextOutcome {db op db'} (inv : LedgerInv db) (disciplined : Disciplined db op) (ok : next db op = some db') :
    LedgerStep db db' ∧ Outcome db op db' := by
  have evolves := nextEvolves ok
  have unchanged (same : db' = db) : LedgerStep db db' ∧ Outcome db op db' := by
    subst same
    exact ⟨stepSame rfl,keptOutcome (keptOf rfl)⟩
  cases op with
  | reserve i =>
    obtain ⟨_,_,ok⟩ := committedFirst ok
    obtain ⟨_,_,opened,-⟩ := reserveOpened ok
    exact ⟨stepSame opened.ledger,openedOutcome opened⟩
  | release id now =>
    obtain ⟨_,_,ok⟩ := committedFirst ok
    rcases releaseCases ok with same | ⟨_,_,_,_,settled,named,released,-,ledger⟩
    · exact unchanged same
    · exact ⟨stepSame ledger,releasedOutcome settled (by rw [released]; simp) (Or.inl named)⟩
  | finalize i =>
    obtain ⟨_,_,ok⟩ := committedFirst ok
    obtain ⟨k,r,bill,billed,named,-,settled,ledger⟩ := finalizeSettled ok
    have own := disciplined.1 r settled.reservations.here named
    rcases ledger with ⟨-,inserted⟩ | ⟨l,carried,updated⟩
    · exact ⟨stepSettled settled inserted (by rw [named]; rfl) own.symm,
        chargedInserted settled rfl inserted own.symm (Option.some_ne_none _) rfl⟩
    · obtain ⟨request,durable,same⟩ := disciplined.2 l updated.here carried
      refine ⟨stepMarked inv evolves updated rfl rfl rfl rfl rfl rfl fun marked => ?_,?_⟩
      · simp [UsageLedger.needsReconciliation,UsageLedger.markFinalized,finalizedMetadata] at marked
      · rw [billed] at same
        exact .charged settled rfl updated.memNew (request.trans own.symm) durable same
  | finalizeCustom i =>
    obtain ⟨_,_,ok⟩ := committedFirst ok
    obtain ⟨k,r,named,-,settled,inserted⟩ := finalizeCustomSettled ok
    have own := disciplined r settled.reservations.here named
    exact ⟨stepSettled settled inserted (by rw [named]; rfl) own.symm,
      chargedInserted settled rfl inserted own.symm (Option.some_ne_none _) rfl⟩
  | recordCompleted i =>
    obtain ⟨_,_,ok⟩ := committedFirst ok
    obtain ⟨r,here,named,-,key,same | ⟨bill,-,keys,reservations,inserted⟩⟩ := recordCases ok
    · exact unchanged same
    · refine ⟨stepInserted inserted ⟨r,reservations ▸ here,by rw [named]; rfl,(disciplined r here named).symm,
        fun _ _ => ⟨key.symm,Option.some_ne_none _,Option.some_ne_none _,fun marked => ?_⟩⟩,
        keptOutcome (keptSame keys reservations)⟩
      simp [UsageLedger.needsReconciliation,UsageLedger.asProviderCompleted,RequestFacts.ledger,pendingMetadata] at marked
  | markFailed ledgerId id =>
    obtain ⟨_,_,ok⟩ := committedFirst ok
    obtain ⟨keys,reservations,l,-,-,updated⟩ := markFailedUpdated ok
    refine ⟨stepMarked inv evolves updated rfl rfl rfl rfl rfl rfl fun _ => ?_,keptOutcome (keptSame keys reservations)⟩
    simp [UsageLedger.isProviderCompletedRecovery,UsageLedger.markFinalizationFailed,failedMetadata]
  | failure i =>
    obtain ⟨_,_,ok⟩ := committedFirst ok
    obtain ⟨r,here,named,-,inserted,⟨k,settled⟩ | ⟨closed,keys,reservations⟩⟩ := failureCases ok
    · have own := disciplined r here named
      exact ⟨stepSettled settled inserted (by rw [named]; rfl) own.symm,
        releasedOutcome settled (by simp [QuotaReservation.markReleased]) (Or.inr (insertedUnrecorded inserted own.symm))⟩
    · have own := disciplined r here named
      exact ⟨stepInserted inserted ⟨r,reservations ▸ here,rowOfClosed (by rw [named]; rfl) own.symm closed⟩,
        keptOutcome (keptSame keys reservations)⟩
  | interrupted i =>
    obtain ⟨_,_,ok⟩ := committedFirst ok
    obtain ⟨k,r,named,-,settled,inserted⟩ := interruptedSettled ok
    have own := disciplined r settled.reservations.here named
    exact ⟨stepSettled settled inserted (by rw [named]; rfl) own.symm,
      chargedInserted settled rfl inserted own.symm (Option.some_ne_none _) rfl⟩
  | expire id now dryRun newId =>
    obtain ⟨_,_,ok⟩ := committedFirst ok
    rcases expiredCases ok with ⟨-,same⟩ | ⟨live,_,_,named,expires⟩
    · exact unchanged same
    · exact ⟨stepExpires expires,releasedOutcome expires.settled (by simp [QuotaReservation.markExpired])
        (Or.inl ⟨live,named,expires.due,expires.unmarked⟩)⟩
  | expireBatch now limit dryRun newId =>
    obtain ⟨_,_,ok⟩ := committedFirst ok
    rcases batchChain ok with ⟨-,same⟩ | ⟨rfl,chain⟩
    · exact unchanged same
    · exact ⟨stepExpired chain,batchOutcome chain⟩
  | completeRecovery ledgerId id dryRun now =>
    obtain ⟨_,_,ok⟩ := committedFirst ok
    rcases completedCases ok with ⟨-,same⟩ | ⟨-,l,k,r,-,-,completes⟩
    · exact unchanged same
    · have row := inv.row completes.ledger.here completes.settled.reservations.here completes.linked
      obtain ⟨c,cost,-⟩ := completes.cost
      refine ⟨stepMarked inv evolves completes.ledger rfl rfl rfl rfl rfl rfl fun marked => ?_,?_⟩
      · simp [UsageLedger.needsReconciliation,UsageLedger.markFinalized,reconciledMetadata] at marked
      · refine .charged completes.settled rfl completes.ledger.memNew row.request ?_ rfl
        exact fun missing => by simp [UsageLedger.markFinalized,cost] at missing
  | acquire i =>
    obtain ⟨_,_,ok⟩ := committedFirst ok
    rcases acquireCases ok with ⟨same,-⟩ | ⟨_,_,_,fenced⟩
    · exact unchanged same
    · exact ⟨stepSame fenced.opened.ledger,openedOutcome fenced.opened⟩
  | resolve keyId requestId permitHeld =>
    obtain ⟨_,_,ok⟩ := committedFirst ok
    rcases resolveCases ok with ⟨same,-⟩ | ⟨_,_,_,-,-,-,cleared⟩
    · exact unchanged same
    · exact ⟨stepSame cleared.ledger,keptOutcome cleared.kept⟩
  | place i =>
    obtain ⟨_,_,ok⟩ := committedFirst ok
    rcases placeCases ok with same | ⟨k,r,holds⟩
    · exact unchanged same
    · refine ⟨stepInserted holds.ledger ⟨r,holds.reservations ▸ holds.here,rfl,rfl,fun _ strict => ?_⟩,
        keptOutcome ⟨holds.reservations,Or.inr ⟨_,_,holds.keys,rfl,Or.inl holds.reservation.symm⟩⟩⟩
      rw [holds.mode] at strict
      cases strict
  | reconcileHold i =>
    obtain ⟨_,_,ok⟩ := committedFirst ok
    rcases reconcileHoldCases ok with same | ⟨_,_,_,settles⟩
    · exact unchanged same
    · exact holdOutcome inv settles
  | finalizeExternal i =>
    obtain ⟨_,ok⟩ := committedIff.mp ok
    obtain ⟨k,r,mid,named,settled,inserted,ends⟩ := finalizeExternalCases ok
    have own := disciplined r settled.reservations.here named
    rcases ends with ⟨rfl,-⟩ | ⟨_,_,-,-,cleared⟩
    · exact ⟨stepSettled settled inserted (by rw [named]; rfl) own.symm,
        chargedInserted settled rfl inserted own.symm (Option.some_ne_none _) rfl⟩
    · rw [← cleared.ledger] at inserted
      exact ⟨stepSettled (settled.thenCleared cleared) inserted (by rw [named]; rfl) own.symm,
        chargedInserted (settled.thenCleared cleared) rfl inserted own.symm (Option.some_ne_none _) rfl⟩
  | failureExternal i =>
    obtain ⟨_,ok⟩ := committedIff.mp ok
    obtain ⟨r,mid,here,named,inserted,⟨k,settled,ends⟩ | ⟨closed,keys,reservations,ends⟩⟩ := failureExternalCases ok
    · have own := disciplined r here named
      rcases ends with ⟨rfl,-⟩ | ⟨_,_,-,-,cleared⟩
      · exact ⟨stepSettled settled inserted (by rw [named]; rfl) own.symm,releasedOutcome settled
          (by simp [QuotaReservation.markReleased]) (Or.inr (insertedUnrecorded inserted own.symm))⟩
      · rw [← cleared.ledger] at inserted
        exact ⟨stepSettled (settled.thenCleared cleared) inserted (by rw [named]; rfl) own.symm,
          releasedOutcome (settled.thenCleared cleared) (by simp [QuotaReservation.markReleased])
            (Or.inr (insertedUnrecorded inserted own.symm))⟩
    · have own := disciplined r here named
      have rest : LedgerStep db mid := stepInserted inserted
        ⟨r,reservations ▸ here,rowOfClosed (by rw [named]; rfl) own.symm closed⟩
      rcases ends with rfl | ⟨_,_,_,cleared⟩
      · exact ⟨rest,keptOutcome (keptSame keys reservations)⟩
      · exact ⟨rest.trans (stepSame cleared.ledger) (carriedSame cleared.reservations).evolves,
          keptOutcome (cleared.keptAfter keys reservations)⟩
end SlaifGateway.Quota
