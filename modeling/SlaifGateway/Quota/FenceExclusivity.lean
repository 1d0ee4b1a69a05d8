import SlaifGateway.Quota.Conservation
import SlaifGateway.Quota.History

/-! Exclusivity of the external-tool fence. The services check rows one at a time;
that a fenced key has one pending reservation, the fence's own, is an invariant of
whole runs. It needs what the gateway promises about its calls: the ordinary
settlements are made for ordinary reservations, and the external-tool ones carry
the reservation's own request id. -/
namespace SlaifGateway.Quota
open Store Library Library.Tx Library.Table

/-- No fenced reservation has this id. -/
def Ordinary (db : Db) (id : Uuid) : Prop := ∀ r ∈ db.quotaReservations, r.id = id → r.quotaMode = .strictBounded

/-- The row belongs to an ordinary reservation. -/
def OrdinaryLink (db : Db) (l : UsageLedger) : Prop :=
  ∃ r ∈ db.quotaReservations, l.quotaReservationId = some r.id ∧ r.quotaMode = .strictBounded

/-- What the gateway promises of a call; the reconcilers, the fence and the hold need no promise. -/
def Promised (db : Db) : Op → Prop
  | .release id _ => Ordinary db id
  | .finalize i => Ordinary db i.facts.reservationId
  | .finalizeCustom i => Ordinary db i.facts.reservationId
  | .failure i => Ordinary db i.facts.reservationId
  | .interrupted i => Ordinary db i.facts.reservationId
  | .markFailed ledgerId _ => ∀ l ∈ db.usageLedger, l.id = ledgerId → OrdinaryLink db l
  | .finalizeExternal i => OwnRequest db i.facts
  | .failureExternal i => OwnRequest db i.facts
  | _ => True

/-- `r` is what the bound fence of `k` stands for, and all the key has in flight. -/
structure Binds (db : Db) (k : GatewayKey) (r : QuotaReservation) : Prop where
  here : r ∈ db.quotaReservations
  reservation : k.fence.reservationId = some r.id
  request : k.fence.requestId = some r.requestId
  own : r.gatewayKeyId = k.id
  pending : r.status = .pending
  mode : r.quotaMode = .externalToolFenced
  only : ∀ x ∈ db.quotaReservations, x.gatewayKeyId = k.id → x.status = .pending → x = r
  noted : k.fence.state = .held → ∃ l ∈ db.usageLedger, l.requestId = r.requestId

structure FenceInv (db : Db) : Prop where
  bound : ∀ k ∈ db.gatewayKeys, k.fence.state ≠ .none → ∃ r, Binds db k r
  recovery : ∀ l ∈ db.usageLedger, l.isProviderCompletedRecovery = true → OrdinaryLink db l

/-- No request loses its row, and no row becomes a recovery row except for an ordinary reservation. -/
structure LedgerKept (db db' : Db) : Prop where
  requests : ∀ l ∈ db.usageLedger, ∃ l' ∈ db'.usageLedger, l'.requestId = l.requestId
  recovery : ∀ l ∈ db'.usageLedger, l.isProviderCompletedRecovery = true → l ∈ db.usageLedger ∨ OrdinaryLink db l

section Ledger
variable {db db' : Db} {l l' : UsageLedger}

theorem ledgerSame (same : db'.usageLedger = db.usageLedger) : LedgerKept db db' := by
  refine ⟨fun x mem => ⟨x,same ▸ mem,rfl⟩,fun x mem _ => Or.inl (same ▸ mem)⟩

theorem ledgerInserted (h : db.usageLedger.Inserted l db'.usageLedger) (quiet : l.isProviderCompletedRecovery = false) :
    LedgerKept db db' := by
  refine ⟨fun x mem => ⟨x,h.memKept mem,rfl⟩,fun x mem recovery => ?_⟩
  rcases (h.mem x).mp mem with rfl | old
  · rw [quiet] at recovery
    cases recovery
  · exact Or.inl old

theorem ledgerUpdated (h : db.usageLedger.Updated l l' db'.usageLedger) (request : l'.requestId = l.requestId)
    (quiet : l'.isProviderCompletedRecovery = true → OrdinaryLink db l') : LedgerKept db db' := by
  refine ⟨fun x mem => ?_,fun x mem recovery => ?_⟩
  · by_cases same : x.id = l.id
    · rw [eqOfKey mem h.here same]
      exact ⟨l',h.memNew,request⟩
    · exact ⟨x,h.memKept mem same,rfl⟩
  · rcases (h.memIff x).mp mem with rfl | ⟨old,-⟩
    · exact Or.inr (quiet recovery)
    · exact Or.inl old
end Ledger

section Steps
variable {db db' : Db} {k k' : GatewayKey} {r r' : QuotaReservation} {actual : Amounts}

theorem FenceInv.recoveryKept (inv : FenceInv db) (ledger : LedgerKept db db') (evolves : Evolves db db') :
    ∀ l ∈ db'.usageLedger, l.isProviderCompletedRecovery = true → OrdinaryLink db' l := by
  intro l mem recovery
  have linked : OrdinaryLink db l := (ledger.recovery l mem recovery).elim (fun old => inv.recovery l old recovery) id
  obtain ⟨x,here,link,mode⟩ := linked
  obtain ⟨x',present,follows⟩ := evolves.forward x here
  exact ⟨x',present,by rw [follows.id]; exact link,follows.mode.trans mode⟩

/-- A binding survives a step that keeps the key, its reservations and the rows of its requests. -/
theorem Binds.kept {x y} (h : Binds db x y) (ledger : LedgerKept db db') (present : y ∈ db'.quotaReservations)
    (old : ∀ z ∈ db'.quotaReservations, z.gatewayKeyId = x.id → z.status = .pending → z ∈ db.quotaReservations) :
    Binds db' x y := by
  refine ⟨present,h.reservation,h.request,h.own,h.pending,h.mode,fun z inside own pending => ?_,fun held => ?_⟩
  · exact h.only z (old z inside own pending) own pending
  · obtain ⟨l,mem,request⟩ := h.noted held
    obtain ⟨l',mem',same⟩ := ledger.requests l mem
    exact ⟨l',mem',same.trans request⟩

theorem fenceUntouched (inv : FenceInv db) (keys : db'.gatewayKeys = db.gatewayKeys)
    (reservations : db'.quotaReservations = db.quotaReservations) (ledger : LedgerKept db db') : FenceInv db' := by
  refine ⟨fun x mem bound => ?_,inv.recoveryKept ledger (carriedSame reservations).evolves⟩
  obtain ⟨y,binds⟩ := inv.bound x (keys ▸ mem) bound
  exact ⟨y,binds.kept ledger (reservations ▸ binds.here) fun z inside _ _ => reservations ▸ inside⟩

/-- A key that is not the opened one keeps its binding. -/
theorem openedOther (inv : FenceInv db) (h : Opened db db' k k' r) {x} (kept : x ∈ db.gatewayKeys) (other : x.id ≠ k.id)
    (bound : x.fence.state ≠ .none) : ∃ y, Binds db' x y := by
  obtain ⟨y,binds⟩ := inv.bound x kept bound
  refine ⟨y,binds.kept (ledgerSame h.ledger) (h.reservations.memKept binds.here) fun z inside own _ => ?_⟩
  rcases (h.reservations.mem z).mp inside with rfl | old
  · exact absurd (own.symm.trans h.own) other
  · exact old

theorem fenceOpened (inv : FenceInv db) (h : Opened db db' k k' r) (same : k'.fence = k.fence) : FenceInv db' := by
  refine ⟨fun x mem bound => ?_,inv.recoveryKept (ledgerSame h.ledger) h.evolves⟩
  rcases (h.keys.memIff x).mp mem with rfl | ⟨kept,other⟩
  · rw [same,h.free] at bound
    exact absurd rfl bound
  · exact openedOther inv h kept other bound

theorem fenceAcquired {i} (inv : FenceInv db) (h : Fenced i db db' k k' r) : FenceInv db' := by
  refine ⟨fun x mem bound => ?_,inv.recoveryKept (ledgerSame h.opened.ledger) h.opened.evolves⟩
  rcases (h.opened.keys.memIff x).mp mem with rfl | ⟨kept,other⟩
  · have sameId : x.id = k.id := h.opened.counters.1
    refine ⟨r,h.opened.reservations.memNew,by rw [h.fence],by rw [h.fence],h.opened.own.trans sameId.symm,
      h.opened.pending,h.mode,fun z inside own pending => ?_,fun held => ?_⟩
    · rcases (h.opened.reservations.mem z).mp inside with rfl | old
      · rfl
      · exact absurd pending (h.idle z old (own.trans sameId))
    · rw [h.fence] at held
      cases held
  · exact openedOther inv h.opened kept other bound

/-- A settlement that leaves its key unfenced. -/
theorem fenceSettled (inv : FenceInv db) (h : Settled db db' k k' r r' actual) (free : k'.fence.state = .none)
    (ledger : LedgerKept db db') : FenceInv db' := by
  refine ⟨fun x mem bound => ?_,inv.recoveryKept ledger h.carried.evolves⟩
  rcases (h.keys.memIff x).mp mem with rfl | ⟨kept,other⟩
  · exact absurd free bound
  · obtain ⟨y,binds⟩ := inv.bound x kept bound
    refine ⟨y,binds.kept ledger (h.reservations.memKept binds.here fun same => other ?_) fun z inside _ pending => ?_⟩
    · have one : y = r := eqOfKey binds.here h.reservations.here same
      exact binds.own.symm.trans (by rw [one]; exact h.own)
    · rcases (h.reservations.memIff z).mp inside with rfl | ⟨old,-⟩
      · exact absurd pending h.terminal
      · exact old

/-- An ordinary reservation is pending only on an unfenced key. -/
theorem ordinaryFree (inv : FenceInv db) (h : Settled db db' k k' r r' actual)
    (ordinary : r.quotaMode ≠ .externalToolFenced) : k.fence.state = .none := by
  by_contra bound
  obtain ⟨y,binds⟩ := inv.bound k h.keys.here bound
  rw [binds.only r h.reservations.here h.own h.pending] at ordinary
  exact ordinary binds.mode

theorem fenceHeld {i} (inv : FenceInv db) (h : Holds i db db' k r) : FenceInv db' := by
  have ledger : LedgerKept db db' := ledgerInserted h.ledger (by
    simp [UsageLedger.isProviderCompletedRecovery,HoldInput.ledger,safeHoldMetadata,ResponseMetadata.plain])
  refine ⟨fun x mem bound => ?_,inv.recoveryKept ledger (carriedSame h.reservations).evolves⟩
  rcases (h.keys.memIff x).mp mem with rfl | ⟨kept,-⟩
  · obtain ⟨y,binds⟩ := inv.bound k h.keys.here (by rw [h.active]; simp)
    have one : r = y := binds.only r h.here h.own h.pending
    subst one
    refine ⟨r,h.reservations ▸ binds.here,rfl,rfl,h.own,h.pending,h.mode,fun z inside own pending => ?_,fun _ => ?_⟩
    · exact binds.only z (h.reservations ▸ inside) own pending
    · exact ⟨_,h.ledger.memNew,rfl⟩
  · obtain ⟨y,binds⟩ := inv.bound x kept bound
    exact ⟨y,binds.kept ledger (h.reservations ▸ binds.here) fun z inside _ _ => h.reservations ▸ inside⟩

/-- A fence whose reservation is still pending cannot be resolved on its own. -/
theorem fenceNotCleared {x l} (inv : FenceInv db) (h : Cleared db db' k x l) : False := by
  obtain ⟨y,binds⟩ := inv.bound k h.keys.here h.bound
  have one : x = y := eqOfKey h.here binds.here (Option.some.inj (h.reservation.symm.trans binds.reservation))
  have pending := binds.pending
  rw [← one] at pending
  rcases h.terminal with finalized | released
  · rw [finalized] at pending
    cases pending
  · rw [released] at pending
    cases pending
end Steps

/-- What must be on record after a transaction that cleared the fence of `k`. -/
structure Evidence (db : Db) (k : GatewayKey) (r : QuotaReservation) (l : UsageLedger) : Prop where
  here : r ∈ db.quotaReservations
  named : k.fence.reservationId = some r.id
  terminal : r.status = .finalized ∨ r.status = .released
  only : db.usageLedger.filter (fun x => x.quotaReservationId = some r.id) = [l]
  sameRequest : l.requestId = r.requestId
  sameKey : l.gatewayKeyId = k.id
  outcome : ledgerTerminal r l = true

/-- Wherever the transaction cleared a fence it left terminal evidence and zero reserved counters,
and a held fence only a hold reconciliation cleared. -/
def ClearsOnEvidence (c : Commit Db Op) : Prop :=
  ∀ k ∈ c.before.gatewayKeys, ∀ k' ∈ c.after.gatewayKeys, k'.id = k.id → k.fence.state ≠ .none →
    k'.fence.state = .none → (∃ r l, Evidence c.after k r l) ∧ k'.reserved = 0 ∧
      (k.fence.state = .held → ∃ i, c.op = .reconcileHold i)

def FencesSame (db db' : Db) : Prop :=
  ∀ k' ∈ db'.gatewayKeys, ∃ k ∈ db.gatewayKeys, k.id = k'.id ∧ k'.fence = k.fence

section Clearing
variable {db db' : Db} {op : Op} {k k' : GatewayKey} {r r' : QuotaReservation} {actual : Amounts}

theorem FencesSame.clears (same : FencesSame db db') : ClearsOnEvidence ⟨db,op,db'⟩ := by
  intro k mem k' mem' sameId bound free
  obtain ⟨x,here,named,fence⟩ := same k' mem'
  have one : x = k := eqOfKey here mem (named.trans sameId)
  subst one
  rw [fence] at free
  exact absurd free bound

theorem sameKeys (keys : db'.gatewayKeys = db.gatewayKeys) : FencesSame db db' :=
  fun k mem => ⟨k,keys ▸ mem,rfl,rfl⟩

theorem updatedFences (keys : db.gatewayKeys.Updated k k' db'.gatewayKeys) (sameId : k'.id = k.id)
    (fence : k'.fence = k.fence) : FencesSame db db' := by
  intro x mem
  rcases (keys.memIff x).mp mem with rfl | ⟨kept,-⟩
  · exact ⟨k,keys.here,sameId.symm,fence⟩
  · exact ⟨x,kept,rfl,rfl⟩

/-- The one fence the transaction cleared was that of `k`. -/
theorem clearsOne (keys : db.gatewayKeys.Updated k k' db'.gatewayKeys) (sameId : k'.id = k.id)
    (evidence : ∃ r l, Evidence db' k r l) (zero : k'.reserved = 0)
    (held : k.fence.state = .held → ∃ i, op = .reconcileHold i) : ClearsOnEvidence ⟨db,op,db'⟩ := by
  intro x mem x' mem' same bound free
  rcases (keys.memIff x').mp mem' with rfl | ⟨kept,-⟩
  · have one : x = k := eqOfKey mem keys.here (same.symm.trans sameId)
    subst one
    exact ⟨evidence,zero,held⟩
  · have one : x' = x := eqOfKey kept mem same
    rw [one] at free
    exact absurd free bound

theorem Cleared.recorded {mid k₁ x l} (h : Cleared mid db' k₁ x l) (sameId : k₁.id = k.id) (fence : k₁.fence = k.fence) :
    ∃ r l, Evidence db' k r l := by
  refine ⟨x,l,by rw [h.reservations]; exact h.here,by rw [← fence]; exact h.reservation,h.terminal,?_,h.sameRequest,
    h.sameKey.trans sameId,h.evidence⟩
  rw [h.ledger]
  exact h.only

/-- A settlement of an ordinary reservation leaves every fence as it was. -/
theorem ordinaryStep (inv : FenceInv db) (h : Settled db db' k k' r r' actual)
    (ordinary : r.quotaMode ≠ .externalToolFenced) (fence : k'.fence = k.fence) (ledger : LedgerKept db db') :
    FenceInv db' ∧ FencesSame db db' := by
  refine ⟨fenceSettled inv h ?_ ledger,updatedFences h.keys h.counters.1 fence⟩
  rw [fence]
  exact ordinaryFree inv h ordinary

theorem strictOf {id} (ordinary : Ordinary db id) (h : Settled db db' k k' r r' actual) (named : r.id = id) :
    r.quotaMode ≠ .externalToolFenced := by
  rw [ordinary r h.reservations.here named]
  simp

theorem expiresStep {now} (inv : FenceInv db) (h : Expires now db db' k r) : FenceInv db' ∧ FencesSame db db' := by
  refine ordinaryStep inv h.settled h.ordinary rfl ?_
  rcases h.ledger with ⟨-,same⟩ | ⟨newId,inserted⟩
  · exact ledgerSame same
  · exact ledgerInserted inserted (by
      simp [UsageLedger.isProviderCompletedRecovery,UsageLedger.asFailure,expiredLedger,ResponseMetadata.plain])

theorem expiredStep {now ids} (inv : FenceInv db) (h : Relation.ReflTransGen (ExpiresOne now ids) db db') :
    FenceInv db' ∧ FencesSame db db' := by
  induction h with
  | refl => exact ⟨inv,sameKeys rfl⟩
  | tail _ step ih =>
    obtain ⟨k,r,-,expires⟩ := step
    obtain ⟨kept,fences⟩ := expiresStep ih.1 expires
    refine ⟨kept,fun x mem => ?_⟩
    obtain ⟨y,here,named,fence⟩ := fences x mem
    obtain ⟨z,present,first,same⟩ := ih.2 y here
    exact ⟨z,present,first.trans named,fence.trans same⟩

/-- An external-tool settlement: its fence was active and is cleared with it, or the key had none. -/
theorem externalStep {mid k₁ r₁ row keyId} (inv : FenceInv db) (h : Settled db mid k k₁ r r₁ actual)
    (fence : k₁.fence = k.fence) (ledger : db.usageLedger.Inserted row mid.usageLedger)
    (quiet : row.isProviderCompletedRecovery = false) (request : row.requestId = r.requestId)
    (ends : (db' = mid ∧ k.fence.state ≠ .active) ∨ ∃ x l, x.requestId = keyId ∧ k.fence.state = .active ∧
      Cleared mid db' k₁ x l) : FenceInv db' ∧ ClearsOnEvidence ⟨db,op,db'⟩ := by
  rcases ends with ⟨rfl,inactive⟩ | ⟨x,l,-,active,cleared⟩
  · -- a held fence has its row already, and the new one would share its request id
    have free : k.fence.state = .none := by
      by_contra bound
      obtain ⟨y,binds⟩ := inv.bound k h.keys.here bound
      have held : k.fence.state = .held := by
        cases state : k.fence.state with
        | none => exact absurd state bound
        | active => exact absurd state inactive
        | held => rfl
      obtain ⟨noted,mem,same⟩ := binds.noted held
      rw [← binds.only r h.reservations.here h.own h.pending] at same
      exact (ledger.fresh noted mem).2 (request.trans same.symm)
    refine ⟨fenceSettled inv h (by rw [fence]; exact free) (ledgerInserted ledger quiet),FencesSame.clears ?_⟩
    exact updatedFences h.keys h.counters.1 fence
  · have moved := h.thenCleared cleared
    refine ⟨fenceSettled inv moved rfl ?_,?_⟩
    · refine ledgerInserted (l := row) ?_ quiet
      rw [cleared.ledger]
      exact ledger
    · exact clearsOne moved.keys h.counters.1 (cleared.recorded h.counters.1 fence) cleared.zero fun held => by
        rw [active] at held
        cases held
end Clearing

theorem successQuiet {l : UsageLedger} : l.asSuccess.isProviderCompletedRecovery = false := by
  simp [UsageLedger.isProviderCompletedRecovery,UsageLedger.asSuccess]

theorem finalizedQuiet {l : UsageLedger} {m} : (l.markFinalized m).isProviderCompletedRecovery = false := by
  simp [UsageLedger.isProviderCompletedRecovery,UsageLedger.markFinalized]

theorem failureQuiet {i : FailureInput} : i.ledger.asFailure.isProviderCompletedRecovery = false := by
  simp [UsageLedger.isProviderCompletedRecovery,UsageLedger.asFailure,FailureInput.ledger,RequestFacts.ledger,
    ResponseMetadata.plain]

theorem exactUnmarked {l : UsageLedger} (exact : exactHoldMetadata l ≠ none) :
    l.responseMetadata.needsReconciliation = none := by
  unfold exactHoldMetadata at exact
  simp only at exact
  split at exact
  · rename_i shape
    exact shape.2.1
  · exact absurd rfl exact

theorem settledHoldQuiet {i : HoldReconciliationInput} {l r} (exact : exactHoldMetadata l ≠ none) :
    (i.settledLedger l r).isProviderCompletedRecovery = false := by
  have unmarked := exactUnmarked exact
  unfold HoldReconciliationInput.settledLedger
  cases i.action <;> simp [UsageLedger.isProviderCompletedRecovery,UsageLedger.settleHold,terminalMetadata,unmarked]

theorem nextFence {db op db'} (inv : FenceInv db) (promised : Promised db op) (ok : next db op = some db') :
    FenceInv db' ∧ ClearsOnEvidence ⟨db,op,db'⟩ := by
  have unchanged (same : db' = db) : FenceInv db' ∧ ClearsOnEvidence ⟨db,op,db'⟩ := by
    subst same
    exact ⟨inv,(sameKeys rfl).clears⟩
  have stays (h : FenceInv db' ∧ FencesSame db db') : FenceInv db' ∧ ClearsOnEvidence ⟨db,op,db'⟩ := ⟨h.1,h.2.clears⟩
  have ledgerOnly (keys : db'.gatewayKeys = db.gatewayKeys) (reservations : db'.quotaReservations = db.quotaReservations)
      (ledger : LedgerKept db db') : FenceInv db' ∧ ClearsOnEvidence ⟨db,op,db'⟩ :=
    ⟨fenceUntouched inv keys reservations ledger,(sameKeys keys).clears⟩
  cases op with
  | reserve i =>
    obtain ⟨_,_,ok⟩ := committedFirst ok
    obtain ⟨k,k',opened,-,fence⟩ := reserveOpened ok
    exact stays ⟨fenceOpened inv opened fence,updatedFences opened.keys opened.counters.1 fence⟩
  | release id now =>
    obtain ⟨_,_,ok⟩ := committedFirst ok
    rcases releaseCases ok with same | ⟨_,_,_,_,settled,named,-,fence,ledger⟩
    · exact unchanged same
    · exact stays (ordinaryStep inv settled (strictOf promised settled named) fence (ledgerSame ledger))
  | finalize i =>
    obtain ⟨_,_,ok⟩ := committedFirst ok
    obtain ⟨_,_,_,-,named,-,settled,ledger⟩ := finalizeSettled ok
    refine stays (ordinaryStep inv settled (strictOf promised settled named) rfl ?_)
    rcases ledger with ⟨-,inserted⟩ | ⟨l,-,updated⟩
    · exact ledgerInserted inserted successQuiet
    · exact ledgerUpdated updated rfl fun marked => by simp [finalizedQuiet] at marked
  | finalizeCustom i =>
    obtain ⟨_,_,ok⟩ := committedFirst ok
    obtain ⟨_,_,named,-,settled,inserted⟩ := finalizeCustomSettled ok
    exact stays (ordinaryStep inv settled (strictOf promised settled named) rfl (ledgerInserted inserted successQuiet))
  | recordCompleted i =>
    obtain ⟨_,_,ok⟩ := committedFirst ok
    obtain ⟨_,-,-,-,-,same | ⟨_,-,keys,reservations,inserted⟩⟩ := recordCases ok
    · exact unchanged same
    · refine ledgerOnly keys reservations (ledgerInserted inserted ?_)
      simp [UsageLedger.isProviderCompletedRecovery,UsageLedger.asProviderCompleted]
  | markFailed ledgerId id =>
    obtain ⟨_,_,ok⟩ := committedFirst ok
    obtain ⟨keys,reservations,l,named,-,updated⟩ := markFailedUpdated ok
    exact ledgerOnly keys reservations (ledgerUpdated updated rfl fun _ => promised l updated.here named)
  | failure i =>
    obtain ⟨_,_,ok⟩ := committedFirst ok
    obtain ⟨_,-,named,-,inserted,⟨_,settled⟩ | ⟨-,keys,reservations⟩⟩ := failureCases ok
    · exact stays (ordinaryStep inv settled (strictOf promised settled named) rfl (ledgerInserted inserted failureQuiet))
    · exact ledgerOnly keys reservations (ledgerInserted inserted failureQuiet)
  | interrupted i =>
    obtain ⟨_,_,ok⟩ := committedFirst ok
    obtain ⟨_,_,named,-,settled,inserted⟩ := interruptedSettled ok
    refine stays (ordinaryStep inv settled (strictOf promised settled named) rfl (ledgerInserted inserted ?_))
    simp [UsageLedger.isProviderCompletedRecovery,InterruptedInput.ledger]
  | expire id now dryRun newId =>
    obtain ⟨_,_,ok⟩ := committedFirst ok
    rcases expiredCases ok with ⟨-,same⟩ | ⟨-,_,_,-,expires⟩
    · exact unchanged same
    · exact stays (expiresStep inv expires)
  | expireBatch now limit dryRun newId =>
    obtain ⟨_,_,ok⟩ := committedFirst ok
    rcases batchChain ok with ⟨-,same⟩ | ⟨-,chain⟩
    · exact unchanged same
    · exact stays (expiredStep inv chain)
  | completeRecovery ledgerId id dryRun now =>
    obtain ⟨_,_,ok⟩ := committedFirst ok
    rcases completedCases ok with ⟨-,same⟩ | ⟨-,l,k,r,-,-,completes⟩
    · exact unchanged same
    · obtain ⟨x,here,linked,strict⟩ := inv.recovery l completes.ledger.here completes.recovery
      have one : r = x := eqOfKey completes.settled.reservations.here here
        (Option.some.inj (completes.linked.symm.trans linked))
      refine stays (ordinaryStep inv completes.settled (by rw [one,strict]; simp) rfl ?_)
      exact ledgerUpdated completes.ledger rfl fun marked => by simp [finalizedQuiet] at marked
  | acquire i =>
    obtain ⟨_,_,ok⟩ := committedFirst ok
    rcases acquireCases ok with ⟨same,-⟩ | ⟨k,k',r,fenced⟩
    · exact unchanged same
    · refine ⟨fenceAcquired inv fenced,fun x mem x' mem' same bound free => ?_⟩
      rcases (fenced.opened.keys.memIff x').mp mem' with rfl | ⟨kept,-⟩
      · rw [fenced.fence] at free
        cases free
      · rw [eqOfKey kept mem same] at free
        exact absurd free bound
  | resolve keyId requestId permitHeld =>
    obtain ⟨_,_,ok⟩ := committedFirst ok
    rcases resolveCases ok with ⟨same,-⟩ | ⟨_,_,_,-,-,-,cleared⟩
    · exact unchanged same
    · exact (fenceNotCleared inv cleared).elim
  | place i =>
    obtain ⟨_,_,ok⟩ := committedFirst ok
    rcases placeCases ok with same | ⟨k,r,holds⟩
    · exact unchanged same
    · refine ⟨fenceHeld inv holds,fun x mem x' mem' same bound free => ?_⟩
      rcases (holds.keys.memIff x').mp mem' with rfl | ⟨kept,-⟩
      · cases free
      · rw [eqOfKey kept mem same] at free
        exact absurd free bound
  | reconcileHold i =>
    obtain ⟨_,_,ok⟩ := committedFirst ok
    rcases reconcileHoldCases ok with same | ⟨k,r,l,settles⟩
    · exact unchanged same
    · obtain ⟨mid,l',cleared⟩ := settles.cleared
      refine ⟨fenceSettled inv settles.settled rfl (ledgerUpdated settles.ledger settledHoldSame.1 fun marked => ?_),?_⟩
      · rw [settledHoldQuiet settles.exact] at marked
        cases marked
      · exact clearsOne settles.settled.keys settles.settled.counters.1
          (cleared.recorded countedFence.2 countedFence.1) cleared.zero fun _ => ⟨i,rfl⟩
  | finalizeExternal i =>
    obtain ⟨_,ok⟩ := committedIff.mp ok
    obtain ⟨k,r,mid,named,settled,inserted,ends⟩ := finalizeExternalCases ok
    exact externalStep inv settled rfl inserted successQuiet (promised r settled.reservations.here named).symm ends
  | failureExternal i =>
    obtain ⟨_,ok⟩ := committedIff.mp ok
    obtain ⟨r,mid,here,named,inserted,⟨k,settled,ends⟩ | ⟨-,keys,reservations,ends⟩⟩ := failureExternalCases ok
    · exact externalStep inv settled rfl inserted failureQuiet (promised r here named).symm ends
    · have middle : FenceInv mid := fenceUntouched inv keys reservations (ledgerInserted inserted failureQuiet)
      rcases ends with rfl | ⟨_,_,_,cleared⟩
      · exact ⟨middle,(sameKeys keys).clears⟩
      · exact (fenceNotCleared middle cleared).elim

theorem freshFence {db} (h : Fresh db) : FenceInv db :=
  ⟨fun k mem bound => absurd (h.free k mem) bound,fun l mem => absurd mem (h.ledger l)⟩

theorem runFence {db ops} (start : Fresh db) (promised : Runs.Along next Promised db ops) : FenceInv (run db ops) :=
  Runs.invariantRun FenceInv (fun _ _ _ inv here ok => (nextFence inv here ok).1) (freshFence start) promised

/-- The counters of a fenced key are those of its one pending reservation. -/
theorem Binds.counters {db k r} (h : Binds db k r) (conserved : Conserved k.id db) (mem : k ∈ db.gatewayKeys) :
    k.reserved = r.reserved := by
  have single : pendingTotal db k.id = pendingAmounts k.id r := totalOnly h.here fun x here other =>
    pendingOther fun own pending => other (h.only x here own pending)
  rw [conserved k mem rfl,single,pendingOwn h.own h.pending]

def demoAcquire (requestId : String) : AcquireInput where
  gatewayKeyId := 1
  requestId := requestId
  route := ⟨"/v1/responses","gpt","openai",7⟩
  capabilities := ["provider_web_search"]
  destinationIds := []
  decision := ⟨true,.externalToolFenced,5,"external_tool_fenced_allowed",true,true,true,true⟩
  now := 1000
  ttl := 1000000
  newId := 30

/-- A fence acquired, held and reconciled at no charge. -/
def demoHold : List Op :=
  [.acquire (demoAcquire "w"),
   .place ⟨1,30,"w",.missingFinalUsage,.missing,false,2000,none,none,40⟩,
   .reconcileHold ⟨30,.releaseNoCharge,true,some 9,some "no charge",none,none,none,true,3000,"no charge","0"⟩]

end SlaifGateway.Quota
