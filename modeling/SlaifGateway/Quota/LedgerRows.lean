import SlaifGateway.Quota.Conservation
import SlaifGateway.Quota.History

/-! Usage-ledger rows over whole runs: whose request a row belongs to, which rows a
pending reservation can have, and that recorded amounts never change. The services
take the request id beside the reservation id and trust the caller to pair them;
`Disciplined` states that, and that a finalization re-bills what it recorded. -/
namespace SlaifGateway.Quota
open Store Library Library.Tx Library.Table

def Agrees (l : UsageLedger) : Except ServiceError Bill → Prop
  | .ok bill => UsageLedger.actual l = bill.amounts
  | .error _ => True

/-- The row a finalization carries is its own request's, recorded with the bill it charges. -/
def CarriesOwn (db : Db) (i : FinalizeInput) : Prop :=
  ∀ l ∈ db.usageLedger, i.providerCompletedUsageLedgerId = some l.id →
    l.requestId = i.facts.requestId ∧ l.actualCostEur ≠ none ∧ Agrees l (i.facts.bill i.metered)

instance (l : UsageLedger) (billed : Except ServiceError Bill) : Decidable (Agrees l billed) :=
  match billed with
  | .ok bill => inferInstanceAs (Decidable (UsageLedger.actual l = bill.amounts))
  | .error _ => .isTrue trivial

instance (db : Db) (i : FinalizeInput) : Decidable (CarriesOwn db i) :=
  inferInstanceAs (Decidable (∀ l ∈ db.usageLedger.rows, i.providerCompletedUsageLedgerId = some l.id →
    l.requestId = i.facts.requestId ∧ l.actualCostEur ≠ none ∧ Agrees l (i.facts.bill i.metered)))

def Disciplined (db : Db) : Op → Prop
  | .finalize i => OwnRequest db i.facts ∧ CarriesOwn db i
  | .finalizeCustom i => OwnRequest db i.facts
  | .recordCompleted i => OwnRequest db i.facts
  | .failure i => OwnRequest db i.facts
  | .interrupted i => OwnRequest db i.facts
  | .finalizeExternal i => OwnRequest db i.facts
  | .failureExternal i => OwnRequest db i.facts
  | _ => True

/-- What the row of a pending ordinary reservation looks like: its own key, both costs, and marked only
as a finalization that failed. -/
structure Recorded (l : UsageLedger) (r : QuotaReservation) : Prop where
  key : l.gatewayKeyId = r.gatewayKeyId
  estimated : l.estimatedCostEur ≠ none
  actual : l.actualCostEur ≠ none
  marked : UsageLedger.needsReconciliation l = true → l.isProviderCompletedRecovery = true

/-- The row is `r`'s, and a recorded one while `r` is pending. -/
structure RowOf (l : UsageLedger) (r : QuotaReservation) : Prop where
  linked : l.quotaReservationId = some r.id
  request : l.requestId = r.requestId
  recorded : r.status = .pending → r.quotaMode = .strictBounded → Recorded l r

def LedgerInv (db : Db) : Prop := ∀ l ∈ db.usageLedger, ∃ r ∈ db.quotaReservations, RowOf l r

/-- Rows stay, durable amounts never change, and what is new belongs to a reservation. -/
structure LedgerStep (db db' : Db) : Prop where
  rows : ∀ l ∈ db.usageLedger, ∃ l' ∈ db'.usageLedger, l'.requestId = l.requestId ∧
    (l.actualCostEur ≠ none → l'.actualCostEur ≠ none ∧ UsageLedger.actual l' = UsageLedger.actual l)
  origin : ∀ l' ∈ db'.usageLedger, l' ∈ db.usageLedger ∨ ∃ r ∈ db'.quotaReservations, RowOf l' r

section Steps
variable {db db' : Db} {l l' : UsageLedger} {r : QuotaReservation}

theorem RowOf.follows {r'} (h : RowOf l r) (follows : Follows r r') : RowOf l r' := by
  refine ⟨?_,h.request.trans follows.request.symm,fun pending mode => ?_⟩
  · rw [follows.id]
    exact h.linked
  · rcases follows.status with rfl | ⟨-,closed⟩
    · exact h.recorded pending mode
    · exact absurd pending closed

/-- A row of a reservation that is closed, or fenced, owes nothing more than its link. -/
theorem rowOfClosed (linked : l.quotaReservationId = some r.id) (request : l.requestId = r.requestId)
    (closed : r.status ≠ .pending) : RowOf l r := ⟨linked,request,fun pending => absurd pending closed⟩

theorem LedgerInv.step (inv : LedgerInv db) (evolves : Evolves db db') (step : LedgerStep db db') : LedgerInv db' := by
  intro l mem
  rcases step.origin l mem with old | fresh
  · obtain ⟨r,here,row⟩ := inv l old
    obtain ⟨r',present,follows⟩ := evolves.forward r here
    exact ⟨r',present,row.follows follows⟩
  · exact fresh

theorem stepSame (same : db'.usageLedger = db.usageLedger) : LedgerStep db db' :=
  ⟨fun l mem => ⟨l,same ▸ mem,rfl,fun durable => ⟨durable,rfl⟩⟩,fun _ mem => Or.inl (same ▸ mem)⟩

theorem stepInserted (h : db.usageLedger.Inserted l db'.usageLedger) (row : ∃ r ∈ db'.quotaReservations, RowOf l r) :
    LedgerStep db db' := by
  refine ⟨fun x mem => ⟨x,h.memKept mem,rfl,fun durable => ⟨durable,rfl⟩⟩,fun x mem => ?_⟩
  rcases (h.mem x).mp mem with rfl | old
  · exact Or.inr row
  · exact Or.inl old

theorem stepUpdated (h : db.usageLedger.Updated l l' db'.usageLedger) (request : l'.requestId = l.requestId)
    (amounts : l.actualCostEur ≠ none → l'.actualCostEur ≠ none ∧ UsageLedger.actual l' = UsageLedger.actual l)
    (row : ∃ r ∈ db'.quotaReservations, RowOf l' r) : LedgerStep db db' := by
  refine ⟨fun x mem => ?_,fun x mem => ?_⟩
  · by_cases same : x.id = l.id
    · rw [eqOfKey mem h.here same]
      exact ⟨l',h.memNew,request,amounts⟩
    · exact ⟨x,h.memKept mem same,rfl,fun durable => ⟨durable,rfl⟩⟩
  · rcases (h.memIff x).mp mem with rfl | ⟨old,-⟩
    · exact Or.inr row
    · exact Or.inl old

theorem LedgerStep.trans {mid} (h : LedgerStep db mid) (g : LedgerStep mid db') (evolves : Evolves mid db') :
    LedgerStep db db' := by
  refine ⟨fun l mem => ?_,fun l mem => ?_⟩
  · obtain ⟨m,inMid,request,amounts⟩ := h.rows l mem
    obtain ⟨l',present,request',amounts'⟩ := g.rows m inMid
    refine ⟨l',present,request'.trans request,fun durable => ?_⟩
    obtain ⟨durable',same⟩ := amounts durable
    exact ⟨(amounts' durable').1,(amounts' durable').2.trans same⟩
  · rcases g.origin l mem with inMid | fresh
    · rcases h.origin l inMid with old | ⟨r,here,row⟩
      · exact Or.inl old
      · obtain ⟨r',present,follows⟩ := evolves.forward r here
        exact Or.inr ⟨r',present,row.follows follows⟩
    · exact Or.inr fresh

/-- An update that keeps link, key and amounts, and marks the row only as a failed finalization. -/
theorem stepMarked (inv : LedgerInv db) (evolves : Evolves db db') (h : db.usageLedger.Updated l l' db'.usageLedger)
    (linked : l'.quotaReservationId = l.quotaReservationId) (request : l'.requestId = l.requestId)
    (key : l'.gatewayKeyId = l.gatewayKeyId) (estimated : l'.estimatedCostEur = l.estimatedCostEur)
    (actual : l'.actualCostEur = l.actualCostEur) (tokens : l'.totalTokens = l.totalTokens)
    (marked : UsageLedger.needsReconciliation l' = true → l'.isProviderCompletedRecovery = true) : LedgerStep db db' := by
  refine stepUpdated h request (fun durable => ?_) ?_
  · rw [actual,UsageLedger.actual,UsageLedger.actual,actual,tokens]
    exact ⟨durable,rfl⟩
  · obtain ⟨r,here,row⟩ := inv l h.here
    obtain ⟨r',present,follows⟩ := evolves.forward r here
    have kept := row.follows follows
    refine ⟨r',present,linked.trans kept.linked,request.trans kept.request,fun pending mode => ?_⟩
    have recorded := kept.recorded pending mode
    exact ⟨key.trans recorded.key,by rw [estimated]; exact recorded.estimated,by rw [actual]; exact recorded.actual,marked⟩

/-- The row of a settlement, inserted for the reservation it closed. -/
theorem stepSettled {k k' r' actual} (h : Settled db db' k k' r r' actual)
    (inserted : db.usageLedger.Inserted l db'.usageLedger) (linked : l.quotaReservationId = some r.id)
    (request : l.requestId = r.requestId) : LedgerStep db db' := by
  obtain ⟨id,-,sameRequest,-⟩ := h.sameId
  exact stepInserted inserted ⟨r',h.reservations.memNew,
    rowOfClosed (by rw [id]; exact linked) (request.trans sameRequest.symm) h.terminal⟩

theorem stepExpires {now k} (h : Expires now db db' k r) : LedgerStep db db' := by
  rcases h.ledger with ⟨-,same⟩ | ⟨newId,inserted⟩
  · exact stepSame same
  · exact stepSettled h.settled inserted rfl rfl

theorem stepExpired {now ids} (h : Relation.ReflTransGen (ExpiresOne now ids) db db') : LedgerStep db db' := by
  induction h with
  | refl => exact stepSame rfl
  | tail _ step ih =>
    obtain ⟨_,_,-,expires⟩ := step
    exact ih.trans (stepExpires expires) expires.settled.carried.evolves
end Steps
end SlaifGateway.Quota
