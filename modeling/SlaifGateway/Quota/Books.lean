import SlaifGateway.Quota.Settlement

/-! The books of a key: its used counters have grown by what the ledger states for the
finalized reservations of the key, each of which has one row of its own. Nothing else
enters them and nothing leaves. -/
namespace SlaifGateway.Quota
open Store Library Library.Tx Library.Table

/-- What the ledger states for request `q`. -/
def recorded (db : Db) (q : String) : Amounts := ((db.usageLedger.findUnique q).map UsageLedger.actual).getD 0

def billed (id : Uuid) (db : Db) (r : QuotaReservation) : Amounts :=
  if r.gatewayKeyId = id ∧ r.status = .finalized then recorded db r.requestId else 0

def billedTotal (id : Uuid) (db : Db) : Amounts := db.quotaReservations.total (billed id db)

/-- The row of a finalized reservation, linked to it and with an actual cost. -/
def Booked (db : Db) (r : QuotaReservation) : Prop :=
  ∃ l ∈ db.usageLedger, l.requestId = r.requestId ∧ l.quotaReservationId = some r.id ∧ l.actualCostEur ≠ none

structure Books (id : Uuid) (opening : Amounts) (db : Db) : Prop where
  ledger : LedgerInv db
  booked : ∀ r ∈ db.quotaReservations, r.status = .finalized → Booked db r
  balance : usedOf db id = opening + billedTotal id db

section Steps
variable {id : Uuid} {opening : Amounts} {db db' : Db} {op : Op} {k k' : GatewayKey} {r r' : QuotaReservation}
  {actual : Amounts}

theorem recordedOf {l : UsageLedger} (row : l ∈ db.usageLedger) : recorded db l.requestId = UsageLedger.actual l := by
  rw [recorded,requestLedgerFound.mpr ⟨row,rfl⟩]
  rfl

theorem bookedStep (inv : LedgerInv db') (step : LedgerStep db db') (here : r ∈ db'.quotaReservations)
    (booked : Booked db r) : Booked db' r ∧ recorded db' r.requestId = recorded db r.requestId := by
  obtain ⟨l,row,request,-,durable⟩ := booked
  obtain ⟨l',row',same,kept⟩ := step.rows l row
  obtain ⟨durable',amount⟩ := kept durable
  obtain ⟨x,present,own⟩ := inv l' row'
  have one : x = r := eqOfUnique present here (own.request.symm.trans (same.trans request))
  refine ⟨⟨l',row',same.trans request,one ▸ own.linked,durable'⟩,?_⟩
  rw [← request,recordedOf row,← amount,← recordedOf row',same]

theorem billedOpen (open' : r.status ≠ .finalized) : billed id db r = 0 := if_neg fun h => open' h.2

theorem evolvesFinal (evolves : Evolves db db') (here : r ∈ db.quotaReservations) (final : r.status = .finalized) :
    r ∈ db'.quotaReservations := by
  obtain ⟨x,present,follows⟩ := evolves.forward r here
  rcases follows.status with rfl | ⟨pending,-⟩
  · exact present
  · rw [final] at pending
    cases pending

/-- A step that finalizes nothing leaves the bill as it is. -/
theorem costlessBilled (books : Books id opening db) (inv : LedgerInv db') (evolves : Evolves db db')
    (step : LedgerStep db db') (final : ∀ r ∈ db'.quotaReservations, r.status = .finalized → r ∈ db.quotaReservations) :
    billedTotal id db' = billedTotal id db := by
  refine totalAgree (fun r => r.status = .finalized) (fun r done => ?_) (fun r here done => ?_)
    (fun r _ live => billedOpen live) fun r _ live => billedOpen live
  · exact ⟨fun here => final r here done,fun here => evolvesFinal evolves here done⟩
  · unfold billed
    rw [(bookedStep inv step here (books.booked r (final r here done) done)).2]

theorem chargedBilled (books : Books id opening db) (inv : LedgerInv db') (evolves : Evolves db db')
    (step : LedgerStep db db') (settled : Settled db db' k k' r r' actual) (done : r'.status = .finalized)
    (amount : recorded db' r.requestId = actual) :
    billedTotal id db' = billedTotal id db + if r.gatewayKeyId = id then actual else 0 := by
  have moved := updateTotal settled.reservations (billed id db')
  have before : db.quotaReservations.total (billed id db') = billedTotal id db := by
    refine totalAgree (fun _ => True) (fun _ _ => Iff.rfl) (fun x here _ => ?_) (fun _ _ no => absurd trivial no)
      fun _ _ no => absurd trivial no
    by_cases final : x.status = .finalized
    · unfold billed
      rw [(bookedStep inv step (evolvesFinal evolves here final) (books.booked x here final)).2]
    · rw [billedOpen final,billedOpen final]
  have pending : billed id db' r = 0 := billedOpen (by rw [settled.pending]; simp)
  obtain ⟨-,key,request,-⟩ := settled.sameId
  rw [pending,add_zero,before] at moved
  have bill : billed id db' r' = if r.gatewayKeyId = id then actual else 0 := by
    unfold billed
    rw [key,request,amount]
    simp [done]
  exact moved.trans (congrArg _ bill)

theorem settledUsed (settled : Settled db db' k k' r r' actual) :
    usedOf db' id = usedOf db id + if r.gatewayKeyId = id then actual else 0 := by
  by_cases own : r.gatewayKeyId = id
  · have named : k.id = id := settled.own.symm.trans own
    rw [if_pos own,usedFound settled.keys.here named,usedFound settled.keys.memNew (settled.counters.1.trans named),
      settled.counters.2.2.1]
  · rw [if_neg own,add_zero,usedOf,settled.keys.findOther fun same => own (settled.own.trans same.symm)]
    rfl

theorem nextBooks (books : Books id opening db) (disciplined : Disciplined db op) (ok : next db op = some db') :
    Books id opening db' := by
  have evolves := nextEvolves ok
  obtain ⟨step,outcome⟩ := nextOutcome books.ledger disciplined ok
  have inv := books.ledger.step evolves step
  cases outcome with
  | costless used final _ =>
    refine ⟨inv,fun r here done => (bookedStep inv step here (books.booked r (final r here done) done)).1,?_⟩
    rw [used,books.balance,costlessBilled books inv evolves step final]
  | charged settled done row request durable paid =>
    rename_i k k' r r' actual l
    have own := settled.sameId.2.2.1
    have amount : recorded db' r.requestId = actual := by rw [← request,recordedOf row,paid]
    refine ⟨inv,fun x here final => ?_,?_⟩
    · rcases (settled.reservations.memIff x).mp here with rfl | ⟨old,-⟩
      · obtain ⟨y,present,rowOf⟩ := inv l row
        have one : y = x := eqOfUnique present here (rowOf.request.symm.trans (request.trans own.symm))
        exact ⟨l,row,request.trans own.symm,one ▸ rowOf.linked,durable⟩
      · exact (bookedStep inv step here (books.booked x old final)).1
    · rw [settledUsed settled,books.balance,chargedBilled books inv evolves step settled done amount,add_assoc]
end Steps

theorem freshBooks {db : Db} (h : Fresh db) (id : Uuid) : Books id (usedOf db id) db := by
  refine ⟨fun l mem => absurd mem (h.ledger l),fun r here => absurd here (h.reservations r),?_⟩
  rw [billedTotal,totalZero fun r here => absurd here (h.reservations r),add_zero]

/-- Whatever was committed, in whatever order: the counters of a key are its opening counters and its bill. -/
theorem booksBalance {db : Db} {ops : List Op} (start : Fresh db) (disciplined : Runs.Along next Disciplined db ops)
    (id : Uuid) : usedOf (run db ops) id = usedOf db id + billedTotal id (run db ops) ∧
      ∀ r ∈ (run db ops).quotaReservations, r.status = .finalized → Booked (run db ops) r := by
  have books : Books id (usedOf db id) (run db ops) :=
    Runs.invariantRun (Books id (usedOf db id)) (fun _ _ _ books here ok => nextBooks books here ok)
      (freshBooks start id) disciplined
  exact ⟨books.balance,books.booked⟩

/-- After the demonstration its key has used what the one row of its request states. -/
theorem booksBalanceDemo : usedOf (run demoDb demoRecorded) 1 = usedOf demoDb 1 + billedTotal 1 (run demoDb demoRecorded) ∧
    billedTotal 1 (run demoDb demoRecorded) = demoBill.amounts :=
  ⟨(booksBalance demoFresh demoDisciplined 1).1,by decide +kernel⟩
end SlaifGateway.Quota
