import SlaifGateway.Quota.Outcomes

/-! Settlement over whole runs: a reservation leaves `pending` once, and what its
request adds to the used counters is what its one ledger row says, or nothing. The
second part follows usage recorded before finalization, which an expiry that finds
the row unmarked still throws away. -/
namespace SlaifGateway.Quota
open Store Library Library.Tx Library.Table

def chargedBy (q : String) (c : Commit Db Op) : Amounts :=
  c.before.quotaReservations.total fun r =>
    if r.requestId = q ∧ settledIn c r then charged c r.gatewayKeyId else 0

/-- All that the settlements of request `q` added to used counters. -/
def chargedTo (q : String) (log : List (Commit Db Op)) : Amounts := (log.map (chargedBy q)).sum

def leaves (id : Uuid) (c : Commit Db Op) : Bool :=
  c.before.quotaReservations.rows.any fun r => r.id = id ∧ settledIn c r

/-- How often reservation `id` left `pending`. -/
def departures (id : Uuid) (log : List (Commit Db Op)) : Nat := log.countP (leaves id)

structure SettleInv (db : Db) (log : List (Commit Db Op)) : Prop where
  ledger : LedgerInv db
  finalized : ∀ r ∈ db.quotaReservations, r.status = .finalized → ∃ l ∈ db.usageLedger,
    l.requestId = r.requestId ∧ l.actualCostEur ≠ none ∧ chargedTo r.requestId log = UsageLedger.actual l
  others : ∀ r ∈ db.quotaReservations, r.status ≠ .finalized → chargedTo r.requestId log = 0
  unborn : ∀ q, (∀ r ∈ db.quotaReservations, r.requestId ≠ q) → chargedTo q log = 0
  once : ∀ id, departures id log = 0 ∨ departures id log = 1 ∧
    ∃ r ∈ db.quotaReservations, r.id = id ∧ r.status ≠ .pending

section Steps
variable {db db' : Db} {op : Op} {log : List (Commit Db Op)} {k k' : GatewayKey} {r r' : QuotaReservation}
  {actual : Amounts}

theorem chargedSnoc {q c} : chargedTo q (log ++ [c]) = chargedTo q log + chargedBy q c := by
  simp [chargedTo]

theorem costlessCharge {q} (used : ∀ id, usedOf db' id = usedOf db id) : chargedBy q ⟨db,op,db'⟩ = 0 := by
  refine totalZero fun r _ => ?_
  split
  · rw [charged,used]
    exact sub_self _
  · rfl

theorem settledCharge {q} (h : Settled db db' k k' r r' actual) :
    chargedBy q ⟨db,op,db'⟩ = if r.requestId = q then actual else 0 := by
  have single := totalOnly (w := fun x => if x.requestId = q ∧ settledIn ⟨db,op,db'⟩ x then
    charged ⟨db,op,db'⟩ x.gatewayKeyId else 0) h.reservations.here fun x mem other =>
      if_neg fun settled => other ((settledOnly h mem).mp settled.2)
  rw [chargedBy,single,h.own,settledCharged h]
  have closed : settledIn ⟨db,op,db'⟩ r := (settledOnly h h.reservations.here).mpr rfl
  simp [closed]

theorem leavesIff {id c} : leaves id c = true ↔ ∃ r ∈ c.before.quotaReservations, r.id = id ∧ settledIn c r := by
  simp [leaves,Membership.mem]

theorem departuresSnoc {id c} : departures id (log ++ [c]) = departures id log + if leaves id c then 1 else 0 := by
  simp [departures,List.countP_append,List.countP_singleton]

theorem onceStep (inv : SettleInv db log) (evolves : Evolves db db') (id : Uuid) :
    departures id (log ++ [⟨db,op,db'⟩]) = 0 ∨ departures id (log ++ [⟨db,op,db'⟩]) = 1 ∧
      ∃ r ∈ db'.quotaReservations, r.id = id ∧ r.status ≠ .pending := by
  rw [departuresSnoc]
  by_cases left : leaves id ⟨db,op,db'⟩ = true
  · -- it was pending before this step, so it had not left before
    obtain ⟨r,here,named,pending,gone⟩ := leavesIff.mp left
    obtain ⟨r',present,follows⟩ := evolves.forward r here
    have first : departures id log = 0 := by
      rcases inv.once id with none | ⟨-,x,inside,same,closed⟩
      · exact none
      · rw [eqOfKey inside here (same.trans named.symm)] at closed
        exact absurd pending closed
    rw [if_pos left,first]
    exact Or.inr ⟨rfl,r',present,follows.id.trans named,gone r' present follows.id⟩
  · rw [if_neg left,add_zero]
    rcases inv.once id with none | ⟨one,r,here,named,closed⟩
    · exact Or.inl none
    · obtain ⟨r',present,follows⟩ := evolves.forward r here
      rcases follows.status with rfl | ⟨pending,-⟩
      · exact Or.inr ⟨one,r',present,named,closed⟩
      · exact absurd pending closed

theorem nextSettle (inv : SettleInv db log) (disciplined : Disciplined db op) (ok : next db op = some db') :
    SettleInv db' (log ++ [⟨db,op,db'⟩]) := by
  have evolves := nextEvolves ok
  obtain ⟨step,outcome⟩ := nextOutcome inv.ledger disciplined ok
  -- a row that stated an amount still states it
  have amount : ∀ x ∈ db.quotaReservations, x.status = .finalized → ∃ l ∈ db'.usageLedger,
      l.requestId = x.requestId ∧ l.actualCostEur ≠ none ∧ chargedTo x.requestId log = UsageLedger.actual l := by
    intro x here final
    obtain ⟨l,mem,request,durable,charge⟩ := inv.finalized x here final
    obtain ⟨l',mem',same,kept⟩ := step.rows l mem
    exact ⟨l',mem',same.trans request,(kept durable).1,charge.trans (kept durable).2.symm⟩
  cases outcome with
  | costless used final _ =>
    have nothing : ∀ q, chargedTo q (log ++ [⟨db,op,db'⟩]) = chargedTo q log := by
      intro q
      rw [chargedSnoc,costlessCharge used,add_zero]
    refine ⟨inv.ledger.step evolves step,fun x here done => ?_,fun x here live => ?_,fun q none => ?_,
      onceStep inv evolves⟩
    · rw [nothing]
      exact amount x (final x here done) done
    · rw [nothing]
      rcases evolves.back x here with ⟨y,old,follows⟩ | ⟨-,fresh⟩
      · rw [follows.request]
        refine inv.others y old ?_
        rcases follows.status with rfl | ⟨pending,-⟩
        · exact live
        · rw [pending]
          simp
      · exact inv.unborn _ fresh
    · rw [nothing]
      refine inv.unborn q fun y old same => ?_
      obtain ⟨x,here,follows⟩ := evolves.forward y old
      exact none x here (follows.request.trans same)
  | charged settled final row request durable paid =>
    rename_i k k' r r' actual l
    have own := settled.sameId.2.2.1
    have other : ∀ q, q ≠ r.requestId → chargedTo q (log ++ [⟨db,op,db'⟩]) = chargedTo q log := by
      intro q different
      rw [chargedSnoc,settledCharge settled,if_neg different.symm,add_zero]
    have total : chargedTo r.requestId (log ++ [⟨db,op,db'⟩]) = actual := by
      rw [chargedSnoc,settledCharge settled,if_pos rfl,inv.others r settled.reservations.here ?_,zero_add]
      rw [settled.pending]
      simp
    have elsewhere : ∀ x ∈ db'.quotaReservations, x ≠ r' → x ∈ db.quotaReservations ∧ x.requestId ≠ r.requestId := by
      intro x here different
      rcases (settled.reservations.memIff x).mp here with rfl | ⟨old,apart⟩
      · exact absurd rfl different
      · exact ⟨old,fun same => apart (by rw [eqOfUnique old settled.reservations.here same])⟩
    refine ⟨inv.ledger.step evolves step,fun x here done => ?_,fun x here live => ?_,fun q none => ?_,
      onceStep inv evolves⟩
    · by_cases same : x = r'
      · subst same
        rw [own,total]
        exact ⟨l,row,request,durable,paid.symm⟩
      · obtain ⟨old,apart⟩ := elsewhere x here same
        rw [other _ apart]
        exact amount x old done
    · have different : x ≠ r' := fun same => live (same ▸ final)
      obtain ⟨old,apart⟩ := elsewhere x here different
      rw [other _ apart]
      exact inv.others x old live
    · have apart : q ≠ r.requestId := fun same => none r' settled.reservations.memNew (own.trans same.symm)
      rw [other q apart]
      refine inv.unborn q fun y old same => ?_
      obtain ⟨x,here,follows⟩ := evolves.forward y old
      exact none x here (follows.request.trans same)
end Steps

theorem freshSettle {db} (h : Fresh db) : SettleInv db [] :=
  ⟨fun l mem => absurd mem (h.ledger l),fun r here => absurd here (h.reservations r),fun _ _ _ => rfl,fun _ _ => rfl,
    fun _ => Or.inl rfl⟩

theorem runSettle {db ops} (start : Fresh db) (disciplined : Runs.Along next Disciplined db ops) :
    SettleInv (run db ops) (commits db ops) :=
  Runs.historyRun SettleInv (fun _ _ _ _ inv here ok => nextSettle inv here ok) (freshSettle start) disciplined

/-- Used counters grow only in a transaction that settles a reservation of the key. -/
theorem chargeSettles {db op db' id} (ok : next db op = some db') (grown : charged ⟨db,op,db'⟩ id ≠ 0) :
    ∃ r ∈ db.quotaReservations, r.gatewayKeyId = id ∧ settledIn ⟨db,op,db'⟩ r := by
  have idle (same : usedOf db' id = usedOf db id) : False := grown (by rw [charged,same]; exact sub_self _)
  cases nextMoves ok with
  | opened h => exact (idle (updatedUsed h.keys h.counters.2.2.1)).elim
  | expired h => exact (idle (expiredUsed h)).elim
  | kept h => exact (idle (keptUsed h)).elim
  | settled h =>
    rename_i k k' r r' actual
    refine ⟨r,h.reservations.here,?_,(settledOnly h h.reservations.here).mpr rfl⟩
    by_contra other
    refine idle ?_
    rw [usedOf,h.keys.findOther fun same => other (h.own.trans same.symm)]
    rfl

theorem exactlyOnceSettlement {db : Db} {ops : List Op} (start : Fresh db)
    (disciplined : Runs.Along next Disciplined db ops) :
    (∀ id, departures id (commits db ops) ≤ 1) ∧
    (∀ q, ((run db ops).usageLedger.rows.countP fun l => l.requestId = q) ≤ 1) ∧
    (∀ r ∈ (run db ops).quotaReservations,
      (r.status = .finalized → ∃ l ∈ (run db ops).usageLedger, l.requestId = r.requestId ∧
        chargedTo r.requestId (commits db ops) = UsageLedger.actual l) ∧
      (r.status ≠ .finalized → chargedTo r.requestId (commits db ops) = 0)) ∧
    ∀ c ∈ commits db ops, ∀ id, charged c id ≠ 0 →
      ∃ r ∈ c.before.quotaReservations, r.gatewayKeyId = id ∧ settledIn c r := by
  have inv := runSettle start disciplined
  refine ⟨fun id => ?_,fun q => uniqueCount (run db ops).usageLedger q,fun r here => ⟨fun final => ?_,inv.others r here⟩,?_⟩
  · rcases inv.once id with none | ⟨one,-⟩
    · rw [none]
      exact Nat.zero_le 1
    · rw [one]
  · obtain ⟨l,mem,request,-,charge⟩ := inv.finalized r here final
    exact ⟨l,mem,request,charge⟩
  · exact Runs.commitsForall (fun _ => True) (fun c => ∀ id, charged c id ≠ 0 →
      ∃ r ∈ c.before.quotaReservations, r.gatewayKeyId = id ∧ settledIn c r)
      (fun _ _ _ _ _ ok => ⟨trivial,fun _ grown => chargeSettles ok grown⟩) trivial disciplined

def demoBill : Bill := ⟨20,20,40,2,2,true⟩

/-- A streamed request whose usage is recorded, whose finalization fails once and is retried. -/
def demoRecorded : List Op :=
  [.reserve (demoReserve 10 "a" 1),.recordCompleted ⟨demoFacts 10 "a" 20,.ok demoBill⟩,.markFailed 20 10,
   .finalize ⟨demoFacts 10 "a" 21,.ok demoBill,some 20⟩]

theorem demoDisciplined : Runs.Along next Disciplined demoDb demoRecorded := by
  refine ⟨trivial,?_,trivial,⟨?_,?_⟩,trivial⟩
  · change OwnRequest _ _
    decide +kernel
  · decide +kernel
  · decide +kernel

theorem exactlyOnceSettlementDemo : Fresh demoDb ∧ Runs.Along next Disciplined demoDb demoRecorded ∧
    ∃ l ∈ (run demoDb demoRecorded).usageLedger, l.requestId = "a" ∧
      chargedTo "a" (commits demoDb demoRecorded) = UsageLedger.actual l := by
  have settled := (exactlyOnceSettlement demoFresh demoDisciplined).2.2.1
    ((demoReserve 10 "a" 1).reservation.markFinalized 2000) (by decide +kernel)
  exact ⟨demoFresh,demoDisciplined,settled.1 rfl⟩

/-- No release, and no executed expiry that finds the row unmarked, reaches a pending reservation whose
request already has a row with an actual cost. -/
def Spares (db : Db) (op : Op) : Prop :=
  ∀ r ∈ db.quotaReservations, r.status = .pending → ¬Unrecorded db r → ¬Forfeits db r op

/-- The reservation is still pending or was finalized, and its row states the recorded amounts. -/
structure StillOwed (db : Db) (f : RequestFacts) (recorded : Amounts) (r : QuotaReservation) (l : UsageLedger) : Prop where
  here : r ∈ db.quotaReservations
  named : r.id = f.reservationId
  request : r.requestId = f.requestId
  status : r.status = .pending ∨ r.status = .finalized
  row : l ∈ db.usageLedger
  own : l.requestId = f.requestId
  durable : l.actualCostEur ≠ none
  amount : UsageLedger.actual l = recorded

/-- Every usage recorded in the log is still owed or paid. -/
def Honoured (db : Db) (log : List (Commit Db Op)) : Prop :=
  ∀ c ∈ log, ∀ i, c.op = .recordCompleted i → ∀ l ∈ c.after.usageLedger, l.requestId = i.facts.requestId →
    l.actualCostEur ≠ none → ∃ r l', StillOwed db i.facts (UsageLedger.actual l) r l'

section Recorded
variable {db db' : Db} {op : Op} {log : List (Commit Db Op)}

theorem StillOwed.step {f recorded r l} (h : StillOwed db f recorded r l) (inv : LedgerInv db)
    (disciplined : Disciplined db op) (spared : Spares db op) (ok : next db op = some db') :
    ∃ r l, StillOwed db' f recorded r l := by
  obtain ⟨step,outcome⟩ := nextOutcome inv disciplined ok
  obtain ⟨l',present,same,kept⟩ := step.rows l h.row
  obtain ⟨durable,amount⟩ := kept h.durable
  have owed (r') (here : r' ∈ db'.quotaReservations) (named : r'.id = r.id) (request : r'.requestId = r.requestId)
      (status : r'.status = .pending ∨ r'.status = .finalized) : ∃ r l, StillOwed db' f recorded r l :=
    ⟨r',l',here,named.trans h.named,request.trans h.request,status,present,same.trans h.own,durable,amount.trans h.amount⟩
  by_cases stays : r ∈ db'.quotaReservations
  · exact owed r stays rfl rfl h.status
  -- the step closed it, so it was pending and its row was there to see
  obtain ⟨r',here,follows⟩ := (nextEvolves ok).forward r h.here
  have pending : r.status = .pending := by
    rcases follows.status with rfl | ⟨pending,-⟩
    · exact absurd here stays
    · exact pending
  have recordedRow : ¬Unrecorded db r := fun none => h.durable (none l h.row (h.own.trans h.request.symm))
  cases outcome with
  | costless _ _ closes =>
    rcases closes r h.here pending stays with forfeits | none
    · exact absurd forfeits (spared r h.here pending recordedRow)
    · exact absurd none recordedRow
  | charged settled final row request stated paid =>
    rename_i _ _ x x' _ _
    have one : r = x := by
      by_contra other
      exact stays (settled.reservations.memKept h.here fun same => other (eqOfKey h.here settled.reservations.here same))
    subst one
    exact owed x' settled.reservations.memNew settled.sameId.1 settled.sameId.2.2.1 (Or.inr final)

theorem nextHonoured (inv : SettleInv db log) (honoured : Honoured db log) (disciplined : Disciplined db op)
    (spared : Spares db op) (ok : next db op = some db') : Honoured db' (log ++ [⟨db,op,db'⟩]) := by
  intro c mem i isRecord l row request durable
  rcases List.mem_append.mp mem with past | now
  · obtain ⟨r,l',owed⟩ := honoured c past i isRecord l row request durable
    exact owed.step inv.ledger disciplined spared ok
  · rw [List.mem_singleton.mp now] at isRecord row
    simp only at isRecord row
    subst isRecord
    have evolves := nextEvolves ok
    obtain ⟨_,_,ok⟩ := committedFirst ok
    obtain ⟨r,here,named,pending,-,cases⟩ := recordCases ok
    have reservations : db'.quotaReservations = db.quotaReservations := by
      rcases cases with same | ⟨_,-,-,same,-⟩
      · exact congrArg Db.quotaReservations same
      · exact same
    exact ⟨r,l,reservations ▸ here,named,disciplined r here named,Or.inl pending,row,request,durable,rfl⟩
end Recorded

theorem recordedUsageKept {db : Db} {ops : List Op} (start : Fresh db)
    (spared : Runs.Along next (fun db op => Disciplined db op ∧ Spares db op) db ops) :
    ∀ c ∈ commits db ops, ∀ i, c.op = .recordCompleted i →
      ∀ l ∈ c.after.usageLedger, l.requestId = i.facts.requestId → l.actualCostEur ≠ none →
        ∃ r ∈ (run db ops).quotaReservations, r.id = i.facts.reservationId ∧
          (r.status = .pending ∧ chargedTo i.facts.requestId (commits db ops) = 0 ∨
            r.status = .finalized ∧ chargedTo i.facts.requestId (commits db ops) = UsageLedger.actual l) := by
  have both : SettleInv (run db ops) (commits db ops) ∧ Honoured (run db ops) (commits db ops) :=
    Runs.historyRun (fun db log => SettleInv db log ∧ Honoured db log)
      (fun _ _ _ _ inv here ok => ⟨nextSettle inv.1 here.1 ok,nextHonoured inv.1 inv.2 here.1 here.2 ok⟩)
      ⟨freshSettle start,fun c mem => absurd mem List.not_mem_nil⟩ spared
  obtain ⟨inv,honoured⟩ := both
  intro c mem i isRecord l row request durable
  obtain ⟨r,l',owed⟩ := honoured c mem i isRecord l row request durable
  refine ⟨r,owed.here,owed.named,?_⟩
  rw [← owed.request]
  rcases owed.status with pending | final
  · exact Or.inl ⟨pending,inv.others r owed.here (by rw [pending]; simp)⟩
  · obtain ⟨x,inLedger,same,-,charge⟩ := inv.finalized r owed.here final
    have one : x = l' := eqOfUnique inLedger owed.row ((same.trans owed.request).trans owed.own.symm)
    exact Or.inr ⟨final,by rw [charge,one,owed.amount]⟩

instance (db : Db) (op : Op) : Decidable (Spares db op) :=
  inferInstanceAs (Decidable (∀ r ∈ db.quotaReservations.rows, r.status = .pending → ¬Unrecorded db r →
    ¬Forfeits db r op))

/-- The recorded request again, its failed finalization marked: an expiry run after the deadline refuses it, and the
recovery charges it. -/
def demoSpared : List Op :=
  [.reserve (demoReserve 10 "a" 1),.recordCompleted ⟨demoFacts 10 "a" 20,.ok demoBill⟩,.markFailed 20 10,
   .expire 10 900001000 false 21,.completeRecovery (some 20) none false 900002000]

theorem demoSparedAlong : Runs.Along next (fun db op => Disciplined db op ∧ Spares db op) demoDb demoSpared := by
  refine ⟨⟨trivial,?_⟩,⟨?_,?_⟩,⟨trivial,?_⟩,⟨trivial,?_⟩,⟨trivial,?_⟩,trivial⟩
  · decide +kernel
  · change OwnRequest _ _
    decide +kernel
  all_goals decide +kernel

theorem recordedUsageKeptDemo : Fresh demoDb ∧
    Runs.Along next (fun db op => Disciplined db op ∧ Spares db op) demoDb demoSpared ∧
    (commits demoDb demoSpared).length = 4 ∧ chargedTo "a" (commits demoDb demoSpared) = ⟨2,40,1⟩ ∧
    ∀ c ∈ commits demoDb demoSpared, ∀ i, c.op = .recordCompleted i →
      ∀ l ∈ c.after.usageLedger, l.requestId = i.facts.requestId → l.actualCostEur ≠ none →
        ∃ r ∈ (run demoDb demoSpared).quotaReservations, r.id = i.facts.reservationId ∧
          (r.status = .pending ∧ chargedTo i.facts.requestId (commits demoDb demoSpared) = 0 ∨
            r.status = .finalized ∧
              chargedTo i.facts.requestId (commits demoDb demoSpared) = UsageLedger.actual l) := by
  refine ⟨demoFresh,demoSparedAlong,?_,?_,recordedUsageKept demoFresh demoSparedAlong⟩
  · decide +kernel
  · decide +kernel

/-- The process dies between the record and the finalization: the row is unmarked, and the expiry run drops it. -/
theorem recordedUsageExpires :
    let ops := [Op.reserve (demoReserve 10 "a" 1),Op.recordCompleted ⟨demoFacts 10 "a" 20,.ok demoBill⟩,
      Op.expire 10 900001000 false 21]
    Fresh demoDb ∧ Runs.Along next Disciplined demoDb ops ∧
      (∃ l ∈ (run demoDb (ops.take 2)).usageLedger, l.requestId = "a" ∧ UsageLedger.actual l = ⟨2,40,1⟩) ∧
      (∃ r ∈ (run demoDb (ops.take 2)).quotaReservations, r.id = 10 ∧ r.status = .pending) ∧
      (∃ r ∈ (run demoDb ops).quotaReservations, r.id = 10 ∧ r.status = .expired) ∧
      chargedTo "a" (commits demoDb ops) = 0 := by
  intro ops
  refine ⟨demoFresh,⟨trivial,?_,trivial,trivial⟩,?_,?_,?_,by decide +kernel⟩
  · change OwnRequest _ _
    decide +kernel
  · exact ⟨((demoFacts 10 "a" 20).ledger demoBill pendingMetadata).asProviderCompleted,by decide +kernel,rfl,
      by decide +kernel⟩
  · exact ⟨(demoReserve 10 "a" 1).reservation,by decide +kernel,rfl,rfl⟩
  · exact ⟨(demoReserve 10 "a" 1).reservation.markExpired 900001000,by decide +kernel,rfl,rfl⟩
end SlaifGateway.Quota
