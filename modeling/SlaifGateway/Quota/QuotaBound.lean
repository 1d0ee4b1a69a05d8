import SlaifGateway.Quota.Conservation
import SlaifGateway.Quota.History

/-! The quota bound over whole runs. A reservation is admitted only inside the limits,
and a settlement may exceed what it held, so used plus reserved stays within the
limits plus the excess of the settlements made so far. -/
namespace SlaifGateway.Quota
open Store Library Library.Tx Library.Table

/-- Every limited dimension raised by `a`. -/
def Limits.plus (l : Limits) (a : Amounts) : Limits :=
  ⟨l.costEur.map (· + a.costEur),l.tokens.map (· + a.tokens),l.requests.map (· + a.requests)⟩

/-- `max(0, actual - reserved)` in every dimension. -/
def excess (actual reserved : Amounts) : Amounts :=
  ⟨max 0 (actual.costEur - reserved.costEur),max 0 (actual.tokens - reserved.tokens),
    max 0 (actual.requests - reserved.requests)⟩

def commitOverrun (id : Uuid) (c : Commit Db Op) : Amounts :=
  c.before.quotaReservations.total fun r =>
    if r.gatewayKeyId = id ∧ settledIn c r then excess (charged c id) r.reserved else 0

/-- The sum, over the settlements of key `id`, of what each used beyond its reservation. -/
def overrun (id : Uuid) (log : List (Commit Db Op)) : Amounts := (log.map (commitOverrun id)).sum

/-- The transactions that admit new work on key `id`. -/
def Op.admits (id : Uuid) : Op → Prop
  | .reserve i => i.authenticatedKey.gatewayKeyId = id
  | .acquire i => i.gatewayKeyId = id
  | _ => False

theorem excessNonneg {a b} : 0 ≤ excess a b := ⟨le_max_left _ _,le_max_left _ _,le_max_left _ _⟩

theorem leAddExcess {a b} : a ≤ b + excess a b := by
  refine ⟨?_,?_,?_⟩ <;> simp only [excess,Amounts.addCost,Amounts.addTokens,Amounts.addRequests]
  · linarith [le_max_right 0 (a.costEur - b.costEur)]
  · omega
  · omega

theorem excessZero {a b : Amounts} (le : a ≤ b) : excess a b = 0 := by
  obtain ⟨cost,tokens,requests⟩ := le
  refine Amounts.ext ?_ ?_ ?_
  · exact max_eq_left (by linarith)
  · exact max_eq_left (by omega)
  · exact max_eq_left (by omega)

theorem commitOverrunNonneg {id c} : 0 ≤ commitOverrun id c := by
  refine List.sum_nonneg fun x mem => ?_
  obtain ⟨r,-,rfl⟩ := List.mem_map.mp mem
  split
  · exact excessNonneg
  · exact le_refl 0

theorem overrunSnoc {id log c} : overrun id (log ++ [c]) = overrun id log + commitOverrun id c := by
  simp [overrun]

theorem overrunNonneg {id log} : 0 ≤ overrun id log := by
  refine List.sum_nonneg fun x mem => ?_
  obtain ⟨c,-,rfl⟩ := List.mem_map.mp mem
  exact commitOverrunNonneg

theorem allowsPlus {l a x} : Limits.Allows (Limits.plus l a) x ↔ Limits.Allows l (x - a) := by
  simp [Limits.Allows,Limits.plus]

/-- Key `id` is within its limits and the excess of the settlements in `log`. -/
def Within (id : Uuid) (db : Db) (log : List (Commit Db Op)) : Prop :=
  ∀ k ∈ db.gatewayKeys, k.id = id → Limits.Allows (Limits.plus k.limit (overrun id log)) (k.used + k.reserved)

theorem withinSnoc {k k' : GatewayKey} {id log c} (limit : k'.limit = k.limit)
    (grown : k'.used + k'.reserved ≤ k.used + k.reserved + commitOverrun id c)
    (before : Limits.Allows (Limits.plus k.limit (overrun id log)) (k.used + k.reserved)) :
    Limits.Allows (Limits.plus k'.limit (overrun id (log ++ [c]))) (k'.used + k'.reserved) := by
  rw [allowsPlus] at before ⊢
  rw [limit,overrunSnoc]
  refine allowsMono before ?_
  calc k'.used + k'.reserved - (overrun id log + commitOverrun id c)
      ≤ k.used + k.reserved + commitOverrun id c - (overrun id log + commitOverrun id c) :=
        sub_le_sub_right grown _
    _ = k.used + k.reserved - overrun id log := by abel

section Steps
variable {id : Uuid} {db db' : Db} {op : Op} {log : List (Commit Db Op)}
  {k k' : GatewayKey} {r r' : QuotaReservation} {actual : Amounts}

theorem keptWithin (same : ∀ x ∈ db'.gatewayKeys, x.id = id → ∃ k ∈ db.gatewayKeys, k.id = id ∧ x.limit = k.limit ∧
    x.used + x.reserved ≤ k.used + k.reserved) (before : Within id db log) : Within id db' (log ++ [⟨db,op,db'⟩]) := by
  intro x mem named
  obtain ⟨k,here,sameId,limit,le⟩ := same x mem named
  exact withinSnoc limit (le.trans (le_add_of_nonneg_right commitOverrunNonneg)) (before k here sameId)

theorem openedWithin (h : Opened db db' k k' r) (before : Within id db log) :
    Within id db' (log ++ [⟨db,op,db'⟩]) := by
  intro x mem named
  rcases (h.keys.memIff x).mp mem with rfl | ⟨kept,-⟩
  · obtain ⟨-,reserved,used,limit⟩ := h.counters
    rw [allowsPlus,limit,used,reserved,← add_assoc]
    exact allowsMono h.room (sub_le_self _ overrunNonneg)
  · exact withinSnoc rfl (le_add_of_nonneg_right commitOverrunNonneg) (before x kept named)

theorem settledOverrun (h : Settled db db' k k' r r' actual) :
    commitOverrun k.id ⟨db,op,db'⟩ = excess actual r.reserved := by
  have single := totalOnly (w := fun x => if x.gatewayKeyId = k.id ∧ settledIn ⟨db,op,db'⟩ x then
    excess (charged ⟨db,op,db'⟩ k.id) x.reserved else 0) h.reservations.here fun x mem other =>
      if_neg fun settled => other ((settledOnly h mem).mp settled.2)
  rw [commitOverrun,single,settledCharged h]
  exact if_pos ⟨h.own,(settledOnly h h.reservations.here).mpr rfl⟩

theorem settledWithin (h : Settled db db' k k' r r' actual) (before : Within id db log) :
    Within id db' (log ++ [⟨db,op,db'⟩]) := by
  intro x mem named
  rcases (h.keys.memIff x).mp mem with rfl | ⟨kept,-⟩
  · obtain ⟨sameId,reserved,used,limit⟩ := h.counters
    obtain rfl : k.id = id := sameId.symm.trans named
    refine withinSnoc limit ?_ (before k h.keys.here rfl)
    rw [settledOverrun h,used,reserved]
    calc k.used + actual + (k.reserved - r.reserved)
        ≤ k.used + (r.reserved + excess actual r.reserved) + (k.reserved - r.reserved) := by
          gcongr
          exact leAddExcess
      _ = k.used + k.reserved + excess actual r.reserved := by abel
  · exact withinSnoc rfl (le_add_of_nonneg_right commitOverrunNonneg) (before x kept named)

theorem keptShrinks (h : Kept db db') : ∀ x ∈ db'.gatewayKeys, x.id = id → ∃ k ∈ db.gatewayKeys, k.id = id ∧
    x.limit = k.limit ∧ x.used + x.reserved ≤ k.used + k.reserved := by
  intro x mem named
  rcases h.keys with same | ⟨k,k',updated,fenced,-⟩
  · exact ⟨x,same ▸ mem,named,rfl,le_refl _⟩
  · rcases (updated.memIff x).mp mem with rfl | ⟨kept,-⟩
    · rw [fenced] at named ⊢
      exact ⟨k,updated.here,named,rfl,le_refl _⟩
    · exact ⟨x,kept,named,rfl,le_refl _⟩

/-- Expirations cost nothing, so a chain of them only lowers the counters. -/
theorem expiredShrinks {now ids} (h : Relation.ReflTransGen (ExpiresOne now ids) db db') :
    ∀ x ∈ db'.gatewayKeys, x.id = id → ∃ k ∈ db.gatewayKeys, k.id = id ∧ x.limit = k.limit ∧
      x.used + x.reserved ≤ k.used + k.reserved := by
  induction h with
  | refl => exact fun x mem named => ⟨x,mem,named,rfl,le_refl _⟩
  | tail _ step ih =>
    obtain ⟨k,r,-,expires⟩ := step
    have settled := expires.settled
    intro x mem named
    rcases (settled.keys.memIff x).mp mem with rfl | ⟨kept,-⟩
    · obtain ⟨sameId,reserved,used,limit⟩ := settled.counters
      obtain ⟨first,here,own,sameLimit,le⟩ := ih k settled.keys.here (sameId.symm.trans named)
      refine ⟨first,here,own,limit.trans sameLimit,le_trans ?_ le⟩
      rw [used,reserved,add_zero]
      exact add_le_add_right (sub_le_self _ (validOf settled.reservations.here).1) _
    · exact ih x kept named

theorem nextWithin (before : Within id db log) (ok : next db op = some db') : Within id db' (log ++ [⟨db,op,db'⟩]) := by
  cases nextMoves ok with
  | opened h => exact openedWithin h before
  | settled h => exact settledWithin h before
  | expired h => exact keptWithin (expiredShrinks h) before
  | kept h => exact keptWithin (keptShrinks h) before
end Steps

/-- While the reservation a fence names is pending it is the key's only one, and the key is within its limits. -/
def FenceRoom (id : Uuid) (db : Db) : Prop :=
  ∀ k ∈ db.gatewayKeys, k.id = id → ∀ r ∈ db.quotaReservations, k.fence.reservationId = some r.id →
    r.gatewayKeyId = id → r.status = .pending →
    (∀ x ∈ db.quotaReservations, x.gatewayKeyId = id → x.status = .pending → x = r) ∧
    Limits.Allows k.limit (k.used + k.reserved)

section FenceSteps
variable {id : Uuid} {db db' : Db} {k k' : GatewayKey} {r r' : QuotaReservation} {actual : Amounts}

theorem freeUnbound (here : k ∈ db.gatewayKeys) (free : k.fence.state = .none) : k.fence.reservationId = none :=
  ((validOf here).2.2.2.1.1.mp free).1

theorem openedRoom (h : Opened db db' k k' r) (before : FenceRoom id db) : FenceRoom id db' := by
  intro x mem named y here bound own pending
  rcases (h.keys.memIff x).mp mem with rfl | ⟨kept,other⟩
  · rcases h.fence with same | ⟨fresh,idle⟩
    · rw [same,freeUnbound h.keys.here h.free] at bound
      cases bound
    · have sameId : k.id = id := h.counters.1.symm.trans named
      have one : y = r := eqOfKey here h.reservations.memNew (Option.some.inj (bound.symm.trans fresh))
      subst one
      refine ⟨fun z inside ownZ pendingZ => ?_,?_⟩
      · rcases (h.reservations.mem z).mp inside with rfl | old
        · rfl
        · exact absurd pendingZ (idle z old (ownZ.trans sameId.symm))
      · obtain ⟨-,reserved,used,limit⟩ := h.counters
        rw [limit,used,reserved,← add_assoc]
        exact h.room
  · -- the new reservation belongs to another key
    have elsewhere : r.gatewayKeyId ≠ id := fun same => other (named.trans (same.symm.trans h.own))
    have old : ∀ z ∈ db'.quotaReservations, z.gatewayKeyId = id → z ∈ db.quotaReservations := by
      intro z inside ownZ
      rcases (h.reservations.mem z).mp inside with rfl | old
      · exact absurd ownZ elsewhere
      · exact old
    obtain ⟨only,room⟩ := before x kept named y (old y here own) bound own pending
    exact ⟨fun z inside ownZ pendingZ => only z (old z inside ownZ) ownZ pendingZ,room⟩

theorem settledRoom (h : Settled db db' k k' r r' actual) (before : FenceRoom id db) : FenceRoom id db' := by
  intro x mem named y here bound own pending
  have old : ∀ z ∈ db'.quotaReservations, z.status = .pending → z ∈ db.quotaReservations ∧ z.id ≠ r.id := by
    intro z inside pendingZ
    rcases (h.reservations.memIff z).mp inside with rfl | old
    · exact absurd pendingZ h.terminal
    · exact old
  obtain ⟨inBefore,notSettled⟩ := old y here pending
  rcases (h.keys.memIff x).mp mem with rfl | ⟨kept,-⟩
  · rcases h.fence with same | cleared
    · -- the settled reservation was pending beside the one the fence names
      have sameId : k.id = id := h.counters.1.symm.trans named
      rw [same] at bound
      obtain ⟨only,-⟩ := before k h.keys.here sameId y inBefore bound own pending
      exact absurd (congrArg QuotaReservation.id (only r h.reservations.here (h.own.trans sameId) h.pending)).symm notSettled
    · rw [cleared] at bound
      cases bound
  · obtain ⟨only,room⟩ := before x kept named y inBefore bound own pending
    exact ⟨fun z inside ownZ pendingZ => only z (old z inside pendingZ).1 ownZ pendingZ,room⟩

theorem keptRoom (h : Kept db db') (before : FenceRoom id db) : FenceRoom id db' := by
  intro x mem named y here bound own pending
  rw [h.reservations] at here ⊢
  rcases h.keys with same | ⟨k,k',updated,fenced,rebound⟩
  · exact before x (same ▸ mem) named y here bound own pending
  · rcases (updated.memIff x).mp mem with rfl | ⟨kept,-⟩
    · rcases rebound with same | cleared
      · rw [same] at bound
        rw [fenced] at named ⊢
        exact before k updated.here named y here bound own pending
      · rw [cleared] at bound
        cases bound
    · exact before x kept named y here bound own pending

theorem nextRoom {op} (ok : next db op = some db') (before : FenceRoom id db) : FenceRoom id db' :=
  (nextMoves ok).preserves openedRoom settledRoom keptRoom before
end FenceSteps

theorem openedAllows {id db db' k k' r} (h : Opened db db' k k' r) (named : k.id = id) :
    ∀ x ∈ db'.gatewayKeys, x.id = id → Limits.Allows x.limit (x.used + x.reserved) := by
  intro x mem same
  obtain ⟨sameId,reserved,used,limit⟩ := h.counters
  rw [eqOfKey mem h.keys.memNew (same.trans (named.symm.trans sameId.symm)),limit,used,reserved,← add_assoc]
  exact h.room

theorem admittedAllows {id db op db'} (room : FenceRoom id db) (admits : op.admits id) (ok : next db op = some db') :
    ∀ x ∈ db'.gatewayKeys, x.id = id → Limits.Allows x.limit (x.used + x.reserved) := by
  cases op with
  | reserve i =>
    obtain ⟨_,_,ok⟩ := committedFirst ok
    obtain ⟨k,_,opened,-⟩ := reserveOpened ok
    exact openedAllows opened (opened.own.symm.trans admits)
  | acquire i =>
    obtain ⟨_,_,ok⟩ := committedFirst ok
    rcases acquireCases ok with ⟨same,-,k,r,retried⟩ | ⟨k,_,_,fenced⟩
    · rintro x mem named
      have unchanged : db' = db := same
      rw [unchanged] at mem
      have one : x = k := eqOfKey mem retried.key (named.trans (admits.symm.trans retried.named.symm))
      subst one
      exact (room x mem named r retried.here retried.reservation (retried.own.trans named) retried.pending).2
    · exact openedAllows fenced.opened (fenced.named.trans admits)
  | _ => exact False.elim admits

theorem quotaBoundAlongRuns {id : Uuid} {db : Db} (idle : Idle id db)
    (within : ∀ k ∈ db.gatewayKeys, k.id = id → Limits.Allows k.limit k.used) (ops : List Op) :
    (∀ c ∈ commits db ops, c.op.admits id →
      ∀ k ∈ c.after.gatewayKeys, k.id = id → Limits.Allows k.limit (k.used + k.reserved)) ∧
    (∀ k ∈ (run db ops).gatewayKeys, k.id = id →
      Limits.Allows (Limits.plus k.limit (overrun id (commits db ops))) (k.used + k.reserved)) ∧
    ((∀ c ∈ commits db ops, ∀ r ∈ c.before.quotaReservations, r.gatewayKeyId = id → settledIn c r →
        charged c id ≤ r.reserved) →
      ∀ k ∈ (run db ops).gatewayKeys, k.id = id → Limits.Allows k.limit (k.used + k.reserved)) := by
  have free : Runs.Along next (fun _ _ => True) db ops := Runs.alongForall fun _ _ _ => trivial
  have room : FenceRoom id db := fun _ _ _ r here _ own pending => absurd pending (idle.none r here own)
  have start : Within id db [] := by
    intro k mem named
    rw [allowsPlus,idle.zero k mem named]
    simpa [overrun] using within k mem named
  have bound : Within id (run db ops) (commits db ops) :=
    Runs.historyRun (Within id) (fun _ _ _ _ before _ ok => nextWithin before ok) start free
  refine ⟨?_,bound,fun modest k mem named => ?_⟩
  · exact Runs.commitsForall (FenceRoom id) (fun c => c.op.admits id →
      ∀ k ∈ c.after.gatewayKeys, k.id = id → Limits.Allows k.limit (k.used + k.reserved))
      (fun _ _ _ before _ ok => ⟨nextRoom ok before,fun admits => admittedAllows before admits ok⟩) room free
  · have none : overrun id (commits db ops) = 0 := by
      refine List.sum_eq_zero fun x inLog => ?_
      obtain ⟨c,here,rfl⟩ := List.mem_map.mp inLog
      refine totalZero fun r row => ?_
      split
      · rename_i settled
        exact excessZero (modest c here r row settled.1 settled.2)
      · rfl
    have within := allowsPlus.mp (bound k mem named)
    rw [none,sub_zero] at within
    exact within

/-- One settlement of 2 euro and 40 tokens against 1 euro and 30 tokens held: the bound moves by that much. -/
theorem quotaBoundDemo :
    let ops := [Op.reserve (demoReserve 10 "a" 1),
      Op.finalizeCustom ⟨demoFacts 10 "a" 20,⟨20,20,40,2,2,true⟩,"EUR",.plain true⟩]
    Idle 1 demoDb ∧ overrun 1 (commits demoDb ops) = ⟨1,10,0⟩ ∧
      ∀ k ∈ (run demoDb ops).gatewayKeys, k.id = 1 →
        Limits.Allows (Limits.plus k.limit ⟨1,10,0⟩) (k.used + k.reserved) := by
  intro ops
  have within : ∀ k ∈ demoDb.gatewayKeys, k.id = 1 → Limits.Allows k.limit k.used := by
    intro k mem _
    rw [List.mem_singleton.mp mem]
    decide +kernel
  have moved : overrun 1 (commits demoDb ops) = ⟨1,10,0⟩ := by decide +kernel
  have bound := (quotaBoundAlongRuns (demoIdle 1) within ops).2.1
  rw [moved] at bound
  exact ⟨demoIdle 1,moved,bound⟩
end SlaifGateway.Quota
