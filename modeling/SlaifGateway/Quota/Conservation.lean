import SlaifGateway.Quota.Operations
import SlaifGateway.Quota.KeyService

/-! Conservation of the reserved counters: along every run they equal what the key's
pending reservations hold, so no settlement can find them too low. The administrative
reset joins the runs at the end; it alone can break the equality. -/
namespace SlaifGateway.Quota
open Store Library Library.Tx Library.Table

/-- What a reservation contributes to the reserved counters of key `id`. -/
def pendingAmounts (id : Uuid) (r : QuotaReservation) : Amounts := if isPendingOf id r then r.reserved else 0

def pendingTotal (db : Db) (id : Uuid) : Amounts := db.quotaReservations.total (pendingAmounts id)

def Conserved (id : Uuid) (db : Db) : Prop := ∀ k ∈ db.gatewayKeys, k.id = id → k.reserved = pendingTotal db id

/-- Key `id` has zero reserved counters and no pending reservation. -/
structure Idle (id : Uuid) (db : Db) : Prop where
  zero : ∀ k ∈ db.gatewayKeys, k.id = id → k.reserved = 0
  none : ∀ r ∈ db.quotaReservations, r.gatewayKeyId = id → r.status ≠ .pending

/-- A gateway before its first request: keys with nothing reserved and no fence, and no other rows. -/
structure Fresh (db : Db) : Prop where
  reservations : ∀ r, r ∉ db.quotaReservations
  ledger : ∀ l, l ∉ db.usageLedger
  zero : ∀ k ∈ db.gatewayKeys, k.reserved = 0
  free : ∀ k ∈ db.gatewayKeys, k.fence.state = .none

theorem Fresh.idle {db} (h : Fresh db) (id : Uuid) : Idle id db :=
  ⟨fun k mem _ => h.zero k mem,fun r here => absurd here (h.reservations r)⟩

theorem pendingOwn {id r} (own : r.gatewayKeyId = id) (pending : r.status = .pending) :
    pendingAmounts id r = r.reserved := by
  simp [pendingAmounts,isPendingOf,own,pending]

theorem pendingOther {id r} (other : r.gatewayKeyId = id → r.status ≠ .pending) : pendingAmounts id r = 0 := by
  simp only [pendingAmounts,isPendingOf,decide_eq_true_eq]
  exact if_neg fun h => other h.1 h.2

theorem pendingNonneg {db : Db} {id r} (here : r ∈ db.quotaReservations) : 0 ≤ pendingAmounts id r := by
  unfold pendingAmounts
  split
  · exact (validOf here).1
  · exact le_refl 0

theorem idleConserved {id db} (h : Idle id db) : Conserved id db := by
  intro k mem named
  rw [h.zero k mem named]
  exact (totalZero fun r here => pendingOther (h.none r here)).symm

section Steps
variable {id : Uuid} {db db' : Db} {k k' : GatewayKey} {r r' : QuotaReservation} {actual : Amounts}

theorem openedConserves (h : Opened db db' k k' r) (before : Conserved id db) : Conserved id db' := by
  intro x mem named
  have total : pendingTotal db' id = pendingAmounts id r + pendingTotal db id := insertTotal h.reservations _
  rcases (h.keys.memIff x).mp mem with rfl | ⟨kept,other⟩
  · have sameId : k.id = id := h.counters.1.symm.trans named
    rw [total,pendingOwn (h.own.trans sameId) h.pending,h.counters.2.1,before k h.keys.here sameId,add_comm]
  · have elsewhere : r.gatewayKeyId ≠ id := fun same => other (named.trans (same.symm.trans h.own))
    rw [total,pendingOther fun same => absurd same elsewhere,zero_add]
    exact before x kept named

theorem settledTotal (h : Settled db db' k k' r r' actual) :
    pendingTotal db' id + pendingAmounts id r = pendingTotal db id := by
  have closed : pendingAmounts id r' = 0 := pendingOther fun _ => h.terminal
  have moved := updateTotal h.reservations (pendingAmounts id)
  rw [closed,add_zero] at moved
  exact moved

theorem settledConserves (h : Settled db db' k k' r r' actual) (before : Conserved id db) : Conserved id db' := by
  intro x mem named
  have total : pendingTotal db' id + pendingAmounts id r = pendingTotal db id := settledTotal h
  rcases (h.keys.memIff x).mp mem with rfl | ⟨kept,other⟩
  · have sameId : k.id = id := h.counters.1.symm.trans named
    rw [pendingOwn (h.own.trans sameId) h.pending,← before k h.keys.here sameId] at total
    rw [h.counters.2.1]
    exact sub_eq_of_eq_add total.symm
  · have elsewhere : r.gatewayKeyId ≠ id := fun same => other (named.trans (same.symm.trans h.own))
    rw [pendingOther fun same => absurd same elsewhere,add_zero] at total
    rw [total]
    exact before x kept named

theorem keptConserves (h : Kept db db') (before : Conserved id db) : Conserved id db' := by
  intro x mem named
  have total : pendingTotal db' id = pendingTotal db id := by unfold pendingTotal; rw [h.reservations]
  rw [total]
  rcases h.keys with same | ⟨k,k',updated,fenced,-⟩
  · exact before x (same ▸ mem) named
  · rcases (updated.memIff x).mp mem with rfl | ⟨kept,-⟩
    · rw [fenced] at named ⊢
      exact before k updated.here named
    · exact before x kept named

theorem nextConserves {op} (ok : next db op = some db') (before : Conserved id db) : Conserved id db' :=
  (nextMoves ok).preserves openedConserves settledConserves keptConserves before
end Steps

theorem runConserves {id db} (start : Conserved id db) (ops : List Op) : Conserved id (run db ops) :=
  Runs.invariantRun (p := fun _ _ => True) (Conserved id) (fun _ _ _ before _ ok => nextConserves ok before) start
    (Runs.alongForall fun _ _ _ => trivial)

/-- In a conserved state the counters cover every pending reservation of the key. -/
theorem pendingCovered {id db k r} (conserved : Conserved id db) (mem : k ∈ db.gatewayKeys) (named : k.id = id)
    (here : r ∈ db.quotaReservations) (own : r.gatewayKeyId = id) (pending : r.status = .pending) :
    r.reserved ≤ k.reserved := by
  rw [conserved k mem named,← pendingOwn own pending]
  exact rowLeTotal (fun _ row => pendingNonneg row) here

theorem demoFresh : Fresh demoDb := by
  refine ⟨fun r => List.not_mem_nil,fun l => List.not_mem_nil,fun k mem => ?_,fun k mem => ?_⟩ <;>
    rw [List.mem_singleton.mp mem] <;> rfl

theorem demoIdle (id : Uuid) : Idle id demoDb := demoFresh.idle id
end SlaifGateway.Quota
