import SlaifGateway.Quota.Conservation
import SlaifGateway.Quota.KeyService

/-! Runs in which an administrator resets counters between accounting transactions.
Zeroing the used counters never disturbs what is in flight; zeroing the reserved
ones does, unless nothing of the key is pending. -/
namespace SlaifGateway.Quota
open Store Library Library.Tx Library.Table

inductive KeyOp where
  | accounting (op : Op)
  | resetUsage (i : ResetGatewayKeyUsageInput)

def KeyOp.transaction : KeyOp → Action Unit
  | .accounting op => op.transaction
  | .resetUsage i => do let _ ← resetGatewayKeyUsage i

def nextKey (db : Db) (op : KeyOp) : Option Db := committed op.transaction db

def runKey (db : Db) (ops : List KeyOp) : Db := Runs.run nextKey db ops

/-- The settlements of `order`, one after the other, never find the reserved counters too low. -/
def Decrementable : GatewayKey → List QuotaReservation → Prop
  | _,[] => True
  | k,r :: rest => (∀ s, (ensureReservedCountersCanDecrement k r.reserved).Returns s () s) ∧
      Decrementable (k.subtractReserved r.reserved) rest

/-- A reset of the reserved counters of key `id` comes while none of its reservations is pending. -/
def ResetsIdle (id : Uuid) (db : Db) : KeyOp → Prop
  | .accounting _ => True
  | .resetUsage i => i.resetReservedCounters = true → i.gatewayKeyId = id →
      ∀ r ∈ db.quotaReservations, r.gatewayKeyId = id → r.status ≠ .pending

theorem decrementableOf {k : GatewayKey} {order : List QuotaReservation}
    (nonneg : ∀ r ∈ order, 0 ≤ r.reserved) (enough : (order.map QuotaReservation.reserved).sum ≤ k.reserved) :
    Decrementable k order := by
  induction order generalizing k with
  | nil => trivial
  | cons r rest ih =>
    rw [List.map_cons,List.sum_cons] at enough
    have others : 0 ≤ (rest.map QuotaReservation.reserved).sum := by
      refine List.sum_nonneg fun x mem => ?_
      obtain ⟨y,inRest,rfl⟩ := List.mem_map.mp mem
      exact nonneg y (List.mem_cons_of_mem _ inRest)
    refine ⟨fun s => returnsEnsure.mpr ⟨(le_add_of_nonneg_right others).trans enough,rfl⟩,ih ?_ ?_⟩
    · exact fun x mem => nonneg x (List.mem_cons_of_mem _ mem)
    · exact le_sub_left_of_add_le enough

theorem conservedDecrementable {id db k} (conserved : Conserved id db) (mem : k ∈ db.gatewayKeys) (named : k.id = id)
    {order : List QuotaReservation} (once : order.Nodup)
    (pending : ∀ r ∈ order, r ∈ db.quotaReservations ∧ r.gatewayKeyId = id ∧ r.status = .pending) :
    Decrementable k order := by
  have amounts : order.map QuotaReservation.reserved = order.map (pendingAmounts id) :=
    List.map_congr_left fun r inOrder => (pendingOwn (pending r inOrder).2.1 (pending r inOrder).2.2).symm
  refine decrementableOf (fun r inOrder => (validOf (pending r inOrder).1).1) ?_
  rw [amounts,conserved k mem named]
  exact rowsLeTotal (fun _ row => pendingNonneg row) once fun r inOrder => (pending r inOrder).1

theorem resetConserves {id i db db' k} (h : Reset i db db' k) (idle : ResetsIdle id db (.resetUsage i))
    (before : Conserved id db) : Conserved id db' := by
  intro x mem named
  have total : pendingTotal db' id = pendingTotal db id := by unfold pendingTotal; rw [h.reservations]
  rw [total]
  rcases (h.keys.memIff x).mp mem with rfl | ⟨kept,-⟩
  · have same : k.id = id := named
    change (if i.resetReservedCounters then 0 else k.reserved) = _
    split
    · rename_i reserved
      exact (totalZero fun r here => pendingOther (idle reserved (h.named.symm.trans same) r here)).symm
    · exact before k h.keys.here same
  · exact before x kept named

theorem nextKeyConserves {id db op db'} (before : Conserved id db) (idle : ResetsIdle id db op)
    (ok : nextKey db op = some db') : Conserved id db' := by
  cases op with
  | accounting op => exact nextConserves ok before
  | resetUsage i =>
    obtain ⟨_,_,ok⟩ := committedFirst ok
    obtain ⟨k,reset⟩ := resetCases ok
    exact resetConserves reset idle before

theorem resetKeepsSettleable {id : Uuid} {db : Db} {ops : List KeyOp} (start : Conserved id db)
    (idle : Runs.Along nextKey (ResetsIdle id) db ops) :
    ∀ k ∈ (runKey db ops).gatewayKeys, k.id = id → k.reserved = pendingTotal (runKey db ops) id ∧
      ∀ order : List QuotaReservation, order.Nodup →
        (∀ r ∈ order, r ∈ (runKey db ops).quotaReservations ∧ r.gatewayKeyId = id ∧ r.status = .pending) →
        Decrementable k order := by
  have conserved : Conserved id (runKey db ops) := Runs.invariantRun (Conserved id)
    (fun _ _ _ before here ok => nextKeyConserves before here ok) start idle
  intro k mem named
  exact ⟨conserved k mem named,fun order once pending => conservedDecrementable conserved mem named once pending⟩

/-- A used reset between a reservation and a settlement, then a full reset once nothing is pending. -/
def demoResets : List KeyOp :=
  [.accounting (.reserve (demoReserve 10 "a" 1)),.resetUsage ⟨1,true,false,1500⟩,
   .accounting (.release 10 2000),.resetUsage ⟨1,true,true,2500⟩,.accounting (.reserve (demoReserve 11 "b" (1/2)))]

theorem demoConserved : Conserved 1 demoDb := idleConserved (demoIdle 1)

instance (id : Uuid) (db : Db) (op : KeyOp) : Decidable (ResetsIdle id db op) :=
  match op with
  | .accounting _ => .isTrue trivial
  | .resetUsage i => inferInstanceAs (Decidable (i.resetReservedCounters = true → i.gatewayKeyId = id →
      ∀ r ∈ db.quotaReservations.rows, r.gatewayKeyId = id → r.status ≠ .pending))

theorem resetKeepsSettleableDemo : Conserved 1 demoDb ∧ Runs.Along nextKey (ResetsIdle 1) demoDb demoResets ∧
    ∀ k ∈ (runKey demoDb demoResets).gatewayKeys, k.id = 1 → k.reserved = ⟨1/2,30,1⟩ := by
  have idle : Runs.Along nextKey (ResetsIdle 1) demoDb demoResets := by
    refine ⟨?_,?_,?_,?_,?_,trivial⟩ <;> decide +kernel
  refine ⟨demoConserved,idle,fun k mem named => ?_⟩
  rw [(resetKeepsSettleable demoConserved idle k mem named).1]
  decide +kernel

/-- Zeroing the reserved counters under a pending reservation: its settlement is refused from then on. -/
theorem reservedResetStrandsPending :
    let ops := [KeyOp.accounting (.reserve (demoReserve 10 "a" 1)),KeyOp.resetUsage ⟨1,false,true,1500⟩]
    Conserved 1 demoDb ∧ ∃ k ∈ (runKey demoDb ops).gatewayKeys, ∃ r ∈ (runKey demoDb ops).quotaReservations,
      k.id = 1 ∧ k.fence.state = .none ∧ r.gatewayKeyId = 1 ∧ r.status = .pending ∧
      k.reserved ≠ pendingTotal (runKey demoDb ops) 1 ∧
      ∀ s, ¬(ensureReservedCountersCanDecrement k r.reserved).Returns s () s := by
  refine ⟨demoConserved,{ demoKey with lastQuotaResetAt := some 1500, quotaResetCount := 1 },by decide +kernel,
    (demoReserve 10 "a" 1).reservation,by decide +kernel,rfl,rfl,rfl,rfl,by decide +kernel,fun s ok => ?_⟩
  have enough := (returnsEnsure.mp ok).1
  revert enough
  decide +kernel
end SlaifGateway.Quota
