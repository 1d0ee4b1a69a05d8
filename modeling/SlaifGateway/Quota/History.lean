import SlaifGateway.Quota.Operations

/-! How rows evolve from one committed transaction to the next, and what the log of
a run says about them: which reservations a commit took out of `pending` and what it
added to a key's used counters. -/
namespace SlaifGateway.Quota
open Store Library Library.Tx Library.Table

/-- The call carries the request id of the reservation it names. -/
def OwnRequest (db : Db) (f : RequestFacts) : Prop :=
  ∀ r ∈ db.quotaReservations, r.id = f.reservationId → r.requestId = f.requestId

instance (db : Db) (f : RequestFacts) : Decidable (OwnRequest db f) :=
  inferInstanceAs (Decidable (∀ r ∈ db.quotaReservations.rows, r.id = f.reservationId → r.requestId = f.requestId))

/-- The same reservation later: unchanged, or closed. -/
structure Follows (r r' : QuotaReservation) : Prop where
  id : r'.id = r.id
  request : r'.requestId = r.requestId
  key : r'.gatewayKeyId = r.gatewayKeyId
  mode : r'.quotaMode = r.quotaMode
  status : r' = r ∨ r.status = .pending ∧ r'.status ≠ .pending

theorem Follows.refl (r : QuotaReservation) : Follows r r := ⟨rfl,rfl,rfl,rfl,Or.inl rfl⟩

theorem Follows.trans {a b c} (h : Follows a b) (g : Follows b c) : Follows a c := by
  refine ⟨g.id.trans h.id,g.request.trans h.request,g.key.trans h.key,g.mode.trans h.mode,?_⟩
  rcases h.status with rfl | ⟨pending,closed⟩
  · exact g.status
  · rcases g.status with rfl | ⟨again,-⟩
    · exact Or.inr ⟨pending,closed⟩
    · exact absurd again closed

/-- No reservation appears or disappears. -/
structure Carried (db db' : Db) : Prop where
  forward : ∀ r ∈ db.quotaReservations, ∃ r' ∈ db'.quotaReservations, Follows r r'
  back : ∀ r' ∈ db'.quotaReservations, ∃ r ∈ db.quotaReservations, Follows r r'

/-- Reservations are carried over; a new one is pending under a new request id. -/
structure Evolves (db db' : Db) : Prop where
  forward : ∀ r ∈ db.quotaReservations, ∃ r' ∈ db'.quotaReservations, Follows r r'
  back : ∀ r' ∈ db'.quotaReservations, (∃ r ∈ db.quotaReservations, Follows r r') ∨
    r'.status = .pending ∧ ∀ r ∈ db.quotaReservations, r.requestId ≠ r'.requestId

section Rows
variable {db db' : Db} {k k' : GatewayKey} {r r' : QuotaReservation} {actual : Amounts}

theorem carriedSame (same : db'.quotaReservations = db.quotaReservations) : Carried db db' :=
  ⟨fun r here => ⟨r,same ▸ here,.refl r⟩,fun r here => ⟨r,same ▸ here,.refl r⟩⟩

theorem Settled.follows (h : Settled db db' k k' r r' actual) : Follows r r' := by
  obtain ⟨id,key,request,-,mode⟩ := h.sameId
  exact ⟨id,request,key,mode,Or.inr ⟨h.pending,h.terminal⟩⟩

theorem Settled.carried (h : Settled db db' k k' r r' actual) : Carried db db' := by
  refine ⟨fun x here => ?_,fun x here => ?_⟩
  · by_cases same : x.id = r.id
    · rw [eqOfKey here h.reservations.here same]
      exact ⟨r',h.reservations.memNew,h.follows⟩
    · exact ⟨x,h.reservations.memKept here same,.refl x⟩
  · rcases (h.reservations.memIff x).mp here with rfl | ⟨old,-⟩
    · exact ⟨r,h.reservations.here,h.follows⟩
    · exact ⟨x,old,.refl x⟩

theorem Carried.trans {mid} (h : Carried db mid) (g : Carried mid db') : Carried db db' := by
  refine ⟨fun x here => ?_,fun x here => ?_⟩
  · obtain ⟨y,inMid,first⟩ := h.forward x here
    obtain ⟨z,present,second⟩ := g.forward y inMid
    exact ⟨z,present,first.trans second⟩
  · obtain ⟨y,inMid,second⟩ := g.back x here
    obtain ⟨z,present,first⟩ := h.back y inMid
    exact ⟨z,present,first.trans second⟩

theorem Carried.evolves (h : Carried db db') : Evolves db db' := ⟨h.forward,fun r' here => Or.inl (h.back r' here)⟩

theorem expiredCarried {now ids} (h : Relation.ReflTransGen (ExpiresOne now ids) db db') : Carried db db' := by
  induction h with
  | refl => exact carriedSame rfl
  | tail _ step ih =>
    obtain ⟨_,_,-,expires⟩ := step
    exact ih.trans expires.settled.carried

theorem Opened.evolves (h : Opened db db' k k' r) : Evolves db db' := by
  refine ⟨fun x here => ⟨x,h.reservations.memKept here,.refl x⟩,fun x here => ?_⟩
  rcases (h.reservations.mem x).mp here with rfl | old
  · exact Or.inr ⟨h.pending,fun y inside same => (h.reservations.fresh y inside).2 same.symm⟩
  · exact Or.inl ⟨x,old,.refl x⟩

theorem nextEvolves {op} (ok : next db op = some db') : Evolves db db' := by
  cases nextMoves ok with
  | opened h => exact h.evolves
  | settled h => exact h.carried.evolves
  | expired h => exact (expiredCarried h).evolves
  | kept h => exact (carriedSame h.reservations).evolves
end Rows

def usedOf (db : Db) (id : Uuid) : Amounts := ((db.gatewayKeys.find id).map GatewayKey.used).getD 0

/-- What a committed transaction added to the used counters of key `id`. -/
def charged (c : Commit Db Op) (id : Uuid) : Amounts := usedOf c.after id - usedOf c.before id

/-- The transaction took `r` out of `pending`. -/
def settledIn (c : Commit Db Op) (r : QuotaReservation) : Prop :=
  r.status = .pending ∧ ∀ r' ∈ c.after.quotaReservations, r'.id = r.id → r'.status ≠ .pending

instance (c : Commit Db Op) (r : QuotaReservation) : Decidable (settledIn c r) :=
  inferInstanceAs (Decidable (r.status = .pending ∧
    ∀ r' ∈ c.after.quotaReservations.rows, r'.id = r.id → r'.status ≠ .pending))

section Log
variable {id : Uuid} {db db' : Db} {op : Op} {k k' : GatewayKey} {r r' : QuotaReservation} {actual : Amounts}

theorem usedFound (here : k ∈ db.gatewayKeys) (named : k.id = id) : usedOf db id = k.used := by
  rw [usedOf,keyFound.mpr ⟨here,named⟩]
  rfl

theorem updatedUsed (keys : db.gatewayKeys.Updated k k' db'.gatewayKeys) (same : k'.used = k.used) :
    usedOf db' id = usedOf db id := by
  by_cases named : id = k.id
  · have later : usedOf db' k.id = k'.used := usedFound keys.memNew keys.key
    rw [named,usedFound keys.here rfl,later,same]
  · rw [usedOf,keys.findOther named]
    rfl

theorem keptUsed (h : Kept db db') : usedOf db' id = usedOf db id := by
  rcases h.keys with same | ⟨k,k',updated,fenced,-⟩
  · rw [usedOf,same]
    rfl
  · refine updatedUsed updated ?_
    rw [fenced]

theorem expiredUsed {now ids} (h : Relation.ReflTransGen (ExpiresOne now ids) db db') : usedOf db' id = usedOf db id := by
  induction h with
  | refl => rfl
  | tail _ step ih =>
    obtain ⟨_,_,-,expires⟩ := step
    exact (updatedUsed expires.settled.keys rfl).trans ih

theorem settledCharged (h : Settled db db' k k' r r' actual) : charged ⟨db,op,db'⟩ k.id = actual := by
  rw [charged,usedFound h.keys.memNew h.counters.1,usedFound h.keys.here rfl,h.counters.2.2.1]
  exact add_sub_cancel_left _ _

/-- No other row changes, so the settled reservation is the only one the commit closes. -/
theorem settledOnly (h : Settled db db' k k' r r' actual) {x} (here : x ∈ db.quotaReservations) :
    settledIn ⟨db,op,db'⟩ x ↔ x = r := by
  constructor
  · rintro ⟨pending,gone⟩
    by_contra other
    refine gone x (h.reservations.memKept here fun same => other ?_) rfl pending
    exact eqOfKey here h.reservations.here same
  · rintro rfl
    refine ⟨h.pending,fun y mem same => ?_⟩
    rw [eqOfKey mem h.reservations.memNew (same.trans h.sameId.1.symm)]
    exact h.terminal
end Log
end SlaifGateway.Quota
