import SlaifGateway.Quota.Progress

/-! The expired-reservation batch over mixed candidates. One transaction covers the whole listing, so
a row that cannot be reconciled undoes the rows beside it, now and in every later batch that lists it. -/
namespace SlaifGateway.Quota
open Store Library Library.Tx Library.Table

section Listing
variable {db db' : Db} {now : Time} {limit : Nat} {r : QuotaReservation} {rows : List QuotaReservation}

def dueRows (db : Db) (now : Time) : List QuotaReservation :=
  db.quotaReservations.filter fun r => r.status = .pending ∧ r.expiresAt ≤ now

theorem dueMem : r ∈ dueRows db now ↔ r ∈ db.quotaReservations ∧ r.status = .pending ∧ r.expiresAt ≤ now := by
  rw [dueRows,memFilter,decide_eq_true_eq]

-- Pending expired rows with different ids.
structure Due (db : Db) (now : Time) (rows : List QuotaReservation) : Prop where
  apart : rows.Pairwise fun a b => a.id ≠ b.id
  here : ∀ r ∈ rows, r ∈ db.quotaReservations
  pending : ∀ r ∈ rows, r.status = .pending
  expired : ∀ r ∈ rows, r.expiresAt ≤ now

theorem listedDue : Due db now (db.expiredPendingReservations now limit) := by
  have shape : (db.expiredPendingReservations now limit) = ((dueRows db now).insertionSort
    fun a b => a.expiresAt ≤ b.expiresAt).take limit := rfl
  have member : ∀ r ∈ db.expiredPendingReservations now limit, r ∈ dueRows db now := by
    intro r mem
    rw [shape] at mem
    exact List.mem_insertionSort _ |>.mp (List.mem_of_mem_take mem)
  refine ⟨?_,fun r mem => (dueMem.mp (member r mem)).1,fun r mem => (dueMem.mp (member r mem)).2.1,
    fun r mem => (dueMem.mp (member r mem)).2.2⟩
  have apart : (dueRows db now).Pairwise fun a b => a.id ≠ b.id :=
    (db.quotaReservations.apart.filter _).imp fun apart => apart.1
  rw [shape]
  have sorted : ((dueRows db now).insertionSort fun a b => a.expiresAt ≤ b.expiresAt).Pairwise fun a b => a.id ≠ b.id :=
    (List.Perm.pairwise_iff (fun apart => Ne.symm apart) (List.perm_insertionSort _ _)).mpr apart
  exact sorted.sublist (List.take_sublist ..)

end Listing

section Candidates
variable {db db' : Db} {now : Time} {newId : Uuid → Uuid} {k : GatewayKey} {r : QuotaReservation}
  {rows rest : List QuotaReservation}

-- What the ordinary rows among them hold of the counters of one key.
def heldBy (rows : List QuotaReservation) (id : Uuid) : Amounts :=
  (rows.map fun r => if r.quotaMode ≠ .externalToolFenced ∧ r.gatewayKeyId = id then r.reserved else 0).sum

-- No ordinary row has recorded usage to repair, and the counters of its key cover all of the key's rows at once.
structure Batchable (db : Db) (rows : List QuotaReservation) : Prop where
  unmarked : ∀ r ∈ rows, r.quotaMode ≠ .externalToolFenced → Unmarked db r
  covered : ∀ r ∈ rows, r.quotaMode ≠ .externalToolFenced →
    ∃ k ∈ db.gatewayKeys, k.id = r.gatewayKeyId ∧ heldBy rows k.id ≤ k.reserved

theorem heldCons : heldBy (r :: rest) k.id =
    (if r.quotaMode ≠ .externalToolFenced ∧ r.gatewayKeyId = k.id then r.reserved else 0) + heldBy rest k.id := by
  rw [heldBy,List.map_cons,List.sum_cons]
  rfl

theorem heldFenced (fenced : r.quotaMode = .externalToolFenced) (id : Uuid) : heldBy (r :: rest) id = heldBy rest id := by
  have skipped : ¬(r.quotaMode ≠ .externalToolFenced ∧ r.gatewayKeyId = id) := fun both => both.1 fenced
  rw [heldBy,List.map_cons,List.sum_cons,if_neg skipped,zero_add]
  rfl

theorem fencedBatchable (fenced : r.quotaMode = .externalToolFenced) : Batchable db (r :: rest) ↔ Batchable db rest := by
  constructor
  · intro h
    refine ⟨fun x mem => h.unmarked x (List.mem_cons_of_mem _ mem),fun x mem ordinary => ?_⟩
    obtain ⟨k,here,named,covers⟩ := h.covered x (List.mem_cons_of_mem _ mem) ordinary
    exact ⟨k,here,named,heldFenced fenced k.id ▸ covers⟩
  · intro h
    refine ⟨fun x mem ordinary => ?_,fun x mem ordinary => ?_⟩
    · rcases List.mem_cons.mp mem with rfl | later
      · exact absurd fenced ordinary
      · exact h.unmarked x later ordinary
    · rcases List.mem_cons.mp mem with rfl | later
      · exact absurd fenced ordinary
      · obtain ⟨k,here,named,covers⟩ := h.covered x later ordinary
        exact ⟨k,here,named,(heldFenced fenced k.id).symm ▸ covers⟩

theorem dueTail (due : Due db now (r :: rest)) : Due db now rest :=
  ⟨due.apart.of_cons,fun x mem => due.here x (List.mem_cons_of_mem _ mem),
    fun x mem => due.pending x (List.mem_cons_of_mem _ mem),fun x mem => due.expired x (List.mem_cons_of_mem _ mem)⟩

theorem otherRow (due : Due db now (r :: rest)) {x : QuotaReservation} (mem : x ∈ rest) : x.id ≠ r.id :=
  ((List.pairwise_cons.mp due.apart).1 x mem).symm

theorem otherRequest (due : Due db now (r :: rest)) {x : QuotaReservation} (mem : x ∈ rest) : x.requestId ≠ r.requestId := by
  intro same
  have equal := eqOfUnique (due.here x (List.mem_cons_of_mem _ mem)) (due.here r List.mem_cons_self) same
  exact otherRow due mem (by rw [equal])

theorem dueAfter (due : Due db now (r :: rest)) (expires : Expires now db db' k r) : Due db' now rest := by
  have tail := dueTail due
  exact ⟨tail.apart,fun x mem => expires.settled.reservations.memKept (tail.here x mem) (otherRow due mem),tail.pending,
    tail.expired⟩

-- The other rows' ledger marks are those before.
theorem unmarkedAfter (due : Due db now (r :: rest)) (expires : Expires now db db' k r) {x : QuotaReservation}
    (mem : x ∈ rest) : Unmarked db' x ↔ Unmarked db x := by
  rcases expires.ledger with ⟨-,same⟩ | ⟨_,inserted⟩
  · unfold Unmarked
    rw [same]
  · constructor
    · exact fun clean l here => clean l (inserted.memKept here)
    · intro clean l here request
      rcases (inserted.mem l).mp here with rfl | old
      · exact absurd request.symm (otherRequest due mem)
      · exact clean l old request

theorem heldNonneg (here : ∀ r ∈ rows, r ∈ db.quotaReservations) (id : Uuid) : 0 ≤ heldBy rows id := by
  refine List.sum_nonneg fun x mem => ?_
  obtain ⟨r,inside,rfl⟩ := List.mem_map.mp mem
  split
  · exact (validOf (here r inside)).1
  · exact le_refl 0

theorem batchableStep (due : Due db now (r :: rest)) (expires : Expires now db db' k r) :
    Batchable db (r :: rest) ↔ Batchable db' rest := by
  have settled := expires.settled
  have counters := settled.counters
  have held : heldBy (r :: rest) k.id = r.reserved + heldBy rest k.id := by
    rw [heldCons,if_pos ⟨expires.ordinary,settled.own⟩]
  have elsewhere : ∀ x : GatewayKey, x.id ≠ k.id → heldBy (r :: rest) x.id = heldBy rest x.id := by
    intro x other
    have skipped : ¬(r.quotaMode ≠ .externalToolFenced ∧ r.gatewayKeyId = x.id) :=
      fun both => other (both.2.symm.trans settled.own)
    rw [heldCons,if_neg skipped,zero_add]
  constructor
  · intro h
    refine ⟨fun x mem ordinary => (unmarkedAfter due expires mem).mpr (h.unmarked x (List.mem_cons_of_mem _ mem) ordinary),
      fun x mem ordinary => ?_⟩
    obtain ⟨y,here,named,covers⟩ := h.covered x (List.mem_cons_of_mem _ mem) ordinary
    by_cases own : y.id = k.id
    · rw [eqOfKey here settled.keys.here own] at named covers
      refine ⟨_,settled.keys.memNew,counters.1.trans named,?_⟩
      rw [held] at covers
      rw [counters.1,counters.2.1]
      exact le_sub_iff_add_le'.mpr covers
    · exact ⟨y,settled.keys.memKept here own,named,elsewhere y own ▸ covers⟩
  · intro h
    have keyCovers : heldBy (r :: rest) k.id ≤ k.reserved := by
      rw [held]
      by_cases shared : ∃ x ∈ rest, x.quotaMode ≠ .externalToolFenced ∧ x.gatewayKeyId = k.id
      · obtain ⟨x,mem,ordinary,same⟩ := shared
        obtain ⟨y,here,named,covers⟩ := h.covered x mem ordinary
        have own : y = k.subtractReserved r.reserved :=
          eqOfKey here settled.keys.memNew (named.trans (same.trans counters.1.symm))
        rw [own,counters.1,counters.2.1] at covers
        exact le_sub_iff_add_le'.mp covers
      · have none : heldBy rest k.id = 0 := by
          refine List.sum_eq_zero fun x mem => ?_
          obtain ⟨y,inside,rfl⟩ := List.mem_map.mp mem
          exact if_neg fun both => shared ⟨y,inside,both⟩
        rw [none,add_zero]
        exact settled.enough
    refine ⟨fun x mem ordinary => ?_,fun x mem ordinary => ?_⟩
    · rcases List.mem_cons.mp mem with rfl | later
      · exact expires.unmarked
      · exact (unmarkedAfter due expires later).mp (h.unmarked x later ordinary)
    · rcases List.mem_cons.mp mem with rfl | later
      · exact ⟨k,settled.keys.here,settled.own.symm,keyCovers⟩
      · obtain ⟨y,here,named,covers⟩ := h.covered x later ordinary
        rcases (settled.keys.memIff y).mp here with rfl | ⟨old,other⟩
        · exact ⟨k,settled.keys.here,counters.1.symm.trans named,keyCovers⟩
        · exact ⟨y,old,named,(elsewhere y other).symm ▸ covers⟩

-- The row ids an expiry leaves in the ledger are those before and the one it was given.
theorem expiredLedgerIds {id : Uuid} {rowId : Uuid} {s a s'}
    (ok : (reconcileExpiredPendingReservation id now false rowId).Returns s a s') :
    ∀ l ∈ s'.db.usageLedger, l ∈ s.db.usageLedger ∨ l.id = rowId := by
  simp [reconcileExpiredPendingReservation,getReservationByIdForUpdate,getUsageRecordByRequestId,
    getGatewayKeyByIdForQuotaUpdate,subtractReservedCounters,markPendingReservationExpired,-Bool.exists_bool] at ok
  obtain ⟨r,-,-,-,-,-,k,-,t,-,t',-,created,ledger,-⟩ := ok
  intro l here
  rcases (expiredLedgerCases ledger).2.2 with ⟨-,same⟩ | inserted
  · rw [same] at here
    exact .inl here
  · rcases (inserted.mem l).mp here with rfl | old
    · exact .inr rfl
    · exact .inl old

-- New ledger ids are not in use and differ from row to row.
structure FreshIds (db : Db) (newId : Uuid → Uuid) : Prop where
  distinct : Function.Injective newId
  unused : ∀ r ∈ db.quotaReservations, r.status = .pending → ∀ l ∈ db.usageLedger, l.id ≠ newId r.id

theorem freshAfter (fresh : FreshIds db newId) (expires : Expires now db db' k r)
    (ids : ∀ l ∈ db'.usageLedger, l ∈ db.usageLedger ∨ l.id = newId r.id) : FreshIds db' newId := by
  refine ⟨fresh.distinct,fun x here pending l mem same => ?_⟩
  have settled := expires.settled
  rcases (settled.reservations.memIff x).mp here with rfl | ⟨old,other⟩
  · exact settled.terminal pending
  · rcases ids l mem with kept | added
    · exact fresh.unused x old pending l kept same
    · exact other (fresh.distinct (same.symm.trans added))

theorem modeOrdinary (ordinary : r.quotaMode ≠ .externalToolFenced) : r.quotaMode = .strictBounded := by
  cases mode : r.quotaMode with
  | strictBounded => rfl
  | externalToolFenced => exact absurd mode ordinary

-- One ordinary row goes through exactly when it could on its own.
structure Reconcilable (db : Db) (r : QuotaReservation) : Prop where
  ordinary : r.quotaMode ≠ .externalToolFenced
  unmarked : Unmarked db r
  covered : ∃ k ∈ db.gatewayKeys, k.id = r.gatewayKeyId ∧ r.reserved ≤ k.reserved

theorem reconcilableReturns {locks : List Row} (here : r ∈ db.quotaReservations) (pending : r.status = .pending)
    (due : r.expiresAt ≤ now) (fresh : FreshIds db newId) : Reconcilable db r ↔
      ∃ s a, (reconcileExpiredPendingReservation r.id now false (newId r.id)).Returns ⟨db,locks⟩ a s := by
  constructor
  · intro h
    obtain ⟨k,mem,named,enough⟩ := h.covered
    exact expireReturns mem named.symm enough here pending due (modeOrdinary h.ordinary) h.unmarked
      (fresh.unused r here pending)
  · rintro ⟨s,a,ok⟩
    rcases expiredCases ok with ⟨dry,-⟩ | ⟨-,k,x,sameId,expires⟩
    · cases dry
    · cases eqOfKey expires.settled.reservations.here here sameId
      exact ⟨expires.ordinary,expires.unmarked,k,expires.settled.keys.here,expires.settled.own.symm,expires.settled.enough⟩

theorem batchableHead (h : Batchable db (r :: rest)) (ordinary : r.quotaMode ≠ .externalToolFenced)
    (here : ∀ x ∈ rest, x ∈ db.quotaReservations) : Reconcilable db r := by
  obtain ⟨k,mem,named,covers⟩ := h.covered r List.mem_cons_self ordinary
  refine ⟨ordinary,h.unmarked r List.mem_cons_self ordinary,k,mem,named,le_trans ?_ covers⟩
  rw [heldCons,if_pos ⟨ordinary,named.symm⟩]
  exact le_add_of_nonneg_right (heldNonneg here k.id)

-- The loop goes through exactly when the rows can be reconciled together.
theorem candidatesReturn {s : Session} (due : Due s.db now rows) (fresh : FreshIds s.db newId) :
    Batchable s.db rows ↔ ∃ s' a, (reconcileCandidates now false newId rows).Returns s a s' := by
  induction rows generalizing s with
  | nil =>
    refine iff_of_true ⟨fun _ none => absurd none List.not_mem_nil,fun _ none => absurd none List.not_mem_nil⟩ ?_
    exact ⟨s,[],returnsPure.mpr ⟨rfl,rfl⟩⟩
  | cons r rest ih =>
    by_cases fenced : r.quotaMode = .externalToolFenced
    · rw [fencedBatchable fenced,ih (dueTail due) fresh]
      simp only [reconcileCandidates,if_pos fenced]
    · have here := due.here r List.mem_cons_self
      have pending := due.pending r List.mem_cons_self
      have expired := due.expired r List.mem_cons_self
      have single := @reconcilableReturns s.db now newId r s.locks here pending expired fresh
      have after : ∀ mid a, (reconcileExpiredPendingReservation r.id now false (newId r.id)).Returns s a mid →
          (Batchable s.db (r :: rest) ↔ ∃ s' b, (reconcileCandidates now false newId rest).Returns mid b s') := by
        intro mid a first
        rcases expiredCases first with ⟨dry,-⟩ | ⟨-,k,x,sameId,expires⟩
        · cases dry
        · cases eqOfKey expires.settled.reservations.here here sameId
          rw [batchableStep due expires]
          exact ih (dueAfter due expires) (freshAfter fresh expires (expiredLedgerIds first))
      simp only [reconcileCandidates,if_neg fenced,returnsBind,returnsPure]
      constructor
      · intro h
        obtain ⟨mid,a,first⟩ := single.mp (batchableHead h fenced (dueTail due).here)
        obtain ⟨s',b,later⟩ := (after mid a first).mp h
        exact ⟨s',a :: b,a,mid,first,b,s',later,rfl,rfl⟩
      · rintro ⟨s',_,a,mid,first,b,last,later,-,-⟩
        exact (after mid a first).mpr ⟨last,b,later⟩

def Expired (db : Db) (id : Uuid) : Prop := ∃ r ∈ db.quotaReservations, r.id = id ∧ r.status = .expired

theorem carriedExpired (carried : Carried db db') {id : Uuid} (expired : Expired db id) : Expired db' id := by
  obtain ⟨r,here,rfl,status⟩ := expired
  obtain ⟨x,later,follows⟩ := carried.forward r here
  refine ⟨x,later,follows.id,?_⟩
  rcases follows.status with rfl | ⟨pending,-⟩
  · exact status
  · rw [status] at pending
    cases pending

theorem candidatesExpire {s a s'} (due : Due s.db now rows)
    (ok : (reconcileCandidates now false newId rows).Returns s a s') :
    ∀ r ∈ rows, r.quotaMode ≠ .externalToolFenced → Expired s'.db r.id := by
  induction rows generalizing s a with
  | nil => exact fun _ none => absurd none List.not_mem_nil
  | cons r rest ih =>
    simp only [reconcileCandidates,returnsIte,returnsBind,returnsPure] at ok
    rcases ok with ⟨fenced,ok⟩ | ⟨-,result,mid,first,results,last,tail,-,rfl⟩
    · intro x mem ordinary
      rcases List.mem_cons.mp mem with rfl | later
      · exact absurd fenced ordinary
      · exact ih (dueTail due) ok x later ordinary
    · rcases expiredCases first with ⟨dry,-⟩ | ⟨-,k,x,sameId,expires⟩
      · cases dry
      · cases eqOfKey expires.settled.reservations.here (due.here r List.mem_cons_self) sameId
        intro y mem ordinary
        rcases List.mem_cons.mp mem with rfl | later
        · refine carriedExpired (expiredCarried (candidatesChain (fun x inside =>
            List.mem_map_of_mem (f := QuotaReservation.id) inside) tail)) ?_
          exact ⟨_,expires.settled.reservations.memNew,rfl,rfl⟩
        · exact ih (dueAfter due expires) tail y later ordinary

theorem candidatesFresh {s a s'} (due : Due s.db now rows) (fresh : FreshIds s.db newId)
    (ok : (reconcileCandidates now false newId rows).Returns s a s') : FreshIds s'.db newId := by
  induction rows generalizing s a with
  | nil =>
    simp [reconcileCandidates] at ok
    rw [← ok.2]
    exact fresh
  | cons r rest ih =>
    simp only [reconcileCandidates,returnsIte,returnsBind,returnsPure] at ok
    rcases ok with ⟨-,ok⟩ | ⟨-,result,mid,first,results,last,tail,-,rfl⟩
    · exact ih (dueTail due) fresh ok
    · rcases expiredCases first with ⟨dry,-⟩ | ⟨-,k,x,sameId,expires⟩
      · cases dry
      · cases eqOfKey expires.settled.reservations.here (due.here r List.mem_cons_self) sameId
        exact ih (dueAfter due expires) (freshAfter fresh expires (expiredLedgerIds first)) tail

theorem candidatesFenced {s a s'} (fenced : ∀ r ∈ rows, r.quotaMode = .externalToolFenced)
    (ok : (reconcileCandidates now false newId rows).Returns s a s') : s' = s := by
  induction rows generalizing a with
  | nil =>
    simp [reconcileCandidates] at ok
    exact ok.2.symm
  | cons r rest ih =>
    rw [reconcileCandidates,if_pos (fenced r List.mem_cons_self)] at ok
    exact ih (fun x mem => fenced x (List.mem_cons_of_mem _ mem)) ok

-- A row a chain of expiries takes out of pending ends expired.
theorem chainStatus {ids : List Uuid} (here : r ∈ db.quotaReservations)
    (chain : Relation.ReflTransGen (ExpiresOne now ids) db db') : r ∈ db'.quotaReservations ∨ Expired db' r.id := by
  induction chain with
  | refl => exact .inl here
  | tail _ step ih =>
    obtain ⟨_,x,-,expires⟩ := step
    rcases ih with kept | expired
    · by_cases same : r.id = x.id
      · exact .inr ⟨_,expires.settled.reservations.memNew,same.symm,rfl⟩
      · exact .inl (expires.settled.reservations.memKept kept same)
    · exact .inr (carriedExpired expires.settled.carried expired)

def pendingCount (db : Db) : ℕ := db.quotaReservations.total fun r => if r.status = .pending then 1 else 0

theorem expiresCount (expires : Expires now db db' k r) : pendingCount db' + 1 = pendingCount db := by
  have moved := updateTotal expires.settled.reservations fun r : QuotaReservation => if r.status = .pending then 1 else 0
  rw [if_pos expires.settled.pending,if_neg expires.settled.terminal,add_zero] at moved
  exact moved

theorem chainCount {ids : List Uuid} (chain : Relation.ReflTransGen (ExpiresOne now ids) db db') :
    db' = db ∨ pendingCount db' < pendingCount db := by
  induction chain with
  | refl => exact .inl rfl
  | tail _ step ih =>
    obtain ⟨_,_,-,expires⟩ := step
    have less := expiresCount expires
    right
    rcases ih with rfl | fewer <;> omega

end Candidates

section Batches
variable {db db' : Db} {now : Time} {limit : Nat} {newId : Uuid → Uuid} {r : QuotaReservation}

-- The candidate would be expired by a reconciliation of its own.
def Alone (db : Db) (now : Time) (newId : Uuid → Uuid) (r : QuotaReservation) : Prop :=
  (next db (.expire r.id now false (newId r.id))).isSome = true

theorem aloneIff (here : r ∈ db.quotaReservations) (pending : r.status = .pending) (due : r.expiresAt ≤ now)
    (fresh : FreshIds db newId) : Alone db now newId r ↔ Reconcilable db r := by
  rw [@reconcilableReturns db now newId r [] here pending due fresh,Alone,Option.isSome_iff_exists]
  constructor
  · rintro ⟨db',ok⟩
    obtain ⟨a,locks,first⟩ := committedFirst ok
    exact ⟨_,a,first⟩
  · exact committedOf

-- The rows after a batch in execute mode; a batch that raises is rolled back.
def afterBatch (now : Time) (limit : Nat) (newId : Uuid → Uuid) (db : Db) : Db :=
  Runs.advance next db (.expireBatch now limit false newId)

theorem batchLoop (ok : next db (.expireBatch now limit false newId) = some db') : ∃ locks results,
    (reconcileCandidates now false newId (db.expiredPendingReservations now limit)).Returns ⟨db,[]⟩ results ⟨db',locks⟩ := by
  obtain ⟨a,locks,first⟩ := committedFirst ok
  simp only [reconcileExpiredPendingReservations,listExpiredPendingReservations,returnsBind,returnsSelect,
    returnsPure] at first
  obtain ⟨candidates,start,⟨rfl,rfl⟩,results,last,loop,-,rfl⟩ := first
  exact ⟨locks,results,loop⟩

theorem batchCommits (fresh : FreshIds db newId) : Batchable db (db.expiredPendingReservations now limit) ↔
    ∃ db', next db (.expireBatch now limit false newId) = some db' := by
  have rows := @candidatesReturn now newId (db.expiredPendingReservations now limit) ⟨db,[]⟩ listedDue fresh
  rw [rows]
  constructor
  · rintro ⟨s,a,ok⟩
    have whole : ∃ s b, (reconcileExpiredPendingReservations now limit false newId).Returns ⟨db,[]⟩ b s := by
      simp only [reconcileExpiredPendingReservations,listExpiredPendingReservations,returnsBind,returnsSelect,returnsPure]
      exact ⟨s,_,_,_,⟨rfl,rfl⟩,a,s,ok,rfl,rfl⟩
    exact committedOf whole
  · rintro ⟨db',ok⟩
    obtain ⟨locks,results,loop⟩ := batchLoop ok
    exact ⟨_,results,loop⟩

theorem batchExpires (ok : next db (.expireBatch now limit false newId) = some db') :
    ∀ r ∈ db.expiredPendingReservations now limit, r.quotaMode ≠ .externalToolFenced → Expired db' r.id := by
  obtain ⟨locks,results,loop⟩ := batchLoop ok
  have due : Due (Session.mk db []).db now (db.expiredPendingReservations now limit) := listedDue
  exact candidatesExpire due loop

theorem rolledBack (refused : next db (.expireBatch now limit false newId) = none) : afterBatch now limit newId db = db := by
  unfold afterBatch Runs.advance
  rw [refused]
  rfl

theorem committedBatch (ok : next db (.expireBatch now limit false newId) = some db') :
    afterBatch now limit newId db = db' := by
  unfold afterBatch Runs.advance
  rw [ok]
  rfl

theorem pendingNotExpired (here : r ∈ db.quotaReservations) (pending : r.status = .pending) : ¬ Expired db r.id := by
  rintro ⟨x,inside,same,status⟩
  rw [eqOfKey inside here same,pending] at status
  cases status

-- One batch expires every listed row it should exactly when its rows can be reconciled together,
-- or none of them could be reconciled anyway.
theorem batchIsolates (fresh : FreshIds db newId) :
    (∀ r ∈ db.expiredPendingReservations now limit, Alone db now newId r → Expired (afterBatch now limit newId db) r.id) ↔
      Batchable db (db.expiredPendingReservations now limit) ∨
        ∀ r ∈ db.expiredPendingReservations now limit, ¬ Alone db now newId r := by
  have due := @listedDue db now limit
  constructor
  · intro isolated
    by_cases together : Batchable db (db.expiredPendingReservations now limit)
    · exact .inl together
    · right
      intro r mem alone
      have refused : next db (.expireBatch now limit false newId) = none := by
        rw [batchCommits fresh] at together
        exact Option.eq_none_iff_forall_ne_some.mpr fun db' ok => together ⟨db',ok⟩
      have expired := isolated r mem alone
      rw [rolledBack refused] at expired
      exact pendingNotExpired (due.here r mem) (due.pending r mem) expired
  · rintro (together | none) r mem alone
    · obtain ⟨db',ok⟩ := (batchCommits fresh).mp together
      rw [committedBatch ok]
      have row := (aloneIff (due.here r mem) (due.pending r mem) (due.expired r mem) fresh).mp alone
      exact batchExpires ok r mem row.ordinary
    · exact absurd alone (none r mem)

theorem batchChained : Relation.ReflTransGen (ExpiresOne now ((db.expiredPendingReservations now limit).map
    QuotaReservation.id)) db (afterBatch now limit newId db) := by
  cases result : next db (.expireBatch now limit false newId) with
  | none =>
    rw [rolledBack result]
  | some db' =>
    rw [committedBatch result]
    obtain ⟨a,locks,first⟩ := committedFirst result
    rcases batchChain first with ⟨dry,-⟩ | ⟨-,chain⟩
    · cases dry
    · exact chain

theorem batchFresh (fresh : FreshIds db newId) : FreshIds (afterBatch now limit newId db) newId := by
  cases result : next db (.expireBatch now limit false newId) with
  | none =>
    rw [rolledBack result]
    exact fresh
  | some db' =>
    rw [committedBatch result]
    obtain ⟨last,results,loop⟩ := batchLoop result
    exact candidatesFresh (s := ⟨db,[]⟩) listedDue fresh loop

def batches (now : Time) (limit : Nat) (newId : Uuid → Uuid) (db : Db) (n : Nat) : Db :=
  Runs.run next db (List.replicate n (.expireBatch now limit false newId))

theorem batchesSucc (n : Nat) : batches now limit newId db (n + 1) = afterBatch now limit newId (batches now limit newId db n) := by
  unfold batches afterBatch Runs.run
  rw [List.replicate_succ',List.foldl_append]
  rfl

-- A candidate that could be reconciled at the start still waits.
def Owed (now : Time) (newId : Uuid → Uuid) (db db' : Db) : Prop :=
  ∃ r ∈ db.quotaReservations, r.status = .pending ∧ r.expiresAt ≤ now ∧ Alone db now newId r ∧ r ∈ db'.quotaReservations

-- The listing has an ordinary row, and its ordinary rows can be reconciled together.
def Advances (now : Time) (limit : Nat) (db : Db) : Prop :=
  Batchable db (db.expiredPendingReservations now limit) ∧
    ∃ r ∈ db.expiredPendingReservations now limit, r.quotaMode ≠ .externalToolFenced

theorem stuckUnless (fresh : FreshIds db newId) (stuck : ¬ Advances now limit db) : afterBatch now limit newId db = db := by
  cases result : next db (.expireBatch now limit false newId) with
  | none => exact rolledBack result
  | some db' =>
    have together := (batchCommits fresh).mpr ⟨db',result⟩
    have fenced : ∀ r ∈ db.expiredPendingReservations now limit, r.quotaMode = .externalToolFenced := by
      intro r mem
      by_contra ordinary
      exact stuck ⟨together,r,mem,ordinary⟩
    obtain ⟨locks,results,loop⟩ := batchLoop result
    rw [committedBatch result]
    exact congrArg Session.db (candidatesFenced fenced loop)

theorem advanceCounts (fresh : FreshIds db newId) (advances : Advances now limit db) :
    pendingCount (afterBatch now limit newId db) < pendingCount db := by
  obtain ⟨together,r,mem,ordinary⟩ := advances
  rcases chainCount (@batchChained db now limit newId) with same | fewer
  · obtain ⟨db',ok⟩ := (batchCommits fresh).mp together
    have expired := batchExpires ok r mem ordinary
    rw [← committedBatch ok,same] at expired
    have due := @listedDue db now limit
    exact absurd expired (pendingNotExpired (due.here r mem) (due.pending r mem))
  · exact fewer

theorem batchesFresh (fresh : FreshIds db newId) (n : Nat) : FreshIds (batches now limit newId db n) newId := by
  induction n with
  | zero => exact fresh
  | succ n ih =>
    rw [batchesSucc]
    exact batchFresh ih

theorem batchesStatus (here : r ∈ db.quotaReservations) (n : Nat) :
    r ∈ (batches now limit newId db n).quotaReservations ∨ Expired (batches now limit newId db n) r.id := by
  induction n with
  | zero => exact .inl here
  | succ n ih =>
    rw [batchesSucc]
    rcases ih with kept | expired
    · exact chainStatus kept batchChained
    · exact .inr (carriedExpired (expiredCarried batchChained) expired)

theorem batchesKeepExpired {id : Uuid} {n : Nat} (expired : Expired (batches now limit newId db n) id) (m : Nat) :
    Expired (batches now limit newId db (n + m)) id := by
  induction m with
  | zero => exact expired
  | succ m ih =>
    rw [← Nat.add_assoc,batchesSucc]
    exact carriedExpired (expiredCarried batchChained) ih

theorem batchesStuck {n : Nat} (fresh : FreshIds db newId) (stuck : ¬ Advances now limit (batches now limit newId db n)) (m : Nat) :
    batches now limit newId db (n + m) = batches now limit newId db n := by
  induction m with
  | zero => rfl
  | succ m ih =>
    rw [← Nat.add_assoc,batchesSucc,ih]
    exact stuckUnless (batchesFresh fresh n) stuck

theorem owedEnds (fresh : FreshIds db newId) (advances : ∀ n, Owed now newId db (batches now limit newId db n) →
    Advances now limit (batches now limit newId db n)) : ∃ n, ¬ Owed now newId db (batches now limit newId db n) := by
  -- Every batch with a waiting candidate lowers the number of pending rows.
  have bound : ∀ count n, pendingCount (batches now limit newId db n) ≤ count →
      ∃ m, ¬ Owed now newId db (batches now limit newId db m) := by
    intro count
    induction count with
    | zero =>
      intro n none
      refine ⟨n,fun owed => ?_⟩
      have fewer := advanceCounts (batchesFresh fresh n) (advances n owed)
      omega
    | succ count ih =>
      intro n most
      by_cases owed : Owed now newId db (batches now limit newId db n)
      · have fewer := advanceCounts (batchesFresh fresh n) (advances n owed)
        rw [← batchesSucc] at fewer
        exact ih (n + 1) (by omega)
      · exact ⟨n,owed⟩
  exact bound _ 0 (le_refl _)

-- Over repeated batches every candidate that could be reconciled is expired exactly when every batch
-- that finds one waiting lists an ordinary row and can reconcile its listing together.
theorem batchesReach (fresh : FreshIds db newId) :
    (∀ r ∈ db.quotaReservations, r.status = .pending → r.expiresAt ≤ now → Alone db now newId r →
      ∃ n, Expired (batches now limit newId db n) r.id) ↔
    ∀ n, Owed now newId db (batches now limit newId db n) → Advances now limit (batches now limit newId db n) := by
  constructor
  · intro reached n owed
    by_contra stuck
    obtain ⟨r,here,pending,due,alone,waiting⟩ := owed
    obtain ⟨m,expired⟩ := reached r here pending due alone
    have later := batchesKeepExpired expired n
    rw [Nat.add_comm,batchesStuck fresh stuck] at later
    exact pendingNotExpired waiting pending later
  · intro advances r here pending due alone
    obtain ⟨n,ended⟩ := owedEnds fresh advances
    rcases batchesStatus here n with waiting | expired
    · exact absurd ⟨r,here,pending,due,alone,waiting⟩ ended
    · exact ⟨n,expired⟩

theorem batchIsolationIff (fresh : FreshIds db newId) :
    ((∀ r ∈ db.expiredPendingReservations now limit, Alone db now newId r → Expired (afterBatch now limit newId db) r.id) ↔
      Batchable db (db.expiredPendingReservations now limit) ∨
        ∀ r ∈ db.expiredPendingReservations now limit, ¬ Alone db now newId r) ∧
    ((∀ r ∈ db.quotaReservations, r.status = .pending → r.expiresAt ≤ now → Alone db now newId r →
      ∃ n, Expired (batches now limit newId db n) r.id) ↔
    ∀ n, Owed now newId db (batches now limit newId db n) → Advances now limit (batches now limit newId db n)) :=
  ⟨batchIsolates fresh,batchesReach fresh⟩

def twoReserved : Db := run demoDb [.reserve (demoReserve 10 "a" 1),.reserve (demoReserve 11 "b" 1)]

theorem freshBeyond {db : Db} (below : ∀ l ∈ db.usageLedger, l.id < 100) : FreshIds db fun id => id + 100 := by
  refine ⟨fun a b same => Nat.add_right_cancel same,fun r _ _ l mem same => ?_⟩
  have small := below l mem
  have large : 100 ≤ l.id := by
    rw [same]
    exact Nat.le_add_left ..
  exact absurd small (Nat.not_lt.mpr large)

theorem batchIsolationIffDemo : FreshIds twoReserved (fun id => id + 100) ∧
    ∀ r ∈ twoReserved.expiredPendingReservations 900001000 100, Alone twoReserved 900001000 (fun id => id + 100) r →
      Expired (afterBatch 900001000 100 (fun id => id + 100) twoReserved) r.id := by
  have below : ∀ l ∈ twoReserved.usageLedger.rows, l.id < 100 := by decide +kernel
  have fresh := freshBeyond below
  have commits : (next twoReserved (.expireBatch 900001000 100 false fun id => id + 100)).isSome = true := by decide +kernel
  have together := (batchCommits fresh).mpr (Option.isSome_iff_exists.mp commits)
  exact ⟨fresh,(batchIsolationIff fresh).1.mpr (.inl together)⟩

-- The first request's usage was recorded and its finalization failed; the second was only reserved.
def poisoned : Db := run demoDb (demoFailed demoBill ++ [.reserve (demoReserve 11 "b" 1)])

theorem poisonedBatchStarves : FreshIds poisoned (fun id => id + 100) ∧
    (∃ r ∈ poisoned.expiredPendingReservations 900001000 100, r.id = 11 ∧ Alone poisoned 900001000 (fun id => id + 100) r) ∧
    ∀ n, ¬ Expired (batches 900001000 100 (fun id => id + 100) poisoned n) 11 := by
  have below : ∀ l ∈ poisoned.usageLedger.rows, l.id < 100 := by decide +kernel
  have fresh := freshBeyond below
  have listed : ∃ r ∈ poisoned.expiredPendingReservations 900001000 100, r.id = 11 ∧
      (next poisoned (.expire r.id 900001000 false (r.id + 100))).isSome = true := by
    decide +kernel
  have refused : (next poisoned (.expireBatch 900001000 100 false fun id => id + 100)).isNone = true := by decide +kernel
  have same : ∀ n, batches 900001000 100 (fun id => id + 100) poisoned n = poisoned := by
    intro n
    induction n with
    | zero => rfl
    | succ n ih =>
      rw [batchesSucc,ih]
      exact rolledBack (Option.isNone_iff_eq_none.mp refused)
  obtain ⟨r,mem,named,alone⟩ := listed
  refine ⟨fresh,⟨r,mem,named,alone⟩,fun n => ?_⟩
  have due := @listedDue poisoned 900001000 100
  rw [same n,← named]
  exact pendingNotExpired (due.here r mem) (due.pending r mem)

end Batches

end SlaifGateway.Quota
