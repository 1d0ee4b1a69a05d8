import SlaifGateway.Library.WaitFor
import SlaifGateway.Quota.LockPlans
import SlaifGateway.Quota.Settlement
import Mathlib.Data.Prod.Lex

/-! Waits among concurrent accounting transactions. Each runs on the rows it sees and
takes its locks one by one. The established order is ledger row, reservation, key; a
batch goes back to a reservation with a key in hand, and a finalization takes its
recorded row last, so sets of transactions that meet there can deadlock. -/
namespace SlaifGateway.Quota
open Store Library Library.Tx Library.Table Library.WaitFor

/-- A transaction and the rows it finds. -/
structure Job where
  sees : Db
  op : Op

/-- The row locks it takes, in order, up to where it returns or raises. -/
def Job.locks (j : Job) : List Row := (j.op.transaction.exec ⟨j.sees,[]⟩).2.locks

theorem locksPlanned {j : Job} (accounting : j.op.isAccounting = true) : j.locks <+: j.op.lockPlan j.sees :=
  transactionTraces (s := ⟨j.sees,[]⟩) accounting

section Conditions
variable {ι : Type} (jobs : ι → Job)

/-- No running finalization carries a ledger row that a running reconciliation locks first. -/
def LedgersApart : Prop :=
  ∀ i j id, (jobs i).op.ledgerLast = some id → ∀ l ∈ (jobs j).op.ledgersFirst (jobs j).sees, l.id ≠ id

/-- Every batch takes its rows by turn, and a candidate that another transaction settles has its turn
before its key. -/
structure InTurn (turn : Row → ℕ) : Prop where
  batches : ∀ i, Ascending turn [] ((jobs i).op.batchPlan (jobs i).sees)
  settled : ∀ i j, ∀ c ∈ (jobs j).op.candidates (jobs j).sees, ∀ r ∈ (jobs i).sees.quotaReservations, r.id = c.id →
    (jobs i).op.settles (jobs i).sees = some r.id → turn (.reservation r.id) < turn (.gatewayKey r.gatewayKeyId)
end Conditions

section Ranks
variable {ι : Type} {jobs : ι → Job} {turn : Row → ℕ}

open Classical in
/-- Rows by stage, and within the stage of keys and candidates by their turn. -/
noncomputable def rowRank (jobs : ι → Job) (turn : Row → ℕ) : Row → ℕ ×ₗ ℕ
  | .ledger id => if ∃ i, (jobs i).op.ledgerLast = some id then toLex (3,0) else toLex (0,0)
  | .reservation id =>
    if ∃ j, ∃ c ∈ (jobs j).op.candidates (jobs j).sees, c.id = id then toLex (2,turn (.reservation id)) else toLex (1,0)
  | .gatewayKey id => toLex (2,turn (.gatewayKey id))

theorem stageLt {a b m n : ℕ} (h : a < b) : toLex (a,m) < toLex (b,n) := Prod.Lex.toLex_lt_toLex.mpr (Or.inl h)

/-- A ledger row that no finalization carries comes first, a carried one last. -/
theorem ledgerBelow {id} (apart : ∀ i, (jobs i).op.ledgerLast ≠ some id) :
    (∀ r, rowRank jobs turn (.ledger id) < rowRank jobs turn (.reservation r)) ∧
      ∀ k, rowRank jobs turn (.ledger id) < rowRank jobs turn (.gatewayKey k) := by
  have low : rowRank jobs turn (.ledger id) = toLex (0,0) := if_neg fun ⟨i,carried⟩ => apart i carried
  rw [low]
  refine ⟨fun r => ?_,fun k => stageLt (by omega)⟩
  simp only [rowRank]
  split_ifs <;> exact stageLt (by omega)

theorem ledgerAbove {i id} (carried : (jobs i).op.ledgerLast = some id) :
    (∀ r, rowRank jobs turn (.reservation r) < rowRank jobs turn (.ledger id)) ∧
      ∀ k, rowRank jobs turn (.gatewayKey k) < rowRank jobs turn (.ledger id) := by
  have high : rowRank jobs turn (.ledger id) = toLex (3,0) := if_pos ⟨i,carried⟩
  rw [high]
  refine ⟨fun r => ?_,fun k => stageLt (by omega)⟩
  simp only [rowRank]
  split_ifs <;> exact stageLt (by omega)

theorem pairRanked {i} (turns : InTurn jobs turn) {r : QuotaReservation} (here : r ∈ (jobs i).sees.quotaReservations)
    (names : (jobs i).op.settles (jobs i).sees = some r.id) :
    rowRank jobs turn (.reservation r.id) < rowRank jobs turn (.gatewayKey r.gatewayKeyId) := by
  simp only [rowRank]
  split_ifs with candidate
  · obtain ⟨j,c,mem,same⟩ := candidate
    exact Prod.Lex.toLex_lt_toLex.mpr (Or.inr ⟨rfl,turns.settled i j c mem r here same.symm names⟩)
  · exact stageLt (by omega)

/-- The pair of a settled reservation, after rows that rank below reservations and keys. -/
theorem pairAscends {i id} (turns : InTurn jobs turn) (names : (jobs i).op.settles (jobs i).sees = some id) {taken : List Row}
    (below : ∀ x ∈ taken, (∀ r, rowRank jobs turn x < rowRank jobs turn (.reservation r)) ∧
      ∀ k, rowRank jobs turn x < rowRank jobs turn (.gatewayKey k)) :
    Ascending (rowRank jobs turn) taken (pairLocks (jobs i).sees id) := by
  unfold pairLocks
  cases found : (jobs i).sees.quotaReservations.find id with
  | none => trivial
  | some r =>
    obtain ⟨here,rfl⟩ := reservationFound.mp found
    refine ⟨Or.inr fun x mem => (below x mem).1 _,Or.inr fun x mem => ?_,trivial⟩
    rcases List.mem_cons.mp mem with rfl | mem
    · exact pairRanked turns here names
    · exact (below x mem).2 _
end Ranks

/-- The shapes of a plan: a batch, a key, a settlement, a reconciliation with and without its reservation. -/
theorem planShape (db : Db) {op : Op} (accounting : op.isAccounting = true) :
    op.lockPlan db = op.batchPlan db ∨ (∃ k, op.lockPlan db = [.gatewayKey k]) ∨
    (∃ id, op.settles db = some id ∧ op.lockPlan db = pairLocks db id ++ op.ledgerLast.toList.map .ledger) ∨
    op.lockPlan db = (op.ledgersFirst db).map (fun l => .ledger l.id) ∨
    ∃ id last, op.settles db = some id ∧
      (∀ x ∈ last, x ∈ (op.ledgersFirst db).map (fun l => Row.ledger l.id) ++ pairLocks db id) ∧
      op.lockPlan db = (op.ledgersFirst db).map (fun l => .ledger l.id) ++ (pairLocks db id ++ last) := by
  cases op with
  | reserve i => exact Or.inr (Or.inl ⟨_,rfl⟩)
  | expireBatch _ _ _ _ => exact Or.inl rfl
  | release id _ => exact Or.inr (Or.inr (Or.inl ⟨id,rfl,rfl⟩))
  | expire id _ _ _ => exact Or.inr (Or.inr (Or.inl ⟨id,rfl,rfl⟩))
  | finalize i => exact Or.inr (Or.inr (Or.inl ⟨_,rfl,rfl⟩))
  | finalizeCustom i => exact Or.inr (Or.inr (Or.inl ⟨_,rfl,rfl⟩))
  | failure i => exact Or.inr (Or.inr (Or.inl ⟨_,rfl,rfl⟩))
  | interrupted i => exact Or.inr (Or.inr (Or.inl ⟨_,rfl,rfl⟩))
  | reconcileHold i =>
    exact Or.inr (Or.inr (Or.inr (Or.inr ⟨_,_,rfl,fun x mem => List.mem_append_right _ mem,rfl⟩)))
  | completeRecovery ledgerId id _ _ =>
    right; right; right
    simp only [Op.lockPlan,Op.settles,Op.ledgersFirst]
    cases head : (recoveryRows db ledgerId id).head? with
    | none =>
      left
      simp
    | some l =>
      cases link : l.quotaReservationId with
      | none =>
        left
        simp [link]
      | some reservationId =>
        right
        refine ⟨reservationId,[.ledger l.id],by simp [link],fun x mem => ?_,by simp [link]⟩
        rw [List.mem_singleton.mp mem]
        exact List.mem_append_left _ (List.mem_map.mpr ⟨l,List.mem_of_mem_head? head,rfl⟩)
  | _ => cases accounting

section Plans
variable {ι : Type} {jobs : ι → Job} {turn : Row → ℕ}

/-- A reservation has one row, so a reconciliation locks one. -/
theorem ledgersFirstSame {db op} (inv : LedgerInv db) {l l'} (first : l ∈ Op.ledgersFirst db op)
    (second : l' ∈ Op.ledgersFirst db op) : l ∈ db.usageLedger ∧ l = l' := by
  -- rows that name the same reservation belong to the same request
  have same {id} (h : l ∈ db.usageLedger) (h' : l' ∈ db.usageLedger) (names : l.quotaReservationId = some id)
      (names' : l'.quotaReservationId = some id) : l = l' := by
    obtain ⟨r,here,row⟩ := inv l h
    obtain ⟨r',here',row'⟩ := inv l' h'
    have one : r = r' := eqOfKey here here' <|
      Option.some.inj ((row.linked.symm.trans names).trans (names'.symm.trans row'.linked))
    subst one
    exact eqOfUnique h h' (row.request.trans row'.request.symm)
  cases op with
  | completeRecovery ledgerId id _ _ =>
    simp only [Op.ledgersFirst,recoveryRows] at first second
    split_ifs at first with both
    · cases first
    rw [if_neg both] at second
    have one := memFilter.mp first
    have two := memFilter.mp second
    simp only [decide_eq_true_eq] at one two
    refine ⟨one.1,?_⟩
    cases ledgerId with
    | some x => exact eqOfKey one.1 two.1 ((one.2.2.1 x rfl).trans (two.2.2.1 x rfl).symm)
    | none =>
      cases id with
      | some x => exact same one.1 two.1 (one.2.2.2 x rfl) (two.2.2.2 x rfl)
      | none => exact absurd rfl both
  | reconcileHold i =>
    have one := memFilter.mp first
    have two := memFilter.mp second
    simp only [decide_eq_true_eq] at one two
    exact ⟨one.1,same one.1 two.1 one.2 two.2⟩
  | _ => cases first

/-- One ledger row that ranks below everything, locked once or again. -/
theorem sourcesAscend {rows : List UsageLedger} (same : ∀ l ∈ rows, ∀ l' ∈ rows, l = l') :
    Ascending (rowRank jobs turn) [] (rows.map fun l => .ledger l.id) := by
  cases rows with
  | nil => trivial
  | cons l rest =>
    refine ⟨Or.inr fun _ none => absurd none List.not_mem_nil,ascendingHeld fun x mem => ?_⟩
    obtain ⟨l',inRest,rfl⟩ := List.mem_map.mp mem
    rw [same l' (List.mem_cons_of_mem _ inRest) l List.mem_cons_self]
    exact List.mem_singleton_self _

theorem batchAscends {i} (turns : InTurn jobs turn) :
    Ascending (rowRank jobs turn) [] ((jobs i).op.batchPlan (jobs i).sees) := by
  -- on candidates and keys the rank is the turn
  have stage : ∀ x ∈ (jobs i).op.batchPlan (jobs i).sees, rowRank jobs turn x = toLex (2,turn x) := by
    intro x mem
    unfold Op.batchPlan at mem
    split at mem
    · rename_i now limit dryRun newId isBatch
      obtain ⟨c,candidate,planned⟩ := List.mem_flatMap.mp mem
      unfold expirePlan at planned
      rcases List.mem_cons.mp planned with rfl | key
      · have listed : c ∈ (jobs i).op.candidates (jobs i).sees := by rw [isBatch]; exact candidate
        exact if_pos ⟨i,c,listed,rfl⟩
      · cases dryRun with
        | true => cases key
        | false =>
          rw [List.mem_singleton.mp key]
          rfl
    · cases mem
  refine (turns.batches i).mono fun x y inX inY lt => ?_
  rw [stage x (inX.resolve_left List.not_mem_nil),stage y (inY.resolve_left List.not_mem_nil)]
  exact Prod.Lex.toLex_lt_toLex.mpr (Or.inr ⟨rfl,lt⟩)

theorem pairRow {db id x} (mem : x ∈ pairLocks db id) : (∃ r, x = .reservation r) ∨ ∃ k, x = .gatewayKey k := by
  unfold pairLocks at mem
  split at mem
  · rcases List.mem_cons.mp mem with rfl | mem
    · exact Or.inl ⟨_,rfl⟩
    · exact Or.inr ⟨_,List.mem_singleton.mp mem⟩
  · cases mem

theorem settleAscends {i id} (turns : InTurn jobs turn) (names : (jobs i).op.settles (jobs i).sees = some id) :
    Ascending (rowRank jobs turn) [] (pairLocks (jobs i).sees id ++ (jobs i).op.ledgerLast.toList.map .ledger) := by
  refine ascendingAppend.mpr ⟨pairAscends turns names fun x none => absurd none List.not_mem_nil,?_⟩
  cases carried : (jobs i).op.ledgerLast with
  | none => trivial
  | some ledgerId =>
    refine ⟨Or.inr fun x mem => ?_,trivial⟩
    obtain ⟨r,rfl⟩ | ⟨k,rfl⟩ := pairRow (List.mem_reverse.mp (by simpa using mem))
    · exact (ledgerAbove carried).1 r
    · exact (ledgerAbove carried).2 k

section Sources
variable {i : ι} (turns : InTurn jobs turn) (apart : LedgersApart jobs) (inv : LedgerInv (jobs i).sees)
include turns apart inv

/-- A reconciliation: its one ledger row, then the pair, then rows it already holds. -/
theorem reconcileAscends {id last} (names : (jobs i).op.settles (jobs i).sees = some id)
    (again : ∀ x ∈ last, x ∈ ((jobs i).op.ledgersFirst (jobs i).sees).map (fun l => Row.ledger l.id) ++
      pairLocks (jobs i).sees id) :
    Ascending (rowRank jobs turn) [] (((jobs i).op.ledgersFirst (jobs i).sees).map (fun l => .ledger l.id) ++
      (pairLocks (jobs i).sees id ++ last)) := by
  refine ascendingAppend.mpr ⟨sourcesAscend fun l mem l' mem' => (ledgersFirstSame inv mem mem').2,
    ascendingAppend.mpr ⟨pairAscends turns names fun x mem => ?_,ascendingHeld fun x mem => ?_⟩⟩
  · simp only [List.append_nil,List.mem_reverse,List.mem_map] at mem
    obtain ⟨l,first,rfl⟩ := mem
    exact ledgerBelow fun j carried => apart j i l.id carried l first rfl
  · have held := again x mem
    simp only [List.mem_append,List.mem_reverse,List.append_nil] at held ⊢
    exact held.symm

theorem planAscends (accounting : (jobs i).op.isAccounting = true) :
    Ascending (rowRank jobs turn) [] ((jobs i).op.lockPlan (jobs i).sees) := by
  rcases planShape (jobs i).sees accounting with batch | ⟨k,one⟩ | ⟨id,names,settle⟩ | sources | ⟨id,last,names,again,plan⟩
  · rw [batch]
    exact batchAscends turns
  · rw [one]
    exact ⟨Or.inr fun _ none => absurd none List.not_mem_nil,trivial⟩
  · rw [settle]
    exact settleAscends turns names
  · rw [sources]
    exact sourcesAscend fun l mem l' mem' => (ledgersFirstSame inv mem mem').2
  · rw [plan]
    exact reconcileAscends turns apart inv names again
end Sources
end Plans

/-- With one batch running, its own order is the turn: a candidate may be settled elsewhere unless the
batch takes its key first, for an earlier candidate. -/
theorem soloInTurn {ι : Type} {jobs : ι → Job} {b : ι}
    (solo : ∀ i, i ≠ b → (jobs i).op.candidates (jobs i).sees = [] ∧ (jobs i).op.batchPlan (jobs i).sees = [])
    (early : ∀ i, ∀ c ∈ (jobs b).op.candidates (jobs b).sees, ∀ r ∈ (jobs i).sees.quotaReservations, r.id = c.id →
      (jobs i).op.settles (jobs i).sees = some r.id →
        ((jobs b).op.batchPlan (jobs b).sees).idxOf (.reservation r.id) <
          ((jobs b).op.batchPlan (jobs b).sees).idxOf (.gatewayKey r.gatewayKeyId)) :
    InTurn jobs fun x => ((jobs b).op.batchPlan (jobs b).sees).idxOf x := by
  refine ⟨fun i => ?_,fun i j c mem => ?_⟩
  · by_cases same : i = b
    · subst same
      exact ascendingFirst _
    · rw [(solo i same).2]
      trivial
  · by_cases same : j = b
    · subst same
      exact early i c mem
    · rw [(solo j same).1] at mem
      cases mem

/-- Two reservations of one key, both past their deadline. -/
def demoStale : List Op := [.reserve (demoReserve 10 "a" 1),.reserve { demoReserve 11 "b" 1 with now := 1001 }]

def demoBatch : Op := .expireBatch 900002000 100 false (· + 100)

/-- The batch, and a finalization of one of its candidates. -/
def demoJobs (id : Uuid) (requestId : String) : Bool → Job
  | true => ⟨run demoDb demoStale,demoBatch⟩
  | false => ⟨run demoDb demoStale,.finalize ⟨demoFacts id requestId 20,.ok demoBill,none⟩⟩

theorem demoSeen {id requestId} (i : Bool) : ∃ ops, Runs.Along next Disciplined demoDb ops ∧
    (demoJobs id requestId i).sees = run demoDb ops := by
  refine ⟨demoStale,⟨trivial,trivial,trivial⟩,?_⟩
  cases i <;> rfl

end SlaifGateway.Quota
