import SlaifGateway.Email.KeyDelivery
import Mathlib.Data.List.Nodup

/-! Workers that send key emails side by side. Every transaction is one step; between two of them any other worker
may act, a worker may die, and the server may take a message before the call raises. -/
namespace SlaifGateway.Email
open Library

section System

-- How far a worker is with its attempt; `accepted` says whether the server has taken the message.
inductive Phase where
  | idle
  | rolledBack (delivery : ℕ)
  | prepared (delivery secret : ℕ)
  | calling (delivery secret : ℕ) (accepted : Bool)
  | returned (delivery secret : ℕ)
  | unfinalized (delivery : ℕ)
  deriving DecidableEq, Repr

structure World where
  db : Database
  phase : ℕ → Phase
  accepted : List (ℕ × ℕ)
  finalized : List ℕ

def World.begin (db : Database) : World := ⟨db,fun _ => .idle,[],[]⟩

def World.moves (w : World) (worker : ℕ) (phase : Phase) (db : Database) : World := { w with
  db := db
  phase := fun other => if other = worker then phase else w.phase other }

inductive Op where
  | create (gatewayKeyId secretId ownerId newId : ℕ)
  | prepare (worker secretId : ℕ) (deliveryId : Option ℕ) (newId : ℕ) (now : ℚ)
  | breaks (worker deliveryId : ℕ)
  | recordFailure (worker : ℕ)
  | call (worker : ℕ)
  | accept (worker : ℕ)
  | raises (worker : ℕ)
  | returns (worker : ℕ)
  | finalize (worker : ℕ) (now : ℚ)
  | finalizeBreaks (worker : ℕ)
  | recordAmbiguous (worker : ℕ)
  | stops (worker : ℕ)

variable (sender : Sender)

-- `breaks` is any other exception of the preparation with a selected row; its handler writes after a rollback.
def next (w : World) : Op → Option World
  | .create gatewayKeyId secretId ownerId newId =>
    (createPending w.db gatewayKeyId secretId ownerId newId).map fun db => { w with db := db }
  | .prepare worker secretId deliveryId newId now =>
    if w.phase worker = .idle then
      match prepareAttempt sender w.db secretId deliveryId newId now with
      | .ok (row,db) => some (w.moves worker (.prepared row.id secretId) db)
      | .error (.email error) => some { w with db := recordRefusal w.db secretId deliveryId error }
      | .error _ => none
    else none
  | .breaks worker deliveryId =>
    if w.phase worker = .idle then some (w.moves worker (.rolledBack deliveryId) w.db) else none
  | .recordFailure worker =>
    match w.phase worker with
    | .rolledBack id => some (w.moves worker .idle (w.db.mark id .failed))
    | _ => none
  | .call worker =>
    match w.phase worker with
    | .prepared id secretId => some (w.moves worker (.calling id secretId false) w.db)
    | _ => none
  | .accept worker =>
    match w.phase worker with
    | .calling id secretId false =>
      some { w.moves worker (.calling id secretId true) w.db with accepted := (secretId,id) :: w.accepted }
    | _ => none
  | .raises worker =>
    match w.phase worker with
    | .calling id _ _ => some (w.moves worker .idle (w.db.mark id .failed))
    | _ => none
  | .returns worker =>
    match w.phase worker with
    | .calling id secretId true => some (w.moves worker (.returned id secretId) w.db)
    | _ => none
  | .finalize worker now =>
    match w.phase worker with
    | .returned id secretId =>
      if (w.db.secret secretId).any (·.consumedAt = none) then
        some { w.moves worker .idle ((w.db.markConsumed secretId now).mark id .sent) with
          finalized := secretId :: w.finalized }
      else some (w.moves worker (.unfinalized id) w.db)
    | _ => none
  | .finalizeBreaks worker =>
    match w.phase worker with
    | .returned id _ => some (w.moves worker (.unfinalized id) w.db)
    | _ => none
  | .recordAmbiguous worker =>
    match w.phase worker with
    | .unfinalized id => some (w.moves worker .idle (w.db.mark id .ambiguous))
    | _ => none
  | .stops worker => some (w.moves worker .idle w.db)

-- The attempt a worker has going.
def Phase.holds : Phase → Option (ℕ × ℕ)
  | .prepared id secretId | .calling id secretId _ | .returned id secretId => some (id,secretId)
  | _ => none

def Op.newId : Op → Option ℕ
  | .create _ _ _ newId | .prepare _ _ none newId _ => some newId
  | _ => none

-- Ids are new, a failure that is written after a rollback finds no attempt going on or done, and a call that raises
-- has not reached the recipient.
def Careful (w : World) (op : Op) : Prop :=
  (∀ id ∈ op.newId, ∀ row ∈ w.db.deliveries, row.id ≠ id) ∧
    match op with
    | .recordFailure worker => ∀ id, w.phase worker = .rolledBack id → ∀ row ∈ w.db.deliveries, row.id = id →
        row.status.blocks = false
    | .raises worker => ∀ id secretId, w.phase worker ≠ .calling id secretId true
    | _ => True

end System

section Safety

-- The delivery that a worker keeps in status sending.
def Phase.delivery : Phase → Option ℕ
  | .prepared id _ | .calling id _ _ | .returned id _ | .unfinalized id => some id
  | _ => none

structure Safe (w : World) : Prop where
  ids : (w.db.deliveries.map EmailDelivery.id).Nodup
  single : ∀ a ∈ w.db.deliveries, ∀ b ∈ w.db.deliveries, a.status.blocks = true → b.status.blocks = true →
    ∀ secretId, a.oneTimeSecretId = some secretId → b.oneTimeSecretId = some secretId → a.id = b.id
  going : ∀ worker id, (w.phase worker).delivery = some id → ∃ row ∈ w.db.deliveries, row.id = id ∧ row.status = .sending ∧
    ∀ secretId, (w.phase worker).holds = some (id,secretId) → row.oneTimeSecretId = some secretId
  alone : ∀ worker other id, (w.phase worker).delivery = some id → (w.phase other).delivery = some id → worker = other
  taken : ∀ entry ∈ w.accepted, ∃ row ∈ w.db.deliveries, row.id = entry.2 ∧ row.oneTimeSecretId = some entry.1 ∧
    row.status.blocks = true
  waiting : ∀ worker id secretId, w.phase worker = .prepared id secretId ∨ w.phase worker = .calling id secretId false →
    ∀ entry ∈ w.accepted, entry.1 ≠ secretId
  once : (w.accepted.map Prod.fst).Nodup

variable {w w' : World} {id : ℕ} {status : DeliveryStatus}

theorem sameRow (safe : Safe w) {a b : EmailDelivery} (left : a ∈ w.db.deliveries) (right : b ∈ w.db.deliveries)
    (same : a.id = b.id) : a = b := List.inj_on_of_nodup_map safe.ids left right same

theorem markedRow {row : EmailDelivery} {db : Database} (mem : row ∈ (db.mark id status).deliveries) :
    ∃ old ∈ db.deliveries, row.id = old.id ∧ row.oneTimeSecretId = old.oneTimeSecretId ∧
      row.status = if old.id = id then status else old.status := by
  obtain ⟨old,here,rfl⟩ := List.mem_map.mp mem
  refine ⟨old,here,?_⟩
  split <;> simp [*]

theorem markKeeps {row : EmailDelivery} {db : Database} (mem : row ∈ db.deliveries) (other : row.id ≠ id) :
    row ∈ (db.mark id status).deliveries := by
  refine List.mem_map.mpr ⟨row,mem,if_neg other⟩

theorem markIds {db : Database} : (db.mark id status).deliveries.map EmailDelivery.id = db.deliveries.map EmailDelivery.id := by
  simp only [Database.mark,List.map_map]
  refine List.map_congr_left fun row _ => ?_
  simp only [Function.comp]
  split <;> rfl

theorem markSingle (safe : Safe w) (kept : ∀ row ∈ w.db.deliveries, row.id = id → status.blocks = true → row.status.blocks = true) :
    ∀ a ∈ (w.db.mark id status).deliveries, ∀ b ∈ (w.db.mark id status).deliveries, a.status.blocks = true →
      b.status.blocks = true → ∀ secretId, a.oneTimeSecretId = some secretId → b.oneTimeSecretId = some secretId → a.id = b.id := by
  have before : ∀ row ∈ (w.db.mark id status).deliveries, row.status.blocks = true → ∃ old ∈ w.db.deliveries,
      row.id = old.id ∧ row.oneTimeSecretId = old.oneTimeSecretId ∧ old.status.blocks = true := by
    intro row mem blocks
    obtain ⟨old,here,same,bound,after⟩ := markedRow mem
    refine ⟨old,here,same,bound,?_⟩
    rw [after] at blocks
    split at blocks
    · next marked => exact kept old here marked blocks
    · exact blocks
  intro a left b right blocksA blocksB secretId boundA boundB
  obtain ⟨oldA,hereA,sameA,secretA,wasA⟩ := before a left blocksA
  obtain ⟨oldB,hereB,sameB,secretB,wasB⟩ := before b right blocksB
  rw [sameA,sameB]
  exact safe.single oldA hereA oldB hereB wasA wasB secretId (secretA ▸ boundA) (secretB ▸ boundB)

-- A failure that is written to a row that no attempt holds.
theorem failsIdle (safe : Safe w) (idle : ∀ row ∈ w.db.deliveries, row.id = id → row.status.blocks = false) :
    Safe { w with db := w.db.mark id .failed } := by
  have other : ∀ row ∈ w.db.deliveries, row.status.blocks = true → row.id ≠ id := by
    intro row mem blocks same
    rw [idle row mem same] at blocks
    cases blocks
  refine { safe with
    ids := by simpa only [World.moves,markIds] using safe.ids
    single := markSingle safe (fun _ _ _ blocks => by cases blocks)
    going := fun worker held at_ => ?_
    taken := fun entry mem => ?_ }
  · obtain ⟨row,mem,same,sending,bound⟩ := safe.going worker held at_
    exact ⟨row,markKeeps mem (other row mem (by rw [sending]; rfl)),same,sending,bound⟩
  · obtain ⟨row,here,same,bound,blocks⟩ := safe.taken entry mem
    exact ⟨row,markKeeps here (other row here blocks),same,bound,blocks⟩

-- A worker that ends its own attempt.
theorem settles (safe : Safe w) {worker : ℕ} (own : (w.phase worker).delivery = some id)
    (fair : status.blocks = false → ∀ entry ∈ w.accepted, entry.2 ≠ id) :
    Safe (w.moves worker .idle (w.db.mark id status)) := by
  obtain ⟨mine,here,same,sending,-⟩ := safe.going worker id own
  have others : ∀ other held, ((w.moves worker .idle (w.db.mark id status)).phase other).delivery = some held →
      other ≠ worker ∧ (w.phase other).delivery = some held ∧ held ≠ id := by
    intro other held at_
    by_cases this : other = worker
    · simp [World.moves,this,Phase.delivery] at at_
    · simp only [World.moves,if_neg this] at at_
      exact ⟨this,at_,fun equal => this (safe.alone other worker id (equal ▸ at_) own)⟩
  refine {
    ids := by simpa only [World.moves,markIds] using safe.ids
    single := markSingle safe fun row mem marked _ => ?_
    going := fun other held at_ => ?_
    alone := fun other another held at_ there =>
      safe.alone other another held (others other held at_).2.1 (others another held there).2.1
    taken := fun entry mem => ?_
    waiting := fun other held secretId at_ => ?_
    once := safe.once }
  · rw [sameRow safe mem here (marked.trans same.symm),sending]
    rfl
  · obtain ⟨apart,at_,differ⟩ := others other held at_
    obtain ⟨row,mem,equal,sending,bound⟩ := safe.going other held at_
    refine ⟨row,markKeeps mem (equal ▸ differ),equal,sending,?_⟩
    simp only [World.moves,if_neg apart]
    exact bound
  · obtain ⟨row,mem,equal,bound,blocks⟩ := safe.taken entry mem
    by_cases marked : row.id = id
    · refine ⟨{ row with status := status },List.mem_map.mpr ⟨row,mem,if_pos marked⟩,equal,bound,?_⟩
      by_contra free
      exact fair (by simpa using free) entry ‹_› (equal ▸ marked)
    · exact ⟨row,markKeeps mem marked,equal,bound,blocks⟩
  · by_cases this : other = worker
    · simp [World.moves,this] at at_
    · simp only [World.moves,if_neg this] at at_
      exact safe.waiting other held secretId at_

-- A worker that goes on with its attempt, or gives it up, without a write.
theorem proceeds (safe : Safe w) {worker : ℕ} {phase : Phase}
    (held : ∀ id, phase.delivery = some id → (w.phase worker).delivery = some id)
    (bound : ∀ id secretId, phase.holds = some (id,secretId) → (w.phase worker).holds = some (id,secretId))
    (waits : ∀ id secretId, phase = .prepared id secretId ∨ phase = .calling id secretId false →
      ∀ entry ∈ w.accepted, entry.1 ≠ secretId) : Safe (w.moves worker phase w.db) := by
  have before : ∀ other id, ((w.moves worker phase w.db).phase other).delivery = some id → (w.phase other).delivery = some id := by
    intro other id at_
    by_cases this : other = worker
    · simp only [World.moves,if_pos this] at at_
      exact this ▸ held id at_
    · simpa only [World.moves,if_neg this] using at_
  refine { safe with
    going := fun other id at_ => ?_
    alone := fun other another id at_ there => safe.alone other another id (before other id at_) (before another id there)
    waiting := fun other id secretId at_ => ?_ }
  · obtain ⟨row,mem,same,sending,secret⟩ := safe.going other id (before other id at_)
    refine ⟨row,mem,same,sending,fun secretId holds => secret secretId ?_⟩
    by_cases this : other = worker
    · simp only [World.moves,if_pos this] at holds
      exact this ▸ bound id secretId holds
    · simpa only [World.moves,if_neg this] using holds
  · by_cases this : other = worker
    · simp only [World.moves,if_pos this] at at_
      exact waits id secretId at_
    · simp only [World.moves,if_neg this] at at_
      exact safe.waiting other id secretId at_

theorem accepts (safe : Safe w) {worker secretId : ℕ} (at_ : w.phase worker = .calling id secretId false) :
    Safe { w.moves worker (.calling id secretId true) w.db with accepted := (secretId,id) :: w.accepted } := by
  have moved : Safe (w.moves worker (.calling id secretId true) w.db) := by
    refine proceeds safe (fun held same => ?_) (fun held secret same => ?_) (by simp)
    · rw [at_]
      exact same
    · rw [at_]
      exact same
  obtain ⟨row,mem,same,sending,bound⟩ := safe.going worker id (by rw [at_]; rfl)
  have new : ∀ entry ∈ w.accepted, entry.1 ≠ secretId := safe.waiting worker id secretId (.inr at_)
  refine { moved with
    taken := List.forall_mem_cons.mpr ⟨⟨row,mem,same,bound secretId (by rw [at_]; rfl),by rw [sending]; rfl⟩,safe.taken⟩
    waiting := fun other held secret there => List.forall_mem_cons.mpr ⟨?_,moved.waiting other held secret there⟩
    once := List.nodup_cons.mpr ⟨fun listed => ?_,safe.once⟩ }
  · by_cases this : other = worker
    · simp [World.moves,this] at there
    · simp only [World.moves,if_neg this] at there
      rintro rfl
      obtain ⟨theirs,here,equal,sends,secretBound⟩ := safe.going other held (by rcases there with there | there <;> rw [there] <;> rfl)
      have together : row.id = theirs.id := safe.single row mem theirs here (by rw [sending]; rfl) (by rw [sends]; rfl) secretId
        (bound secretId (by rw [at_]; rfl)) (secretBound secretId (by rcases there with there | there <;> rw [there] <;> rfl))
      refine this (safe.alone other worker held ?_ ?_)
      · rcases there with there | there <;> rw [there] <;> rfl
      · rw [at_,← equal,← together,same]
        rfl
  · obtain ⟨entry,there,equal⟩ := List.mem_map.mp listed
    exact new entry there equal

theorem clearMeans {db : Database} {secretId : ℕ} (clear : hasBlockingAttempt db secretId = false) {row : EmailDelivery}
    (mem : row ∈ db.deliveries) (bound : row.oneTimeSecretId = some secretId) : row.status.blocks = false := by
  have none := List.any_eq_false.mp clear row mem
  simpa [isAttemptOf,bound] using none

-- A new row, or the selected one, becomes the one attempt of its secret.
theorem prepares (safe : Safe w) {worker secretId newId : ℕ} {deliveryId : Option ℕ} {row : EmailDelivery} {db' : Database}
    (fresh : deliveryId = none → ∀ other ∈ w.db.deliveries, other.id ≠ newId)
    (prepared : Prepared w.db secretId deliveryId newId row db') :
    Safe (w.moves worker (.prepared row.id secretId) db') := by
  have mine : row ∈ db'.deliveries := by
    rcases prepared.written with ⟨-,-,written⟩ | ⟨old,here,-,-,same,written⟩
    · rw [written]
      exact List.mem_cons_self
    · rw [written]
      exact List.mem_map.mpr ⟨old,here,if_pos same.symm⟩
  have origin : ∀ other ∈ db'.deliveries, other = row ∨ other ∈ w.db.deliveries ∧ other.id ≠ row.id := by
    intro other mem
    rcases prepared.written with ⟨first,new,written⟩ | ⟨old,here,-,-,same,written⟩
    · rw [written] at mem
      rcases List.mem_cons.mp mem with rfl | mem
      · exact .inl rfl
      · exact .inr ⟨mem,new ▸ fresh first other mem⟩
    · rw [written] at mem
      obtain ⟨before,there,rfl⟩ := List.mem_map.mp mem
      split
      · exact .inl rfl
      · next apart => exact .inr ⟨there,apart⟩
  have kept : ∀ other ∈ w.db.deliveries, other.id ≠ row.id → other ∈ db'.deliveries := by
    intro other mem apart
    rcases prepared.written with ⟨-,-,written⟩ | ⟨old,-,-,-,-,written⟩
    · rw [written]
      exact List.mem_cons_of_mem _ mem
    · rw [written]
      exact List.mem_map.mpr ⟨other,mem,if_neg apart⟩
  have free : ∀ other ∈ w.db.deliveries, other.id = row.id → other.status.blocks = false := by
    intro other mem same
    rcases prepared.written with ⟨first,new,-⟩ | ⟨old,here,-,bound,equal,-⟩
    · exact absurd (same.trans new) (fresh first other mem)
    · rw [sameRow safe mem here (same.trans equal)]
      exact clearMeans prepared.clear here bound
  have apart : ∀ other ∈ w.db.deliveries, other.status.blocks = true → other.id ≠ row.id := by
    intro other mem blocks same
    rw [free other mem same] at blocks
    cases blocks
  have others : ∀ other id, ((w.moves worker (.prepared row.id secretId) db').phase other).delivery = some id →
      other = worker ∧ id = row.id ∨ other ≠ worker ∧ (w.phase other).delivery = some id ∧ id ≠ row.id := by
    intro other id at_
    by_cases this : other = worker
    · simp only [World.moves,if_pos this] at at_
      exact .inl ⟨this,(Option.some.inj at_).symm⟩
    · simp only [World.moves,if_neg this] at at_
      obtain ⟨old,mem,same,sending,-⟩ := safe.going other id at_
      exact .inr ⟨this,at_,same ▸ apart old mem (by rw [sending]; rfl)⟩
  refine {
    ids := ?_
    single := fun a left b right blocksA blocksB secret boundA boundB => ?_
    going := fun other id at_ => ?_
    alone := fun other another id at_ there => ?_
    taken := fun entry mem => ?_
    waiting := fun other id secret at_ => ?_
    once := safe.once }
  · rcases prepared.written with ⟨first,new,written⟩ | ⟨old,here,-,-,same,written⟩
    · simp only [World.moves,written,List.map_cons]
      refine List.nodup_cons.mpr ⟨fun listed => ?_,safe.ids⟩
      obtain ⟨other,mem,equal⟩ := List.mem_map.mp listed
      exact fresh first other mem (equal.trans new)
    · have same : db'.deliveries.map EmailDelivery.id = w.db.deliveries.map EmailDelivery.id := by
        rw [written,List.map_map]
        refine List.map_congr_left fun other _ => ?_
        simp only [Function.comp]
        split
        · next marked => exact marked.symm
        · rfl
      simpa only [World.moves,same] using safe.ids
  · rcases origin a left with rfl | ⟨hereA,-⟩ <;> rcases origin b right with rfl | ⟨hereB,-⟩
    · rfl
    · rw [prepared.secret] at boundA
      obtain rfl := Option.some.inj boundA
      rw [clearMeans prepared.clear hereB boundB] at blocksB
      cases blocksB
    · rw [prepared.secret] at boundB
      obtain rfl := Option.some.inj boundB
      rw [clearMeans prepared.clear hereA boundA] at blocksA
      cases blocksA
    · exact safe.single a hereA b hereB blocksA blocksB secret boundA boundB
  · rcases others other id at_ with ⟨this,rfl⟩ | ⟨this,at_,differ⟩
    · refine ⟨row,mine,rfl,prepared.status,fun secret holds => ?_⟩
      simp only [World.moves,if_pos this,Phase.holds,Option.some.injEq,Prod.mk.injEq,true_and] at holds
      exact holds ▸ prepared.secret
    · obtain ⟨old,mem,same,sending,bound⟩ := safe.going other id at_
      refine ⟨old,kept old mem (same ▸ differ),same,sending,?_⟩
      simpa only [World.moves,if_neg this] using bound
  · rcases others other id at_ with ⟨this,same⟩ | ⟨this,held,differ⟩ <;>
      rcases others another id there with ⟨that,equal⟩ | ⟨that,also,apart⟩
    · exact this.trans that.symm
    · exact absurd same apart
    · exact absurd equal differ
    · exact safe.alone other another id held also
  · obtain ⟨old,here,same,bound,blocks⟩ := safe.taken entry mem
    exact ⟨old,kept old here (apart old here blocks),same,bound,blocks⟩
  · intro entry mem same
    by_cases this : other = worker
    · simp only [World.moves,if_pos this,Phase.prepared.injEq,reduceCtorEq,or_false] at at_
      obtain ⟨old,here,-,bound,blocks⟩ := safe.taken entry mem
      rw [same,← at_.2] at bound
      rw [clearMeans prepared.clear here bound] at blocks
      cases blocks
    · simp only [World.moves,if_neg this] at at_
      exact safe.waiting other id secret at_ entry mem same

theorem createMeans {db db' : Database} {gatewayKeyId secretId ownerId newId : ℕ}
    (ok : createPending db gatewayKeyId secretId ownerId newId = some db') : db'.secrets = db.secrets ∧
      ∃ row, row.id = newId ∧ row.status = .pending ∧ db'.deliveries = row :: db.deliveries := by
  unfold createPending at ok
  obtain ⟨s,-,ok⟩ := Option.bind_eq_some_iff.mp ok
  obtain ⟨owner,-,ok⟩ := Option.bind_eq_some_iff.mp ok
  split at ok
  · cases ok
    exact ⟨rfl,_,rfl,rfl,rfl⟩
  · cases ok

theorem creates (safe : Safe w) {db : Database} {row : EmailDelivery} (pending : row.status = .pending)
    (fresh : ∀ other ∈ w.db.deliveries, other.id ≠ row.id) (written : db.deliveries = row :: w.db.deliveries) :
    Safe { w with db := db } := by
  have free : row.status.blocks = false := by rw [pending]; rfl
  have kept : ∀ other ∈ w.db.deliveries, other ∈ db.deliveries := by
    intro other mem
    rw [written]
    exact List.mem_cons_of_mem _ mem
  have before : ∀ other ∈ db.deliveries, other.status.blocks = true → other ∈ w.db.deliveries := by
    intro other mem blocks
    rw [written] at mem
    rcases List.mem_cons.mp mem with rfl | mem
    · rw [free] at blocks
      cases blocks
    · exact mem
  refine { safe with
    ids := ?_
    single := fun a left b right blocksA blocksB =>
      safe.single a (before a left blocksA) b (before b right blocksB) blocksA blocksB
    going := fun worker id at_ => ?_
    taken := fun entry mem => ?_ }
  · rw [written,List.map_cons]
    refine List.nodup_cons.mpr ⟨fun listed => ?_,safe.ids⟩
    obtain ⟨other,mem,same⟩ := List.mem_map.mp listed
    exact fresh other mem same
  · obtain ⟨old,mem,rest⟩ := safe.going worker id at_
    exact ⟨old,kept old mem,rest⟩
  · obtain ⟨old,mem,rest⟩ := safe.taken entry mem
    exact ⟨old,kept old mem,rest⟩

theorem otherSecrets (safe : Safe w) {db : Database} (same : db.deliveries = w.db.deliveries) : Safe { w with db := db } :=
  { safe with
    ids := same ▸ safe.ids
    single := same ▸ safe.single
    going := same ▸ safe.going
    taken := same ▸ safe.taken }

theorem recordsRefusal (safe : Safe w) {sender : Sender} {secretId newId : ℕ} {deliveryId : Option ℕ} {now : ℚ} {error : EmailError}
    (refused : prepareAttempt sender w.db secretId deliveryId newId now = .error (.email error)) :
    Safe { w with db := recordRefusal w.db secretId deliveryId error } := by
  have checked : Safe { w with db := if error = .secretExpired true then w.db.markSecret secretId .expired else w.db } :=
    otherSecrets safe (by split <;> rfl)
  cases deliveryId with
  | none => exact checked
  | some id =>
    obtain ⟨row,there,sendable⟩ := refusedMeans refused rfl
    obtain ⟨mem,same⟩ := foundDelivery there
    refine failsIdle checked fun other here equal => ?_
    have listed : other ∈ w.db.deliveries := by
      dsimp only at here
      split at here <;> exact here
    rw [sameRow safe listed mem (equal.trans same.symm)]
    revert sendable
    cases row.status <;> decide

-- Only a worker's own delivery is in the list under its id.
theorem ownEntry (safe : Safe w) {worker secretId : ℕ} (held : (w.phase worker).holds = some (id,secretId))
    (own : (w.phase worker).delivery = some id) {entry : ℕ × ℕ} (mem : entry ∈ w.accepted) (same : entry.2 = id) :
    entry.1 = secretId := by
  obtain ⟨row,here,equal,-,bound⟩ := safe.going worker id own
  obtain ⟨taken,there,at_,secret,-⟩ := safe.taken entry mem
  rw [sameRow safe there here (at_.trans (same.trans equal.symm)),bound secretId held] at secret
  exact (Option.some.inj secret).symm

end Safety

section Runs
variable {sender : Sender} {w w' : World} {op : Op}

theorem stepSafe (safe : Safe w) (careful : Careful w op) (ok : next sender w op = some w') : Safe w' := by
  obtain ⟨fresh,fair⟩ := careful
  cases op with
  | create gatewayKeyId secretId ownerId newId =>
    obtain ⟨db,created,rfl⟩ := Option.map_eq_some_iff.mp ok
    obtain ⟨-,row,rfl,pending,written⟩ := createMeans created
    exact creates safe pending (fresh _ rfl) written
  | prepare worker secretId deliveryId newId now =>
    delta next at ok
    dsimp only at ok
    split at ok
    · split at ok
      · next prepared =>
        cases ok
        refine prepares safe (fun first => ?_) (preparedMeans prepared)
        subst first
        exact fresh newId rfl
      · next refused =>
        cases ok
        exact recordsRefusal safe refused
      · cases ok
    · cases ok
  | breaks worker deliveryId =>
    delta next at ok
    dsimp only at ok
    split at ok
    · cases ok
      exact proceeds safe (fun _ held => by cases held) (fun _ _ held => by cases held) (by simp)
    · cases ok
  | recordFailure worker =>
    delta next at ok
    dsimp only at ok
    split at ok
    · next at_ =>
      cases ok
      have marked := failsIdle safe (fair _ at_)
      refine proceeds marked (fun _ held => by cases held) (fun _ _ held => by cases held) (by simp)
    · cases ok
  | call worker =>
    delta next at ok
    dsimp only at ok
    split at ok
    · next at_ =>
      cases ok
      refine proceeds safe (fun _ held => by rw [at_]; exact held) (fun _ _ held => by rw [at_]; exact held) fun held secret same => ?_
      simp only [reduceCtorEq,Phase.calling.injEq,and_true,false_or] at same
      obtain ⟨rfl,rfl⟩ := same
      exact safe.waiting worker _ _ (.inl at_)
    · cases ok
  | accept worker =>
    delta next at ok
    dsimp only at ok
    split at ok
    · next at_ =>
      cases ok
      exact accepts safe at_
    · cases ok
  | raises worker =>
    delta next at ok
    dsimp only at ok
    split at ok
    · next id secretId taken at_ =>
      cases ok
      refine settles safe (by rw [at_]; rfl) fun _ entry mem same => ?_
      have untaken : taken = false := by
        cases taken with
        | false => rfl
        | true => exact absurd at_ (fair id secretId)
      have mine := ownEntry safe (by rw [at_]; rfl) (by rw [at_]; rfl) mem same
      exact safe.waiting worker id secretId (.inr (untaken ▸ at_)) entry mem mine
    · cases ok
  | returns worker =>
    delta next at ok
    dsimp only at ok
    split at ok
    · next at_ =>
      cases ok
      exact proceeds safe (fun _ held => by rw [at_]; exact held) (fun _ _ held => by rw [at_]; exact held) (by simp)
    · cases ok
  | finalize worker now =>
    delta next at ok
    dsimp only at ok
    split at ok
    · next id secretId at_ =>
      split at ok
      · cases ok
        have own : (w.phase worker).delivery = some id := by rw [at_]; rfl
        have consumed : Safe { w with db := w.db.markConsumed secretId now } := otherSecrets safe rfl
        have settled : Safe (w.moves worker .idle ((w.db.markConsumed secretId now).mark id .sent)) :=
          settles consumed own fun free => by cases free
        exact { settled with }
      · cases ok
        refine proceeds safe (fun _ held => ?_) (fun _ _ held => by cases held) (by simp)
        rw [at_]
        exact held
    · cases ok
  | finalizeBreaks worker =>
    delta next at ok
    dsimp only at ok
    split at ok
    · next at_ =>
      cases ok
      refine proceeds safe (fun _ held => ?_) (fun _ _ held => by cases held) (by simp)
      rw [at_]
      exact held
    · cases ok
  | recordAmbiguous worker =>
    delta next at ok
    dsimp only at ok
    split at ok
    · next at_ =>
      cases ok
      exact settles safe (by rw [at_]; rfl) fun free => by cases free
    · cases ok
  | stops worker =>
    cases ok
    exact proceeds safe (fun _ held => by cases held) (fun _ _ held => by cases held) (by simp)

structure Sound (db : Database) : Prop where
  ids : (db.deliveries.map EmailDelivery.id).Nodup
  single : ∀ a ∈ db.deliveries, ∀ b ∈ db.deliveries, a.status.blocks = true → b.status.blocks = true →
    ∀ secretId, a.oneTimeSecretId = some secretId → b.oneTimeSecretId = some secretId → a.id = b.id

theorem beginSafe {db : Database} (sound : Sound db) : Safe (World.begin db) := by
  refine ⟨sound.ids,sound.single,?_,?_,?_,?_,List.nodup_nil⟩ <;> simp [World.begin,Phase.delivery]

-- Once the server has taken the key of a secret, no attempt for it can be prepared and none is shown as sendable.
structure SentOnce (w : World) : Prop where
  once : (w.accepted.map Prod.fst).Nodup
  known : ∀ entry ∈ w.accepted, ∃ row ∈ w.db.deliveries, row.id = entry.2 ∧ row.oneTimeSecretId = some entry.1 ∧
    row.status.blocks = true
  closed : ∀ entry ∈ w.accepted, ∀ sender deliveryId newId now out,
    prepareAttempt sender w.db entry.1 deliveryId newId now ≠ .ok out
  hidden : ∀ entry ∈ w.accepted, ∀ row, row.oneTimeSecretId = some entry.1 → ∀ now, canSend w.db row now = false

theorem preparedClear {db : Database} {secretId newId : ℕ} {deliveryId : Option ℕ} {now : ℚ} {out : EmailDelivery × Database}
    (ok : prepareAttempt sender db secretId deliveryId newId now = .ok out) : hasBlockingAttempt db secretId = false := by
  obtain ⟨row,db'⟩ := out
  exact (preparedMeans ok).clear

theorem safeSentOnce (safe : Safe w) : SentOnce w := by
  have blocks : ∀ entry ∈ w.accepted, hasBlockingAttempt w.db entry.1 = true := by
    intro entry mem
    obtain ⟨row,here,-,bound,held⟩ := safe.taken entry mem
    exact List.any_eq_true.mpr ⟨row,here,by simp [isAttemptOf,bound,held]⟩
  refine ⟨safe.once,safe.taken,fun entry mem _ _ _ _ out ok => ?_,fun entry mem row bound now => ?_⟩
  · have clear := preparedClear ok
    rw [blocks entry mem] at clear
    cases clear
  · simp [canSend,bound,blocks entry mem]

-- A worker about to call the server is the only one with the secret, and nothing of it went out before.
def LonelyCall (c : Commit World Op) : Prop := ∀ worker id secretId, c.op = .call worker →
  c.before.phase worker = .prepared id secretId → (∀ entry ∈ c.before.accepted, entry.1 ≠ secretId) ∧
    (∀ other held, (c.before.phase other).holds = some (held,secretId) → other = worker) ∧
    ∀ row ∈ c.before.db.deliveries, row.oneTimeSecretId = some secretId → row.status.blocks = true → row.id = id

theorem holdsDelivery {phase : Phase} {id secretId : ℕ} (held : phase.holds = some (id,secretId)) : phase.delivery = some id := by
  cases phase <;> simp_all [Phase.holds,Phase.delivery]

theorem callLonely (safe : Safe w) : LonelyCall ⟨w,op,w'⟩ := by
  intro worker id secretId _ at_
  obtain ⟨mine,here,same,sending,bound⟩ := safe.going worker id (by rw [at_]; rfl)
  have own := bound secretId (by rw [at_]; rfl)
  have only : ∀ row ∈ w.db.deliveries, row.oneTimeSecretId = some secretId → row.status.blocks = true → row.id = id :=
    fun row mem theirs blocks => (safe.single row mem mine here blocks (by rw [sending]; rfl) secretId theirs own).trans same
  refine ⟨safe.waiting worker id secretId (.inl at_),fun other held holds => ?_,only⟩
  obtain ⟨row,mem,equal,sends,theirs⟩ := safe.going other held (holdsDelivery holds)
  have together : held = id := equal ▸ only row mem (theirs secretId holds) (by rw [sends]; rfl)
  exact safe.alone other worker id (together ▸ holdsDelivery holds) (by rw [at_]; rfl)

theorem keyEmailedAtMostOnce (sender : Sender) (db : Database) (ops : List Op) (sound : Sound db)
    (careful : Runs.Along (next sender) Careful (World.begin db) ops) :
    SentOnce (Runs.run (next sender) (World.begin db) ops) ∧
      ∀ c ∈ Runs.commits (next sender) (World.begin db) ops, LonelyCall c := by
  have start := beginSafe sound
  refine ⟨safeSentOnce (Runs.invariantRun Safe (fun _ _ _ safe here => stepSafe safe here) start careful),?_⟩
  exact Runs.commitsForall Safe LonelyCall (fun _ _ _ safe here ok => ⟨stepSafe safe here ok,callLonely safe⟩) start careful

def demoSender : Sender := ⟨true,fun _ => .payload (some 1) (some 1)⟩

def demoDatabase : Database := ⟨[⟨1,.gatewayKeyEmail,some 1,some 1,100,none,.pending⟩],[],[⟨1,[]⟩],[1]⟩

-- The server refuses the first try and takes the second one, whose second transaction is lost.
def demoOps : List Op := [.create 1 1 1 10,.prepare 0 1 (some 10) 0 1,.call 0,.raises 0,.prepare 1 1 (some 10) 0 2,.call 1,
  .prepare 0 1 (some 10) 0 2,.accept 1,.returns 1,.finalizeBreaks 1,.recordAmbiguous 1]

theorem demoSound : Sound demoDatabase := ⟨by decide,by simp [demoDatabase]⟩

theorem demoCareful : Runs.Along (next demoSender) Careful (World.begin demoDatabase) demoOps := by
  refine ⟨⟨?_,?_⟩,⟨?_,?_⟩,⟨?_,?_⟩,⟨?_,?_⟩,⟨?_,?_⟩,⟨?_,?_⟩,⟨?_,?_⟩,⟨?_,?_⟩,⟨?_,?_⟩,⟨?_,?_⟩,⟨?_,?_⟩,trivial⟩
  all_goals
    first
    | trivial
    | decide +kernel
    | exact fun _ _ at_ => by cases at_

theorem keyEmailedAtMostOnceDemo : Sound demoDatabase ∧
    Runs.Along (next demoSender) Careful (World.begin demoDatabase) demoOps ∧
    (Runs.run (next demoSender) (World.begin demoDatabase) demoOps).accepted = [(1,10)] ∧
    SentOnce (Runs.run (next demoSender) (World.begin demoDatabase) demoOps) ∧
    ∀ c ∈ Runs.commits (next demoSender) (World.begin demoDatabase) demoOps, LonelyCall c := by
  have both := keyEmailedAtMostOnce demoSender demoDatabase demoOps demoSound demoCareful
  exact ⟨demoSound,demoCareful,by decide +kernel,both⟩

end Runs

section Finalized
variable {sender : Sender} {w w' : World} {op : Op}

def Consumed (db : Database) (secretId : ℕ) : Prop := ∃ s, db.secret secretId = some s ∧ s.consumedAt ≠ none

-- A write to the secrets that changes no id and takes no consumption back.
def Keeps (f : OneTimeSecret → OneTimeSecret) : Prop := ∀ s, (f s).id = s.id ∧ (s.consumedAt ≠ none → (f s).consumedAt ≠ none)

theorem secretAfter {db db' : Database} {f : OneTimeSecret → OneTimeSecret} (keeps : Keeps f)
    (written : db'.secrets = db.secrets.map f) (id : ℕ) : db'.secret id = (db.secret id).map f := by
  simp only [Database.secret,written,List.find?_map]
  congr 2
  funext s
  simp only [Function.comp,(keeps s).1]

theorem consumedStays {db db' : Database} {f : OneTimeSecret → OneTimeSecret} (keeps : Keeps f)
    (written : db'.secrets = db.secrets.map f) {secretId : ℕ} (consumed : Consumed db secretId) : Consumed db' secretId := by
  obtain ⟨s,found,done⟩ := consumed
  exact ⟨f s,by rw [secretAfter keeps written,found]; rfl,(keeps s).2 done⟩

theorem keepsConsume (secretId : ℕ) (now : ℚ) : Keeps fun row =>
    if row.id = secretId ∧ row.consumedAt = none then { row with status := .consumed, consumedAt := some now } else row := by
  intro s
  dsimp only
  split <;> simp

theorem keepsExpire (secretId : ℕ) (status : SecretStatus) : Keeps fun row =>
    if row.id = secretId then { row with status := status } else row := by
  intro s
  dsimp only
  split <;> simp

structure Final (w : World) : Prop where
  once : w.finalized.Nodup
  consumed : ∀ secretId ∈ w.finalized, Consumed w.db secretId

theorem finalStays (final : Final w) {f : OneTimeSecret → OneTimeSecret} (keeps : Keeps f)
    (written : w'.db.secrets = w.db.secrets.map f) (same : w'.finalized = w.finalized) : Final w' :=
  ⟨same ▸ final.once,fun secretId mem => consumedStays keeps written (final.consumed secretId (same ▸ mem))⟩

theorem finalIdle (final : Final w) (written : w'.db.secrets = w.db.secrets) (same : w'.finalized = w.finalized) : Final w' :=
  finalStays (f := id) final (fun _ => ⟨rfl,fun done => done⟩) (by simpa using written) same

theorem refusalSecrets {db : Database} {secretId : ℕ} {deliveryId : Option ℕ} {error : EmailError} :
    ∃ f, Keeps f ∧ (recordRefusal db secretId deliveryId error).secrets = db.secrets.map f := by
  have written : (recordRefusal db secretId deliveryId error).secrets =
      (if error = .secretExpired true then db.markSecret secretId .expired else db).secrets := by
    cases deliveryId <;> rfl
  rw [written]
  split
  · exact ⟨_,keepsExpire secretId .expired,rfl⟩
  · exact ⟨id,fun _ => ⟨rfl,fun done => done⟩,by simp⟩

theorem finalizes (final : Final w) {worker id secretId : ℕ} {now : ℚ} {s : OneTimeSecret}
    (found : w.db.secret secretId = some s) (unspent : s.consumedAt = none) :
    Final { w.moves worker .idle ((w.db.markConsumed secretId now).mark id .sent) with finalized := secretId :: w.finalized } := by
  have stays : ∀ other, Consumed w.db other → Consumed ((w.db.markConsumed secretId now).mark id .sent) other :=
    fun other => consumedStays (keepsConsume secretId now) rfl
  refine ⟨List.nodup_cons.mpr ⟨fun listed => ?_,final.once⟩,
    List.forall_mem_cons.mpr ⟨?_,fun other mem => stays other (final.consumed other mem)⟩⟩
  · obtain ⟨same,there,done⟩ := final.consumed secretId listed
    exact done (Option.some.inj (there.symm.trans found) ▸ unspent)
  · refine ⟨{ s with status := .consumed, consumedAt := some now },?_,by simp⟩
    have after : ((w.db.markConsumed secretId now).mark id .sent).secret secretId = _ :=
      secretAfter (keepsConsume secretId now) rfl secretId
    simpa [World.moves,found,(foundSecret found).2,unspent] using after

theorem stepFinal (final : Final w) (ok : next sender w op = some w') : Final w' := by
  cases op with
  | create gatewayKeyId secretId ownerId newId =>
    obtain ⟨db,created,rfl⟩ := Option.map_eq_some_iff.mp ok
    exact finalIdle final (createMeans created).1 rfl
  | prepare worker secretId deliveryId newId now =>
    delta next at ok
    dsimp only at ok
    split at ok
    · split at ok
      · next prepared =>
        cases ok
        exact finalIdle final (preparedMeans prepared).secrets rfl
      · cases ok
        obtain ⟨f,keeps,written⟩ := refusalSecrets
        exact finalStays final keeps written rfl
      · cases ok
    · cases ok
  | finalize worker now =>
    delta next at ok
    dsimp only at ok
    split at ok
    · split at ok
      · next open_ =>
        cases ok
        obtain ⟨s,found,unspent⟩ := (Option.any_eq_true ..).mp open_
        exact finalizes final found (by simpa using unspent)
      · cases ok
        exact finalIdle final rfl rfl
    · cases ok
  | _ =>
    delta next at ok
    dsimp only at ok
    repeat' split at ok
    all_goals
      first
      | cases ok
        exact finalIdle final rfl rfl
      | cases ok

-- Whatever is interrupted or written late, a secret is consumed by one delivery, and none can be prepared after that.
theorem keyFinalizedOnce (sender : Sender) (db : Database) (ops : List Op) :
    (Runs.run (next sender) (World.begin db) ops).finalized.Nodup ∧
      ∀ secretId ∈ (Runs.run (next sender) (World.begin db) ops).finalized, ∀ opener deliveryId newId now out,
        prepareAttempt opener (Runs.run (next sender) (World.begin db) ops).db secretId deliveryId newId now ≠ .ok out := by
  have start : Final (World.begin db) := ⟨List.nodup_nil,by simp [World.begin]⟩
  have along : Runs.Along (next sender) (fun _ _ => True) (World.begin db) ops := Runs.alongForall fun _ _ _ => trivial
  have final := Runs.invariantRun Final (fun _ _ _ final _ ok => stepFinal final ok) start along
  refine ⟨final.once,fun secretId mem opener deliveryId newId now out ok => ?_⟩
  obtain ⟨s,found,done⟩ := final.consumed secretId mem
  obtain ⟨row,db'⟩ := out
  obtain ⟨other,there,unspent⟩ := (preparedMeans ok).unspent
  obtain rfl := Option.some.inj (found.symm.trans there)
  simp only [OneTimeSecret.spent,Bool.or_eq_false_iff,Option.isSome_eq_false_iff,Option.isNone_iff_eq_none] at unspent
  exact done unspent.2

end Finalized

end SlaifGateway.Email
