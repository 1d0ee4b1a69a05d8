import SlaifGateway.Library.Generator
import SlaifGateway.Quota.Movements
import Mathlib.Algebra.Order.BigOperators.Group.List

/-! What a streaming generator does to the world outside it: it awaits the provider's next
item, yields events to the client, runs settlement transactions and cleans up. An await
outside a cancellation shield may be cancelled; a yield may be answered by closing the
generator. A transaction that raises or is cancelled in time leaves the rows as they were,
and one that is cancelled too late has committed. -/
namespace SlaifGateway.Streaming
open Store Library Library.Tx

structure ProviderError where
  safeMessage : String
  errorType : String
  errorCode : String
  upstreamStatusCode : Option Nat
  diagnostic : Bool
  deriving DecidableEq, Repr

/-- What one `anext` of the provider's stream comes to. -/
inductive Item (C : Type) where
  | chunk (c : C)
  | exhausted
  | failed (e : ProviderError)
  | crashed

/-- The yields of a generator, told apart by the statement that makes them. -/
inductive StreamEvent where
  | forwarded (raw : String)
  | completed (raw : String)
  | done (raw : String)
  | error (message : String) (errorType : Option String) (code : Option String) (requestId : Option String)
  deriving DecidableEq, Repr

inductive Effect (C T : Type) where
  | pull (item : Item C)
  | send (event : StreamEvent)
  | transact (t : T) (shielded : Bool)
  | stopHeartbeat
  | releaseConcurrency

inductive Arrival where | came | cancelled

inductive Delivery where | resumed | closed

inductive Cancellation where | beforeCommit | afterCommit
  deriving DecidableEq

inductive Reply where
  | committed (id : Uuid)
  | raised (e : ServiceError)
  | cancelled (c : Cancellation)

def Answer {C T : Type} : Effect C T → Type
  | .pull _ => Arrival
  | .send _ => Delivery
  | .transact _ _ => Reply
  | .stopHeartbeat | .releaseConcurrency => Unit

inductive Note (C T : Type) where
  | took (item : Item C)
  | sent (event : StreamEvent)
  /-- A commit, and whether the reservation left `pending` with it. -/
  | committed (t : T) (settles : Bool)
  | stoppedHeartbeat
  | releasedConcurrency

structure World (C T : Type) where
  db : Db
  trace : List (Note C T)

inductive Raised where
  | cancelledError
  | generatorExit
  | provider (e : ProviderError)
  | service (e : ServiceError)
  | openai (message : String) (code : Option String)
  | unexpected

def isAccountingError (e : ServiceError) : Bool :=
  match e.kind with
  | .usageMissing | .invalidUsage | .reservationFinalization | .reservationAlreadyFinalized | .ledgerWrite
  | .providerCompletionRecord | .accountingFinalizationRecovery | .finalizationRecoveryNotSupported
  | .unsupportedProviderCost => true
  | _ => false

def isQuotaError (e : ServiceError) : Bool :=
  match e.kind with
  | .quotaLimitExceeded | .quotaReservationNotFound | .invalidQuotaEstimate | .quotaConcurrency
  | .quotaCounterInvariant | .keyNotReservable | .quotaExternalToolFenceActive => true
  | _ => false

def pendingIn (db : Db) (reservationId : Uuid) : Bool :=
  (db.quotaReservations.find reservationId).any fun r => r.status = .pending

def settles (reservationId : Uuid) (db db' : Db) : Bool := pendingIn db reservationId && !pendingIn db' reservationId

/-- The transactions a generator names, with the clock and the new row's id still open. -/
structure Ledgering (T : Type) where
  action : T → Time → Uuid → Action Uuid
  reservationId : Uuid

section Environment
variable {C T V α : Type} (L : Ledgering T)

def Ledgering.Commits (t : T) (db : Db) (id : Uuid) (db' : Db) : Prop :=
  ∃ now newId s, (∀ l ∈ db.usageLedger,l.id ≠ newId) ∧ (L.action t now newId).Returns ⟨db,[]⟩ id s ∧ s.db = db'

def Ledgering.Refuses (t : T) (db : Db) (e : ServiceError) : Prop :=
  ∃ now newId s, (∀ l ∈ db.usageLedger,l.id ≠ newId) ∧ (L.action t now newId).exec ⟨db,[]⟩ = (.error e,s)

def World.noting (w : World C T) (n : Note C T) : World C T := ⟨w.db,w.trace ++ [n]⟩

def World.after (w : World C T) (t : T) (db' : Db) : World C T :=
  ⟨db',w.trace ++ [.committed t (settles L.reservationId w.db db')]⟩

/-- The answers the world can give. With `faults` a transaction may also fail for reasons of its own. -/
inductive Reacts (faults : Prop) : World C T → (e : Effect C T) → Answer e → World C T → Prop where
  | came (w item) : Reacts faults w (.pull item) Arrival.came (w.noting (.took item))
  | pullCancelled (w item) : Reacts faults w (.pull item) Arrival.cancelled w
  | resumed (w event) : Reacts faults w (.send event) Delivery.resumed (w.noting (.sent event))
  | closed (w event) : Reacts faults w (.send event) Delivery.closed (w.noting (.sent event))
  | committed (w shielded) {t id db'} (ok : L.Commits t w.db id db') :
      Reacts faults w (.transact t shielded) (Reply.committed id) (w.after L t db')
  | refused (w shielded) {t e} (fails : L.Refuses t w.db e) :
      Reacts faults w (.transact t shielded) (Reply.raised e) w
  | faulted (w t shielded e) (may : faults) : Reacts faults w (.transact t shielded) (Reply.raised e) w
  | cancelledBefore (w t) : Reacts faults w (.transact t false) (Reply.cancelled .beforeCommit) w
  | cancelledAfter (w) {t id db'} (ok : L.Commits t w.db id db') :
      Reacts faults w (.transact t false) (Reply.cancelled .afterCommit) (w.after L t db')
  | stopped (w) : Reacts faults w .stopHeartbeat () (w.noting .stoppedHeartbeat)
  | released (w) : Reacts faults w .releaseConcurrency () (w.noting .releasedConcurrency)

/-- The same, restricted to the answers that are allowed. -/
def Environment (faults : Prop) (allowed : World C T → (e : Effect C T) → Answer e → Prop) (w : World C T)
    (e : Effect C T) (a : Answer e) (w' : World C T) : Prop :=
  Reacts L faults w e a w' ∧ allowed w e a

abbrev Events (C T V : Type) := Generator (Effect C T) Answer V Raised

namespace Events
open Generator

def pull (item : Item C) : Events C T V Unit := do
  match ← (ask (Effect.pull item : Effect C T) : Events C T V Arrival) with
  | .came => pure ()
  | .cancelled => throw .cancelledError

def yield (event : StreamEvent) : Events C T V Unit := do
  match ← (ask (Effect.send event : Effect C T) : Events C T V Delivery) with
  | .resumed => pure ()
  | .closed => throw .generatorExit

def transact (t : T) (shielded : Bool) : Events C T V Uuid := do
  match ← (ask (Effect.transact t shielded : Effect C T) : Events C T V Reply) with
  | .committed id => pure id
  | .raised e => throw (.service e)
  | .cancelled _ => throw .cancelledError

/-- The shielded `finally` block every streaming generator ends with. -/
def cleanUp : Events C T V Unit := do
  (ask (Effect.stopHeartbeat : Effect C T) : Events C T V Unit)
  (ask (Effect.releaseConcurrency : Effect C T) : Events C T V Unit)
end Events

variable {L} {faults : Prop} {allowed : World C T → (e : Effect C T) → Answer e → Prop} {v : V} {w : World C T}
  {ok : Unit → V → World C T → Prop} {err : Raised → V → World C T → Prop}

theorem ensuresPull {item : Item C}
    (came : allowed w (.pull item) Arrival.came → ok () v (w.noting (.took item)))
    (cancelled : allowed w (.pull item) Arrival.cancelled → err .cancelledError v w) :
    (Events.pull item : Events C T V Unit).Ensures (Environment L faults allowed) v w ok err := by
  simp only [Events.pull,Generator.ensuresBind,Generator.ensuresAsk]
  rintro a w' ⟨⟨⟩,may⟩
  · exact came may
  · exact cancelled may

theorem ensuresYield {event : StreamEvent}
    (resumed : allowed w (.send event) Delivery.resumed → ok () v (w.noting (.sent event)))
    (closed : allowed w (.send event) Delivery.closed → err .generatorExit v (w.noting (.sent event))) :
    (Events.yield event : Events C T V Unit).Ensures (Environment L faults allowed) v w ok err := by
  simp only [Events.yield,Generator.ensuresBind,Generator.ensuresAsk]
  rintro a w' ⟨⟨⟩,may⟩
  · exact resumed may
  · exact closed may

theorem ensuresTransact {t : T} {shielded : Bool} {ok : Uuid → V → World C T → Prop}
    (committed : ∀ id db',L.Commits t w.db id db' → allowed w (.transact t shielded) (Reply.committed id) →
      ok id v (w.after L t db'))
    (raised : ∀ e,L.Refuses t w.db e ∨ faults → allowed w (.transact t shielded) (Reply.raised e) →
      err (.service e) v w)
    (early : shielded = false → allowed w (.transact t shielded) (Reply.cancelled .beforeCommit) →
      err .cancelledError v w)
    (late : shielded = false → ∀ id db',L.Commits t w.db id db' →
      allowed w (.transact t shielded) (Reply.cancelled .afterCommit) → err .cancelledError v (w.after L t db')) :
    (Events.transact t shielded : Events C T V Uuid).Ensures (Environment L faults allowed) v w ok err := by
  simp only [Events.transact,Generator.ensuresBind,Generator.ensuresAsk]
  rintro a w' ⟨reacts,may⟩
  cases reacts with
  | committed _ done => exact committed _ _ done may
  | refused _ fails => exact raised _ (Or.inl fails) may
  | faulted _ _ _ fault => exact raised _ (Or.inr fault) may
  | cancelledBefore => exact early rfl may
  | cancelledAfter done => exact late rfl _ _ done may

theorem ensuresCleanUp (cleaned : ok () v ((w.noting .stoppedHeartbeat).noting .releasedConcurrency)) :
    (Events.cleanUp : Events C T V Unit).Ensures (Environment L faults allowed) v w ok err := by
  refine Generator.ensuresBind.mpr (Generator.ensuresAsk.mpr ?_)
  rintro a w' ⟨⟨⟩,-⟩
  refine Generator.ensuresAsk.mpr ?_
  rintro b w'' ⟨⟨⟩,-⟩
  exact cleaned

theorem commitsOrRefuses (L : Ledgering T) (t : T) (db : Db) :
    (∃ id db',L.Commits t db id db') ∨ ∃ e,L.Refuses t db e := by
  obtain ⟨newId,fresh⟩ : ∃ newId,∀ l ∈ db.usageLedger,l.id ≠ newId := by
    refine ⟨(db.usageLedger.rows.map UsageLedger.id).sum + 1,fun l mem same => ?_⟩
    have le := List.single_le_sum (fun _ _ => Nat.zero_le _) _ (List.mem_map_of_mem (f := UsageLedger.id) mem)
    exact Nat.not_succ_le_self _ (same ▸ le)
  rcases result : (L.action t 0 newId).exec ⟨db,[]⟩ with ⟨e | id,s⟩
  · exact Or.inr ⟨e,0,newId,s,fresh,result⟩
  · exact Or.inl ⟨id,s.db,0,newId,s,fresh,result,rfl⟩

/-- The world always has an answer, so that a generator over it always ends. -/
theorem reactsTotal (w : World C T) (e : Effect C T) : ∃ a w',Reacts L faults w e a w' := by
  cases e with
  | pull item => exact ⟨_,_,.came w item⟩
  | send event => exact ⟨_,_,.resumed w event⟩
  | transact t shielded =>
    rcases commitsOrRefuses L t w.db with ⟨id,db',ok⟩ | ⟨e,fails⟩
    · exact ⟨_,_,.committed w shielded ok⟩
    · exact ⟨_,_,.refused w shielded fails⟩
  | stopHeartbeat => exact ⟨_,_,.stopped w⟩
  | releaseConcurrency => exact ⟨_,_,.released w⟩
end Environment

section Trace
variable {C T : Type}

def Note.event? : Note C T → Option StreamEvent
  | .sent event => some event
  | _ => none

def Note.settling : Note C T → Bool
  | .committed _ settles => settles
  | _ => false

def sent (trace : List (Note C T)) : List StreamEvent := trace.filterMap Note.event?

def settlements (trace : List (Note C T)) : List (Note C T) := trace.filter Note.settling

@[simp] theorem sentNoting {w : World C T} {n} : sent (w.noting n).trace = sent w.trace ++ n.event?.toList := by
  cases shown : n.event? <;> simp [sent,World.noting,shown]

@[simp] theorem sentAfter {L : Ledgering T} {w : World C T} {t db'} : sent (w.after L t db').trace = sent w.trace := by
  simp [sent,World.after,Note.event?]
end Trace

section Pending
variable {db db' : Db} {id : Uuid} {r r' : QuotaReservation}

theorem pendingInIff : pendingIn db id = true ↔ ∃ r ∈ db.quotaReservations,r.id = id ∧ r.status = .pending := by
  unfold pendingIn
  rw [Option.any_eq_true]
  constructor
  · rintro ⟨r,found,pending⟩
    obtain ⟨here,same⟩ := Quota.reservationFound.mp found
    exact ⟨r,here,same,of_decide_eq_true pending⟩
  · rintro ⟨r,here,same,pending⟩
    exact ⟨r,Quota.reservationFound.mpr ⟨here,same⟩,decide_eq_true pending⟩

theorem notPendingOf (here : r ∈ db.quotaReservations) (named : r.id = id) (closed : r.status ≠ .pending) :
    pendingIn db id = false := by
  unfold pendingIn
  rw [Quota.reservationFound.mpr ⟨here,named⟩]
  simpa using closed

theorem settlesClosed (moved : db.quotaReservations.Updated r r' db'.quotaReservations) (named : r.id = id)
    (pending : r.status = .pending) (closed : r'.status ≠ .pending) : settles id db db' = true := by
  have before : pendingIn db id = true := pendingInIff.mpr ⟨r,moved.here,named,pending⟩
  have after : pendingIn db' id = false := notPendingOf moved.memNew (moved.key.trans named) closed
  simp [settles,before,after]
end Pending
end SlaifGateway.Streaming
