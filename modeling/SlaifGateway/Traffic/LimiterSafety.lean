import SlaifGateway.Traffic.RateLimitService
import Mathlib.Tactic.Ring
import Mathlib.Algebra.BigOperators.Group.List.Basic

/-! Safety of the limiter over every run of its calls: slots stay within the concurrency
limit at every later instant, a window's admissions stay within the window's limits, and
a denied reservation writes nothing but the removal of expired slots. -/
namespace SlaifGateway.Traffic
open Library

def windowEnd (p : RateLimitPolicy) (w : Nat) : Nat := (w + 1) * p.windowSeconds * 1000

theorem windowSpans (p : RateLimitPolicy) (now : Nat) :
    now < windowEnd p (p.windowStart now) ∧ windowEnd p (p.windowStart now) ≤ now + p.windowSeconds * 1000 := by
  have positive := p.windowPositive
  unfold windowEnd RateLimitPolicy.windowStart
  have quotient := Nat.div_add_mod (now / 1000) p.windowSeconds
  have rest := Nat.mod_lt (now / 1000) positive
  have split : (now / 1000 / p.windowSeconds + 1) * p.windowSeconds =
      p.windowSeconds * (now / 1000 / p.windowSeconds) + p.windowSeconds := by ring
  rw [split]
  omega

section Tallies

-- Every counter holds its window's sum and outlives the window.
def Tallies (p : RateLimitPolicy) (t : Tally) (sum : Nat → Nat) : Prop :=
  ∀ w, (t w).elim 0 Counter.value = sum w ∧ ∀ c ∈ t w, windowEnd p w ≤ c.expiresAt

variable {p : RateLimitPolicy} {t : Tally} {sum : Nat → Nat} {now : Nat}

theorem tallyRead (h : Tallies p t sum) : t.read (p.windowStart now) now = sum (p.windowStart now) := by
  obtain ⟨value,lasts⟩ := h (p.windowStart now)
  rw [← value]
  unfold Tally.read
  cases stored : t (p.windowStart now) with
  | none => rfl
  | some c =>
    have live : now < c.expiresAt := Nat.lt_of_lt_of_le (windowSpans p now).1 (lasts c stored)
    simp [Option.filter,live]

theorem tallyIncr {amount} (h : Tallies p t sum) :
    Tallies p (t.incrBy (p.windowStart now) amount p.windowSeconds now)
      (fun w => sum w + if w = p.windowStart now then amount else 0) := by
  intro w
  unfold Tally.incrBy
  by_cases here : w = p.windowStart now
  · subst here
    rw [Function.update_self,tallyRead h]
    refine ⟨by simp,fun c stored => ?_⟩
    cases Option.some.inj stored
    exact (windowSpans p now).2
  · rw [Function.update_of_ne here]
    simpa [here] using h w
end Tallies

section Slots
variable {s : Limiter} {now n : Nat} {id : String}

def unexpired (s : Limiter) (t : Nat) : List Slot := s.slots.filter fun x => t < x.expiresAt

theorem unexpiredAntitone {t u} (le : t ≤ u) : (unexpired s u).length ≤ (unexpired s t).length := by
  refine (List.monotone_filter_right s.slots fun x live => ?_).length_le
  simp only [decide_eq_true_eq] at live ⊢
  omega

theorem purgeWithin (within : (unexpired s now).length ≤ n) : (s.purge now).slots.length ≤ n := by
  unfold Limiter.purge Limiter.liveSlots
  split
  · exact within
  · exact Nat.zero_le n

theorem addSlotLength {ttl grace} : (s.addSlot now id ttl grace).slots.length ≤ s.slots.length + 1 ∧
    (s.holds id = true → (s.addSlot now id ttl grace).slots.length ≤ s.slots.length) := by
  unfold Limiter.addSlot Limiter.holds
  refine ⟨Nat.succ_le_succ (List.length_filter_le _ _),fun held => ?_⟩
  obtain ⟨x,mem,same⟩ := List.any_eq_true.mp held
  have fewer : (s.slots.filter fun x => x.requestId ≠ id).length < s.slots.length := by
    refine List.length_filter_lt_length_iff_exists.mpr ⟨x,mem,?_⟩
    simpa using same
  exact fewer

theorem unexpiredLe {t} (le : s.slots.length ≤ n) : (unexpired s t).length ≤ n :=
  Nat.le_trans (List.length_filter_le _ _) le
end Slots

section Reserve
variable (p : RateLimitPolicy) (s : Limiter) (now : Nat) (id : String)

theorem admitRequests (tokens : Nat) : (admitting p s now id tokens).requests =
    if p.requestsPerMinute.isSome then s.requests.incrBy (p.windowStart now) 1 p.windowSeconds now else s.requests := by
  unfold admitting afterPurge Limiter.purge Limiter.addSlot
  split <;> split <;> split <;> rfl

theorem admitTokens (tokens : Nat) : (admitting p s now id tokens).tokens =
    if p.tokensPerMinute.isSome then s.tokens.incrBy (p.windowStart now) tokens p.windowSeconds now else s.tokens := by
  unfold admitting afterPurge Limiter.purge Limiter.addSlot
  split <;> split <;> split <;> rfl

theorem admitSlots (tokens : Nat) : (admitting p s now id tokens).slots =
    if p.concurrentRequests.isSome then ((s.purge now).addSlot now id p.ttlSeconds p.graceSeconds).slots
    else s.slots := by
  unfold admitting afterPurge Limiter.addSlot
  split <;> split <;> split <;> rfl

theorem afterPurgeTallies : (afterPurge p s now).requests = s.requests ∧ (afterPurge p s now).tokens = s.tokens := by
  unfold afterPurge Limiter.purge
  split <;> exact ⟨rfl,rfl⟩

theorem purgeSublist : (s.purge now).slots.Sublist s.slots := by
  unfold Limiter.purge Limiter.liveSlots
  split
  · exact List.filter_sublist
  · exact List.nil_sublist s.slots

theorem afterPurgeSublist : (afterPurge p s now).slots.Sublist s.slots := by
  unfold afterPurge
  split
  · exact purgeSublist s now
  · exact List.Sublist.refl s.slots

-- A reservation either leaves everything but expired slots, or has passed every check and admits.
theorem reserveCases (tokens : Int) :
    ((checkAndReserve p s now id tokens).1.isOk = false ∧
      ((checkAndReserve p s now id tokens).2 = s ∨ (checkAndReserve p s now id tokens).2 = afterPurge p s now)) ∨
    ((checkAndReserve p s now id tokens).1.isOk = true ∧ slotRefused p s now id = false ∧
      (∀ n ∈ p.requestsPerMinute, s.requests.read (p.windowStart now) now + 1 ≤ n) ∧
      (∀ n ∈ p.tokensPerMinute, s.tokens.read (p.windowStart now) now + tokens.toNat ≤ n) ∧
      (checkAndReserve p s now id tokens).2 = admitting p s now id tokens.toNat) := by
  unfold checkAndReserve
  cases validateInputs p id tokens with
  | error e => exact .inl ⟨rfl,.inl rfl⟩
  | ok _ =>
    by_cases limited : p.hasLimits = true
    · simp only [limited,if_true]
      unfold reserveScript
      by_cases refused : slotRefused p s now id = true
      · left
        have slotted : p.concurrentRequests.isSome = true := by
          unfold slotRefused at refused
          cases h : p.concurrentRequests with
          | none => simp [h] at refused
          | some n => rfl
        simp only [refused,if_true,afterPurge,slotted,or_true,and_true,concurrencyDenial]
        split <;> rfl
      · simp only [refused,Bool.false_eq_true,if_false]
        split
        · exact .inl ⟨rfl,.inr rfl⟩
        · rename_i requests
          split
          · exact .inl ⟨rfl,.inr rfl⟩
          · rename_i tokenRoom
            right
            refine ⟨rfl,by simp,fun n limit => ?_,fun n limit => ?_,rfl⟩
            · rw [Option.mem_def.mp limit] at requests
              simpa using requests
            · rw [Option.mem_def.mp limit] at tokenRoom
              simpa using tokenRoom
    · right
      simp only [RateLimitPolicy.hasLimits,Bool.or_eq_true,not_or,Bool.not_eq_true,Option.isSome_eq_false_iff,
        Option.isNone_iff_eq_none] at limited
      obtain ⟨⟨noRequests,noTokens⟩,noSlots⟩ := limited
      simp [RateLimitPolicy.hasLimits,slotRefused,admitting,afterPurge,noRequests,noTokens,noSlots,Except.isOk,Except.toBool]

theorem admitWithin {n} (limit : n ∈ p.concurrentRequests) (room : slotRefused p s now id = false) (tokens : Nat)
    (within : (unexpired s now).length ≤ n) : (admitting p s now id tokens).slots.length ≤ n := by
  have limitSome := Option.mem_def.mp limit
  rw [admitSlots,limitSome,Option.isSome_some,if_pos rfl]
  have purged := purgeWithin within
  have grown : ((s.purge now).addSlot now id p.ttlSeconds p.graceSeconds).slots.length ≤
      (s.purge now).slots.length + 1 := addSlotLength.1
  by_cases held : (s.purge now).holds id = true
  · exact Nat.le_trans (addSlotLength.2 held) purged
  · have space : (s.purge now).slots.length < n := by
      simpa [slotRefused,limitSome,held] using room
    omega
end Reserve

section Heartbeat
variable (p : RateLimitPolicy) (s : Limiter) (now : Nat) (id : String)

theorem heartbeatTallies : (heartbeatConcurrency p s now id).2.requests = s.requests ∧
    (heartbeatConcurrency p s now id).2.tokens = s.tokens := by
  unfold heartbeatConcurrency heartbeatScript Limiter.purge Limiter.addSlot
  split
  · exact ⟨rfl,rfl⟩
  · split
    · exact ⟨rfl,rfl⟩
    · split
      · exact ⟨rfl,rfl⟩
      · split <;> rename_i result <;> split at result <;> cases result <;> exact ⟨rfl,rfl⟩

theorem heartbeatWithin {n} (within : (unexpired s now).length ≤ n) :
    (unexpired (heartbeatConcurrency p s now id).2 now).length ≤ n := by
  have purged := purgeWithin within
  unfold heartbeatConcurrency heartbeatScript
  split
  · exact within
  · split
    · exact within
    · split
      · exact within
      · split <;> rename_i result <;> split at result <;> cases result
        · exact unexpiredLe purged
        · rename_i held
          exact unexpiredLe (Nat.le_trans (addSlotLength.2 held) purged)
end Heartbeat

section Runs
variable (p : RateLimitPolicy)

-- The window and the estimated tokens of an admitted reservation.
def admission (c : Commit Limiter (Nat × Call)) : Option (Nat × Nat) :=
  match c.op with
  | (now,.checkAndReserve id tokens) =>
    if (checkAndReserve p c.before now id tokens).1.isOk then some (p.windowStart now,tokens.toNat) else none
  | _ => none

def admittedIn (log : List (Commit Limiter (Nat × Call))) (w : Nat) : List Nat :=
  ((log.filterMap (admission p)).filter fun a => a.1 = w).map Prod.snd

structure Safe (s : Limiter) (log : List (Commit Limiter (Nat × Call))) : Prop where
  slots : ∀ n ∈ p.concurrentRequests, (unexpired s s.clock).length ≤ n
  requests : ∀ n ∈ p.requestsPerMinute, Tallies p s.requests (fun w => (admittedIn p log w).length) ∧
    ∀ w, (admittedIn p log w).length ≤ n
  tokens : ∀ n ∈ p.tokensPerMinute, Tallies p s.tokens (fun w => (admittedIn p log w).sum) ∧
    ∀ w, (admittedIn p log w).sum ≤ n

variable {p} {s : Limiter} {log : List (Commit Limiter (Nat × Call))} {now : Nat}

theorem admittedNone {c} (none : admission p c = none) (w : Nat) : admittedIn p (log ++ [c]) w = admittedIn p log w := by
  simp [admittedIn,none]

theorem admittedSome {c tokens} (some : admission p c = some (p.windowStart now,tokens)) (w : Nat) :
    admittedIn p (log ++ [c]) w = admittedIn p log w ++ if w = p.windowStart now then [tokens] else [] := by
  by_cases here : w = p.windowStart now
  · simp [admittedIn,some,here]
  · simp [admittedIn,some,here,Ne.symm here]

theorem safeIdle {s' : Limiter} {c} (safe : Safe p s log) (later : s.clock ≤ now) (clock : s'.clock = now)
    (none : admission p c = none) (requests : s'.requests = s.requests) (tokens : s'.tokens = s.tokens)
    (slots : ∀ n ∈ p.concurrentRequests, (unexpired s now).length ≤ n → (unexpired s' now).length ≤ n) :
    Safe p s' (log ++ [c]) := by
  refine ⟨fun n limit => ?_,?_,?_⟩
  · rw [clock]
    exact slots n limit (Nat.le_trans (unexpiredAntitone later) (safe.slots n limit))
  · simpa only [admittedNone none,requests] using safe.requests
  · simpa only [admittedNone none,tokens] using safe.tokens

theorem sublistWithin {s' : Limiter} {n t} (fewer : s'.slots.Sublist s.slots) (within : (unexpired s t).length ≤ n) :
    (unexpired s' t).length ≤ n :=
  Nat.le_trans (fewer.filter _).length_le within

theorem reserveSafe {id tokens} (safe : Safe p s log) (later : s.clock ≤ now) :
    Safe p { (checkAndReserve p s now id tokens).2 with clock := now }
      (log ++ [⟨s,(now,.checkAndReserve id tokens),{ (checkAndReserve p s now id tokens).2 with clock := now }⟩]) := by
  rcases reserveCases p s now id tokens with ⟨denied,kept⟩ | ⟨allowed,room,requestRoom,tokenRoom,after⟩
  · have nothing : ∀ s', admission p ⟨s,(now,.checkAndReserve id tokens),s'⟩ = none := by
      intro s'
      simp [admission,denied]
    rcases kept with kept | kept
    · rw [kept]
      exact safeIdle safe later rfl (nothing _) rfl rfl fun n _ within => within
    · rw [kept]
      exact safeIdle safe later rfl (nothing _) (afterPurgeTallies p s now).1 (afterPurgeTallies p s now).2
        fun n _ within => sublistWithin (afterPurgeSublist p s now) within
  · have one : ∀ s', admission p ⟨s,(now,.checkAndReserve id tokens),s'⟩ = some (p.windowStart now,tokens.toNat) := by
      intro s'
      simp [admission,allowed]
    rw [after]
    refine ⟨fun n limit => ?_,fun n limit => ?_,fun n limit => ?_⟩
    · have within := Nat.le_trans (unexpiredAntitone later) (safe.slots n limit)
      exact unexpiredLe (admitWithin p s now id limit room tokens.toNat within)
    · obtain ⟨tallies,bound⟩ := safe.requests n limit
      have space := requestRoom n limit
      rw [tallyRead tallies] at space
      simp only [admitRequests,Option.mem_def.mp limit,Option.isSome_some,if_true,admittedSome (one _)]
      refine ⟨?_,fun w => ?_⟩
      · convert tallyIncr tallies using 2
        rw [List.length_append]
        split <;> rfl
      · rw [List.length_append]
        split
        · subst w
          exact space
        · exact bound w
    · obtain ⟨tallies,bound⟩ := safe.tokens n limit
      have space := tokenRoom n limit
      rw [tallyRead tallies] at space
      simp only [admitTokens,Option.mem_def.mp limit,Option.isSome_some,if_true,admittedSome (one _)]
      refine ⟨?_,fun w => ?_⟩
      · convert tallyIncr tallies using 2
        rw [List.sum_append]
        split <;> simp
      · rw [List.sum_append]
        split
        · subst w
          simpa using space
        · simpa using bound w

theorem stepSafe {call s'} (safe : Safe p s log) (moved : next p s (now,call) = some s') :
    Safe p s' (log ++ [⟨s,(now,call),s'⟩]) := by
  unfold next at moved
  split at moved
  · rename_i later
    cases moved
    cases call with
    | checkAndReserve id tokens => exact reserveSafe safe later
    | heartbeatConcurrency id =>
      obtain ⟨requests,tokens⟩ := heartbeatTallies p s now id
      exact safeIdle safe later rfl rfl requests tokens fun n _ within => heartbeatWithin p s now id within
    | releaseConcurrency id =>
      refine safeIdle safe later rfl rfl ?_ ?_ fun n _ within => sublistWithin ?_ within
      all_goals simp only [respond,releaseConcurrency,Limiter.removeSlot]; split
      · rfl
      · rfl
      · rfl
      · rfl
      · exact List.Sublist.refl s.slots
      · exact List.filter_sublist
    | cleanupExpiredConcurrency =>
      exact safeIdle safe later rfl rfl rfl rfl fun n _ within => sublistWithin (purgeSublist s now) within
  · cases moved

theorem runSafe (p : RateLimitPolicy) (calls : List (Nat × Call)) : Safe p (run p calls) (commits p calls) := by
  have start : Safe p Limiter.empty [] := by
    refine ⟨fun n _ => Nat.zero_le n,fun n _ => ⟨fun w => ⟨rfl,?_⟩,fun w => Nat.zero_le n⟩,
      fun n _ => ⟨fun w => ⟨rfl,?_⟩,fun w => Nat.zero_le n⟩⟩ <;> intro c stored <;> cases stored
  exact Runs.historyRun (Safe p) (fun s log o s' safe (_ : True) moved => stepSafe safe moved) start
    (Runs.alongForall fun _ _ _ => trivial)

def isDenied (p : RateLimitPolicy) (c : Commit Limiter (Nat × Call)) : Prop :=
  ∃ id tokens, c.op.2 = .checkAndReserve id tokens ∧ (checkAndReserve p c.before c.op.1 id tokens).1.isOk = false

theorem deniedWritesNothing (p : RateLimitPolicy) (calls : List (Nat × Call)) :
    ∀ c ∈ commits p calls, isDenied p c → c.after.requests = c.before.requests ∧ c.after.tokens = c.before.tokens ∧
      c.after.slots.Sublist c.before.slots := by
  refine Runs.commitsForall (fun _ => True) _ (fun s o s' _ (_ : True) moved => ⟨trivial,?_⟩) trivial
    (Runs.alongForall fun _ _ _ => trivial)
  rintro ⟨id,tokens,op,denied⟩
  obtain ⟨now,call⟩ := o
  cases op
  unfold next at moved
  split at moved
  · cases moved
    rcases reserveCases p s now id tokens with ⟨_,kept⟩ | ⟨allowed,_⟩
    · simp only [respond]
      rcases kept with kept | kept
      · rw [kept]
        exact ⟨rfl,rfl,List.Sublist.refl s.slots⟩
      · rw [kept]
        exact ⟨(afterPurgeTallies p s now).1,(afterPurgeTallies p s now).2,afterPurgeSublist p s now⟩
    · simp [denied] at allowed
  · cases moved

end Runs
end SlaifGateway.Traffic
