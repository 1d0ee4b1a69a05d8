import SlaifGateway.Replay.Candidates
import SlaifGateway.Library.Outcome
import Mathlib.Data.List.Induction
import Mathlib.Data.List.Perm.Basic

/-! The reference table against the history that wrote it: each row is the latest reference
of one item under one secret, so a replay is authorized exactly when every candidate has
one live reference of that kind and the reference carries the candidate's call and tool. -/
namespace SlaifGateway.Replay
open Library Store

-- What a history persisted, without digests.
structure Reference where
  owner : Uuid
  source : Source
  candidate : Candidate
  version : Nat
  secret : String
  createdAt : Time
  expiresAt : Time
  deriving DecidableEq, Repr

namespace Reference

def sameItem (a b : Reference) : Bool :=
  a.owner = b.owner && a.candidate.itemKind = b.candidate.itemKind && a.candidate.itemId = b.candidate.itemId &&
    a.candidate.encryptedContent = b.candidate.encryptedContent && a.secret = b.secret

-- The candidate names this reference: by its item, or by its call when it has no item id.
def names (r : Reference) (c : Candidate) : Bool :=
  r.candidate.itemKind = c.itemKind &&
    if c.itemId.isNone then r.candidate.callId = c.callId
    else r.candidate.itemId = c.itemId && r.candidate.encryptedContent = c.encryptedContent

def carries (r : Reference) (c : Candidate) : Bool :=
  r.candidate.callId = c.callId && r.candidate.toolNamespace = c.toolNamespace && r.candidate.toolName = c.toolName

def liveFor (r : Reference) (key : Uuid) (now : Time) : Bool := r.owner = key && now < r.expiresAt
end Reference

def remember (store : List Reference) (r : Reference) : List Reference :=
  (store.filter fun old => ¬old.sameItem r) ++ [r]

-- The last reference of each item under each secret.
def latest (refs : List Reference) : List Reference := refs.foldl remember []

def PersistCall.reference (call : PersistCall) (version : Nat) (secret : String) (c : Candidate) : Reference :=
  ⟨call.gatewayKeyId,call.source,c,version,secret,call.now,call.expiresAt⟩

section Refinement
variable {δ : Type} (hmac : String → String → δ) (settings : Settings)

def persistedBy (c : Commit (List (CodexReplayReference δ)) PersistCall) : List Reference :=
  match c.op.activeHmacSecret settings with
  | .ok (version,secret) => c.op.candidates.map (c.op.reference version secret)
  | .error _ => []

def persisted [DecidableEq δ] (calls : List PersistCall) : List Reference :=
  (Runs.commits (next hmac settings) [] calls).flatMap (persistedBy settings)

def Reference.row (r : Reference) : CodexReplayReference δ :=
  ⟨r.owner,r.source,r.candidate.itemKind,itemDigest hmac r.candidate r.secret,callDigest hmac r.candidate r.secret,r.version,
    r.candidate.toolNamespace,r.candidate.toolName,r.createdAt,r.expiresAt⟩

structure Reference.Genuine (r : Reference) : Prop where
  formed : WellFormed false r.candidate
  secret : settings.hmacSecret r.version = some r.secret

theorem latestAppend (refs : List Reference) (r : Reference) : latest (refs ++ [r]) = remember (latest refs) r := by
  simp [latest,List.foldl_append]

theorem latestSubset (refs : List Reference) : ∀ r ∈ latest refs, r ∈ refs := by
  induction refs using List.reverseRecOn with
  | nil => simp [latest]
  | append_singleton refs last ih =>
    intro r mem
    rw [latestAppend,remember,List.mem_append] at mem
    rcases mem with mem | mem
    · exact List.mem_append_left _ (ih r (List.mem_filter.mp mem).1)
    · exact List.mem_append_right _ mem

variable {hmac settings}

theorem itemDigestInj (injective : Function.Injective2 hmac) {c d : Candidate} {s t : String}
    (kind : c.itemKind = d.itemKind) (digest : itemDigest hmac c s = itemDigest hmac d t) :
    s = t ∧ c.itemId.getD "" = d.itemId.getD "" ∧
      (c.itemKind = .compaction → c.encryptedContent.getD "" = d.encryptedContent.getD "") := by
  obtain ⟨secrets,tokens⟩ := injective digest
  exact ⟨secrets,itemTokenInj kind tokens⟩

theorem contentEq {allow other} {c d : Candidate} (left : WellFormed allow c) (right : WellFormed other d)
    (kind : c.itemKind = d.itemKind)
    (same : c.itemKind = .compaction → c.encryptedContent.getD "" = d.encryptedContent.getD "") :
    c.encryptedContent = d.encryptedContent := by
  have leftSome := left.contentSome
  have rightSome := right.contentSome
  rw [← kind] at rightSome
  by_cases compaction : c.itemKind = .compaction
  · obtain ⟨a,ha⟩ := Option.isSome_iff_exists.mp (leftSome.mpr compaction)
    obtain ⟨b,hb⟩ := Option.isSome_iff_exists.mp (rightSome.mpr compaction)
    simpa [ha,hb] using same compaction
  · have leftNone : c.encryptedContent = none := by simpa [compaction] using leftSome
    have rightNone : d.encryptedContent = none := by simpa [compaction] using rightSome
    rw [leftNone,rightNone]

theorem itemDigestIff (injective : Function.Injective2 hmac) {c d : Candidate} {s t : String} {id}
    (left : WellFormed false c) {allow} (right : WellFormed allow d) (present : d.itemId = some id)
    (kind : c.itemKind = d.itemKind) :
    itemDigest hmac c s = itemDigest hmac d t ↔
      s = t ∧ c.itemId = d.itemId ∧ c.encryptedContent = d.encryptedContent := by
  constructor
  · intro digest
    obtain ⟨secrets,ids,contents⟩ := itemDigestInj injective kind digest
    obtain ⟨own,stored⟩ := left.idSome
    refine ⟨secrets,?_,contentEq left right kind contents⟩
    simpa [stored,present] using ids
  · rintro ⟨rfl,ids,contents⟩
    simp [itemDigest,itemToken,kind,ids,contents]

theorem callDigestIff (injective : Function.Injective2 hmac) {c d : Candidate} {s : String}
    (kind : c.itemKind = d.itemKind) : callDigest hmac c s = callDigest hmac d s ↔ c.callId = d.callId := by
  unfold callDigest
  rw [kind]
  refine (Option.map_injective fun a b same => ?_).eq_iff
  exact callTokenInj (injective same).2

theorem rowUpsert [DecidableEq δ] (injective : Function.Injective2 hmac) {store : List Reference} {r : Reference}
    (genuine : ∀ old ∈ store, old.Genuine settings) (new : r.Genuine settings) :
    upsert (store.map (Reference.row hmac)) (r.row hmac) = (remember store r).map (Reference.row hmac) := by
  obtain ⟨id,present⟩ := new.formed.idSome
  unfold upsert remember
  rw [List.filter_map,List.map_append]
  congr 2
  refine List.filter_congr fun old mem => ?_
  rw [Function.comp_apply,decide_eq_decide,not_iff_not]
  simp only [Reference.row,Reference.sameItem]
  by_cases kind : old.candidate.itemKind = r.candidate.itemKind
  · rw [itemDigestIff injective (genuine old mem).formed new.formed present kind]
    simp only [kind,decide_true,Bool.and_true,true_and,Bool.and_eq_true,decide_eq_true_eq]
    tauto
  · simp [kind]

variable [DecidableEq δ]

theorem rowUpserts (injective : Function.Injective2 hmac) {new store : List Reference}
    (genuine : ∀ old ∈ store, old.Genuine settings) (added : ∀ r ∈ new, r.Genuine settings) :
    (new.map (Reference.row hmac)).foldl upsert (store.map (Reference.row hmac)) =
      (new.foldl remember store).map (Reference.row hmac) := by
  induction new generalizing store with
  | nil => rfl
  | cons r rest ih =>
    have head := added r List.mem_cons_self
    rw [List.map_cons,List.foldl_cons,List.foldl_cons,rowUpsert injective genuine head]
    refine ih (fun old mem => ?_) fun x mem => added x (List.mem_cons_of_mem _ mem)
    rcases List.mem_append.mp mem with mem | mem
    · exact genuine old (List.mem_filter.mp mem).1
    · rw [List.mem_singleton.mp mem]
      exact head

theorem activeSecretConfigured {call : PersistCall} {version secret}
    (active : call.activeHmacSecret settings = .ok (version,secret)) : settings.hmacSecret version = some secret := by
  unfold PersistCall.activeHmacSecret at active
  split at active
  · rename_i v _
    cases stored : settings.hmacSecret (v + 1) with
    | none => simp [stored] at active
    | some s =>
      simp only [stored,Option.elim_some,Except.ok.injEq,Prod.mk.injEq] at active
      rw [← active.1,← active.2,stored]
  · cases active

theorem persistCases {rows rows' : List (CodexReplayReference δ)} {call : PersistCall}
    (stored : persistValidatedReferences hmac settings rows call = .ok rows') :
    (∀ c ∈ call.candidates, WellFormed false c) ∧ (call.candidates = [] ∧ rows' = rows ∨
      ∃ version secret, call.activeHmacSecret settings = .ok (version,secret) ∧
        rows' = (call.candidates.map (call.record hmac version secret)).foldl upsert rows) := by
  unfold persistValidatedReferences at stored
  cases valid : validatedCandidates false call.candidates with
  | error e => simp [valid,bind,Except.bind] at stored
  | ok _ =>
    refine ⟨(validatedIff.mp valid).1,?_⟩
    simp only [valid,bind,Except.bind,pure,Except.pure,throw,throwThe,MonadExceptOf.throw] at stored
    split at stored
    · rename_i none
      exact .inl ⟨List.isEmpty_iff.mp none,(Except.ok.inj stored).symm⟩
    · right
      split at stored
      · cases stored
      · split at stored
        · cases stored
        · split at stored
          · cases stored
          · rename_i active
            split at stored
            · cases stored
            · rename_i after upserted
              split at stored
              · cases stored
                refine ⟨_,_,active,?_⟩
                unfold upsertMany at upserted
                split at upserted
                · exact (Except.ok.inj upserted).symm
                · cases upserted
              · cases stored

-- The table is the latest references, digested.
theorem referencesLatest (injective : Function.Injective2 hmac) (calls : List PersistCall) :
    references hmac settings calls = (latest (persisted hmac settings calls)).map (Reference.row hmac) ∧
      ∀ r ∈ persisted hmac settings calls, r.Genuine settings := by
  refine Runs.historyRun (fun rows log => rows = (latest (log.flatMap (persistedBy settings))).map (Reference.row hmac) ∧
    ∀ r ∈ log.flatMap (persistedBy settings), r.Genuine settings) ?_ ⟨rfl,by simp⟩
    (Runs.alongForall fun _ _ _ => trivial)
  rintro rows log call rows' ⟨refines,genuine⟩ (_ : True) moved
  have stored : persistValidatedReferences hmac settings rows call = .ok rows' := by
    unfold next at moved
    cases result : persistValidatedReferences hmac settings rows call with
    | error e => simp [result,Except.toOption] at moved
    | ok r => simpa [result,Except.toOption] using moved
  obtain ⟨formed,kept | ⟨version,secret,active,upserted⟩⟩ := persistCases stored
  · obtain ⟨empty,same⟩ := kept
    have nothing : persistedBy settings ⟨rows,call,rows'⟩ = [] := by
      unfold persistedBy
      split <;> simp [empty]
    simp only [List.flatMap_append,List.flatMap_singleton,nothing,List.append_nil]
    exact ⟨by rw [same,refines],genuine⟩
  · have added : persistedBy settings ⟨rows,call,rows'⟩ = call.candidates.map (call.reference version secret) := by
      simp [persistedBy,active]
    have new : ∀ r ∈ call.candidates.map (call.reference version secret), r.Genuine settings := by
      intro r mem
      obtain ⟨c,inCall,rfl⟩ := List.mem_map.mp mem
      exact ⟨formed c inCall,activeSecretConfigured active⟩
    have records : call.candidates.map (call.record hmac version secret) =
        (call.candidates.map (call.reference version secret)).map (Reference.row hmac) := by
      rw [List.map_map]
      rfl
    simp only [List.flatMap_append,List.flatMap_singleton,added]
    refine ⟨?_,fun r mem => (List.mem_append.mp mem).elim (genuine r) (new r)⟩
    have old := fun r mem => genuine r (latestSubset _ r mem)
    rw [upserted,records,refines,rowUpserts injective old new]
    simp only [latest,List.foldl_append]
end Refinement

section Lookup

-- Searching the rows version by version finds each row once, under its own version.
theorem searchPerm {α β : Type} [DecidableEq β] (f : α → β) (p : β → α → Bool) (rows : List α) {versions : List β}
    (nodup : versions.Nodup) :
    (versions.flatMap fun v => rows.filter fun r => f r = v && p v r).Perm
      (rows.filter fun r => f r ∈ versions && p (f r) r) := by
  induction versions with
  | nil => simp
  | cons v rest ih =>
    obtain ⟨fresh,nodup⟩ := List.nodup_cons.mp nodup
    have split := (List.filter_append_perm (fun r => f r = v) (rows.filter fun r => f r ∈ v :: rest && p (f r) r)).symm
    rw [List.flatMap_cons]
    refine (List.Perm.append ?_ ((ih nodup).trans ?_)).trans split.symm
    · rw [List.filter_filter]
      refine List.Perm.of_eq (List.filter_congr fun r _ => ?_)
      by_cases here : f r = v
      · simp [here]
      · simp [here]
    · rw [List.filter_filter]
      refine List.Perm.of_eq (List.filter_congr fun r _ => ?_)
      by_cases here : f r = v
      · simp [here,fresh]
      · simp [here]
end Lookup

section Verify
variable {δ : Type} {hmac : String → String → δ} {settings : Settings}
  {rows : List (CodexReplayReference δ)} {key : Uuid} {now : Time} {cs : List Candidate}

theorem versionsNodup {kinds} : (listActiveHmacVersionsForKey rows key now kinds).Nodup := by
  unfold listActiveHmacVersionsForKey
  exact (List.perm_insertionSort _ _).nodup_iff.mpr (List.nodup_dedup _)

theorem memVersions {kinds v} : v ∈ listActiveHmacVersionsForKey rows key now kinds ↔
    ∃ r ∈ activeRows rows key now, r.itemKind ∈ kinds ∧ r.hmacKeyVersion = v := by
  unfold listActiveHmacVersionsForKey
  rw [(List.perm_insertionSort _ _).mem_iff]
  simp [and_assoc]

variable [DecidableEq δ]

def secretOf (settings : Settings) (version : Nat) : String := (settings.hmacSecret version).getD ""

theorem secretsConfigured {versions : List Nat} (known : ∀ v ∈ versions, (settings.hmacSecret v).isSome = true) :
    secretsFor settings versions = .ok (versions.map fun v => (v,secretOf settings v)) := by
  refine mapMOk fun v mem => ?_
  obtain ⟨secret,stored⟩ := Option.isSome_iff_exists.mp (known v mem)
  simp [stored,secretOf]

-- The rows that one candidate finds, each under the secret of its own version.
def found (hmac : String → String → δ) (settings : Settings) (rows : List (CodexReplayReference δ)) (key : Uuid) (now : Time)
    (c : Candidate) : List (CodexReplayReference δ) :=
  (activeRows rows key now).filter fun row => rowMatches hmac c row.hmacKeyVersion (secretOf settings row.hmacKeyVersion) row

theorem rowMatchesVersion {c : Candidate} {v secret} {row : CodexReplayReference δ} (hit : rowMatches hmac c v secret row = true) :
    row.itemKind = c.itemKind ∧ row.hmacKeyVersion = v := by
  simp only [rowMatches,Bool.and_eq_true,decide_eq_true_eq] at hit
  exact hit.1

theorem itemRowsComplete {secrets : List (Nat × String)} {c : Candidate} {id : String} {v secret} (mem : c ∈ cs)
    (pair : (v,secret) ∈ secrets) (present : c.itemId = some id) :
    (listActiveByItemDigests rows key now (itemDigestCandidates hmac secrets cs)).filter (rowMatches hmac c v secret) =
      (activeRows rows key now).filter (rowMatches hmac c v secret) := by
  unfold listActiveByItemDigests
  rw [List.filter_filter]
  refine List.filter_congr fun row _ => ?_
  cases hit : rowMatches hmac c v secret row with
  | false => rfl
  | true =>
    have kind := (rowMatchesVersion hit).1
    have digest : row.itemIdHmac = itemDigest hmac c secret := by
      simpa [rowMatches,kind,(rowMatchesVersion hit).2,present] using hit
    have listed : (row.itemKind,row.itemIdHmac) ∈ itemDigestCandidates hmac secrets cs := by
      unfold itemDigestCandidates
      rw [List.mem_flatMap]
      refine ⟨c,mem,List.mem_flatMap.mpr ⟨(v,secret),pair,?_⟩⟩
      simp [present,kind,digest]
    simp [listed]

theorem callRowsComplete {secrets : List (Nat × String)} {c : Candidate} {v secret} (mem : c ∈ cs)
    (pair : (v,secret) ∈ secrets) (absent : c.itemId = none) (tool : c.itemKind.isTool = true) :
    (listActiveByCallDigests rows key now (callDigestCandidates hmac secrets cs)).filter (rowMatches hmac c v secret) =
      (activeRows rows key now).filter (rowMatches hmac c v secret) := by
  unfold listActiveByCallDigests
  rw [List.filter_filter]
  refine List.filter_congr fun row _ => ?_
  cases hit : rowMatches hmac c v secret row with
  | false => rfl
  | true =>
    have kind := (rowMatchesVersion hit).1
    have digest : row.callIdHmac.isSome = true ∧ row.callIdHmac = callDigest hmac c secret := by
      simpa [rowMatches,kind,(rowMatchesVersion hit).2,absent] using hit
    obtain ⟨d,stored⟩ := Option.isSome_iff_exists.mp digest.1
    have listed : (row.itemKind,d) ∈ callDigestCandidates hmac secrets cs := by
      unfold callDigestCandidates
      rw [List.mem_flatMap]
      refine ⟨c,mem,List.mem_flatMap.mpr ⟨(v,secret),pair,?_⟩⟩
      simp [tool,kind,← digest.2,stored]
    simp [listed,stored]

theorem matchesPerm {allow} {c} (formed : WellFormed allow c) (mem : c ∈ cs) {versions}
    (listed : versions = listActiveHmacVersionsForKey rows key now (cs.map Candidate.itemKind)) {secrets : List (Nat × String)}
    (secretsEq : secrets = versions.map fun v => (v,secretOf settings v)) :
    (candidateMatches hmac secrets (listActiveByItemDigests rows key now (itemDigestCandidates hmac secrets cs))
      (listActiveByCallDigests rows key now (callDigestCandidates hmac secrets cs)) c).Perm
      ((found hmac settings rows key now c).map fun row => (row,secretOf settings row.hmacKeyVersion)) := by
  have searched : candidateMatches hmac secrets
      (listActiveByItemDigests rows key now (itemDigestCandidates hmac secrets cs))
      (listActiveByCallDigests rows key now (callDigestCandidates hmac secrets cs)) c =
      (versions.flatMap fun v => (activeRows rows key now).filter fun r =>
        r.hmacKeyVersion = v && rowMatches hmac c v (secretOf settings v) r).map
        fun row => (row,secretOf settings row.hmacKeyVersion) := by
    unfold candidateMatches
    rw [List.map_flatMap]
    conv_lhs => rw [secretsEq,List.flatMap_map]
    refine List.flatMap_congr fun v inVersions => ?_
    have pair : (v,secretOf settings v) ∈ secrets := by
      rw [secretsEq]
      exact List.mem_map.mpr ⟨v,inVersions,rfl⟩
    have complete : (if c.itemId.isNone = true
        then listActiveByCallDigests rows key now (callDigestCandidates hmac secrets cs)
        else listActiveByItemDigests rows key now (itemDigestCandidates hmac secrets cs)).filter
          (rowMatches hmac c v (secretOf settings v)) =
        (activeRows rows key now).filter (rowMatches hmac c v (secretOf settings v)) := by
      cases present : c.itemId with
      | none => exact callRowsComplete mem pair present (formed.idless present).2
      | some id => exact itemRowsComplete mem pair present
    rw [secretsEq] at complete
    rw [complete]
    have own : ∀ r : CodexReplayReference δ, rowMatches hmac c v (secretOf settings v) r =
        (r.hmacKeyVersion = v && rowMatches hmac c v (secretOf settings v) r) := by
      intro r
      by_cases version : r.hmacKeyVersion = v
      · simp [version]
      · simp [rowMatches,version]
    rw [List.filter_congr fun r _ => own r]
    refine List.map_congr_left fun r hit => ?_
    have version : r.hmacKeyVersion = v := by
      have := (List.mem_filter.mp hit).2
      simp only [Bool.and_eq_true,decide_eq_true_eq] at this
      exact this.1
    rw [version]
  rw [searched]
  refine List.Perm.map _ ?_
  have nodup : versions.Nodup := listed ▸ versionsNodup
  refine (searchPerm CodexReplayReference.hmacKeyVersion (fun v r => rowMatches hmac c v (secretOf settings v) r)
    (activeRows rows key now) nodup).trans (List.Perm.of_eq ?_)
  unfold found
  refine List.filter_congr fun row active => ?_
  cases hit : rowMatches hmac c row.hmacKeyVersion (secretOf settings row.hmacKeyVersion) row with
  | false => simp
  | true =>
    have kind := (rowMatchesVersion hit).1
    have searchedVersion : row.hmacKeyVersion ∈ versions := by
      rw [listed,memVersions]
      exact ⟨row,active,by rw [kind]; exact List.mem_map.mpr ⟨c,mem,rfl⟩,rfl⟩
    simp [searchedVersion]

theorem authorizeIff {secrets : List (Nat × String)} {itemRows callRows} {c : Candidate}
    {hits : List (CodexReplayReference δ)}
    (perm : (candidateMatches hmac secrets itemRows callRows c).Perm
      (hits.map fun row => (row,secretOf settings row.hmacKeyVersion))) :
    (authorize hmac secrets itemRows callRows c).isOk = true ↔
      ∃ row, hits = [row] ∧ validateRowMatchesCandidate hmac row c (secretOf settings row.hmacKeyVersion) = true := by
  unfold authorize
  rcases hits with _ | ⟨row,_ | ⟨other,rest⟩⟩
  · rw [List.perm_nil.mp perm]
    simp [Except.isOk,Except.toBool]
  · rw [List.perm_singleton.mp perm]
    cases valid : validateRowMatchesCandidate hmac row c (secretOf settings row.hmacKeyVersion) <;>
      simp [valid,Except.isOk,Except.toBool]
  · have two := perm.length_eq
    generalize candidateMatches hmac secrets itemRows callRows c = hitList at two ⊢
    rcases hitList with _ | ⟨first,_ | ⟨second,more⟩⟩
    · cases two
    · cases two
    · simp [Except.isOk,Except.toBool]

theorem verifyIff {allow} (configured : ∀ r ∈ rows, (settings.hmacSecret r.hmacKeyVersion).isSome = true) :
    (verifyOwnedReplay hmac settings rows key now cs allow).isOk = true ↔
      validatedCandidates allow cs = .ok () ∧
      (cs ≠ [] → (listActiveHmacVersionsForKey rows key now (cs.map Candidate.itemKind)).length ≤ 8) ∧
      ∀ c ∈ cs, ∃ row, found hmac settings rows key now c = [row] ∧
        validateRowMatchesCandidate hmac row c (secretOf settings row.hmacKeyVersion) = true := by
  unfold verifyOwnedReplay
  cases valid : validatedCandidates allow cs with
  | error e => simp [bind,Except.bind,Except.isOk,Except.toBool]
  | ok _ =>
    have formed := (validatedIff.mp valid).1
    simp only [bind,Except.bind,pure,Except.pure,throw,throwThe,MonadExceptOf.throw,true_and]
    cases cs with
    | nil => simp [Except.isOk,Except.toBool]
    | cons first rest =>
      simp only [List.isEmpty_cons,Bool.false_eq_true,if_false,ne_eq,reduceCtorEq,not_false_eq_true,forall_const]
      generalize listed : listActiveHmacVersionsForKey rows key now ((first :: rest).map Candidate.itemKind) = versions
      by_cases few : versions.isEmpty = true ∨ 8 < versions.length
      · simp only [Bool.or_eq_true,decide_eq_true_eq,few,if_true,Except.isOk,Except.toBool,Bool.false_eq_true,false_iff]
        rintro ⟨bounded,each⟩
        rcases few with none | many
        · obtain ⟨row,only,-⟩ := each first List.mem_cons_self
          have hit : row ∈ found hmac settings rows key now first := by simp [only]
          obtain ⟨active,matching⟩ := List.mem_filter.mp hit
          have searched : row.hmacKeyVersion ∈ versions := by
            rw [← listed,memVersions]
            exact ⟨row,active,by rw [(rowMatchesVersion matching).1]; exact List.mem_cons_self,rfl⟩
          rw [List.isEmpty_iff.mp none] at searched
          cases searched
        · omega
      · simp only [Bool.or_eq_true,decide_eq_true_eq,few,if_false]
        have known : ∀ v ∈ versions, (settings.hmacSecret v).isSome = true := by
          intro v inVersions
          rw [← listed,memVersions] at inVersions
          obtain ⟨r,active,-,rfl⟩ := inVersions
          exact configured r (List.mem_filter.mp active).1
        rw [secretsConfigured known]
        simp only [mapMIsOk]
        have bounded : versions.length ≤ 8 := by
          push Not at few
          omega
        simp only [bounded,true_and]
        refine forall₂_congr fun c mem => ?_
        exact authorizeIff (matchesPerm (formed c mem) mem listed.symm rfl)

-- The live latest references that a candidate names.
def liveReferences (refs : List Reference) (key : Uuid) (now : Time) (c : Candidate) : List Reference :=
  (latest refs).filter fun r => r.liveFor key now && r.names c

theorem foundReferences (injective : Function.Injective2 hmac) {refs : List Reference}
    (genuine : ∀ r ∈ refs, r.Genuine settings) {allow} {c} (formed : WellFormed allow c) :
    found hmac settings ((latest refs).map (Reference.row hmac)) key now c =
      (liveReferences refs key now c).map (Reference.row hmac) := by
  unfold found activeRows liveReferences
  rw [List.filter_filter,List.filter_map]
  congr 1
  refine List.filter_congr fun r mem => ?_
  have own := genuine r (latestSubset refs r mem)
  have secret : secretOf settings r.version = r.secret := by simp [secretOf,own.secret]
  rw [Bool.eq_iff_iff]
  simp only [Function.comp_apply,rowMatches,Reference.liveFor,Reference.names,Bool.and_eq_true,decide_eq_true_eq,
    decide_true,and_true]
  simp only [Reference.row,secret]
  by_cases kind : r.candidate.itemKind = c.itemKind
  · cases present : c.itemId with
    | none =>
      have tool := (formed.idless present).2
      have called : (callDigest hmac r.candidate r.secret).isSome = true := by
        rw [callDigest,Option.isSome_map,own.formed.callSome,kind]
        exact tool
      simp [kind,called,callDigestIff injective kind,and_comm]
    | some id =>
      have digest : itemDigest hmac r.candidate r.secret = itemDigest hmac c r.secret ↔ _ :=
        itemDigestIff injective own.formed formed present kind
      simp [kind,digest,present,and_comm]
  · simp [kind]

theorem carriesIff (injective : Function.Injective2 hmac) {r : Reference} (own : r.Genuine settings) {c : Candidate}
    (kind : r.candidate.itemKind = c.itemKind) :
    validateRowMatchesCandidate hmac (r.row hmac) c (secretOf settings (r.row hmac).hmacKeyVersion) = r.carries c := by
  have secret : secretOf settings r.version = r.secret := by simp [secretOf,own.secret]
  rw [Bool.eq_iff_iff]
  simp only [validateRowMatchesCandidate,Reference.carries,Bool.and_eq_true,decide_eq_true_eq]
  simp only [Reference.row,secret,callDigestIff injective kind]
end Verify

section Ownership
variable {δ : Type} {hmac : String → String → δ} {settings : Settings}

theorem WellFormed.withoutId {c : Candidate} (h : WellFormed false c) (tool : c.itemKind.isTool = true) :
    WellFormed true { c with itemId := none } :=
  ⟨h.known,fun _ => ⟨rfl,tool⟩,by simp,h.tool,h.other,h.content,h.plain⟩

theorem WellFormed.anyMode {c : Candidate} (h : WellFormed false c) (allow : Bool) : WellFormed allow c :=
  ⟨h.known,fun none => absurd (h.idless none).1 (by simp),h.identifier,h.tool,h.other,h.content,h.plain⟩

-- A client replays a reference as it was, or a tool call without its item id.
def Reference.ReplayedAs (r : Reference) (allow : Bool) (c : Candidate) : Prop :=
  c = r.candidate ∨ allow = true ∧ c.itemKind.isTool = true ∧ c = { r.candidate with itemId := none }

instance (r : Reference) (allow : Bool) (c : Candidate) : Decidable (r.ReplayedAs allow c) := by
  unfold Reference.ReplayedAs
  infer_instance

theorem replayedFormed {r : Reference} {allow c} (own : r.Genuine settings) (same : r.ReplayedAs allow c) :
    WellFormed allow c := by
  rcases same with rfl | ⟨rfl,tool,rfl⟩
  · exact own.formed.anyMode allow
  · exact own.formed.withoutId tool

def liveVersions (refs : List Reference) (key : Uuid) (now : Time) : List Nat :=
  (((latest refs).filter fun r => r.liveFor key now).map Reference.version).dedup

theorem versionsWithin {refs : List Reference} {key now kinds} :
    (listActiveHmacVersionsForKey ((latest refs).map (Reference.row hmac)) key now kinds).length ≤
      (liveVersions refs key now).length := by
  refine (List.subperm_of_subset versionsNodup fun v listed => ?_).length_le
  obtain ⟨row,active,-,rfl⟩ := memVersions.mp listed
  obtain ⟨stored,live⟩ := List.mem_filter.mp active
  obtain ⟨r,mem,rfl⟩ := List.mem_map.mp stored
  refine List.mem_dedup.mpr (List.mem_map.mpr ⟨r,List.mem_filter.mpr ⟨mem,?_⟩,rfl⟩)
  exact live

variable [DecidableEq δ]

theorem authorizedIff (injective : Function.Injective2 hmac) (calls : List PersistCall) (key : Uuid) (now : Time)
    (cs : List Candidate) (allow : Bool) :
    (verifyOwnedReplay hmac settings (references hmac settings calls) key now cs allow).isOk = true ↔
      validatedCandidates allow cs = .ok () ∧
      (cs ≠ [] → (listActiveHmacVersionsForKey (references hmac settings calls) key now (cs.map Candidate.itemKind)).length ≤ 8) ∧
      ∀ c ∈ cs, ∃ r, liveReferences (persisted hmac settings calls) key now c = [r] ∧ r.carries c = true := by
  have refinement : references hmac settings calls = _ ∧ _ := referencesLatest injective calls
  obtain ⟨table,genuine⟩ := refinement
  have configured : ∀ row ∈ references hmac settings calls, (settings.hmacSecret row.hmacKeyVersion).isSome = true := by
    intro row mem
    rw [table] at mem
    obtain ⟨r,inLatest,rfl⟩ := List.mem_map.mp mem
    exact Option.isSome_iff_exists.mpr ⟨r.secret,(genuine r (latestSubset _ r inLatest)).secret⟩
  rw [verifyIff configured]
  refine and_congr_right fun valid => and_congr_right fun _ => forall₂_congr fun c mem => ?_
  have formed := (validatedIff.mp valid).1 c mem
  rw [table,foundReferences injective genuine formed]
  have checked : ∀ r, liveReferences (persisted hmac settings calls) key now c = [r] →
      validateRowMatchesCandidate hmac (r.row hmac) c (secretOf settings (r.row hmac).hmacKeyVersion) = r.carries c := by
    intro r only
    have inLive : r ∈ liveReferences (persisted hmac settings calls) key now c := by simp [only]
    obtain ⟨inLatest,fits⟩ := List.mem_filter.mp inLive
    have kind : r.candidate.itemKind = c.itemKind := by
      simp only [Reference.names,Bool.and_eq_true,decide_eq_true_eq] at fits
      exact fits.2.1
    exact carriesIff injective (genuine r (latestSubset _ r inLatest)) kind
  constructor
  · rintro ⟨row,only,carried⟩
    obtain ⟨r,live,rfl⟩ := List.map_eq_singleton_iff.mp only
    exact ⟨r,live,by rw [← checked r live]; exact carried⟩
  · rintro ⟨r,live,carried⟩
    exact ⟨r.row hmac,by rw [live]; rfl,by rw [checked r live]; exact carried⟩

end Ownership

section Rotation

def demoSettings : Settings := ⟨fun v => if v = 1 then some "first" else if v = 2 then some "second" else none⟩

def demoItem (id : String) : Candidate := ⟨.reasoning,some id,none,none,none,none⟩

def demoPersist (version : Nat) (id : String) : PersistCall :=
  ⟨[demoItem id],1,⟨7,"req","openai",3,"model"⟩,true,some version,60,0,by decide⟩

end Rotation
end SlaifGateway.Replay
