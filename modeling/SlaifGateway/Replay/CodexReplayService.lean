import SlaifGateway.Library.Runs
import SlaifGateway.Store.Schema
import Mathlib.Data.List.Sort
import Mathlib.Data.List.Dedup

/-! Ownership of the item ids a client replays. A reference row keeps digests of the ids
under the HMAC secret that was active when it was written; the digest function is a
parameter. Times are microseconds; a failed call rolls its transaction back. -/
namespace SlaifGateway.Replay
open Library Store

inductive ItemKind where
  | reasoning
  | functionCall
  | customToolCall
  | compaction
  | unknown (name : String)
  deriving DecidableEq, Repr

namespace ItemKind

def text : ItemKind → String
  | .reasoning => "reasoning"
  | .functionCall => "function_call"
  | .customToolCall => "custom_tool_call"
  | .compaction => "compaction"
  | .unknown name => name

def isTool : ItemKind → Bool
  | .functionCall | .customToolCall => true
  | _ => false

def isKnown : ItemKind → Bool
  | .unknown _ => false
  | _ => true
end ItemKind

structure Candidate where
  itemKind : ItemKind
  itemId : Option String
  callId : Option String
  toolNamespace : Option String
  toolName : Option String
  encryptedContent : Option String
  deriving DecidableEq, Repr

inductive ReplayError where
  | referenceNotFound
  | hmacUnavailable
  | persistenceFailed
  deriving DecidableEq, Repr

namespace ReplayError

def errorCode : ReplayError → String
  | .referenceNotFound => "responses_codex_replay_reference_not_found"
  | .hmacUnavailable => "responses_codex_replay_hmac_unavailable"
  | .persistenceFailed => "responses_codex_replay_persistence_failed"

def safeMessage : ReplayError → String
  | .referenceNotFound => "One or more Codex replay references are unavailable."
  | .hmacUnavailable => "Codex replay reference key material is unavailable."
  | .persistenceFailed => "Codex replay references could not be persisted safely."
end ReplayError

-- `len(value.encode("utf-8"))`
def encodedLength (s : String) : Nat := (s.toList.map Char.utf8Size).sum

section Validation

def isIdentifierChar (c : Char) : Bool :=
  c.isAlphanum || c = '.' || c = '_' || c = ':' || c = '-'

-- `_IDENTIFIER_RE.fullmatch`
def isIdentifier (s : String) : Bool :=
  match s.toList with
  | [] => false
  | c :: rest => c.isAlphanum && rest.length ≤ 255 && rest.all isIdentifierChar

def boundedSafeToolName (s : String) : Bool := !blank s && s.length ≤ 256

structure Seen where
  items : List (ItemKind × String)
  calls : List (ItemKind × String)

def checkItemId (allowIdless : Bool) (seen : Seen) (c : Candidate) : Except ReplayError Seen :=
  match c.itemId with
  | none => if allowIdless && c.itemKind.isTool then .ok seen else .error .referenceNotFound
  | some id =>
    if isIdentifier id && (c.itemKind,id) ∉ seen.items then .ok { seen with items := (c.itemKind,id) :: seen.items }
    else .error .referenceNotFound

def checkShape (seen : Seen) (c : Candidate) : Except ReplayError Seen :=
  if c.itemKind.isTool then
    match c.callId,c.toolNamespace,c.toolName with
    | some call,some tool,some name =>
      if c.encryptedContent.isNone && isIdentifier call && boundedSafeToolName tool && boundedSafeToolName name &&
          (c.itemKind,call) ∉ seen.calls then
        .ok { seen with calls := (c.itemKind,call) :: seen.calls }
      else .error .referenceNotFound
    | _,_,_ => .error .referenceNotFound
  else if c.callId.isNone && c.toolNamespace.isNone && c.toolName.isNone &&
      (if c.itemKind = .compaction then
        c.encryptedContent.any fun content => content ≠ "" && encodedLength content ≤ 1048576
      else c.encryptedContent.isNone) then
    .ok seen
  else .error .referenceNotFound

def checkCandidate (allowIdless : Bool) (seen : Seen) (c : Candidate) : Except ReplayError Seen :=
  if c.itemKind.isKnown then checkItemId allowIdless seen c >>= fun seen => checkShape seen c
  else .error .referenceNotFound

def validatedFrom (allowIdless : Bool) : Seen → List Candidate → Except ReplayError Unit
  | _,[] => .ok ()
  | seen,c :: rest => checkCandidate allowIdless seen c >>= fun seen => validatedFrom allowIdless seen rest

def validatedCandidates (allowIdless : Bool) (cs : List Candidate) : Except ReplayError Unit :=
  validatedFrom allowIdless ⟨[],[]⟩ cs
end Validation

-- Both asserted texts are present in a validated candidate.
def itemToken (c : Candidate) : String :=
  if c.itemKind = .compaction then
    "slaif-codex-replay:v2:compaction:" ++ (encodedLength (c.itemId.getD "")).repr ++ ":" ++ c.itemId.getD "" ++ ":" ++
      (encodedLength (c.encryptedContent.getD "")).repr ++ ":" ++ c.encryptedContent.getD ""
  else "slaif-codex-replay:v1:item:" ++ c.itemKind.text ++ ":" ++ c.itemId.getD ""

def callToken (kind : ItemKind) (call : String) : String :=
  "slaif-codex-replay:v1:call:" ++ kind.text ++ ":" ++ call

structure Source where
  usageLedgerId : Uuid
  sourceRequestId : String
  provider : String
  routeId : Uuid
  upstreamModel : String
  deriving DecidableEq, Repr

structure CodexReplayReference (δ : Type) where
  gatewayKeyId : Uuid
  source : Source
  itemKind : ItemKind
  itemIdHmac : δ
  callIdHmac : Option δ
  hmacKeyVersion : Nat
  toolNamespace : Option String
  toolName : Option String
  createdAt : Time
  expiresAt : Time
  deriving DecidableEq, Repr

structure AuthorizedCodexReplayReference where
  itemKind : ItemKind
  provider : String
  routeId : Uuid
  upstreamModel : String
  toolNamespace : Option String
  toolName : Option String
  expiresAt : Time
  deriving DecidableEq, Repr

-- Which secret each version names; a missing or empty setting is `none`.
structure Settings where
  hmacSecret : Nat → Option String

section Service
variable {δ : Type} [DecidableEq δ] (hmac : String → String → δ) (settings : Settings)

def itemDigest (c : Candidate) (secret : String) : δ := hmac secret (itemToken c)

def callDigest (c : Candidate) (secret : String) : Option δ := c.callId.map fun call => hmac secret (callToken c.itemKind call)

def validateRowMatchesCandidate (row : CodexReplayReference δ) (c : Candidate) (secret : String) : Bool :=
  row.callIdHmac = callDigest hmac c secret && row.toolNamespace = c.toolNamespace && row.toolName = c.toolName

section Repository
variable (rows : List (CodexReplayReference δ)) (key : Uuid) (now : Time)

def activeRows : List (CodexReplayReference δ) := rows.filter fun r => r.gatewayKeyId = key && now < r.expiresAt

def listActiveHmacVersionsForKey (kinds : List ItemKind) : List Nat :=
  ((((activeRows rows key now).filter fun r => r.itemKind ∈ kinds).map CodexReplayReference.hmacKeyVersion).dedup).insertionSort
    (· ≤ ·)

def listActiveByItemDigests (digests : List (ItemKind × δ)) : List (CodexReplayReference δ) :=
  (activeRows rows key now).filter fun r => (r.itemKind,r.itemIdHmac) ∈ digests

def listActiveByCallDigests (digests : List (ItemKind × δ)) : List (CodexReplayReference δ) :=
  (activeRows rows key now).filter fun r => r.callIdHmac.any fun d => (r.itemKind,d) ∈ digests

-- The order of the rows is not observed: no query relies on it.
def upsert (r : CodexReplayReference δ) : List (CodexReplayReference δ) :=
  (rows.filter fun old => ¬(old.gatewayKeyId = r.gatewayKeyId ∧ old.itemKind = r.itemKind ∧ old.itemIdHmac = r.itemIdHmac)) ++ [r]
end Repository

section Verify
variable (rows : List (CodexReplayReference δ)) (key : Uuid) (now : Time)

def secretsFor (versions : List Nat) : Except ReplayError (List (Nat × String)) :=
  versions.mapM fun v => match settings.hmacSecret v with
    | none => .error .hmacUnavailable
    | some secret => .ok (v,secret)

def itemDigestCandidates (secrets : List (Nat × String)) (cs : List Candidate) : List (ItemKind × δ) :=
  cs.flatMap fun c => secrets.flatMap fun s => if c.itemId.isSome then [(c.itemKind,itemDigest hmac c s.2)] else []

def callDigestCandidates (secrets : List (Nat × String)) (cs : List Candidate) : List (ItemKind × δ) :=
  cs.flatMap fun c => secrets.flatMap fun s =>
    if c.itemKind.isTool then ((callDigest hmac c s.2).map fun d => (c.itemKind,d)).toList else []

def rowMatches (c : Candidate) (version : Nat) (secret : String) (row : CodexReplayReference δ) : Bool :=
  row.itemKind = c.itemKind && row.hmacKeyVersion = version &&
    if c.itemId.isNone then row.callIdHmac.isSome && row.callIdHmac = callDigest hmac c secret
    else row.itemIdHmac = itemDigest hmac c secret

def candidateMatches (secrets : List (Nat × String)) (itemRows callRows : List (CodexReplayReference δ)) (c : Candidate) :
    List (CodexReplayReference δ × String) :=
  secrets.flatMap fun s =>
    ((if c.itemId.isNone then callRows else itemRows).filter (rowMatches hmac c s.1 s.2)).map fun row => (row,s.2)

def CodexReplayReference.authorized (row : CodexReplayReference δ) : AuthorizedCodexReplayReference :=
  ⟨row.itemKind,row.source.provider,row.source.routeId,row.source.upstreamModel,row.toolNamespace,row.toolName,row.expiresAt⟩

def authorize (secrets : List (Nat × String)) (itemRows callRows : List (CodexReplayReference δ)) (c : Candidate) :
    Except ReplayError AuthorizedCodexReplayReference :=
  match candidateMatches hmac secrets itemRows callRows c with
  | [(row,secret)] =>
    if validateRowMatchesCandidate hmac row c secret then .ok row.authorized else .error .referenceNotFound
  | _ => .error .referenceNotFound

def verifyOwnedReplay (cs : List Candidate) (allowIdless : Bool) :
    Except ReplayError (List AuthorizedCodexReplayReference) := do
  validatedCandidates allowIdless cs
  if cs.isEmpty then return []
  let versions := listActiveHmacVersionsForKey rows key now (cs.map Candidate.itemKind)
  if versions.isEmpty || 8 < versions.length then throw .referenceNotFound
  let secrets ← secretsFor settings versions
  let itemRows := listActiveByItemDigests rows key now (itemDigestCandidates hmac secrets cs)
  let callRows := listActiveByCallDigests rows key now (callDigestCandidates hmac secrets cs)
  cs.mapM (authorize hmac secrets itemRows callRows)
end Verify

structure PersistCall where
  candidates : List Candidate
  gatewayKeyId : Uuid
  source : Source
  /-- What `usage_ledger_is_finalized_for_key` answers. -/
  ledgerIsFinalized : Bool
  /-- `ACTIVE_HMAC_KEY_VERSION` as a number. -/
  activeVersion : Option Nat
  ttlSeconds : Nat
  now : Time
  ttlPositive : 1 ≤ ttlSeconds

namespace PersistCall
variable (call : PersistCall)

def expiresAt : Time := call.now + call.ttlSeconds * 1000000

def activeHmacSecret : Except ReplayError (Nat × String) :=
  match call.activeVersion with
  | some (version + 1) => (settings.hmacSecret (version + 1)).elim (.error .hmacUnavailable) fun s => .ok (version + 1,s)
  | _ => .error .hmacUnavailable

def record (version : Nat) (secret : String) (c : Candidate) : CodexReplayReference δ :=
  ⟨call.gatewayKeyId,call.source,c.itemKind,itemDigest hmac c secret,callDigest hmac c secret,version,
    c.toolNamespace,c.toolName,call.now,call.expiresAt⟩
end PersistCall

-- One INSERT may not name a conflict target twice.
def upsertMany (rows records : List (CodexReplayReference δ)) : Except ReplayError (List (CodexReplayReference δ)) :=
  if (records.map fun r => (r.gatewayKeyId,r.itemKind,r.itemIdHmac)).Nodup then .ok (records.foldl upsert rows)
  else .error .persistenceFailed

def validatePersistedRow (row record : CodexReplayReference δ) (c : Candidate) (secret : String) : Bool :=
  row.hmacKeyVersion = record.hmacKeyVersion && validateRowMatchesCandidate hmac row c secret &&
    row.gatewayKeyId = record.gatewayKeyId && row.source = record.source && row.createdAt = record.createdAt &&
    row.expiresAt = record.expiresAt

def persistedFound (reread : List (CodexReplayReference δ)) (call : PersistCall) (version : Nat) (secret : String)
    (c : Candidate) : Bool :=
  let record := call.record hmac version secret c
  ((reread.filter fun row => row.itemKind = record.itemKind ∧ row.itemIdHmac = record.itemIdHmac).getLast?).any
    fun row => validatePersistedRow hmac row record c secret

def persistValidatedReferences (rows : List (CodexReplayReference δ)) (call : PersistCall) :
    Except ReplayError (List (CodexReplayReference δ)) := do
  validatedCandidates false call.candidates
  if call.candidates.isEmpty then return rows
  if blank call.source.sourceRequestId || blank call.source.provider || blank call.source.upstreamModel then
    throw .persistenceFailed
  if !call.ledgerIsFinalized then throw .persistenceFailed
  let (version,secret) ← call.activeHmacSecret settings
  let records := call.candidates.map (call.record hmac version secret)
  let stored ← upsertMany rows records
  let reread := listActiveByItemDigests stored call.gatewayKeyId call.now (records.map fun r => (r.itemKind,r.itemIdHmac))
  if call.candidates.all (persistedFound hmac reread call version secret) then return stored
  else throw .persistenceFailed

def next (rows : List (CodexReplayReference δ)) (call : PersistCall) : Option (List (CodexReplayReference δ)) :=
  (persistValidatedReferences hmac settings rows call).toOption

def references (calls : List PersistCall) : List (CodexReplayReference δ) := Runs.run (next hmac settings) [] calls
end Service
end SlaifGateway.Replay
