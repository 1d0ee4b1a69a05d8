import SlaifGateway.Library.Text
import SlaifGateway.Library.Runs
import SlaifGateway.Library.Outcome
import Mathlib.Data.List.MinMax
import Mathlib.Data.List.Lex
import Mathlib.Order.Fin.Basic
import Mathlib.Data.Prod.Lex
import Mathlib.Algebra.Order.Ring.Rat

/-! The capture store: a manifest of sessions and the artifacts of each, in one directory that the operator and
the observers of every process change under one lock. The manifest is what `_session_from_dict` reads; the size of
its text is a parameter. -/
namespace SlaifGateway.CaptureStore
open Library

section Sessions

def maxManifestBytes : ℕ := 1 * 1024 * 1024
def maxSessionsHard : ℕ := 4096
def maxCountHard : ℤ := 1000000
def metadataOverheadBytes : ℤ := 256 * 1024

structure CaptureFacilityConfig where
  bodyBudgetBytes : ℤ
  totalStorageBytes : ℤ
  maxCount : ℤ
  maxTtlSeconds : ℚ
  defaultCount : ℤ := 1
  defaultTtlSeconds : ℚ := 300
  maxSessions : ℕ := 128

inductive CaptureStoreError where
  | endpointInvalid | keyUuidInvalid | countInvalid | ttlInvalid | sessionsFull | manifestUnreadable | reserveInvalid
  | requestIdInvalid | sessionIdInvalid | sessionMissing | unclaimed | exhausted | duplicate | storageFull
  deriving DecidableEq

def CaptureStoreError.reason : CaptureStoreError → String
  | .endpointInvalid => "capture_endpoint_invalid"
  | .keyUuidInvalid => "capture_key_uuid_invalid"
  | .countInvalid => "capture_count_invalid"
  | .ttlInvalid => "capture_ttl_invalid"
  | .sessionsFull => "capture_sessions_full"
  | .manifestUnreadable => "capture_manifest_unreadable"
  | .reserveInvalid => "capture_reserve_invalid"
  | .requestIdInvalid => "capture_request_id_invalid"
  | .sessionIdInvalid => "capture_session_id_invalid"
  | .sessionMissing => "capture_session_missing"
  | .unclaimed => "capture_unclaimed"
  | .exhausted => "capture_exhausted"
  | .duplicate => "capture_duplicate"
  | .storageFull => "capture_storage_full"

structure CaptureSession where
  sessionId : Text
  endpoint : Text
  keyUuid : Option Text
  count : ℤ
  claimed : ℤ
  createdAt : ℚ
  expiresAt : ℚ
  stopped : Bool
  bytesReserved : ℤ
  published : ℤ
  claimReserve : ℤ
  deriving DecidableEq

inductive Status where
  | stopped | expired | exhausted | active
  deriving DecidableEq

def CaptureSession.status (s : CaptureSession) (now : ℚ) : Status :=
  if s.stopped then .stopped
  else if s.expiresAt ≤ now then .expired
  else if s.count ≤ s.claimed then .exhausted
  else .active

def isDigit (c : CodePoint) : Bool := 48 ≤ c.val && c.val ≤ 57

def isHex (c : CodePoint) : Bool := isDigit c || (97 ≤ c.val && c.val ≤ 102)

def isUpperHex (c : CodePoint) : Bool := 65 ≤ c.val && c.val ≤ 70

-- `^cap-[0-9a-f]{32}$`
def isSessionId (t : Text) : Bool := t.take 4 = text "cap-" && t.length = 36 && (t.drop 4).all isHex

-- The letters of the pattern match either case.
def isUuid (t : Text) : Bool :=
  t.length = 36 && t.zipIdx.all fun (c,index) => if index ∈ [8,13,18,23] then c.val = 45 else isHex c || isUpperHex c

-- `^[A-Za-z0-9._-]{1,64}$`
def isRequestId (t : Text) : Bool :=
  1 ≤ t.length && t.length ≤ 64 && t.all fun c =>
    isDigit c || (65 ≤ c.val && c.val ≤ 90) || (97 ≤ c.val && c.val ≤ 122) || c.val ∈ [46,95,45]

def isRooted (endpoint : Text) : Bool := endpoint.take 1 = text "/"

-- What `_session_from_dict` asks of a stored session.
def readable (s : CaptureSession) : Bool :=
  isSessionId s.sessionId && (isRooted s.endpoint && s.endpoint.length ≤ 2048) && s.keyUuid.all isUuid &&
    (1 ≤ s.count && s.count ≤ maxCountHard) && 0 ≤ s.claimed && 0 ≤ s.createdAt && 0 ≤ s.expiresAt &&
    0 ≤ s.bytesReserved && 0 ≤ s.published && 0 ≤ s.claimReserve

structure Manifest where
  storageBytesReserved : ℤ
  sessions : List CaptureSession
  deriving DecidableEq

-- The files of a session directory that `cleanup` recognizes.
inductive FileName where
  | capture (requestId : Text)
  | record (requestId : Text)
  | temporary
  deriving DecidableEq

structure Artifact where
  sessionId : Text
  name : FileName
  bytes : ℕ
  deriving DecidableEq

structure Directory where
  manifest : Manifest
  files : List Artifact
  deriving DecidableEq

def emptyManifest : Manifest := ⟨0,[]⟩

end Sessions

section Store
variable (c : CaptureFacilityConfig) (size : Manifest → ℕ)

def readManifest (m : Manifest) : Except CaptureStoreError Manifest :=
  if maxManifestBytes < size m then .error .manifestUnreadable
  else if m.storageBytesReserved < 0 then .error .manifestUnreadable
  else if maxSessionsHard < m.sessions.length then .error .manifestUnreadable
  else if m.sessions.all readable then .ok m
  else .error .manifestUnreadable

-- The first entry of a kind, between what stands before it and what stands after it.
def splitFirst {α : Type} (p : α → Bool) : List α → Option (List α × α × List α)
  | [] => none
  | x :: rest => if p x then some ([],x,rest) else (splitFirst p rest).map fun found => (x :: found.1,found.2)

def reservationBytes : ℤ := max 0 c.bodyBudgetBytes * 4 / 3 + metadataOverheadBytes

def prunable (now : ℚ) (s : CaptureSession) : Bool := s.status now ≠ .active && s.published = 0 && s.bytesReserved = 0

def oldest (sessions : List CaptureSession) : Option CaptureSession :=
  sessions.argmin fun s => toLex (s.createdAt,s.sessionId)

-- The loop of `_prune_finished`; each round removes a session.
def pruneFinished (now : ℚ) : ℕ → List CaptureSession → List CaptureSession
  | 0,sessions => sessions
  | rounds + 1,sessions =>
    if sessions.length < c.maxSessions then sessions
    else
      match oldest (sessions.filter (prunable now)) with
      | none => sessions
      | some s => pruneFinished now rounds (sessions.erase s)

def validEndpoint (endpoint : Text) : Bool :=
  isRooted endpoint && (text "?").all (· ∉ endpoint) && (text "#").all (· ∉ endpoint) && endpoint.length ≤ 2048

def arm (sessionId endpoint : Text) (keyUuid : Option Text) (count : Option ℤ) (ttlSeconds : Option ℚ) (now : ℚ)
    (d : Directory) : Except CaptureStoreError (CaptureSession × Directory) := do
  failIf (validEndpoint endpoint = false) .endpointInvalid
  failIf (keyUuid.all isUuid = false) .keyUuidInvalid
  let count := count.getD c.defaultCount
  failIf (¬(1 ≤ count ∧ count ≤ c.maxCount)) .countInvalid
  let ttl := ttlSeconds.getD c.defaultTtlSeconds
  failIf (¬(0 < ttl ∧ ttl ≤ c.maxTtlSeconds)) .ttlInvalid
  let session : CaptureSession := ⟨sessionId,endpoint,keyUuid.map lower,count,0,now,now + ttl,false,0,0,0⟩
  let m ← readManifest size d.manifest
  let sessions := pruneFinished c now m.sessions.length m.sessions
  failIf (c.maxSessions ≤ sessions.length) .sessionsFull
  pure (session,{ d with manifest := { m with sessions := sessions ++ [session] } })

def claimable (endpoint : Text) (keyUuid : Option Text) (now : ℚ) (total reserve : ℤ) (s : CaptureSession) : Bool :=
  s.status now = .active && s.endpoint = endpoint && (s.keyUuid.isNone || s.keyUuid = keyUuid) &&
    !(0 < reserve && c.totalStorageBytes < total + reserve)

def CaptureSession.claim (reserve : ℤ) (s : CaptureSession) : CaptureSession :=
  { s with claimed := s.claimed + 1, claimReserve := reserve, bytesReserved := s.bytesReserved + reserve }

def claim (endpoint : Text) (keyUuid : Option Text) (now : ℚ) (reserveBytes : Option ℤ) (d : Directory) :
    Except CaptureStoreError (Option CaptureSession × Directory) := do
  let reserve := reserveBytes.getD (reservationBytes c)
  failIf (reserve ≤ 0) .reserveInvalid
  let m ← readManifest size d.manifest
  match splitFirst (claimable c endpoint keyUuid now m.storageBytesReserved reserve) m.sessions with
  | none => pure (none,d)
  | some (before,s,after) =>
    pure (some (s.claim reserve),
      { d with manifest := ⟨m.storageBytesReserved + reserve,before ++ s.claim reserve :: after⟩ })

def CaptureSession.publish (actual reserve : ℤ) (s : CaptureSession) : CaptureSession :=
  { s with published := s.published + 1, bytesReserved := s.bytesReserved + (actual - reserve) }

def isArtifactOf (sessionId requestId : Text) (f : Artifact) : Bool :=
  f.sessionId = sessionId && (f.name = .capture requestId || f.name = .record requestId)

-- The checks of `write_artifact`, and the manifest that it writes last.
def admitArtifact (sessionId requestId : Text) (capture record : ℕ) (d : Directory) :
    Except CaptureStoreError Manifest := do
  failIf (isRequestId requestId = false) .requestIdInvalid
  failIf (isSessionId sessionId = false) .sessionIdInvalid
  let m ← readManifest size d.manifest
  match splitFirst (fun s => s.sessionId = sessionId) m.sessions with
  | none => throw .sessionMissing
  | some (before,s,after) =>
    failIf (s.claimed ≤ s.published) (if s.claimed = 0 then .unclaimed else .exhausted)
    failIf (d.files.any (isArtifactOf sessionId requestId) = true) .duplicate
    let reserve := if s.claimReserve = 0 then reservationBytes c else s.claimReserve
    let combined : ℤ := capture + record
    failIf (reservationBytes c < combined) .storageFull
    let actual := combined + metadataOverheadBytes
    let proposed := max 0 (m.storageBytesReserved - reserve + actual)
    failIf (c.totalStorageBytes < proposed) .storageFull
    pure ⟨proposed,before ++ s.publish actual reserve :: after⟩

def artifacts (sessionId requestId : Text) (capture record : ℕ) : List Artifact :=
  [⟨sessionId,.capture requestId,capture⟩,⟨sessionId,.record requestId,record⟩]

def writeArtifact (sessionId requestId : Text) (capture record : ℕ) (d : Directory) :
    Except CaptureStoreError Directory := do
  let m ← admitArtifact c size sessionId requestId capture record d
  pure ⟨m,d.files ++ artifacts sessionId requestId capture record⟩

def isSelected (sessionId : Option Text) (s : CaptureSession) : Bool := sessionId.all (· = s.sessionId)

def stopSelected (sessionId : Option Text) (s : CaptureSession) : CaptureSession :=
  if isSelected sessionId s then { s with stopped := true } else s

def stop (sessionId : Option Text) (d : Directory) : Except CaptureStoreError (ℕ × Directory) := do
  let m ← readManifest size d.manifest
  let changed := (m.sessions.filter fun s => isSelected sessionId s && !s.stopped).length
  pure (changed,if changed = 0 then d else { d with manifest := { m with sessions := m.sessions.map (stopSelected sessionId) } })

-- `stuck` are the files that cannot be unlinked.
def cleanup (sessionId : Option Text) (stuck : List Artifact) (d : Directory) :
    Except CaptureStoreError (ℕ × Directory) := do
  let m ← readManifest size d.manifest
  let selected := m.sessions.filter (isSelected sessionId)
  let goes : Artifact → Bool := fun f => selected.any (·.sessionId = f.sessionId) && f ∉ stuck
  pure ((d.files.filter goes).length,
    ⟨⟨selected.foldl (fun total s => max 0 (total - s.bytesReserved)) m.storageBytesReserved,
      m.sessions.filter (!isSelected sessionId ·)⟩,d.files.filter (!goes ·)⟩)

end Store

section System

-- What an interrupted `write_artifact` leaves: the files that were not unlinked, a temporary one among them, and
-- whether the manifest had been replaced.
structure Leftover where
  capture : Bool
  record : Bool
  temporary : ℕ
  written : Bool

-- A temporary file is a part of the one that is missing.
def Leftover.possible (l : Leftover) (capture record : ℕ) : Bool :=
  l.temporary = 0 || (!l.record && l.temporary ≤ (if l.capture then record else max capture record))

def Leftover.files (l : Leftover) (sessionId requestId : Text) (capture record : ℕ) : List Artifact :=
  (if l.capture then [⟨sessionId,.capture requestId,capture⟩] else []) ++
    (if l.record then [⟨sessionId,.record requestId,record⟩] else []) ++ [⟨sessionId,.temporary,l.temporary⟩]

inductive Op where
  | arm (sessionId endpoint : Text) (keyUuid : Option Text) (count : Option ℤ) (ttlSeconds : Option ℚ) (now : ℚ)
  | claim (endpoint : Text) (keyUuid : Option Text) (now : ℚ)
  | publish (sessionId requestId : Text) (capture record : ℕ)
  | interrupt (sessionId requestId : Text) (capture record : ℕ) (left : Leftover)
  | abandon (sessionId : Text)
  | stop (sessionId : Option Text)
  | cleanup (sessionId : Option Text) (stuck : List Artifact)

-- The store with the claims that observers hold, the ids that were drawn and the clock.
structure World where
  directory : Directory
  holders : List Text
  issued : List Text
  clock : ℚ

def World.initial (now : ℚ) : World := ⟨⟨emptyManifest,[]⟩,[],[],now⟩

variable (c : CaptureFacilityConfig) (size : Manifest → ℕ)

-- An observer claims with the reservation of the store, and writes or gives up once.
def next (w : World) : Op → Option World
  | .arm sessionId endpoint keyUuid count ttlSeconds now =>
    match arm c size sessionId endpoint keyUuid count ttlSeconds now w.directory with
    | .ok (_,d) => some { w with directory := d, issued := sessionId :: w.issued, clock := now }
    | .error _ => none
  | .claim endpoint keyUuid now =>
    match claim c size endpoint keyUuid now (some (reservationBytes c)) w.directory with
    | .ok (some s,d) => some { w with directory := d, holders := s.sessionId :: w.holders, clock := now }
    | _ => none
  | .publish sessionId requestId capture record =>
    if sessionId ∈ w.holders then
      match writeArtifact c size sessionId requestId capture record w.directory with
      | .ok d => some { w with directory := d, holders := w.holders.erase sessionId }
      | .error _ => some { w with holders := w.holders.erase sessionId }
    else none
  | .interrupt sessionId requestId capture record left =>
    if sessionId ∈ w.holders ∧ left.possible capture record then
      match admitArtifact c size sessionId requestId capture record w.directory with
      | .ok m =>
        some { w with
          directory := ⟨if left.written then m else w.directory.manifest,
            w.directory.files ++ left.files sessionId requestId capture record⟩
          holders := w.holders.erase sessionId }
      | .error _ => none
    else none
  | .abandon sessionId => if sessionId ∈ w.holders then some { w with holders := w.holders.erase sessionId } else none
  | .stop sessionId =>
    match stop size sessionId w.directory with
    | .ok (_,d) => some { w with directory := d }
    | .error _ => none
  | .cleanup sessionId stuck =>
    match cleanup size sessionId stuck w.directory with
    | .ok (_,d) => some { w with directory := d }
    | .error _ => none

-- A drawn id is new, and the clock of the processes does not run backwards.
def Timely (w : World) : Op → Prop
  | .arm sessionId _ _ _ _ now => isSessionId sessionId = true ∧ sessionId ∉ w.issued ∧ w.clock ≤ now
  | .claim _ _ now => w.clock ≤ now
  | _ => True

end System

end SlaifGateway.CaptureStore
