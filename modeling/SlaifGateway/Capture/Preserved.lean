import SlaifGateway.Capture.Redaction
import SlaifGateway.Library.Outcome

/-! What redaction preserves and how it fails. The redacted body is the body with spellings of
collected secrets replaced by markers; a credential string that UTF-8 cannot encode leaves
`redact_capture_request` with an exception that is not its own. -/
namespace SlaifGateway.Capture
open Library Keys

section Hints
variable {ps : List Text} {t p hint : Text}

theorem latinPlain {c : CodePoint} (low : c.val < 256) : isSurrogate c = false := by
  simp only [isSurrogate,Bool.and_eq_false_iff,decide_eq_false_iff_not]
  omega

theorem decodedLow (bytes : Bytes) : ∀ c ∈ decodeLatin bytes, c.val < 256 := by
  intro c mem
  obtain ⟨b,_,rfl⟩ := List.mem_map.mp mem
  have small := b.toNat_lt
  simp only [point,Fin.val_ofNat]
  omega

theorem hintPlain (low : ∀ c ∈ t, c.val < 256) (found : gatewayBearerHint ps t = some hint) :
    ∀ c ∈ hint, isSurrogate c = false := by
  unfold gatewayBearerHint at found
  dsimp only at found
  split at found
  · cases found
  · split at found
    · cases found
    · rename_i publicId parsed
      obtain ⟨matched,best,-,valid,-⟩ := parsedPrefix parsed
      rw [best,Option.bind_some] at found
      split at found
      · cases found
      · cases found
        have front := (matchedPrefix best).2.2
        intro c mem
        simp only [List.mem_append,List.mem_cons] at mem
        rcases mem with (early | named) | rfl | tail
        · exact latinPlain (low c (front.subset early))
        · have point := List.all_eq_true.mp (by simp only [isPublicId,Bool.and_eq_true] at valid; exact valid.2) c
            (List.mem_of_mem_take named)
          refine latinPlain ?_
          simp only [isPublicIdPoint,Bool.or_eq_true,Bool.and_eq_true,decide_eq_true_eq] at point
          omega
        · decide
        · exact textPlain (s := "***") (by decide) c tail

-- A secret stands with the hint of its own text.
def Hinted (ps : List Text) (c : Collected) : Prop :=
  ∀ secret ∈ c.secrets, secret.1 ≠ [] ∧ secret.2 = gatewayBearerHint ps (decodeLatin secret.1)

theorem addHinted {c : Collected} (secret : Bytes) (hinted : Hinted ps c) : Hinted ps (c.add ps secret) := by
  unfold Collected.add
  split
  · exact hinted
  · rename_i fresh
    intro s mem
    rcases List.mem_append.mp mem with earlier | last
    · exact hinted s earlier
    · rw [List.mem_singleton.mp last]
      simp only [Bool.or_eq_true,not_or] at fresh
      exact ⟨fun none => fresh.1 (List.isEmpty_iff.mpr none),rfl⟩

theorem foldHinted {c : Collected} (candidates : List Bytes) (hinted : Hinted ps c) :
    Hinted ps (candidates.foldl (Collected.add ps) c) := by
  induction candidates generalizing c with
  | nil => exact hinted
  | cons secret rest ih => exact ih (addHinted secret hinted)

variable {decimalDigit : CodePoint → Option Nat} {r : Request} {collected : Collected} {notes : List String}

theorem collectedHinted (run : collectIncomingSecrets decimalDigit ps r = .ok (collected,notes)) : Hinted ps collected := by
  unfold collectIncomingSecrets at run
  obtain ⟨found,-,run⟩ := okBind run
  cases run
  exact foldHinted _ fun _ mem => absurd mem List.not_mem_nil

theorem encodeUtf8Plain : (∃ bytes, encodeUtf8 t = .ok bytes) ↔ plainText t = true := by
  have plain : plainText t = true ↔ ∀ c ∈ t, isSurrogate c = false := by simp [plainText]
  rw [plain,← encodeIsSome]
  unfold encodeUtf8
  cases encode t <;> simp

theorem replacementFound {secret : Bytes × Option Text} (hinted : secret.2 = gatewayBearerHint ps (decodeLatin secret.1)) :
    ∃ bytes, replacementOf secret.2 = .ok bytes := by
  unfold replacementOf
  cases found : secret.2 with
  | none => exact ⟨_,rfl⟩
  | some hint =>
    refine encodeUtf8Plain.mpr ?_
    have plain := hintPlain (decodedLow secret.1) (hinted ▸ found)
    simpa [plainText] using plain
end Hints

section Failures
variable {decimalDigit : CodePoint → Option Nat} {ps : List Text} {r : Request}

def CredentialsPlain (decimalDigit : CodePoint → Option Nat) (body : Bytes) : Prop :=
  ∀ t ∈ credentialStrings decimalDigit body, plainText t = true

theorem encodeUtf8Fails {t : Text} {e : Failure} (failed : encodeUtf8 t = .error e) :
    e = .unicodeEncode ∧ plainText t = false := by
  have hard : ¬plainText t = true := by
    rw [← encodeUtf8Plain,failed]
    simp
  unfold encodeUtf8 at failed
  refine ⟨?_,by simpa using hard⟩
  cases found : encode t with
  | none =>
    rw [found] at failed
    exact (Except.error.inj failed).symm
  | some bytes =>
    rw [found] at failed
    cases failed

theorem collectCases : (CredentialsPlain decimalDigit r.body ∧ ∃ out, collectIncomingSecrets decimalDigit ps r = .ok out) ∨
    (¬CredentialsPlain decimalDigit r.body ∧ collectIncomingSecrets decimalDigit ps r = .error .unicodeEncode) := by
  unfold collectIncomingSecrets credentialValuesFromBody
  split
  · rename_i empty
    rw [List.isEmpty_iff] at empty
    refine .inl ⟨fun t mem => ?_,_,rfl⟩
    rw [empty] at mem
    have none : credentialStrings decimalDigit [] = [] := by simp [credentialStrings,bodyText,decode,scanCredentialStrings]
    rw [none] at mem
    cases mem
  · cases encoded : (credentialStrings decimalDigit r.body).mapM encodeUtf8 with
    | ok values =>
      refine .inl ⟨fun t mem => ?_,_,rfl⟩
      obtain ⟨bytes,-,found⟩ := (mapMOf encoded).1 t mem
      exact encodeUtf8Plain.mp ⟨bytes,found⟩
    | error e =>
      obtain ⟨t,mem,failed⟩ := mapMError encoded
      obtain ⟨rfl,hard⟩ := encodeUtf8Fails failed
      exact .inr ⟨fun plain => by simp [plain t mem] at hard,rfl⟩

theorem entriesFail {secrets : List (Bytes × Bytes)} {e : Failure} (failed : entriesOf secrets = .error e) :
    e = .captureRedaction := by
  induction secrets with
  | nil => cases failed
  | cons pair rest ih =>
    unfold entriesOf at failed
    split_ifs at failed with empty long
    · exact ih failed
    · exact (Except.error.inj failed).symm
    · cases later : entriesOf rest with
      | error own =>
        rw [later] at failed
        cases failed
        exact ih later
      | ok entries =>
        rw [later] at failed
        cases failed

theorem buildFails {secrets : List (Bytes × Bytes)} {e : Failure} (failed : buildCaptureMasker secrets = .error e) :
    e = .captureRedaction := by
  unfold buildCaptureMasker at failed
  cases entries : entriesOf secrets with
  | error own =>
    rw [entries] at failed
    cases failed
    exact entriesFail entries
  | ok found =>
    rw [entries] at failed
    simp only [bind,Except.bind,pure,Except.pure] at failed
    split_ifs at failed <;> exact (Except.error.inj failed).symm

theorem headersFail {masker : Option Masker} {headers : List (Text × Bytes)} {e : Failure}
    (failed : headers.mapM (maskHeader masker) = .error e) :
    e = .unicodeEncode ∧ masker.isSome = true ∧ ∃ header ∈ headers, isLatin header.1 = false := by
  obtain ⟨header,mem,failed⟩ := mapMError failed
  cases masker with
  | none => cases failed
  | some m =>
    unfold maskHeader encodeLatinStrict at failed
    dsimp only at failed
    split_ifs at failed with latin
    · cases failed
    · cases failed
      exact ⟨rfl,rfl,header,mem,by simpa using latin⟩

theorem headersLatin {m : Masker} {headers out : List (Text × Bytes)} (run : headers.mapM (maskHeader (some m)) = .ok out) :
    ∀ header ∈ headers, isLatin header.1 = true := by
  intro header mem
  obtain ⟨masked,-,found⟩ := (mapMOf run).1 header mem
  unfold maskHeader encodeLatinStrict at found
  dsimp only at found
  split_ifs at found with latin
  · exact latin
  · cases found
end Failures

section Spans

-- A spelling of the secret that the masker accepts.
def Occurrence (secret stretch : Bytes) : Prop :=
  Pattern.Spells (rawPositions secret) stretch ∨ Pattern.Spells (jsonPositions secret) stretch ∨
    Pattern.Spells (percentPositions secret) stretch

theorem secretPatternsMem {secret : Bytes} {positions : Positions} (mem : positions ∈ secretPatterns secret) :
    positions = rawPositions secret ∨ positions = jsonPositions secret ∨ positions = percentPositions secret := by
  have added : ∀ {ps : List Positions} {p q : Positions}, q ∈ addPattern ps p → q ∈ ps ∨ q = p := by
    intro ps p q mem
    unfold addPattern at mem
    split at mem
    · exact .inl mem
    · rcases List.mem_append.mp mem with old | new
      · exact .inl old
      · exact .inr (List.mem_singleton.mp new)
  rcases added mem with earlier | last
  · rcases added earlier with first | second
    · exact .inl (List.mem_singleton.mp first)
    · exact .inr (.inl second)
  · exact .inr (.inr last)

def FromPairs (pairs : List (Bytes × Bytes)) (e : Entry) : Prop :=
  (e.secret,e.replacement) ∈ pairs ∧ e.patterns = secretPatterns e.secret

theorem entriesFrom {pairs : List (Bytes × Bytes)} {entries : List Entry} (run : entriesOf pairs = .ok entries) :
    ∀ e ∈ entries, FromPairs pairs e := by
  induction pairs generalizing entries with
  | nil =>
    cases run
    simp
  | cons pair rest ih =>
    have wider : ∀ {e}, FromPairs rest e → FromPairs (pair :: rest) e := fun from_ =>
      ⟨List.mem_cons_of_mem pair from_.1,from_.2⟩
    unfold entriesOf at run
    split_ifs at run with empty long
    · exact fun e mem => wider (ih run e mem)
    · obtain ⟨later,found,rfl⟩ := okMap run
      intro e mem
      rcases List.mem_cons.mp mem with rfl | mem
      · exact ⟨List.mem_cons_self,rfl⟩
      · exact wider (ih found e mem)

theorem maskerFrom {pairs : List (Bytes × Bytes)} {m : Masker} (run : buildCaptureMasker pairs = .ok (some m)) :
    ∀ e ∈ m.entries, FromPairs pairs e := by
  unfold buildCaptureMasker at run
  obtain ⟨entries,found,run⟩ := okBind run
  simp only [pure,Except.pure] at run
  split_ifs at run
  · cases run
  · cases run
    intro e mem
    exact entriesFrom found e ((List.mem_insertionSort _).mp mem)

variable {pairs : List (Bytes × Bytes)} {m : Masker}

theorem entryWays {e : Entry} {before : Option UInt8} {input : Bytes} {way : Bytes × Bytes} :
    way ∈ e.pattern.run before input ↔ (∃ positions ∈ e.patterns, Pattern.Spells positions way.1) ∧ way.1 ++ way.2 = input := by
  unfold Entry.pattern
  rw [Pattern.waysFirstOf]
  constructor
  · intro ⟨p,mem,found⟩
    obtain ⟨positions,listed,rfl⟩ := List.mem_map.mp mem
    obtain ⟨spelled,split⟩ := Pattern.waysInTurn.mp found
    exact ⟨⟨positions,listed,spelled⟩,split⟩
  · intro ⟨⟨positions,listed,spelled⟩,split⟩
    exact ⟨_,List.mem_map_of_mem listed,Pattern.waysInTurn.mpr ⟨spelled,split⟩⟩

-- What the masker finds is spelled as some secret, and a marker of the set stands for it.
theorem matchMarked {before : Option UInt8} {input : Bytes} {way : Bytes × Bytes}
    (entries : ∀ e ∈ m.entries, FromPairs pairs e) (mem : way ∈ m.pattern.run before input) :
    (∃ pair ∈ pairs, Occurrence pair.1 way.1) ∧ ∃ pair ∈ pairs, m.replace way.1 = pair.2 := by
  obtain ⟨p,listed,found⟩ := Pattern.waysFirstOf.mp mem
  obtain ⟨e,known,rfl⟩ := List.mem_map.mp listed
  obtain ⟨⟨positions,pattern,spelled⟩,-⟩ := entryWays.mp found
  constructor
  · refine ⟨_,(entries e known).1,?_⟩
    rw [(entries e known).2] at pattern
    rcases secretPatternsMem pattern with rfl | rfl | rfl
    · exact .inl spelled
    · exact .inr (.inl spelled)
    · exact .inr (.inr spelled)
  · have whole : e.matchesWhole way.1 = true :=
      List.any_eq_true.mpr ⟨(way.1,[]),entryWays.mpr ⟨⟨positions,pattern,spelled⟩,List.append_nil _⟩,by simp⟩
    cases chosen : m.entries.find? (Entry.matchesWhole · way.1) with
    | none => exact absurd whole (List.find?_eq_none.mp chosen e known)
    | some other =>
      refine ⟨_,(entries other (List.mem_of_find?_eq_some chosen)).1,?_⟩
      unfold Masker.replace
      rw [chosen]
      rfl

-- A stretch that spells a collected secret, and the marker of a collected secret.
structure Masked (collected : Collected) (stretch marker : Bytes) : Prop where
  spelled : ∃ secret ∈ collected.secrets, Occurrence secret.1 stretch
  marked : ∃ secret ∈ collected.secrets, replacementOf secret.2 = .ok marker

theorem pairsFrom {collected : Collected} (run : replacementPairs collected = .ok pairs) :
    ∀ pair ∈ pairs, ∃ secret ∈ collected.secrets, secret.1 = pair.1 ∧ replacementOf secret.2 = .ok pair.2 := by
  intro pair mem
  obtain ⟨secret,known,found⟩ := (mapMOf run).2 pair mem
  obtain ⟨marker,replaced,rfl⟩ := okMap found
  exact ⟨secret,known,rfl,replaced⟩

theorem matchMasked {collected : Collected} (paired : replacementPairs collected = .ok pairs) (built : buildCaptureMasker pairs = .ok (some m))
    {before : Option UInt8} {input : Bytes} {way : Bytes × Bytes} (mem : way ∈ m.pattern.run before input) :
    (∃ secret ∈ collected.secrets, Occurrence secret.1 way.1) ∧
      ∃ other ∈ collected.secrets, replacementOf other.2 = .ok (m.replace way.1) := by
  obtain ⟨⟨pair,own,occurs⟩,another,known,marker⟩ := matchMarked (maskerFrom built) mem
  obtain ⟨secret,found,same,-⟩ := pairsFrom paired pair own
  obtain ⟨other,stored,-,replaced⟩ := pairsFrom paired another known
  exact ⟨⟨secret,found,same ▸ occurs⟩,other,stored,marker ▸ replaced⟩

theorem maskedData {collected : Collected} {masker : Option Masker} (paired : replacementPairs collected = .ok pairs)
    (built : buildCaptureMasker pairs = .ok masker) (data : Bytes) :
    Pattern.Replaced (Masked collected) data (maskWith masker data) := by
  cases masker with
  | none => exact Pattern.replacedSelf data
  | some m =>
    refine Pattern.subReplaced fun before input way mem => ?_
    obtain ⟨spelled,marked⟩ := matchMasked paired built mem
    exact ⟨spelled,marked⟩
end Spans

section Redact
variable (decimalDigit : CodePoint → Option Nat) (ps : List Text) (r : Request)

def BuildsMasker : Prop :=
  ∃ collected notes pairs m, collectIncomingSecrets decimalDigit ps r = .ok (collected,notes) ∧
    replacementPairs collected = .ok pairs ∧ buildCaptureMasker pairs = .ok (some m)

-- Redaction fails with its own error, or it replaces spellings of secrets and nothing else.
def RedactsSafely (bodyComplete : Bool) : Prop :=
  match redactCaptureRequest decimalDigit ps r bodyComplete with
  | .error e => e = .captureRedaction
  | .ok out => ∃ collected notes, collectIncomingSecrets decimalDigit ps r = .ok (collected,notes) ∧
      Pattern.Replaced (Masked collected) r.body out.body

theorem pairsFound {collected : Collected} {notes : List String}
    (run : collectIncomingSecrets decimalDigit ps r = .ok (collected,notes)) : ∃ pairs, replacementPairs collected = .ok pairs := by
  cases paired : replacementPairs collected with
  | ok pairs => exact ⟨pairs,rfl⟩
  | error e =>
    obtain ⟨secret,mem,failed⟩ := mapMError paired
    obtain ⟨bytes,found⟩ := replacementFound (collectedHinted run secret mem).2
    rw [found] at failed
    cases failed

theorem redactionPreserves (bodyComplete : Bool) : RedactsSafely decimalDigit ps r bodyComplete ↔
    CredentialsPlain decimalDigit r.body ∧
      ((∀ header ∈ r.headers, isLatin header.1 = true) ∨ ¬BuildsMasker decimalDigit ps r) := by
  unfold RedactsSafely redactCaptureRequest
  rcases @collectCases decimalDigit ps r with ⟨plain,⟨collected,notes⟩,found⟩ | ⟨hard,failed⟩
  · obtain ⟨pairs,paired⟩ := pairsFound decimalDigit ps r found
    cases built : buildCaptureMasker pairs with
    | error e =>
      simp only [found,paired,built,bind,Except.bind]
      refine iff_of_true (buildFails built) ⟨plain,.inr ?_⟩
      intro ⟨own,others,known,m,same,again,success⟩
      cases found.symm.trans same
      cases paired.symm.trans again
      cases built.symm.trans success
    | ok masker =>
      cases masked : r.headers.mapM (maskHeader masker) with
      | error e =>
        obtain ⟨rfl,some,header,mem,beyond⟩ := headersFail masked
        simp only [found,paired,built,masked,bind,Except.bind]
        refine iff_of_false (by decide) fun safe => ?_
        obtain ⟨m,rfl⟩ := Option.isSome_iff_exists.mp some
        rcases safe.2 with latin | none
        · simp [latin header mem] at beyond
        · exact none ⟨collected,notes,pairs,m,found,paired,built⟩
      | ok headers =>
        simp only [found,paired,built,masked,bind,Except.bind,pure,Except.pure]
        refine iff_of_true ⟨collected,notes,rfl,maskedData paired built r.body⟩ ⟨plain,?_⟩
        cases masker with
        | some m => exact .inl (headersLatin masked)
        | none =>
          refine .inr fun ⟨own,others,known,m,same,again,success⟩ => ?_
          cases found.symm.trans same
          cases paired.symm.trans again
          cases built.symm.trans success
  · simp only [failed,bind,Except.bind]
    exact iff_of_false (by decide) fun safe => hard safe.1
end Redact

def surrogateCapture : Request := ⟨ascii "/v1/responses",[],[],ascii "\x7b\"token\":\"\\ud800\"\x7d"⟩

theorem surrogateEscapes : redactCaptureRequest (fun _ => none) [text "sk-slaif-"] surrogateCapture true =
    .error .unicodeEncode ∧ ¬RedactsSafely (fun _ => none) [text "sk-slaif-"] surrogateCapture true := by
  have listed : credentialStrings (fun _ => none) surrogateCapture.body = [[0xD800]] := by decide +kernel
  have hard : ¬CredentialsPlain (fun _ => none) surrogateCapture.body := by
    intro plain
    have wrong := plain [0xD800] (by rw [listed]; exact List.mem_singleton_self _)
    exact absurd wrong (by decide)
  have raised : redactCaptureRequest (fun _ => none) [text "sk-slaif-"] surrogateCapture true = .error .unicodeEncode := by
    rcases @collectCases (fun _ => none) [text "sk-slaif-"] surrogateCapture with
      ⟨plain,-⟩ | ⟨-,failed⟩
    · exact absurd plain hard
    · unfold redactCaptureRequest
      rw [failed]
      rfl
  refine ⟨raised,fun safe => ?_⟩
  unfold RedactsSafely at safe
  rw [raised] at safe
  cases safe
end SlaifGateway.Capture
