import SlaifGateway.Capture.Preserved
import SlaifGateway.Library.Encodings

/-! What redaction hides. A secret may stand in a body in any JSON escaping of its text or any
percent-encoding of its bytes; the masker removes the spellings that its patterns list. -/
namespace SlaifGateway.Capture
open Library
open JsonText (hexValue)

section Spellings
variable {α : Type}

-- The parts' forms, one after the other.
inductive Spelled (form : α → Bytes → Prop) : List α → Bytes → Prop where
  | nil : Spelled form [] []
  | cons {a rest part more} : form a part → Spelled form rest more → Spelled form (a :: rest) (part ++ more)

-- `\u` and four digits of either case.
def UnitForm (unit : ℕ) (e : Bytes) : Prop :=
  ∃ digits, e = 92 :: 117 :: digits ∧ JsonText.scanHex (decodeLatin digits) = some (unit,[])

inductive JsonForm : CodePoint → Bytes → Prop where
  | literal {c e} : encodePoint c = some e → JsonForm c e
  | short {c : CodePoint} {letter : ℕ} : (letter,c.val) ∈ JsonText.simpleEscapes → JsonForm c [92,letter.toUInt8]
  | unit {c : CodePoint} {e} : UnitForm c.val e → JsonForm c e
  | pair {c : CodePoint} {high low} : 0x10000 ≤ c.val → UnitForm (0xD800 + (c.val - 0x10000) / 1024) high →
      UnitForm (0xDC00 + (c.val - 0x10000) % 1024) low → JsonForm c (high ++ low)

def PercentForm (b : UInt8) (e : Bytes) : Prop :=
  e = [b] ∨ ∃ high low, e = [37,high,low] ∧ hexValue (point high.toNat) = some (b.toNat / 16) ∧
    hexValue (point low.toNat) = some (b.toNat % 16)

-- The texts that a collected value may stand for.
def Reads (t : Text) (secret : Bytes) : Prop := encode t = some secret ∨ t = decodeLatin secret

def DecodesTo (secret e : Bytes) : Prop :=
  (∃ t, Reads t secret ∧ Spelled JsonForm t e) ∨ Spelled PercentForm secret e

theorem spelledNil {form : α → Bytes → Prop} (nonempty : ∀ a, ¬form a []) {l : List α} (spelled : Spelled form l []) :
    l = [] := by
  generalize whole : ([] : Bytes) = e at spelled
  cases spelled with
  | nil => rfl
  | cons first _ =>
    rw [(List.append_eq_nil_iff.mp whole.symm).1] at first
    exact absurd first (nonempty _)

theorem unitFormSome {unit : ℕ} : ¬UnitForm unit [] := fun ⟨_,shape,_⟩ => by cases shape

theorem jsonFormSome (c : CodePoint) : ¬JsonForm c [] := by
  intro form
  generalize whole : ([] : Bytes) = e at form
  cases form with
  | literal encoded =>
    subst whole
    unfold encodePoint at encoded
    split_ifs at encoded <;> cases encoded
  | short => cases whole
  | unit form =>
    subst whole
    exact unitFormSome form
  | pair _ high _ =>
    rw [(List.append_eq_nil_iff.mp whole.symm).1] at high
    exact unitFormSome high

theorem percentFormSome (b : UInt8) : ¬PercentForm b [] := by
  rintro (same | ⟨_,_,same,-⟩) <;> cases same

theorem decodesSome {secret : Bytes} (some : secret ≠ []) : ¬DecodesTo secret [] := by
  rintro (⟨t,reads,spelled⟩ | spelled)
  · obtain rfl := spelledNil jsonFormSome spelled
    rcases reads with encoded | decoded
    · cases encoded
      exact some rfl
    · exact some (List.map_eq_nil_iff.mp decoded.symm)
  · exact some (spelledNil percentFormSome spelled)
end Spellings

section Patterns
variable {b : UInt8} {secret : Bytes}

theorem escapeCons (b : UInt8) (rest : Bytes) :
    escapeBytes (b :: rest) = (if b ∈ specialBytes then [92,b] else [b]) ++ escapeBytes rest := rfl

theorem escapePlain (high : 128 ≤ b.toNat) (rest : Bytes) : escapeBytes (b :: rest) = b :: escapeBytes rest := by
  have low : ∀ c ∈ specialBytes, c.toNat < 128 := by decide +kernel
  rw [escapeCons,if_neg fun special => absurd (low b special) (by omega)]
  rfl

theorem escapeHead (rest : Bytes) : (escapeBytes (b :: rest)).head? ≠ some 40 := by
  rw [escapeCons]
  split
  · simp
  · rename_i plain
    rw [List.singleton_append,List.head?_cons,ne_eq,Option.some.injEq]
    rintro rfl
    exact plain (by decide)

-- The beginning of the pattern of a position with two options or more.
theorem twoOptions {first second : Bytes} (differ : second ≠ first) (more : List Bytes) :
    ∃ tail, positionText (first :: second :: more).eraseDups = [40,63,58] ++ escapeBytes first ++ 124 :: escapeBytes second ++ tail := by
  rw [List.eraseDups_cons,List.filter_cons,if_pos (by simpa using differ),List.eraseDups_cons]
  generalize (List.filter (fun b => !b == second) _).eraseDups = others
  cases others with
  | nil => exact ⟨[41],by simp [positionText,group,List.intercalate]⟩
  | cons third others =>
    exact ⟨124 :: [124].intercalate (escapeBytes third :: others.map escapeBytes) ++ [41],
      by simp [positionText,group,List.intercalate]⟩

theorem percentText (b : UInt8) : ∃ digits tail,
    positionText (percentOptions b) = [40,63,58] ++ escapeBytes [b] ++ 124 :: 37 :: escapeBytes digits ++ tail := by
  have differ : [37,upperDigit (b.toNat / 16),upperDigit (b.toNat % 16)] ≠ [b] := by simp
  obtain ⟨tail,shape⟩ := twoOptions differ [[37,lowerDigit (b.toNat / 16),lowerDigit (b.toNat % 16)]]
  exact ⟨_,tail,shape⟩
-- What stands for the byte as a latin-1 character in a JSON text.
def rawForm (b : UInt8) : Bytes :=
  if b.toNat < 128 then [b] else [(0xC0 + b.toNat / 64).toUInt8,(0x80 + b.toNat % 64).toUInt8]

theorem latinEncoded (b : UInt8) : encodePoint (point b.toNat) = some (rawForm b) := by
  have small := b.toNat_lt
  have value : (point b.toNat).val = b.toNat := by
    simp only [point,Fin.val_ofNat]
    omega
  unfold encodePoint rawForm
  rw [value]
  split
  · simp
  · rw [if_pos (by omega)]

theorem jsonText (b : UInt8) : ∃ digits tail,
    positionText (jsonOptions (point b.toNat)) = [40,63,58] ++ escapeBytes (rawForm b) ++ 124 :: 92 :: digits ++ tail := by
  have small := b.toNat_lt
  have value : (point b.toNat).val = b.toNat := by
    simp only [point,Fin.val_ofNat]
    omega
  unfold jsonOptions
  dsimp only
  rw [latinEncoded,Option.getD_some,value,if_pos (by omega)]
  have differ : unicodeForm b.toNat ≠ rawForm b := by
    unfold unicodeForm rawForm
    split <;> simp
  obtain ⟨tail,shape⟩ := twoOptions differ (if b.toNat = 34 then [[92,34]] else if b.toNat = 92 then [[92,92]]
    else if b.toNat = 47 then [[92,47]] else [])
  exact ⟨_,tail,shape⟩

theorem jsonNotPercent (b : UInt8) (left right : Bytes) :
    positionText (jsonOptions (point b.toNat)) ++ left ≠ positionText (percentOptions b) ++ right := by
  intro same
  obtain ⟨digits,tail,json⟩ := jsonText b
  obtain ⟨others,rest,percent⟩ := percentText b
  rw [json,percent] at same
  simp only [List.append_assoc,List.cons_append,List.nil_append,List.cons.injEq,true_and] at same
  unfold rawForm at same
  split at same
  · have after := List.append_cancel_left same
    simp at after
  · rename_i high
    have bound := b.toNat_lt
    have second : (0x80 + b.toNat % 64).toUInt8.toNat = 0x80 + b.toNat % 64 := by simp; omega
    have first : (0xC0 + b.toNat / 64).toUInt8.toNat = 0xC0 + b.toNat / 64 := by simp; omega
    rw [escapePlain (by omega),escapePlain (by omega),escapePlain (by omega)] at same
    have clash : (0x80 + b.toNat % 64).toUInt8 = 124 := (List.cons.inj (List.cons.inj same).2).1
    rw [clash] at second
    have value : (124 : UInt8).toNat = 124 := rfl
    omega
theorem rawText : patternText (rawPositions secret) = escapeBytes secret := by
  induction secret with
  | nil => rfl
  | cons b rest ih =>
    have split : patternText (rawPositions (b :: rest)) = escapeBytes [b] ++ patternText (rawPositions rest) := rfl
    rw [split,ih,escapeCons,escapeCons]
    simp [escapeBytes]

-- The three patterns have different texts, so that each is kept.
theorem allPatterns (some : secret ≠ []) :
    secretPatterns secret = [rawPositions secret,jsonPositions secret,percentPositions secret] := by
  cases secret with
  | nil => exact absurd rfl some
  | cons b rest =>
    have json : patternText (jsonPositions (b :: rest)) =
      positionText (jsonOptions (point b.toNat)) ++ patternText (jsonPositions rest) := rfl
    have percent : patternText (percentPositions (b :: rest)) =
      positionText (percentOptions b) ++ patternText (percentPositions rest) := rfl
    obtain ⟨digits,tail,jsonShape⟩ := jsonText b
    obtain ⟨others,more,percentShape⟩ := percentText b
    have first : patternText (jsonPositions (b :: rest)) ≠ patternText (rawPositions (b :: rest)) := by
      intro same
      refine escapeHead (b := b) rest ?_
      rw [← rawText,← same,json,jsonShape]
      rfl
    have second : patternText (percentPositions (b :: rest)) ≠ patternText (rawPositions (b :: rest)) := by
      intro same
      refine escapeHead (b := b) rest ?_
      rw [← rawText,← same,percent,percentShape]
      rfl
    have third : patternText (percentPositions (b :: rest)) ≠ patternText (jsonPositions (b :: rest)) := by
      intro same
      rw [json,percent] at same
      exact jsonNotPercent b _ _ same.symm
    unfold secretPatterns addPattern
    simp [first,second,third]

theorem occurrencePattern {stretch : Bytes} (some : secret ≠ []) (occurs : Occurrence secret stretch) :
    ∃ positions ∈ secretPatterns secret, Pattern.Spells positions stretch := by
  rw [allPatterns some]
  rcases occurs with raw | json | percent
  · exact ⟨_,by simp,raw⟩
  · exact ⟨_,by simp,json⟩
  · exact ⟨_,by simp,percent⟩
end Patterns

section Masking
variable {pairs : List (Bytes × Bytes)} {m : Masker}

theorem entriesAll {entries : List Entry} (run : entriesOf pairs = .ok entries) {pair : Bytes × Bytes} (mem : pair ∈ pairs)
    (some : pair.1 ≠ []) : ∃ e ∈ entries, e.patterns = secretPatterns pair.1 := by
  induction pairs generalizing entries with
  | nil => cases mem
  | cons head rest ih =>
    unfold entriesOf at run
    split_ifs at run with empty long
    · rcases List.mem_cons.mp mem with rfl | later
      · exact absurd (List.isEmpty_iff.mp empty) some
      · exact ih run later
    · obtain ⟨later,found,rfl⟩ := okMap run
      rcases List.mem_cons.mp mem with rfl | inside
      · exact ⟨_,List.mem_cons_self,rfl⟩
      · obtain ⟨e,known,same⟩ := ih found inside
        exact ⟨e,List.mem_cons_of_mem _ known,same⟩

theorem maskerAll {masker : Option Masker} (run : buildCaptureMasker pairs = .ok masker) {pair : Bytes × Bytes}
    (mem : pair ∈ pairs) (some : pair.1 ≠ []) : ∃ m, masker = .some m ∧ ∃ e ∈ m.entries, e.patterns = secretPatterns pair.1 := by
  unfold buildCaptureMasker at run
  obtain ⟨entries,found,run⟩ := okBind run
  obtain ⟨e,known,same⟩ := entriesAll found mem some
  simp only [pure,Except.pure] at run
  split_ifs at run with empty
  · rw [List.isEmpty_iff.mp empty] at known
    cases known
  · cases run
    exact ⟨_,rfl,e,(List.mem_insertionSort _).mpr known,same⟩

theorem occurrenceFound {e : Entry} {secret stretch : Bytes} (known : e ∈ m.entries) (patterns : e.patterns = secretPatterns secret)
    (some : secret ≠ []) (occurs : Occurrence secret stretch) (before : Option UInt8) (rest : Bytes) :
    m.pattern.run before (stretch ++ rest) ≠ [] := by
  obtain ⟨positions,listed,spelled⟩ := occurrencePattern some occurs
  have way : (stretch,rest) ∈ e.pattern.run before (stretch ++ rest) :=
    entryWays.mpr ⟨⟨positions,patterns ▸ listed,spelled⟩,rfl⟩
  have found : (stretch,rest) ∈ m.pattern.run before (stretch ++ rest) :=
    Pattern.waysFirstOf.mpr ⟨_,List.mem_map_of_mem known,way⟩
  exact List.ne_nil_of_mem found

theorem spellsSome {positions : Positions} (some : positions ≠ []) (full : ∀ options ∈ positions, [] ∉ options) :
    ¬Pattern.Spells positions [] := by
  intro spelled
  generalize whole : ([] : Bytes) = e at spelled
  cases spelled with
  | nil => exact some rfl
  | cons offered _ =>
    rw [(List.append_eq_nil_iff.mp whole.symm).1] at offered
    exact full _ List.mem_cons_self offered

theorem occurrenceSome {secret : Bytes} (some : secret ≠ []) : ¬Occurrence secret [] := by
  have mapped : ∀ {α : Type} (f : α → List Bytes) (l : List α), l ≠ [] → (∀ a ∈ l, [] ∉ f a) → ¬Pattern.Spells (l.map f) [] := by
    intro α f l notNil each
    refine spellsSome (by simpa using notNil) fun options mem => ?_
    obtain ⟨a,known,rfl⟩ := List.mem_map.mp mem
    exact each a known
  rintro (raw | json | percent)
  · exact mapped _ _ some (fun b _ => by simp) raw
  · refine mapped _ _ (by simpa [decodeLatin] using some) (fun c mem => ?_) json
    obtain ⟨b,_,rfl⟩ := List.mem_map.mp mem
    unfold jsonOptions
    dsimp only
    rw [List.mem_eraseDups,latinEncoded]
    simp only [Option.getD_some,List.mem_cons,not_or]
    refine ⟨?_,?_,?_⟩
    · unfold rawForm
      split <;> simp
    · split <;> simp [unicodeForm]
    · split_ifs <;> simp
  · refine mapped _ _ some (fun b _ => ?_) percent
    unfold percentOptions
    rw [List.mem_eraseDups]
    simp
end Masking

section Hiding
variable {decimalDigit : CodePoint → Option Nat} {ps : List Text} {r : Request}

theorem markerSome {hint : Option Text} {marker : Bytes} {secret : Bytes}
    (hinted : hint = gatewayBearerHint ps (decodeLatin secret)) (run : replacementOf hint = .ok marker) : marker ≠ [] := by
  rintro rfl
  cases hint with
  | none =>
    have same : fullyRedacted = [] := Except.ok.inj run
    exact absurd same (by decide)
  | some t =>
    have encoded : encodeUtf8 t = .ok [] := run
    unfold encodeUtf8 at encoded
    cases found : encode t with
    | none => simp [found] at encoded
    | some bytes =>
      obtain rfl : bytes = [] := by simpa [found] using encoded
      cases t with
      | nil =>
        unfold gatewayBearerHint at hinted
        dsimp only at hinted
        split at hinted
        · cases hinted
        · split at hinted
          · cases hinted
          · rename_i parsed
            obtain ⟨matched,best,-⟩ := Keys.parsedPrefix parsed
            rw [best,Option.bind_some] at hinted
            split at hinted
            · cases hinted
            · simp at hinted
      | cons c rest =>
        simp only [encode,Option.bind_eq_bind,Option.bind_eq_some_iff,Option.some.injEq,List.append_eq_nil_iff] at found
        obtain ⟨head,first,_,_,rfl,_⟩ := found
        exact jsonFormSome c (.literal first)

-- Every spelling of a collected secret in the body is one that the masker's patterns list.
def SpellingsListed (collected : Collected) (body : Bytes) : Prop :=
  ∀ secret ∈ collected.secrets, ∀ e, e <:+: body → DecodesTo secret.1 e → Occurrence secret.1 e

-- No spelling of a collected secret begins, ends or lies in a marker.
def MarkersApart (collected : Collected) (body : Bytes) : Prop :=
  ∀ secret ∈ collected.secrets, ∀ other ∈ collected.secrets, ∀ marker, replacementOf other.2 = .ok marker →
    ∀ earlier, earlier <+: body → ∀ e, Pattern.Meets earlier marker e → ¬DecodesTo secret.1 e

theorem matchSome {collected : Collected} {pairs : List (Bytes × Bytes)} {m : Masker} (hinted : Hinted ps collected)
    (paired : replacementPairs collected = .ok pairs) (built : buildCaptureMasker pairs = .ok (some m))
    {before : Option UInt8} {input : Bytes} {way : Bytes × Bytes} (mem : way ∈ m.pattern.run before input) : way.1 ≠ [] := by
  intro none
  obtain ⟨⟨secret,known,occurs⟩,-⟩ := matchMasked paired built mem
  exact occurrenceSome (hinted secret known).1 (none ▸ occurs)

theorem maskRemoves {collected : Collected} {pairs : List (Bytes × Bytes)} {m : Masker} {body : Bytes}
    (hinted : Hinted ps collected) (paired : replacementPairs collected = .ok pairs)
    (built : buildCaptureMasker pairs = .ok (some m)) (listed : SpellingsListed collected body)
    (apart : MarkersApart collected body) :
    Pattern.Removes m.pattern m.replace (fun e => ∃ secret ∈ collected.secrets, DecodesTo secret.1 e) body := by
  refine ⟨?_,?_,?_,?_,?_⟩
  · intro ⟨secret,mem,decodes⟩
    exact decodesSome (hinted secret mem).1 decodes
  · exact fun before input way mem => matchSome hinted paired built mem
  · intro before input way mem
    obtain ⟨-,other,known,replaced⟩ := matchMasked paired built mem
    exact markerSome (hinted other known).2 replaced
  · intro e ⟨secret,mem,decodes⟩ inside before rest
    obtain ⟨pair,own,same⟩ := (mapMOf paired).1 secret mem
    obtain ⟨marker,_,rfl⟩ := okMap same
    obtain ⟨_,same,entry,known,patterns⟩ := maskerAll built own (hinted secret mem).1
    cases same
    exact occurrenceFound known patterns (hinted secret mem).1 (listed secret mem e inside decodes) before rest
  · intro earlier before input whole way mem e meets ⟨secret,known,decodes⟩
    obtain ⟨-,other,stored,replaced⟩ := matchMasked paired built mem
    exact apart secret known other stored _ replaced earlier ⟨input,whole⟩ e meets decodes

-- Some spelling of a secret in the body overlaps nothing that the patterns list.
def Exposed (collected : Collected) (body : Bytes) : Prop :=
  ∃ secret ∈ collected.secrets, ∃ a e b, body = a ++ (e ++ b) ∧ DecodesTo secret.1 e ∧
    ∀ other ∈ collected.secrets, ∀ u w t, body = u ++ (w ++ t) → Occurrence other.1 w →
      u.length + w.length ≤ a.length ∨ a.length + e.length ≤ u.length

def Hides (collected : Collected) (body : Bytes) : Prop :=
  ∀ secret ∈ collected.secrets, ∀ e, e <:+: body → ¬DecodesTo secret.1 e

theorem maskHides {collected : Collected} {pairs : List (Bytes × Bytes)} {m : Masker} {body : Bytes}
    (hinted : Hinted ps collected) (paired : replacementPairs collected = .ok pairs)
    (built : buildCaptureMasker pairs = .ok (some m)) (listed : SpellingsListed collected body)
    (apart : MarkersApart collected body) : Hides collected (m.mask body) := by
  intro secret mem e inside decodes
  exact Pattern.subAvoids (maskRemoves hinted paired built listed apart) e inside ⟨secret,mem,decodes⟩

theorem maskExposes {collected : Collected} {pairs : List (Bytes × Bytes)} {m : Masker} {body : Bytes}
    (hinted : Hinted ps collected) (paired : replacementPairs collected = .ok pairs)
    (built : buildCaptureMasker pairs = .ok (some m)) (exposed : Exposed collected body) : ¬Hides collected (m.mask body) := by
  obtain ⟨secret,mem,a,e,b,rfl,decodes,apart⟩ := exposed
  have survives : ∃ front later,
      Pattern.subst m.pattern m.replace (a ++ (e ++ b)).length none (a ++ (e ++ b)) = front ++ (e ++ later) :=
    Pattern.substSurvives a e b _ none (Nat.le_refl _)
      (fun before input way mem => (matchSome hinted paired built mem)) fun u t split before way mem => by
        obtain ⟨⟨other,known,occurs⟩,-⟩ := matchMasked paired built mem
        refine apart other known u way.1 way.2 ?_ occurs
        rw [Pattern.runSplits mem,split]
  obtain ⟨front,later,kept⟩ := survives
  intro hides
  exact hides secret mem e ⟨front,later,by rw [List.append_assoc]; exact kept.symm⟩ decodes

end Hiding

def oneDigitCapture : Request := ⟨ascii "/v1",[],[],ascii "\x7b\"key\":\"1\"\x7d"⟩

theorem hexDigitOf {b : UInt8} {k : ℕ} (read : hexValue (point b.toNat) = some k) :
    k < 16 ∧ (k < 10 → b = (48 + k).toUInt8) := by
  have small := b.toNat_lt
  have value : (point b.toNat).val = b.toNat := by
    simp only [point,Fin.val_ofNat]
    omega
  unfold hexValue JsonText.isDigit at read
  rw [value] at read
  simp only [Bool.and_eq_true,decide_eq_true_eq] at read
  split_ifs at read with decimal lower upper <;> obtain rfl := Option.some.inj read
  · refine ⟨by omega,fun _ => ?_⟩
    rw [← UInt8.toNat_inj]
    simp
    omega
  · omega
  · omega

theorem unitOne {e : Bytes} (form : UnitForm 49 e) : e = [92,117,48,48,51,49] := by
  obtain ⟨digits,rfl,read⟩ := form
  match digits,read with
  | a :: b :: c :: d :: rest,read =>
    simp only [decodeLatin,List.map_cons,JsonText.scanHex,Option.bind_eq_bind,Option.bind_eq_some_iff,Option.some.injEq,
      Prod.mk.injEq] at read
    obtain ⟨w,first,x,second,y,third,z,fourth,sum,none⟩ := read
    have zero := hexDigitOf first
    have one := hexDigitOf second
    have two := hexDigitOf third
    have three := hexDigitOf fourth
    obtain ⟨rfl,rfl,rfl,rfl⟩ : w = 0 ∧ x = 0 ∧ y = 3 ∧ z = 1 := by omega
    rw [zero.2 (by decide),one.2 (by decide),two.2 (by decide),three.2 (by decide),List.map_eq_nil_iff.mp none]
    rfl

theorem decodesToOne {e : Bytes} (decodes : DecodesTo [49] e) : e = [49] ∨ e = [92,117,48,48,51,49] ∨ e = [37,51,49] := by
  rcases decodes with ⟨t,reads,spelled⟩ | spelled
  · have single : t = [49] := by
      rcases reads with encoded | decoded
      · exact encodeInjective encoded rfl
      · exact decoded
    subst single
    cases spelled with
    | cons form last =>
      cases last
      rw [List.append_nil]
      cases form with
      | literal encoded => exact .inl (Option.some.inj encoded).symm
      | short known => simp [JsonText.simpleEscapes] at known
      | unit form => exact .inr (.inl (unitOne form))
      | pair high _ _ => exact absurd high (by decide)
  · cases spelled with
    | cons form last =>
      cases last
      rw [List.append_nil]
      rcases form with rfl | ⟨high,low,rfl,first,second⟩
      · exact .inl rfl
      · rw [(hexDigitOf first).2 (by decide),(hexDigitOf second).2 (by decide)]
        exact .inr (.inr rfl)

theorem oneListed {hint : Option Text} {body : Bytes} : SpellingsListed ⟨[([49],none)],hint⟩ body := by
  intro secret mem e _ decodes
  obtain rfl := List.mem_singleton.mp mem
  have single : ∀ {options : List Bytes} {o : Bytes}, o ∈ options → Pattern.Spells [options] o := fun {options o} offered => by
    have spelled : Pattern.Spells [options] (o ++ []) := .cons offered .nil
    rwa [List.append_nil] at spelled
  rcases decodesToOne decodes with rfl | rfl | rfl
  · exact .inl (single (by decide))
  · exact .inr (.inl (single (by decide +kernel)))
  · exact .inr (.inr (single (by decide +kernel)))

theorem oneApart {hint : Option Text} {body : Bytes} : MarkersApart ⟨[([49],none)],hint⟩ body := by
  intro secret mem other known marker replaced earlier _ e meets decodes
  obtain rfl := List.mem_singleton.mp mem
  obtain rfl := List.mem_singleton.mp known
  obtain rfl : fullyRedacted = marker := Except.ok.inj replaced
  obtain ⟨x,z,y,rfl,some,-,inside,-⟩ := meets
  obtain ⟨c,listed⟩ := List.exists_mem_of_ne_nil z some
  have marked : c ∈ fullyRedacted := inside.subset listed
  have spelled : c ∈ x ++ (z ++ y) := List.mem_append_right x (List.mem_append_left y listed)
  have few : c ∈ ([49,92,117,48,51,37] : Bytes) := by
    rcases decodesToOne decodes with same | same | same <;> rw [same] at spelled <;> revert spelled <;> simp <;> tauto
  have disjoint : ∀ c ∈ ([49,92,117,48,51,37] : Bytes), c ∉ fullyRedacted := by decide +kernel
  exact disjoint c few marked

def lineFeedCapture : Request := ⟨ascii "/v1",[],[],ascii "\x7b\"key\":\"a\\nb\"\x7d"⟩

end SlaifGateway.Capture
