import SlaifGateway.LocalCoding.Identity
import SlaifGateway.Library.Outcome

/-! No two requests share an identity or a signature. A field that holds no separator cannot
be shifted into its neighbour, so equal digests come from equal fields. -/
namespace SlaifGateway.LocalCoding.Identity
open Library

section Admitted

theorem boundedInput {value : Option Text} {label : String} {t : Text} (ok : boundedIdentityInput value label = .ok t) :
    value = some t ∧ newline ∉ t := by
  unfold boundedIdentityInput at ok
  split at ok
  · cases ok
  next u =>
    split at ok
    · cases ok
    split at ok
    · cases ok
    split at ok
    · cases ok
    split at ok
    · cases ok
    next control =>
      cases ok
      exact ⟨rfl,fun mem => control (List.any_eq_true.mpr ⟨newline,mem,by decide⟩)⟩

theorem fixedHexPrintable {width n : ℕ} : ∀ c ∈ fixedHex width n, 48 ≤ c.val := by
  induction width generalizing n with
  | zero => simp [fixedHex]
  | succ width ih =>
    intro c mem
    obtain early | last := List.mem_append.mp mem
    · exact ih c early
    · rw [List.mem_singleton.mp last]
      exact hexDigitPrintable n

theorem uuidTextHex (u : Uuid) : (uuidText u).filter (· ≠ hyphen) = fixedHex 32 u.val := by
  have kept : ∀ {part : Text}, part.Sublist (fixedHex 32 u.val) → part.filter (· ≠ hyphen) = part := by
    intro part inside
    refine List.filter_eq_self.mpr fun c mem => ?_
    have high := fixedHexPrintable c (inside.subset mem)
    rw [decide_eq_true_eq]
    rintro rfl
    exact absurd high (by decide)
  have drops : ∀ n m, ((fixedHex 32 u.val).drop n).take m ++ (fixedHex 32 u.val).drop (n + m) = (fixedHex 32 u.val).drop n := by
    intro n m
    rw [← List.drop_drop,List.take_append_drop]
  unfold uuidText
  simp only [List.filter_append,List.filter_cons,ne_eq,not_true_eq_false,decide_false,Bool.false_eq_true,if_false]
  rw [kept (List.take_sublist _ _),kept ((List.take_sublist _ _).trans (List.drop_sublist _ _)),
    kept ((List.take_sublist _ _).trans (List.drop_sublist _ _)),
    kept ((List.take_sublist _ _).trans (List.drop_sublist _ _)),kept (List.drop_sublist _ _)]
  simp only [List.append_assoc]
  rw [drops 16 4,drops 12 4,drops 8 4,List.take_append_drop]

theorem uuidTextInjective : Function.Injective uuidText := by
  intro u v same
  have hex := congrArg (List.filter (· ≠ hyphen)) same
  rw [uuidTextHex,uuidTextHex] at hex
  exact Fin.ext (fixedHexInj (by have := u.isLt; norm_num at this ⊢; omega) (by have := v.isLt; norm_num at this ⊢; omega) hex)

theorem uuidTextPlain (u : Uuid) : newline ∉ uuidText u := by
  intro mem
  have inside : newline ∈ (uuidText u).filter (· ≠ hyphen) := List.mem_filter.mpr ⟨mem,by decide⟩
  rw [uuidTextHex] at inside
  exact absurd (fixedHexPrintable newline inside) (by decide)

theorem base64UrlPlain (bytes : List UInt8) : newline ∉ text "h" ++ base64Url bytes := by
  intro mem
  obtain first | later := List.mem_append.mp mem
  · exact absurd first (by decide +kernel)
  · exact absurd (base64UrlPrintable bytes newline later) (by decide)

theorem hexBytesPlain (bytes : List UInt8) : newline ∉ hexBytes bytes := by
  intro mem
  obtain ⟨b,_,digit⟩ := List.mem_flatMap.mp mem
  simp only [List.mem_cons,List.not_mem_nil,or_false] at digit
  obtain high | low := digit
  · exact absurd (high ▸ hexDigitPrintable (b.toNat / 16)) (by decide)
  · exact absurd (low ▸ hexDigitPrintable b.toNat) (by decide)

theorem opaquePlain {t : Text} (opaqueText : ∀ c ∈ t, isOpaque c = true) : newline ∉ t :=
  fun mem => absurd (opaqueText newline mem) (by decide)

theorem signedFieldPlain {t : Text} {label : String} {u : Unit} (ok : validateSignedField t label = .ok u) :
    newline ∉ t := by
  unfold validateSignedField at ok
  split at ok
  next signed =>
    cases t with
    | nil => exact List.not_mem_nil
    | cons c rest =>
      simp only [isSignedField,Bool.and_eq_true,List.all_eq_true] at signed
      refine opaquePlain fun d mem => ?_
      obtain rfl | later := List.mem_cons.mp mem
      · simp [isOpaque,signed.1.1]
      · exact signed.2 d later
  · cases ok

theorem checkHolds {holds : Bool} {message : String} {u : Unit} (ok : check holds message = .ok u) : holds = true := by
  unfold check at ok
  split at ok
  · assumption
  · cases ok

end Admitted

section Derived
variable {d : Digests} {secret : List UInt8}

theorem opaqueHmacValue {domain : String} {values : List Text} {t : Text}
    (ok : opaqueHmac d secret domain values = .ok t) : ∃ message,
      encode (joined newline (text domain :: values)) = some message ∧ t = text "h" ++ base64Url (d.hmac secret message) := by
  unfold opaqueHmac at ok
  split at ok
  · cases ok
  next message found =>
    cases ok
    exact ⟨message,found,rfl⟩

theorem opaqueHmacPlain {domain : String} {values : List Text} {t : Text}
    (ok : opaqueHmac d secret domain values = .ok t) : newline ∉ t := by
  obtain ⟨message,_,rfl⟩ := opaqueHmacValue ok
  exact base64UrlPlain _

theorem opaqueHmacInj (mac : Function.Injective (d.hmac secret)) {domain other : String} {values others : List Text}
    {t : Text} (left : opaqueHmac d secret domain values = .ok t) (right : opaqueHmac d secret other others = .ok t)
    (plain : ∀ f ∈ text domain :: values, newline ∉ f) (clean : ∀ f ∈ text other :: others, newline ∉ f) :
    text domain :: values = text other :: others := by
  obtain ⟨message,encoded,rfl⟩ := opaqueHmacValue left
  obtain ⟨message',encoded',same⟩ := opaqueHmacValue right
  have messages := mac (base64UrlInjective (List.append_cancel_left same))
  subst messages
  exact joinedInjective plain clean (List.cons_ne_nil _ _) (List.cons_ne_nil _ _) (encodeInjective encoded encoded')

structure Derived (d : Digests) (input : DeriveInput) (secret : List UInt8) (owner gatewayKey : Uuid)
    (session scope : Text) (identity : RequestIdentity) : Prop where
  keyed : input.derivationSecret = some secret
  owned : input.ownerId = some owner
  authorized : input.gatewayKeyId = some gatewayKey
  hinted : input.identityHints = some [(text "session_id",some session)]
  repositoryScoped : input.repositoryScope = some scope
  plainSession : newline ∉ session
  plainScope : newline ∉ scope
  principal : opaqueHmac d secret principalDomain [uuidText owner] = .ok identity.principal
  session : opaqueHmac d secret sessionDomain [identity.principal,uuidText gatewayKey,session] = .ok identity.session
  repository : opaqueHmac d secret repositoryDomain [identity.principal,scope] = .ok identity.repository

theorem requiredSome {id : Option Uuid} {message : String} {u : Uuid} (ok : required id message = .ok u) : id = some u := by
  cases id with
  | none => cases ok
  | some v =>
    cases ok
    rfl

theorem checkSecretSome {given : Option (List UInt8)} (ok : checkSecret given = .ok secret) : given = some secret := by
  unfold checkSecret at ok
  split at ok
  · cases ok
  · split_ifs at ok
    cases ok
    rfl

theorem sessionHintOne {hints : Option (List (Text × Option Text))} {value : Option Text}
    (ok : sessionHint hints = .ok value) : hints = some [(text "session_id",value)] := by
  unfold sessionHint at ok
  split at ok
  · cases ok
  · split at ok
    next named =>
      cases ok
      rw [named]
    · cases ok
  · cases ok

theorem deriveDerived {input : DeriveInput} {identity : RequestIdentity}
    (ok : deriveRequestIdentity d input = .ok (some identity)) : ∃ secret owner gatewayKey session scope,
      Derived d input secret owner gatewayKey session scope identity := by
  unfold deriveRequestIdentity at ok
  split at ok
  · cases ok
  obtain ⟨found,run,same⟩ := okMap ok
  obtain rfl := Option.some.inj same
  unfold deriveSigned at run
  obtain ⟨secret,keyed,run⟩ := okBind run
  obtain ⟨hint,hinted,run⟩ := okBind run
  obtain ⟨scope,admitted,run⟩ := okBind run
  obtain ⟨owner,owned,run⟩ := okBind run
  obtain ⟨gatewayKey,authorized,run⟩ := okBind run
  obtain ⟨session,bounded,run⟩ := okBind run
  obtain ⟨_,_,run⟩ := okBind run
  obtain ⟨truth,own,run⟩ := okBind run
  obtain ⟨principal,first,run⟩ := okBind run
  obtain ⟨shown,second,run⟩ := okBind run
  obtain ⟨repository,third,run⟩ := okBind run
  obtain rfl := Except.ok.inj run
  obtain ⟨rfl,plainSession⟩ := boundedInput bounded
  obtain rfl := Option.some.inj (boundedInput own).1
  obtain ⟨scopeGiven,plainScope⟩ := boundedInput admitted
  exact ⟨secret,owner,gatewayKey,session,scope,checkSecretSome keyed,requiredSome owned,requiredSome authorized,
    sessionHintOne hinted,scopeGiven,plainSession,plainScope,first,second,third⟩

theorem domainsPlain : newline ∉ text principalDomain ∧ newline ∉ text sessionDomain ∧ newline ∉ text repositoryDomain := by
  decide +kernel

theorem domainsApart : text principalDomain ≠ text sessionDomain ∧ text principalDomain ≠ text repositoryDomain ∧
    text sessionDomain ≠ text repositoryDomain := by
  decide +kernel

namespace Derived
variable {input other : DeriveInput} {owner owner' gatewayKey gatewayKey' : Uuid} {session session' scope scope' : Text}
  {i j : RequestIdentity} (left : Derived d input secret owner gatewayKey session scope i)
  (right : Derived d other secret owner' gatewayKey' session' scope' j) (mac : Function.Injective (d.hmac secret))

theorem principalFields : ∀ f ∈ [text principalDomain,uuidText owner], newline ∉ f := by
  simp [domainsPlain.1,uuidTextPlain]

include left

theorem sessionFields : ∀ f ∈ [text sessionDomain,i.principal,uuidText gatewayKey,session], newline ∉ f := by
  simp [domainsPlain.2.1,uuidTextPlain,opaqueHmacPlain left.principal,left.plainSession]

theorem repositoryFields : ∀ f ∈ [text repositoryDomain,i.principal,scope], newline ∉ f := by
  simp [domainsPlain.2.2,opaqueHmacPlain left.principal,left.plainScope]

include right mac

theorem principalIff : i.principal = j.principal ↔ owner = owner' := by
  constructor
  · intro same
    have fields := opaqueHmacInj mac (same ▸ left.principal) right.principal principalFields principalFields
    exact uuidTextInjective (List.cons.inj (List.cons.inj fields).2).1
  · rintro rfl
    exact Except.ok.inj (left.principal.symm.trans right.principal)

theorem sessionIff : i.session = j.session ↔ owner = owner' ∧ gatewayKey = gatewayKey' ∧ session = session' := by
  constructor
  · intro same
    have fields := opaqueHmacInj mac (same ▸ left.session) right.session left.sessionFields right.sessionFields
    simp only [List.cons.injEq,and_true,true_and] at fields
    exact ⟨(left.principalIff right mac).mp fields.1,uuidTextInjective fields.2.1,fields.2.2⟩
  · rintro ⟨own,rfl,rfl⟩
    have principals := (left.principalIff right mac).mpr own
    exact Except.ok.inj ((principals ▸ left.session.symm).trans right.session)

theorem repositoryIff : i.repository = j.repository ↔ owner = owner' ∧ scope = scope' := by
  constructor
  · intro same
    have fields := opaqueHmacInj mac (same ▸ left.repository) right.repository left.repositoryFields right.repositoryFields
    simp only [List.cons.injEq,and_true,true_and] at fields
    exact ⟨(left.principalIff right mac).mp fields.1,fields.2⟩
  · rintro ⟨own,rfl⟩
    have principals := (left.principalIff right mac).mpr own
    exact Except.ok.inj ((principals ▸ left.repository.symm).trans right.repository)

-- The domain is the first field, and the three domains differ.
theorem kindsApart : i.principal ≠ j.session ∧ i.principal ≠ j.repository ∧ i.session ≠ j.repository := by
  refine ⟨fun same => ?_,fun same => ?_,fun same => ?_⟩
  · have fields := opaqueHmacInj mac (same ▸ left.principal) right.session principalFields right.sessionFields
    exact domainsApart.1 (List.cons.inj fields).1
  · have fields := opaqueHmacInj mac (same ▸ left.principal) right.repository principalFields right.repositoryFields
    exact domainsApart.2.1 (List.cons.inj fields).1
  · have fields := opaqueHmacInj mac (same ▸ left.session) right.repository left.sessionFields right.repositoryFields
    exact domainsApart.2.2 (List.cons.inj fields).1

end Derived
end Derived

section Signed
variable {python : Interpreter} {d : Digests} {secret : List UInt8}

structure Signed (d : Digests) (secret : List UInt8) (input : SignInput) (headers : IdentityHeaders) : Prop where
  principal : newline ∉ input.identity.principal
  session : newline ∉ input.identity.session
  repository : newline ∉ input.identity.repository
  route : newline ∉ input.identity.route
  timestamp : newline ∉ input.timestamp
  nonce : newline ∉ input.nonce
  signature : ∃ bytes, encode (joined newline (canonicalFields d "POST" "/v1/responses" [] input.body input.identity
    input.timestamp input.nonce)) = some bytes ∧ headers.signature = expectedSignature d secret bytes

theorem timestampPlain {timestamp : Text} {u : Unit} (ok : checkTimestamp python timestamp = .ok u) : newline ∉ timestamp := by
  unfold checkTimestamp at ok
  split at ok
  · cases ok
  split at ok
  · cases ok
  next digits =>
    simp only [Bool.or_eq_true,not_or,Bool.not_eq_true,Bool.not_eq_false',List.all_eq_true] at digits
    exact fun mem => absurd (digits.2 newline mem) (by simp [isDigit,newline])

theorem canonicalValue {method path : String} {query body bytes : List UInt8} {identity : RequestIdentity}
    {timestamp nonce : Text}
    (ok : canonicalIdentityBytes d method path query body identity timestamp nonce = .ok bytes) :
    encode (joined newline (canonicalFields d method path query body identity timestamp nonce)) = some bytes := by
  unfold canonicalIdentityBytes at ok
  split at ok
  · cases ok
  next found =>
    cases ok
    exact found

theorem signSigned {input : SignInput} {headers : IdentityHeaders}
    (run : signIdentity python d secret input = .ok headers) : Signed d secret input headers := by
  unfold signIdentity at run
  obtain ⟨_,_,run⟩ := okBind run
  obtain ⟨_,principal,run⟩ := okBind run
  obtain ⟨_,session,run⟩ := okBind run
  obtain ⟨_,repository,run⟩ := okBind run
  obtain ⟨_,route,run⟩ := okBind run
  obtain ⟨_,timestamp,run⟩ := okBind run
  obtain ⟨_,_,run⟩ := okBind run
  obtain ⟨_,_,run⟩ := okBind run
  obtain ⟨_,nonce,run⟩ := okBind run
  obtain ⟨bytes,canonical,run⟩ := okBind run
  obtain rfl := Except.ok.inj run
  have opaqueNonce := checkHolds nonce
  simp only [Bool.and_eq_true,List.all_eq_true] at opaqueNonce
  exact ⟨signedFieldPlain principal,signedFieldPlain session,signedFieldPlain repository,signedFieldPlain route,
    timestampPlain timestamp,opaquePlain opaqueNonce.2,bytes,canonicalValue canonical,rfl⟩

theorem constantsPlain : newline ∉ text "slaif-local-coding-identity-v1" ∧ newline ∉ text "POST" ∧
    newline ∉ text "/v1/responses" := by
  decide +kernel

theorem Signed.fieldsPlain {input : SignInput} {headers : IdentityHeaders} (signed : Signed d secret input headers) :
    ∀ f ∈ canonicalFields d "POST" "/v1/responses" [] input.body input.identity input.timestamp input.nonce,
      newline ∉ f := by
  simp [canonicalFields,constantsPlain,hexBytesPlain,signed.principal,signed.session,signed.repository,signed.route,
    signed.timestamp,signed.nonce]

theorem Signed.signatureIff {a b : SignInput} {g h : IdentityHeaders} (left : Signed d secret a g)
    (right : Signed d secret b h) (sha : Function.Injective d.sha256) (mac : Function.Injective (d.hmac secret)) :
    g.signature = h.signature ↔
      a.identity.principal = b.identity.principal ∧ a.identity.session = b.identity.session ∧
        a.identity.repository = b.identity.repository ∧ a.identity.route = b.identity.route ∧
        a.timestamp = b.timestamp ∧ a.nonce = b.nonce ∧ a.body = b.body := by
  obtain ⟨bytes,encoded,signature⟩ := left.signature
  obtain ⟨bytes',encoded',signature'⟩ := right.signature
  rw [signature,signature']
  constructor
  · intro same
    have messages := mac (hexBytesInjective (List.append_cancel_left same))
    subst messages
    have fields := joinedInjective left.fieldsPlain right.fieldsPlain (List.cons_ne_nil _ _) (List.cons_ne_nil _ _)
      (encodeInjective encoded encoded')
    simp only [canonicalFields,List.cons.injEq,true_and,and_true] at fields
    obtain ⟨body,principal,session,repository,route,timestamp,nonce⟩ := fields
    exact ⟨principal,session,repository,route,timestamp,nonce,sha (hexBytesInjective body)⟩
  · rintro ⟨principal,session,repository,route,timestamp,nonce,body⟩
    have canonical : canonicalFields d "POST" "/v1/responses" [] a.body a.identity a.timestamp a.nonce =
        canonicalFields d "POST" "/v1/responses" [] b.body b.identity b.timestamp b.nonce := by
      simp only [canonicalFields,principal,session,repository,route,timestamp,nonce,body]
    rw [canonical] at encoded
    rw [Option.some.inj (encoded.symm.trans encoded')]

end Signed

def DeriveInput.sessionId (input : DeriveInput) : Option Text :=
  input.identityHints.bind fun hints => (hints.lookup (text "session_id")).join

theorem Derived.sessionGiven {d input secret owner gatewayKey session scope i}
    (derived : Derived d input secret owner gatewayKey session scope i) : input.sessionId = some session := by
  simp [DeriveInput.sessionId,derived.hinted]

theorem identityUnambiguous (python : Interpreter) (d : Digests) (sha : Function.Injective d.sha256)
    (mac : ∀ secret, Function.Injective (d.hmac secret)) :
    (∀ a b i j, a.derivationSecret = b.derivationSecret → deriveRequestIdentity d a = .ok (some i) →
      deriveRequestIdentity d b = .ok (some j) →
      (i.principal = j.principal ↔ a.ownerId = b.ownerId) ∧
      (i.session = j.session ↔
        a.ownerId = b.ownerId ∧ a.gatewayKeyId = b.gatewayKeyId ∧ a.sessionId = b.sessionId) ∧
      (i.repository = j.repository ↔ a.ownerId = b.ownerId ∧ a.repositoryScope = b.repositoryScope) ∧
      i.principal ≠ j.session ∧ i.principal ≠ j.repository ∧ i.session ≠ j.repository) ∧
    ∀ secret a b g h, signIdentity python d secret a = .ok g → signIdentity python d secret b = .ok h →
      (g.signature = h.signature ↔
        a.identity.principal = b.identity.principal ∧ a.identity.session = b.identity.session ∧
          a.identity.repository = b.identity.repository ∧ a.identity.route = b.identity.route ∧
          a.timestamp = b.timestamp ∧ a.nonce = b.nonce ∧ a.body = b.body) := by
  refine ⟨fun a b i j keys ok also => ?_,fun secret a b g h ok also => ?_⟩
  · obtain ⟨secret,owner,gatewayKey,session,scope,left⟩ := deriveDerived ok
    obtain ⟨secret',owner',gatewayKey',session',scope',right⟩ := deriveDerived also
    obtain rfl : secret = secret' := Option.some.inj (left.keyed.symm.trans (keys.trans right.keyed))
    rw [left.owned,right.owned,left.authorized,right.authorized,left.sessionGiven,right.sessionGiven,left.repositoryScoped,
      right.repositoryScoped]
    simp only [Option.some.injEq]
    exact ⟨left.principalIff right (mac secret),left.sessionIff right (mac secret),left.repositoryIff right (mac secret),
      left.kindsApart right (mac secret)⟩
  · exact (signSigned ok).signatureIff (signSigned also) sha (mac secret)

namespace Demo

def digests : Digests := ⟨id,fun _ message => message⟩

def route : RouteContract := ⟨[114],.signedIdentityV1,16,128⟩

def request (scope : Text) : DeriveInput :=
  ⟨some 3,some 7,some [(text "session_id",some (uuidText 9))],some scope,route,some (List.replicate 32 65)⟩

def identity : RequestIdentity := ⟨[112],[115],[114],[114],.signedIdentityV1⟩

def message (body : List UInt8) : SignInput := ⟨identity,body,route,[49],List.replicate 16 65⟩

def python : Interpreter := ⟨fun _ => false,fun _ => some true⟩

end Demo

theorem deriveSome (d : Digests) (input : DeriveInput) (mode : input.route.identityMode = .signedIdentityV1)
    (done : (deriveSigned d input).toOption.isSome = true) : ∃ i, deriveRequestIdentity d input = .ok (some i) := by
  obtain ⟨i,run⟩ := okSome done
  refine ⟨i,?_⟩
  rw [deriveRequestIdentity,mode]
  simp only [run]
  rfl

theorem identityUnambiguousDemo :
    (∃ i j, deriveRequestIdentity Demo.digests (Demo.request [47]) = .ok (some i) ∧
      deriveRequestIdentity Demo.digests (Demo.request [48]) = .ok (some j) ∧ i.repository ≠ j.repository) ∧
    ∃ g h, signIdentity Demo.python Demo.digests [65] (Demo.message [1]) = .ok g ∧
      signIdentity Demo.python Demo.digests [65] (Demo.message [2]) = .ok h ∧ g.signature ≠ h.signature := by
  have holds := identityUnambiguous Demo.python Demo.digests Function.injective_id fun _ => Function.injective_id
  constructor
  · obtain ⟨i,one⟩ := deriveSome Demo.digests (Demo.request [47]) rfl (by decide +kernel)
    obtain ⟨j,two⟩ := deriveSome Demo.digests (Demo.request [48]) rfl (by decide +kernel)
    refine ⟨i,j,one,two,fun same => ?_⟩
    obtain ⟨_,scopes⟩ := (holds.1 (Demo.request [47]) (Demo.request [48]) i j rfl one two).2.2.1.mp same
    exact absurd (Option.some.inj scopes) (by decide)
  · obtain ⟨g,one⟩ := okSome (x := signIdentity Demo.python Demo.digests [65] (Demo.message [1])) (by decide +kernel)
    obtain ⟨h,two⟩ := okSome (x := signIdentity Demo.python Demo.digests [65] (Demo.message [2])) (by decide +kernel)
    refine ⟨g,h,one,two,fun same => ?_⟩
    obtain ⟨_,_,_,_,_,_,bodies⟩ := (holds.2 _ _ _ g h one two).mp same
    exact absurd bodies (by decide)

end SlaifGateway.LocalCoding.Identity
