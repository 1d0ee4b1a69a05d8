import SlaifGateway.Capture.Secrets
import SlaifGateway.Library.Sorting
import SlaifGateway.LocalCoding.Identity
import Mathlib.Data.List.Lex

/-! The reviewed disable of the prices of a model: the fingerprint of a row, the plan document,
and the application of a plan to the locked rows. Prices are whole counts of 10⁻⁹, times are
microseconds since the epoch. -/
namespace SlaifGateway.PriceReview
open Library JsonText Document LocalCoding.Identity

def maxReviewedRows : ℕ := 1000

structure PricingRule where
  id : Uuid
  provider : Text
  upstreamModel : Text
  endpoint : Text
  currency : Text
  validFrom : ℤ
  validUntil : Option ℤ
  inputPricePer1m : Option ℤ
  cachedInputPricePer1m : Option ℤ
  outputPricePer1m : Option ℤ
  reasoningPricePer1m : Option ℤ
  requestPrice : Option ℤ
  pricingMetadata : Fields
  enabled : Bool

structure ReviewRow where
  pricingRuleId : Uuid
  fingerprint : Text
  deriving DecidableEq

structure DisplayRow where
  pricingRuleId : Uuid
  provider : Text
  upstreamModel : Text
  endpoint : Text
  currency : Text
  validFrom : ℤ
  validUntil : Option ℤ
  inputPricePer1m : Option ℤ
  cachedInputPricePer1m : Option ℤ
  outputPricePer1m : Option ℤ
  reasoningPricePer1m : Option ℤ
  requestPrice : Option ℤ

structure PricingDisablePlan where
  provider : Text
  model : Text
  endpoint : Option Text
  rowCount : ℤ
  rows : List ReviewRow
  displayRows : List DisplayRow

structure PricingDisableApplyResult where
  disabledCount : ℕ
  alreadyDisabled : Bool
  deriving DecidableEq

inductive Refusal
  | value (message : String)
  | stale
  deriving DecidableEq

-- The audit entry `pricing_rule_disabled`.
structure AuditEntry where
  entityId : Uuid
  adminUserId : Option Uuid
  note : Option Text

structure Catalog where
  rules : List PricingRule
  audits : List AuditEntry
  ids : (rules.map PricingRule.id).Nodup

section Facts

def zeros (n : ℕ) : Text := List.replicate n 48

def padded (width n : ℕ) : Text := zeros (width - (Document.decimal n).length) ++ Document.decimal n

-- `str` of a Decimal with nine fractional digits.
def priceText (units : ℤ) : Text :=
  let sign := if units < 0 then [45] else []
  let digits := Document.decimal units.natAbs
  let long := padded 10 units.natAbs
  sign ++ match digits with
    | [a] => a :: text "E-9"
    | [a,b] => a :: 46 :: b :: text "E-8"
    | [a,b,c] => a :: 46 :: b :: c :: text "E-7"
    | _ => long.take (long.length - 9) ++ 46 :: long.drop (long.length - 9)

-- Year, month and day of a day since the epoch in the proleptic Gregorian calendar.
def civil (day : ℤ) : ℤ × ℕ × ℕ :=
  let shifted := day + 719468
  let era := shifted / 146097
  let dayOfEra := (shifted % 146097).toNat
  let yearOfEra := (dayOfEra - dayOfEra / 1460 + dayOfEra / 36524 - dayOfEra / 146096) / 365
  let dayOfYear := dayOfEra - (365 * yearOfEra + yearOfEra / 4 - yearOfEra / 100)
  let month := (5 * dayOfYear + 2) / 153
  let day := dayOfYear - (153 * month + 2) / 5 + 1
  let year := (yearOfEra : ℤ) + era * 400
  if month < 10 then (year,month + 3,day) else (year + 1,month - 9,day)

-- `value.astimezone(UTC).isoformat()`
def utcIso (time : ℤ) : Text :=
  let (year,month,day) := civil (time / 86400000000)
  let clock := (time % 86400000000).toNat
  let second := clock / 1000000
  let micro := clock % 1000000
  padded 4 year.toNat ++ 45 :: padded 2 month ++ 45 :: padded 2 day ++ 84 :: padded 2 (second / 3600) ++
    58 :: padded 2 (second / 60 % 60) ++ 58 :: padded 2 (second % 60) ++
    (if micro = 0 then [] else 46 :: padded 6 micro) ++ text "+00:00"

example : utcIso 1709210096000001 = text "2024-02-29T12:34:56.000001+00:00" := by decide +kernel
example : (priceText 2500000000,priceText 0,priceText 12) = (text "2.500000000",text "0E-9",text "1.2E-8") := by
  decide +kernel

mutual
-- `json.dumps(value, sort_keys=True, separators=(",", ":"), ensure_ascii=True)`
def canonical : Document → Text
  | .arr items => 91 :: ([44] : Text).intercalate (canonicalItems items) ++ [93]
  | .obj fields => 123 :: ([44] : Text).intercalate
      ((Sorting.sortedBy Prod.fst (canonicalFields fields)).map fun (key,value) => quote true key ++ 58 :: value) ++ [125]
  | value => value.dumps true

def canonicalItems : List Document → List Text
  | [] => []
  | value :: rest => canonical value :: canonicalItems rest

def canonicalFields : List (Text × Document) → List (Text × Text)
  | [] => []
  | (key,value) :: rest => (key,canonical value) :: canonicalFields rest
end

-- `sha` is `hashlib.sha256(bytes).hexdigest()`.
variable (sha : List UInt8 → Text)

def hashed (value : Document) : Text := sha ((encode (canonical value)).getD [])

def policyHash (metadata : Fields) : Text := hashed sha (.obj metadata)

def optionalText : Option Text → Document
  | none => .null
  | some t => .str t

def rowFacts (row : PricingRule) : Document :=
  .obj [(text "id",.str (uuidText row.id)),(text "provider",.str row.provider),
    (text "upstream_model",.str row.upstreamModel),(text "endpoint",.str row.endpoint),
    (text "currency",.str row.currency),(text "valid_from",.str (utcIso row.validFrom)),
    (text "valid_until",optionalText (row.validUntil.map utcIso)),
    (text "input_price_per_1m",.str ((row.inputPricePer1m.map priceText).getD (text "None"))),
    (text "cached_input_price_per_1m",optionalText (row.cachedInputPricePer1m.map priceText)),
    (text "output_price_per_1m",.str ((row.outputPricePer1m.map priceText).getD (text "None"))),
    (text "reasoning_price_per_1m",optionalText (row.reasoningPricePer1m.map priceText)),
    (text "request_price",optionalText (row.requestPrice.map priceText)),
    (text "policy_hash",.str (policyHash sha row.pricingMetadata))]

def rowFingerprint (row : PricingRule) : Text := hashed sha (rowFacts sha row)
end Facts

section Validation

-- `^[0-9a-f]{64}$` on the whole text.
def isFingerprint (t : Text) : Bool :=
  t.length = 64 && t.all fun c => (48 ≤ c.val && c.val ≤ 57) || (97 ≤ c.val && c.val ≤ 102)

def checkRows : List Uuid → List ReviewRow → Except Refusal Unit
  | _,[] => .ok ()
  | seen,row :: rest =>
    if row.pricingRuleId ∈ seen then .error (.value "The pricing disable review plan has duplicate row IDs.")
    else if !isFingerprint row.fingerprint then .error (.value "The pricing disable review plan fingerprint is invalid.")
    else checkRows (row.pricingRuleId :: seen) rest

def validateReviewedPlan (plan : PricingDisablePlan) : Except Refusal Unit :=
  if plan.rowCount ≠ plan.rows.length then .error (.value "The pricing disable review plan count is inconsistent.")
  else if (maxReviewedRows : ℤ) < plan.rowCount then .error (.value "The pricing disable review plan exceeds the bounded cap.")
  else checkRows [] plan.rows
end Validation

section Apply
variable (sha : List UInt8 → Text)

def reviewedIds (plan : PricingDisablePlan) : List Uuid := plan.rows.map ReviewRow.pricingRuleId

def lockForReview (catalog : Catalog) (ids : List Uuid) : List PricingRule :=
  Sorting.sortedBy PricingRule.id (catalog.rules.filter fun row => ids.contains row.id)

def sameIds (a b : List Uuid) : Bool := a.all b.contains && b.all a.contains

def inScope (plan : PricingDisablePlan) (row : PricingRule) : Bool :=
  row.provider = plan.provider && row.upstreamModel = plan.model && plan.endpoint.all (row.endpoint = ·)

-- The order of the rows is not observed: over the limit the plan is refused.
def listEnabled (catalog : Catalog) (plan : PricingDisablePlan) (limit : ℕ) : List PricingRule :=
  (catalog.rules.filter fun row => inScope plan row && row.enabled).take limit

def PricingRule.disabledWhen (disables : Bool) (row : PricingRule) : PricingRule :=
  if disables then {row with enabled := false} else row

def setDisabled (catalog : Catalog) (id : Uuid) : Catalog where
  rules := catalog.rules.map fun row => row.disabledWhen (row.id = id)
  audits := catalog.audits
  ids := by
    rw [List.map_map]
    have same : PricingRule.id ∘ (fun row : PricingRule => row.disabledWhen (row.id = id)) = PricingRule.id := by
      funext row
      simp only [Function.comp_apply,PricingRule.disabledWhen]
      split <;> rfl
    rw [same]
    exact catalog.ids

-- The loop over the rows; what it wrote before it raises is there until the caller rolls back.
def disableEach (actorAdminId : Option Uuid) (reason : Option Text) :
    List ReviewRow → Catalog → Except Refusal Unit × Catalog
  | [],catalog => (.ok (),catalog)
  | reviewed :: rest,catalog =>
    if catalog.rules.any (·.id = reviewed.pricingRuleId) then
      let updated := setDisabled catalog reviewed.pricingRuleId
      disableEach actorAdminId reason rest
        {updated with audits := updated.audits ++ [⟨reviewed.pricingRuleId,actorAdminId,reason⟩]}
    else (.error .stale,catalog)

def applyDisableModelReviewed (plan : PricingDisablePlan) (actorAdminId : Option Uuid) (reason : Option Text)
    (catalog : Catalog) : Except Refusal PricingDisableApplyResult × Catalog :=
  match validateReviewedPlan plan with
  | .error e => (.error e,catalog)
  | .ok () =>
    if plan.rows.isEmpty then (.ok ⟨0,false⟩,catalog)
    else
      let locked := lockForReview catalog (reviewedIds plan)
      let byId := fun id => locked.find? (·.id = id)
      let flags := plan.rows.map fun r => (byId r.pricingRuleId).any PricingRule.enabled
      let members := listEnabled catalog plan (maxReviewedRows + 1)
      if !sameIds (locked.map PricingRule.id) (reviewedIds plan) then (.error .stale,catalog)
      else if plan.rows.any fun r => (byId r.pricingRuleId).map (rowFingerprint sha) ≠ some r.fingerprint then
        (.error .stale,catalog)
      else if !(flags.all id || flags.all not) then (.error .stale,catalog)
      else if maxReviewedRows < members.length then (.error .stale,catalog)
      else if flags.all id then
        if !sameIds (members.map PricingRule.id) (reviewedIds plan) then (.error .stale,catalog)
        else
          let done := disableEach actorAdminId reason plan.rows catalog
          (done.1.map fun _ => ⟨plan.rows.length,false⟩,done.2)
      else if !members.isEmpty then (.error .stale,catalog)
      else (.ok ⟨0,true⟩,catalog)
end Apply

section PlanDocument

def renderRow (row : ReviewRow) : Document :=
  .obj [(text "id",.str (uuidText row.pricingRuleId)),(text "fingerprint",.str row.fingerprint)]

def renderPricingDisablePlan (plan : PricingDisablePlan) : Document :=
  .obj [(text "provider",.str plan.provider),(text "model",.str plan.model),(text "endpoint",optionalText plan.endpoint),
    (text "row_count",.int plan.rowCount),(text "rows",.arr (plan.rows.map renderRow))]

-- `text.replace(part, "")`; the number says how many points of a removed occurrence are left.
def removeAll (part : Text) : ℕ → Text → Text
  | _,[] => []
  | skip + 1,_ :: rest => removeAll part skip rest
  | 0,c :: rest => if part.isPrefixOf (c :: rest) then removeAll part (part.length - 1) rest else c :: removeAll part 0 rest

def isBrace (c : CodePoint) : Bool := c.val = 123 || c.val = 125

def stripBraces (t : Text) : Text := ((t.dropWhile isBrace).reverse.dropWhile isBrace).reverse

variable (decimalDigit : CodePoint → Option Nat)

-- `uuid.UUID(t)`
def uuidOf (t : Text) : Option Uuid :=
  let hex := (stripBraces (removeAll (text "uuid:") 0 (removeAll (text "urn:") 0 t))).filter (· ≠ hyphen)
  if hex.length ≠ 32 then none
  else match Capture.intBase16 decimalDigit hex with
    | none => none
    | some n => if 0 ≤ n ∧ n < 2 ^ 128 then some (Fin.ofNat _ n.toNat) else none

-- `str(value)`; the text of a list or a mapping holds a bracket, a quote or a colon, and is no UUID.
def strOf : Document → Option Text
  | .null => some (text "None")
  | .bool true => some (text "True")
  | .bool false => some (text "False")
  | .int n => some (Document.decimal n)
  | .float _ spelling => some spelling
  | .str t => some t
  | _ => none

def optionalScope : Document → Option (Option Text)
  | .null => some none
  | .str t => some (some t)
  | _ => none

def scopeText (value : Document) : Option Text := value.text?.filter fun t => !(stripText t).isEmpty

def count? : Document → Option ℤ
  | .int n => some n
  | _ => none

def readRow (item : Document) : Option ReviewRow := do
  let fields ← item.mapping?
  if !fields.keysAre ["id","fingerprint"] then none
  else do
    let id ← (strOf (fields.get (text "id"))).bind (uuidOf decimalDigit)
    let fingerprint ← (fields.get (text "fingerprint")).text?.filter isFingerprint
    some ⟨id,fingerprint⟩

def readRows : List Uuid → List Document → Option (List ReviewRow)
  | _,[] => some []
  | seen,item :: rest => do
    let row ← readRow decimalDigit item
    if row.pricingRuleId ∈ seen then none
    else (readRows (row.pricingRuleId :: seen) rest).map (row :: ·)

def readPlan (document : Document) : Option PricingDisablePlan := do
  let fields ← document.mapping?
  if !fields.keysAre ["provider","model","endpoint","row_count","rows"] then none
  else do
    let provider ← scopeText (fields.get (text "provider"))
    let model ← scopeText (fields.get (text "model"))
    let endpoint ← optionalScope (fields.get (text "endpoint"))
    let rowCount ← count? (fields.get (text "row_count"))
    let items ← (fields.get (text "rows")).items?
    if rowCount < 0 || (maxReviewedRows : ℤ) < rowCount || (items.length : ℤ) ≠ rowCount then none
    else do
      let rows ← readRows decimalDigit [] items
      some ⟨provider,model,endpoint,rowCount,rows,[]⟩

def parsePricingDisablePlanDocument (document : Document) : Except Refusal PricingDisablePlan :=
  (readPlan decimalDigit document).elim (.error (.value "The pricing disable review plan is missing or invalid.")) .ok
end PlanDocument
end SlaifGateway.PriceReview
