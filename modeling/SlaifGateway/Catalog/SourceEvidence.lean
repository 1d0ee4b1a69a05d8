import SlaifGateway.Library.Decimal
import SlaifGateway.Catalog.Schema

/-! Proposed prices against the observations parsed from the supplied sources. What the
parsers read, which sources are official and which FX quotes are verified enter as data;
only the price fields are modelled. Amounts are compared in EUR at nine fractional digits,
products being rounded to 28 digits first. -/
namespace SlaifGateway.Catalog
open Store (Uuid Time)
open Library

inductive DimensionName where | input | cachedInput | output | reasoning | request
  deriving DecidableEq, Repr

def Dimensions.get (d : Dimensions) : DimensionName → Option ℚ
  | .input => d.input
  | .cachedInput => d.cachedInput
  | .output => d.output
  | .reasoning => d.reasoning
  | .request => d.request

structure PricingDimension where
  name : DimensionName
  value : Option ℚ
  currency : String
  coded : normalizeCurrency currency = some currency
  deriving DecidableEq, Repr

structure Observation where
  sourceKey : String
  provider : String
  model : String
  dimension : DimensionName
  value : ℚ
  currency : Option String
  deriving DecidableEq, Repr

structure Evidence where
  observations : List Observation
  officialSourceKeys : List String
  fxToEur : String → Option ℚ
  url : String → String
  digest : String → String

inductive Severity where | blocker | review | info
  deriving DecidableEq, Repr

structure Finding where
  severity : Severity
  code : String
  deriving DecidableEq, Repr

def quantizeMoney (value : ℚ) : ℚ := Decimal.atScale 9 value

namespace Evidence
variable (ev : Evidence)

def toEur (value : ℚ) (currency : Option String) : Option ℚ :=
  match currency with
  | none => some (quantizeMoney value)
  | some code =>
    if code = "EUR" then some (quantizeMoney value)
    else (ev.fxToEur code).map fun rate => quantizeMoney (Decimal.roundTo 28 (value * rate))

/-- The currencies `_fx_convert` adds to `missing_fx` when it fails. -/
def missing (value : ℚ) (currency : Option String) : List String :=
  if ev.toEur value currency = none then currency.toList.filter fun code => code ≠ "EUR" ∧ code ≠ "" else []

def officialFor (provider bindingModel : String) (name : DimensionName) : List Observation :=
  ev.observations.filter fun o => o.dimension = name ∧ o.provider = provider ∧ o.model = bindingModel ∧
    o.sourceKey ∈ ev.officialSourceKeys

/-- `contradicting_values`: distinct snapshots that do not all give one value. -/
def contradict (observations : List Observation) : Bool :=
  let groups := observations.map fun o => (ev.url o.sourceKey,ev.digest o.sourceKey)
  let values : List (ℚ ⊕ String) := observations.map fun o =>
    match ev.toEur o.value o.currency with
    | some eur => .inl eur
    | none => .inr (o.currency.getD "unknown")
  decide (1 < groups.dedup.length) && decide (1 < values.dedup.length)

structure Reconciled where
  findings : List Finding
  missingFx : List String
  deriving DecidableEq, Repr

def required (name : DimensionName) : Bool := name = .input || name = .output

/-- The pricing branch of `reconcile_model_facts` for one proposed dimension. -/
def reconcile (provider bindingModel : String) (declared : List String) (d : PricingDimension) : Reconciled :=
  match d.value with
  | none => ⟨[],[]⟩
  | some value =>
    let official := ev.officialFor provider bindingModel d.name
    let officialDeclared := official.filter fun o => o.sourceKey ∈ declared
    let undeclared := official.filter fun o => o.sourceKey ∉ declared
    if ev.contradict official then ⟨[⟨.blocker,"source_observations_contradict"⟩],[]⟩
    else match ev.toEur value (some d.currency) with
    | none =>
      ⟨if required d.name then [] else [⟨.review,"source_evidence_unsupported"⟩],ev.missing value (some d.currency)⟩
    | some eur =>
      let lost := officialDeclared.flatMap fun o => ev.missing o.value o.currency
      if officialDeclared.any fun o => ev.toEur o.value o.currency = some eur then ⟨[],lost⟩
      else
        let lostToo := (undeclared.takeWhile fun o => ev.toEur o.value o.currency ≠ some eur).flatMap
          fun o => ev.missing o.value o.currency
        if undeclared.any fun o => ev.toEur o.value o.currency = some eur then
          ⟨[⟨.blocker,"source_evidence_reference_mismatch"⟩],lost ++ lostToo⟩
        else if officialDeclared ≠ [] ∧ officialDeclared.all fun o => ev.toEur o.value o.currency ≠ none then
          ⟨[⟨.blocker,"source_evidence_value_mismatch"⟩],lost ++ lostToo⟩
        else
          ⟨[⟨if required d.name then .blocker else .review,"source_evidence_unsupported"⟩],lost ++ lostToo⟩
end Evidence
end SlaifGateway.Catalog
