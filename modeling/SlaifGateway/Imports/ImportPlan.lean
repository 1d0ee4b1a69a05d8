import SlaifGateway.Library.Text
import SlaifGateway.Library.Sorting
import Mathlib.Data.Prod.Lex
import Mathlib.Order.BoundedOrder.Basic
import Mathlib.Order.Basic
import Mathlib.Data.Rat.Defs

/-! The import of prices and of exchange rates: rows are read, compared with the rows of the
file before them, classified against the stored rows and planned. Datetimes are a bounded
linear order, whose greatest element is `datetime.max`. -/
namespace SlaifGateway.Imports
open Library

inductive Classification
  | create | duplicate | disabled | overlap | update | conflict | invalid
  deriving DecidableEq

def Classification.name : Classification → String
  | .create => "create"
  | .duplicate => "duplicate"
  | .disabled => "disabled"
  | .overlap => "overlap"
  | .update => "update"
  | .conflict => "conflict"
  | .invalid => "invalid"

-- The half-open time of a row; without an end it stays open.
structure Window (τ : Type) where
  validFrom : τ
  validUntil : Option τ
  deriving DecidableEq

structure PreviewRow (R : Type) where
  rowNumber : ℕ
  classification : Classification
  row : Except Text R

inductive Action
  | create | skipped | invalid
  deriving DecidableEq

structure ExecutionRow (R : Type) where
  rowNumber : ℕ
  action : Action
  ready : Bool
  row : Option R
  errors : List Text

structure ExecutionPlan (R : Type) where
  totalRows : ℕ
  executableCount : ℕ
  blockedCount : ℕ
  rows : List (ExecutionRow R)

def ExecutionPlan.executable {R : Type} (plan : ExecutionPlan R) : Bool := 0 < plan.totalRows && plan.blockedCount = 0

-- The rows that the execution creates, in order.
def ExecutionPlan.created {R : Type} (plan : ExecutionPlan R) : List R :=
  plan.rows.filterMap fun r => if r.action = .create then r.row else none

section Stages
variable {ρ R K : Type} [DecidableEq K]

-- `read` is the check of one row, `identity` what makes two rows of a file repeat each other.
def validateRows (read : ρ → Except Text R) (identity : R → K) : ℕ → List K → List ρ → List (PreviewRow R)
  | _,_,[] => []
  | index,seen,raw :: rest =>
    match read raw with
    | .error e => ⟨index,.invalid,.error e⟩ :: validateRows read identity (index + 1) seen rest
    | .ok row =>
      if identity row ∈ seen then ⟨index,.duplicate,.ok row⟩ :: validateRows read identity (index + 1) seen rest
      else ⟨index,.create,.ok row⟩ :: validateRows read identity (index + 1) (identity row :: seen) rest

def validateImportRows (label : String) (read : ρ → Except Text R) (identity : R → K) (maxRows : ℤ) (rows : List ρ) :
    Except String (List (PreviewRow R)) :=
  if maxRows ≤ 0 then .error "max_rows must be positive"
  else if maxRows < rows.length then .error (label ++ " import may contain at most " ++ toString maxRows ++ " rows")
  else .ok (validateRows read identity 1 [] rows)

def classifyRow (classify : R → Classification) (preview : PreviewRow R) : PreviewRow R :=
  match preview.row with
  | .error _ => preview
  | .ok row => if preview.classification = .duplicate then preview else {preview with classification := classify row}

def executionRow (label : String) (preview : PreviewRow R) : ExecutionRow R :=
  match preview.row with
  | .error e => ⟨preview.rowNumber,.invalid,false,none,[e]⟩
  | .ok row =>
    if preview.classification = .create then ⟨preview.rowNumber,.create,true,some row,[]⟩
    else ⟨preview.rowNumber,.skipped,false,some row,[text (label ++ " import execution only creates new rows; " ++
      preview.classification.name ++ " rows are not supported in this workflow")]⟩

def buildExecutionPlan (label : String) (previews : List (PreviewRow R)) : ExecutionPlan R :=
  let rows := previews.map (executionRow label)
  let blocked := (rows.filter (!·.ready)).length
  ⟨rows.length,rows.length - blocked,blocked,rows⟩
end Stages

section Windows
variable {τ : Type} [LinearOrder τ] [OrderTop τ]

def windowsOverlap (a b : Window τ) : Bool := a.validFrom < b.validUntil.getD ⊤ && b.validFrom < a.validUntil.getD ⊤

-- The other fields of a row (prices, metadata, source, notes) are its details.
structure PricingImportRow (τ δ : Type) where
  provider : Text
  model : Text
  endpoint : Text
  currency : Text
  window : Window τ
  enabled : Bool
  details : δ

structure PricingRule (τ : Type) where
  provider : Text
  upstreamModel : Text
  endpoint : Text
  currency : Text
  window : Window τ
  enabled : Bool
  createdAt : τ

structure FxImportRow (τ δ : Type) where
  baseCurrency : Text
  quoteCurrency : Text
  rate : ℚ
  source : Option Text
  window : Window τ
  details : δ

structure FxRate (τ : Type) where
  baseCurrency : Text
  quoteCurrency : Text
  rate : ℚ
  source : Option Text
  window : Window τ
  createdAt : τ

variable {δ ρ : Type}

def PricingImportRow.key (row : PricingImportRow τ δ) : Text × Text × Text := (row.provider,row.model,row.endpoint)

def PricingRule.key (rule : PricingRule τ) : Text × Text × Text := (rule.provider,rule.upstreamModel,rule.endpoint)

def FxImportRow.key (row : FxImportRow τ δ) : Text × Text := (row.baseCurrency,row.quoteCurrency)

def FxRate.key (rate : FxRate τ) : Text × Text := (rate.baseCurrency,rate.quoteCurrency)

-- The latest to start first, of those the latest created.
def listPricingRules (rules : List (PricingRule τ)) (key : Text × Text × Text) (limit : ℕ) : List (PricingRule τ) :=
  (Sorting.sortedBy (fun r => toLex (OrderDual.toDual r.window.validFrom,OrderDual.toDual r.createdAt))
    (rules.filter (·.key = key))).take limit

def listRatesForPair (rates : List (FxRate τ)) (key : Text × Text) (limit : ℕ) : List (FxRate τ) :=
  (Sorting.sortedBy (fun r => toLex (OrderDual.toDual r.window.validFrom,OrderDual.toDual r.createdAt))
    (rates.filter (·.key = key))).take limit

def classifyPricing (row : PricingImportRow τ δ) (rules : List (PricingRule τ)) : Classification :=
  let exact := rules.filter fun rule => rule.currency = row.currency && rule.window = row.window
  if rules.isEmpty then .create
  else if !exact.isEmpty then if exact.any PricingRule.enabled then .duplicate else .disabled
  else if rules.any fun rule => windowsOverlap row.window rule.window then .overlap
  else .update

-- An empty source counts as none.
def sameSource (a b : Option Text) : Bool := a.filter (!·.isEmpty) = b.filter (!·.isEmpty)

def sameRate (row : FxImportRow τ δ) (rate : FxRate τ) : Bool :=
  rate.key = row.key && rate.rate = row.rate && sameSource rate.source row.source

def classifyFx (row : FxImportRow τ δ) (rates : List (FxRate τ)) : Classification :=
  let exact := rates.filter fun rate => rate.window = row.window
  if rates.isEmpty then .create
  else if !exact.isEmpty then if exact.any (sameRate row) then .duplicate else .update
  else if rates.any fun rate => windowsOverlap row.window rate.window then .conflict
  else .create

def pricingImportPlan (read : ρ → Except Text (PricingImportRow τ δ)) (maxRows : ℤ) (rules : List (PricingRule τ))
    (rows : List ρ) : Except String (ExecutionPlan (PricingImportRow τ δ)) := do
  let previews ← validateImportRows "Pricing" read (fun row => (row.key,row.window)) maxRows rows
  .ok (buildExecutionPlan "pricing"
    (previews.map (classifyRow fun row => classifyPricing row (listPricingRules rules row.key 200))))

def fxImportPlan (read : ρ → Except Text (FxImportRow τ δ)) (maxRows : ℤ) (rates : List (FxRate τ))
    (rows : List ρ) : Except String (ExecutionPlan (FxImportRow τ δ)) := do
  let previews ← validateImportRows "FX" read (fun row => (row.key,row.window)) maxRows rows
  .ok (buildExecutionPlan "FX" (previews.map (classifyRow fun row => classifyFx row (listRatesForPair rates row.key 200))))
end Windows
end SlaifGateway.Imports
