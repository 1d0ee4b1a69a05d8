import SlaifGateway.Catalog.PlanShape

/-! What backs the prices of a plan. A proposed dimension is compared with the official
observations in the currency it declares; a required one without a match blocks, an
optional one without any observation is only reported. -/
namespace SlaifGateway.Catalog
open Store (Uuid Time)
open Library

namespace Evidence
variable (ev : Evidence)

/-- An official observation of the model, from a declared source, that equals the amount in EUR. -/
def Backs (provider model : String) (declared : List String) (name : DimensionName) (value : ℚ) (currency : String) :
    Prop :=
  ∃ o ∈ ev.officialFor provider model name, o.sourceKey ∈ declared ∧
    (ev.toEur value (some currency)).isSome ∧ ev.toEur o.value o.currency = ev.toEur value (some currency)

def unsupported : Finding := ⟨.review,"source_evidence_unsupported"⟩

variable {ev} {provider model : String} {declared : List String} {d : PricingDimension} {value : ℚ}

theorem convertible (bound : ev.missing value (some d.currency) = []) : ev.toEur value (some d.currency) ≠ none := by
  intro none
  unfold missing at bound
  rw [if_pos none] at bound
  have named : ¬(d.currency ≠ "EUR" ∧ d.currency ≠ "") := by simpa using bound
  have coded := d.coded
  by_cases euro : d.currency = "EUR"
  · simp [toEur,euro] at none
  · have blank : d.currency = "" := not_not.mp fun filled => named ⟨euro,filled⟩
    rw [blank] at coded
    revert coded
    decide +kernel

theorem reconcileBacked (given : d.value = some value)
    (bound : (ev.reconcile provider model declared d).missingFx = [])
    (free : Free (ev.reconcile provider model declared d).findings) :
    ev.Backs provider model declared d.name value d.currency ∨
      required d.name = false ∧ unsupported ∈ (ev.reconcile provider model declared d).findings := by
  unfold reconcile at bound free ⊢
  simp only [given] at bound free ⊢
  split at free
  · simp at free
  rename_i agreed
  rw [if_neg agreed] at bound
  rw [if_neg agreed]
  split at free
  · rename_i none
    simp only [none] at bound
    exact absurd none (convertible bound)
  rename_i eur known
  simp only [known] at bound ⊢
  split at free
  · rename_i matched
    obtain ⟨o,mem,equal⟩ := List.any_eq_true.mp matched
    obtain ⟨official,cited⟩ := List.mem_filter.mp mem
    refine Or.inl ⟨o,official,of_decide_eq_true cited,by simp [known],?_⟩
    rw [known]
    exact of_decide_eq_true equal
  rename_i unmatched
  rw [if_neg unmatched]
  split at free
  · simp at free
  rename_i undeclared
  rw [if_neg undeclared]
  split at free
  · simp at free
  rename_i mismatch
  rw [if_neg mismatch]
  cases needed : required d.name with
  | true => simp [needed] at free
  | false => exact Or.inr ⟨rfl,by simp [unsupported]⟩
end Evidence

theorem dimensionGiven {p : ModelPricingFacts} {name : DimensionName} {value : ℚ}
    (given : p.toDimensions.get name = some value) : ∃ d ∈ p.dimensions, d.name = name ∧ d.value = some value := by
  have found : p.value name = some value := by cases name <;> exact given
  obtain ⟨d,named,same⟩ := Option.bind_eq_some_iff.mp found
  exact ⟨d,List.mem_of_find?_eq_some named,by simpa using List.find?_some named,same⟩

section Plan
variable {ctx : Context} {b : RefreshBundle} {baseline : Option CatalogRows} {now : Time}

theorem reviewFindings {n : ModelName} (name : n ∈ selected b baseline) {f : Finding}
    (mem : f ∈ (reviewModel ctx b baseline now n).findings) : f ∈ (validateBundle ctx b baseline now).findings := by
  change f ∈ reportFindings ctx b baseline now
  unfold reportFindings
  simp only [List.mem_append]
  refine Or.inl (Or.inl (Or.inl (Or.inl (Or.inr (List.mem_flatMap.mpr ⟨_,List.mem_map_of_mem name,mem⟩)))))

end Plan

namespace Unobserved

theorem usd : normalizeCurrency "USD" = some "USD" := by decide +kernel

theorem eur : normalizeCurrency "EUR" = some "EUR" := by decide +kernel

def price (currency : String) (coded : normalizeCurrency currency = some currency) : ModelPricingFacts where
  provider := "openai"
  model := "gpt-x"
  currency := currency
  dimensions := [⟨.input,some 2,"USD",usd⟩,⟨.output,some 8,"USD",usd⟩,⟨.cachedInput,some 1,"USD",usd⟩]
  distinct := by decide
  coded := coded
  validFrom := 90
  sources := ["openai|gpt-x|docs_page"]
  sourceUrl := none

def route : RouteFacts := ⟨"openai","gpt-x","gpt-x","exact",100,true,true,true,[]⟩

def bundle (p : ModelPricingFacts) : RefreshBundle :=
  ⟨["openai"],[],[],[p],[route],[⟨"USD","EUR",4 / 5,90,none,none⟩]⟩

def context : Context where
  evidence :=
    { observations :=
        [⟨"openai|gpt-x|docs_page","openai","gpt-x",.input,2,some "USD"⟩,
         ⟨"openai|gpt-x|docs_page","openai","gpt-x",.output,8,some "USD"⟩]
      officialSourceKeys := ["openai|gpt-x|docs_page"]
      fxToEur := fun code => if code = "USD" then some (4 / 5) else none
      url := id
      digest := id }
  policy := ⟨1 / 4,3 / 100⟩
  findings := []
  checks _ _ := ⟨[],false,[],false,[],false⟩
  fxBound _ := true
  fxRowValid _ := true
  routeRowsValid := true
  pricingRowsValid := true

def report (p : ModelPricingFacts) : ValidationReport := validateBundle context (bundle p) none 100

def planned (p : ModelPricingFacts) : PlannedPrice := ⟨"openai","gpt-x",chatEndpoint,p.newPrice⟩
end Unobserved

end SlaifGateway.Catalog
