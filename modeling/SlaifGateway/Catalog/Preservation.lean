import SlaifGateway.Catalog.OnePrice
import SlaifGateway.Catalog.BackedPrices

/-! The monetary terms of a superseded row. The row inserted in its place holds the
proposed dimensions and no metadata, and the comparisons of the report are made for the
proposed dimensions only, so a term nobody proposes is dropped without notice. -/
namespace SlaifGateway.Catalog
open Store (Uuid Time)
open Library

inductive MonetaryTerm where
  | price (name : DimensionName)
  | audioOutputPrice
  | codexAccounting
  | externalToolFee
  deriving DecidableEq, Repr

inductive MonetaryValue where
  | amount (value : ℚ)
  | codex (accounting : CodexAccounting)
  deriving DecidableEq, Repr

def PricingRule.term (r : PricingRule) : MonetaryTerm → Option MonetaryValue
  | .price name => (r.price.get name).map .amount
  | .audioOutputPrice => r.pricingMetadata.audioOutputPricePer1m.map .amount
  | .codexAccounting => r.pricingMetadata.codexAccounting.map .codex
  | .externalToolFee => r.pricingMetadata.externalToolPricePerCall.map .amount

def ModelPricingFacts.Names (p : ModelPricingFacts) (name : DimensionName) : Prop := ∃ d ∈ p.dimensions, d.name = name

/-- The facts of a proposal have dimensions only. -/
def ModelPricingFacts.Mentions (p : ModelPricingFacts) : MonetaryTerm → Prop
  | .price name => p.Names name
  | _ => False

section Terms
variable (b : RefreshBundle) (baseline : Option CatalogRows) (provider upstream : String)

/-- The comparisons of the report carry no metadata term. -/
def ReportsRemoval (comparisons : List PriceComparison) : MonetaryTerm → Prop
  | .price name => ∃ c ∈ comparisons, c.dimension = name ∧ c.state = .removed ∧ c.provider = provider ∧
      ∃ q, proposal b (c.provider,c.model) = some (upstream,q)
  | _ => False

/-- No unproposed term of the row is lost unseen when `p` supersedes it at `T`. -/
def KeepsTerms (T : Time) (comparisons : List PriceComparison) (r : PricingRule) (p : ModelPricingFacts) : Prop :=
  ∀ term, ¬p.Mentions term →
    (∀ row, PlannedPrice.Written T ⟨provider,upstream,chatEndpoint,p.newPrice⟩ row → row.term term = r.term term) ∨
    ReportsRemoval b provider upstream comparisons term

/-- A model that forwards to the upstream proposes the dimension as absent. -/
def Withdrawn (name : DimensionName) : Prop :=
  ∃ n ∈ selected b baseline, n.1 = provider ∧ ∃ q, proposal b n = some (upstream,q) ∧
    ∃ d ∈ q.dimensions, d.name = name ∧ d.value = none

/-- The row has no metadata term, and each of its prices is proposed or withdrawn. -/
def Replaceable (r : PricingRule) (p : ModelPricingFacts) : Prop :=
  r.pricingMetadata.audioOutputPricePer1m = none ∧ r.pricingMetadata.codexAccounting = none ∧
  r.pricingMetadata.externalToolPricePerCall = none ∧
  ∀ name, r.price.get name ≠ none → p.Names name ∨ Withdrawn b baseline provider upstream name
end Terms

theorem unnamedValue {p : ModelPricingFacts} {name : DimensionName} (unnamed : ¬p.Names name) :
    p.toDimensions.get name = none := by
  cases given : p.toDimensions.get name with
  | none => rfl
  | some value =>
    obtain ⟨d,mem,named,_⟩ := dimensionGiven given
    exact absurd ⟨d,mem,named⟩ unnamed

/-- The inserted row has no term that the proposal does not mention. -/
theorem writtenUnsaid {T : Time} {provider upstream : String} {p : ModelPricingFacts} {row : PricingRule}
    (wrote : PlannedPrice.Written T ⟨provider,upstream,chatEndpoint,p.newPrice⟩ row) {term : MonetaryTerm}
    (unsaid : ¬p.Mentions term) : row.term term = none := by
  obtain ⟨_,_,price,metadata,_⟩ := wrote
  cases term with
  | price name =>
    change (row.price.get name).map MonetaryValue.amount = none
    rw [price]
    exact Option.map_eq_none_iff.mpr (unnamedValue unsaid)
  | audioOutputPrice => simp [PricingRule.term,metadata,PricingMetadata.empty]
  | codexAccounting => simp [PricingRule.term,metadata,PricingMetadata.empty]
  | externalToolFee => simp [PricingRule.term,metadata,PricingMetadata.empty]

/-- A row as the apply would insert it. -/
theorem someWritten (T : Time) {provider upstream : String} (p : ModelPricingFacts)
    (normal : PricingKey.Normal ⟨provider,upstream,chatEndpoint⟩) :
    ∃ row, PlannedPrice.Written T ⟨provider,upstream,chatEndpoint,p.newPrice⟩ row :=
  ⟨⟨0,⟨provider,upstream,chatEndpoint⟩,p.currency,p.toDimensions,.empty,T,none,true,none,0⟩,
    normal,p.coded,rfl,rfl,rfl,rfl,rfl⟩

section Report
variable {ctx : Context} {b : RefreshBundle} {baseline : Option CatalogRows} {now T : Time}
  (ready : (validateBundle ctx b baseline now).state ≠ .blocked)
include ready

/-- The comparisons of a report are those of its models' proposals with the active rows. -/
theorem comparisonIff {c : PriceComparison} : c ∈ (validateBundle ctx b baseline now).comparisons ↔
    ∃ n ∈ selected b baseline, ∃ upstream q, proposal b n = some (upstream,q) ∧
      c ∈ comparePrices ctx.policy.priceChangeReview n.1 n.2
        (selectActivePricing (baselinePricingFor baseline n.1 upstream) now).1 q := by
  have each : ∀ n ∈ selected b baseline, c ∈ (reviewModel ctx b baseline now n).comparisons ↔
      ∃ upstream q, proposal b n = some (upstream,q) ∧ c ∈ comparePrices ctx.policy.priceChangeReview n.1 n.2
        (selectActivePricing (baselinePricingFor baseline n.1 upstream) now).1 q := by
    intro n name
    obtain ⟨none,_,empty⟩ | ⟨upstream,q,proposed,_,price,_⟩ := reviewModelClear (readyReview ready name)
    · simp [none,empty]
    · rw [price.comparisons]
      refine ⟨fun mem => ⟨upstream,q,proposed,mem⟩,fun ⟨u,q',also,mem⟩ => ?_⟩
      cases proposed.symm.trans also
      exact mem
  change c ∈ (reviews ctx b baseline now).flatMap ModelReview.comparisons ↔ _
  simp only [List.mem_flatMap,reviews,List.mem_map]
  constructor
  · rintro ⟨_,⟨n,name,rfl⟩,mem⟩
    exact ⟨n,name,(each n name).mp mem⟩
  · rintro ⟨n,name,found⟩
    exact ⟨_,⟨n,name,rfl⟩,(each n name).mpr found⟩

theorem removalIff {n : ModelName} {upstream : String} {old : PricingRule} {p : ModelPricingFacts} {name : DimensionName}
    (supersedes : Supersedes ctx b baseline now n upstream old p) (held : old.price.get name ≠ none) :
    ReportsRemoval b n.1 upstream (validateBundle ctx b baseline now).comparisons (.price name) ↔
      Withdrawn b baseline n.1 upstream name := by
  constructor
  · rintro ⟨c,mem,named,state,provider,q,proposed⟩
    obtain ⟨m,model,u,q',also,here⟩ := (comparisonIff ready).mp mem
    obtain ⟨d,given,rfl⟩ := List.mem_map.mp here
    cases also.symm.trans proposed
    refine ⟨m,model,provider,q,also,d,given,named,?_⟩
    simp only at state
    split at state
    · cases state
    · cases value : d.value with
      | none => rfl
      | some v =>
        rw [value] at state
        revert state
        cases (selectActivePricing (baselinePricingFor baseline m.1 upstream) now).1.bind
            fun r => r.price.get d.name with
        | none => simp [compareDimension]
        | some o =>
          simp only [compareDimension]
          split_ifs <;> simp
  · rintro ⟨m,model,provider,q,proposed,d,given,rfl,absent⟩
    have found := supersedes.found
    rw [← provider] at found
    obtain ⟨none,_⟩ | ⟨u,q',also,_,price,_⟩ := reviewModelClear (readyReview ready model)
    · cases none.symm.trans proposed
    cases proposed.symm.trans also
    have currency := price.currency old found
    refine ⟨_,(comparisonIff ready).mpr ⟨m,model,upstream,q,proposed,List.mem_map.mpr ⟨d,given,rfl⟩⟩,rfl,?_,provider,q,
      proposed⟩
    simp only [found,Option.mem_def,Option.some.injEq,exists_eq_left',currency,ne_eq,not_true_eq_false,if_false,
      Option.bind_some,absent]
    cases value : old.price.get d.name with
    | none => exact absurd value held
    | some v => rfl

theorem supersessionKeepsTerms (exported : Exported baseline) :
    ∀ op ∈ (validateBundle ctx b baseline now).operations, op.supersededPricing?.isSome →
      ∃ n ∈ selected b baseline, ∃ upstream, ∃ r ∈ pricingRows baseline, ∃ p, proposal b n = some (upstream,p) ∧
        r.key.texts = (n.1,upstream,chatEndpoint) ∧ op = supersedePricingOp r p ∧
        (KeepsTerms b n.1 upstream T (validateBundle ctx b baseline now).comparisons r p ↔
          Replaceable b baseline n.1 upstream r p) := by
  intro op mem superseded
  obtain ⟨k,key⟩ : ∃ k, op.pricingKey? = some k := by
    cases op <;> first | exact ⟨_,rfl⟩ | cases superseded
  obtain create | supersede := planPricing ready mem key
  · obtain ⟨_,_,_,_,_,rfl⟩ := createCase ready create
    cases superseded
  obtain ⟨n,name,upstream,r,p,supersedes,rfl⟩ := supersedeCase ready supersede
  obtain ⟨here,texts,_⟩ := supersedes.oldMem
  refine ⟨n,name,upstream,r,here,p,supersedes.proposed,texts,rfl,?_⟩
  have normal : PricingKey.Normal ⟨n.1,upstream,chatEndpoint⟩ := by
    have same : r.key = ⟨n.1,upstream,chatEndpoint⟩ := PricingKey.textsInjective texts
    exact same ▸ exported.normal r here
  constructor
  · intro keeps
    obtain ⟨row,wrote⟩ := someWritten T p normal
    -- A term the proposal leaves out is gone from the row, so it was never there or its removal is told.
    have absent : ∀ term, ¬p.Mentions term → ¬ReportsRemoval b n.1 upstream
        (validateBundle ctx b baseline now).comparisons term → r.term term = none := by
      intro term unsaid silent
      obtain same | told := keeps term unsaid
      · rw [← same row wrote,writtenUnsaid wrote unsaid]
      · exact absurd told silent
    refine ⟨?_,?_,?_,fun name held => ?_⟩
    · exact Option.map_eq_none_iff.mp (absent .audioOutputPrice id id)
    · exact Option.map_eq_none_iff.mp (absent .codexAccounting id id)
    · exact Option.map_eq_none_iff.mp (absent .externalToolFee id id)
    · by_contra neither
      rw [not_or] at neither
      refine held (Option.map_eq_none_iff.mp (absent (.price name) neither.1 fun told => ?_))
      exact neither.2 ((removalIff ready supersedes held).mp told)
  · rintro ⟨audio,codex,fee,covered⟩ term unsaid
    have kept : r.term term = none → ∀ row, PlannedPrice.Written T ⟨n.1,upstream,chatEndpoint,p.newPrice⟩ row →
        row.term term = r.term term := by
      intro empty row wrote
      rw [empty,writtenUnsaid wrote unsaid]
    cases term with
    | price name =>
      by_cases held : r.price.get name = none
      · exact Or.inl (kept (Option.map_eq_none_iff.mpr held))
      · obtain named | withdrawn := covered name held
        · exact absurd named unsaid
        · exact Or.inr ((removalIff ready supersedes held).mpr withdrawn)
    | audioOutputPrice => exact Or.inl (kept (Option.map_eq_none_iff.mpr audio))
    | codexAccounting => exact Or.inl (kept (Option.map_eq_none_iff.mpr codex))
    | externalToolFee => exact Or.inl (kept (Option.map_eq_none_iff.mpr fee))
end Report

namespace Replacement

def price : ModelPricingFacts := Aliases.price

def stored (metadata : PricingMetadata) (cached : Option ℚ) : PricingRule :=
  ⟨1,⟨"openai","gpt-x",chatEndpoint⟩,"USD",⟨some 3,cached,some 9,none,none⟩,metadata,0,none,true,none,0⟩

def codex : PricingMetadata := ⟨none,some ⟨.multiplier (5 / 4),200000,2,3 / 2⟩,none,false⟩

def rows (r : PricingRule) : CatalogRows := { Aliases.rows with pricing := [r] }

def report (r : PricingRule) : ValidationReport :=
  validateBundle Aliases.context (Aliases.bundle ["fast"]) (some (rows r)) 100

def inserted : PricingRule :=
  ⟨2,⟨"openai","gpt-x",chatEndpoint⟩,"USD",price.toDimensions,.empty,100,none,true,none,100⟩
end Replacement

theorem supersessionKeepsTermsDemo :
    (Replacement.report (Replacement.stored .empty none)).state ≠ .blocked ∧ ∃ n upstream, ∃ r p,
      supersedePricingOp (Replacement.stored .empty none) Replacement.price = supersedePricingOp r p ∧
      (KeepsTerms (Aliases.bundle ["fast"]) n upstream 100
          (Replacement.report (Replacement.stored .empty none)).comparisons r p ↔
        Replaceable (Aliases.bundle ["fast"]) (some (Replacement.rows (Replacement.stored .empty none))) n upstream r p) := by
  have ready : (Replacement.report (Replacement.stored .empty none)).state ≠ .blocked := by decide +kernel
  have exported : Exported (some (Replacement.rows (Replacement.stored .empty none))) :=
    ⟨by decide +kernel,by decide +kernel,by decide +kernel⟩
  have planned : supersedePricingOp (Replacement.stored .empty none) Replacement.price ∈
      (Replacement.report (Replacement.stored .empty none)).operations := by decide +kernel
  obtain ⟨n,_,upstream,r,_,p,_,_,same,iff⟩ := supersessionKeepsTerms ready exported _ planned rfl
  exact ⟨ready,n.1,upstream,r,p,same,iff⟩

/-- A row with Codex accounting and a cached price is replaced by one without either, and nothing is said of it. -/
theorem codexAccountingDropped :
    (Replacement.report (Replacement.stored Replacement.codex (some 1))).state = .readyWithWarnings ∧
    supersedePricingOp (Replacement.stored Replacement.codex (some 1)) Replacement.price ∈
      (Replacement.report (Replacement.stored Replacement.codex (some 1))).operations ∧
    ¬KeepsTerms (Aliases.bundle ["fast"]) "openai" "gpt-x" 100
      (Replacement.report (Replacement.stored Replacement.codex (some 1))).comparisons
      (Replacement.stored Replacement.codex (some 1)) Replacement.price := by
  refine ⟨by decide +kernel,by decide +kernel,fun keeps => ?_⟩
  obtain same | told := keeps .codexAccounting id
  · have wrote : PlannedPrice.Written 100 ⟨"openai","gpt-x",chatEndpoint,Replacement.price.newPrice⟩
        Replacement.inserted := ⟨by decide +kernel,Aliases.usd,rfl,rfl,rfl,rfl,rfl⟩
    have kept := same Replacement.inserted wrote
    revert kept
    decide +kernel
  · exact told
end SlaifGateway.Catalog
