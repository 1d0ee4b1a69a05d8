import SlaifGateway.Catalog.Validation

/-! What a review without blockers says of each selected model and of the plan. Every
operation of the plan is the action of one selected model or one required currency, and
an action is decided by the proposal of the model and the baseline rows of its upstream. -/
namespace SlaifGateway.Catalog
open Store (Uuid Time)
open Library

/-- The one price a selected model proposes, with the upstream its routes forward to. -/
def proposal (b : RefreshBundle) (name : ModelName) : Option (String × ModelPricingFacts) :=
  if ∃ f ∈ (pair b name.1 name.2).facts, f.deprecated = true then none
  else match (pair b name.1 name.2).routes,(pair b name.1 name.2).pricing with
  | route::_,[p] => some (route.upstreamModel,p)
  | _,_ => none

def Free (findings : List Finding) : Prop := ∀ f ∈ findings, f.severity ≠ .blocker

@[simp] theorem freeNil : Free [] := by simp [Free]

@[simp] theorem freeAppend {a b : List Finding} : Free (a ++ b) ↔ Free a ∧ Free b := by
  simp only [Free,List.mem_append]
  exact ⟨fun h => ⟨fun f m => h f (Or.inl m),fun f m => h f (Or.inr m)⟩,fun h f m => m.elim (h.1 f) (h.2 f)⟩

@[simp] theorem freeBlocker {code : String} {rest : List Finding} : ¬Free (⟨.blocker,code⟩ :: rest) := by
  simp [Free]

theorem freeFlatMap {α : Type} {f : α → List Finding} {l : List α} : Free (l.flatMap f) ↔ ∀ a ∈ l, Free (f a) := by
  simp only [Free,List.mem_flatMap]
  exact ⟨fun h a mem x here => h x ⟨a,mem,here⟩,fun h x ⟨a,mem,here⟩ => h a mem x here⟩

def ModelReview.Clear (r : ModelReview) : Prop := r.blocked = false ∧ Free r.findings

section Action
variable {threshold : ℚ} {rows : List PricingRule} {now : Time} {upstream : String} {p : ModelPricingFacts}

theorem pricingActionClear (clear : Free (pricingAction threshold rows now upstream p).2) :
    ((selectActivePricing rows now).1 = none ∧ (pricingAction threshold rows now upstream p).1 = .create upstream p ∧
      ∀ r ∈ rows, r.enabled = true ∧ r.validFrom ≤ now) ∨
    ∃ old, (selectActivePricing rows now).1 = some old ∧
      ((priceChanged threshold old p = true ∧ countActivePricing rows now = 1 ∧
          (pricingAction threshold rows now upstream p).1 = .supersede old p) ∨
        (priceChanged threshold old p = false ∧ (pricingAction threshold rows now upstream p).1 = .none)) := by
  unfold pricingAction at clear ⊢
  split at clear
  · rename_i empty
    subst empty
    exact Or.inl ⟨rfl,by simp,by simp⟩
  · rename_i some
    rw [if_neg some]
    split at clear
    · rename_i none
      simp only [none]
      split at clear
      · simp at clear
      rename_i enabled
      split at clear
      · simp at clear
      rename_i past
      refine Or.inl ⟨trivial,by rw [if_neg enabled,if_neg past],fun r mem => ?_⟩
      have live : r.enabled = true := by
        by_contra off
        exact enabled (List.any_eq_true.mpr ⟨r,mem,by simpa using off⟩)
      refine ⟨live,?_⟩
      by_contra late
      exact past (List.any_eq_true.mpr ⟨r,mem,by simp [live,not_le.mp late]⟩)
    · rename_i old found
      simp only [found]
      refine Or.inr ⟨old,rfl,?_⟩
      split at clear
      · rename_i same
        exact Or.inr ⟨same,by rw [if_pos same]⟩
      · rename_i changed
        split at clear
        · simp at clear
        · rename_i once
          exact Or.inl ⟨by simpa using changed,not_not.mp once,by rw [if_neg changed,if_neg once]⟩
end Action

theorem memGetD {α : Type} {a : α} {o : Option (List α)} : a ∈ o.getD [] ↔ ∃ l ∈ o, a ∈ l := by
  cases o <;> simp

theorem pairPricing {b : RefreshBundle} {provider model : String} {p : ModelPricingFacts}
    (mem : p ∈ (pair b provider model).pricing) : p.provider = provider ∧ p ∈ b.pricing := by
  have of : ∀ m, p ∈ b.pricingFor provider m → p.provider = provider ∧ p ∈ b.pricing := by
    intro m here
    simp only [RefreshBundle.pricingFor,List.mem_filter,decide_eq_true_eq] at here
    exact ⟨here.2.1,here.1⟩
  unfold pair at mem
  simp only at mem
  split at mem
  · exact of model mem
  · obtain ⟨l,found,here⟩ := memGetD.mp mem
    obtain ⟨m,_,rfl⟩ := List.mem_map.mp (List.mem_of_find?_eq_some found)
    exact of m here

theorem proposalMem {b : RefreshBundle} {n : ModelName} {upstream : String} {p : ModelPricingFacts}
    (proposed : proposal b n = some (upstream,p)) : p ∈ b.pricing := by
  unfold proposal at proposed
  split at proposed
  · cases proposed
  split at proposed
  · rename_i route more q routes pricing
    cases proposed
    exact (pairPricing (pricing ▸ List.mem_singleton_self p)).2
  · cases proposed

section Review
variable {ctx : Context} {b : RefreshBundle} {baseline : Option CatalogRows} {now : Time}

structure PriceClear (ctx : Context) (baseline : Option CatalogRows) (now : Time) (provider model upstream : String)
    (p : ModelPricingFacts) (review : ModelReview) : Prop where
  sure : (selectActivePricing (baselinePricingFor baseline provider upstream) now).2 = false
  represented : ∀ r ∈ (selectActivePricing (baselinePricingFor baseline provider upstream) now).1,
    r.pricingMetadata.unrepresented = false
  currency : ∀ r ∈ (selectActivePricing (baselinePricingFor baseline provider upstream) now).1, r.currency = p.currency
  complete : p.missingRequired = []
  comparisons : review.comparisons = comparePrices ctx.policy.priceChangeReview provider model
    (selectActivePricing (baselinePricingFor baseline provider upstream) now).1 p
  blockers : Free (pricingAction ctx.policy.priceChangeReview (baselinePricingFor baseline provider upstream) now
    upstream p).2
  action : review.action =
    (pricingAction ctx.policy.priceChangeReview (baselinePricingFor baseline provider upstream) now upstream p).1

theorem reviewPriceClear {provider model upstream routes p evidence}
    (clear : (reviewPrice ctx baseline now provider model upstream routes p evidence).Clear) :
    PriceClear ctx baseline now provider model upstream p
      (reviewPrice ctx baseline now provider model upstream routes p evidence) ∧
    ∀ f ∈ evidence, f ∈ (reviewPrice ctx baseline now provider model upstream routes p evidence).findings := by
  unfold reviewPrice at clear ⊢
  simp only at clear ⊢
  split at clear
  · simp [ModelReview.Clear] at clear
  rename_i conflicts
  rw [if_neg conflicts]
  rw [not_not,priceConflicts] at conflicts
  simp only [List.append_eq_nil_iff,List.map_eq_nil_iff,ite_eq_right_iff,reduceCtorEq,imp_false] at conflicts
  obtain ⟨⟨⟨⟨sure,represented⟩,currency⟩,_⟩,complete⟩ := conflicts
  simp only [ModelReview.Clear,freeAppend,true_and] at clear
  refine ⟨⟨by simpa using sure,fun r mem => ?_,fun r mem => ?_,complete,rfl,clear.1.2,rfl⟩,fun f mem => ?_⟩
  · by_contra bad
    exact represented ⟨r,mem,by simpa using bad⟩
  · by_contra bad
    exact currency ⟨r,mem,bad⟩
  · simp [mem]

/-- A review without blockers either proposes no price or compared the one it proposes. -/
theorem reviewModelClear {name : ModelName} (clear : (reviewModel ctx b baseline now name).Clear) :
    (proposal b name = none ∧ (reviewModel ctx b baseline now name).action = .none ∧
      (reviewModel ctx b baseline now name).comparisons = []) ∨
    ∃ upstream p, proposal b name = some (upstream,p) ∧ p.provider = name.1 ∧
      PriceClear ctx baseline now name.1 name.2 upstream p (reviewModel ctx b baseline now name) ∧
      ∀ d ∈ p.dimensions,
        (ctx.evidence.reconcile name.1 upstream p.sources d).missingFx = [] ∧
        Free (ctx.evidence.reconcile name.1 upstream p.sources d).findings ∧
        ∀ f ∈ (ctx.evidence.reconcile name.1 upstream p.sources d).findings,
          f ∈ (reviewModel ctx b baseline now name).findings := by
  obtain ⟨provider,model⟩ := name
  unfold reviewModel at clear ⊢
  unfold proposal
  simp only at clear ⊢
  split at clear
  · rename_i empty
    rw [if_pos empty]
    refine Or.inl ⟨?_,rfl,rfl⟩
    rw [empty.1,empty.2.1]
    simp
  rename_i named
  rw [if_neg named]
  split at clear
  · simp [ModelReview.Clear,ModelReview.ended] at clear
  rename_i whole
  rw [if_neg whole]
  split at clear
  · rename_i deprecated
    rw [if_pos deprecated,if_pos deprecated]
    exact Or.inl ⟨rfl,rfl,rfl⟩
  rename_i current
  rw [if_neg current,if_neg current]
  split at clear
  · simp [ModelReview.Clear,ModelReview.ended] at clear
  · simp [ModelReview.Clear,ModelReview.ended] at clear
  rename_i route more p rest routes pricing
  simp only [routes,pricing] at clear ⊢
  split at clear
  · simp [ModelReview.Clear,ModelReview.ended] at clear
  rename_i agreed
  rw [if_neg agreed]
  split at clear
  · simp [ModelReview.Clear,ModelReview.ended] at clear
  rename_i single
  rw [if_neg single]
  split at clear
  · simp [ModelReview.Clear,ModelReview.ended] at clear
  rename_i backed
  rw [if_neg backed]
  rw [not_not] at single
  subst single
  obtain ⟨price,kept⟩ := reviewPriceClear clear
  simp only [Bool.or_eq_true,not_or,Bool.not_eq_true,List.any_eq_false,decide_eq_true_eq] at backed
  obtain ⟨⟨_,free⟩,bound⟩ : (Free _ ∧ Free _) ∧ Free _ := by
    rw [← freeAppend,← freeAppend]
    exact backed.2
  have fx : (p.dimensions.map (ctx.evidence.reconcile provider route.upstreamModel p.sources)).flatMap
      Evidence.Reconciled.missingFx = [] := by
    by_contra missing
    rw [if_neg missing] at bound
    exact freeBlocker bound
  have owner : p.provider = provider := (pairPricing (by rw [pricing]; exact List.mem_cons_self)).1
  refine Or.inr ⟨route.upstreamModel,p,rfl,owner,price,fun d mem => ⟨?_,?_,fun f here => kept f ?_⟩⟩
  · rw [List.flatMap_eq_nil_iff] at fx
    exact fx _ (List.mem_map_of_mem mem)
  · exact freeFlatMap.mp free _ (List.mem_map_of_mem mem)
  · refine List.mem_append_left _ (List.mem_append_right _ ?_)
    exact List.mem_flatMap.mpr ⟨_,List.mem_map_of_mem mem,here⟩
end Review

section Active
variable {ρ β : Type} [DecidableEq β] {active : ρ → Bool} {start : ρ → Time} {value : ρ → β} {rows : List ρ}

theorem selectActiveSome {r : ρ} (h : (selectActive active start value rows).1 = some r) : r ∈ rows ∧ active r = true := by
  unfold selectActive at h
  simp only at h
  split at h
  · cases h
  · simpa using List.mem_filter.mp (List.argmax_mem h)

theorem selectActiveNone (h : (selectActive active start value rows).1 = none)
    (sure : (selectActive active start value rows).2 = false) : ∀ r ∈ rows, active r = false := by
  unfold selectActive at h sure
  simp only at h sure
  split at h
  · rename_i many
    simp [many] at sure
  · have empty := List.argmax_eq_none.mp h
    intro r mem
    simpa using List.filter_eq_nil_iff.mp empty r mem

theorem countOne {r x : ρ} (once : rows.countP active = 1) (here : r ∈ rows) (holds : active r = true) (mem : x ∈ rows)
    (also : active x = true) : x = r := by
  rw [List.countP_eq_length_filter,List.length_eq_one_iff] at once
  obtain ⟨only,shape⟩ := once
  have left : r ∈ rows.filter active := List.mem_filter.mpr ⟨here,holds⟩
  have right : x ∈ rows.filter active := List.mem_filter.mpr ⟨mem,also⟩
  rw [shape,List.mem_singleton] at left right
  rw [left,right]
end Active

section Plan

def createOp? (r : ModelReview) : Option Operation :=
  match r.action with
  | .create upstream p => some (createPricingOp p upstream)
  | _ => none

def supersedeOps : List Uuid → List ModelReview → List Operation
  | _,[] => []
  | ids,r::rest =>
    match r.action with
    | .supersede old p =>
      if old.id ∈ ids then supersedeOps ids rest
      else supersedePricingOp old p :: supersedeOps (ids ++ [old.id]) rest
    | _ => supersedeOps ids rest

def routeOps (rs : List ModelReview) : List Operation := rs.flatMap fun r => r.newRoutes.map createRouteOp

theorem draftPerm (rs : List ModelReview) (d : Draft) : List.Perm (rs.foldl Draft.add d).operations
    (d.operations ++ routeOps rs ++ rs.filterMap createOp? ++ supersedeOps d.supersessionRowIds rs) := by
  rw [List.perm_iff_count]
  intro op
  induction rs generalizing d with
  | nil => simp [routeOps,supersedeOps]
  | cons r rest ih =>
    rw [List.foldl_cons,ih]
    simp only [routeOps,List.flatMap_cons,List.filterMap_cons,supersedeOps,createOp?,Draft.add]
    cases r.action with
    | none => simp only [List.count_append]; omega
    | create upstream p => simp only [List.count_append,List.count_cons,List.count_nil]; omega
    | supersede old p =>
      by_cases known : old.id ∈ d.supersessionRowIds
      · simp only [known,if_true,List.count_append]
        omega
      · simp only [known,if_false,List.count_append,List.count_cons,List.count_nil]
        omega

variable {ids : List Uuid} {rs : List ModelReview}

theorem supersedeOpsMem {op : Operation} (mem : op ∈ supersedeOps ids rs) :
    ∃ r ∈ rs, ∃ old p, r.action = .supersede old p ∧ op = supersedePricingOp old p ∧ old.id ∉ ids := by
  induction rs generalizing ids with
  | nil => simp [supersedeOps] at mem
  | cons r rest ih =>
    have later : ∀ {ids'}, (∀ i ∈ ids, i ∈ ids') → op ∈ supersedeOps ids' rest →
        ∃ x ∈ r :: rest, ∃ old p, x.action = .supersede old p ∧ op = supersedePricingOp old p ∧ old.id ∉ ids := by
      intro ids' more here
      obtain ⟨x,known,old,p,action,same,fresh⟩ := ih here
      exact ⟨x,List.mem_cons_of_mem _ known,old,p,action,same,fun i => fresh (more _ i)⟩
    unfold supersedeOps at mem
    split at mem
    · rename_i old p action
      split at mem
      · exact later (fun _ h => h) mem
      · rename_i fresh
        obtain rfl | here := List.mem_cons.mp mem
        · exact ⟨r,List.mem_cons_self,old,p,action,rfl,fresh⟩
        · exact later (fun _ h => List.mem_append_left _ h) here
    · exact later (fun _ h => h) mem

def Operation.supersededPricing? : Operation → Option Uuid
  | .supersedePricing _ _ _ old _ => some old.rowId
  | _ => none

theorem supersedeOpsNodup : ((supersedeOps ids rs).filterMap Operation.supersededPricing?).Nodup := by
  induction rs generalizing ids with
  | nil => simp [supersedeOps]
  | cons r rest ih =>
    unfold supersedeOps
    split
    · rename_i old p action
      split
      · exact ih
      · rw [List.filterMap_cons]
        simp only [supersedePricingOp,Operation.supersededPricing?,List.nodup_cons]
        refine ⟨fun mem => ?_,ih⟩
        obtain ⟨op,here,named⟩ := List.mem_filterMap.mp mem
        obtain ⟨_,_,old',p',_,rfl,fresh⟩ := supersedeOpsMem here
        simp only [supersedePricingOp,Operation.supersededPricing?,Option.some.injEq] at named
        exact fresh (by simp [named])
    · exact ih

theorem supersedeOpsCover {r : ModelReview} {old p} (mem : r ∈ rs) (action : r.action = .supersede old p) :
    old.id ∈ ids ∨ old.id ∈ (supersedeOps ids rs).filterMap Operation.supersededPricing? := by
  induction rs generalizing ids with
  | nil => simp at mem
  | cons x rest ih =>
    unfold supersedeOps
    obtain rfl | later := List.mem_cons.mp mem
    · simp only [action]
      split
      · rename_i known
        exact Or.inl known
      · exact Or.inr (by simp [supersedePricingOp,Operation.supersededPricing?])
    · split
      · rename_i first q _
        split
        · exact ih later
        · obtain known | found := @ih (ids ++ [first.id]) later
          · rw [List.mem_append,List.mem_singleton] at known
            obtain known | same := known
            · exact Or.inl known
            · refine Or.inr (List.mem_filterMap.mpr ⟨_,List.mem_cons_self,?_⟩)
              simp [supersedePricingOp,Operation.supersededPricing?,same]
          · rw [List.filterMap_cons]
            simp only [supersedePricingOp,Operation.supersededPricing?]
            exact Or.inr (List.mem_cons_of_mem _ found)
      · exact ih later

variable (ctx : Context) (b : RefreshBundle) (baseline : Option CatalogRows) (now : Time)

def fxOps : List Operation := (fxReviews ctx b baseline now).filterMap FxReview.operation

theorem planPerm : List.Perm (planOperations ctx b baseline now)
    (routeOps (reviews ctx b baseline now) ++ (reviews ctx b baseline now).filterMap createOp? ++
      supersedeOps [] (reviews ctx b baseline now) ++
      (newProviders baseline (reviews ctx b baseline now)).map createProviderOp ++ fxOps ctx b baseline now) := by
  refine (List.perm_insertionSort _ _).trans ?_
  exact ((draftPerm (reviews ctx b baseline now) ⟨[],[]⟩).append_right _).append_right _
end Plan

section Ready
variable {ctx : Context} {b : RefreshBundle} {baseline : Option CatalogRows} {now : Time}

theorem readyFree (ready : (validateBundle ctx b baseline now).state ≠ .blocked) :
    Free (reportFindings ctx b baseline now) := by
  intro f mem blocker
  refine ready ?_
  have found : (reportFindings ctx b baseline now).any (fun f => f.severity = .blocker) = true :=
    List.any_eq_true.mpr ⟨f,mem,by simpa using blocker⟩
  simp [validateBundle,overallState,found]

theorem readyReview (ready : (validateBundle ctx b baseline now).state ≠ .blocked) {name : ModelName}
    (mem : name ∈ selected b baseline) : (reviewModel ctx b baseline now name).Clear := by
  have free := readyFree ready
  unfold reportFindings at free
  simp only [freeAppend] at free
  obtain ⟨⟨⟨⟨⟨_,models⟩,_⟩,complete⟩,_⟩,_⟩ := free
  have here : reviewModel ctx b baseline now name ∈ reviews ctx b baseline now := List.mem_map_of_mem mem
  refine ⟨?_,freeFlatMap.mp models _ here⟩
  unfold completenessGate at complete
  split at complete
  · exact (freeBlocker complete).elim
  · rename_i open'
    by_contra bad
    exact open' (List.any_eq_true.mpr ⟨_,here,by simpa using bad⟩)

theorem readyFx (ready : (validateBundle ctx b baseline now).state ≠ .blocked) {currency : String}
    (mem : currency ∈ requiredCurrencies b baseline) : Free (reviewFx ctx b baseline now currency).findings := by
  have free := readyFree ready
  unfold reportFindings at free
  simp only [freeAppend] at free
  exact freeFlatMap.mp free.1.1.1.2 _ (List.mem_map_of_mem mem)
end Ready
end SlaifGateway.Catalog
