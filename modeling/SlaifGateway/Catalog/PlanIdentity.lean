import SlaifGateway.Catalog.OnePrice
import SlaifGateway.Library.Sorting

/-! The identity of a plan. Its operations are sorted by a key and hashed; operations of one
key keep the order in which the review found them. Only prices can share a key: those of two
aliases that create the price of one upstream. -/
namespace SlaifGateway.Catalog
open Store (Uuid Time)
open Library Sorting

-- An operation with the texts of its new price: currency, dimension values and source URL as the bundle gives them.
structure PlannedOp (δ : Type) where
  operation : Operation
  written : Option δ
  deriving DecidableEq

structure HashedPlan (δ η : Type) where
  schemaVersion : ℕ
  planSha256 : η
  operations : List (PlannedOp δ)

section Plan
variable {δ η : Type}

def PlannedOp.key (x : PlannedOp δ) : ℕ ×ₗ String ×ₗ String ×ₗ String :=
  let (kind,first,second,third) := x.operation.sortKey
  toLex (kind,toLex (first,toLex (second,third)))

-- `plan_sha256` is a function of the sorted list.
def buildApplyPlan (sha : List (PlannedOp δ) → η) (operations : List (PlannedOp δ)) : HashedPlan δ η :=
  let sorted := sortedBy PlannedOp.key operations
  ⟨1,sha sorted,sorted⟩

def draftItems (written : ModelPricingFacts → δ) : List Uuid → List ModelReview → List (PlannedOp δ)
  | _,[] => []
  | ids,r :: rest =>
    (r.newRoutes.map fun route => ⟨createRouteOp route,none⟩) ++
      match r.action with
      | .none => draftItems written ids rest
      | .create upstream p => ⟨createPricingOp p upstream,some (written p)⟩ :: draftItems written ids rest
      | .supersede old p =>
        if old.id ∈ ids then draftItems written ids rest
        else ⟨supersedePricingOp old p,some (written p)⟩ :: draftItems written (ids ++ [old.id]) rest

variable (written : ModelPricingFacts → δ) (ctx : Context) (b : RefreshBundle) (baseline : Option CatalogRows) (now : Time)

-- The operations of a review in the order in which they are found.
def derivedOperations : List (PlannedOp δ) :=
  let all := reviews ctx b baseline now
  draftItems written [] all ++
    ((newProviders baseline all).map createProviderOp ++ (fxReviews ctx b baseline now).filterMap FxReview.operation).map
      fun op => ⟨op,none⟩

theorem draftItemsOps (rs : List ModelReview) (d : Draft) : (rs.foldl Draft.add d).operations =
    d.operations ++ (draftItems written d.supersessionRowIds rs).map PlannedOp.operation := by
  induction rs generalizing d with
  | nil => simp [draftItems]
  | cons r rest ih =>
    rw [List.foldl_cons,ih,draftItems,Draft.add]
    cases r.action with
    | none => simp [Function.comp_def]
    | create upstream p => simp [Function.comp_def]
    | supersede old p =>
      dsimp only
      split <;> simp [Function.comp_def]

theorem beforeIff {x y : PlannedOp δ} : x.key ≤ y.key ↔ x.operation.before y.operation = true := by
  simp [PlannedOp.key,Operation.before]

-- What the report lists as its operations is this list, sorted.
theorem planIsSorted : planOperations ctx b baseline now =
    (sortedBy PlannedOp.key (derivedOperations written ctx b baseline now)).map PlannedOp.operation := by
  unfold sortedBy
  rw [List.map_insertionSort (s := fun x y => x.before y) _ _ _ fun x _ y _ => beforeIff]
  unfold planOperations draft derivedOperations
  dsimp only
  rw [draftItemsOps written]
  simp [Function.comp_def]
end Plan

section Reviews
variable {ctx : Context} {b : RefreshBundle} {baseline : Option CatalogRows} {now : Time} {n : ModelName}
  {upstream : String} {p : ModelPricingFacts}

-- The review of the model reaches the comparison with the baseline.
structure Compared (ctx : Context) (b : RefreshBundle) (n : ModelName) (upstream : String) (p : ModelPricingFacts) : Prop where
  proposed : proposal b n = some (upstream,p)
  agreed : ∀ r ∈ (pair b n.1 n.2).routes, r.upstreamModel = upstream
  whole : (ctx.checks n.1 n.2).truncatedRequired = false
  backed : (ctx.checks n.1 n.2).evidenceBlocked = false
  evidence : Free (evidenceFindings ctx n.1 n.2 upstream p)

theorem freeAny {findings : List Finding} : (findings.any fun f => f.severity = .blocker) = false ↔ Free findings := by
  simp [Free]

theorem reviewCompared (compared : Compared ctx b n upstream p) : reviewModel ctx b baseline now n =
    reviewPrice ctx baseline now n.1 n.2 upstream (pair b n.1 n.2).routes p (evidenceFindings ctx n.1 n.2 upstream p) := by
  obtain ⟨provider,model⟩ := n
  obtain ⟨proposed,agreed,whole,backed,evidence⟩ := compared
  unfold proposal at proposed
  unfold reviewModel
  dsimp only at proposed agreed whole backed evidence ⊢
  split at proposed
  · cases proposed
  · rename_i current
    split at proposed
    · rename_i route more q routes pricing
      cases proposed
      rw [if_neg (by rw [routes]; simp),if_neg (by simp [whole]),if_neg current]
      simp only [routes,pricing] at agreed ⊢
      have together : (more.any fun r => decide (r.upstreamModel ≠ route.upstreamModel)) = false := by
        simpa using fun r mem => agreed r (List.mem_cons_of_mem _ mem)
      rw [if_neg (by rw [together]; exact Bool.false_ne_true),if_neg (by simp),if_neg (by simp [backed,freeAny.mpr evidence])]
    · cases proposed

theorem reviewCases : ((reviewModel ctx b baseline now n).action = .none ∧ (reviewModel ctx b baseline now n).newRoutes = []) ∨
    ∃ upstream p, Compared ctx b n upstream p := by
  obtain ⟨provider,model⟩ := n
  by_cases found : ∃ upstream p, Compared ctx b (provider,model) upstream p
  · exact .inr found
  · left
    unfold reviewModel
    dsimp only
    split
    · exact ⟨rfl,rfl⟩
    split
    · exact ⟨rfl,rfl⟩
    rename_i whole
    split
    · exact ⟨rfl,rfl⟩
    rename_i current
    split
    · exact ⟨rfl,rfl⟩
    · exact ⟨rfl,rfl⟩
    rename_i route more p rest routes pricing
    split
    · exact ⟨rfl,rfl⟩
    rename_i agreed
    split
    · exact ⟨rfl,rfl⟩
    rename_i single
    split
    · exact ⟨rfl,rfl⟩
    rename_i backed
    simp only [Bool.or_eq_true,not_or,Bool.not_eq_true] at backed
    refine absurd ⟨route.upstreamModel,p,?_,?_,by simpa using whole,backed.1,freeAny.mp backed.2⟩ found
    · unfold proposal
      rw [if_neg current]
      simp only [routes,pricing,not_not.mp single]
    · rw [routes]
      simp only [Bool.not_eq_true,List.any_eq_false,decide_eq_true_eq,not_not] at agreed
      exact List.forall_mem_cons.mpr ⟨rfl,agreed⟩

theorem pairRoutes {r : RouteFacts} (mem : r ∈ (pair b n.1 n.2).routes) : r ∈ b.routes := by
  have either : ∀ {c : Prop} [Decidable c] {x y : List RouteFacts}, r ∈ (if c then x else y) → r ∈ x ∨ r ∈ y := by
    intro c _ x y mem
    split at mem
    · exact .inl mem
    · exact .inr mem
  rcases either mem with inside | inside <;> exact (List.mem_filter.mp inside).1

theorem newRoutesMem {r : RouteFacts} (mem : r ∈ (reviewModel ctx b baseline now n).newRoutes) : r ∈ b.routes := by
  obtain ⟨-,none⟩ | ⟨upstream,p,compared⟩ := @reviewCases ctx b baseline now n
  · rw [none] at mem
    cases mem
  · rw [reviewCompared compared] at mem
    unfold reviewPrice at mem
    dsimp only at mem
    split at mem
    · cases mem
    · dsimp only at mem
      split at mem
      · exact pairRoutes mem
      · cases mem

-- The checks of a model and of its upstream's stored rows under which a price is created.
structure NewlyPriced (ctx : Context) (b : RefreshBundle) (baseline : Option CatalogRows) (now : Time) (n : ModelName)
    (upstream : String) (p : ModelPricingFacts) : Prop extends Compared ctx b n upstream p where
  unblocked : (ctx.checks n.1 n.2).routeBlockers = []
  complete : p.missingRequired = []
  unpriced : selectActivePricing (baselinePricingFor baseline n.1 upstream) now = (none,false)
  quiet : ∀ r ∈ baselinePricingFor baseline n.1 upstream, r.enabled = true ∧ r.validFrom ≤ now

theorem noConflicts {old : Option PricingRule} {ambiguous : Bool} {routeBlockers : List String}
    (none : priceConflicts old ambiguous routeBlockers p = []) :
    ambiguous = false ∧ routeBlockers = [] ∧ p.missingRequired = [] := by
  simp only [priceConflicts,List.append_eq_nil_iff,List.map_eq_nil_iff,ite_eq_right_iff,reduceCtorEq,imp_false,
    Bool.not_eq_true] at none
  exact ⟨none.1.1.1.1,none.1.2,none.2⟩

theorem pricingCreates {threshold : ℚ} {rows : List PricingRule} {own : String} {q : ModelPricingFacts} :
    (pricingAction threshold rows now own q).1 = .create upstream p ↔
      (own = upstream ∧ q = p) ∧ (selectActivePricing rows now).1 = none ∧ ∀ r ∈ rows, r.enabled = true ∧ r.validFrom ≤ now := by
  unfold pricingAction
  split
  · rename_i empty
    subst empty
    simp [selectActivePricing,selectActive]
  · cases (selectActivePricing rows now).1 with
    | some old =>
      dsimp only
      split_ifs <;> simp
    | none =>
      dsimp only
      split
      · rename_i disabled
        obtain ⟨r,mem,off⟩ := List.any_eq_true.mp disabled
        refine iff_of_false (by simp) fun ⟨_,_,quiet⟩ => ?_
        simp [(quiet r mem).1] at off
      · rename_i enabled
        have live : ∀ r ∈ rows, r.enabled = true := by simpa using enabled
        split
        · rename_i future
          obtain ⟨r,mem,later⟩ := List.any_eq_true.mp future
          refine iff_of_false (by simp) fun ⟨_,_,quiet⟩ => ?_
          simp only [Bool.and_eq_true,decide_eq_true_eq] at later
          exact absurd (quiet r mem).2 (not_le.mpr later.2)
        · rename_i started
          have past : ∀ r ∈ rows, r.validFrom ≤ now := by
            intro r mem
            by_contra late
            exact started (List.any_eq_true.mpr ⟨r,mem,by simpa [live r mem] using late⟩)
          simp only [PricingAction.create.injEq,true_and,iff_self_and]
          exact fun _ r mem => ⟨live r mem,past r mem⟩

theorem createsIff : (reviewModel ctx b baseline now n).action = .create upstream p ↔
    NewlyPriced ctx b baseline now n upstream p := by
  constructor
  · intro creates
    obtain ⟨idle,-⟩ | ⟨own,q,compared⟩ := @reviewCases ctx b baseline now n
    · cases idle.symm.trans creates
    · rw [reviewCompared compared] at creates
      unfold reviewPrice at creates
      dsimp only at creates
      split at creates
      · cases creates
      · rename_i clear
        obtain ⟨sure,unblocked,complete⟩ := noConflicts (not_not.mp clear)
        obtain ⟨⟨rfl,rfl⟩,unpriced,quiet⟩ := pricingCreates.mp creates
        exact ⟨compared,unblocked,complete,Prod.ext unpriced sure,quiet⟩
  · intro priced
    rw [reviewCompared priced.toCompared]
    unfold reviewPrice
    dsimp only
    have clear : priceConflicts (selectActivePricing (baselinePricingFor baseline n.1 upstream) now).1
        (selectActivePricing (baselinePricingFor baseline n.1 upstream) now).2 (ctx.checks n.1 n.2).routeBlockers p = [] := by
      simp [priceConflicts,priced.unpriced,priced.unblocked,priced.complete]
    rw [if_neg (not_not.mpr clear)]
    exact pricingCreates.mpr ⟨⟨rfl,rfl⟩,by rw [priced.unpriced],priced.quiet⟩

theorem supersedesOld {old : PricingRule} (supersedes : (reviewModel ctx b baseline now n).action = .supersede old p) :
    ∃ upstream, (selectActivePricing (baselinePricingFor baseline n.1 upstream) now).1 = some old := by
  obtain ⟨idle,-⟩ | ⟨upstream,q,compared⟩ := @reviewCases ctx b baseline now n
  · cases idle.symm.trans supersedes
  · rw [reviewCompared compared] at supersedes
    unfold reviewPrice at supersedes
    dsimp only at supersedes
    split at supersedes
    · cases supersedes
    · refine ⟨upstream,?_⟩
      unfold pricingAction at supersedes
      split at supersedes
      · cases supersedes
      · split at supersedes
        · split_ifs at supersedes
        · rename_i found
          split_ifs at supersedes <;> cases supersedes <;> exact found
end Reviews

section Items
variable {δ : Type} {written : ModelPricingFacts → δ} {rs : List ModelReview} {ids : List Uuid} {x y : PlannedOp δ}

-- What an item of the draft comes from.
inductive DraftCase (written : ModelPricingFacts → δ) (rs : List ModelReview) (ids : List Uuid) : PlannedOp δ → Prop where
  | route (r) (route) : r ∈ rs → route ∈ r.newRoutes → DraftCase written rs ids ⟨createRouteOp route,none⟩
  | create (r) (upstream) (p) : r ∈ rs → r.action = .create upstream p →
      DraftCase written rs ids ⟨createPricingOp p upstream,some (written p)⟩
  | supersede (r) (old) (p) : r ∈ rs → r.action = .supersede old p → old.id ∉ ids →
      DraftCase written rs ids ⟨supersedePricingOp old p,some (written p)⟩

theorem DraftCase.later {r : ModelReview} {more : List Uuid} (known : ∀ i ∈ ids, i ∈ more)
    (item : DraftCase written rs more x) : DraftCase written (r :: rs) ids x := by
  cases item with
  | route own route mem new => exact .route own route (List.mem_cons_of_mem r mem) new
  | create own upstream p mem action => exact .create own upstream p (List.mem_cons_of_mem r mem) action
  | supersede own old p mem action fresh =>
    exact .supersede own old p (List.mem_cons_of_mem r mem) action fun i => fresh (known _ i)

theorem draftCase (mem : x ∈ draftItems written ids rs) : DraftCase written rs ids x := by
  induction rs generalizing ids with
  | nil => cases mem
  | cons r rest ih =>
    rw [draftItems] at mem
    rcases List.mem_append.mp mem with new | after
    · obtain ⟨route,own,rfl⟩ := List.mem_map.mp new
      exact .route r route List.mem_cons_self own
    · split at after
      · exact (ih after).later fun _ i => i
      · rename_i upstream p action
        rcases List.mem_cons.mp after with rfl | after
        · exact .create r upstream p List.mem_cons_self action
        · exact (ih after).later fun _ i => i
      · rename_i old p action
        split at after
        · exact (ih after).later fun _ i => i
        · rename_i fresh
          rcases List.mem_cons.mp after with rfl | after
          · exact .supersede r old p List.mem_cons_self action fresh
          · exact (ih after).later fun _ i => List.mem_append_left _ i

theorem draftCreates {r : ModelReview} {upstream p} (mem : r ∈ rs) (action : r.action = .create upstream p) :
    ⟨createPricingOp p upstream,some (written p)⟩ ∈ draftItems written ids rs := by
  induction rs generalizing ids with
  | nil => cases mem
  | cons first rest ih =>
    rw [draftItems]
    refine List.mem_append_right _ ?_
    rcases List.mem_cons.mp mem with rfl | mem
    · rw [action]
      exact List.mem_cons_self
    · split
      · exact ih mem
      · exact List.mem_cons_of_mem _ (ih mem)
      · split
        · exact ih mem
        · exact List.mem_cons_of_mem _ (ih mem)

-- A row is closed once.
theorem draftOnce (mem : x ∈ draftItems written ids rs) (other : y ∈ draftItems written ids rs) {i : Uuid}
    (left : x.operation.supersededPricing? = some i) (right : y.operation.supersededPricing? = some i) : x = y := by
  induction rs generalizing ids with
  | nil => cases mem
  | cons r rest ih =>
    rw [draftItems] at mem other
    have notRoute : ∀ {z : PlannedOp δ}, z ∈ r.newRoutes.map (fun route => (⟨createRouteOp route,none⟩ : PlannedOp δ)) →
        z.operation.supersededPricing? = some i → False := by
      intro z inside closes
      obtain ⟨route,_,rfl⟩ := List.mem_map.mp inside
      cases closes
    have mem := (List.mem_append.mp mem).resolve_left fun inside => notRoute inside left
    have other := (List.mem_append.mp other).resolve_left fun inside => notRoute inside right
    split at mem
    · rename_i action
      rw [action] at other
      exact ih mem other
    · rename_i upstream p action
      rw [action] at other
      rcases List.mem_cons.mp mem with rfl | mem
      · cases left
      rcases List.mem_cons.mp other with rfl | other
      · cases right
      exact ih mem other
    · rename_i old p action
      rw [action] at other
      dsimp only at other
      split at mem
      · rename_i known
        rw [if_pos known] at other
        exact ih mem other
      · rename_i fresh
        rw [if_neg fresh] at other
        have apart : ∀ {z : PlannedOp δ}, z ∈ draftItems written (ids ++ [old.id]) rest →
            z.operation.supersededPricing? ≠ some old.id := by
          intro z inside closes
          cases draftCase inside with
          | route => cases closes
          | create => cases closes
          | supersede own stored q _ _ unknown =>
            have same : stored.id = old.id := Option.some.inj closes
            exact unknown (List.mem_append_right _ (by rw [same]; exact List.mem_singleton_self _))
        rcases List.mem_cons.mp mem with rfl | mem
        · rcases List.mem_cons.mp other with rfl | other
          · rfl
          · cases left
            exact absurd right (apart other)
        · rcases List.mem_cons.mp other with rfl | other
          · cases right
            exact absurd left (apart mem)
          · exact ih mem other
end Items

section Identity
variable {ctx : Context} {b : RefreshBundle} {baseline : Option CatalogRows} {now : Time}

theorem fxReviewOp {currency : String} {op : Operation} (found : (reviewFx ctx b baseline now currency).operation = some op) :
    (∃ rate source, op = createFxOp currency rate source) ∨
      ∃ old rate source, op = supersedeFxOp old rate source ∧ old.pair.texts = (currency,"EUR") := by
  unfold reviewFx at found
  split at found
  · cases found
  · rename_i fact rate effective
    dsimp only at found
    split at found
    · cases found
    · split at found
      · rename_i old direct
        split at found
        · cases found
        · split at found
          · cases found
          · exact .inr ⟨old,rate,fact.source,(Option.some.inj found).symm,
              (baselineFxMem.mp (selectActiveSome direct).1).2⟩
      · split at found
        · cases found
        · exact .inl ⟨rate,fact.source,(Option.some.inj found).symm⟩

theorem fxReviewKey {currency : String} {op : Operation} (found : (reviewFx ctx b baseline now currency).operation = some op) :
    op.sortKey.2.1 = currency ∧ 4 ≤ op.sortKey.1 := by
  obtain ⟨rate,source,rfl⟩ | ⟨old,rate,source,rfl,texts⟩ := fxReviewOp found
  · exact ⟨rfl,Nat.le_refl 4⟩
  · exact ⟨congrArg Prod.fst texts,(by decide : 4 ≤ 5)⟩

theorem notFx {currency : String} {op other : Operation} (low : other.sortKey.1 < 4)
    (found : (reviewFx ctx b baseline now currency).operation = some op) : other.sortKey ≠ op.sortKey := by
  intro same
  have high := (fxReviewKey found).2
  rw [← same] at high
  omega

-- A bundle as its schema admits it: every route of its own name and match type.
structure ParsedBundle extends RefreshBundle where
  routeKeys : (routes.map fun r => (r.provider,r.requestedModel,r.matchType)).Nodup

variable {δ : Type} (written : ModelPricingFacts → δ)

-- Where an item of the whole list comes from.
inductive ItemCase (written : ModelPricingFacts → δ) (ctx : Context) (b : RefreshBundle) (baseline : Option CatalogRows)
    (now : Time) : PlannedOp δ → Prop where
  | provider (name) : ItemCase written ctx b baseline now ⟨createProviderOp name,none⟩
  | route (route) : route ∈ b.routes → ItemCase written ctx b baseline now ⟨createRouteOp route,none⟩
  | create (n upstream p) : n ∈ selected b baseline → NewlyPriced ctx b baseline now n upstream p →
      ItemCase written ctx b baseline now ⟨createPricingOp p upstream,some (written p)⟩
  | supersede (n old p) : (reviewModel ctx b baseline now n).action = .supersede old p →
      ⟨supersedePricingOp old p,some (written p)⟩ ∈ draftItems written [] (reviews ctx b baseline now) →
      ItemCase written ctx b baseline now ⟨supersedePricingOp old p,some (written p)⟩
  | fx (currency op) : (reviewFx ctx b baseline now currency).operation = some op →
      ItemCase written ctx b baseline now ⟨op,none⟩

theorem itemCase {x : PlannedOp δ} (mem : x ∈ derivedOperations written ctx b baseline now) :
    ItemCase written ctx b baseline now x := by
  unfold derivedOperations at mem
  rcases List.mem_append.mp mem with drafted | other
  · have own := drafted
    cases draftCase drafted with
    | route r route known new =>
      obtain ⟨n,_,rfl⟩ := List.mem_map.mp known
      exact .route route (newRoutesMem new)
    | create r upstream p known action =>
      obtain ⟨n,chosen,rfl⟩ := List.mem_map.mp known
      exact .create n upstream p chosen (createsIff.mp action)
    | supersede r old p known action =>
      obtain ⟨n,_,rfl⟩ := List.mem_map.mp known
      exact .supersede n old p action own
  · obtain ⟨op,listed,rfl⟩ := List.mem_map.mp other
    rcases List.mem_append.mp listed with provider | fx
    · obtain ⟨name,_,rfl⟩ := List.mem_map.mp provider
      exact .provider name
    · obtain ⟨review,known,made⟩ := List.mem_filterMap.mp fx
      obtain ⟨currency,_,rfl⟩ := List.mem_map.mp known
      exact .fx currency op made

-- Two selected models of one provider that price one upstream anew give the same price.
def PricesAgree (ctx : Context) (b : RefreshBundle) (baseline : Option CatalogRows) (now : Time) : Prop :=
  ∀ n ∈ selected b baseline, ∀ m ∈ selected b baseline, n.1 = m.1 → ∀ upstream p q,
    NewlyPriced ctx b baseline now n upstream p → NewlyPriced ctx b baseline now m upstream q →
    p.newPrice = q.newPrice ∧ written p = written q

theorem keySame {x y : PlannedOp δ} (same : x.key = y.key) : x.operation.sortKey = y.operation.sortKey := by
  simpa [PlannedOp.key,Prod.ext_iff] using same

theorem proposalProvider {n : ModelName} {upstream : String} {p : ModelPricingFacts}
    (proposed : proposal b n = some (upstream,p)) : p.provider = n.1 := by
  unfold proposal at proposed
  split at proposed
  · cases proposed
  · split at proposed
    · rename_i routes pricing
      cases proposed
      exact (pairPricing (by rw [pricing]; exact List.mem_singleton_self p)).1
    · cases proposed

theorem supersedesKey {n : ModelName} {old : PricingRule} {p : ModelPricingFacts}
    (supersedes : (reviewModel ctx b baseline now n).action = .supersede old p) :
    (selectActivePricing (baselinePricingFor baseline old.key.provider old.key.upstreamModel) now).1 = some old ∧
      old.key.endpoint = chatEndpoint := by
  obtain ⟨upstream,found⟩ := supersedesOld supersedes
  have texts := (baselinePricingMem.mp (selectActiveSome found).1).2
  simp only [PricingKey.texts,Prod.mk.injEq] at texts
  rw [texts.1,texts.2.1]
  exact ⟨found,texts.2.2⟩

variable (ctx baseline now)

theorem keysApart (bundle : ParsedBundle) :
    (∀ x ∈ derivedOperations written ctx bundle.toRefreshBundle baseline now,
      ∀ y ∈ derivedOperations written ctx bundle.toRefreshBundle baseline now, x.key = y.key → x = y) ↔
    PricesAgree written ctx bundle.toRefreshBundle baseline now := by
  constructor
  · intro apart n chosen m also provider upstream p q first second
    have item : ∀ {k : ModelName} {facts : ModelPricingFacts}, k ∈ selected bundle.toRefreshBundle baseline →
        NewlyPriced ctx bundle.toRefreshBundle baseline now k upstream facts →
        ⟨createPricingOp facts upstream,some (written facts)⟩ ∈
          derivedOperations written ctx bundle.toRefreshBundle baseline now := by
      intro k facts listed priced
      refine List.mem_append_left _ (draftCreates (List.mem_map_of_mem listed) (createsIff.mpr priced))
    have same := apart _ (item chosen first) _ (item also second) (by
      simp only [PlannedOp.key,Operation.sortKey,createPricingOp,proposalProvider first.proposed,
        proposalProvider second.proposed,provider])
    simp only [PlannedOp.mk.injEq,createPricingOp,Operation.createPricing.injEq,Option.some.injEq,true_and] at same
    exact ⟨same.1.2,same.2⟩
  · intro agree x mem y other same
    have key := keySame same
    cases itemCase written mem with
    | provider name =>
      cases itemCase written other with
      | provider name' =>
        have equal : name = name' := (Prod.ext_iff.mp (Prod.ext_iff.mp key).2).1
        rw [equal]
      | fx _ _ found' => exact absurd key (notFx (of_decide_eq_true rfl) found')
      | _ => cases (Prod.ext_iff.mp key).1
    | route r listed =>
      cases itemCase written other with
      | route r' listed' =>
        have equal : r = r' := List.inj_on_of_nodup_map bundle.routeKeys listed listed' (by
          simpa [Operation.sortKey,createRouteOp] using key)
        rw [equal]
      | fx _ _ found' => exact absurd key (notFx (of_decide_eq_true rfl) found')
      | _ => cases (Prod.ext_iff.mp key).1
    | create n upstream p chosen priced =>
      cases itemCase written other with
      | create m upstream' q also priced' =>
        simp only [Operation.sortKey,createPricingOp,Prod.mk.injEq,true_and,and_true] at key
        obtain ⟨provider,rfl⟩ := key
        have models : n.1 = m.1 := by
          rw [← proposalProvider priced.proposed,← proposalProvider priced'.proposed,provider]
        obtain ⟨price,texts⟩ := agree n chosen m also models upstream p q priced priced'
        simp only [createPricingOp,provider,price,texts]
      | fx _ _ found' => exact absurd key (notFx (of_decide_eq_true rfl) found')
      | _ => cases (Prod.ext_iff.mp key).1
    | supersede n old p action listed =>
      cases itemCase written other with
      | supersede m old' q action' listed' =>
        simp only [Operation.sortKey,supersedePricingOp,Prod.mk.injEq,true_and] at key
        have found := (supersedesKey action).1
        rw [key.1,key.2.1,(supersedesKey action').1] at found
        cases found
        exact draftOnce listed listed' rfl rfl
      | fx _ _ found' => exact absurd key (notFx (of_decide_eq_true rfl) found')
      | _ => cases (Prod.ext_iff.mp key).1
    | fx currency op found =>
      cases itemCase written other with
      | fx currency' op' found' =>
        have equal : currency = currency' := by
          rw [← (fxReviewKey found).1,← (fxReviewKey found').1,key]
        subst equal
        rw [Option.some.inj (found.symm.trans found')]
      | provider | route | create | supersede => exact absurd key.symm (notFx (of_decide_eq_true rfl) found)

theorem planIdentityIff {η : Type} (sha : List (PlannedOp δ) → η) (bundle : ParsedBundle) :
    ((∀ operations, operations.Perm (derivedOperations written ctx bundle.toRefreshBundle baseline now) →
      buildApplyPlan sha operations =
        buildApplyPlan sha (derivedOperations written ctx bundle.toRefreshBundle baseline now)) ↔
      PricesAgree written ctx bundle.toRefreshBundle baseline now) ∧
    ((∀ x ∈ derivedOperations written ctx bundle.toRefreshBundle baseline now,
      ∀ y ∈ derivedOperations written ctx bundle.toRefreshBundle baseline now, x.key = y.key → x = y) ↔
      PricesAgree written ctx bundle.toRefreshBundle baseline now) := by
  refine ⟨?_,keysApart ctx baseline now written bundle⟩
  rw [← keysApart ctx baseline now written bundle,← orderFreeIff]
  constructor
  · intro same operations perm
    exact congrArg HashedPlan.operations (same operations perm)
  · intro same operations perm
    unfold buildApplyPlan
    rw [same operations perm]
end Identity

namespace Aliases

-- Each alias has a price of its own, and only the second names its cached input.
def cached : PricingDimension := ⟨.cachedInput,some 1,"USD",usd⟩

def ownPrice (name : String) : ModelPricingFacts := { price with model := name }

def cachedPrice (name : String) : ModelPricingFacts :=
  { price with model := name, dimensions := price.dimensions ++ [cached], distinct := by decide }

def rival : ParsedBundle where
  providers := ["openai"]
  modelInclude := ["fast","slow"]
  models := []
  pricing := [ownPrice "fast",cachedPrice "slow"]
  routes := [route "fast",route "slow"]
  fx := [⟨"USD","EUR",4 / 5,90,none,none⟩]
  routeKeys := by decide

def cachedContext : Context :=
  { context with evidence := { evidence with observations :=
    ⟨"openai|gpt-x|docs_page","openai","gpt-x",.cachedInput,1,some "USD"⟩ :: evidence.observations } }

def derived : List (PlannedOp String) := derivedOperations ModelPricingFacts.model cachedContext rival.toRefreshBundle (some rows) 100
end Aliases

-- A ready report whose two prices of one upstream come out in the order of the list.
theorem rivalsKeepOrder : (validateBundle Aliases.cachedContext Aliases.rival.toRefreshBundle (some Aliases.rows) 100).state = .ready ∧
    ¬∀ operations, operations.Perm Aliases.derived → buildApplyPlan id operations = buildApplyPlan id Aliases.derived := by
  refine ⟨by decide +kernel,fun same => ?_⟩
  have equal := congrArg HashedPlan.operations (same _ Aliases.derived.reverse_perm)
  have differ : sortedBy PlannedOp.key Aliases.derived.reverse ≠ sortedBy PlannedOp.key Aliases.derived := by decide +kernel
  exact differ equal
end SlaifGateway.Catalog
