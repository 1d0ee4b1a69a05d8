import SlaifGateway.Routing.RouteResolution

/-! The best route among all routes of a model, and when the page of the routes read shows it.
The outcome is a function of the matching routes of the page; routes that share a precedence
are told apart by their ids, so that no two of them are ever ambiguous. -/
namespace SlaifGateway.Routing
open Library Sorting

def hits (requestedModel : Text) (r : ModelRoute) : Bool :=
  match matchesModelRoute requestedModel r with
  | .ok hit => hit
  | .error _ => false

-- A route that matches, of a provider in use that the key allows.
def eligible (configs : List ProviderConfig) (key : AuthenticatedGatewayKey) (requestedModel : Text) (r : ModelRoute) : Bool :=
  hits requestedModel r && r.enabled && (configs.any fun c => c.provider = r.provider && c.enabled) &&
    providerAllowed key r.provider

def KnownMatchType (r : ModelRoute) : Prop := r.matchType = "exact" ∨ r.matchType = "prefix" ∨ r.matchType = "glob"

def resolvePage (configs : List ProviderConfig) (key : AuthenticatedGatewayKey) (requestedModel : Text)
    (page : List ModelRoute) : Except RouteResolutionError RouteResolutionResult := do
  let found ← collectMatches requestedModel page ⟨[],false⟩
  chooseRoute configs key requestedModel found

section Page
variable {configs : List ProviderConfig} {key : AuthenticatedGatewayKey} {requestedModel : Text} {page : List ModelRoute}

theorem matchesKnown {r : ModelRoute} (known : KnownMatchType r) :
    matchesModelRoute requestedModel r = .ok (hits requestedModel r) := by
  unfold hits matchesModelRoute
  rcases known with same | same | same <;> simp [same]

theorem collectKnown (known : ∀ r ∈ page, KnownMatchType r) (found : Collected) :
    collectMatches requestedModel page found = .ok
      ⟨found.matchingRoutes ++ (page.filter (hits requestedModel)).filter ModelRoute.enabled,
        found.matchedDisabledRoutes || (page.filter (hits requestedModel)).any (!·.enabled)⟩ := by
  induction page generalizing found with
  | nil => simp [collectMatches]
  | cons r rest ih =>
    have later := ih fun s mem => known s (List.mem_cons_of_mem _ mem)
    rw [collectMatches,matchesKnown (known r List.mem_cons_self)]
    change (if !hits requestedModel r then _ else _) = _
    cases hit : hits requestedModel r with
    | false => simp [later,hit]
    | true =>
      cases use : r.enabled with
      | false => simp [later,hit,use]
      | true => simp [later,hit,use]

theorem providerFound {provider : Text} {c : ProviderConfig} (found : providerByName configs provider = some c) :
    c ∈ configs ∧ c.provider = provider :=
  ⟨List.mem_reverse.mp (List.mem_of_find?_eq_some found),by simpa using List.find?_some found⟩

theorem configUnique (names : (configs.map ProviderConfig.provider).Nodup) {c d : ProviderConfig} (first : c ∈ configs)
    (second : d ∈ configs) (same : c.provider = d.provider) : c = d :=
  List.inj_on_of_nodup_map names first second same

theorem rankedIff (names : (configs.map ProviderConfig.provider).Nodup) (r : ModelRoute) :
    (rankedMatch configs r).isSome = configs.any fun c => c.provider = r.provider && c.enabled := by
  unfold rankedMatch
  rw [Option.isSome_map,Bool.eq_iff_iff,List.any_eq_true]
  cases found : providerByName configs r.provider with
  | none =>
    have absent := List.find?_eq_none.mp found
    constructor
    · intro impossible
      simp at impossible
    · rintro ⟨c,mem,use⟩
      simp only [Bool.and_eq_true,decide_eq_true_eq] at use
      exact absurd use.1 (by simpa using absent c (List.mem_reverse.mpr mem))
  | some c =>
    obtain ⟨mem,same⟩ := providerFound found
    constructor
    · intro use
      have enabled : c.enabled = true := by
        by_contra off
        simp [Option.filter,off] at use
      exact ⟨c,mem,by simp [same,enabled]⟩
    · rintro ⟨d,other,use⟩
      simp only [Bool.and_eq_true,decide_eq_true_eq] at use
      obtain rfl := configUnique names mem other (same.trans use.1.symm)
      simp [Option.filter,use.2]

theorem rankedRoute {r : ModelRoute} {m : RankedMatch} (ranked : rankedMatch configs r = some m) : m.route = r := by
  obtain ⟨c,-,rfl⟩ := Option.map_eq_some_iff.mp ranked
  rfl

theorem rankedConfig {r : ModelRoute} {m : RankedMatch} (ranked : rankedMatch configs r = some m) :
    m.providerConfig ∈ configs ∧ m.providerConfig.provider = r.provider := by
  obtain ⟨c,kept,rfl⟩ := Option.map_eq_some_iff.mp ranked
  exact providerFound (Option.filter_eq_some_iff.mp kept).1

theorem rankedIds (routes : List ModelRoute) :
    ((routes.filterMap (rankedMatch configs)).map (·.route.id)).Sublist (routes.map ModelRoute.id) := by
  induction routes with
  | nil => exact List.Sublist.slnil
  | cons r rest ih =>
    cases ranked : rankedMatch configs r with
    | none =>
      rw [List.filterMap_cons_none ranked]
      exact ih.cons _
    | some m =>
      rw [List.filterMap_cons_some ranked,List.map_cons,List.map_cons,rankedRoute ranked]
      exact ih.cons_cons _

-- Distinct ids never tie.
theorem pickLeast {ms : List RankedMatch} (some : ms ≠ []) (distinct : (ms.map (·.route.id)).Nodup) :
    ∃ best ∈ ms, (∀ m ∈ ms, best.sortKey ≤ m.sortKey) ∧ pickBest requestedModel ms = .ok (resolution requestedModel best) := by
  have listed : ∀ m, m ∈ sortedBy RankedMatch.sortKey ms ↔ m ∈ ms := fun m => sortedMem
  have ordered : (sortedBy RankedMatch.sortKey ms).Pairwise fun a b => a.sortKey ≤ b.sortKey := sortedPairwise
  have apart : ((sortedBy RankedMatch.sortKey ms).map (·.route.id)).Nodup := (sortedPerm.map _).nodup_iff.mpr distinct
  unfold pickBest
  cases sorted : sortedBy RankedMatch.sortKey ms with
  | nil =>
    obtain ⟨m,mem⟩ := List.exists_mem_of_ne_nil ms some
    rw [← listed,sorted] at mem
    cases mem
  | cons best rest =>
    rw [sorted] at listed ordered apart
    have least : ∀ m ∈ ms, best.sortKey ≤ m.sortKey := by
      intro m mem
      rcases List.mem_cons.mp ((listed m).mpr mem) with rfl | later
      · exact le_rfl
      · exact (List.pairwise_cons.mp ordered).1 m later
    refine ⟨best,(listed best).mp List.mem_cons_self,least,?_⟩
    cases rest with
    | nil => rfl
    | cons second more =>
      have differ : best.sortKey ≠ second.sortKey := by
        intro same
        have ids : best.route.id = second.route.id := congrArg (fun k => (ofLex k).2) same
        simp [ids] at apart
      exact if_neg differ

def matching (requestedModel : Text) (page : List ModelRoute) : List ModelRoute :=
  (page.filter (hits requestedModel)).filter ModelRoute.enabled

theorem eligibleMem (names : (configs.map ProviderConfig.provider).Nodup) {m : RankedMatch} :
    m ∈ allowedMatches configs key (matching requestedModel page) ↔
      m.route ∈ page ∧ eligible configs key requestedModel m.route ∧ rankedMatch configs m.route = some m := by
  unfold allowedMatches matching
  rw [List.mem_filter,List.mem_filterMap]
  constructor
  · rintro ⟨⟨r,mem,ranked⟩,allowed⟩
    obtain rfl := rankedRoute ranked
    rw [List.mem_filter,List.mem_filter] at mem
    have used := rankedIff names m.route
    rw [ranked] at used
    exact ⟨mem.1.1,by simp [eligible,mem.1.2,mem.2,allowed,← used],ranked⟩
  · rintro ⟨mem,fits,ranked⟩
    simp only [eligible,Bool.and_eq_true] at fits
    exact ⟨⟨m.route,List.mem_filter.mpr ⟨List.mem_filter.mpr ⟨mem,fits.1.1.1⟩,fits.1.1.2⟩,ranked⟩,fits.2⟩

theorem eligibleRanked (names : (configs.map ProviderConfig.provider).Nodup) {r : ModelRoute}
    (fits : eligible configs key requestedModel r) : ∃ m : RankedMatch, m.route = r ∧ rankedMatch configs m.route = some m := by
  simp only [eligible,Bool.and_eq_true] at fits
  obtain ⟨m,ranked⟩ := Option.isSome_iff_exists.mp ((rankedIff names r).trans fits.1.2)
  obtain rfl := rankedRoute ranked
  exact ⟨m,rfl,ranked⟩

theorem resolveKnown (known : ∀ r ∈ page, KnownMatchType r) :
    resolvePage configs key requestedModel page = chooseRoute configs key requestedModel
      ⟨matching requestedModel page,(page.filter (hits requestedModel)).any (!·.enabled)⟩ := by
  unfold resolvePage
  rw [collectKnown known]
  rfl

-- The page shows an eligible route: the least of them is chosen.
theorem pageChooses (names : (configs.map ProviderConfig.provider).Nodup) (ids : (page.map ModelRoute.id).Nodup)
    (known : ∀ r ∈ page, KnownMatchType r) (shown : ∃ r ∈ page, eligible configs key requestedModel r) :
    ∃ m, rankedMatch configs m.route = some m ∧ m.route ∈ page ∧ eligible configs key requestedModel m.route ∧
      (∀ s ∈ page, eligible configs key requestedModel s → m.sortKey ≤ toLex (precedence s,s.id)) ∧
      resolvePage configs key requestedModel page = .ok (resolution requestedModel m) := by
  obtain ⟨r,mem,fits⟩ := shown
  obtain ⟨n,rfl,ranked⟩ := eligibleRanked names fits
  have inside : n ∈ allowedMatches configs key (matching requestedModel page) := (eligibleMem names).mpr ⟨mem,fits,ranked⟩
  have apart : ((allowedMatches configs key (matching requestedModel page)).map (·.route.id)).Nodup := by
    refine List.Nodup.sublist ?_ ids
    refine (List.filter_sublist.map _).trans ((rankedIds _).trans ?_)
    exact (List.filter_sublist.trans List.filter_sublist).map _
  obtain ⟨best,listed,least,picked⟩ := @pickLeast requestedModel _ (List.ne_nil_of_mem inside) apart
  obtain ⟨bestMem,bestFits,bestRanked⟩ := (eligibleMem names).mp listed
  refine ⟨best,bestRanked,bestMem,bestFits,?_,?_⟩
  · intro s other fits
    obtain ⟨n,rfl,ranked⟩ := eligibleRanked names fits
    exact least n ((eligibleMem names).mpr ⟨other,fits,ranked⟩)
  · have found : (matching requestedModel page).isEmpty = false := by
      simp only [eligible,Bool.and_eq_true] at fits
      exact List.isEmpty_eq_false_iff_exists_mem.mpr
        ⟨n.route,List.mem_filter.mpr ⟨List.mem_filter.mpr ⟨mem,fits.1.1.1⟩,fits.1.1.2⟩⟩
    have allowed := List.isEmpty_eq_false_iff_exists_mem.mpr ⟨n,inside⟩
    rw [resolveKnown known]
    simp only [chooseRoute,found,allowed,Bool.and_false,Bool.false_eq_true,if_false,picked]

def refusal (key : AuthenticatedGatewayKey) : RouteResolutionError :=
  if narrowsProviders key then .providerNotAllowedForKey else .providerDisabled

-- The page shows no eligible route: the error says how far a route came.
theorem pageMisses (names : (configs.map ProviderConfig.provider).Nodup) (known : ∀ r ∈ page, KnownMatchType r)
    (missing : ∀ r ∈ page, ¬eligible configs key requestedModel r) :
    resolvePage configs key requestedModel page = .error
      (if page.any fun r => hits requestedModel r && r.enabled then refusal key
        else if page.any (hits requestedModel) then .modelRouteDisabled else .modelNotFound none) := by
  have missed : allowedMatches configs key (matching requestedModel page) = [] := by
    refine List.eq_nil_iff_forall_not_mem.mpr fun m mem => ?_
    obtain ⟨listed,fits,-⟩ := (eligibleMem names).mp mem
    exact missing _ listed fits
  rw [resolveKnown known]
  simp only [chooseRoute,missed,List.isEmpty_nil,Bool.and_true,if_true]
  cases shown : page.any fun r => hits requestedModel r && r.enabled with
  | true =>
    obtain ⟨r,mem,hit⟩ := List.any_eq_true.mp shown
    rw [Bool.and_eq_true] at hit
    have listed : r ∈ matching requestedModel page := List.mem_filter.mpr ⟨List.mem_filter.mpr ⟨mem,hit.1⟩,hit.2⟩
    rw [List.isEmpty_eq_false_iff_exists_mem.mpr ⟨r,listed⟩]
    simp only [Bool.false_eq_true,if_false,if_true,refusal]
    by_cases narrow : narrowsProviders key
    · rw [if_pos narrow,if_pos narrow]
    · rw [if_neg narrow,if_neg narrow]
      -- The route itself is the one without a provider in use.
      have unranked : (rankedMatch configs r).isNone = true := by
        rw [Option.isNone_iff_eq_none,← Option.not_isSome_iff_eq_none,rankedIff names]
        intro used
        exact missing r mem (by simp [eligible,hit.1,hit.2,used,providerAllowed,narrow])
      rw [if_pos (List.any_eq_true.mpr ⟨r,listed,unranked⟩)]
  | false =>
    have off : ∀ r ∈ page, hits requestedModel r = true → r.enabled = false := by
      intro r mem hit
      simpa [hit] using List.any_eq_false.mp shown r mem
    have empty : matching requestedModel page = [] := by
      refine List.eq_nil_iff_forall_not_mem.mpr fun r mem => ?_
      rw [matching,List.mem_filter,List.mem_filter] at mem
      rw [off r mem.1.1 mem.1.2] at mem
      exact Bool.false_ne_true mem.2
    have disabled : ((page.filter (hits requestedModel)).any fun r => !r.enabled) = page.any (hits requestedModel) := by
      rw [List.any_filter,Bool.eq_iff_iff,List.any_eq_true,List.any_eq_true]
      constructor
      · rintro ⟨r,mem,hit⟩
        exact ⟨r,mem,(Bool.and_eq_true_iff.mp hit).1⟩
      · rintro ⟨r,mem,hit⟩
        exact ⟨r,mem,by simp [hit,off r mem hit]⟩
    rw [empty,disabled]
    rfl

-- The outcome is one of the matching routes of the page.
theorem pageFilter (known : ∀ r ∈ page, KnownMatchType r) :
    resolvePage configs key requestedModel page = resolvePage configs key requestedModel (page.filter (hits requestedModel)) := by
  rw [resolveKnown known,resolveKnown fun r mem => known r (List.mem_of_mem_filter mem)]
  simp only [matching,List.filter_filter,Bool.and_self]

end Page

section Tables
variable {tables : RoutingTables} {key : AuthenticatedGatewayKey} {requestedModel : Text} {endpoint : String}

def RoutingTables.kept (tables : RoutingTables) (keeps : ModelRoute → Bool) : RoutingTables where
  modelRoutes := tables.modelRoutes.filter keeps
  providerConfigs := tables.providerConfigs
  routeIds := tables.routeIds.sublist (List.filter_sublist.map _)
  matchTypes := fun r mem => tables.matchTypes r (List.mem_of_mem_filter mem)
  providerNames := tables.providerNames

def Candidate (tables : RoutingTables) (requestedModel : Text) (key : AuthenticatedGatewayKey) (endpoint : String)
    (r : ModelRoute) : Prop :=
  r ∈ tables.modelRoutes ∧ r.endpoint = endpoint ∧ eligible tables.providerConfigs key requestedModel r

def Best (tables : RoutingTables) (requestedModel : Text) (key : AuthenticatedGatewayKey) (endpoint : String)
    (r : ModelRoute) : Prop :=
  Candidate tables requestedModel key endpoint r ∧ ∀ s, Candidate tables requestedModel key endpoint s → precedence r ≤ precedence s

def SameTarget (r s : ModelRoute) : Prop := r.provider = s.provider ∧ r.upstreamModel = s.upstreamModel

def Admitted (key : AuthenticatedGatewayKey) (requestedModel : Text) : Prop :=
  requestedModel ≠ [] ∧ modelAllowed key requestedModel

-- The best match, an error where the best ones name different targets, and no effect of routes that do not match.
structure PicksBest (collation : Text → Text) (tables : RoutingTables) (requestedModel : Text)
    (key : AuthenticatedGatewayKey) (endpoint : String) : Prop where
  least : ∀ result, resolveModel collation tables requestedModel key endpoint = .ok result →
    ∃ m : RankedMatch, Best tables requestedModel key endpoint m.route ∧ m.providerConfig ∈ tables.providerConfigs ∧
      m.providerConfig.provider = m.route.provider ∧ result = resolution requestedModel m
  chosen : Admitted key requestedModel → (∃ r, Candidate tables requestedModel key endpoint r) →
    (∀ r s, Best tables requestedModel key endpoint r → Best tables requestedModel key endpoint s → SameTarget r s) →
    ∃ result, resolveModel collation tables requestedModel key endpoint = .ok result
  ambiguous : Admitted key requestedModel → ∀ r s, Best tables requestedModel key endpoint r →
    Best tables requestedModel key endpoint s → ¬SameTarget r s →
    resolveModel collation tables requestedModel key endpoint = .error .ambiguousRoute
  unrelated : ∀ keeps : ModelRoute → Bool, (∀ r ∈ tables.modelRoutes, hits requestedModel r → keeps r) →
    resolveModel collation (tables.kept keeps) requestedModel key endpoint =
      resolveModel collation tables requestedModel key endpoint

def routePage (tables : RoutingTables) (endpoint : String) : List ModelRoute :=
  listModelRoutes tables.modelRoutes endpoint 1000

-- The page when only the matching routes exist.
def matchingPage (tables : RoutingTables) (requestedModel : Text) (endpoint : String) : List ModelRoute :=
  listModelRoutes (tables.modelRoutes.filter (hits requestedModel)) endpoint 1000

def configPage (collation : Text → Text) (tables : RoutingTables) : List ProviderConfig :=
  listProviderConfigs collation tables.providerConfigs 100

-- A best route that the pages show, whose rivals name its target and have no smaller id.
def ShowsBest (collation : Text → Text) (tables : RoutingTables) (requestedModel : Text)
    (key : AuthenticatedGatewayKey) (endpoint : String) : Prop :=
  ∃ r ∈ routePage tables endpoint, eligible (configPage collation tables) key requestedModel r ∧
    Best tables requestedModel key endpoint r ∧
    (∀ s, Candidate tables requestedModel key endpoint s → precedence s = precedence r → SameTarget r s) ∧
    ∀ s ∈ matchingPage tables requestedModel endpoint, eligible (configPage collation tables) key requestedModel s →
      precedence s = precedence r → r.id ≤ s.id

-- The page shows a matching route, and one in use, where it would without the other routes.
def ShowsRefusal (tables : RoutingTables) (requestedModel : Text) (endpoint : String) : Prop :=
  ((∃ r ∈ matchingPage tables requestedModel endpoint, r.enabled) →
    ∃ r ∈ routePage tables endpoint, hits requestedModel r ∧ r.enabled) ∧
  (matchingPage tables requestedModel endpoint ≠ [] → ∃ r ∈ routePage tables endpoint, hits requestedModel r)

def PageSuffices (collation : Text → Text) (tables : RoutingTables) (requestedModel : Text)
    (key : AuthenticatedGatewayKey) (endpoint : String) : Prop :=
  Admitted key requestedModel →
    ((∃ r, Candidate tables requestedModel key endpoint r) → ShowsBest collation tables requestedModel key endpoint) ∧
    ((∀ r, ¬Candidate tables requestedModel key endpoint r) → ShowsRefusal tables requestedModel endpoint)

variable {collation : Text → Text}

theorem resolveAdmitted (admitted : Admitted key requestedModel) : resolveModel collation tables requestedModel key endpoint =
    resolvePage (configPage collation tables) key requestedModel (routePage tables endpoint) := by
  unfold resolveModel
  rw [if_neg (by simpa using admitted.1),if_neg (by simp [admitted.2])]
  rfl

theorem resolveRefused (refused : ¬Admitted key requestedModel) :
    ∃ e, ∀ tables, resolveModel collation tables requestedModel key endpoint = .error e := by
  by_cases named : requestedModel = []
  · exact ⟨_,fun tables => if_pos (by simp [named])⟩
  · have denied : ¬modelAllowed key requestedModel = true := fun allowed => refused ⟨named,allowed⟩
    exact ⟨_,fun tables => (if_neg (by simpa using named)).trans (if_pos (by simpa using denied))⟩

theorem pageMem {routes : List ModelRoute} {limit : ℕ} {r : ModelRoute} (mem : r ∈ listModelRoutes routes endpoint limit) :
    r ∈ routes ∧ r.endpoint = endpoint := by
  have listed := List.mem_filter.mp (sortedMem.mp (List.mem_of_mem_take mem))
  exact ⟨listed.1,of_decide_eq_true listed.2⟩

theorem pageIds {routes : List ModelRoute} {limit : ℕ} (ids : (routes.map ModelRoute.id).Nodup) :
    ((listModelRoutes routes endpoint limit).map ModelRoute.id).Nodup := by
  refine List.Nodup.sublist ((List.take_sublist _ _).map _) ?_
  exact (sortedPerm.map _).nodup_iff.mpr (ids.sublist (List.filter_sublist.map _))

theorem configNames : ((configPage collation tables).map ProviderConfig.provider).Nodup :=
  List.Nodup.sublist ((List.take_sublist _ _).map _) ((sortedPerm.map _).nodup_iff.mpr tables.providerNames)

theorem configMem {c : ProviderConfig} (mem : c ∈ configPage collation tables) : c ∈ tables.providerConfigs :=
  sortedMem.mp (List.mem_of_mem_take mem)

theorem sameRow {r s : ModelRoute} (first : r ∈ tables.modelRoutes) (second : s ∈ tables.modelRoutes) (same : r.id = s.id) : r = s :=
  List.inj_on_of_nodup_map tables.routeIds first second same

-- Fewer routes show at least the matching routes of the page.
theorem pageGrows {keeps : ModelRoute → Bool} (kept : ∀ r ∈ tables.modelRoutes, hits requestedModel r → keeps r) :
    (routePage tables endpoint).filter (hits requestedModel) <+:
      (routePage (tables.kept keeps) endpoint).filter (hits requestedModel) := by
  have shorter : ((routePage tables endpoint).filter keeps) <+: routePage (tables.kept keeps) endpoint := by
    have page := filterTake (l := sortedBy (fun r => toLex (r.priority,r.createdAt))
      (tables.modelRoutes.filter (·.endpoint = endpoint))) keeps 1000
    rw [filterSorted,List.filter_filter] at page
    unfold routePage listModelRoutes RoutingTables.kept
    rw [List.filter_filter]
    simpa only [Bool.and_comm] using page
  have both : ((routePage tables endpoint).filter keeps).filter (hits requestedModel) =
      (routePage tables endpoint).filter (hits requestedModel) := by
    rw [List.filter_filter]
    refine List.filter_congr fun r mem => ?_
    cases hit : hits requestedModel r with
    | false => rfl
    | true => simp [kept r (pageMem mem).1 hit]
  rw [← both]
  exact shorter.filter _

theorem matchingKept {keeps : ModelRoute → Bool} (kept : ∀ r ∈ tables.modelRoutes, hits requestedModel r → keeps r) :
    matchingPage (tables.kept keeps) requestedModel endpoint = matchingPage tables requestedModel endpoint := by
  unfold matchingPage RoutingTables.kept
  dsimp only
  rw [List.filter_filter]
  congr 1
  refine List.filter_congr fun r mem => ?_
  cases hit : hits requestedModel r with
  | false => rfl
  | true => simp [kept r mem hit]

theorem matchingShown {r : ModelRoute} (mem : r ∈ routePage tables endpoint) (hit : hits requestedModel r = true) :
    r ∈ matchingPage tables requestedModel endpoint := by
  have grows := @pageGrows tables requestedModel endpoint (hits requestedModel) fun _ _ hit => hit
  exact List.mem_of_mem_filter (grows.subset (List.mem_filter.mpr ⟨mem,hit⟩))

theorem eligibleHits {configs : List ProviderConfig} {r : ModelRoute} (fits : eligible configs key requestedModel r) :
    hits requestedModel r = true ∧ r.enabled = true := by
  simp only [eligible,Bool.and_eq_true] at fits
  exact fits.1.1

-- A page between the one read and that of the matching routes.
structure Between (tables : RoutingTables) (requestedModel : Text) (endpoint : String) (page : List ModelRoute) : Prop where
  ids : (page.map ModelRoute.id).Nodup
  listed : ∀ s ∈ page, s ∈ tables.modelRoutes ∧ s.endpoint = endpoint
  above : ∀ s ∈ routePage tables endpoint, hits requestedModel s → s ∈ page
  below : ∀ s ∈ page, hits requestedModel s → s ∈ matchingPage tables requestedModel endpoint

theorem Between.known {page : List ModelRoute} (between : Between tables requestedModel endpoint page) :
    ∀ r ∈ page, KnownMatchType r :=
  fun r mem => tables.matchTypes r (between.listed r mem).1

theorem Between.candidate {page : List ModelRoute} (between : Between tables requestedModel endpoint page) {r : ModelRoute}
    (mem : r ∈ page) (fits : eligible (configPage collation tables) key requestedModel r) :
    Candidate tables requestedModel key endpoint r := by
  refine ⟨(between.listed r mem).1,(between.listed r mem).2,?_⟩
  simp only [eligible,Bool.and_eq_true,List.any_eq_true] at fits ⊢
  obtain ⟨⟨hit,c,listed,used⟩,allowed⟩ := fits
  exact ⟨⟨hit,c,configMem listed,used⟩,allowed⟩

theorem betweenRead : Between tables requestedModel endpoint (routePage tables endpoint) where
  ids := pageIds tables.routeIds
  listed := fun _ mem => pageMem mem
  above := fun _ mem _ => mem
  below := fun _ mem hit => matchingShown mem hit

theorem betweenKept {keeps : ModelRoute → Bool} (kept : ∀ r ∈ tables.modelRoutes, hits requestedModel r → keeps r) :
    Between tables requestedModel endpoint (routePage (tables.kept keeps) endpoint) where
  ids := pageIds (tables.kept keeps).routeIds
  listed := fun s mem => ⟨List.mem_of_mem_filter (pageMem mem).1,(pageMem mem).2⟩
  above := fun s mem hit => List.mem_of_mem_filter ((pageGrows kept).subset (List.mem_filter.mpr ⟨mem,hit⟩))
  below := fun s mem hit => by
    rw [← matchingKept kept]
    exact matchingShown mem hit

theorem matchingHits {r : ModelRoute} (mem : r ∈ matchingPage tables requestedModel endpoint) : hits requestedModel r = true :=
  (List.mem_filter.mp (pageMem mem).1).2

-- Every page between chooses the best route that the pages show.
theorem Between.chooses {page : List ModelRoute} (between : Between tables requestedModel endpoint page) {r : ModelRoute}
    (mem : r ∈ page) (fits : eligible (configPage collation tables) key requestedModel r)
    (best : Best tables requestedModel key endpoint r)
    (first : ∀ s ∈ matchingPage tables requestedModel endpoint, eligible (configPage collation tables) key requestedModel s →
      precedence s = precedence r → r.id ≤ s.id) :
    ∃ m, rankedMatch (configPage collation tables) r = some m ∧
      resolvePage (configPage collation tables) key requestedModel page = .ok (resolution requestedModel m) := by
  obtain ⟨m,ranked,listed,suits,least,run⟩ := pageChooses configNames between.ids between.known ⟨r,mem,fits⟩
  have below : precedence r ≤ precedence m.route := best.2 _ (between.candidate listed suits)
  have order := Prod.Lex.toLex_le_toLex.mp (least r mem fits)
  dsimp only at order
  have same : precedence m.route = precedence r ∧ m.route.id ≤ r.id := by
    rcases order with lower | tie
    · exact absurd below (not_le_of_gt lower)
    · exact tie
  have earlier := first _ (between.below _ listed (eligibleHits suits).1) suits same.1
  obtain rfl := sameRow (between.listed _ listed).1 (between.listed _ mem).1 (le_antisymm same.2 earlier)
  exact ⟨m,ranked,run⟩

theorem pageNotAmbiguous {page : List ModelRoute} (between : Between tables requestedModel endpoint page) :
    resolvePage (configPage collation tables) key requestedModel page ≠ .error .ambiguousRoute := by
  by_cases shown : ∃ r ∈ page, eligible (configPage collation tables) key requestedModel r
  · obtain ⟨m,-,-,-,-,run⟩ := pageChooses configNames between.ids between.known shown
    rw [run]
    intro same
    cases same
  · rw [pageMisses configNames between.known fun r mem fits => shown ⟨r,mem,fits⟩]
    unfold refusal
    split_ifs <;> simp

theorem resolutionId {m n : RankedMatch} (same : resolution requestedModel m = resolution requestedModel n) :
    m.route.id = n.route.id :=
  congrArg RouteResolutionResult.routeId same

-- Without an eligible route, pages that show matching routes of the same kinds refuse alike.
theorem Between.refusesIff {page other : List ModelRoute} (between : Between tables requestedModel endpoint page)
    (others : Between tables requestedModel endpoint other)
    (empty : ∀ r, ¬Candidate tables requestedModel key endpoint r) :
    resolvePage (configPage collation tables) key requestedModel page =
        resolvePage (configPage collation tables) key requestedModel other ↔
      ((page.any fun r => hits requestedModel r && r.enabled) = true ↔
        (other.any fun r => hits requestedModel r && r.enabled) = true) ∧
        (¬(page.any fun r => hits requestedModel r && r.enabled) = true →
          (page.any (hits requestedModel) = true ↔ other.any (hits requestedModel) = true)) := by
  rw [pageMisses configNames between.known fun r mem fits => empty r (between.candidate mem fits),
    pageMisses configNames others.known fun r mem fits => empty r (others.candidate mem fits)]
  unfold refusal
  cases page.any fun r => hits requestedModel r && r.enabled <;>
    cases other.any fun r => hits requestedModel r && r.enabled <;>
    cases page.any (hits requestedModel) <;> cases other.any (hits requestedModel) <;>
    by_cases narrow : narrowsProviders key <;> simp [narrow]

theorem Between.fails {page : List ModelRoute} (between : Between tables requestedModel endpoint page)
    (collation : Text → Text) (empty : ∀ r, ¬Candidate tables requestedModel key endpoint r) :
    ∃ e, resolvePage (configPage collation tables) key requestedModel page = .error e :=
  ⟨_,pageMisses configNames between.known fun r mem fits => empty r (between.candidate mem fits)⟩

theorem Between.shows {page : List ModelRoute} (between : Between tables requestedModel endpoint page)
    {p : ModelRoute → Bool} (hitting : ∀ r, p r = true → hits requestedModel r = true) :
    ((routePage tables endpoint).any p = true → page.any p = true) ∧
      (page.any p = true → (matchingPage tables requestedModel endpoint).any p = true) := by
  simp only [List.any_eq_true]
  constructor
  · rintro ⟨r,mem,holds⟩
    exact ⟨r,between.above r mem (hitting r holds),holds⟩
  · rintro ⟨r,mem,holds⟩
    exact ⟨r,between.below r mem (hitting r holds),holds⟩

theorem betweenMatching : Between tables requestedModel endpoint (matchingPage tables requestedModel endpoint) :=
  betweenKept fun _ _ hit => hit

theorem unrelatedPages (admitted : Admitted key requestedModel) (keeps : ModelRoute → Bool) :
    resolveModel collation (tables.kept keeps) requestedModel key endpoint =
        resolveModel collation tables requestedModel key endpoint ↔
      resolvePage (configPage collation tables) key requestedModel (routePage (tables.kept keeps) endpoint) =
        resolvePage (configPage collation tables) key requestedModel (routePage tables endpoint) := by
  rw [resolveAdmitted admitted,resolveAdmitted admitted]
  rfl

theorem picksShows (admitted : Admitted key requestedModel) (picks : PicksBest collation tables requestedModel key endpoint)
    (some : ∃ r, Candidate tables requestedModel key endpoint r) : ShowsBest collation tables requestedModel key endpoint := by
  have agree : ∀ r s, Best tables requestedModel key endpoint r → Best tables requestedModel key endpoint s → SameTarget r s := by
    intro r s first second
    by_contra differ
    have clash := picks.ambiguous admitted r s first second differ
    rw [resolveAdmitted admitted] at clash
    exact pageNotAmbiguous betweenRead clash
  obtain ⟨result,ok⟩ := picks.chosen admitted some agree
  obtain ⟨b,best,-,-,rfl⟩ := picks.least result ok
  rw [resolveAdmitted admitted] at ok
  have reads := @betweenRead tables requestedModel endpoint
  by_cases shown : ∃ r ∈ routePage tables endpoint, eligible (configPage collation tables) key requestedModel r
  · obtain ⟨m,ranked,mem,fits,-,run⟩ := pageChooses configNames reads.ids reads.known shown
    have ids := resolutionId (Except.ok.inj (ok.symm.trans run))
    have same : b.route = m.route := sameRow best.1.1 (pageMem mem).1 ids
    rw [same] at best
    refine ⟨m.route,mem,fits,best,?_,?_⟩
    · intro s candidate tie
      exact agree _ _ best ⟨candidate,fun t other => tie ▸ best.2 t other⟩
    · have alone := (unrelatedPages admitted _).mp (picks.unrelated (hits requestedModel) fun _ _ hit => hit)
      obtain ⟨n,-,there,-,least,again⟩ := pageChooses configNames betweenMatching.ids betweenMatching.known
        ⟨m.route,matchingShown mem (eligibleHits fits).1,fits⟩
      have kept := resolutionId (Except.ok.inj (again.symm.trans (alone.trans run)))
      have equal : n.route = m.route := sameRow (betweenMatching.listed _ there).1 (pageMem mem).1 kept
      intro s listed suits tie
      have order := Prod.Lex.toLex_le_toLex.mp (least s listed suits)
      dsimp only at order
      rw [equal,tie] at order
      rcases order with lower | ⟨-,below⟩
      · exact absurd lower (lt_irrefl _)
      · exact below
  · rw [pageMisses configNames reads.known fun r mem fits => shown ⟨r,mem,fits⟩] at ok
    cases ok

theorem refusalIff (collation : Text → Text) (empty : ∀ r, ¬Candidate tables requestedModel key endpoint r) :
    resolvePage (configPage collation tables) key requestedModel (matchingPage tables requestedModel endpoint) =
        resolvePage (configPage collation tables) key requestedModel (routePage tables endpoint) ↔
      ShowsRefusal tables requestedModel endpoint := by
  rw [betweenMatching.refusesIff betweenRead empty]
  have matchingUse : ((matchingPage tables requestedModel endpoint).any fun r => hits requestedModel r && r.enabled) = true ↔
      ∃ r ∈ matchingPage tables requestedModel endpoint, r.enabled = true := by
    rw [List.any_eq_true]
    exact exists_congr fun r => and_congr_right fun mem => by rw [matchingHits mem,Bool.true_and]
  have pageUse : ((routePage tables endpoint).any fun r => hits requestedModel r && r.enabled) = true ↔
      ∃ r ∈ routePage tables endpoint, hits requestedModel r = true ∧ r.enabled = true := by
    simp only [List.any_eq_true,Bool.and_eq_true]
  have matchingSome : (matchingPage tables requestedModel endpoint).any (hits requestedModel) = true ↔
      matchingPage tables requestedModel endpoint ≠ [] := by
    rw [List.any_eq_true]
    constructor
    · rintro ⟨r,mem,-⟩
      exact List.ne_nil_of_mem mem
    · intro some
      obtain ⟨r,mem⟩ := List.exists_mem_of_ne_nil _ some
      exact ⟨r,mem,matchingHits mem⟩
  have pageSome : (routePage tables endpoint).any (hits requestedModel) = true ↔
      ∃ r ∈ routePage tables endpoint, hits requestedModel r = true := List.any_eq_true
  have useShown : (∃ r ∈ routePage tables endpoint, hits requestedModel r = true ∧ r.enabled = true) →
      ∃ r ∈ matchingPage tables requestedModel endpoint, r.enabled = true :=
    fun ⟨r,mem,hit,use⟩ => ⟨r,matchingShown mem hit,use⟩
  have someShown : (∃ r ∈ routePage tables endpoint, hits requestedModel r = true) →
      matchingPage tables requestedModel endpoint ≠ [] :=
    fun ⟨r,mem,hit⟩ => List.ne_nil_of_mem (matchingShown mem hit)
  have useSome : (∃ r ∈ routePage tables endpoint, hits requestedModel r = true ∧ r.enabled = true) →
      ∃ r ∈ routePage tables endpoint, hits requestedModel r = true :=
    fun ⟨r,mem,hit,_⟩ => ⟨r,mem,hit⟩
  unfold ShowsRefusal
  rw [matchingUse,pageUse,matchingSome,pageSome]
  constructor
  · rintro ⟨use,shown⟩
    refine ⟨use.mp,fun there => ?_⟩
    by_cases used : ∃ r ∈ matchingPage tables requestedModel endpoint, r.enabled = true
    · exact useSome (use.mp used)
    · exact (shown used).mp there
  · rintro ⟨use,shown⟩
    exact ⟨⟨use,useShown⟩,fun _ => ⟨shown,someShown⟩⟩

-- The outcome is the best match if and only if the pages read show it.
theorem picksBestIff (collation : Text → Text) (tables : RoutingTables) (requestedModel : Text)
    (key : AuthenticatedGatewayKey) (endpoint : String) :
    PicksBest collation tables requestedModel key endpoint ↔ PageSuffices collation tables requestedModel key endpoint := by
  constructor
  · intro picks admitted
    refine ⟨picksShows admitted picks,fun empty => ?_⟩
    have alone := picks.unrelated (hits requestedModel) fun _ _ hit => hit
    exact (refusalIff collation empty).mp ((unrelatedPages admitted _).mp alone)
  · intro enough
    by_cases admitted : Admitted key requestedModel
    · obtain ⟨shows,refuses⟩ := enough admitted
      by_cases some : ∃ r, Candidate tables requestedModel key endpoint r
      · obtain ⟨r,mem,fits,best,agree,first⟩ := shows some
        obtain ⟨m,ranked,run⟩ := betweenRead.chooses mem fits best first
        obtain rfl := rankedRoute ranked
        obtain ⟨config,name⟩ := rankedConfig ranked
        refine ⟨?_,?_,?_,?_⟩
        · intro result ok
          rw [resolveAdmitted admitted,run] at ok
          exact ⟨m,best,configMem config,name,(Except.ok.inj ok).symm⟩
        · intro _ _ _
          rw [resolveAdmitted admitted]
          exact ⟨_,run⟩
        · intro _ s t first second differ
          have tie : ∀ u, Best tables requestedModel key endpoint u → precedence u = precedence m.route :=
            fun u other => le_antisymm (other.2 _ best.1) (best.2 _ other.1)
          have left := agree s first.1 (tie s first)
          have right := agree t second.1 (tie t second)
          exact absurd ⟨left.1.symm.trans right.1,left.2.symm.trans right.2⟩ differ
        · intro keeps kept
          have between := @betweenKept tables requestedModel endpoint keeps kept
          have there := between.above _ mem (eligibleHits fits).1
          obtain ⟨n,again,alone⟩ := between.chooses there fits best first
          obtain rfl := Option.some.inj (ranked.symm.trans again)
          rw [unrelatedPages admitted,run,alone]
      · have empty : ∀ r, ¬Candidate tables requestedModel key endpoint r := fun r candidate => some ⟨r,candidate⟩
        obtain ⟨e,failed⟩ := (@betweenRead tables requestedModel endpoint).fails collation empty
        refine ⟨?_,fun _ shown => absurd shown some,fun _ r s first => absurd first.1 (empty r),?_⟩
        · intro result ok
          rw [resolveAdmitted admitted,failed] at ok
          cases ok
        · intro keeps kept
          have between := @betweenKept tables requestedModel endpoint keeps kept
          have whole := (refusalIff collation empty).mpr (refuses empty)
          rw [betweenMatching.refusesIff betweenRead empty] at whole
          rw [unrelatedPages admitted,between.refusesIff betweenRead empty]
          have used := @Between.shows _ _ _ _ between (fun r => hits requestedModel r && r.enabled)
            fun r both => (Bool.and_eq_true_iff.mp both).1
          have hit := @Between.shows _ _ _ _ between (hits requestedModel) fun _ hit => hit
          refine ⟨⟨fun shown => whole.1.mp (used.2 shown),used.1⟩,fun off => ⟨fun shown => ?_,hit.1⟩⟩
          exact (whole.2 fun on => off (used.1 (whole.1.mp on))).mp (hit.2 shown)
    · obtain ⟨e,refused⟩ := @resolveRefused key requestedModel endpoint collation admitted
      refine ⟨?_,fun allowed => absurd allowed admitted,fun allowed => absurd allowed admitted,?_⟩
      · intro result ok
        rw [refused] at ok
        cases ok
      · intro keeps _
        rw [refused,refused]

end Tables

-- Two routes of one precedence for one model, of two providers.
def rivalRoutes : List ModelRoute :=
  [⟨[49],[103],"exact","/v1/chat/completions",[97],[117],100,true,true,[],0⟩,
    ⟨[50],[103],"exact","/v1/chat/completions",[98],[117],100,true,true,[],1⟩]

def rivalTables : RoutingTables where
  modelRoutes := rivalRoutes
  providerConfigs := [⟨[97],[],[],[],true,300,2⟩,⟨[98],[],[],[],true,300,2⟩]
  routeIds := by decide
  matchTypes := by simp [rivalRoutes]
  providerNames := by decide

def openKey : AuthenticatedGatewayKey := ⟨true,[],none,"standard","standard"⟩

-- The smaller id decides between the two providers.
theorem tiedProvidersChosen : ¬PicksBest id rivalTables [103] openKey "/v1/chat/completions" := by
  intro picks
  have admitted : Admitted openKey [103] := ⟨by decide,by decide +kernel⟩
  have best : ∀ r ∈ rivalTables.modelRoutes, Best rivalTables [103] openKey "/v1/chat/completions" r := by
    have fits : ∀ r ∈ rivalTables.modelRoutes, r.endpoint = "/v1/chat/completions" ∧
        eligible rivalTables.providerConfigs openKey [103] r = true := by decide +kernel
    have level : ∀ r ∈ rivalTables.modelRoutes, precedence r = toLex (100,toLex (0,-1)) := by decide +kernel
    intro r mem
    refine ⟨⟨mem,fits r mem⟩,fun s candidate => ?_⟩
    rw [level r mem,level s candidate.1]
  have clash := picks.ambiguous admitted _ _ (best _ List.mem_cons_self) (best _ (List.mem_cons_of_mem _ List.mem_cons_self))
    (fun same => absurd same.1 (by decide))
  have chosen : (resolveModel id rivalTables [103] openKey "/v1/chat/completions").isOk = true := by decide +kernel
  rw [clash] at chosen
  cases chosen

end SlaifGateway.Routing
