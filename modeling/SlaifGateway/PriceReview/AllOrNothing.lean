import SlaifGateway.PriceReview.ReviewedDisable
import SlaifGateway.LocalCoding.Unambiguous

/-! A reviewed plan disables the whole reviewed set or nothing: the application has one outcome
for each relation between the plan and the rows under the locks. -/
namespace SlaifGateway.PriceReview
open Library JsonText Document LocalCoding.Identity Sorting

section Conditions
variable (sha : List UInt8 → Text) (plan : PricingDisablePlan) (catalog : Catalog)

-- Every reviewed row is there with the reviewed facts.
def Matches : Prop := ∀ r ∈ plan.rows, ∃ row ∈ catalog.rules, row.id = r.pricingRuleId ∧ rowFingerprint sha row = r.fingerprint

-- The enabled rows of the scope are the reviewed ones.
def Membership : Prop := ∀ row ∈ catalog.rules, (inScope plan row && row.enabled) = true ↔ row.id ∈ reviewedIds plan

def Disables : Prop := plan.rows ≠ [] ∧ Matches sha plan catalog ∧
  (∀ row ∈ catalog.rules, row.id ∈ reviewedIds plan → row.enabled = true) ∧ Membership plan catalog

def AlreadyDisabled : Prop := plan.rows ≠ [] ∧ Matches sha plan catalog ∧
  (∀ row ∈ catalog.rules, row.id ∈ reviewedIds plan → row.enabled = false) ∧
  ∀ row ∈ catalog.rules, inScope plan row = true → row.enabled = false

end Conditions

theorem disabledId (row : PricingRule) (disables : Bool) : (row.disabledWhen disables).id = row.id := by
  unfold PricingRule.disabledWhen
  split <;> rfl

def disabledCatalog (rows : List ReviewRow) (actorAdminId : Option Uuid) (reason : Option Text) (catalog : Catalog) : Catalog where
  rules := catalog.rules.map fun row => row.disabledWhen ((rows.map ReviewRow.pricingRuleId).contains row.id)
  audits := catalog.audits ++ rows.map fun r => ⟨r.pricingRuleId,actorAdminId,reason⟩
  ids := by
    rw [List.map_map,Function.comp_def]
    simpa only [disabledId] using catalog.ids

section Apply
variable {sha : List UInt8 → Text} {plan : PricingDisablePlan} {catalog : Catalog} {actorAdminId : Option Uuid} {reason : Option Text}

theorem catalogExt {a b : Catalog} (rules : a.rules = b.rules) (audits : a.audits = b.audits) : a = b := by
  cases a
  cases b
  cases rules
  cases audits
  rfl

theorem sameRule {a b : PricingRule} (first : a ∈ catalog.rules) (second : b ∈ catalog.rules) (same : a.id = b.id) : a = b :=
  List.inj_on_of_nodup_map catalog.ids first second same

theorem lockedMem {ids : List Uuid} {row : PricingRule} :
    row ∈ lockForReview catalog ids ↔ row ∈ catalog.rules ∧ row.id ∈ ids := by
  rw [lockForReview,sortedMem,List.mem_filter,List.contains_iff_mem]

theorem lockedFind {ids : List Uuid} {row : PricingRule} (mem : row ∈ catalog.rules) (reviewed : row.id ∈ ids) :
    (lockForReview catalog ids).find? (·.id = row.id) = some row := by
  cases found : (lockForReview catalog ids).find? (·.id = row.id) with
  | none => simpa using List.find?_eq_none.mp found row (lockedMem.mpr ⟨mem,reviewed⟩)
  | some other =>
    have listed := (lockedMem.mp (List.mem_of_find?_eq_some found)).1
    rw [sameRule listed mem (by simpa using List.find?_some found)]

theorem sameIdsIff {a b : List Uuid} : sameIds a b = true ↔ ∀ id, id ∈ a ↔ id ∈ b := by
  simp only [sameIds,Bool.and_eq_true,List.all_eq_true,List.contains_iff_mem]
  exact ⟨fun ⟨left,right⟩ id => ⟨left id,right id⟩,fun same => ⟨fun id => (same id).mp,fun id => (same id).mpr⟩⟩

theorem disabledTwice (row : PricingRule) (a b : Bool) : (row.disabledWhen a).disabledWhen b = row.disabledWhen (a || b) := by
  cases a <;> cases b <;> rfl

theorem disabledAll (rows : List ReviewRow) (catalog : Catalog)
    (present : ∀ r ∈ rows, ∃ row ∈ catalog.rules, row.id = r.pricingRuleId) :
    disableEach actorAdminId reason rows catalog = (.ok (),disabledCatalog rows actorAdminId reason catalog) := by
  induction rows generalizing catalog with
  | nil =>
    refine Prod.ext rfl (catalogExt ?_ (List.append_nil _).symm)
    exact (List.map_id'' (fun _ => rfl) _).symm
  | cons r rest ih =>
    have found : (catalog.rules.any (·.id = r.pricingRuleId)) = true := by
      obtain ⟨row,mem,same⟩ := present r List.mem_cons_self
      exact List.any_eq_true.mpr ⟨row,mem,by simpa using same⟩
    rw [disableEach,if_pos found,ih]
    · refine Prod.ext rfl (catalogExt ?_ ?_)
      · simp only [disabledCatalog,setDisabled,List.map_map,List.map_cons]
        refine List.map_congr_left fun row mem => ?_
        simp only [Function.comp_apply,disabledId,disabledTwice,List.contains_cons,beq_eq_decide]
      · simp [disabledCatalog,setDisabled]
    · intro s mem
      obtain ⟨row,listed,same⟩ := present s (List.mem_cons_of_mem _ mem)
      exact ⟨_,List.mem_map_of_mem listed,(disabledId row _).trans same⟩

theorem lockedIds : sameIds ((lockForReview catalog (reviewedIds plan)).map PricingRule.id) (reviewedIds plan) = true ↔
    ∀ r ∈ plan.rows, ∃ row ∈ catalog.rules, row.id = r.pricingRuleId := by
  rw [sameIdsIff]
  constructor
  · intro same r mem
    obtain ⟨row,locked,id⟩ := List.mem_map.mp ((same r.pricingRuleId).mpr (List.mem_map_of_mem mem))
    exact ⟨row,(lockedMem.mp locked).1,id⟩
  · intro present id
    constructor
    · intro listed
      obtain ⟨row,locked,rfl⟩ := List.mem_map.mp listed
      exact (lockedMem.mp locked).2
    · intro reviewed
      obtain ⟨r,mem,rfl⟩ := List.mem_map.mp reviewed
      obtain ⟨row,listed,same⟩ := present r mem
      exact List.mem_map.mpr ⟨row,lockedMem.mpr ⟨listed,same ▸ reviewed⟩,same⟩

-- What the row of a reviewed id satisfies, read from the locked rows.
theorem lockedReads (present : ∀ r ∈ plan.rows, ∃ row ∈ catalog.rules, row.id = r.pricingRuleId) {r : ReviewRow}
    (mem : r ∈ plan.rows) : ∃ row ∈ catalog.rules, row.id = r.pricingRuleId ∧
      (lockForReview catalog (reviewedIds plan)).find? (·.id = r.pricingRuleId) = some row := by
  obtain ⟨row,listed,same⟩ := present r mem
  have reviewed : row.id ∈ reviewedIds plan := same ▸ List.mem_map_of_mem mem
  exact ⟨row,listed,same,same ▸ lockedFind listed reviewed⟩

theorem mismatchIff (present : ∀ r ∈ plan.rows, ∃ row ∈ catalog.rules, row.id = r.pricingRuleId) :
    (plan.rows.any fun r => ((lockForReview catalog (reviewedIds plan)).find? (·.id = r.pricingRuleId)).map
      (rowFingerprint sha) ≠ some r.fingerprint) = false ↔ Matches sha plan catalog := by
  rw [List.any_eq_false]
  constructor
  · intro agree r mem
    obtain ⟨row,listed,same,found⟩ := lockedReads present mem
    have print := agree r mem
    rw [found] at print
    exact ⟨row,listed,same,by simpa using print⟩
  · intro agree r mem
    obtain ⟨row,listed,same,found⟩ := lockedReads present mem
    obtain ⟨other,there,id,print⟩ := agree r mem
    obtain rfl := sameRule listed there (same.trans id.symm)
    rw [found]
    simpa using print

theorem flagsIff (present : ∀ r ∈ plan.rows, ∃ row ∈ catalog.rules, row.id = r.pricingRuleId) (p : Bool → Bool) :
    (plan.rows.map fun r => ((lockForReview catalog (reviewedIds plan)).find? (·.id = r.pricingRuleId)).any
      PricingRule.enabled).all p = true ↔ ∀ row ∈ catalog.rules, row.id ∈ reviewedIds plan → p row.enabled = true := by
  rw [List.all_map,List.all_eq_true]
  constructor
  · intro flags row listed reviewed
    obtain ⟨r,mem,same⟩ := List.mem_map.mp reviewed
    have flag := flags r mem
    rw [Function.comp_apply,same,lockedFind listed reviewed] at flag
    exact flag
  · intro rows r mem
    obtain ⟨row,listed,same,found⟩ := lockedReads present mem
    rw [Function.comp_apply,found]
    exact rows row listed (same ▸ List.mem_map_of_mem mem)

theorem listWhole (few : ¬maxReviewedRows < (listEnabled catalog plan (maxReviewedRows + 1)).length) :
    listEnabled catalog plan (maxReviewedRows + 1) = catalog.rules.filter fun row => inScope plan row && row.enabled := by
  unfold listEnabled at few ⊢
  rw [List.length_take] at few
  exact List.take_of_length_le (by omega)

theorem validRows (valid : validateReviewedPlan plan = .ok ()) :
    plan.rowCount = plan.rows.length ∧ plan.rows.length ≤ maxReviewedRows ∧ checkRows [] plan.rows = .ok () := by
  unfold validateReviewedPlan at valid
  split_ifs at valid with count cap
  rw [not_not] at count
  exact ⟨count,by omega,valid⟩

-- The members that are reviewed are no more than the reviewed rows.
theorem memberBound (valid : validateReviewedPlan plan = .ok ()) (members : Membership plan catalog) :
    ¬maxReviewedRows < (listEnabled catalog plan (maxReviewedRows + 1)).length := by
  have inside : ((catalog.rules.filter fun row => inScope plan row && row.enabled).map PricingRule.id) ⊆ reviewedIds plan := by
    intro id mem
    obtain ⟨row,kept,rfl⟩ := List.mem_map.mp mem
    rw [List.mem_filter] at kept
    exact (members row kept.1).mp kept.2
  have distinct := catalog.ids.sublist
    ((List.filter_sublist (p := fun row => inScope plan row && row.enabled) (l := catalog.rules)).map PricingRule.id)
  have bound := (List.subperm_of_subset distinct inside).length_le
  rw [List.length_map,reviewedIds,List.length_map] at bound
  have cap := (validRows valid).2.1
  unfold listEnabled
  rw [List.length_take]
  omega

theorem membersIff (few : ¬maxReviewedRows < (listEnabled catalog plan (maxReviewedRows + 1)).length)
    (present : ∀ r ∈ plan.rows, ∃ row ∈ catalog.rules, row.id = r.pricingRuleId) :
    sameIds ((listEnabled catalog plan (maxReviewedRows + 1)).map PricingRule.id) (reviewedIds plan) = true ↔
      Membership plan catalog := by
  rw [sameIdsIff,listWhole few]
  constructor
  · intro same row mem
    rw [← same row.id]
    constructor
    · intro member
      exact List.mem_map_of_mem (List.mem_filter.mpr ⟨mem,member⟩)
    · intro listed
      obtain ⟨other,kept,id⟩ := List.mem_map.mp listed
      rw [List.mem_filter] at kept
      obtain rfl := sameRule kept.1 mem id
      exact kept.2
  · intro members id
    constructor
    · intro listed
      obtain ⟨row,kept,rfl⟩ := List.mem_map.mp listed
      rw [List.mem_filter] at kept
      exact (members row kept.1).mp kept.2
    · intro reviewed
      obtain ⟨r,mem,rfl⟩ := List.mem_map.mp reviewed
      obtain ⟨row,listed,same⟩ := present r mem
      rw [← same] at reviewed ⊢
      exact List.mem_map_of_mem (List.mem_filter.mpr ⟨listed,(members row listed).mpr reviewed⟩)

theorem noMembersIff : (listEnabled catalog plan (maxReviewedRows + 1)).isEmpty = true ↔
    ∀ row ∈ catalog.rules, inScope plan row = true → row.enabled = false := by
  rw [List.isEmpty_iff,listEnabled,List.take_eq_nil_iff]
  simp only [Nat.add_one_ne_zero,false_or,List.filter_eq_nil_iff,Bool.and_eq_true,not_and,Bool.not_eq_true]

theorem matchesPresent (agree : Matches sha plan catalog) :
    ∀ r ∈ plan.rows, ∃ row ∈ catalog.rules, row.id = r.pricingRuleId := by
  intro r mem
  obtain ⟨row,listed,same,-⟩ := agree r mem
  exact ⟨row,listed,same⟩

theorem appliesDisables (valid : validateReviewedPlan plan = .ok ()) (disables : Disables sha plan catalog) :
    applyDisableModelReviewed sha plan actorAdminId reason catalog =
      (.ok ⟨plan.rows.length,false⟩,disabledCatalog plan.rows actorAdminId reason catalog) := by
  obtain ⟨some,agree,enabled,members⟩ := disables
  have present := matchesPresent agree
  have few := memberBound valid members
  unfold applyDisableModelReviewed
  rw [valid]
  dsimp only
  rw [if_neg (by simpa using some),lockedIds.mpr present,(mismatchIff present).mpr agree,
    (flagsIff present id).mpr enabled,(membersIff few present).mpr members,disabledAll _ _ present]
  simp only [Bool.not_true,Bool.true_or,Bool.false_eq_true,if_false,if_true,if_neg few]
  rfl

theorem appliesRepeat (valid : validateReviewedPlan plan = .ok ()) (already : AlreadyDisabled sha plan catalog) :
    applyDisableModelReviewed sha plan actorAdminId reason catalog = (.ok ⟨0,true⟩,catalog) := by
  obtain ⟨some,agree,off,out⟩ := already
  have present := matchesPresent agree
  have empty := noMembersIff.mpr out
  have few : ¬maxReviewedRows < (listEnabled catalog plan (maxReviewedRows + 1)).length := by
    rw [List.isEmpty_iff.mp empty]
    exact Nat.not_lt_zero _
  have flags := (flagsIff present not).mpr fun row mem reviewed => by rw [off row mem reviewed]; rfl
  have mixed : ¬(plan.rows.map fun r => ((lockForReview catalog (reviewedIds plan)).find? (·.id = r.pricingRuleId)).any
      PricingRule.enabled).all id = true := by
    intro on
    obtain ⟨r,mem⟩ := List.exists_mem_of_ne_nil _ some
    obtain ⟨row,listed,same,-⟩ := lockedReads present mem
    have reviewed : row.id ∈ reviewedIds plan := same ▸ List.mem_map_of_mem mem
    have clash := (flagsIff present id).mp on row listed reviewed
    rw [off row listed reviewed] at clash
    exact Bool.false_ne_true clash
  unfold applyDisableModelReviewed
  rw [valid]
  dsimp only
  rw [if_neg (by simpa using some),lockedIds.mpr present,(mismatchIff present).mpr agree,flags,if_neg mixed,empty]
  simp only [Bool.not_true,Bool.or_true,Bool.false_eq_true,if_false,if_neg few]

-- Every other relation of a plan with rows to the catalog is refused with nothing written.
theorem appliesStale (valid : validateReviewedPlan plan = .ok ()) (some : plan.rows ≠ []) (moved : ¬Disables sha plan catalog)
    (fresh : ¬AlreadyDisabled sha plan catalog) :
    applyDisableModelReviewed sha plan actorAdminId reason catalog = (.error .stale,catalog) := by
  unfold applyDisableModelReviewed
  rw [valid]
  dsimp only
  rw [if_neg (by simpa using some)]
  by_cases present : ∀ r ∈ plan.rows, ∃ row ∈ catalog.rules, row.id = r.pricingRuleId
  · rw [lockedIds.mpr present]
    by_cases agree : Matches sha plan catalog
    · rw [(mismatchIff present).mpr agree]
      simp only [Bool.not_true,Bool.false_eq_true,if_false]
      split_ifs with mixed many on others none
      · rfl
      · rfl
      · rfl
      · refine absurd ⟨some,agree,(flagsIff present id).mp on,(membersIff many present).mp ?_⟩ moved
        simpa using others
      · rfl
      · have off := (Bool.or_eq_true_iff.mp (by simpa only [Bool.not_eq_true',Bool.not_eq_false] using mixed)).resolve_left on
        refine absurd ⟨some,agree,?_,noMembersIff.mp (by simpa using none)⟩ fresh
        intro row mem reviewed
        simpa using (flagsIff present not).mp off row mem reviewed
    · rw [Bool.eq_true_of_not_eq_false fun same => agree ((mismatchIff present).mp same)]
      rfl
  · rw [Bool.eq_false_of_not_eq_true fun same => present (lockedIds.mp same)]
    rfl

theorem appliesInvalid {e : Refusal} (invalid : validateReviewedPlan plan = .error e) :
    applyDisableModelReviewed sha plan actorAdminId reason catalog = (.error e,catalog) := by
  unfold applyDisableModelReviewed
  rw [invalid]

theorem appliesEmpty (valid : validateReviewedPlan plan = .ok ()) (empty : plan.rows = []) :
    applyDisableModelReviewed sha plan actorAdminId reason catalog = (.ok ⟨0,false⟩,catalog) := by
  unfold applyDisableModelReviewed
  rw [valid,empty]
  rfl

-- After success the same plan finds the reviewed rows disabled.
theorem disabledAgain (disables : Disables sha plan catalog) :
    AlreadyDisabled sha plan (disabledCatalog plan.rows actorAdminId reason catalog) := by
  obtain ⟨some,agree,-,members⟩ := disables
  refine ⟨some,?_,?_,?_⟩
  · intro r mem
    obtain ⟨row,listed,same,print⟩ := agree r mem
    refine ⟨_,List.mem_map_of_mem listed,(disabledId row _).trans same,?_⟩
    rw [← print]
    unfold PricingRule.disabledWhen
    split <;> rfl
  · intro row mem reviewed
    obtain ⟨old,-,rfl⟩ := List.mem_map.mp mem
    rw [disabledId] at reviewed
    have inside : (plan.rows.map ReviewRow.pricingRuleId).contains old.id = true := List.contains_iff_mem.mpr reviewed
    rw [PricingRule.disabledWhen,if_pos inside]
  · intro row mem scope
    obtain ⟨old,listed,rfl⟩ := List.mem_map.mp mem
    by_cases inside : (plan.rows.map ReviewRow.pricingRuleId).contains old.id = true
    · rw [PricingRule.disabledWhen,if_pos inside]
    · rw [PricingRule.disabledWhen,if_neg inside] at scope ⊢
      have out := mt (members old listed).mp fun reviewed => inside (List.contains_iff_mem.mpr reviewed)
      simpa [scope] using out

end Apply
end SlaifGateway.PriceReview
