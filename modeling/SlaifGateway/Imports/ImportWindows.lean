import SlaifGateway.Imports.ImportPlan
import SlaifGateway.Library.Outcome

/-! The windows of an import. An executable plan creates the rows of the file as they are read;
what the classification has not compared, two rows of the file and a rate beyond the page of
stored rates, is kept apart by nothing. -/
namespace SlaifGateway.Imports
open Library

section Rows
variable {ρ R K : Type} {read : ρ → Except Text R} {identity : R → K} {classify : R → Classification}

-- The rows read, none of which repeats another and each of which is to be created.
structure Accepted (read : ρ → Except Text R) (identity : R → K) (classify : R → Classification) (seen : List K) (raws : List ρ)
    (rows : List R) : Prop where
  reads : List.Forall₂ (fun raw row => read raw = .ok row) raws rows
  distinct : (rows.map identity).Nodup
  unseen : ∀ row ∈ rows, identity row ∉ seen
  creates : ∀ row ∈ rows, classify row = .create

theorem Accepted.tail {seen : List K} {raw : ρ} {raws : List ρ} {row : R} {rows : List R}
    (accepted : Accepted read identity classify seen (raw :: raws) (row :: rows)) :
    Accepted read identity classify (identity row :: seen) raws rows := by
  obtain ⟨first,others⟩ := List.nodup_cons.mp accepted.distinct
  refine ⟨(List.forall₂_cons.mp accepted.reads).2,others,?_,fun s mem => accepted.creates s (List.mem_cons_of_mem _ mem)⟩
  intro s mem repeated
  rcases List.mem_cons.mp repeated with same | before
  · exact first (same ▸ List.mem_map_of_mem mem)
  · exact accepted.unseen s (List.mem_cons_of_mem _ mem) before

theorem acceptedCons {seen : List K} {raw : ρ} {raws : List ρ} {row : R} {rows : List R} (ok : read raw = .ok row)
    (fresh : identity row ∉ seen) (create : classify row = .create)
    (later : Accepted read identity classify (identity row :: seen) raws rows) :
    Accepted read identity classify seen (raw :: raws) (row :: rows) := by
  refine ⟨.cons ok later.reads,List.nodup_cons.mpr ⟨?_,later.distinct⟩,?_,List.forall_mem_cons.mpr ⟨create,later.creates⟩⟩
  · intro mem
    obtain ⟨s,listed,same⟩ := List.mem_map.mp mem
    exact later.unseen s listed (same ▸ List.mem_cons_self)
  · exact List.forall_mem_cons.mpr ⟨fresh,fun s mem before => later.unseen s mem (List.mem_cons_of_mem _ before)⟩

theorem acceptedUnique {seen : List K} {raws : List ρ} {rows other : List R} (first : Accepted read identity classify seen raws rows)
    (second : Accepted read identity classify seen raws other) : rows = other := by
  have unique : ∀ {raws : List ρ} {rows other : List R}, List.Forall₂ (fun raw row => read raw = .ok row) raws rows →
      List.Forall₂ (fun raw row => read raw = .ok row) raws other → rows = other := by
    intro raws rows other left
    induction left generalizing other with
    | nil => intro right; cases right; rfl
    | cons ok _ ih =>
      intro right
      cases right with
      | cons again more => rw [Except.ok.inj (ok.symm.trans again),ih more]
  exact unique first.reads second.reads

end Rows

section Stages
variable {ρ R K : Type} [DecidableEq K] {read : ρ → Except Text R} {identity : R → K} {classify : R → Classification}
  {label : String}

def stages (label : String) (read : ρ → Except Text R) (identity : R → K) (classify : R → Classification) (index : ℕ) (seen : List K)
    (raws : List ρ) : List (ExecutionRow R) :=
  ((validateRows read identity index seen raws).map (classifyRow classify)).map (executionRow label)

theorem stagesCreate {seen : List K} {raw : ρ} {rest : List ρ} {index : ℕ} {row : R} (ok : read raw = .ok row)
    (fresh : identity row ∉ seen) (create : classify row = .create) :
    stages label read identity classify index seen (raw :: rest) =
      ⟨index,.create,true,some row,[]⟩ :: stages label read identity classify (index + 1) (identity row :: seen) rest := by
  unfold stages
  rw [validateRows,ok]
  dsimp only
  rw [if_neg fresh,List.map_cons,List.map_cons]
  congr 1
  simp only [classifyRow,executionRow,create,reduceCtorEq,if_false,if_true]

-- Accepted rows leave nothing blocked and are the rows created.
theorem acceptedReady {raws : List ρ} {index : ℕ} {seen : List K} {rows : List R}
    (accepted : Accepted read identity classify seen raws rows) :
    (∀ r ∈ stages label read identity classify index seen raws, r.ready = true) ∧
      (stages label read identity classify index seen raws).filterMap (fun r => if r.action = .create then r.row else none) = rows := by
  induction raws generalizing index seen rows with
  | nil =>
    cases accepted.reads
    exact ⟨fun r mem => (List.not_mem_nil mem).elim,rfl⟩
  | cons raw rest ih =>
    cases rows with
    | nil => cases accepted.reads
    | cons row more =>
      obtain ⟨ready,created⟩ := @ih (index + 1) _ _ accepted.tail
      rw [stagesCreate (List.forall₂_cons.mp accepted.reads).1 (accepted.unseen row List.mem_cons_self)
        (accepted.creates row List.mem_cons_self)]
      refine ⟨List.forall_mem_cons.mpr ⟨rfl,ready⟩,?_⟩
      rw [List.filterMap_cons]
      exact congrArg (row :: ·) created

theorem readyAccepted {raws : List ρ} {index : ℕ} {seen : List K}
    (ready : ∀ r ∈ stages label read identity classify index seen raws, r.ready = true) :
    ∃ rows, Accepted read identity classify seen raws rows := by
  induction raws generalizing index seen with
  | nil => refine ⟨[],.nil,List.nodup_nil,?_,?_⟩ <;> intro r mem <;> cases mem
  | cons raw rest ih =>
    cases ok : read raw with
    | error e =>
      unfold stages at ready
      rw [validateRows,ok] at ready
      exact absurd (ready _ List.mem_cons_self) Bool.false_ne_true
    | ok row =>
      by_cases repeated : identity row ∈ seen
      · unfold stages at ready
        rw [validateRows,ok] at ready
        dsimp only at ready
        rw [if_pos repeated] at ready
        exact absurd (ready _ List.mem_cons_self) Bool.false_ne_true
      · by_cases create : classify row = .create
        · rw [stagesCreate ok repeated create] at ready
          obtain ⟨rows,later⟩ := ih (List.forall_mem_cons.mp ready).2
          exact ⟨row :: rows,acceptedCons ok repeated create later⟩
        · unfold stages at ready
          rw [validateRows,ok] at ready
          dsimp only at ready
          rw [if_neg repeated,List.map_cons,List.map_cons] at ready
          have blocked := ready _ List.mem_cons_self
          simp [classifyRow,executionRow,create] at blocked

theorem validateLength (raws : List ρ) (index : ℕ) (seen : List K) :
    (validateRows read identity index seen raws).length = raws.length := by
  induction raws generalizing index seen with
  | nil => rfl
  | cons raw rest ih =>
    rw [validateRows]
    cases read raw with
    | error e => exact congrArg Nat.succ (ih _ _)
    | ok row =>
      dsimp only
      split <;> exact congrArg Nat.succ (ih _ _)

theorem executableIff {raws : List ρ} :
    (buildExecutionPlan label ((validateRows read identity 1 [] raws).map (classifyRow classify))).executable = true ↔
      raws ≠ [] ∧ ∀ r ∈ stages label read identity classify 1 [] raws, r.ready = true := by
  unfold ExecutionPlan.executable buildExecutionPlan stages
  dsimp only
  rw [Bool.and_eq_true,decide_eq_true_eq,decide_eq_true_eq,List.length_eq_zero_iff,List.filter_eq_nil_iff]
  simp only [List.length_map,validateLength,List.length_pos_iff,Bool.not_eq_true',Bool.not_eq_false]

-- A statement about what executable plans create is one about the rows of the file that are accepted.
theorem planIff {name : String} {maxRows : ℤ} {raws : List ρ} (holds : List R → Prop) :
    (∀ plan : ExecutionPlan R, (do
        let previews ← validateImportRows label read identity maxRows raws
        .ok (buildExecutionPlan name (previews.map (classifyRow classify)))) = .ok plan → plan.executable → holds plan.created) ↔
      ∀ rows, 0 < maxRows → raws.length ≤ maxRows → raws ≠ [] → Accepted read identity classify [] raws rows → holds rows := by
  constructor
  · intro claimed rows positive few some accepted
    have run : validateImportRows label read identity maxRows raws = .ok (validateRows read identity 1 [] raws) := by
      unfold validateImportRows
      rw [if_neg (by omega),if_neg (by omega)]
    obtain ⟨ready,created⟩ := @acceptedReady _ _ _ _ read identity classify name raws 1 [] rows accepted
    have kept := claimed (buildExecutionPlan name ((validateRows read identity 1 [] raws).map (classifyRow classify)))
      (by rw [run]; rfl) (executableIff.mpr ⟨some,ready⟩)
    rw [← created]
    exact kept
  · intro kept plan made executable
    obtain ⟨previews,run,same⟩ := okBind made
    obtain rfl := Except.ok.inj same
    unfold validateImportRows at run
    split_ifs at run with none many
    obtain rfl := Except.ok.inj run
    obtain ⟨some,ready⟩ := executableIff.mp executable
    obtain ⟨rows,accepted⟩ := readyAccepted ready
    have created := (@acceptedReady _ _ _ _ read identity classify name raws 1 [] rows accepted).2
    have listed := kept rows (by omega) (by omega) some accepted
    rw [← created] at listed
    exact listed

end Stages
section Windows
variable {τ : Type} [LinearOrder τ] [OrderTop τ]

def Window.Holds (w : Window τ) (t : τ) : Prop := w.validFrom ≤ t ∧ ∀ e ∈ w.validUntil, t < e

def Apart (a b : Window τ) : Prop := ∀ t, ¬(a.Holds t ∧ b.Holds t)

-- The overlap test sees a shared instant, unless one window opens at the last instant.
theorem overlapSeen {a b : Window τ} {t : τ} (first : a.Holds t) (second : b.Holds t) (early : a.validFrom < ⊤)
    (other : b.validFrom < ⊤) : windowsOverlap a b = true := by
  have before : ∀ {u v : Window τ}, u.Holds t → v.Holds t → u.validFrom < ⊤ → u.validFrom < v.validUntil.getD ⊤ := by
    intro u v left right below
    cases until' : v.validUntil with
    | none => exact below
    | some e => exact lt_of_le_of_lt left.1 (right.2 e until')
  simp only [windowsOverlap,Bool.and_eq_true,decide_eq_true_eq]
  exact ⟨before first second early,before second first other⟩

-- The windows of stored and created rows by key: at any instant at most one holds.
def OneAtOnce {κ : Type} [DecidableEq κ] (k : κ) (rows : List (κ × Window τ)) : Prop :=
  (rows.filter (·.1 = k)).Pairwise fun a b => Apart a.2 b.2

end Windows

section Disjoint
variable {τ : Type} [LinearOrder τ]

-- What an import keeps apart: the rows it creates, these and the stored ones in force, and every key that was.
structure WindowsDisjoint {κ : Type} [DecidableEq κ] (created : List (κ × Window τ)) (live stored : List (κ × Window τ)) : Prop where
  among : created.Pairwise fun a b => a.1 = b.1 → Apart a.2 b.2
  apart : ∀ a ∈ created, ∀ b ∈ stored, b.1 = a.1 → Apart a.2 b.2
  keeps : ∀ k, OneAtOnce k stored → OneAtOnce k (stored ++ live)

theorem windowsDisjoint {κ : Type} [DecidableEq κ] {created live stored : List (κ × Window τ)} (listed : live.Sublist created)
    (among : created.Pairwise fun a b => a.1 = b.1 → Apart a.2 b.2)
    (apart : ∀ a ∈ created, ∀ b ∈ stored, b.1 = a.1 → Apart a.2 b.2) : WindowsDisjoint created live stored := by
  refine ⟨among,apart,fun k one => ?_⟩
  unfold OneAtOnce at one ⊢
  rw [List.filter_append,List.pairwise_append]
  refine ⟨one,?_,?_⟩
  · refine List.Pairwise.imp_of_mem (fun {a b} left right disjoint => ?_) ((among.sublist listed).sublist List.filter_sublist)
    have first := of_decide_eq_true (List.mem_filter.mp left).2
    have second := of_decide_eq_true (List.mem_filter.mp right).2
    exact disjoint (first.trans second.symm)
  · intro b left a right t holds
    have first := List.mem_filter.mp left
    have second := List.mem_filter.mp right
    have same : b.1 = a.1 := (of_decide_eq_true first.2).trans (of_decide_eq_true second.2).symm
    exact apart a (listed.subset second.1) b first.1 same t holds.symm

end Disjoint

section Importers
variable {τ : Type} [LinearOrder τ] [OrderTop τ] {δ ρ : Type}

-- A rate that the classification of a row does not see: it stands beyond the page of its pair, or one of the two opens at the last instant.
def Unseen (rates : List (FxRate τ)) (row : FxImportRow τ δ) (rate : FxRate τ) : Prop :=
  rate ∉ listRatesForPair rates row.key 200 ∨ row.window.validFrom = ⊤ ∨ rate.window.validFrom = ⊤

theorem classifyPricingIff {row : PricingImportRow τ δ} {rules : List (PricingRule τ)} :
    classifyPricing row (listPricingRules rules row.key 200) = .create ↔ ∀ rule ∈ rules, rule.key ≠ row.key := by
  have empty : (listPricingRules rules row.key 200).isEmpty = true ↔ ∀ rule ∈ rules, rule.key ≠ row.key := by
    rw [List.isEmpty_iff,listPricingRules,List.take_eq_nil_iff]
    rw [or_iff_right (by decide : (200 : ℕ) ≠ 0),← List.length_eq_zero_iff,Sorting.sortedPerm.length_eq,List.length_eq_zero_iff,List.filter_eq_nil_iff]
    simp only [decide_eq_true_eq,ne_eq]
  rw [← empty]
  unfold classifyPricing
  dsimp only
  constructor
  · intro create
    split_ifs at create with none
    exact none
  · intro none
    rw [if_pos none]

theorem classifyFxApart {row : FxImportRow τ δ} {page : List (FxRate τ)} (create : classifyFx row page = .create) {rate : FxRate τ}
    (mem : rate ∈ page) (early : row.window.validFrom ≠ ⊤) (other : rate.window.validFrom ≠ ⊤) :
    Apart row.window rate.window := by
  intro t shared
  have overlap := overlapSeen shared.1 shared.2 (lt_top_iff_ne_top.mpr early) (lt_top_iff_ne_top.mpr other)
  have some : page.isEmpty = false := by simpa using List.ne_nil_of_mem mem
  have clash : (page.any fun rate => windowsOverlap row.window rate.window) = true := List.any_eq_true.mpr ⟨rate,mem,overlap⟩
  simp only [classifyFx,some,clash,Bool.false_eq_true,if_false,if_true] at create
  split at create
  · split at create <;> cases create
  · cases create

def priced (rows : List (PricingImportRow τ δ)) : List ((Text × Text × Text) × Window τ) := rows.map fun r => (r.key,r.window)

-- An executable price import keeps the windows apart exactly when the rows of the file, accepted and of no stored key, are apart.
theorem pricingImportDisjointIff (read : ρ → Except Text (PricingImportRow τ δ)) (maxRows : ℤ) (rules : List (PricingRule τ))
    (raws : List ρ) :
    (∀ plan, pricingImportPlan read maxRows rules raws = .ok plan → plan.executable →
      WindowsDisjoint (priced plan.created) (priced (plan.created.filter PricingImportRow.enabled))
        ((rules.filter PricingRule.enabled).map fun r => (r.key,r.window))) ↔
    ∀ rows, 0 < maxRows → raws.length ≤ maxRows → List.Forall₂ (fun raw row => read raw = .ok row) raws rows →
      (rows.map fun r => (r.key,r.window)).Nodup → (∀ row ∈ rows, ∀ rule ∈ rules, rule.key ≠ row.key) →
      rows.Pairwise fun a b => a.key = b.key → Apart a.window b.window := by
  refine Iff.trans (planIff (fun rows => WindowsDisjoint (priced rows) (priced (rows.filter PricingImportRow.enabled))
    ((rules.filter PricingRule.enabled).map fun r => (r.key,r.window)))) ?_
  constructor
  · intro kept rows positive few reads distinct fresh
    cases raws with
    | nil =>
      cases reads
      exact List.Pairwise.nil
    | cons raw rest =>
      have disjoint := kept rows positive few (List.cons_ne_nil _ _)
        ⟨reads,distinct,fun _ _ => List.not_mem_nil,fun row mem => classifyPricingIff.mpr (fresh row mem)⟩
      exact List.pairwise_map.mp disjoint.among
  · intro apart rows positive few some accepted
    have fresh := fun row mem => classifyPricingIff.mp (accepted.creates row mem)
    refine windowsDisjoint (List.filter_sublist.map _)
      (List.pairwise_map.mpr (apart rows positive few accepted.reads accepted.distinct fresh)) ?_
    intro a made b stored same
    obtain ⟨row,mem,rfl⟩ := List.mem_map.mp made
    obtain ⟨rule,listed,rfl⟩ := List.mem_map.mp stored
    exact absurd same (fresh row mem rule (List.mem_of_mem_filter listed))

def exchanged (rows : List (FxImportRow τ δ)) : List ((Text × Text) × Window τ) := rows.map fun r => (r.key,r.window)

-- For exchange rates the rows must also be apart from the rates that the classification does not see.
theorem fxImportDisjointIff (read : ρ → Except Text (FxImportRow τ δ)) (maxRows : ℤ) (rates : List (FxRate τ)) (raws : List ρ) :
    (∀ plan, fxImportPlan read maxRows rates raws = .ok plan → plan.executable →
      WindowsDisjoint (exchanged plan.created) (exchanged plan.created) (rates.map fun r => (r.key,r.window))) ↔
    ∀ rows, 0 < maxRows → raws.length ≤ maxRows → List.Forall₂ (fun raw row => read raw = .ok row) raws rows →
      (rows.map fun r => (r.key,r.window)).Nodup →
      (∀ row ∈ rows, classifyFx row (listRatesForPair rates row.key 200) = .create) →
      (rows.Pairwise fun a b => a.key = b.key → Apart a.window b.window) ∧
        ∀ row ∈ rows, ∀ rate ∈ rates, rate.key = row.key → Unseen rates row rate → Apart row.window rate.window := by
  refine Iff.trans (planIff (fun rows => WindowsDisjoint (exchanged rows) (exchanged rows)
    (rates.map fun r => (r.key,r.window)))) ?_
  constructor
  · intro kept rows positive few reads distinct creates
    cases raws with
    | nil =>
      cases reads
      exact ⟨List.Pairwise.nil,fun _ mem => by cases mem⟩
    | cons raw rest =>
      have disjoint := kept rows positive few (List.cons_ne_nil _ _) ⟨reads,distinct,fun _ _ => List.not_mem_nil,creates⟩
      refine ⟨List.pairwise_map.mp disjoint.among,fun row mem rate listed same _ => ?_⟩
      exact disjoint.apart _ (List.mem_map_of_mem mem) _ (List.mem_map_of_mem listed) same
  · intro apart rows positive few some accepted
    obtain ⟨among,unseen⟩ := apart rows positive few accepted.reads accepted.distinct accepted.creates
    refine windowsDisjoint (List.Sublist.refl _) (List.pairwise_map.mpr among) ?_
    intro a made b stored same
    obtain ⟨row,mem,rfl⟩ := List.mem_map.mp made
    obtain ⟨rate,listed,rfl⟩ := List.mem_map.mp stored
    by_cases hidden : Unseen rates row rate
    · exact unseen row mem rate listed same hidden
    · rw [Unseen,not_or,not_or,not_not] at hidden
      exact classifyFxApart (accepted.creates row mem) hidden.1 hidden.2.1 hidden.2.2

end Importers
end SlaifGateway.Imports
