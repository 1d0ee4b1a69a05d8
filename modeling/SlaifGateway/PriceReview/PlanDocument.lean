import SlaifGateway.PriceReview.AllOrNothing
import SlaifGateway.Library.JsonRoundTrip
import Mathlib.Tactic.Ring

/-! The plan document reads back as the plan it renders, without the rows for display. -/
namespace SlaifGateway.PriceReview
open Library JsonText Document LocalCoding.Identity Sorting

section Uuids
variable {decimalDigit : CodePoint → Option Nat}

theorem removeAbsent {part t : Text} {c : CodePoint} (first : part.head? = some c) (absent : c ∉ t) : removeAll part 0 t = t := by
  induction t with
  | nil => rfl
  | cons d rest ih =>
    have other : ¬part.isPrefixOf (d :: rest) = true := by
      intro before
      cases part with
      | nil => cases first
      | cons e more =>
        cases first
        have heads := (List.cons_prefix_cons.mp (List.isPrefixOf_iff_prefix.mp before)).1
        exact absent (heads ▸ List.mem_cons_self)
    rw [removeAll,if_neg other,ih fun mem => absent (List.mem_cons_of_mem _ mem)]

-- Lower-case hexadecimal digits.
def isHexPoint (c : CodePoint) : Prop := (48 ≤ c.val ∧ c.val ≤ 57) ∨ (97 ≤ c.val ∧ c.val ≤ 102)

theorem hexDigitPoint (n : ℕ) : isHexPoint (hexDigit n) := by
  unfold isHexPoint hexDigit
  split
  · exact .inl ⟨Nat.le_add_right _ _,by simp only; omega⟩
  · exact .inr ⟨by simp only; omega,by simp only; omega⟩

theorem fixedHexPoints (width n : ℕ) : ∀ c ∈ fixedHex width n, isHexPoint c := by
  induction width generalizing n with
  | zero => intro c mem; cases mem
  | succ width ih =>
    intro c mem
    rcases List.mem_append.mp mem with early | last
    · exact ih _ c early
    · rw [List.mem_singleton.mp last]
      exact hexDigitPoint n

theorem fixedHexLength (width n : ℕ) : (fixedHex width n).length = width := by
  induction width generalizing n with
  | zero => rfl
  | succ width ih => rw [fixedHex,List.length_append,ih]; rfl

theorem hexDigitReads (n : ℕ) : Capture.hexDigit decimalDigit (hexDigit n) = some (n % 16) := by
  have kind := hexDigitPoint n
  unfold isHexPoint at kind
  rw [Capture.hexDigit,if_pos (by omega),hexValueDigit]

theorem hexDigitsFixed (width n k : ℕ) (digit : Bool) (rest : Text) :
    Capture.hexDigits decimalDigit digit k (fixedHex width n ++ rest) =
      Capture.hexDigits decimalDigit (digit || decide (0 < width)) (k * 16 ^ width + n % 16 ^ width) rest := by
  induction width generalizing n rest with
  | zero => simp [fixedHex,Nat.mod_one]
  | succ width ih =>
    have point : (hexDigit n).val ≠ 95 := by
      have kind := hexDigitPoint n
      unfold isHexPoint at kind
      omega
    rw [fixedHex,List.append_assoc,ih,List.singleton_append,Capture.hexDigits,if_neg point,hexDigitReads]
    dsimp only
    rw [pow_succ',Nat.mod_mul,decide_eq_true (Nat.succ_pos width),Bool.or_true]
    congr 1
    ring

theorem hexNotSpace {c : CodePoint} (kind : isHexPoint c) : Capture.isIntSpace c = false := by
  unfold isHexPoint at kind
  simp only [Capture.isIntSpace,Bool.or_eq_false_iff,Bool.and_eq_false_iff,decide_eq_false_iff_not]
  refine ⟨⟨?_,?_⟩,.inl ?_⟩ <;> omega

theorem trimmedSelf {p : CodePoint → Bool} {t : Text} (kept : ∀ c ∈ t, p c = false) :
    ((t.dropWhile p).reverse.dropWhile p).reverse = t := by
  have stays : ∀ u : Text, (∀ c ∈ u, p c = false) → u.dropWhile p = u := by
    intro u free
    cases u with
    | nil => rfl
    | cons c rest => rw [List.dropWhile_cons_of_neg (by rw [free c List.mem_cons_self]; exact Bool.false_ne_true)]
  rw [stays t kept,stays _ fun c mem => kept c (List.mem_reverse.mp mem),List.reverse_reverse]

theorem hexUnmarked {t : Text} (kinds : ∀ c ∈ t, isHexPoint c) : Capture.dropHexMark t = t := by
  have marks : ∀ letter : CodePoint, letter.val ≠ 120 ∧ letter.val ≠ 88 ∨ letter ∉ t := by
    intro letter
    by_cases mem : letter ∈ t
    · have kind := kinds letter mem
      unfold isHexPoint at kind
      exact .inl (by omega)
    · exact .inr mem
  have lower : (text "0x").isPrefixOf t = false := by
    rw [Bool.eq_false_iff]
    intro before
    have inside := (List.isPrefixOf_iff_prefix.mp before).subset (show (120 : CodePoint) ∈ text "0x" by decide +kernel)
    exact (marks 120).elim (fun other => other.1 rfl) fun absent => absent inside
  have upper : (text "0X").isPrefixOf t = false := by
    rw [Bool.eq_false_iff]
    intro before
    have inside := (List.isPrefixOf_iff_prefix.mp before).subset (show (88 : CodePoint) ∈ text "0X" by decide +kernel)
    exact (marks 88).elim (fun other => other.2 rfl) fun absent => absent inside
  rw [Capture.dropHexMark,lower,upper]
  rfl

theorem hexReads {width n : ℕ} (some : 0 < width) (small : n < 16 ^ width) :
    Capture.intBase16 decimalDigit (fixedHex width n) = .some (n : ℤ) := by
  have kinds := fixedHexPoints width n
  have digits := @hexDigitsFixed decimalDigit width n 0 false []
  rw [List.append_nil,Bool.false_or,decide_eq_true some,zero_mul,zero_add,Nat.mod_eq_of_lt small] at digits
  unfold Capture.intBase16
  rw [trimmedSelf fun c mem => hexNotSpace (kinds c mem)]
  cases shape : fixedHex width n with
  | nil =>
    have length := fixedHexLength width n
    rw [shape] at length
    exact absurd length.symm (Nat.ne_of_gt some)
  | cons c rest =>
    rw [shape] at kinds digits
    have kind := kinds c List.mem_cons_self
    unfold isHexPoint at kind
    dsimp only
    rw [if_neg (by omega),if_neg (by omega),hexUnmarked kinds,digits]
    rfl

theorem uuidPoints (u : Uuid) : ∀ c ∈ uuidText u, isHexPoint c ∨ c = hyphen := by
  intro c mem
  by_cases same : c = hyphen
  · exact .inr same
  · have kept : c ∈ (uuidText u).filter (· ≠ hyphen) := List.mem_filter.mpr ⟨mem,by simpa using same⟩
    rw [uuidTextHex] at kept
    exact .inl (fixedHexPoints _ _ c kept)

theorem uuidReads (u : Uuid) : uuidOf decimalDigit (uuidText u) = some u := by
  have points := uuidPoints u
  have letter : (117 : CodePoint) ∉ uuidText u := by
    intro mem
    rcases points _ mem with kind | same
    · exact absurd kind (by unfold isHexPoint; decide)
    · exact absurd same (by decide)
  have braces : ∀ c ∈ uuidText u, isBrace c = false := by
    intro c mem
    rcases points c mem with kind | rfl
    · unfold isHexPoint at kind
      simp only [isBrace,Bool.or_eq_false_iff,decide_eq_false_iff_not]
      omega
    · decide
  have urn : (text "urn:").head? = some 117 := by decide +kernel
  have uuid : (text "uuid:").head? = some 117 := by decide +kernel
  unfold uuidOf
  rw [removeAbsent urn letter,removeAbsent uuid letter,stripBraces,trimmedSelf braces,uuidTextHex]
  dsimp only
  have bound := u.isLt
  rw [if_neg (by rw [fixedHexLength]; exact fun other => other rfl),hexReads (by decide) (by norm_num at bound ⊢; omega)]
  dsimp only
  rw [if_pos ⟨Int.natCast_nonneg _,by exact_mod_cast bound⟩,Int.toNat_natCast]
  exact congrArg some (Fin.ext (Nat.mod_eq_of_lt bound))

end Uuids
section Documents
variable {decimalDigit : CodePoint → Option Nat}

theorem keysAreNames {fields : Fields} {names : List String} (keys : fields.keys = names.map text) : fields.keysAre names = true := by
  rw [Fields.keysAre,Bool.and_eq_true,Fields.keysWithin,keys]
  refine ⟨List.all_eq_true.mpr fun k mem => List.contains_iff_mem.mpr mem,List.all_eq_true.mpr fun k mem => ?_⟩
  exact Fields.hasIff.mpr (keys ▸ mem)

theorem getListed {fields : Fields} {key : Text} {v : Document} (distinct : fields.keys.Nodup) (mem : (key,v) ∈ fields) :
    fields.get key = v := by
  rw [Fields.get,Fields.getOfMem distinct mem]
  rfl

theorem rowReads {row : ReviewRow} (print : isFingerprint row.fingerprint = true) : readRow decimalDigit (renderRow row) = some row := by
  have distinct : (["id","fingerprint"].map text).Nodup := by decide +kernel
  have names : Fields.keys [(text "id",.str (uuidText row.pricingRuleId)),(text "fingerprint",.str row.fingerprint)] =
      ["id","fingerprint"].map text := rfl
  rw [← names] at distinct
  have id := getListed distinct List.mem_cons_self
  have fingerprint := getListed distinct (List.mem_cons_of_mem _ List.mem_cons_self)
  simp only [readRow,renderRow,mapping?,Option.bind_eq_bind,Option.bind_some,keysAreNames names,Bool.not_true,Bool.false_eq_true,
    if_false,id,fingerprint,strOf,uuidReads,text?,Option.filter_some,print,if_true]

theorem rowsRead {rows : List ReviewRow} {seen : List Uuid} (checked : checkRows seen rows = .ok ()) :
    readRows decimalDigit seen (rows.map renderRow) = some rows := by
  induction rows generalizing seen with
  | nil => rfl
  | cons row rest ih =>
    unfold checkRows at checked
    split_ifs at checked with again print
    rw [List.map_cons,readRows,rowReads (by simpa using print)]
    simp only [Option.bind_eq_bind,Option.bind_some,if_neg again,ih checked,Option.map_some]

theorem planReads {plan : PricingDisablePlan} (valid : validateReviewedPlan plan = .ok ())
    (provider : (stripText plan.provider).isEmpty = false) (model : (stripText plan.model).isEmpty = false) :
    parsePricingDisablePlanDocument decimalDigit (renderPricingDisablePlan plan) = .ok {plan with displayRows := []} := by
  obtain ⟨count,cap,checked⟩ := validRows valid
  have distinct : (["provider","model","endpoint","row_count","rows"].map text).Nodup := by decide +kernel
  have names : Fields.keys [(text "provider",.str plan.provider),(text "model",.str plan.model),
      (text "endpoint",optionalText plan.endpoint),(text "row_count",.int plan.rowCount),
      (text "rows",.arr (plan.rows.map renderRow))] = ["provider","model","endpoint","row_count","rows"].map text := rfl
  rw [← names] at distinct
  have providerGet := getListed distinct List.mem_cons_self
  have modelGet := getListed distinct (List.mem_cons_of_mem _ List.mem_cons_self)
  have endpointGet := getListed distinct (List.mem_cons_of_mem _ (List.mem_cons_of_mem _ List.mem_cons_self))
  have countGet := getListed distinct (List.mem_cons_of_mem _ (List.mem_cons_of_mem _ (List.mem_cons_of_mem _ List.mem_cons_self)))
  have rowsGet := getListed distinct (List.mem_cons_of_mem _ (List.mem_cons_of_mem _ (List.mem_cons_of_mem _
    (List.mem_cons_of_mem _ List.mem_cons_self))))
  have scope : optionalScope (optionalText plan.endpoint) = some plan.endpoint := by
    cases plan.endpoint <;> rfl
  have bounds : (decide (plan.rowCount < 0) || decide ((maxReviewedRows : ℤ) < plan.rowCount) ||
      decide ((((plan.rows.map renderRow).length : ℕ) : ℤ) ≠ plan.rowCount)) = false := by
    rw [List.length_map,count]
    simpa using cap
  unfold parsePricingDisablePlanDocument readPlan renderPricingDisablePlan
  simp only [mapping?,Option.bind_eq_bind,Option.bind_some,keysAreNames names,Bool.not_true,Bool.false_eq_true,if_false,providerGet,
    modelGet,endpointGet,countGet,rowsGet,scopeText,text?,Option.filter_some,provider,model,Bool.not_false,if_true,scope,count?,items?,
    bounds,rowsRead checked,Option.elim_some]

theorem readRowPrint {item : Document} {row : ReviewRow} (read : readRow decimalDigit item = some row) :
    isFingerprint row.fingerprint = true := by
  obtain ⟨fields,-,read⟩ := Option.bind_eq_some_iff.mp read
  split at read
  · cases read
  · obtain ⟨id,-,read⟩ := Option.bind_eq_some_iff.mp read
    obtain ⟨fingerprint,kept,read⟩ := Option.bind_eq_some_iff.mp read
    obtain rfl := Option.some.inj read
    exact (Option.filter_eq_some_iff.mp kept).2

theorem readRowsCheck {items : List Document} {seen : List Uuid} {rows : List ReviewRow}
    (read : readRows decimalDigit seen items = some rows) : checkRows seen rows = .ok () ∧ rows.length = items.length := by
  induction items generalizing seen rows with
  | nil =>
    obtain rfl := Option.some.inj read
    exact ⟨rfl,rfl⟩
  | cons item rest ih =>
    rw [readRows] at read
    obtain ⟨row,first,read⟩ := Option.bind_eq_some_iff.mp read
    split at read
    · cases read
    · rename_i fresh
      obtain ⟨later,more,rfl⟩ := Option.map_eq_some_iff.mp read
      obtain ⟨checked,length⟩ := ih more
      refine ⟨?_,congrArg Nat.succ length⟩
      rw [checkRows,if_neg fresh,if_neg (by rw [readRowPrint first]; exact Bool.false_ne_true),checked]

structure ScopedPlan (plan : PricingDisablePlan) : Prop where
  valid : validateReviewedPlan plan = .ok ()
  provider : (stripText plan.provider).isEmpty = false
  model : (stripText plan.model).isEmpty = false

theorem scopeTextSome {value : Document} {t : Text} (read : scopeText value = some t) : (stripText t).isEmpty = false := by
  simpa using (Option.filter_eq_some_iff.mp read).2

theorem parsedScoped {document : Document} {plan : PricingDisablePlan}
    (parsed : parsePricingDisablePlanDocument decimalDigit document = .ok plan) : ScopedPlan plan ∧ plan.displayRows = [] := by
  unfold parsePricingDisablePlanDocument at parsed
  cases read : readPlan decimalDigit document with
  | none =>
    rw [read] at parsed
    cases parsed
  | some found =>
    rw [read] at parsed
    obtain rfl := Except.ok.inj parsed
    obtain ⟨fields,-,read⟩ := Option.bind_eq_some_iff.mp read
    split at read
    · cases read
    · obtain ⟨provider,providerRead,read⟩ := Option.bind_eq_some_iff.mp read
      obtain ⟨model,modelRead,read⟩ := Option.bind_eq_some_iff.mp read
      obtain ⟨endpoint,-,read⟩ := Option.bind_eq_some_iff.mp read
      obtain ⟨count,-,read⟩ := Option.bind_eq_some_iff.mp read
      obtain ⟨items,-,read⟩ := Option.bind_eq_some_iff.mp read
      split at read
      · cases read
      · rename_i bounds
        obtain ⟨rows,rowsRead,read⟩ := Option.bind_eq_some_iff.mp read
        obtain rfl := Option.some.inj read
        obtain ⟨checked,length⟩ := readRowsCheck rowsRead
        simp only [Bool.or_eq_true,decide_eq_true_eq,not_or,not_lt,not_not] at bounds
        refine ⟨⟨?_,scopeTextSome providerRead,scopeTextSome modelRead⟩,rfl⟩
        unfold validateReviewedPlan
        dsimp only
        rw [if_neg (by rw [length,bounds.2]; exact fun other => other rfl),if_neg (by omega),checked]

-- What applying, applying again, rendering and parsing do for a plan.
structure AllOrNothing (sha : List UInt8 → Text) (decimalDigit : CodePoint → Option Nat) (plan : PricingDisablePlan)
    (actorAdminId : Option Uuid) (reason : Option Text) (catalog : Catalog) : Prop where
  disables : validateReviewedPlan plan = .ok () → Disables sha plan catalog →
    applyDisableModelReviewed sha plan actorAdminId reason catalog =
      (.ok ⟨plan.rows.length,false⟩,disabledCatalog plan.rows actorAdminId reason catalog) ∧
    ∀ actor why, applyDisableModelReviewed sha plan actor why (disabledCatalog plan.rows actorAdminId reason catalog) =
      (.ok ⟨0,true⟩,disabledCatalog plan.rows actorAdminId reason catalog)
  repeats : validateReviewedPlan plan = .ok () → AlreadyDisabled sha plan catalog →
    applyDisableModelReviewed sha plan actorAdminId reason catalog = (.ok ⟨0,true⟩,catalog)
  empty : validateReviewedPlan plan = .ok () → plan.rows = [] →
    applyDisableModelReviewed sha plan actorAdminId reason catalog = (.ok ⟨0,false⟩,catalog)
  refuses : (validateReviewedPlan plan = .ok () → plan.rows ≠ [] ∧ ¬Disables sha plan catalog ∧ ¬AlreadyDisabled sha plan catalog) →
    ∃ e, applyDisableModelReviewed sha plan actorAdminId reason catalog = (.error e,catalog)
  renders : ScopedPlan plan →
    parsePricingDisablePlanDocument decimalDigit (renderPricingDisablePlan plan) = .ok {plan with displayRows := []}
  reparses : ∀ document, parsePricingDisablePlanDocument decimalDigit document = .ok plan →
    ScopedPlan plan ∧ parsePricingDisablePlanDocument decimalDigit (renderPricingDisablePlan plan) = .ok plan

theorem reviewedDisableAllOrNothing (sha : List UInt8 → Text) (decimalDigit : CodePoint → Option Nat) (plan : PricingDisablePlan)
    (actorAdminId : Option Uuid) (reason : Option Text) (catalog : Catalog) :
    AllOrNothing sha decimalDigit plan actorAdminId reason catalog where
  disables := fun valid disables =>
    ⟨appliesDisables valid disables,fun _ _ => appliesRepeat valid (disabledAgain disables)⟩
  repeats := fun valid already => appliesRepeat valid already
  empty := fun valid none => appliesEmpty valid none
  refuses := fun other => by
    cases valid : validateReviewedPlan plan with
    | error e => exact ⟨e,appliesInvalid valid⟩
    | ok =>
      obtain ⟨some,moved,fresh⟩ := other valid
      exact ⟨.stale,appliesStale valid some moved fresh⟩
  renders := fun inside => planReads inside.valid inside.provider inside.model
  reparses := fun document parsed => by
    obtain ⟨inside,display⟩ := parsedScoped parsed
    refine ⟨inside,(planReads inside.valid inside.provider inside.model).trans (congrArg Except.ok ?_)⟩
    rw [← display]

-- An empty plan is applied without a look at the rows of its scope.
theorem emptyPlanAccepted : ¬∀ (sha : List UInt8 → Text) (plan : PricingDisablePlan) (actorAdminId : Option Uuid)
    (reason : Option Text) (catalog : Catalog), validateReviewedPlan plan = .ok () →
    (Matches sha plan catalog ∧ Membership plan catalog ∧ applyDisableModelReviewed sha plan actorAdminId reason catalog =
      (.ok ⟨plan.rows.length,false⟩,disabledCatalog plan.rows actorAdminId reason catalog)) ∨
    ∃ e, applyDisableModelReviewed sha plan actorAdminId reason catalog = (.error e,catalog) := by
  intro claimed
  have outcome := claimed (fun _ => []) ⟨[112],[109],none,0,[],[]⟩ none none
    ⟨[⟨0,[112],[109],[101],[99],0,none,none,none,none,none,none,[],true⟩],[],List.nodup_singleton _⟩ rfl
  rcases outcome with ⟨-,members,-⟩ | ⟨e,raised⟩
  · exact absurd ((members _ (List.mem_singleton_self _)).mp (by decide)) List.not_mem_nil
  · cases (Prod.mk.inj raised).1

end Documents
end SlaifGateway.PriceReview
