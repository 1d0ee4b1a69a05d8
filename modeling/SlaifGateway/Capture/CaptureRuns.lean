import SlaifGateway.Capture.CaptureStore
import Mathlib.Algebra.BigOperators.Group.List.Basic
import Mathlib.Algebra.Order.BigOperators.Group.List
import Mathlib.Data.List.Nodup
import Mathlib.Tactic.Linarith
import Mathlib.Tactic.Ring
import Mathlib.Tactic.Positivity

/-! The capture store along every run of the operator and the observers: its counters stay in order, what lies on
disk stays within what is reserved, and the manifest it writes can be read back. -/
namespace SlaifGateway.CaptureStore
open Library

section Lists
variable {α : Type} {p : α → Bool} {l before after : List α} {x : α}

theorem splitFirstSome (found : splitFirst p l = some (before,x,after)) : l = before ++ x :: after ∧ p x = true := by
  induction l generalizing before with
  | nil => cases found
  | cons head rest ih =>
    unfold splitFirst at found
    split at found
    · next held =>
      cases found
      exact ⟨rfl,held⟩
    · obtain ⟨⟨b,y,a⟩,later,same⟩ := Option.map_eq_some_iff.mp found
      cases same
      obtain ⟨rfl,held⟩ := ih later
      exact ⟨rfl,held⟩

-- Taking nonnegative amounts off one after another never meets zero while their sum is there.
theorem takeOff {f : α → ℤ} {total : ℤ} (nonneg : ∀ x ∈ l, 0 ≤ f x) (enough : (l.map f).sum ≤ total) :
    l.foldl (fun total x => max 0 (total - f x)) total = total - (l.map f).sum := by
  induction l generalizing total with
  | nil => simp
  | cons head rest ih =>
    rw [List.map_cons,List.sum_cons] at enough ⊢
    have later : ∀ x ∈ rest, 0 ≤ f x := fun x mem => nonneg x (List.mem_cons_of_mem _ mem)
    have left : 0 ≤ (rest.map f).sum := List.sum_nonneg fun y mem => by
      obtain ⟨x,inside,rfl⟩ := List.mem_map.mp mem
      exact later x inside
    rw [List.foldl_cons,max_eq_right (by omega),ih later (by omega)]
    omega

theorem filterSum {f : α → ℤ} : ((l.filter p).map f).sum + ((l.filter (!p ·)).map f).sum = (l.map f).sum := by
  induction l with
  | nil => rfl
  | cons head rest ih => cases held : p head <;> simp [held] <;> omega

end Lists

section Uuids

theorem lowerHex {c : CodePoint} (hex : isHex c = true ∨ isUpperHex c = true ∨ c.val = 45) :
    ∃ d, lowerPoint c = [d] ∧ (c.val = 45 → d.val = 45) ∧ (isHex c = true ∨ isUpperHex c = true → isHex d = true) := by
  simp only [isHex,isUpperHex,isDigit,Bool.or_eq_true,Bool.and_eq_true,decide_eq_true_eq] at hex ⊢
  unfold lowerPoint
  split_ifs with big kelvin dotted
  · refine ⟨_,rfl,fun same => by omega,fun _ => ?_⟩
    have small : (Fin.ofNat 0x110000 (c.val + 32)).val = c.val + 32 := Nat.mod_eq_of_lt (by omega)
    rw [small]
    omega
  · omega
  · omega
  · exact ⟨c,rfl,id,fun _ => by omega⟩

theorem lowerUuid {t : Text} (uuid : isUuid t = true) : isUuid (lower t) = true := by
  have step : ∀ (t : Text) (k : ℕ), (t.zipIdx k).all (fun entry => if entry.2 ∈ [8,13,18,23] then entry.1.val = 45
      else isHex entry.1 || isUpperHex entry.1) = true → (lower t).length = t.length ∧
      ((lower t).zipIdx k).all (fun entry => if entry.2 ∈ [8,13,18,23] then entry.1.val = 45
        else isHex entry.1 || isUpperHex entry.1) = true := by
    intro t
    induction t with
    | nil => exact fun _ _ => ⟨rfl,rfl⟩
    | cons c rest ih =>
      intro k all
      rw [List.zipIdx_cons,List.all_cons,Bool.and_eq_true] at all
      obtain ⟨length,others⟩ := ih (k + 1) all.2
      have kind : isHex c = true ∨ isUpperHex c = true ∨ c.val = 45 := by
        have own := all.1
        dsimp only at own
        split at own
        · exact .inr (.inr (of_decide_eq_true own))
        · rw [Bool.or_eq_true] at own
          exact own.elim .inl fun upper => .inr (.inl upper)
      obtain ⟨d,lowered,hyphen,digit⟩ := lowerHex kind
      have same : lower (c :: rest) = d :: lower rest := by
        rw [lower,List.flatMap_cons,lowered]
        rfl
      rw [same,List.length_cons,List.length_cons,length,List.zipIdx_cons,List.all_cons,Bool.and_eq_true]
      refine ⟨rfl,?_,others⟩
      have own := all.1
      dsimp only at own ⊢
      split at own
      · next listed =>
        rw [if_pos listed]
        exact decide_eq_true (hyphen (of_decide_eq_true own))
      · next unlisted =>
        rw [if_neg unlisted,digit (by rwa [Bool.or_eq_true] at own),Bool.true_or]
  simp only [isUuid,Bool.and_eq_true,decide_eq_true_eq] at uuid ⊢
  obtain ⟨length,all⟩ := step t 0 uuid.2
  exact ⟨length.trans uuid.1,all⟩

end Uuids

section Operations
variable {c : CaptureFacilityConfig} {size : Manifest → ℕ} {d d' : Directory} {m : Manifest}

theorem readIff : readManifest size m = .ok m ↔ size m ≤ maxManifestBytes ∧ 0 ≤ m.storageBytesReserved ∧
    m.sessions.length ≤ maxSessionsHard ∧ ∀ s ∈ m.sessions, readable s = true := by
  unfold readManifest
  split_ifs with big negative many all
  · exact ⟨(fun h => by cases h),fun h => absurd h.1 (by omega)⟩
  · exact ⟨(fun h => by cases h),fun h => absurd h.2.1 (by omega)⟩
  · exact ⟨(fun h => by cases h),fun h => absurd h.2.2.1 (by omega)⟩
  · exact ⟨fun _ => ⟨by omega,by omega,by omega,List.all_eq_true.mp all⟩,fun _ => rfl⟩
  · exact ⟨(fun h => by cases h),fun h => absurd (List.all_eq_true.mpr h.2.2.2) all⟩

theorem readSame {m' : Manifest} (ok : readManifest size m = .ok m') : m' = m := by
  unfold readManifest at ok
  split_ifs at ok
  exact (Except.ok.inj ok).symm

theorem readableIff {s : CaptureSession} : readable s = true ↔
    isSessionId s.sessionId = true ∧ (isRooted s.endpoint = true ∧ s.endpoint.length ≤ 2048) ∧
      s.keyUuid.all isUuid = true ∧ (1 ≤ s.count ∧ s.count ≤ maxCountHard) ∧ 0 ≤ s.claimed ∧ 0 ≤ s.createdAt ∧
      0 ≤ s.expiresAt ∧ 0 ≤ s.bytesReserved ∧ 0 ≤ s.published ∧ 0 ≤ s.claimReserve := by
  simp only [readable,Bool.and_eq_true,decide_eq_true_eq,and_assoc]

theorem reservationPositive : 0 < reservationBytes c := by
  have nonneg : 0 ≤ max 0 c.bodyBudgetBytes * 4 / 3 := by omega
  unfold reservationBytes metadataOverheadBytes
  omega

theorem pruned {now : ℚ} {rounds : ℕ} {sessions : List CaptureSession} :
    (pruneFinished c now rounds sessions).Sublist sessions ∧
      ((pruneFinished c now rounds sessions).map CaptureSession.bytesReserved).sum =
        (sessions.map CaptureSession.bytesReserved).sum := by
  induction rounds generalizing sessions with
  | zero => exact ⟨List.Sublist.refl _,rfl⟩
  | succ rounds ih =>
    unfold pruneFinished
    split
    · exact ⟨List.Sublist.refl _,rfl⟩
    · split
      · exact ⟨List.Sublist.refl _,rfl⟩
      · next s found =>
        obtain ⟨here,idle⟩ := List.mem_filter.mp (List.argmin_mem found)
        have empty : s.bytesReserved = 0 := by
          simp only [prunable,Bool.and_eq_true,decide_eq_true_eq] at idle
          exact idle.2
        have sum := List.sum_map_erase CaptureSession.bytesReserved here
        rw [empty,zero_add] at sum
        exact ⟨ih.1.trans List.erase_sublist,ih.2.trans sum⟩

theorem armOk {sessionId endpoint : Text} {keyUuid : Option Text} {count : Option ℤ} {ttl : Option ℚ} {now : ℚ}
    {s : CaptureSession} (ok : arm c size sessionId endpoint keyUuid count ttl now d = .ok (s,d')) :
    ∃ kept, kept = pruneFinished c now d.manifest.sessions.length d.manifest.sessions ∧ kept.length < c.maxSessions ∧
      d' = ⟨⟨d.manifest.storageBytesReserved,kept ++ [s]⟩,d.files⟩ ∧ ∃ lifetime, 0 < lifetime ∧
      s = ⟨sessionId,endpoint,keyUuid.map lower,count.getD c.defaultCount,0,now,now + lifetime,false,0,0,0⟩ ∧
      validEndpoint endpoint = true ∧ keyUuid.all isUuid = true ∧
      1 ≤ count.getD c.defaultCount ∧ count.getD c.defaultCount ≤ c.maxCount := by
  unfold arm at ok
  obtain ⟨_,valid,ok⟩ := okBind ok
  obtain ⟨_,uuid,ok⟩ := okBind ok
  obtain ⟨_,counted,ok⟩ := okBind ok
  obtain ⟨_,timed,ok⟩ := okBind ok
  obtain ⟨m,read,ok⟩ := okBind ok
  obtain ⟨_,room,ok⟩ := okBind ok
  cases readSame read
  cases ok
  have few := okFailIf room
  have known := not_not.mp (okFailIf counted)
  exact ⟨_,rfl,by omega,rfl,_,(not_not.mp (okFailIf timed)).1,rfl,by simpa using okFailIf valid,by simpa using okFailIf uuid,known⟩

theorem claimOk {endpoint : Text} {keyUuid : Option Text} {now : ℚ} {reserve : ℤ} {s' : CaptureSession}
    (ok : claim c size endpoint keyUuid now (some reserve) d = .ok (some s',d')) :
    ∃ before s after, d.manifest.sessions = before ++ s :: after ∧ s' = s.claim reserve ∧ s.status now = .active ∧
      (0 < reserve → d.manifest.storageBytesReserved + reserve ≤ c.totalStorageBytes) ∧
      d' = ⟨⟨d.manifest.storageBytesReserved + reserve,before ++ s' :: after⟩,d.files⟩ := by
  unfold claim at ok
  obtain ⟨_,_,ok⟩ := okBind ok
  obtain ⟨m,read,ok⟩ := okBind ok
  cases readSame read
  split at ok
  · cases ok
  · next before s after found =>
    cases ok
    obtain ⟨whole,fits⟩ := splitFirstSome found
    simp only [claimable,Option.getD_some,Bool.and_eq_true,decide_eq_true_eq,Bool.not_eq_true',Bool.and_eq_false_iff,
      decide_eq_false_iff_not] at fits
    refine ⟨before,s,after,whole,rfl,fits.1.1.1,fun positive => ?_,rfl⟩
    exact not_lt.mp (fits.2.resolve_left (not_not.mpr positive))

theorem admitOk {sessionId requestId : Text} {capture record : ℕ}
    (ok : admitArtifact c size sessionId requestId capture record d = .ok m) :
    ∃ before s after reserve, d.manifest.sessions = before ++ s :: after ∧ s.sessionId = sessionId ∧
      s.published < s.claimed ∧ reserve = (if s.claimReserve = 0 then reservationBytes c else s.claimReserve) ∧
      (capture + record : ℤ) ≤ reservationBytes c ∧ m.storageBytesReserved ≤ c.totalStorageBytes ∧
      m = ⟨max 0 (d.manifest.storageBytesReserved - reserve + (capture + record + metadataOverheadBytes)),
        before ++ s.publish (capture + record + metadataOverheadBytes) reserve :: after⟩ := by
  unfold admitArtifact at ok
  obtain ⟨_,_,ok⟩ := okBind ok
  obtain ⟨_,_,ok⟩ := okBind ok
  obtain ⟨m',read,ok⟩ := okBind ok
  cases readSame read
  dsimp only at ok
  split at ok
  · cases ok
  · next before s after found =>
    obtain ⟨_,unpublished,ok⟩ := okBind ok
    obtain ⟨_,_,ok⟩ := okBind ok
    obtain ⟨_,small,ok⟩ := okBind ok
    obtain ⟨_,fits,ok⟩ := okBind ok
    cases ok
    obtain ⟨whole,named⟩ := splitFirstSome found
    exact ⟨before,s,after,_,whole,of_decide_eq_true named,not_le.mp (okFailIf unpublished),rfl,
      not_lt.mp (okFailIf small),not_lt.mp (okFailIf fits),rfl⟩

theorem stopOk {sessionId : Option Text} {n : ℕ} (ok : stop size sessionId d = .ok (n,d')) :
    d' = d ∨ d' = ⟨⟨d.manifest.storageBytesReserved,d.manifest.sessions.map (stopSelected sessionId)⟩,d.files⟩ := by
  unfold stop at ok
  obtain ⟨m,read,ok⟩ := okBind ok
  cases readSame read
  have left := congrArg Prod.snd (Except.ok.inj ok)
  dsimp only at left
  split at left
  · exact .inl left.symm
  · exact .inr left.symm

theorem cleanupOk {sessionId : Option Text} {stuck : List Artifact} {n : ℕ}
    (ok : cleanup size sessionId stuck d = .ok (n,d')) :
    d'.manifest = ⟨(d.manifest.sessions.filter (isSelected sessionId)).foldl
        (fun total s => max 0 (total - s.bytesReserved)) d.manifest.storageBytesReserved,
      d.manifest.sessions.filter (!isSelected sessionId ·)⟩ ∧ d'.files.Sublist d.files := by
  unfold cleanup at ok
  obtain ⟨m,read,ok⟩ := okBind ok
  cases readSame read
  cases ok
  exact ⟨rfl,List.filter_sublist⟩

end Operations

section Invariant
variable {c : CaptureFacilityConfig} {size : Manifest → ℕ} {w w' : World} {s s' : CaptureSession}

def sessions (w : World) : List CaptureSession := w.directory.manifest.sessions

def storage (w : World) : ℤ := w.directory.manifest.storageBytesReserved

-- What lies in the directory of a session.
def diskBytes (w : World) (sessionId : Text) : ℕ :=
  ((w.directory.files.filter (·.sessionId = sessionId)).map Artifact.bytes).sum

-- Each claim that an observer still holds has its reservation.
structure SessionInv (c : CaptureFacilityConfig) (w : World) (s : CaptureSession) : Prop where
  reads : readable s = true
  published : s.published + w.holders.count s.sessionId ≤ s.claimed
  claimed : s.claimed ≤ s.count
  covered : diskBytes w s.sessionId + w.holders.count s.sessionId * reservationBytes c ≤ s.bytesReserved
  reserve : s.claimReserve = 0 ∨ s.claimReserve = reservationBytes c

structure StoreInv (c : CaptureFacilityConfig) (w : World) : Prop where
  distinct : ((sessions w).map CaptureSession.sessionId).Nodup
  each : ∀ s ∈ sessions w, SessionInv c w s
  total : storage w = ((sessions w).map CaptureSession.bytesReserved).sum
  within : storage w ≤ c.totalStorageBytes
  few : (sessions w).length ≤ c.maxSessions
  named : ∀ s ∈ sessions w, s.sessionId ∈ w.issued
  held : ∀ id ∈ w.holders, id ∈ w.issued
  filed : ∀ f ∈ w.directory.files, f.sessionId ∈ w.issued
  started : 0 ≤ w.clock

theorem SessionInv.shrink (h : SessionInv c w s) (disk : diskBytes w' s.sessionId ≤ diskBytes w s.sessionId)
    (held : w'.holders.count s.sessionId ≤ w.holders.count s.sessionId) : SessionInv c w' s := by
  have less : (w'.holders.count s.sessionId : ℤ) ≤ w.holders.count s.sessionId := by exact_mod_cast held
  have own : (diskBytes w' s.sessionId : ℤ) ≤ diskBytes w s.sessionId := by exact_mod_cast disk
  have paid := mul_le_mul_of_nonneg_right less (reservationPositive (c := c)).le
  exact ⟨h.reads,by linarith [h.published],h.claimed,by linarith [h.covered],h.reserve⟩

theorem filesSublist (files : w'.directory.files.Sublist w.directory.files) (id : Text) : diskBytes w' id ≤ diskBytes w id :=
  ((files.filter _).map _).sum_le_sum fun _ _ => Nat.zero_le _

theorem diskSame (files : w'.directory.files = w.directory.files) (id : Text) : diskBytes w' id = diskBytes w id := by
  rw [diskBytes,files]
  rfl

theorem StoreInv.bytesNonneg (inv : StoreInv c w) (here : s ∈ sessions w) : 0 ≤ s.bytesReserved := by
  have reads := readableIff.mp (inv.each s here).reads
  exact reads.2.2.2.2.2.2.2.1

-- Only some sessions stay, with what they had; the rest is taken off the total.
theorem StoreInv.keeps (inv : StoreInv c w) (kept : (sessions w').Sublist (sessions w))
    (total : storage w' = ((sessions w').map CaptureSession.bytesReserved).sum)
    (files : w'.directory.files.Sublist w.directory.files) (held : w'.holders = w.holders)
    (issued : w'.issued = w.issued) (clock : w'.clock = w.clock) : StoreInv c w' where
  distinct := (kept.map _).nodup inv.distinct
  each s here := (inv.each s (kept.subset here)).shrink (filesSublist files _) (by rw [held])
  total := total
  within := by
    refine le_trans ?_ inv.within
    rw [total,inv.total]
    refine (kept.map CaptureSession.bytesReserved).sum_le_sum fun y mem => ?_
    obtain ⟨s,here,rfl⟩ := List.mem_map.mp mem
    exact inv.bytesNonneg here
  few := kept.length_le.trans inv.few
  named s here := issued ▸ inv.named s (kept.subset here)
  held id mem := by
    rw [held] at mem
    exact issued ▸ inv.held id mem
  filed f mem := issued ▸ inv.filed f (files.subset mem)
  started := clock ▸ inv.started

variable {before after : List CaptureSession}

-- One session changes, and with it what is reserved for it.
theorem StoreInv.replaces (inv : StoreInv c w) (whole : sessions w = before ++ s :: after)
    (whole' : sessions w' = before ++ s' :: after) (same : s'.sessionId = s.sessionId)
    (total : storage w' = storage w + (s'.bytesReserved - s.bytesReserved)) (within : storage w' ≤ c.totalStorageBytes)
    (own : SessionInv c w' s') (disk : ∀ id, id ≠ s.sessionId → diskBytes w' id ≤ diskBytes w id)
    (holders : ∀ id, id ≠ s.sessionId → w'.holders.count id ≤ w.holders.count id)
    (held : ∀ id ∈ w'.holders, id ∈ w.issued) (filed : ∀ f ∈ w'.directory.files, f.sessionId ∈ w.issued)
    (issued : w'.issued = w.issued) (clock : w.clock ≤ w'.clock) : StoreInv c w' := by
  have distinct := inv.distinct
  have named := inv.named
  have each := inv.each
  rw [whole,List.map_append,List.map_cons] at distinct
  rw [whole] at named each
  have apart : ∀ x ∈ before ++ after, x.sessionId ≠ s.sessionId := by
    have fresh := (List.nodup_middle.mp distinct)
    rw [List.nodup_cons,← List.map_append] at fresh
    exact fun x mem one => fresh.1 (List.mem_map.mpr ⟨x,mem,one⟩)
  have kept : ∀ x, x ∈ before ∨ x ∈ after → SessionInv c w' x := by
    intro x mem
    have other := apart x (List.mem_append.mpr mem)
    refine (each x ?_).shrink (disk _ other) (holders _ other)
    rcases mem with left | right
    · exact List.mem_append_left _ left
    · exact List.mem_append_right _ (List.mem_cons_of_mem _ right)
  refine ⟨?_,?_,?_,within,?_,?_,fun id mem => issued ▸ held id mem,fun f mem => issued ▸ filed f mem,
    inv.started.trans clock⟩
  · rw [whole',List.map_append,List.map_cons,same]
    exact distinct
  · intro x here
    rw [whole',List.mem_append,List.mem_cons] at here
    rcases here with left | rfl | right
    · exact kept x (.inl left)
    · exact own
    · exact kept x (.inr right)
  · rw [total,inv.total,whole,whole']
    simp only [List.map_append,List.map_cons,List.sum_append,List.sum_cons]
    ring
  · have few := inv.few
    rw [whole] at few
    rw [whole']
    simpa using few
  · intro x here
    rw [whole',List.mem_append,List.mem_cons] at here
    rw [issued]
    rcases here with left | rfl | right
    · exact named x (List.mem_append_left _ left)
    · rw [same]
      exact named s (List.mem_append_right _ List.mem_cons_self)
    · exact named x (List.mem_append_right _ (List.mem_cons_of_mem _ right))

end Invariant

section Steps
variable {c : CaptureFacilityConfig} {size : Manifest → ℕ} {w w' : World} {s : CaptureSession}

theorem initialInv {start : ℚ} (room : 0 ≤ c.totalStorageBytes) (started : 0 ≤ start) :
    StoreInv c (World.initial start) := by
  constructor <;> simp [sessions,storage,World.initial,emptyManifest,room,started]

theorem noFiles (inv : StoreInv c w) {id : Text} (fresh : id ∉ w.issued) : diskBytes w id = 0 := by
  have none : w.directory.files.filter (·.sessionId = id) = [] := by
    refine List.filter_eq_nil_iff.mpr fun f mem own => fresh ?_
    rw [← of_decide_eq_true own]
    exact inv.filed f mem
  rw [diskBytes,none]
  rfl

-- A session with nothing reserved joins the others.
theorem StoreInv.opens (inv : StoreInv c w) (fresh : s.sessionId ∉ w.issued) (reads : readable s = true)
    (unclaimed : s.claimed = 0) (unpublished : s.published = 0) (empty : s.bytesReserved = 0) (unread : s.claimReserve = 0)
    (room : (sessions w).length < c.maxSessions) {now : ℚ} (later : w.clock ≤ now) :
    StoreInv c ⟨⟨⟨storage w,sessions w ++ [s]⟩,w.directory.files⟩,w.holders,s.sessionId :: w.issued,now⟩ := by
  have idle : w.holders.count s.sessionId = 0 := List.count_eq_zero.mpr fun mem => fresh (inv.held _ mem)
  have one : ∀ x ∈ sessions w ++ [s], x ∈ sessions w ∨ x = s := fun x mem => by simpa using mem
  refine ⟨?_,fun x mem => ?_,?_,inv.within,?_,fun x mem => ?_,fun id mem => List.mem_cons_of_mem _ (inv.held id mem),
    fun f mem => List.mem_cons_of_mem _ (inv.filed f mem),inv.started.trans later⟩
  · change ((sessions w ++ [s]).map CaptureSession.sessionId).Nodup
    rw [List.map_append,List.nodup_append]
    refine ⟨inv.distinct,List.nodup_singleton _,fun id mem other single same => fresh ?_⟩
    obtain ⟨x,here,rfl⟩ := List.mem_map.mp mem
    rw [← List.mem_singleton.mp single,← same]
    exact inv.named x here
  · rcases one x mem with old | rfl
    · exact (inv.each x old).shrink le_rfl le_rfl
    · refine ⟨reads,?_,?_,?_,.inl unread⟩
      · change x.published + (w.holders.count x.sessionId : ℤ) ≤ x.claimed
        rw [idle,unpublished,unclaimed]
        rfl
      · have positive := (readableIff.mp reads).2.2.2.1.1
        omega
      · have nothing : diskBytes w x.sessionId = 0 := noFiles inv fresh
        change (diskBytes w x.sessionId : ℤ) + (w.holders.count x.sessionId : ℤ) * reservationBytes c ≤ x.bytesReserved
        rw [nothing,idle,empty]
        simp
  · change storage w = ((sessions w ++ [s]).map CaptureSession.bytesReserved).sum
    rw [List.map_append,List.sum_append,← inv.total,List.map_singleton,List.sum_singleton,empty,add_zero]
  · change (sessions w ++ [s]).length ≤ c.maxSessions
    rw [List.length_append,List.length_singleton]
    exact room
  · rcases one x mem with old | rfl
    · exact List.mem_cons_of_mem _ (inv.named x old)
    · exact List.mem_cons_self

theorem armStep {sessionId endpoint : Text} {keyUuid : Option Text} {count : Option ℤ} {ttl : Option ℚ} {now : ℚ}
    (counts : c.maxCount ≤ maxCountHard) (inv : StoreInv c w)
    (timely : Timely w (.arm sessionId endpoint keyUuid count ttl now))
    (ok : next c size w (.arm sessionId endpoint keyUuid count ttl now) = some w') : StoreInv c w' := by
  delta next at ok
  dsimp only at ok
  split at ok
  · next s d armed =>
    cases ok
    obtain ⟨kept,pruning,room,rfl,lifetime,lasting,rfl,valid,uuid,least,most⟩ := armOk armed
    obtain ⟨drawn,fresh,later⟩ := timely
    have drops : kept.Sublist (sessions w) := pruning ▸ pruned.1
    have keeps : StoreInv c { w with directory := ⟨⟨storage w,kept⟩,w.directory.files⟩ } := by
      refine inv.keeps drops ?_ (List.Sublist.refl _) rfl rfl rfl
      change storage w = (kept.map CaptureSession.bytesReserved).sum
      rw [inv.total,pruning,pruned.2]
      rfl
    have since := inv.started.trans later
    simp only [validEndpoint,Bool.and_eq_true,decide_eq_true_eq] at valid
    refine keeps.opens fresh (readableIff.mpr ⟨drawn,⟨valid.1.1.1,valid.2⟩,?_,⟨least,most.trans counts⟩,le_rfl,since,?_,
      le_rfl,le_rfl,le_rfl⟩) rfl rfl rfl rfl room later
    · cases keyUuid with
      | none => rfl
      | some key => exact lowerUuid uuid
    · change 0 ≤ now + lifetime
      linarith
  · cases ok

theorem activeMeans {now : ℚ} (active : s.status now = .active) : s.stopped = false ∧ now < s.expiresAt ∧ s.claimed < s.count := by
  unfold CaptureSession.status at active
  split_ifs at active with stopped expired exhausted
  exact ⟨by simpa using stopped,not_le.mp expired,not_le.mp exhausted⟩

theorem claimStep {endpoint : Text} {keyUuid : Option Text} {now : ℚ} (inv : StoreInv c w)
    (timely : Timely w (.claim endpoint keyUuid now)) (ok : next c size w (.claim endpoint keyUuid now) = some w') :
    StoreInv c w' := by
  delta next at ok
  dsimp only at ok
  split at ok
  · next s' d claimed =>
    cases ok
    obtain ⟨before,s,after,whole,rfl,active,room,rfl⟩ := claimOk claimed
    have here : s ∈ sessions w := by
      rw [sessions,whole]
      exact List.mem_append_right _ List.mem_cons_self
    have own := inv.each s here
    have positive := reservationPositive (c := c)
    obtain ⟨id,endpoint,uuid,count,claims,created,expires,bytes,published,reserve⟩ := readableIff.mp own.reads
    have counted : (s.sessionId :: w.holders).count s.sessionId = w.holders.count s.sessionId + 1 := List.count_cons_self
    refine inv.replaces whole rfl rfl ?_ (room positive) ?_ (fun _ _ => le_rfl) (fun other apart => ?_)
      (fun id mem => ?_) inv.filed rfl timely
    · change storage w + reservationBytes c = storage w + (s.bytesReserved + reservationBytes c - s.bytesReserved)
      ring
    · refine ⟨readableIff.mpr ⟨id,endpoint,uuid,count,?_,created,expires,?_,published,positive.le⟩,?_,?_,?_,.inr rfl⟩
      · change 0 ≤ s.claimed + 1
        omega
      · change 0 ≤ s.bytesReserved + reservationBytes c
        omega
      · change s.published + ((s.sessionId :: w.holders).count s.sessionId : ℤ) ≤ s.claimed + 1
        have bound := own.published
        rw [counted]
        push_cast
        omega
      · exact (activeMeans active).2.2
      · change (diskBytes w s.sessionId : ℤ) + ((s.sessionId :: w.holders).count s.sessionId : ℤ) * reservationBytes c ≤
          s.bytesReserved + reservationBytes c
        rw [counted]
        push_cast
        linarith [own.covered]
    · change (s.sessionId :: w.holders).count other ≤ w.holders.count other
      rw [List.count_cons_of_ne apart.symm]
    · rcases List.mem_cons.mp mem with rfl | old
      · exact inv.named s here
      · exact inv.held id old
  · cases ok

end Steps

section Publication
variable {c : CaptureFacilityConfig} {size : Manifest → ℕ} {w w' : World} {sessionId requestId : Text}
  {capture record : ℕ} {m : Manifest} {more : List Artifact}

-- A claim is given back or used up.
def World.lets (w : World) (sessionId : Text) : World := { w with holders := w.holders.erase sessionId }

theorem letsInv (inv : StoreInv c w) : StoreInv c (w.lets sessionId) where
  distinct := inv.distinct
  each s here := (inv.each s here).shrink le_rfl (List.erase_sublist.count_le _)
  total := inv.total
  within := inv.within
  few := inv.few
  named := inv.named
  held id mem := inv.held id (List.mem_of_mem_erase mem)
  filed := inv.filed
  started := inv.started

def World.leaves (w : World) (sessionId : Text) (m : Manifest) (more : List Artifact) : World :=
  { w.lets sessionId with directory := ⟨m,w.directory.files ++ more⟩ }

theorem leavesDisk (own : ∀ f ∈ more, f.sessionId = sessionId) :
    diskBytes (w.leaves sessionId m more) sessionId = diskBytes w sessionId + (more.map Artifact.bytes).sum ∧
      ∀ id, id ≠ sessionId → diskBytes (w.leaves sessionId m more) id = diskBytes w id := by
  have split : ∀ id, diskBytes (w.leaves sessionId m more) id =
      diskBytes w id + ((more.filter (·.sessionId = id)).map Artifact.bytes).sum := by
    intro id
    unfold diskBytes World.leaves
    rw [List.filter_append,List.map_append,List.sum_append]
  refine ⟨?_,fun id apart => ?_⟩
  · rw [split,List.filter_eq_self.mpr fun f mem => decide_eq_true (own f mem)]
  · rw [split,List.filter_eq_nil_iff.mpr fun f mem same => apart ((of_decide_eq_true same).symm.trans (own f mem))]
    rfl

theorem leavesInv (written : Bool) (inv : StoreInv c w) (holds : sessionId ∈ w.holders)
    (admitted : admitArtifact c size sessionId requestId capture record w.directory = .ok m)
    (own : ∀ f ∈ more, f.sessionId = sessionId) (small : (more.map Artifact.bytes).sum ≤ capture + record) :
    StoreInv c (w.leaves sessionId (if written then m else w.directory.manifest) more) := by
  obtain ⟨before,s,after,reserve,whole,rfl,unpublished,reserved,fits,within,rfl⟩ := admitOk admitted
  have here : s ∈ sessions w := by
    rw [sessions,whole]
    exact List.mem_append_right _ List.mem_cons_self
  have mine := inv.each s here
  obtain ⟨id,endpoint,uuid,count,claims,created,expires,bytes,published,claimReserve⟩ := readableIff.mp mine.reads
  have positive := reservationPositive (c := c)
  have standard : reserve = reservationBytes c := by
    rw [reserved]
    rcases mine.reserve with none | same
    · rw [if_pos none]
    · rw [if_neg (by omega),same]
  rw [standard] at within ⊢
  have counted : (w.holders.count s.sessionId : ℤ) = (w.holders.erase s.sessionId).count s.sessionId + 1 := by
    have some := List.count_pos_iff.mpr holds
    have less : (w.holders.erase s.sessionId).count s.sessionId = w.holders.count s.sessionId - 1 := List.count_erase_self
    omega
  obtain ⟨disk,others⟩ := leavesDisk (w := w) (m := if written then (⟨max 0 (w.directory.manifest.storageBytesReserved -
    reservationBytes c + (capture + record + metadataOverheadBytes)),before ++ s.publish (capture + record +
    metadataOverheadBytes) (reservationBytes c) :: after⟩ : Manifest) else w.directory.manifest) own
  have less : ((more.map Artifact.bytes).sum : ℤ) ≤ capture + record := by exact_mod_cast small
  have covered := mine.covered
  rw [counted,add_mul,one_mul] at covered
  have waiting : 0 ≤ ((w.holders.erase s.sessionId).count s.sessionId : ℤ) * reservationBytes c := by positivity
  have counting := mine.published
  rw [counted] at counting
  have filed : ∀ f ∈ w.directory.files ++ more, f.sessionId ∈ w.issued := by
    intro f mem
    rcases List.mem_append.mp mem with old | new
    · exact inv.filed f old
    · rw [own f new]
      exact inv.named s here
  have holders : ∀ id, id ≠ s.sessionId → (w.holders.erase s.sessionId).count id ≤ w.holders.count id :=
    fun id _ => List.erase_sublist.count_le id
  cases written with
  | true =>
    rw [if_pos rfl] at disk others ⊢
    -- the session's own reservation is part of the total
    have most : s.bytesReserved ≤ storage w := by
      rw [inv.total]
      refine List.single_le_sum (fun y mem => ?_) _ (List.mem_map_of_mem here)
      obtain ⟨x,inside,rfl⟩ := List.mem_map.mp mem
      exact inv.bytesNonneg inside
    have exact' : max 0 (storage w - reservationBytes c + (capture + record + metadataOverheadBytes)) =
        storage w - reservationBytes c + (capture + record + metadataOverheadBytes) := by
      refine max_eq_right ?_
      have overhead : 0 ≤ metadataOverheadBytes := by decide
      omega
    refine inv.replaces whole rfl rfl ?_ within ⟨readableIff.mpr ⟨id,endpoint,uuid,count,claims,created,expires,?_,?_,
      claimReserve⟩,?_,mine.claimed,?_,mine.reserve⟩ (fun id apart => (others id apart).le) holders
      (fun id mem => inv.held id (List.mem_of_mem_erase mem)) filed rfl le_rfl
    · change max 0 (storage w - reservationBytes c + (capture + record + metadataOverheadBytes)) =
        storage w + (s.bytesReserved + (capture + record + metadataOverheadBytes - reservationBytes c) - s.bytesReserved)
      rw [exact']
      ring
    · change 0 ≤ s.bytesReserved + (capture + record + metadataOverheadBytes - reservationBytes c)
      have overhead : 0 ≤ metadataOverheadBytes := by decide
      omega
    · change 0 ≤ s.published + 1
      omega
    · change s.published + 1 + ((w.holders.erase s.sessionId).count s.sessionId : ℤ) ≤ s.claimed
      omega
    · change (diskBytes (w.leaves s.sessionId _ more) s.sessionId : ℤ) +
        ((w.holders.erase s.sessionId).count s.sessionId : ℤ) * reservationBytes c ≤
          s.bytesReserved + (capture + record + metadataOverheadBytes - reservationBytes c)
      rw [disk]
      have overhead : 0 ≤ metadataOverheadBytes := by decide
      push_cast
      linarith
  | false =>
    rw [if_neg Bool.false_ne_true] at disk others ⊢
    refine inv.replaces whole whole rfl (by change storage w = _; omega) inv.within ⟨mine.reads,?_,mine.claimed,?_,
      mine.reserve⟩ (fun id apart => (others id apart).le) holders
      (fun id mem => inv.held id (List.mem_of_mem_erase mem)) filed rfl le_rfl
    · change s.published + ((w.holders.erase s.sessionId).count s.sessionId : ℤ) ≤ s.claimed
      omega
    · change (diskBytes (w.leaves s.sessionId _ more) s.sessionId : ℤ) +
        ((w.holders.erase s.sessionId).count s.sessionId : ℤ) * reservationBytes c ≤ s.bytesReserved
      rw [disk]
      push_cast
      linarith

theorem publishStep (inv : StoreInv c w) (ok : next c size w (.publish sessionId requestId capture record) = some w') :
    StoreInv c w' := by
  delta next at ok
  dsimp only at ok
  split at ok
  · next holds =>
    split at ok
    · next d written =>
      cases ok
      obtain ⟨m,admitted,done⟩ := okBind written
      cases done
      exact leavesInv true inv holds admitted (by simp [artifacts]) (by simp [artifacts])
    · cases ok
      exact letsInv inv
  · cases ok

theorem leftoverOwn {left : Leftover} : ∀ f ∈ left.files sessionId requestId capture record, f.sessionId = sessionId := by
  obtain ⟨hasCapture,hasRecord,temporary,written⟩ := left
  cases hasCapture <;> cases hasRecord <;> simp [Leftover.files]

theorem leftoverSmall {left : Leftover} (possible : left.possible capture record = true) :
    ((left.files sessionId requestId capture record).map Artifact.bytes).sum ≤ capture + record := by
  obtain ⟨hasCapture,hasRecord,temporary,written⟩ := left
  simp only [Leftover.possible,Bool.or_eq_true,Bool.and_eq_true,decide_eq_true_eq,Bool.not_eq_true'] at possible
  cases hasCapture <;> cases hasRecord <;> simp [Leftover.files] at possible ⊢ <;> omega

theorem interruptStep {left : Leftover} (inv : StoreInv c w)
    (ok : next c size w (.interrupt sessionId requestId capture record left) = some w') : StoreInv c w' := by
  delta next at ok
  dsimp only at ok
  split at ok
  · next holds =>
    split at ok
    · next m admitted =>
      cases ok
      exact leavesInv left.written inv holds.1 admitted leftoverOwn (leftoverSmall holds.2)
    · cases ok
  · cases ok

theorem stopSelectedId {selected : Option Text} {s : CaptureSession} :
    (stopSelected selected s).sessionId = s.sessionId := by
  unfold stopSelected
  split <;> rfl

theorem stopSelectedBytes {selected : Option Text} {s : CaptureSession} :
    (stopSelected selected s).bytesReserved = s.bytesReserved := by
  unfold stopSelected
  split <;> rfl

-- Only the flag changes, so every other member reads as before.
theorem stopSelectedInv {selected : Option Text} {s : CaptureSession} (h : SessionInv c w s) :
    SessionInv c w (stopSelected selected s) := by
  unfold stopSelected
  split
  · exact ⟨h.reads,h.published,h.claimed,h.covered,h.reserve⟩
  · exact h

theorem stopStep {selected : Option Text} (inv : StoreInv c w) (ok : next c size w (.stop selected) = some w') :
    StoreInv c w' := by
  delta next at ok
  dsimp only at ok
  split at ok
  · next n d stopped =>
    cases ok
    rcases stopOk stopped with rfl | rfl
    · exact ⟨inv.distinct,fun s here => (inv.each s here).shrink le_rfl le_rfl,inv.total,inv.within,inv.few,inv.named,
        inv.held,inv.filed,inv.started⟩
    · refine ⟨?_,fun s here => ?_,?_,inv.within,?_,fun s here => ?_,inv.held,inv.filed,inv.started⟩
      · change (((sessions w).map (stopSelected selected)).map CaptureSession.sessionId).Nodup
        have same : CaptureSession.sessionId ∘ stopSelected selected = CaptureSession.sessionId := funext fun _ => stopSelectedId
        rw [List.map_map,same]
        exact inv.distinct
      · obtain ⟨x,old,rfl⟩ := List.mem_map.mp here
        exact stopSelectedInv ((inv.each x old).shrink le_rfl le_rfl)
      · change storage w = (((sessions w).map (stopSelected selected)).map CaptureSession.bytesReserved).sum
        have same : CaptureSession.bytesReserved ∘ stopSelected selected = CaptureSession.bytesReserved :=
          funext fun _ => stopSelectedBytes
        rw [List.map_map,same]
        exact inv.total
      · change ((sessions w).map (stopSelected selected)).length ≤ c.maxSessions
        rw [List.length_map]
        exact inv.few
      · obtain ⟨x,old,rfl⟩ := List.mem_map.mp here
        rw [stopSelectedId]
        exact inv.named x old
  · cases ok

theorem cleanupStep {selected : Option Text} {stuck : List Artifact} (inv : StoreInv c w)
    (ok : next c size w (.cleanup selected stuck) = some w') : StoreInv c w' := by
  delta next at ok
  dsimp only at ok
  split at ok
  · next n d cleaned =>
    cases ok
    obtain ⟨manifest,files⟩ := cleanupOk cleaned
    have split : (((sessions w).filter (isSelected selected)).map CaptureSession.bytesReserved).sum +
        (((sessions w).filter (!isSelected selected ·)).map CaptureSession.bytesReserved).sum = storage w := by
      rw [inv.total]
      exact filterSum
    have nonneg : ∀ (p : CaptureSession → Bool), ∀ s ∈ (sessions w).filter p, 0 ≤ s.bytesReserved :=
      fun p s mem => inv.bytesNonneg (List.mem_filter.mp mem).1
    have rest : 0 ≤ (((sessions w).filter (!isSelected selected ·)).map CaptureSession.bytesReserved).sum := by
      refine List.sum_nonneg fun y mem => ?_
      obtain ⟨s,here,rfl⟩ := List.mem_map.mp mem
      exact nonneg _ s here
    refine inv.keeps ?_ ?_ files rfl rfl rfl
    · change d.manifest.sessions.Sublist _
      rw [manifest]
      exact List.filter_sublist
    · change d.manifest.storageBytesReserved = (d.manifest.sessions.map CaptureSession.bytesReserved).sum
      rw [manifest]
      have enough : (((sessions w).filter (isSelected selected)).map CaptureSession.bytesReserved).sum ≤ storage w := by omega
      exact (takeOff (nonneg _) enough).trans (sub_eq_of_eq_add' split.symm)
  · cases ok

end Publication

section Runs
variable {c : CaptureFacilityConfig} {size : Manifest → ℕ}

theorem nextInv {w w' : World} {op : Op} (counts : c.maxCount ≤ maxCountHard) (inv : StoreInv c w) (timely : Timely w op)
    (ok : next c size w op = some w') : StoreInv c w' := by
  cases op with
  | arm => exact armStep counts inv timely ok
  | claim => exact claimStep inv timely ok
  | publish => exact publishStep inv ok
  | interrupt => exact interruptStep inv ok
  | abandon sessionId =>
    delta next at ok
    dsimp only at ok
    split at ok
    · cases ok
      exact letsInv inv
    · cases ok
  | stop => exact stopStep inv ok
  | cleanup => exact cleanupStep inv ok

-- What the operator can rely on whatever happened.
structure Sound (c : CaptureFacilityConfig) (size : Manifest → ℕ) (w : World) : Prop where
  counts : ∀ s ∈ sessions w, 0 ≤ s.published ∧ s.published ≤ s.claimed ∧ s.claimed ≤ s.count
  disk : ∀ s ∈ sessions w, diskBytes w s.sessionId ≤ s.bytesReserved
  total : storage w = ((sessions w).map CaptureSession.bytesReserved).sum ∧ storage w ≤ c.totalStorageBytes
  reads : readManifest size w.directory.manifest = .ok w.directory.manifest ↔ size w.directory.manifest ≤ maxManifestBytes
  held : ∀ s ∈ sessions w, s.sessionId ∈ w.holders → s.published < s.claimed

theorem StoreInv.sound {w : World} (few : c.maxSessions ≤ maxSessionsHard) (inv : StoreInv c w) : Sound c size w where
  counts s here := by
    have own := inv.each s here
    have published := own.published
    have claimed := own.claimed
    have nonneg := (readableIff.mp own.reads).2.2.2.2.2.2.2.2.1
    omega
  disk s here := by
    have waiting : 0 ≤ (w.holders.count s.sessionId : ℤ) * reservationBytes c :=
      mul_nonneg (Int.natCast_nonneg _) reservationPositive.le
    linarith [(inv.each s here).covered]
  total := ⟨inv.total,inv.within⟩
  reads := by
    rw [readIff]
    refine ⟨And.left,fun small => ⟨small,?_,inv.few.trans few,fun s here => (inv.each s here).reads⟩⟩
    have nonneg : 0 ≤ ((sessions w).map CaptureSession.bytesReserved).sum := by
      refine List.sum_nonneg fun y mem => ?_
      obtain ⟨s,here,rfl⟩ := List.mem_map.mp mem
      exact inv.bytesNonneg here
    change 0 ≤ storage w
    rw [inv.total]
    exact nonneg
  held s here holds := by
    have some : (1 : ℤ) ≤ w.holders.count s.sessionId := by exact_mod_cast List.count_pos_iff.mpr holds
    linarith [(inv.each s here).published]

theorem runInv {start : ℚ} {ops : List Op} (counts : c.maxCount ≤ maxCountHard) (room : 0 ≤ c.totalStorageBytes)
    (started : 0 ≤ start) (timely : Runs.Along (next c size) Timely (World.initial start) ops) :
    StoreInv c (Runs.run (next c size) (World.initial start) ops) :=
  Runs.invariantRun (StoreInv c) (fun _ _ _ inv here ok => nextInv counts inv here ok) (initialInv room started) timely

theorem captureStoreSound {start : ℚ} {ops : List Op} (counts : c.maxCount ≤ maxCountHard)
    (few : c.maxSessions ≤ maxSessionsHard) (room : 0 ≤ c.totalStorageBytes) (started : 0 ≤ start)
    (timely : Runs.Along (next c size) Timely (World.initial start) ops) :
    Sound c size (Runs.run (next c size) (World.initial start) ops) :=
  (runInv counts room started timely).sound few

def demoConfig : CaptureFacilityConfig where
  bodyBudgetBytes := 0
  totalStorageBytes := 1000000
  maxCount := 10
  maxTtlSeconds := 3600

def demoId : Text := text "cap-" ++ List.replicate 32 48

def demoOps : List Op :=
  [.arm demoId (text "/v1") none none none 0,.claim (text "/v1") none 1,.publish demoId (text "r") 10 20]

theorem demoTimely : Runs.Along (next demoConfig fun _ => 0) Timely (World.initial 0) demoOps := by
  refine ⟨⟨by decide +kernel,by decide +kernel,by decide +kernel⟩,?_,trivial,trivial⟩
  change (Runs.advance (next demoConfig fun _ => 0) (World.initial 0) _).clock ≤ 1
  decide +kernel

theorem captureStoreSoundDemo :
    Sound demoConfig (fun _ => 0) (Runs.run (next demoConfig fun _ => 0) (World.initial 0) demoOps) ∧
      (sessions (Runs.run (next demoConfig fun _ => 0) (World.initial 0) demoOps)).map CaptureSession.published = [1] :=
  ⟨captureStoreSound (by decide) (by decide) (by decide) le_rfl demoTimely,by decide +kernel⟩

end Runs

end SlaifGateway.CaptureStore
