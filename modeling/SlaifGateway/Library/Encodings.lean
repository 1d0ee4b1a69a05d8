import SlaifGateway.Library.JsonRoundTrip
import Mathlib.Tactic.NormNum

/-! Encodings under which different values keep different texts: UTF-8, hexadecimal digits,
unpadded URL-safe base64, and fields joined by a separator that none of them holds. -/
namespace SlaifGateway.Library
open Document
open JsonText (hexValue hexValueDigit)

section Utf8
variable {c d : CodePoint} {x y s t : List UInt8}

theorem toUInt8Inj {m n : ℕ} (low : m < 256) (below : n < 256) : m.toUInt8 = n.toUInt8 ↔ m = n := by
  rw [← UInt8.toNat_inj]
  simp only [Nat.toUInt8_eq,UInt8.toNat_ofNat']
  omega

-- What the lead byte says of a code point, and that the point can be read back.
theorem encodePointSplit (left : encodePoint c = some x) (right : encodePoint d = some y) (same : x ++ s = y ++ t) :
    c = d ∧ s = t := by
  have high := c.isLt
  have bound := d.isLt
  unfold encodePoint at left right
  rw [Fin.ext_iff]
  split_ifs at left right <;> cases left <;> cases right <;>
    simp only [List.cons_append,List.nil_append,List.cons.injEq] at same
  all_goals
    simp only [← UInt8.toNat_inj,Nat.toUInt8_eq,UInt8.toNat_ofNat'] at same
    first
    | exfalso
      omega
    | exact ⟨by omega,same.2⟩
    | exact ⟨by omega,same.2.2⟩
    | exact ⟨by omega,same.2.2.2⟩
    | exact ⟨by omega,same.2.2.2.2⟩

theorem encodeInjective {t u : Text} {bytes : List UInt8} (left : encode t = some bytes) (right : encode u = some bytes) :
    t = u := by
  induction t generalizing u bytes with
  | nil =>
    cases left
    cases u with
    | nil => rfl
    | cons c rest =>
      simp only [encode,Option.bind_eq_bind,Option.bind_eq_some_iff,Option.some.injEq,List.append_eq_nil_iff] at right
      obtain ⟨head,first,tail,_,rfl,_⟩ := right
      unfold encodePoint at first
      split_ifs at first <;> cases first
  | cons c rest ih =>
    cases u with
    | nil =>
      cases right
      simp only [encode,Option.bind_eq_bind,Option.bind_eq_some_iff,Option.some.injEq,List.append_eq_nil_iff] at left
      obtain ⟨head,first,tail,_,rfl,_⟩ := left
      unfold encodePoint at first
      split_ifs at first <;> cases first
    | cons d more =>
      simp only [encode,Option.bind_eq_bind,Option.bind_eq_some_iff,Option.some.injEq] at left right
      obtain ⟨head,first,tail,after,rfl⟩ := left
      obtain ⟨head',first',tail',after',same⟩ := right
      obtain ⟨rfl,rfl⟩ := encodePointSplit first first' same.symm
      rw [ih after after']

end Utf8

section Hex

-- `bytes.hex()`
def hexBytes (bytes : List UInt8) : Text := bytes.flatMap fun b => [hexDigit (b.toNat / 16),hexDigit b.toNat]

theorem hexDigitInj {m n : ℕ} (same : hexDigit m = hexDigit n) : m % 16 = n % 16 := by
  have values := congrArg hexValue same
  rw [hexValueDigit,hexValueDigit] at values
  exact Option.some.inj values

theorem hexBytesInjective {a b : List UInt8} (same : hexBytes a = hexBytes b) : a = b := by
  induction a generalizing b with
  | nil => cases b with
    | nil => rfl
    | cons => cases same
  | cons x xs ih => cases b with
    | nil => cases same
    | cons y ys =>
      simp only [hexBytes,List.flatMap_cons,List.cons_append,List.nil_append,List.cons.injEq] at same
      have high := hexDigitInj same.1
      have low := hexDigitInj same.2.1
      have left := x.toNat_lt
      have right := y.toNat_lt
      rw [ih same.2.2,UInt8.toNat_inj.mp (by omega : x.toNat = y.toNat)]

-- A number in a fixed count of hexadecimal digits.
def fixedHex : ℕ → ℕ → Text
  | 0,_ => []
  | width + 1,n => fixedHex width (n / 16) ++ [hexDigit n]

theorem fixedHexInj {width m n : ℕ} (left : m < 16 ^ width) (right : n < 16 ^ width)
    (same : fixedHex width m = fixedHex width n) : m = n := by
  induction width generalizing m n with
  | zero => rw [pow_zero,Nat.lt_one_iff] at left right; rw [left,right]
  | succ width ih =>
    obtain ⟨before,last⟩ := List.append_inj' same rfl
    rw [pow_succ] at left right
    have high := ih (by omega) (by omega) before
    have low := hexDigitInj (List.cons.inj last).1
    omega

theorem hexDigitPrintable (n : ℕ) : 48 ≤ (hexDigit n).val := by
  unfold hexDigit
  split <;> simp
  omega

end Hex

section Base64

def urlSafePoint (n : ℕ) : CodePoint :=
  if n < 26 then Fin.ofNat _ (65 + n) else if n < 52 then Fin.ofNat _ (71 + n) else if n < 62 then Fin.ofNat _ (n - 4)
  else if n = 62 then 45 else 95

theorem urlSafePointInj {m n : ℕ} (left : m < 64) (right : n < 64) (same : urlSafePoint m = urlSafePoint n) : m = n := by
  have values := congrArg Fin.val same
  unfold urlSafePoint at values
  split_ifs at values <;> first
    | omega
    | exact absurd values (by decide)
    | (rw [Fin.val_ofNat] at values; omega)
    | (rw [Fin.val_ofNat,Fin.val_ofNat] at values; omega)

-- `base64.urlsafe_b64encode(bytes).rstrip("=")`
def base64Url : List UInt8 → Text
  | a :: b :: c :: rest =>
    urlSafePoint (a.toNat / 4) :: urlSafePoint (a.toNat % 4 * 16 + b.toNat / 16) ::
      urlSafePoint (b.toNat % 16 * 4 + c.toNat / 64) :: urlSafePoint (c.toNat % 64) :: base64Url rest
  | [a,b] =>
    [urlSafePoint (a.toNat / 4),urlSafePoint (a.toNat % 4 * 16 + b.toNat / 16),urlSafePoint (b.toNat % 16 * 4)]
  | [a] => [urlSafePoint (a.toNat / 4),urlSafePoint (a.toNat % 4 * 16)]
  | [] => []

theorem base64UrlInjective {x y : List UInt8} (same : base64Url x = base64Url y) : x = y := by
  induction x using base64Url.induct generalizing y with
  | case1 a b c rest ih =>
    match y with
    | [] => cases same
    | [_] => cases (List.cons.inj (List.cons.inj same).2).2
    | [_,_] => cases (List.cons.inj (List.cons.inj (List.cons.inj same).2).2).2
    | d :: e :: f :: more =>
      simp only [base64Url,List.cons.injEq] at same
      obtain ⟨first,second,third,fourth,after⟩ := same
      have a' := a.toNat_lt; have b' := b.toNat_lt; have c' := c.toNat_lt
      have d' := d.toNat_lt; have e' := e.toNat_lt; have f' := f.toNat_lt
      have one := urlSafePointInj (by omega) (by omega) first
      have two := urlSafePointInj (by omega) (by omega) second
      have three := urlSafePointInj (by omega) (by omega) third
      have four := urlSafePointInj (by omega) (by omega) fourth
      rw [ih after,UInt8.toNat_inj.mp (by omega : a.toNat = d.toNat),UInt8.toNat_inj.mp (by omega : b.toNat = e.toNat),
        UInt8.toNat_inj.mp (by omega : c.toNat = f.toNat)]
  | case2 a b =>
    match y with
    | [] => cases same
    | [_] => cases (List.cons.inj (List.cons.inj same).2).2
    | d :: e :: f :: more => cases (List.cons.inj (List.cons.inj (List.cons.inj same).2).2).2
    | [d,e] =>
      simp only [base64Url,List.cons.injEq] at same
      obtain ⟨first,second,third,_⟩ := same
      have a' := a.toNat_lt; have b' := b.toNat_lt; have d' := d.toNat_lt; have e' := e.toNat_lt
      have one := urlSafePointInj (by omega) (by omega) first
      have two := urlSafePointInj (by omega) (by omega) second
      have three := urlSafePointInj (by omega) (by omega) third
      rw [UInt8.toNat_inj.mp (by omega : a.toNat = d.toNat),UInt8.toNat_inj.mp (by omega : b.toNat = e.toNat)]
  | case3 a =>
    match y with
    | [] => cases same
    | [_,_] => cases (List.cons.inj (List.cons.inj same).2).2
    | _ :: _ :: _ :: _ => cases (List.cons.inj (List.cons.inj same).2).2
    | [d] =>
      simp only [base64Url,List.cons.injEq] at same
      have a' := a.toNat_lt; have d' := d.toNat_lt
      have one := urlSafePointInj (by omega) (by omega) same.1
      have two := urlSafePointInj (by omega) (by omega) same.2.1
      rw [UInt8.toNat_inj.mp (by omega : a.toNat = d.toNat)]
  | case4 =>
    match y with
    | [] => rfl
    | [_] => cases same
    | [_,_] => cases same
    | _ :: _ :: _ :: _ => cases same

theorem urlSafePrintable (n : ℕ) : 45 ≤ (urlSafePoint n).val := by
  unfold urlSafePoint
  split_ifs <;> first | decide | (rw [Fin.val_ofNat]; omega)

theorem base64UrlPrintable (bytes : List UInt8) : ∀ c ∈ base64Url bytes, 45 ≤ c.val := by
  induction bytes using base64Url.induct with
  | case1 a b c rest ih => simpa [base64Url,urlSafePrintable] using ih
  | case2 a b => simp [base64Url,urlSafePrintable]
  | case3 a => simp [base64Url,urlSafePrintable]
  | case4 => simp [base64Url]

end Base64

section Fields
variable {α : Type} [DecidableEq α]

-- `sep.join(fields)`
def joined (sep : α) (fields : List (List α)) : List α := [sep].intercalate fields

theorem joinedInjective {sep : α} {a b : List (List α)} (left : ∀ f ∈ a, sep ∉ f) (right : ∀ f ∈ b, sep ∉ f)
    (some : a ≠ []) (other : b ≠ []) (same : joined sep a = joined sep b) : a = b := by
  rw [← List.splitOn_intercalate sep left some,← List.splitOn_intercalate sep right other]
  exact congrArg (List.splitOn sep) same

end Fields
end SlaifGateway.Library
