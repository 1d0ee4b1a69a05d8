import SlaifGateway.Library.JsonText

/-! What the JSON writer escapes the reader reads back: one code point, a quoted text, and an object
of a single text field. -/
namespace SlaifGateway.Library
namespace JsonText
open Document

theorem hexValueDigit (n : Nat) : hexValue (hexDigit n) = some (n % 16) := by
  unfold hexDigit hexValue isDigit
  by_cases small : n % 16 < 10
  · rw [if_pos small]
    simp only [Bool.and_eq_true,decide_eq_true_eq]
    rw [if_pos (by omega)]
    congr 1
    omega
  · rw [if_neg small]
    simp only [Bool.and_eq_true,decide_eq_true_eq]
    rw [if_neg (by omega),if_pos (by omega)]
    congr 1
    omega

theorem scanHexDigits {n : Nat} (small : n < 65536) (rest : Text) :
    scanHex (hexDigit (n / 4096) :: hexDigit (n / 256) :: hexDigit (n / 16) :: hexDigit n :: rest) = some (n,rest) := by
  simp only [scanHex,hexValueDigit,Option.bind_eq_bind,Option.bind_some,Option.some.injEq,Prod.mk.injEq,and_true]
  omega

theorem unicodeEscapeShape (n : Nat) (rest : Text) :
    unicodeEscape n ++ rest =
      92 :: 117 :: hexDigit (n / 4096) :: hexDigit (n / 256) :: hexDigit (n / 16) :: hexDigit n :: rest := by
  have mark : text "\\u" = [92,117] := by decide
  simp [unicodeEscape,mark]

theorem scanEscapeHex {n : Nat} (small : n < 65536) (rest : Text) :
    scanEscape (117 :: hexDigit (n / 4096) :: hexDigit (n / 256) :: hexDigit (n / 16) :: hexDigit n :: rest) =
      joinSurrogates n rest := by
  have unknown : simpleEscapes.lookup ((117 : CodePoint).val) = none := by decide
  rw [scanEscape,unknown]
  dsimp only
  rw [if_pos (by decide),scanHexDigits small]
  rfl

theorem scanStringEscaped {fuel : Nat} {rest tail : Text} {c : CodePoint} (read : scanEscape rest = some (c,tail)) :
    scanString (fuel + 1) (92 :: rest) = (scanString fuel tail).map fun r => (c :: r.1,r.2) := by
  rw [scanString,if_neg (by decide),if_pos (by decide),read]
  simp only [Option.bind_eq_bind,Option.bind_some]
  cases scanString fuel tail <;> rfl

theorem pointVal (c : CodePoint) : point c.val = c := Fin.ext (Nat.mod_eq_of_lt c.isLt)

theorem joinPlain {n : Nat} (rest : Text) (plain : ¬ (0xD800 ≤ n ∧ n ≤ 0xDBFF)) :
    joinSurrogates n rest = some (point n,rest) := by
  rw [joinSurrogates,if_neg]
  exact fun high => plain ⟨high.1,high.2.1⟩

theorem joinPair {high low : Nat} (highSmall : high < 1024) (lowSmall : low < 1024) (rest : Text) :
    joinSurrogates (0xD800 + high) (unicodeEscape (0xDC00 + low) ++ rest) =
      some (point (0x10000 + high * 1024 + low),rest) := by
  have marked : (text "\\u").isPrefixOf (unicodeEscape (0xDC00 + low) ++ rest) = true := by
    rw [unicodeEscapeShape,show text "\\u" = [92,117] by decide]
    rfl
  have first : 0xD800 + high - 0xD800 = high := Nat.add_sub_cancel_left _ _
  have second : 0xDC00 + low - 0xDC00 = low := Nat.add_sub_cancel_left _ _
  rw [joinSurrogates,if_pos ⟨by omega,by omega,marked⟩,unicodeEscapeShape]
  simp only [List.drop_succ_cons,List.drop_zero]
  rw [scanHexDigits (by omega)]
  simp only [Option.bind_eq_bind,Option.bind_some]
  rw [if_pos (by omega),first,second]

theorem surrogatePair {c : CodePoint} (wide : 0x10000 ≤ c.val) :
    0x10000 + (c.val - 0x10000) / 1024 * 1024 + (c.val - 0x10000) % 1024 = c.val := by
  omega

theorem shortEscapeRead : ∀ entry ∈ shortEscapes, ∃ e, text entry.2 = [92,e] ∧
    simpleEscapes.lookup e.val = some entry.1 := by
  intro entry mem
  simp only [shortEscapes,List.mem_cons,List.not_mem_nil,or_false] at mem
  obtain rfl | rfl | rfl | rfl | rfl | rfl | rfl := mem
  · exact ⟨34,by decide,by decide⟩
  · exact ⟨92,by decide,by decide⟩
  · exact ⟨110,by decide,by decide⟩
  · exact ⟨114,by decide,by decide⟩
  · exact ⟨116,by decide,by decide⟩
  · exact ⟨102,by decide,by decide⟩
  · exact ⟨98,by decide,by decide⟩

theorem shortEscapeKeys : ∀ n, shortEscapes.lookup n = none → n ≠ 34 ∧ n ≠ 92 := by
  intro n absent
  constructor <;> rintro rfl <;> revert absent <;> decide

-- Reading the escape of one code point that is no lone surrogate.
theorem scanStringPoint {fuel : Nat} {c : CodePoint} (plain : isSurrogate c = false) (rest : Text) :
    scanString (fuel + 1) (escape true c ++ rest) = (scanString fuel rest).map fun r => (c :: r.1,r.2) := by
  simp only [isSurrogate,Bool.and_eq_false_iff,decide_eq_false_iff_not] at plain
  unfold escape
  cases found : shortEscapes.lookup c.val with
  | some short =>
    obtain ⟨before,after,shape,_⟩ := List.lookup_eq_some_iff.mp found
    obtain ⟨e,spelled,known⟩ := shortEscapeRead (c.val,short) (by rw [shape]; simp)
    dsimp only at spelled known ⊢
    rw [spelled]
    apply scanStringEscaped
    change scanEscape (e :: rest) = _
    rw [scanEscape,known]
    dsimp only
    rw [pointVal]
  | none =>
    obtain ⟨notQuote,notSlash⟩ := shortEscapeKeys c.val found
    dsimp only
    by_cases control : c.val < 32
    · rw [if_pos control,unicodeEscapeShape]
      apply scanStringEscaped
      rw [scanEscapeHex (by omega),joinPlain _ (by omega),pointVal]
    · rw [if_neg control,Bool.true_and]
      by_cases beyond : 126 < c.val
      · rw [if_pos (by simpa using beyond)]
        by_cases narrow : c.val < 0x10000
        · rw [if_pos narrow,unicodeEscapeShape]
          apply scanStringEscaped
          rw [scanEscapeHex narrow,joinPlain _ (by omega),pointVal]
        · rw [if_neg narrow,List.append_assoc,unicodeEscapeShape]
          apply scanStringEscaped
          have below := c.isLt
          rw [scanEscapeHex (by omega),joinPair (by omega) (by omega),surrogatePair (by omega),pointVal]
      · rw [if_neg (by simpa using beyond),List.singleton_append,scanString,if_neg notQuote,if_neg notSlash,
          if_neg control]
        cases scanString fuel rest <;> rfl

theorem scanStringQuoted {t : Text} (plain : ∀ c ∈ t, isSurrogate c = false) {fuel : Nat} (enough : t.length < fuel)
    (rest : Text) : scanString fuel (t.flatMap (escape true) ++ 34 :: rest) = some (t,rest) := by
  induction t generalizing fuel with
  | nil =>
    obtain ⟨n,rfl⟩ : ∃ n, fuel = n + 1 := ⟨fuel - 1,by simp only [List.length_nil] at enough; omega⟩
    rfl
  | cons c tail ih =>
    obtain ⟨n,rfl⟩ : ∃ n, fuel = n + 1 := ⟨fuel - 1,by omega⟩
    rw [List.flatMap_cons,List.append_assoc,scanStringPoint (plain c (by simp)),
      ih (fun d mem => plain d (List.mem_cons_of_mem _ mem)) (by simp only [List.length_cons] at enough; omega)]
    rfl

theorem escapeNonempty (c : CodePoint) : 1 ≤ (escape true c).length := by
  unfold escape
  cases found : shortEscapes.lookup c.val with
  | some short =>
    obtain ⟨before,after,shape,_⟩ := List.lookup_eq_some_iff.mp found
    obtain ⟨e,spelled,_⟩ := shortEscapeRead (c.val,short) (by rw [shape]; simp)
    dsimp only at spelled ⊢
    simp [spelled]
  | none =>
    dsimp only
    split_ifs <;> simp [unicodeEscape]
    omega

theorem quotedLength (t : Text) : t.length ≤ (t.flatMap (escape true)).length := by
  induction t with
  | nil => simp
  | cons c rest ih =>
    have one := escapeNonempty c
    simp only [List.flatMap_cons,List.length_append,List.length_cons]
    omega

theorem quoteShape (t rest : Text) : quote true t ++ rest = 34 :: (t.flatMap (escape true) ++ 34 :: rest) := by
  have mark : text "\"" = [34] := by decide
  simp [quote,mark]

theorem scanOnceQuoted {hooks : Hooks} {t : Text} (plain : ∀ c ∈ t, isSurrogate c = false) (fuel : Nat) (rest : Text) :
    scanOnce hooks (fuel + 1) (quote true t ++ rest) = some (.str t,rest) := by
  have long := quotedLength t
  rw [quoteShape,scanOnce,if_pos (by decide),scanStringQuoted plain (by simp only [List.length_append]; omega)]
  rfl

theorem skipFirst {c : CodePoint} (solid : isBlank c = false) (rest : Text) : skip (c :: rest) = c :: rest := by
  simp [skip,solid]

theorem skipBlank {c : CodePoint} (blank : isBlank c = true) (rest : Text) : skip (c :: rest) = skip rest := by
  simp [skip,blank]

theorem scanPairsSingle {hooks : Hooks} {key t : Text} (plainKey : ∀ c ∈ key, isSurrogate c = false)
    (plain : ∀ c ∈ t, isSurrogate c = false) (fuel : Nat) (rest : Text) :
    scanPairs hooks (fuel + 2) (quote true key ++ text ": " ++ quote true t ++ 125 :: rest) =
      some ([(key,.str t)],rest) := by
  have separator : text ": " = [58,32] := by decide
  have long := quotedLength key
  rw [separator,List.append_assoc,List.append_assoc,quoteShape,scanPairs,if_neg (by decide),
    scanStringQuoted plainKey (by simp only [List.length_append]; omega)]
  simp only [List.cons_append,List.nil_append,Option.bind_eq_bind,Option.bind_some]
  rw [skipFirst (by decide)]
  dsimp only
  rw [if_neg (by decide),show skip (32 :: (quote true t ++ 125 :: rest)) = quote true t ++ 125 :: rest by
    rw [skipBlank (by decide),quoteShape,skipFirst (by decide)],scanOnceQuoted plain]
  simp only [Option.bind_some]
  rw [skipFirst (by decide)]
  dsimp only
  rw [if_neg (by decide),if_pos (by decide)]

theorem dumpsSingle (key t : Text) :
    dumps true (.obj [(key,.str t)]) = 123 :: (quote true key ++ text ": " ++ quote true t ++ [125]) := by
  have opening : text "\x7b" = [123] := by decide
  have closing : text "\x7d" = [125] := by decide
  simp [dumps,dumpsFields,List.intercalate,opening,closing]

theorem dumpsFuel (key t : Text) : ∃ n, 2 * (dumps true (.obj [(key,.str t)])).length + 2 = n + 3 := by
  have positive : 0 < (dumps true (.obj [(key,.str t)])).length := by
    rw [dumpsSingle,List.length_cons]
    exact Nat.succ_pos _
  exact ⟨2 * (dumps true (.obj [(key,.str t)])).length - 1,by omega⟩

theorem scanOnceSingle {hooks : Hooks} (unique : hooks.uniquePairs = true) {key t : Text}
    (plainKey : ∀ c ∈ key, isSurrogate c = false) (plain : ∀ c ∈ t, isSurrogate c = false) (n : Nat) :
    scanOnce hooks (n + 3) (123 :: (quote true key ++ text ": " ++ quote true t ++ [125])) =
      some (.obj [(key,.str t)],[]) := by
  have opened : skip (quote true key ++ text ": " ++ quote true t ++ [125]) =
      quote true key ++ text ": " ++ quote true t ++ [125] := by
    rw [List.append_assoc,List.append_assoc,quoteShape,skipFirst (by decide)]
  rw [scanOnce,if_neg (by decide),if_pos (by decide),opened]
  have first := quoteShape key (text ": " ++ (quote true t ++ [125]))
  simp only [← List.append_assoc] at first
  rw [first]
  dsimp only
  rw [if_neg (by decide),← first,scanPairsSingle plainKey plain]
  simp only [Option.bind_eq_bind,Option.bind_some,buildObject,unique,if_true]
  rw [if_pos (by simp [Fields.keys])]
  rfl

-- An object of one text field is read back as it was.
theorem loadsSingle {hooks : Hooks} (unique : hooks.uniquePairs = true) {key t : Text}
    (plainKey : ∀ c ∈ key, isSurrogate c = false) (plain : ∀ c ∈ t, isSurrogate c = false) :
    loads hooks (dumps true (.obj [(key,.str t)])) = some (.obj [(key,.str t)]) := by
  obtain ⟨n,enough⟩ := dumpsFuel key t
  have marked : (dumps true (.obj [(key,.str t)])).head? = some 123 := by
    rw [dumpsSingle,List.head?_cons]
  have plainStart : ¬ ((dumps true (.obj [(key,.str t)])).head?.any fun c => c.val = 0xFEFF) = true := by
    rw [marked]
    decide
  unfold loads
  rw [if_neg plainStart,enough,dumpsSingle,skipFirst (by decide),scanOnceSingle unique plainKey plain]
  rfl

end JsonText
end SlaifGateway.Library
