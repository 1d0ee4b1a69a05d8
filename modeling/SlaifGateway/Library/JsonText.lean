import SlaifGateway.Library.Document

/-! Reading texts: strict UTF-8 decoding, lines, white space, and the JSON reader with its hooks for
fractions, non-finite constants and repeated keys. Nesting is bounded by the length of the text. -/
namespace SlaifGateway.Library

def isTail (b : UInt8) : Bool := 0x80 ≤ b && b ≤ 0xBF

def point (n : Nat) : CodePoint := Fin.ofNat 0x110000 n

def threeBytes (a b c : UInt8) : Bool :=
  isTail c && ((a = 0xE0 && 0xA0 ≤ b && b ≤ 0xBF) || (0xE1 ≤ a && a ≤ 0xEC && isTail b) ||
    (a = 0xED && 0x80 ≤ b && b ≤ 0x9F) || (0xEE ≤ a && a ≤ 0xEF && isTail b))

def fourBytes (a b c d : UInt8) : Bool :=
  isTail c && isTail d && ((a = 0xF0 && 0x90 ≤ b && b ≤ 0xBF) || (0xF1 ≤ a && a ≤ 0xF3 && isTail b) ||
    (a = 0xF4 && 0x80 ≤ b && b ≤ 0x8F))

def decode : List UInt8 → Option Text
  | [] => some []
  | a :: rest =>
    if a < 0x80 then (decode rest).map (point a.toNat :: ·)
    else match rest with
      | [] => none
      | b :: rest =>
        if 0xC2 ≤ a && a ≤ 0xDF && isTail b then
          (decode rest).map (point (a.toNat % 32 * 64 + b.toNat % 64) :: ·)
        else match rest with
          | [] => none
          | c :: rest =>
            if threeBytes a b c then
              (decode rest).map (point (a.toNat % 16 * 4096 + b.toNat % 64 * 64 + c.toNat % 64) :: ·)
            else match rest with
              | [] => none
              | d :: rest =>
                if fourBytes a b c d then
                  (decode rest).map (point (a.toNat % 8 * 262144 + b.toNat % 64 * 4096 + c.toNat % 64 * 64 +
                    d.toNat % 64) :: ·)
                else none

example : (encode (text "aé€😀")).bind decode = some (text "aé€😀") := by decide +kernel

def isSpace (c : CodePoint) : Bool :=
  (9 ≤ c.val && c.val ≤ 13) || (28 ≤ c.val && c.val ≤ 32) || c.val = 0x85 || c.val = 0xA0 || c.val = 0x1680 ||
    (0x2000 ≤ c.val && c.val ≤ 0x200A) || c.val = 0x2028 || c.val = 0x2029 || c.val = 0x202F || c.val = 0x205F ||
    c.val = 0x3000

def stripText (t : Text) : Text := ((t.dropWhile isSpace).reverse.dropWhile isSpace).reverse

def isLineBreak (c : CodePoint) : Bool :=
  (10 ≤ c.val && c.val ≤ 13) || (28 ≤ c.val && c.val ≤ 30) || c.val = 0x85 || c.val = 0x2028 || c.val = 0x2029

-- A carriage return followed by a line feed is one break; a break at the end opens no further line.
def splitLinesFrom (returned : Bool) (line : Text) : Text → List Text
  | [] => if line = [] then [] else [line]
  | c :: rest =>
    if returned && c.val = 10 then splitLinesFrom false line rest
    else if isLineBreak c then line :: splitLinesFrom (c.val = 13) [] rest
    else splitLinesFrom false (line ++ [c]) rest

def splitLines (t : Text) : List Text := splitLinesFrom false [] t

namespace JsonText

structure Hooks where
  parseFloat : Text → Document
  constants : Bool := true
  uniquePairs : Bool := false

def isBlank (c : CodePoint) : Bool := c.val = 32 || c.val = 9 || c.val = 10 || c.val = 13

def skip (t : Text) : Text := t.dropWhile isBlank

def isDigit (c : CodePoint) : Bool := 48 ≤ c.val && c.val ≤ 57

def hexValue (c : CodePoint) : Option Nat :=
  if isDigit c then some (c.val - 48)
  else if 97 ≤ c.val ∧ c.val ≤ 102 then some (c.val - 87)
  else if 65 ≤ c.val ∧ c.val ≤ 70 then some (c.val - 55)
  else none

def scanHex : Text → Option (Nat × Text)
  | a :: b :: c :: d :: rest => do
    some ((← hexValue a) * 4096 + (← hexValue b) * 256 + (← hexValue c) * 16 + (← hexValue d),rest)
  | _ => none

def simpleEscapes : List (Nat × Nat) := [(34,34),(92,92),(47,47),(98,8),(102,12),(110,10),(114,13),(116,9)]

-- An escaped high surrogate takes the escaped low surrogate that follows it.
def joinSurrogates (high : Nat) (rest : Text) : Option (CodePoint × Text) :=
  if 0xD800 ≤ high ∧ high ≤ 0xDBFF ∧ (text "\\u").isPrefixOf rest then do
    let (low,after) ← scanHex (rest.drop 2)
    if 0xDC00 ≤ low ∧ low ≤ 0xDFFF then some (point (0x10000 + (high - 0xD800) * 1024 + (low - 0xDC00)),after)
    else some (point high,rest)
  else some (point high,rest)

def scanEscape : Text → Option (CodePoint × Text)
  | [] => none
  | e :: rest =>
    match simpleEscapes.lookup e.val with
    | some c => some (point c,rest)
    | none =>
      if e.val = 117 then do
        let (n,rest) ← scanHex rest
        joinSurrogates n rest
      else none

def scanString : Nat → Text → Option (Text × Text)
  | 0,_ => none
  | _ + 1,[] => none
  | fuel + 1,c :: rest =>
    if c.val = 34 then some ([],rest)
    else if c.val = 92 then do
      let (d,rest) ← scanEscape rest
      let (s,rest) ← scanString fuel rest
      some (d :: s,rest)
    else if c.val < 32 then none
    else do
      let (s,rest) ← scanString fuel rest
      some (c :: s,rest)

def maxIntDigits : Nat := 4300

def readDigits (digits : Text) : Nat := digits.foldl (fun n c => n * 10 + (c.val - 48)) 0

def scanInteger : Text → Option (Text × Text)
  | [] => none
  | d :: rest =>
    if d.val = 48 then some ([d],rest)
    else if isDigit d then some (d :: rest.takeWhile isDigit,rest.dropWhile isDigit)
    else none

def scanFraction : Text → Text × Text
  | dot :: d :: rest =>
    if dot.val = 46 ∧ isDigit d then (dot :: d :: rest.takeWhile isDigit,rest.dropWhile isDigit)
    else ([],dot :: d :: rest)
  | t => ([],t)

def scanExponent : Text → Text × Text
  | [] => ([],[])
  | e :: rest =>
    if e.val = 101 ∨ e.val = 69 then
      let sign := if rest.head?.any fun c => c.val = 43 ∨ c.val = 45 then rest.take 1 else []
      let digits := (rest.drop sign.length).takeWhile isDigit
      if digits = [] then ([],e :: rest)
      else (e :: sign ++ digits,(rest.drop sign.length).dropWhile isDigit)
    else ([],e :: rest)

def scanNumber (hooks : Hooks) (t : Text) : Option (Document × Text) :=
  let sign := if t.head?.any fun c => c.val = 45 then t.take 1 else []
  match scanInteger (t.drop sign.length) with
  | none => none
  | some (digits,rest) =>
    let (fraction,rest) := scanFraction rest
    let (exponent,rest) := scanExponent rest
    if fraction = [] ∧ exponent = [] then
      if maxIntDigits < digits.length then none
      else some (.int (if sign = [] then readDigits digits else -readDigits digits),rest)
    else some (hooks.parseFloat (sign ++ digits ++ fraction ++ exponent),rest)

def literals (hooks : Hooks) : List (String × Document) :=
  [("null",.null),("true",.bool true),("false",.bool false)] ++
    if hooks.constants then
      [("NaN",.float none (text "NaN")),("Infinity",.float none (text "Infinity")),
        ("-Infinity",.float none (text "-Infinity"))]
    else []

def scanLiteral (hooks : Hooks) (t : Text) : Option (Document × Text) :=
  ((literals hooks).find? fun entry => (text entry.1).isPrefixOf t).map fun entry =>
    (entry.2,t.drop (text entry.1).length)

def buildObject (hooks : Hooks) (pairs : Fields) : Option Document :=
  if hooks.uniquePairs then
    if pairs.keys.Nodup then some (.obj pairs) else none
  else some (.obj (pairs.foldl (fun (fields : Fields) pair => fields.put pair.1 pair.2) []))

mutual
def scanOnce (hooks : Hooks) : Nat → Text → Option (Document × Text)
  | 0,_ => none
  | _ + 1,[] => none
  | fuel + 1,c :: rest =>
    if c.val = 34 then (scanString (rest.length + 1) rest).map fun r => (.str r.1,r.2)
    else if c.val = 123 then
      match skip rest with
      | [] => none
      | d :: after =>
        if d.val = 125 then (buildObject hooks []).map (·,after)
        else do
          let (pairs,rest) ← scanPairs hooks fuel (d :: after)
          let object ← buildObject hooks pairs
          some (object,rest)
    else if c.val = 91 then
      match skip rest with
      | [] => none
      | d :: after =>
        if d.val = 93 then some (.arr [],after)
        else (scanItems hooks fuel (d :: after)).map fun r => (.arr r.1,r.2)
    else (scanLiteral hooks (c :: rest)).or (scanNumber hooks (c :: rest))

def scanItems (hooks : Hooks) : Nat → Text → Option (List Document × Text)
  | 0,_ => none
  | fuel + 1,t => do
    let (item,rest) ← scanOnce hooks fuel t
    match skip rest with
    | [] => none
    | c :: rest =>
      if c.val = 44 then
        let (items,rest) ← scanItems hooks fuel (skip rest)
        some (item :: items,rest)
      else if c.val = 93 then some ([item],rest)
      else none

def scanPairs (hooks : Hooks) : Nat → Text → Option (Fields × Text)
  | 0,_ => none
  | _ + 1,[] => none
  | fuel + 1,c :: rest =>
    if c.val ≠ 34 then none
    else do
      let (key,rest) ← scanString (rest.length + 1) rest
      match skip rest with
      | [] => none
      | colon :: rest =>
        if colon.val ≠ 58 then none
        else
          let (value,rest) ← scanOnce hooks fuel (skip rest)
          match skip rest with
          | [] => none
          | c :: rest =>
            if c.val = 44 then
              let (pairs,rest) ← scanPairs hooks fuel (skip rest)
              some ((key,value) :: pairs,rest)
            else if c.val = 125 then some ([(key,value)],rest)
            else none
end

-- Every second level of the recursion takes a character, so the fuel never runs out.
def loads (hooks : Hooks) (t : Text) : Option Document :=
  if t.head?.any fun c => c.val = 0xFEFF then none
  else do
    let (value,rest) ← scanOnce hooks (2 * t.length + 2) (skip t)
    if skip rest = [] then some value else none

end JsonText
end SlaifGateway.Library
