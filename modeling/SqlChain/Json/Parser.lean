import SqlChain.Json.Basic
import SqlChain.Text.Hex

/-!
# Reading JSON text

A recursive-descent reader over characters. Each part of the grammar takes the
characters it needs and hands on the rest. Every second step takes a
character, so twice the length of the text bounds the recursion.
-/

namespace SqlChain.Json

open Decimal (Numeral)

/-- Drop the white space of JSON. -/
def skipSpace : List Char → List Char
  | c :: rest => if c = ' ' ∨ c = '\n' ∨ c = '\t' ∨ c = '\r' then skipSpace rest else c :: rest
  | [] => []

/-- Drop an expected word. -/
def expect? : List Char → List Char → Option (List Char)
  | [], rest => some rest
  | w :: word, c :: rest => if w = c then expect? word rest else none
  | _ :: _, [] => none

/-- The digits at the front, by value, and the rest. -/
def spanDigits (cs : List Char) : List Nat × List Char :=
  ((cs.takeWhile Char.isDigit).map fun c => c.toNat - 48, cs.dropWhile Char.isDigit)

/-- The number that digits write. -/
def digitsValue (digits : List Nat) : Nat := digits.foldl (fun n d => n * 10 + d) 0

/-- The whole part of a numeral: a single zero, or digits that start with none. -/
def wholePart? (cs : List Char) : Option (List Nat × List Char) :=
  match spanDigits cs with
  | ([], _) => none
  | (0 :: _ :: _, _) => none
  | found => some found

/-- The fraction of a numeral, if a point stands here. -/
def fractionPart? : List Char → Option (Option (List Nat) × List Char)
  | '.' :: rest =>
      match spanDigits rest with
      | ([], _) => none
      | (digits, rest) => some (some digits, rest)
  | rest => some (none, rest)

/-- Digits of an exponent under a sign. -/
def exponentDigits? (negative : Bool) (cs : List Char) : Option (Option Int × List Char) :=
  match spanDigits cs with
  | ([], _) => none
  | (digits, rest) =>
      let n : Int := digitsValue digits
      some (some (if negative then -n else n), rest)

/-- The exponent of a numeral, if one stands here. -/
def exponentPart? : List Char → Option (Option Int × List Char)
  | c :: rest =>
      if c = 'e' ∨ c = 'E' then
        match rest with
        | '+' :: rest => exponentDigits? false rest
        | '-' :: rest => exponentDigits? true rest
        | rest => exponentDigits? false rest
      else some (none, c :: rest)
  | [] => some (none, [])

/-- A numeral whose sign has been read. -/
def numeral? (negative : Bool) (cs : List Char) : Option (Json × List Char) := do
  let (whole, cs) ← wholePart? cs
  let (fraction, cs) ← fractionPart? cs
  let (exponent, cs) ← exponentPart? cs
  let value ← Numeral.value? ⟨negative, whole, fraction, exponent⟩
  return (.number value, cs)

/-- Four hexadecimal digits. -/
def hexQuad? : List Char → Option (Nat × List Char)
  | a :: b :: c :: d :: rest => (Text.ofHex? [a, b, c, d]).map (·, rest)
  | _ => none

/-- The character of an escape `\u`, whose digits come next. The first half of
a surrogate pair needs the other half. -/
def unicodeEscape? (cs : List Char) : Option (Char × List Char) := do
  let (n, cs) ← hexQuad? cs
  if 0xD800 ≤ n ∧ n < 0xDC00 then
    match cs with
    | '\\' :: 'u' :: cs =>
        let (low, cs) ← hexQuad? cs
        if 0xDC00 ≤ low ∧ low < 0xE000 then
          return (Char.ofNat (0x10000 + (n - 0xD800) * 0x400 + (low - 0xDC00)), cs)
        else none
    | _ => none
  else if 0xDC00 ≤ n ∧ n < 0xE000 then none
  else return (Char.ofNat n, cs)

/-- The escapes of one letter. -/
def shortEscape? : Char → Option Char
  | '"' => some '"'
  | '\\' => some '\\'
  | '/' => some '/'
  | 'b' => some '\x08'
  | 'f' => some '\x0c'
  | 'n' => some '\n'
  | 'r' => some '\r'
  | 't' => some '\t'
  | _ => none

/-- The rest of a string literal, after its opening quote. `seen` holds the
characters read so far, last first. -/
def stringRest? : Nat → List Char → List Char → Option (String × List Char)
  | 0, _, _ => none
  | _ + 1, _, [] => none
  | fuel + 1, seen, c :: cs =>
      if c = '"' then some (String.ofList seen.reverse, cs)
      else if c = '\\' then
        match cs with
        | 'u' :: cs => do
            let (c, cs) ← unicodeEscape? cs
            stringRest? fuel (c :: seen) cs
        | e :: cs => do
            let c ← shortEscape? e
            stringRest? fuel (c :: seen) cs
        | [] => none
      else if c.toNat < 0x20 then none
      else stringRest? fuel (c :: seen) cs

/-- A string literal. -/
def string? : List Char → Option (String × List Char)
  | '"' :: cs => stringRest? (cs.length + 1) [] cs
  | _ => none

mutual

/-- A value, after white space. -/
def value? : Nat → List Char → Option (Json × List Char)
  | 0, _ => none
  | fuel + 1, cs =>
      match skipSpace cs with
      | 'n' :: cs => (expect? ['u', 'l', 'l'] cs).map (.null, ·)
      | 't' :: cs => (expect? ['r', 'u', 'e'] cs).map (.bool true, ·)
      | 'f' :: cs => (expect? ['a', 'l', 's', 'e'] cs).map (.bool false, ·)
      | '-' :: cs => numeral? true cs
      | '"' :: cs => do
          let (s, cs) ← stringRest? (cs.length + 1) [] cs
          return (.text s, cs)
      | '[' :: cs =>
          match skipSpace cs with
          | ']' :: cs => some (.array [], cs)
          | cs => items? fuel [] cs
      | '\x7b' :: cs =>
          match skipSpace cs with
          | '\x7d' :: cs => some (.object [], cs)
          | cs => members? fuel [] cs
      | cs => numeral? false cs

/-- The items of an array that has at least one more, up to its bracket. -/
def items? : Nat → List Json → List Char → Option (Json × List Char)
  | 0, _, _ => none
  | fuel + 1, seen, cs => do
      let (item, cs) ← value? fuel cs
      match skipSpace cs with
      | ',' :: cs => items? fuel (item :: seen) cs
      | ']' :: cs => return (.array (item :: seen).reverse, cs)
      | _ => none

/-- The members of an object that has at least one more, up to its brace. -/
def members? : Nat → List (String × Json) → List Char → Option (Json × List Char)
  | 0, _, _ => none
  | fuel + 1, seen, cs => do
      let (name, cs) ← string? (skipSpace cs)
      match skipSpace cs with
      | ':' :: cs =>
          let (value, cs) ← value? fuel cs
          match skipSpace cs with
          | ',' :: cs => members? fuel ((name, value) :: seen) cs
          | '\x7d' :: cs => return (.ofMembers ((name, value) :: seen).reverse, cs)
          | _ => none
      | _ => none

end

/-- Read a text that holds one JSON value and white space. -/
def parse? (s : String) : Option Json :=
  let cs := s.toList
  match value? (2 * cs.length + 2) cs with
  | some (value, rest) => if skipSpace rest = [] then some value else none
  | none => none

end SqlChain.Json
