import SqlChain.Decimal.Layout
import SqlChain.Json.Basic
import SqlChain.Text.Hex

/-!
# JSON text

The compact text of a JSON value: no blanks, short escapes where they exist,
other controls below the blank by code point, and everything else as it is.
-/

namespace SqlChain.Json

open Decimal (Number)

/-- One character of a JSON string. -/
def escapedChar (c : Char) : List Char :=
  if c = '"' then ['\\', '"']
  else if c = '\\' then ['\\', '\\']
  else if c = '\n' then ['\\', 'n']
  else if c = '\r' then ['\\', 'r']
  else if c = '\t' then ['\\', 't']
  else if c = '\x08' then ['\\', 'b']
  else if c = '\x0c' then ['\\', 'f']
  else if c.toNat < 0x20 then ['\\', 'u'] ++ Text.hexPadded 4 c.toNat
  else [c]

/-- A JSON string literal. -/
def stringLiteral (s : String) : String :=
  String.ofList ('"' :: s.toList.flatMap escapedChar ++ ['"'])

/-- The text of a number. -/
def numberText : Number → String
  | .int n => toString n
  | .real x => x.render .json

/-- Texts separated by commas. -/
def commaSeparated : List String → String
  | [] => ""
  | [item] => item
  | item :: rest => item ++ "," ++ commaSeparated rest

mutual

/-- The compact text of a value. -/
def print : Json → String
  | .null => "null"
  | .bool true => "true"
  | .bool false => "false"
  | .number n => numberText n
  | .text s => stringLiteral s
  | .array items => "[" ++ commaSeparated (printItems items) ++ "]"
  | .object members => "\x7b" ++ commaSeparated (printMembers members) ++ "\x7d"

/-- The texts of an array's items. -/
def printItems : List Json → List String
  | [] => []
  | item :: rest => print item :: printItems rest

/-- The texts of an object's members. -/
def printMembers : List (String × Json) → List String
  | [] => []
  | (name, value) :: rest => (stringLiteral name ++ ":" ++ print value) :: printMembers rest

end

end SqlChain.Json
