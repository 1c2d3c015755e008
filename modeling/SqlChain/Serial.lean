import SqlChain.Json.Printer

/-!
# Data that presents itself for writing

A structure, a map or a scalar hands itself over as a tree of parts, without
saying in which format it will be written. `toJson` collects the tree into a
JSON value: wrappers vanish, structures and maps become objects, and a map
whose key is no scalar has no JSON form.
-/

namespace SqlChain

open Decimal (Binary64)

/-- A value presented part by part. -/
inductive Serial where
  | unit
  | bool (b : Bool)
  | int (n : Int)
  | real (x : Binary64)
  | char (c : Char)
  | text (s : String)
  | bytes (bs : List UInt8)
  | sequence (items : List Serial)
  | map (entries : List (Serial × Serial))
  | record (fields : List (String × Serial))
  | optional (inner : Serial)
  | wrapped (inner : Serial)
  | variant (name : String)
  | payload (name : String) (inner : Serial)
deriving Repr, Inhabited

/-- Keys of a map that have no text. -/
inductive KeyFault where
  | notText
  | notFinite
deriving DecidableEq, Repr

/-- The words for a key without a text. -/
def KeyFault.message : KeyFault → String
  | .notText => "key must be a string"
  | .notFinite => "float key must be finite (got NaN or +/-inf)"

namespace Serial

/-- The text of a map key. A number is written as it is in JSON. -/
def keyText : Serial → Except KeyFault String
  | .text s => .ok s
  | .char c => .ok (String.singleton c)
  | .int n => .ok (Json.numberText (.int n))
  | .real x => if x.isFinite then .ok (Json.numberText (.real x)) else .error .notFinite
  | .bool b => .ok (if b then "true" else "false")
  | .variant name => .ok name
  | .wrapped inner => keyText inner
  | _ => .error .notText

mutual

/-- The JSON value of the parts; an error if a map key has no text. -/
def toJson : Serial → Except KeyFault Json
  | .unit => .ok .null
  | .bool b => .ok (.bool b)
  | .int n => .ok (.int n)
  | .real x => .ok (.real x)
  | .char c => .ok (.text (String.singleton c))
  | .text s => .ok (.text s)
  | .bytes bs => .ok (.bytes bs)
  | .sequence items => (itemsToJson items).map .array
  | .map entries => (entriesToJson entries).map .ofMembers
  | .record fields => (fieldsToJson fields).map .ofMembers
  | .optional inner => toJson inner
  | .wrapped inner => toJson inner
  | .variant name => .ok (.text name)
  | .payload name inner => (toJson inner).map fun value => .object [(name, value)]

/-- The JSON values of a sequence. -/
def itemsToJson : List Serial → Except KeyFault (List Json)
  | [] => .ok []
  | item :: rest => do return (← toJson item) :: (← itemsToJson rest)

/-- The members that the entries of a map become, in writing order. -/
def entriesToJson : List (Serial × Serial) → Except KeyFault (List (String × Json))
  | [] => .ok []
  | (key, value) :: rest => do
      return (← keyText key, ← toJson value) :: (← entriesToJson rest)

/-- The members that the fields of a structure become, in writing order. -/
def fieldsToJson : List (String × Serial) → Except KeyFault (List (String × Json))
  | [] => .ok []
  | (name, value) :: rest => do return (name, ← toJson value) :: (← fieldsToJson rest)

end

/-- The JSON value of the parts, if there is one. -/
def toJson? (data : Serial) : Option Json := data.toJson.toOption

end Serial

end SqlChain
