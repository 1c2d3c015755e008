import SqlChain.Shape.Basic

/-!
# Structures read field by field

A structure is a name and a list of named shapes; its values are the nested
pairs of its fields' values. It is read from an object, whose members come in
any order and may include strangers, or from an array, by position. Members are
read in the order in which they stand, so the first one that does not fit is
the one reported, and a missing field is reported only after all others fit.
-/

namespace SqlChain

/-- A named field. -/
structure Field where
  name : String
  shape : Shape
deriving Repr

/-- One value for each field. -/
def Tuple : List Field → Type
  | [] => Unit
  | f :: fs => f.shape.Carrier × Tuple fs

/-- The fields read so far. -/
def Slots : List Field → Type
  | [] => Unit
  | f :: fs => Option f.shape.Carrier × Slots fs

namespace Slots

/-- Nothing read yet. -/
def empty : (fs : List Field) → Slots fs
  | [] => ()
  | _ :: fs => (none, empty fs)

/-- Read a member into its slot; a stranger leaves the slots as they are. -/
def put : (fs : List Field) → Slots fs → String → Json → Except Mismatch (Slots fs)
  | [], slots, _, _ => .ok slots
  | f :: fs, (slot, rest), name, value =>
      if f.name = name then (f.shape.read value).map fun x => (some x, rest)
      else (put fs rest name value).map fun rest => (slot, rest)

/-- Read all members, in order. -/
def putAll (fs : List Field) (slots : Slots fs) (members : List (String × Json)) :
    Except Mismatch (Slots fs) :=
  members.foldlM (fun slots m => put fs slots m.1 m.2) slots

/-- The values of the slots. An empty one takes the default of the whole, if
there is one, else what its shape has for an absent value. -/
def finish : (fs : List Field) → Option (Tuple fs) → Slots fs → Except Mismatch (Tuple fs)
  | [], _, _ => .ok ()
  | f :: fs, defaults, (slot, rest) => do
      let filled := slot <|> defaults.map Prod.fst <|> f.shape.absent?
      match filled with
      | some x => return (x, ← finish fs (defaults.map Prod.snd) rest)
      | none => throw (.missingField f.name)

end Slots

namespace Tuple

/-- Read fields by position. `short` says what is missing when the items end
before the fields do, given the number of items read. -/
def ofItems (short : Nat → Mismatch) :
    (fs : List Field) → Option (Tuple fs) → Nat → List Json → Except Mismatch (Tuple fs)
  | [], _, _, _ => .ok ()
  | f :: fs, defaults, i, item :: items => do
      let x ← f.shape.read item
      return (x, ← ofItems short fs (defaults.map Prod.snd) (i + 1) items)
  | _ :: _, some defaults, _, [] => .ok defaults
  | _ :: _, none, i, [] => .error (short i)

/-- The members of an object with the values under their names. -/
def members : (fs : List Field) → Tuple fs → List (String × Json)
  | [], _ => []
  | f :: fs, (x, rest) => (f.name, f.shape.write x) :: members fs rest

end Tuple

/-- A structure: its name, its fields and, if fields may be left out, what
stands in for them. -/
structure Struct where
  name : String
  fields : List Field
  defaults : Option (Tuple fields)

namespace Struct

/-- What an array lacks that ends before the fields do. -/
def short (s : Struct) (length : Nat) : Mismatch :=
  .wrongLength length
    ("struct " ++ s.name ++ " with " ++ toString s.fields.length ++
      if s.fields.length = 1 then " element" else " elements")

/-- Read a structure. -/
def read (s : Struct) : Json → Except Mismatch (Tuple s.fields)
  | .object members => do
      let slots ← Slots.putAll s.fields (.empty s.fields) members
      Slots.finish s.fields s.defaults slots
  | .array items => do
      let tuple ← Tuple.ofItems s.short s.fields s.defaults 0 items
      if s.fields.length < items.length then
        throw (.wrongLength items.length "fewer elements in array")
      return tuple
  | other => .error (.wrongType other ("struct " ++ s.name))

/-- Write a structure as an object, in the order of its fields. -/
def write (s : Struct) (tuple : Tuple s.fields) : Json := .object (tuple.members s.fields)

end Struct

end SqlChain
