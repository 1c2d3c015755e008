import SqlChain.Client.Driver
import SqlChain.Sqlite.Datum
import SqlChain.Sqlite.Reader

/-!
# Parameters

The parameters of a statement are numbered in the order in which they stand: a
lone question mark takes the next number, one with a number takes that, and a
name takes the next number where it stands first. The arguments given to a
statement are taken in order by the parameters that have no name; a number in a
name asks for the argument of that place.
-/

namespace SqlChain.Sqlite

/-- What the engine takes for an argument, by storage class. A float that is not a
number is null. -/
def Datum.ofArgument : Driver.Argument → Datum
  | .noInteger => .null
  | .integer n => .integer n
  | .real x => if x.isNaN then .null else .value (.real x)
  | .text s => .text s
  | .bytes bs => .value (.blob bs)

/-- The parameters of a statement by number, each with the name that first
called for it. -/
abbrev Parameters := List (Option String)

namespace Parameters

/-- The number of a name. -/
def number? (ps : Parameters) (name : String) : Option Nat :=
  (ps.findIdx? (· == some name)).map (· + 1)

/-- The parameters with a name at a number that may be new. -/
def withNumber (ps : Parameters) (n : Nat) (name : String) : Parameters :=
  let ps := ps ++ List.replicate (n - ps.length) none
  ps.modify (n - 1) fun old => old.or (some name)

/-- Number a parameter: its number, zero if it has a number that cannot be, and
the parameters with it. -/
def add (ps : Parameters) (name : String) : Nat × Parameters :=
  match name.toList with
  | ['?'] => (ps.length + 1, ps ++ [none])
  | '?' :: digits =>
      let n := digits.foldl (fun n c => n * 10 + (c.toNat - 48)) 0
      if n = 0 ∨ Reader.maxParameter < n then (0, ps) else (n, ps.withNumber n name)
  | _ =>
      match ps.number? name with
      | some n => (n, ps)
      | none => (ps.length + 1, ps ++ [some name])

/-- Number the parameters among tokens. A hash mark with a digit is no parameter. -/
def numbered : List Token → Parameters → List Token × Parameters
  | [], ps => ([], ps)
  | t :: rest, ps =>
      match t.kind with
      | .parameter _ =>
          let hashed := match t.source.toList with
            | '#' :: d :: _ => d.isDigit
            | _ => false
          if hashed then
            let (rest, ps) := numbered rest ps
            ({ t with kind := .symbol } :: rest, ps)
          else
            let (n, ps) := ps.add t.source
            let (rest, ps) := numbered rest ps
            ({ t with kind := .parameter n } :: rest, ps)
      | _ =>
          let (rest, ps) := numbered rest ps
          (t :: rest, ps)

/-- The place in the values that a name asks for. -/
def placeOf (name : String) : Except DatabaseError Nat :=
  match name.toList with
  | '?' :: digits => .ok (digits.foldl (fun n c => n * 10 + (c.toNat - 48)) 0)
  | '$' :: rest =>
      let digits := rest.takeWhile Char.isDigit
      if digits.isEmpty then
        .error (.protocol ("parameters with non-integer names are not currently supported: " ++
          String.ofList rest))
      else .ok (digits.foldl (fun n c => n * 10 + (c.toNat - 48)) 0)
  | _ => .error (.protocol ("unsupported SQL parameter format: " ++ name))

/-- The values of the parameters, and the number of arguments taken in order, after
`taken` that earlier statements took. The first parameter that asks for more
arguments than there are ends the search. -/
def bind (arguments : List Driver.Argument) (taken : Nat) :
    Parameters → Except DatabaseError (List Datum × Nat)
  | [] => .ok ([], taken)
  | name :: rest => do
      let (place, taken) ← match name with
        | some name => do pure (← placeOf name, taken)
        | none => pure (taken + 1, taken + 1)
      match arguments[place - 1]? with
      | none => return ([], taken)
      | some a => do
          let (bound, taken) ← bind arguments taken rest
          return (.ofArgument a :: bound, taken)

end Parameters

end SqlChain.Sqlite
