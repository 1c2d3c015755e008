import SqlChain.Client.Basic

/-!
# Scripted clients

A client that answers from a script, whatever it is asked: fixed rows, a fixed
effect, or an error at either stage. It shows what a query sends without a
database behind it.
-/

namespace SqlChain

/-- The answers of a scripted client. -/
structure Script where
  name : String
  rows : List Row := []
  effect : RunResult := {}
  prepareError : Option Error := none
  executeError : Option Error := none

namespace Script

/-- The answer to a request, unless an error is scripted. -/
def answer (s : Script) : (r : Request) → r.Answer
  | .all => s.rows
  | .first => s.rows.head?
  | .run => s.effect

/-- Scripted clients as a backend. They remember nothing. -/
def backend : Backend Script Unit where
  prepare s _ state :=
    match s.prepareError with
    | some e => (.error e, state)
    | none => (.ok (), state)
  answer r s _ state :=
    match s.executeError with
    | some e => (.error e, state)
    | none => (.ok (s.answer r), state)

end Script

end SqlChain
