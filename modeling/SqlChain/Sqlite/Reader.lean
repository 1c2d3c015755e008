import SqlChain.Error.Database
import SqlChain.Sqlite.Token

/-!
# Readers of tokens

A reader goes over the tokens of a statement and never back. What cannot go on
is a syntax error that names the token in the way, or says that the text ended
too soon. Some faults show only when a part has been read in full; such a fault
is told when the token after the part turns out to fit, for a token that does
not fit is told first.
-/

namespace SqlChain.Sqlite

/-- Where a reader stands: the tokens that are left, and a fault to be told when
the next of them fits. -/
structure Reading where
  rest : List Token
  fault : Option EngineError := none

/-- A reader: it takes tokens from the front, or says what is wrong. -/
abbrev Reader (α : Type) := StateT Reading (Except EngineError) α

/-- A word in upper case. Only ASCII letters have two cases here. -/
def upperWord (s : String) : String := String.ofList (s.toList.map Char.toUpper)

namespace Reader

/-! ## Tokens -/

/-- The words that cannot be names. -/
def reserved : List String :=
  ["ADD", "ALL", "ALTER", "AND", "AS", "AUTOINCREMENT", "BETWEEN", "CASE", "CHECK", "COLLATE",
    "COMMIT", "CONSTRAINT", "CREATE", "DEFAULT", "DEFERRABLE", "DELETE", "DISTINCT", "DROP",
    "ELSE", "ESCAPE", "EXCEPT", "EXISTS", "FOREIGN", "FROM", "GROUP", "HAVING", "IN", "INDEX",
    "INSERT", "INTERSECT", "INTO", "IS", "ISNULL", "JOIN", "LIMIT", "NOT", "NOTHING", "NOTNULL",
    "NULL", "ON", "OR", "ORDER", "PRIMARY", "REFERENCES", "RETURNING", "SELECT", "SET", "TABLE",
    "THEN", "TO", "TRANSACTION", "UNION", "UNIQUE", "UPDATE", "USING", "VALUES", "WHEN", "WHERE"]

/-- The words before `JOIN`. They are names where a name has to stand, and no
names where one may stand. -/
def joinWords : List String := ["CROSS", "FULL", "INNER", "LEFT", "NATURAL", "OUTER", "RIGHT"]

/-- The greatest number of a parameter. -/
def maxParameter : Nat := 32766

/-- The greatest number of operands of a call. -/
def maxOperands : Nat := 127

/-- What follows the last token. -/
def lastToken : Token := ⟨.finish, "", ""⟩

/-- The next token. -/
def peek : Reader Token := do return (← get).rest.head?.getD lastToken

/-- The token after the next. -/
def peekSecond : Reader Token := do return ((← get).rest.drop 1).head?.getD lastToken

/-- Go past the next token, which fits. -/
def skip : Reader Unit := do
  let reading ← get
  match reading.fault with
  | some e => throw e
  | none => set { reading with rest := reading.rest.drop 1 }

/-- Note a fault of the part that has just been read. -/
def blame (e : EngineError) : Reader Unit := modify fun reading => { reading with fault := some e }

/-- The fault of a token that does not fit. -/
def misfit (t : Token) : EngineError :=
  match t.kind with
  | .illegal => .unrecognizedToken t.source
  | .finish => .incompleteInput
  | _ => .nearToken t.source

/-- The syntax error at this place. -/
def unexpected {α : Type} : Reader α := do throw (misfit (← peek))

/-- Whether the token is this keyword. -/
def isKeyword (word : String) (t : Token) : Bool := t.kind = .word && upperWord t.source = word

/-- Whether the token is this symbol. -/
def isSymbolToken (symbol : String) (t : Token) : Bool := t.kind = .symbol && t.source = symbol

/-- Take the next token if it passes, and say whether it did. -/
def accept (test : Token → Bool) : Reader Bool := do
  if test (← peek) then
    skip
    return true
  return false

/-- Take a keyword if it is next. -/
def acceptKeyword (word : String) : Reader Bool := accept (isKeyword word)

/-- Take a symbol if it is next. -/
def acceptSymbol (symbol : String) : Reader Bool := accept (isSymbolToken symbol)

/-- Take a token that has to be next. -/
def expect (test : Token → Bool) : Reader Unit := do
  unless ← accept test do unexpected

/-- Take a keyword that has to be next. -/
def expectKeyword (word : String) : Reader Unit := expect (isKeyword word)

/-- Take a symbol that has to be next. -/
def expectSymbol (symbol : String) : Reader Unit := expect (isSymbolToken symbol)

section

variable {α β : Type} {t : Token} {ts : List Token} {test : Token → Bool}

theorem bind_of_ok {r : Reader α} {f : α → Reader β} {x : α} {before after : Reading}
    (h : r before = .ok (x, after)) : (r >>= f) before = f x after := by
  show (r before >>= fun p => f p.1 p.2) = _
  rw [h]
  rfl

theorem get_eq (reading : Reading) : (get : Reader Reading) reading = .ok (reading, reading) := rfl

theorem peek_cons : peek ⟨t :: ts, none⟩ = .ok (t, ⟨t :: ts, none⟩) := rfl

theorem skip_cons : skip ⟨t :: ts, none⟩ = .ok ((), ⟨ts, none⟩) := rfl

theorem accept_of_pass (h : test t = true) :
    accept test ⟨t :: ts, none⟩ = .ok (true, ⟨ts, none⟩) := by
  rw [accept, bind_of_ok peek_cons, if_pos h]
  rfl

theorem accept_of_fail (h : test t = false) :
    accept test ⟨t :: ts, none⟩ = .ok (false, ⟨t :: ts, none⟩) := by
  rw [accept, bind_of_ok peek_cons, h]
  rfl

end

/-- The source of the tokens between two places, with the gaps in between and
the one before the second place, but no blanks at the ends. -/
def sourceBetween (start stop : List Token) : String :=
  let taken := start.take (start.length - stop.length)
  let parts := (taken.drop 1).flatMap fun t => t.gap.toList ++ t.source.toList
  let first := (taken.head?.map fun t => t.source.toList).getD []
  let last := (stop.head?.map fun t => t.gap.toList).getD []
  let all := (first ++ parts ++ last).dropWhile isWideSpace
  String.ofList (all.reverse.dropWhile isWideSpace).reverse

/-! ## Names -/

/-- The name that a token is where one may stand. -/
def looseName? (t : Token) : Option String :=
  match t.kind with
  | .word =>
      let word := upperWord t.source
      if word ∈ reserved ∨ word ∈ joinWords ∨ word = "INDEXED" then none else some t.source
  | .quoted name _ => some name
  | .string s => some s
  | _ => none

/-- The name that a token is where one has to stand. -/
def nameOf? (t : Token) : Option String :=
  match t.kind with
  | .word => if upperWord t.source ∈ reserved then none else some t.source
  | .quoted name _ => some name
  | .string s => some s
  | _ => none

/-- A name. -/
def name : Reader String := do
  match nameOf? (← peek) with
  | some n =>
      skip
      return n
  | none => unexpected

/-- A name, if one is next. -/
def acceptLooseName : Reader (Option String) := do
  match looseName? (← peek) with
  | some n =>
      skip
      return some n
  | none => return none

/-- Another name, with or without `AS`. -/
def otherName : Reader (Option String) := do
  if ← acceptKeyword "AS" then return some (← name)
  acceptLooseName

/-! ## Lists -/

/-- Items separated by commas, at most `fuel` of them. -/
def separated {α : Type} (item : Reader α) : Nat → Reader (List α)
  | 0 => unexpected
  | fuel + 1 => do
      let x ← item
      if ← acceptSymbol "," then return x :: (← separated item fuel)
      return [x]

/-- Items separated by commas. -/
def commaList {α : Type} (item : Reader α) : Reader (List α) := do
  separated item ((← get).rest.length + 1)

end Reader

end SqlChain.Sqlite
