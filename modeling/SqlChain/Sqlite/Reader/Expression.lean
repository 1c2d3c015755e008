import SqlChain.Sqlite.Affinity
import SqlChain.Sqlite.Reader

/-!
# Reading expressions

Operators bind by level: `OR` on level 1, `AND` on 2, `NOT` on 3, comparisons
for equality and tests on 4, the other comparisons on 5, bits on 7, sums on 8,
products on 9, concatenation on 10, `COLLATE` on 11 and the signs on 12. All
group to the left. A sign or `NOT` takes what binds tighter than itself, even
where it stands within something that binds tighter still.
-/

namespace SqlChain.Sqlite.Reader

/-- An expression whose names have not been looked up. -/
abbrev Term := Expression ColumnName

/-- An operator with two operands: its level and what it does. -/
structure BinaryOperator where
  level : Nat
  operation : Operation

/-- The operators that are written as symbols. -/
def symbolOperators : List (String × BinaryOperator) :=
  [("=", ⟨4, .compare .eq⟩), ("==", ⟨4, .compare .eq⟩), ("!=", ⟨4, .compare .ne⟩),
    ("<>", ⟨4, .compare .ne⟩), ("<", ⟨5, .compare .lt⟩), ("<=", ⟨5, .compare .le⟩),
    (">", ⟨5, .compare .gt⟩), (">=", ⟨5, .compare .ge⟩), ("&", ⟨7, .arithmetic .bitAnd⟩),
    ("|", ⟨7, .arithmetic .bitOr⟩), ("<<", ⟨7, .arithmetic .shiftLeft⟩),
    (">>", ⟨7, .arithmetic .shiftRight⟩), ("+", ⟨8, .arithmetic .add⟩),
    ("-", ⟨8, .arithmetic .sub⟩), ("*", ⟨9, .arithmetic .mul⟩), ("/", ⟨9, .arithmetic .div⟩),
    ("%", ⟨9, .arithmetic .rem⟩), ("||", ⟨10, .concat⟩), ("->", ⟨10, .omitted "JSON"⟩),
    ("->>", ⟨10, .omitted "JSON"⟩)]

/-- The operator that a token is. -/
def binaryOperator? (t : Token) : Option BinaryOperator :=
  match t.kind with
  | .symbol => symbolOperators.lookup t.source
  | .word =>
      match upperWord t.source with
      | "OR" => some ⟨1, .or⟩
      | "AND" => some ⟨2, .and⟩
      | _ => none
  | _ => none

/-- The comparison `IS`, or a test for null where the right side is the word. -/
def isTest (negated : Bool) (x y : Term) : Term :=
  match y, negated with
  | .literal .null, false => .apply .isNull [x]
  | .literal .null, true => .apply .notNull [x]
  | y, false => .apply (.compare .is) [x, y]
  | y, true => .apply (.compare .isNot) [x, y]

/-- Whether an expression shows on reading that it is false: a zero, or the search
among no values. -/
def isPlainlyFalse : Term → Bool
  | .literal (.integer n) => n == 0
  | .apply (.fixed b) _ => !b
  | _ => false

/-- Join two expressions by an operator. A conjunction with what is plainly false is
zero, whatever the other part says. -/
def joined (op : Operation) (x y : Term) : Term :=
  if op = .and ∧ (isPlainlyFalse x || isPlainlyFalse y) then .literal (.integer 0)
  else .apply op [x, y]

mutual

/-- Whether an expression shows on reading that it is the same in all rows. -/
def isPlainlyConstant : Term → Bool
  | .literal _ => true
  | .parameter _ => true
  | .name c => c.table.isNone && c.quoting = .plain && upperWord c.column ∈ ["TRUE", "FALSE"]
  | .apply (.call _ _) _ => false
  | .apply (.callRows _) _ => false
  | .apply (.matches _ _) _ => false
  | .apply _ xs => arePlainlyConstant xs

/-- Whether expressions show that they are the same in all rows. -/
def arePlainlyConstant : List Term → Bool
  | [] => true
  | x :: xs => isPlainlyConstant x && arePlainlyConstant xs

end

/-- A search among values. Nothing is among none, whatever it is, and a search for one
constant is a comparison. -/
def searchTest (negated : Bool) (x : Term) (items : List Term) : Term :=
  match items with
  | [] => .apply (.fixed negated) []
  | [y] =>
      if isPlainlyConstant y then
        let test : Term := .apply (.compare .eq) [x, .apply .plus [y]]
        if negated then .apply .not [test] else test
      else .apply (.isIn negated) [x, y]
  | items => .apply (.isIn negated) (x :: items)

/-- The pattern test that a word names: an operation, or a call with the pattern
first. -/
def patternTest (word : String) (negated : Bool) (operands : List Term) : Term :=
  match upperWord word, operands.length with
  | "LIKE", _ => .apply (.matches .like negated) operands
  | "GLOB", 2 => .apply (.matches .glob negated) operands
  | _, _ =>
      let call : Term := .apply (.call word false) (patternSwapped operands)
      if negated then .apply .not [call] else call

/-- Whether the token is a word for a pattern test. -/
def isPatternWord (t : Token) : Bool :=
  ["LIKE", "GLOB", "REGEXP", "MATCH"].any fun word => isKeyword word t

/-- Whether a query of its own starts here. -/
def startsQuery (t : Token) : Bool := ["SELECT", "VALUES", "WITH"].any fun word => isKeyword word t

/-- What is left out of the language. -/
def leaveOut {α : Type} (what : String) : Reader α := throw (.unsupported what)

/-! ## Literals -/

/-- The digits of a numeral without their separators, each of which has to stand
between two digits. The text of the fault is the numeral as far as the
separators have been taken out of it. -/
def withoutSeparators (source : List Char) : List Char × Option (List Char) :=
  let isDigit := if isHexNumeral source then isHexDigit else Char.isDigit
  go isDigit source '_' source []
where
  /-- Go over the characters; `before` is the one before them. -/
  go (isDigit : Char → Bool) (source : List Char) (before : Char) :
      List Char → List Char → List Char × Option (List Char)
    | [], out => (out.reverse, none)
    | c :: rest, out =>
        if c = '_' then
          let (digits, fault) := go isDigit source c rest out
          let good := isDigit before && rest.head?.any isDigit
          (digits, fault.or (if good then none else some (out.reverse ++ source.drop out.length)))
        else go isDigit source c rest (c :: out)

/-- A numeral as an expression. One too large for an integer stays as it is
written, since a sign in front may still make it fit. -/
def numeral (source : List Char) : Term :=
  if isHexNumeral source then
    match hexInteger? source with
    | some n => .literal (.integer n)
    | none => .apply (.largeNumeral (String.ofList source)) []
  else if source.all Char.isDigit then
    match Word.int64? (decimalValue source) with
    | some n => .literal (.integer n)
    | none => .apply (.largeNumeral (String.ofList source)) []
  else .literal (.real (realOfText source).value)

/-- An expression with a minus sign in front. The sign belongs to a numeral that is no
integer without it. -/
def negated : Term → Term
  | .literal (.real x) => .literal (.real x.neg)
  | .apply (.largeNumeral s) [] =>
      if !isHexNumeral s.toList ∧ -(decimalValue s.toList : Int) = Word.minInt64 then
        .literal (.integer (Int64.ofInt Word.minInt64))
      else .apply .negate [.apply (.largeNumeral s) []]
  | x => .apply .negate [x]

/-! ## Types -/

/-- The words of a type. -/
def typeWords : Nat → Reader Unit
  | 0 => pure ()
  | fuel + 1 => do
      if let some _ ← acceptLooseName then typeWords fuel

/-- A number with or without a sign. -/
def signedNumber : Reader String := do
  let sign := if ← acceptSymbol "-" then "-" else ""
  if sign.isEmpty then let _ ← acceptSymbol "+"
  let t ← peek
  if t.kind ≠ .number then unexpected
  skip
  return sign ++ t.source

/-- The type of a cast, as the affinity that it stands for. -/
def typeName : Reader Affinity := do
  let start := (← get).rest
  typeWords start.length
  if (← get).rest.length < start.length then
    if ← acceptSymbol "(" then
      let _ ← signedNumber
      if ← acceptSymbol "," then let _ ← signedNumber
      expectSymbol ")"
  return Affinity.ofType (sourceBetween start (← get).rest)

/-! ## Expressions -/

/-- A name with the tokens in front of points before it. -/
def qualified (first : String) (quoting : Quoting) : Reader ColumnName := do
  unless ← acceptSymbol "." do return ⟨none, first, quoting⟩
  let second ← name
  if ← acceptSymbol "." then return ⟨some ⟨some first, second⟩, ← name, quoting⟩
  return ⟨some ⟨none, first⟩, second, quoting⟩

/-- Whether a part after a call makes a window of it. -/
def windowFollows : Reader Bool := do
  let first ← peek
  let second ← peekSecond
  if isKeyword "FILTER" first then return isSymbolToken "(" second
  if isKeyword "OVER" first then
    return isSymbolToken "(" second || (nameOf? second).isSome
  return false

mutual

/-- An expression of operators from a level on. -/
def expressionAt : Nat → Nat → Reader Term
  | 0, _ => throw .tooDeep
  | fuel + 1, level => do goOn fuel level (← operand fuel)

/-- Go on with an expression by the operators from a level on. -/
def goOn : Nat → Nat → Term → Reader Term
  | 0, _, _ => throw .tooDeep
  | fuel + 1, level, x => do
      let t ← peek
      match binaryOperator? t with
      | some operator =>
          if operator.level < level then return x
          skip
          let y ← expressionAt fuel (operator.level + 1)
          goOn fuel level (joined operator.operation x y)
      | none =>
          if isKeyword "COLLATE" t && level ≤ 11 then
            skip
            match ← acceptLooseName with
            | some collation => goOn fuel level (.apply (.collate collation) [x])
            | none => unexpected
          else if 4 < level then return x
          else if ← acceptKeyword "ISNULL" then goOn fuel level (.apply .isNull [x])
          else if ← acceptKeyword "NOTNULL" then goOn fuel level (.apply .notNull [x])
          else if ← acceptKeyword "IS" then
            let negated ← acceptKeyword "NOT"
            if ← acceptKeyword "DISTINCT" then
              expectKeyword "FROM"
              let y ← expressionAt fuel 5
              goOn fuel level (isTest (!negated) x y)
            else
              let y ← expressionAt fuel 5
              goOn fuel level (isTest negated x y)
          else if ← acceptKeyword "NOT" then
            if ← acceptKeyword "NULL" then goOn fuel level (.apply .notNull [x])
            else goOn fuel level (← test fuel true x)
          else if isPatternWord t || isKeyword "BETWEEN" t || isKeyword "IN" t then
            goOn fuel level (← test fuel false x)
          else return x

/-- The rest of a test for a pattern, a range or a list. -/
def test : Nat → Bool → Term → Reader Term
  | 0, _, _ => throw .tooDeep
  | fuel + 1, negated, x => do
      let t ← peek
      if isPatternWord t then
        skip
        let pattern ← expressionAt fuel 5
        if ← acceptKeyword "ESCAPE" then
          let escape ← expressionAt fuel 5
          return patternTest t.source negated [x, pattern, escape]
        return patternTest t.source negated [x, pattern]
      if ← acceptKeyword "BETWEEN" then
        let low ← expressionAt fuel 3
        let low ← if isKeyword "OR" (← peek) then goOn fuel 1 low else pure low
        expectKeyword "AND"
        let high ← expressionAt fuel 5
        return .apply (.between negated) [x, low, high]
      if ← acceptKeyword "IN" then
        if ← acceptSymbol "(" then
          if startsQuery (← peek) then leaveOut "a query in a condition"
          let items ← arguments fuel
          expectSymbol ")"
          return searchTest negated x items
        let _ ← name
        if ← acceptSymbol "." then let _ ← name
        if ← acceptSymbol "(" then
          let _ ← arguments fuel
          expectSymbol ")"
        return .apply (.omitted "a table in a condition") [x]
      unexpected

/-- Expressions separated by commas, perhaps none, up to a closing bracket. -/
def arguments : Nat → Reader (List Term)
  | 0 => throw .tooDeep
  | fuel + 1 => do
      if isSymbolToken ")" (← peek) then return []
      expressions fuel

/-- One or more expressions separated by commas. -/
def expressions : Nat → Reader (List Term)
  | 0 => throw .tooDeep
  | fuel + 1 => do
      let x ← expressionAt fuel 1
      if ← acceptSymbol "," then return x :: (← expressions fuel)
      return [x]

/-- The rest of a call after its opening bracket. -/
def callAfter : Nat → String → Reader Term
  | 0, _ => throw .tooDeep
  | fuel + 1, function => do
      let x : Term ←
        if ← acceptSymbol "*" then
          expectSymbol ")"
          pure (.apply (.callRows function) [])
        else
          let distinct ← acceptKeyword "DISTINCT"
          unless distinct do let _ ← acceptKeyword "ALL"
          let xs ← if isKeyword "ORDER" (← peek) then pure [] else arguments fuel
          if ← acceptKeyword "ORDER" then
            expectKeyword "BY"
            leaveOut "an ordered call"
          expectSymbol ")"
          if maxOperands < xs.length then blame (.tooManyOperands function)
          pure (.apply (.call function distinct) xs)
      if ← windowFollows then leaveOut "a window"
      return x

/-- The branches of a case, and the alternative if there is one. -/
def branches : Nat → Reader (List Term × Bool)
  | 0 => throw .tooDeep
  | fuel + 1 => do
      expectKeyword "WHEN"
      let condition ← expressionAt fuel 1
      expectKeyword "THEN"
      let value ← expressionAt fuel 1
      if isKeyword "WHEN" (← peek) then
        let (rest, alternative) ← branches fuel
        return (condition :: value :: rest, alternative)
      if ← acceptKeyword "ELSE" then
        let other ← expressionAt fuel 1
        expectKeyword "END"
        return ([condition, value, other], true)
      expectKeyword "END"
      return ([condition, value], false)

/-- What starts with a word. -/
def worded : Nat → Token → Reader Term
  | 0, _ => throw .tooDeep
  | fuel + 1, t => do
      let word := upperWord t.source
      if word = "NULL" then
        skip
        return .literal .null
      if word = "NOT" then
        skip
        return .apply .not [← expressionAt fuel 4]
      if word = "CASE" then
        skip
        let base ← if isKeyword "WHEN" (← peek) then pure []
          else pure [← expressionAt fuel 1]
        let (rest, alternative) ← branches fuel
        return .apply (.case (!base.isEmpty) alternative) (base ++ rest)
      if word = "CAST" then
        skip
        expectSymbol "("
        let x ← expressionAt fuel 1
        expectKeyword "AS"
        let affinity ← typeName
        expectSymbol ")"
        return .apply (.cast affinity) [x]
      if word = "EXISTS" then
        skip
        expectSymbol "("
        if startsQuery (← peek) then leaveOut "a query in a condition"
        unexpected
      if word ∈ ["RAISE", "CURRENT_DATE", "CURRENT_TIME", "CURRENT_TIMESTAMP"] then
        skip
        if word = "RAISE" then expectSymbol "("
        leaveOut word
      let first ← name
      if ← acceptSymbol "(" then return ← callAfter fuel first
      return .name (← qualified first .plain)

/-- An expression without operators at its end. -/
def operand : Nat → Reader Term
  | 0 => throw .tooDeep
  | fuel + 1 => do
      let t ← peek
      match t.kind with
      | .word => worded fuel t
      | .quoted first double =>
          skip
          if ← acceptSymbol "(" then return ← callAfter fuel first
          return .name (← qualified first (if double then .double else .other))
      | .string s =>
          skip
          if isSymbolToken "." (← peek) then return .name (← qualified s .other)
          return .literal (.text s)
      | .blob bytes =>
          skip
          return .literal (.blob bytes)
      | .number =>
          skip
          return numeral t.source.toList
      | .separatedNumber =>
          skip
          let (digits, fault) := withoutSeparators t.source.toList
          if let some text := fault then blame (.unrecognizedToken (String.ofList text))
          return numeral digits
      | .parameter number =>
          skip
          if number = 0 then blame .parameterNumber
          if maxParameter < number then blame .tooManyParameters
          return .parameter number
      | .symbol =>
          if ← acceptSymbol "-" then return negated (← expressionAt fuel 12)
          if ← acceptSymbol "+" then return .apply .plus [← expressionAt fuel 12]
          if ← acceptSymbol "~" then return .apply .complement [← expressionAt fuel 12]
          expectSymbol "("
          if startsQuery (← peek) then leaveOut "a query in an expression"
          let xs ← expressions fuel
          expectSymbol ")"
          match xs with
          | [x] => return x
          | xs => return .apply .row xs
      | _ => unexpected

end

/-- The deepest nesting of operations that is accepted. -/
def maxDepth : Nat := 1000

/-- An expression. -/
def expression : Reader Term := do
  let x ← expressionAt (8 * (← get).rest.length + 16) 1
  if maxDepth < x.depth then blame .tooDeep
  return x

end SqlChain.Sqlite.Reader
