import SqlChain.Text.Blank
import SqlChain.Text.Hex

/-!
# Tokens of SQLite's language

Blanks and comments divide the text; what is left falls into words, quoted
names, literals, parameters and symbols. A token keeps the text it was written
as, since that is what a syntax error names, and the gap in front of it, since
the text of an expression is the name of its column. What starts no token is an
illegal one, and is a fault only where the reader comes to it. The list ends
with a token of its own.
-/

namespace SqlChain.Sqlite

/-- What a token is. -/
inductive TokenKind where
  | word
  | quoted (name : String) (double : Bool)
  | string (value : String)
  | blob (bytes : List UInt8)
  /-- A numeral without separators between its digits. -/
  | number
  /-- A numeral with them. -/
  | separatedNumber
  | parameter (number : Nat)
  | symbol
  | illegal
  | finish
deriving DecidableEq, Repr

/-- A token, the text it was written as and the blanks and comments before it. -/
structure Token where
  kind : TokenKind
  source : String
  gap : String := ""
deriving DecidableEq, Repr

/-! ## Characters -/

/-- The blanks that can come first in a gap. -/
def isSpace (c : Char) : Bool := c = ' ' || c = '\t' || c = '\n' || c = '\x0c' || c = '\r'

/-- The blanks: those that start a gap, and the vertical tab, which only goes on
with one. -/
def isWideSpace (c : Char) : Bool := isSpace c || c = '\x0b'

/-- A byte order mark is a blank where a token could start. -/
def byteOrderMark : Char := '\ufeff'

/-- What a word starts with; every character beyond ASCII is a letter. -/
def isWordStart (c : Char) : Bool := c.isAlpha || c = '_' || 0x80 ≤ c.toNat

/-- What a word goes on with. -/
def isWordPart (c : Char) : Bool := isWordStart c || c.isDigit || c = '$'

/-- Whether the character is a hexadecimal digit. -/
def isHexDigit (c : Char) : Bool := (Text.hexValue? c).isSome

/-- The symbols of two characters. -/
def isPair (a b : Char) : Bool :=
  String.ofList [a, b] ∈ ["==", "!=", "<>", "<=", ">=", "||", "<<", ">>", "->"]

/-- The symbols of one character. -/
def isSymbol (c : Char) : Bool :=
  c ∈ ['(', ')', ',', '.', ';', '*', '=', '<', '>', '+', '-', '/', '%', '&', '|', '~']

/-! ## Gaps -/

/-- The length of a comment that a star and a slash close, after its first three
characters, of which `last` is the third. One that is not closed ends with the
text. -/
def commentLength (last : Char) : List Char → Nat
  | [] => 0
  | c :: rest => if last = '*' ∧ c = '/' then 1 else commentLength c rest + 1

/-- The length of the gap part that starts the text; zero if none does. -/
def gapLength : List Char → Nat
  | '-' :: '-' :: rest => 2 + (rest.takeWhile (· ≠ '\n')).length
  | '/' :: '*' :: c :: rest => 3 + commentLength c rest
  | c :: rest =>
      if isSpace c then 1 + (rest.takeWhile isWideSpace).length
      else if c = byteOrderMark then 1
      else 0
  | [] => 0

/-! ## Lengths of tokens -/

/-- The length of a text up to a closing mark, which counts twice for itself;
`none` if nothing closes it. -/
def quotedLength? (close : Char) : List Char → Option Nat
  | [] => none
  | [c] => if c = close then some 1 else none
  | c :: d :: rest =>
      if c = close then
        if d = close then (quotedLength? close rest).map (· + 2) else some 1
      else (quotedLength? close (d :: rest)).map (· + 1)

/-- The text between marks, with each doubled mark once. -/
def unquoted (close : Char) : List Char → List Char
  | [] => []
  | [c] => if c = close then [] else [c]
  | c :: d :: rest =>
      if c = close ∧ d = close then close :: unquoted close rest
      else if c = close then [] else c :: unquoted close (d :: rest)

/-- The length of a run of digits, which may have separators between them. -/
def runLength (isDigit : Char → Bool) (cs : List Char) : Nat :=
  (cs.takeWhile fun c => isDigit c || c = '_').length

/-- The length of an exponent, if digits follow its mark. -/
def exponentLength : List Char → Nat
  | e :: s :: rest =>
      if e = 'e' ∨ e = 'E' then
        if s.isDigit then 1 + runLength Char.isDigit (s :: rest)
        else if (s = '+' ∨ s = '-') ∧ rest.head?.any Char.isDigit then
          2 + runLength Char.isDigit rest
        else 0
      else 0
  | _ => 0

/-- The length of a fraction with its point. -/
def fractionLength : List Char → Nat
  | '.' :: rest => 1 + runLength Char.isDigit rest
  | _ => 0

/-- The length of a numeral. -/
def numeralLength (cs : List Char) : Nat :=
  match cs with
  | '0' :: x :: d :: rest =>
      if (x = 'x' ∨ x = 'X') ∧ isHexDigit d then 3 + runLength isHexDigit rest
      else decimalLength cs
  | _ => decimalLength cs
where
  /-- The length of a decimal numeral. -/
  decimalLength (cs : List Char) : Nat :=
    let whole := runLength Char.isDigit cs
    let fraction := fractionLength (cs.drop whole)
    whole + fraction + exponentLength (cs.drop (whole + fraction))

/-- The length of a bracketed part of a parameter's name, after the opening
bracket, and whether the part is closed. -/
def bracketLength : List Char → Nat × Bool
  | [] => (0, false)
  | c :: rest =>
      if c = ')' then (1, true)
      else if isWideSpace c then (0, false)
      else let (n, closed) := bracketLength rest; (n + 1, closed)

/-- The length of a parameter's name after its mark, whether the name has a
character of a word, and whether it is well formed. Two colons are part of a
name, and a part in brackets ends it. -/
def parameterLength (named : Bool) : List Char → Nat × Bool
  | c :: rest =>
      if isWordPart c then
        let (n, ok) := parameterLength true rest
        (n + 1, ok)
      else if c = '(' ∧ named then
        let (n, closed) := bracketLength rest
        (n + 1, closed)
      else if c = ':' then
        match rest with
        | ':' :: rest =>
            let (n, ok) := parameterLength named rest
            (n + 2, ok)
        | _ => (0, named)
      else (0, named)
  | [] => (0, named)

/-! ## Tokens -/

/-- The first `n` characters as a token of the kind. -/
def tokenOf (kind : TokenKind) (cs : List Char) (n : Nat) : Token :=
  ⟨kind, String.ofList (cs.take n), ""⟩

/-- A token between marks, or an illegal one if nothing closes it. -/
def quotedToken (close : Char) (kind : String → TokenKind) (cs : List Char) : Token :=
  match quotedLength? close (cs.drop 1) with
  | some n => tokenOf (kind (String.ofList (unquoted close (cs.drop 1)))) cs (n + 1)
  | none => tokenOf .illegal cs cs.length

/-- A name between square brackets. The first closing bracket ends it. -/
def bracketedToken (cs : List Char) : Token :=
  let name := (cs.drop 1).takeWhile (· ≠ ']')
  if name.length + 1 < cs.length then
    tokenOf (.quoted (String.ofList name) false) cs (name.length + 2)
  else tokenOf .illegal cs cs.length

/-- Bytes as hexadecimal digits between quotes. -/
def blobToken (cs : List Char) : Token :=
  let digits := (cs.drop 2).takeWhile isHexDigit
  let closed := (cs.drop (digits.length + 2)).head? = some '\''
  match Text.bytesOfHex? digits with
  | some bytes =>
      if closed then tokenOf (.blob bytes) cs (digits.length + 3) else skipped
  | none => skipped
where
  /-- What is no such text is illegal up to its closing quote. -/
  skipped : Token := tokenOf .illegal cs (((cs.drop 2).takeWhile (· ≠ '\'')).length + 3)

/-- A numeral. A word's character after it makes it illegal. -/
def numeralToken (cs : List Char) : Token :=
  let n := numeralLength cs
  let tail := ((cs.drop n).takeWhile isWordPart).length
  let kind : TokenKind :=
    if 0 < tail then .illegal
    else if '_' ∈ cs.take n then .separatedNumber
    else .number
  tokenOf kind cs (n + tail)

/-- A parameter with a name. It is numbered later. -/
def namedParameter (cs : List Char) : Token :=
  let (n, ok) := parameterLength false (cs.drop 1)
  tokenOf (if ok then .parameter 0 else .illegal) cs (n + 1)

/-- The symbol that starts a text, or an illegal token. -/
def symbolToken (cs : List Char) : Token :=
  match cs with
  | '-' :: '>' :: '>' :: _ => tokenOf .symbol cs 3
  | c :: d :: _ =>
      if isPair c d then tokenOf .symbol cs 2
      else tokenOf (if isSymbol c then .symbol else .illegal) cs 1
  | [c] => tokenOf (if isSymbol c then .symbol else .illegal) cs 1
  | [] => tokenOf .illegal cs 0

/-- The token that starts a text, which starts with no gap. -/
def readToken (cs : List Char) : Token :=
  match cs with
  | c :: rest =>
      if (c = 'x' ∨ c = 'X') ∧ rest.head? = some '\'' then blobToken cs
      else if isWordStart c then tokenOf .word cs (1 + (rest.takeWhile isWordPart).length)
      else if c.isDigit || (c = '.' && rest.head?.any Char.isDigit) then numeralToken cs
      else if c = '?' then tokenOf (.parameter 0) cs (1 + (rest.takeWhile Char.isDigit).length)
      else if c = '\'' then quotedToken '\'' .string cs
      else if c = '"' then quotedToken '"' (.quoted · true) cs
      else if c = '\x60' then quotedToken '\x60' (.quoted · false) cs
      else if c = '[' then bracketedToken cs
      else if c ∈ ['@', '#', ':', '$'] then namedParameter cs
      else symbolToken cs
  | [] => tokenOf .finish cs 0

/-- The tokens of a text, in at most as many steps as it has characters. The gap
so far stands in reverse. -/
def tokensFrom : Nat → List Char → List Char → List Token
  | 0, gap, _ => [⟨.finish, "", String.ofList gap.reverse⟩]
  | _ + 1, gap, [] => [⟨.finish, "", String.ofList gap.reverse⟩]
  | fuel + 1, gap, cs =>
      let n := gapLength cs
      if 0 < n then tokensFrom fuel ((cs.take n).reverse ++ gap) (cs.drop n)
      else
        let token := readToken cs
        { token with gap := String.ofList gap.reverse } ::
          tokensFrom fuel [] (cs.drop (max 1 token.source.length))

/-- The tokens of a text. A text ends where a NUL stands in it. -/
def tokens (sql : String) : List Token :=
  let cs := sql.toList.takeWhile (· ≠ '\x00')
  tokensFrom (cs.length + 1) [] cs

/-! ## Step by step -/

section

variable {fuel : Nat} {gap rest source : List Char}

/-- A blank joins the gap. Another one right behind it would have to join with it. -/
theorem tokensFrom_blank (h : ∀ c, rest.head? = some c → isWideSpace c = false) :
    tokensFrom (fuel + 1) gap (' ' :: rest) = tokensFrom fuel (' ' :: gap) rest := by
  have hwide : rest.takeWhile isWideSpace = [] := by
    cases rest with
    | nil => rfl
    | cons c rest => exact List.takeWhile_cons_of_neg (by simp [h c rfl])
  have hlength : gapLength (' ' :: rest) = 1 := by
    show 1 + (rest.takeWhile isWideSpace).length = 1
    rw [hwide]
    rfl
  show (if 0 < gapLength (' ' :: rest) then _ else _) = _
  rw [hlength]
  rfl

/-- A token takes its characters and the gap so far. -/
theorem tokensFrom_token (kind : TokenKind) (hgap : gapLength (source ++ rest) = 0)
    (hread : readToken (source ++ rest) = ⟨kind, String.ofList source, ""⟩) (hne : source ≠ []) :
    tokensFrom (fuel + 1) gap (source ++ rest) =
      ⟨kind, String.ofList source, String.ofList gap.reverse⟩ :: tokensFrom fuel [] rest := by
  obtain ⟨c, more, rfl⟩ := List.exists_cons_of_ne_nil hne
  have hlength : max 1 (String.ofList (c :: more)).length = (c :: more).length := by
    rw [String.length_ofList, List.length_cons]
    omega
  show (if 0 < gapLength (c :: more ++ rest) then _ else _) = _
  rw [if_neg (by omega), hread]
  dsimp only
  rw [hlength, List.drop_left]

end

end SqlChain.Sqlite
