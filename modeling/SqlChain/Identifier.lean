import SqlChain.Text.Blank

/-!
# The grammars of text that may be inlined

Text that is written into a statement unquoted has to be read as nothing but
names. A name is ASCII: a letter or an underscore, then letters, digits and
underscores. An identifier is a name, or a name qualified by one more name or a
star. On top of these stand the two lists that an inlining query writes, the
columns of GROUP BY and a term of ORDER BY, and the character set of HAVING.

Each recogniser takes as much as it can from the front and hands on the rest.
That loses nothing: what may follow a name cannot continue it.
-/

namespace SqlChain.Identifier

open Text (isBlank skipBlanks)

/-- What a name starts with. -/
def isNameStart (c : Char) : Bool := c.isAlpha || c == '_'

/-- What a name goes on with. -/
def isNamePart (c : Char) : Bool := c.isAlphanum || c == '_'

/-- The rest after a name. -/
def afterName? : List Char → Option (List Char)
  | c :: rest => if isNameStart c then some (rest.dropWhile isNamePart) else none
  | [] => none

/-- The rest after an identifier. -/
def afterIdentifier? (cs : List Char) : Option (List Char) :=
  match afterName? cs with
  | some ('.' :: '*' :: rest) => some rest
  | some ('.' :: rest) => afterName? rest
  | other => other

/-- Whether the text is a name. -/
def isName (s : String) : Bool := afterName? s.toList == some []

/-- Whether the text is an identifier. -/
def isIdentifier (s : String) : Bool := afterIdentifier? s.toList == some []

/-- Whether a list of identifiers goes on in this way, after one of them:
blanks, then the end or a comma and another identifier. `fuel` bounds the
number of commas. -/
def listGoesOn : Nat → List Char → Bool
  | 0, _ => false
  | fuel + 1, cs =>
      match skipBlanks cs with
      | [] => true
      | ',' :: rest =>
          match afterIdentifier? (skipBlanks rest) with
          | some rest => listGoesOn fuel rest
          | none => false
      | _ => false

/-- Whether the text is a list of identifiers separated by commas, with blanks
anywhere around them. -/
def isIdentifierList (s : String) : Bool :=
  match afterIdentifier? (skipBlanks s.toList) with
  | some rest => listGoesOn (rest.length + 1) rest
  | none => false

/-- The letter that a character stands for when case does not matter. Besides
the two cases of the ASCII letters there is the long s. -/
def foldCase (c : Char) : Char := if c = 'ſ' then 's' else c.toLower

/-- Whether the text is a direction of sorting, in any case. -/
def isDirection (cs : List Char) : Bool :=
  cs.map foldCase == ['a', 's', 'c'] || cs.map foldCase == ['d', 'e', 's', 'c']

/-- Whether the text is an identifier with blanks around it, perhaps followed
by blanks and a direction. -/
def isOrderTerm (s : String) : Bool :=
  match afterIdentifier? (skipBlanks s.toList) with
  | none => false
  | some [] => true
  | some (c :: rest) =>
      isBlank c &&
        (let word := Text.trimList rest
         word.isEmpty || isDirection word)

/-- The characters of an inlined HAVING: no quotes, no separator of statements,
no way into a comment, no placeholder. -/
def isHavingPart (c : Char) : Bool :=
  c.isAlphanum || isBlank c || c ∈ ['_', '.', '*', '(', ')', ',', '<', '>', '=', '!', '+', '%']

/-- Whether the text has those characters only, and at least one. -/
def isHavingText (s : String) : Bool := !s.toList.isEmpty && s.toList.all isHavingPart

end SqlChain.Identifier
