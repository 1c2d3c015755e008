import SqlChain.Sqlite.Expression

/-!
# Patterns

Two languages of patterns. In the first, `%` stands for any text and `_` for one
character, letters of ASCII match in both cases, and an escape makes the next
character stand for itself. In the second, `*` and `?` do the same, `[...]`
stands for one character of a set, and case matters. A pattern and a text end
where a NUL stands in them.

A text is matched from its end: for one item of the pattern after another, last
to first, the places are found from which the rest of the text is matched.
-/

namespace SqlChain.Sqlite

/-- An item of a pattern. -/
inductive PatternItem where
  /-- Any text, also an empty one. -/
  | anything
  | anyOne
  /-- The character in either case. -/
  | letter (c : Char)
  /-- The character itself. -/
  | exactly (c : Char)
  /-- A character within one of the ranges, or within none. -/
  | oneOf (negated : Bool) (ranges : List (Char × Char))
  /-- No character at all. -/
  | nothing
deriving DecidableEq, Repr

namespace PatternItem

/-- Whether a single character passes. -/
def passes (c : Char) : PatternItem → Bool
  | .anything => false
  | .anyOne => true
  | .letter a => a.toLower == c.toLower
  | .exactly a => a == c
  | .oneOf negated ranges => ranges.any (fun r => r.1 ≤ c && c ≤ r.2) != negated
  | .nothing => false

/-- For each place in a text, the end included, whether items match from there on,
given the same for the items after the first. -/
def places (item : PatternItem) : List Char → List Bool → List Bool
  | [], after =>
      match item with
      | .anything => [after.head?.getD false]
      | _ => [false]
  | c :: text, after =>
      let later := places item text (after.drop 1)
      let here := match item with
        | .anything => after.head?.getD false || later.head?.getD false
        | item => item.passes c && (after.drop 1).head?.getD false
      here :: later

/-- For each place in a text, whether it is the end. -/
def ends : List Char → List Bool
  | [] => [true]
  | _ :: text => false :: ends text

/-- Whether the items match the whole text. -/
def matchAll (items : List PatternItem) (text : List Char) : Bool :=
  (items.foldr (fun item after => item.places text after) (ends text)).head?.getD false

/-! ## Reading patterns -/

/-- The items of a pattern of the first language. An escape at the end matches
nothing. -/
def ofLike (escape : Option Char) : List Char → List PatternItem
  | [] => []
  | c :: rest =>
      if some c = escape then
        match rest with
        | [] => [.nothing]
        | d :: rest => .letter d :: ofLike escape rest
      else
        (if c = '%' then .anything else if c = '_' then .anyOne else .letter c) ::
          ofLike escape rest

/-- The ranges of a set up to its closing bracket, and the pattern after it;
`none` if nothing closes it. `before` is a character that can start a range. -/
def setRanges (before : Option Char) :
    List Char → Option (List (Char × Char) × List Char)
  | [] => none
  | ']' :: rest => some ([], rest)
  | '-' :: d :: rest =>
      match before with
      | some a =>
          if d = ']' then some ([('-', '-')], rest)
          else (setRanges none rest).map fun (rs, after) => ((a, d) :: rs, after)
      | none => (setRanges (some '-') (d :: rest)).map fun (rs, after) => (('-', '-') :: rs, after)
  | c :: rest => (setRanges (some c) rest).map fun (rs, after) => ((c, c) :: rs, after)

/-- A set after its opening bracket, and the pattern after it. A closing bracket
that comes first belongs to the set. -/
def setOf? (cs : List Char) : Option (PatternItem × List Char) :=
  let (negated, cs) : Bool × List Char := match cs with
    | '^' :: rest => (true, rest)
    | cs => (false, cs)
  let (first, cs) : List (Char × Char) × List Char := match cs with
    | ']' :: rest => ([(']', ']')], rest)
    | cs => ([], cs)
  (setRanges none cs).map fun (ranges, after) => (.oneOf negated (first ++ ranges), after)

/-- The items of a pattern of the second language, at most `fuel` of them. -/
def ofGlob : Nat → List Char → List PatternItem
  | 0, _ => []
  | _ + 1, [] => []
  | fuel + 1, c :: rest =>
      if c = '*' then .anything :: ofGlob fuel rest
      else if c = '?' then .anyOne :: ofGlob fuel rest
      else if c = '[' then
        match setOf? rest with
        | some (item, rest) => item :: ofGlob fuel rest
        | none => [.nothing]
      else .exactly c :: ofGlob fuel rest

end PatternItem

/-- Whether a text matches a pattern. -/
def PatternStyle.test (style : PatternStyle) (escape : Option Char) (pattern text : List Char) :
    Bool :=
  let pattern := pattern.takeWhile (· ≠ '\x00')
  let text := text.takeWhile (· ≠ '\x00')
  let items := match style with
    | .like => PatternItem.ofLike escape pattern
    | .glob => PatternItem.ofGlob pattern.length pattern
  PatternItem.matchAll items text

end SqlChain.Sqlite
