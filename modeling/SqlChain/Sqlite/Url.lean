import SqlChain.Sqlite.FileName
import SqlChain.Text.Quoted

/-!
# Connection addresses

An address names a file and may carry parameters after a question mark. They
are read in order, and the first that is unknown, or has an unknown value, is
refused. Percent signs in the file's name stand for bytes that must be text;
in parameters, where a plus stands for a blank, bytes that are no text are
replaced.
-/

namespace SqlChain.Sqlite

/-- What an address asks for. -/
structure Address where
  file : String
  inMemory : Bool := false
  isReadOnly : Bool := false
  isMade : Bool := false
  isImmutable : Bool := false
  fileSystem : Option String := none
deriving DecidableEq, Repr

/-- Drop a word from the front as often as it stands there. -/
def dropWord (word : List Char) : Nat → List Char → List Char
  | 0, cs => cs
  | fuel + 1, cs =>
      if cs.take word.length = word then dropWord word fuel (cs.drop word.length) else cs

/-- The address without its scheme. -/
def withoutScheme (url : String) : List Char :=
  let n := url.length
  dropWord "sqlite:".toList n (dropWord "sqlite://".toList n url.toList)

namespace Address

/-! ## Parameters -/

/-- A parameter's name or value. -/
def parameterText (cs : List Char) : String :=
  let blanks := cs.map fun c => if c = '+' then ' ' else c
  Text.decodeLossy (Text.percentBytes (Text.encodeUtf8 (String.ofList blanks)))

/-- The parameters, in order. -/
def parametersOf (query : List Char) : List (String × String) :=
  (query.splitOn '&').filterMap fun part =>
    if part.isEmpty then none
    else
      let (name, value) := Text.splitAtMark '=' part
      some (parameterText name, parameterText value)

/-- The fault of a parameter that has an unknown value. -/
def unknownValue (name value : String) : DatabaseError :=
  .badUrl ("unknown value " ++ Text.quoted value ++ " for \x60" ++ name ++ "\x60")

/-- The fault of a parameter that is unknown. -/
def unknownParameter (name : String) : DatabaseError :=
  .badUrl ("unknown query parameter \x60" ++ name ++ "\x60 while parsing connection URL")

/-- What a parameter asks for. -/
def takeParameter (a : Address) (p : String × String) : Except DatabaseError Address :=
  let (name, value) := p
  match name with
  | "mode" =>
      match value with
      | "ro" => .ok { a with isReadOnly := true }
      | "rw" => .ok a
      | "rwc" => .ok { a with isMade := true }
      | "memory" => .ok { a with inMemory := true }
      | _ => .error (unknownValue name value)
  | "cache" =>
      if value = "private" ∨ value = "shared" then .ok a else .error (unknownValue name value)
  | "immutable" =>
      if value = "true" ∨ value = "1" then .ok { a with isImmutable := true }
      else if value = "false" ∨ value = "0" then .ok { a with isImmutable := false }
      else .error (unknownValue name value)
  | "vfs" => .ok { a with fileSystem := some value }
  | _ => .error (unknownParameter name)

/-! ## The address and its file -/

/-- Read the name of a file. -/
def ofFile (cs : List Char) : Except DatabaseError Address :=
  if cs = ":memory:".toList then .ok { file := "file:memory", inMemory := true }
  else
    match Text.decodeUtf8 (Text.percentBytes (Text.encodeUtf8 (String.ofList cs))) with
    | .ok file => .ok { file }
    | .error fault => .error (.badUrl fault.message)

/-- Read an address. -/
def ofUrl (url : String) : Except DatabaseError Address := do
  let (file, query) := Text.splitAtMark '?' (withoutScheme url)
  (parametersOf query).foldlM takeParameter (← ofFile file)

/-- The access that the address asks for. -/
def access (a : Address) : Access :=
  if a.isReadOnly then .read else if a.isMade then .create else .change

/-- The options that the file's name has to carry. -/
def fileOptions (a : Address) : List String :=
  (if a.isImmutable then ["immutable=true"] else []) ++
    a.fileSystem.toList.map ("vfs=" ++ ·)

/-- A text with a percent sign for every byte. -/
def escaped (s : String) : String :=
  String.ofList ((Text.encodeUtf8 s).flatMap fun b => '%' :: Text.hexPadded 2 b.toNat)

/-- The name of the file with the options. -/
def fileName (a : Address) : String :=
  if a.fileOptions.isEmpty then a.file
  else "file:" ++ escaped a.file ++ "?" ++ "&".intercalate a.fileOptions

end Address

/-- Open the database at an address. -/
def openUrl (url : String) : Except DatabaseError Unit := do
  let a ← Address.ofUrl url
  let name := Text.encodeUtf8 a.fileName
  if 0 ∈ name then
    throw (.communication "filename passed to SQLite must not contain nul bytes")
  Except.mapError .engine
    (FileName.ofBytes a.access a.inMemory name >>= FileName.openFile)

end SqlChain.Sqlite
