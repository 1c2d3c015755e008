import SqlChain.Error.Database
import SqlChain.Text.Percent

/-!
# File names

A name that starts with `file:` is an address of its own: a host, which must be
this one, a path, and options after a question mark. A percent sign stands for a
byte, and a zero byte ends the part it stands in. Every option is looked at in
order; those that are not known are passed over. A database in memory, or one
that has no name, can always be opened; there are no files here to open another.
-/

namespace SqlChain.Sqlite

/-- How a file may be opened: to be read, to be changed too, or to be made. -/
inductive Access where
  | read
  | change
  | create
deriving DecidableEq, Repr

/-- The flags of an access; one with more of them may do more. -/
def Access.flags : Access → Nat
  | .read => 1
  | .change => 2
  | .create => 6

/-- A database to be opened. -/
structure FileName where
  path : List UInt8
  access : Access
  inMemory : Bool
  fileSystem : String := "unix"
deriving DecidableEq, Repr

/-- The systems that keep files. -/
def fileSystems : List String := ["unix", "unix-none", "unix-dotfile", "unix-excl", "memdb"]

namespace FileName

/-- The bytes of a part: percent signs are read, and a zero byte ends it. -/
def partBytes (part : List UInt8) : List UInt8 := (Text.percentBytes part).takeWhile (· ≠ 0)

/-- The options of an address, in order. One without a name is none. -/
def optionsOf (query : List UInt8) : List (String × String) :=
  (query.splitOn 0x26).filterMap fun part =>
    let (name, value) := Text.splitAtMark 0x3D part
    let name := Text.decodeLossy (partBytes name)
    if name.isEmpty then none else some (name, Text.decodeLossy (partBytes value))

/-- What an option asks for. No more may be asked for than the access that there is;
in memory all may. -/
def takeOption (f : FileName) : String × String → Except EngineError FileName
  | ("vfs", name) => .ok { f with fileSystem := name }
  | ("cache", mode) =>
      if mode = "shared" ∨ mode = "private" then .ok f else .error (.noSuchMode "cache" mode)
  | ("mode", mode) =>
      let limited (asked : Access) :=
        if !f.inMemory && f.access.flags < asked.flags then
          Except.error (EngineError.modeNotAllowed "access" mode)
        else .ok { f with access := asked, inMemory := false }
      match mode with
      | "memory" => .ok { f with inMemory := true }
      | "ro" => limited .read
      | "rw" => limited .change
      | "rwc" => limited .create
      | _ => .error (.noSuchMode "access" mode)
  | _ => .ok f

/-- The path of an address without the host. -/
def withoutHost : List UInt8 → Except EngineError (List UInt8)
  | 0x2F :: 0x2F :: rest =>
      let host := rest.takeWhile (· ≠ 0x2F)
      if host.isEmpty ∨ host = Text.encodeUtf8 "localhost" then .ok (rest.drop host.length)
      else .error (.foreignHost (Text.decodeLossy host))
  | path => .ok path

/-- The database that a name stands for. -/
def ofBytes (access : Access) (inMemory : Bool) (name : List UInt8) :
    Except EngineError FileName := do
  let scheme := Text.encodeUtf8 "file:"
  if name.take scheme.length ≠ scheme then return { path := name, access, inMemory }
  let rest ← withoutHost (name.drop scheme.length)
  let (path, query) := Text.splitAtMark 0x3F (rest.takeWhile (· ≠ 0x23))
  (optionsOf query).foldlM takeOption { path := partBytes path, access, inMemory }

/-- Open the database. -/
def openFile (f : FileName) : Except EngineError Unit :=
  if f.fileSystem ∉ fileSystems then .error (.noSuchVfs f.fileSystem)
  else if f.inMemory ∨ f.path.isEmpty ∨ f.path = Text.encodeUtf8 ":memory:" ∨
      f.fileSystem = "memdb" then .ok ()
  else .error .cannotOpen

end FileName

end SqlChain.Sqlite
