import SqlChain.Proofs.Echo
import SqlChain.Proofs.Encoding
import SqlChain.Proofs.Records

/-!
# Values bound and read again

A client binds values by what they are, the driver tells a type by name for each cell it
gives back, and the row is read by these names. Logs show the same values by a function of
its own. The three agree: what was bound, and is given back with its storage class and
content, is read as logs show it, for rows of any width.

The driver is any. What is assumed of it is what an engine says of columns without a type
to convert to: an argument is kept as what it is, a cell tells the storage class that it
has, and read as that it gives its content. Connections are such a driver, shown for the
query that selects its own parameters.
-/

namespace SqlChain

open Decimal (Binary64)
open Sqlite.Echo (ok_bind)

namespace Driver

variable {σ θ ρ : Type} {d : Driver σ θ ρ} {s : Statement} {before : σ} {row : ρ}
  {names : List String} {values : List Value}

/-! ## What is assumed of a driver -/

/-- What a cell holds: a storage class, and a content of it. -/
inductive Cell where
  | null
  | integer (n : Int64)
  | real (x : Binary64)
  | text (s : String)
  | blob (bytes : List UInt8)
deriving DecidableEq, Repr

/-- What is kept of an argument: itself, unless it is a float that is no number. -/
def Argument.kept : Argument → Cell
  | .noInteger => .null
  | .integer n => .integer n
  | .real x => if x.isNaN then .null else .real x
  | .text s => .text s
  | .bytes bs => .blob bs

/-- The driver shows what a cell holds: no value, or a value by the name of its storage
class, and its content to whoever asks for it as that. -/
def Shows (d : Driver σ θ ρ) (row : ρ) (i : Nat) : Cell → Prop
  | .null => ∃ raw, d.raw row i = .ok raw ∧ raw.isNull = true
  | .integer n => d.raw row i = .ok ⟨false, "INTEGER"⟩ ∧ d.int64 row i = .ok n
  | .real x => d.raw row i = .ok ⟨false, "REAL"⟩ ∧ d.float row i = .ok x
  | .text s => d.raw row i = .ok ⟨false, "TEXT"⟩ ∧ d.text row i = .ok s
  | .blob bytes => d.raw row i = .ok ⟨false, "BLOB"⟩ ∧ d.bytes row i = .ok bytes

/-- The row has columns of these names, numbered from zero on, and its cells hold this. -/
structure Holds (d : Driver σ θ ρ) (row : ρ) (names : List String) (cells : List Cell) : Prop where
  columns : d.columns row = names.mapIdx fun i name => ⟨i, name⟩
  cells : ∀ i cell, cells[i]? = some cell → d.Shows row i cell

/-- The query gives the row as its only one. -/
structure Gives (d : Driver σ θ ρ) (q : θ) (before : σ) (row : ρ) : Prop where
  all : (d.fetchAll q before).1 = .ok [row]
  first : (d.fetchOptional q before).1 = .ok (some row)

/-- The query for a text, after it was handed the arguments in their order. -/
def handed (d : Driver σ θ ρ) (sql : String) (arguments : List Argument) : θ :=
  arguments.foldl d.bind (d.query sql)

/-- The query gives what is kept of the arguments, as a row of columns with the names. -/
def Returns (d : Driver σ θ ρ) (q : θ) (before : σ) (names : List String)
    (arguments : List Argument) : Prop :=
  ∃ row, d.Gives q before row ∧ d.Holds row names (arguments.map Argument.kept)

/-! ## Cells and rows -/

theorem isFinite_of_isNaN {x : Binary64} (h : x.isNaN = true) : x.isFinite = false := by
  rw [Binary64.isNaN, Bool.and_eq_true] at h
  rw [Binary64.isFinite, bne, h.1]
  rfl

theorem readCell_of_isNull {i : Nat} {raw : Raw} (h : d.raw row i = .ok raw)
    (hnull : raw.isNull = true) : d.readCell row i = .ok .null := by
  rw [readCell, ok_bind h, if_pos hnull]
  rfl

/-- What is kept of a value is read as logs show it. -/
theorem Shows.readCell_eq {i : Nat} {v : Value} (h : d.Shows row i (Argument.ofValue v).kept) :
    d.readCell row i = .ok v.toJson := by
  cases v with
  | null =>
      obtain ⟨raw, hraw, hnull⟩ := h
      exact readCell_of_isNull hraw hnull
  | integer n =>
      obtain ⟨hraw, hn⟩ := h
      rw [readCell, ok_bind hraw]
      exact ok_bind hn
  | real x =>
      rw [Argument.ofValue, Argument.kept] at h
      cases hnan : x.isNaN with
      | false =>
          rw [hnan, if_neg Bool.false_ne_true] at h
          obtain ⟨hraw, hx⟩ := h
          rw [readCell, ok_bind hraw]
          exact ok_bind hx
      | true =>
          rw [hnan, if_pos rfl] at h
          obtain ⟨raw, hraw, hnull⟩ := h
          rw [readCell_of_isNull hraw hnull, Value.toJson, Json.real, isFinite_of_isNaN hnan]
          rfl
  | text s =>
      obtain ⟨hraw, hs⟩ := h
      rw [readCell, ok_bind hraw]
      exact ok_bind hs
  | blob bytes =>
      obtain ⟨hraw, hbytes⟩ := h
      rw [readCell, ok_bind hraw]
      exact ok_bind hbytes

/-- Columns are read one after another, each into what was read before it. -/
theorem foldlM_readCell {place : Nat → Nat} (hlength : names.length = values.length)
    (hcells : ∀ i v, values[i]? = some v → d.readCell row (place i) = .ok v.toJson)
    (object : Row) :
    (names.mapIdx fun i name => (⟨place i, name⟩ : Column)).foldlM
        (fun object column =>
          return Keyed.put object column.name (← d.readCell row column.ordinal)) object =
      Except.ok ((names.zip (values.map Value.toJson)).foldl
        (fun object p => Keyed.put object p.1 p.2) object) := by
  induction names generalizing values place object with
  | nil => rfl
  | cons name names ih =>
      obtain ⟨v, values, rfl⟩ := List.exists_cons_of_length_eq_add_one hlength.symm
      rw [List.mapIdx_cons, List.foldlM_cons, hcells 0 v rfl]
      exact ih (Nat.succ.inj hlength) (fun i v hv => hcells (i + 1) v hv) _

/-- The row is the values in JSON, under the names. -/
structure IsRowOf (object : Row) (names : List String) (values : List Value) : Prop where
  /-- Under distinct names the values stand in their order. -/
  distinct : names.Nodup → object = names.zip (values.map Value.toJson)
  /-- A repeated name stands where it does first, -/
  keys : Keyed.keys object = names.eraseDups
  /-- and with the value that it has last. -/
  entry : ∀ name j,
    (name, j) ∈ object ↔ Keyed.LastWritten (names.zip (values.map Value.toJson)) name j

theorem isRowOf_ofList (hlength : names.length = values.length) :
    IsRowOf (Keyed.ofList (names.zip (values.map Value.toJson))) names values := by
  have hnames : (names.zip (values.map Value.toJson)).map Prod.fst = names :=
    List.map_fst_zip (by rw [List.length_map, hlength])
  exact {
    distinct := fun hnodup => Keyed.ofList_of_nodup (by rwa [Keyed.keys, hnames])
    keys := by rw [Keyed.keys_ofList, hnames]
    entry := fun name j => Keyed.mem_ofList_iff }

theorem Holds.readRow_eq (h : d.Holds row names ((values.map Argument.ofValue).map Argument.kept))
    (hlength : names.length = values.length) :
    d.readRow row = .ok (Keyed.ofList (names.zip (values.map Value.toJson))) := by
  rw [readRow, h.columns]
  refine foldlM_readCell hlength (fun i v hv => ?_) []
  have hcell : ((values.map Argument.ofValue).map Argument.kept)[i]? =
      some (Argument.ofValue v).kept := by
    rw [List.getElem?_map, List.getElem?_map, hv]
    rfl
  exact (h.cells i _ hcell).readCell_eq

/-! ## Answers -/

/-- Values are handed over one for one and in their order. -/
theorem queryOf_eq (d : Driver σ θ ρ) (sql : String) (values : List Value) :
    d.queryOf ⟨sql, values⟩ = d.handed sql (values.map Argument.ofValue) :=
  List.foldl_map.symm

/-- The client gives the object as the only row. -/
structure Reads (d : Driver σ θ ρ) (s : Statement) (before : σ) (object : Row) : Prop where
  all : (d.client.answer .all () s before).1 = .ok [object]
  first : (d.client.answer .first () s before).1 = .ok (some object)

theorem Gives.reads {object : Row} (h : d.Gives (d.queryOf s) before row)
    (hrow : d.readRow row = .ok object) : d.Reads s before object := by
  constructor
  case all =>
    have hrows : [row].mapM d.readRow = .ok [object] := by
      rw [List.mapM_cons, hrow]
      rfl
    exact congrArg (Except.mapError Error.database) ((ok_bind h.all).trans hrows)
  case first =>
    have hrow? : (some row).mapM d.readRow = .ok (some object) := by
      rw [Option.mapM_some, hrow]
      rfl
    exact congrArg (Except.mapError Error.database) ((ok_bind h.first).trans hrow?)

theorem Returns.reads (hlength : names.length = values.length)
    (h : d.Returns (d.queryOf s) before names (values.map Argument.ofValue)) :
    d.Reads s before (Keyed.ofList (names.zip (values.map Value.toJson))) := by
  obtain ⟨row, hgives, hholds⟩ := h
  exact hgives.reads (hholds.readRow_eq hlength)

/-- Values that a statement returns as they were handed to the driver are read as the row of
them in JSON, under the names of its columns, whatever they are and however many. So are
values that one statement stores and a later one returns. JSON has null for a float that is
not finite, and an array for bytes. -/
theorem row_round_trip (d : Driver σ θ ρ) {sql : String} {before : σ} {names : List String}
    {values : List Value} (hlength : names.length = values.length)
    (hreturns : d.Returns (d.handed sql (values.map Argument.ofValue)) before names
      (values.map Argument.ofValue)) :
    ∃ object, IsRowOf object names values ∧
      d.Reads ⟨sql, values⟩ before object ∧
      (∀ (write : String) (s : Statement) (first : σ),
        d.Returns (d.queryOf s)
            (d.execute (d.handed write (values.map Argument.ofValue)) first).2 names
            (values.map Argument.ofValue) →
          d.Reads s (d.client.answer .run () ⟨write, values⟩ first).2 object) ∧
      (∀ x, x.isFinite = false → (Value.real x).toJson = .null) ∧
      ∀ bytes, (Value.blob bytes).toJson = .array (bytes.map fun b => .int b.toNat) := by
  refine ⟨_, isRowOf_ofList hlength, ?returned, ?stored, ?infinite, fun bytes => rfl⟩
  case returned =>
    rw [← d.queryOf_eq] at hreturns
    exact hreturns.reads hlength
  case stored =>
    intro write s first hstored
    rw [← d.queryOf_eq] at hstored
    exact hstored.reads hlength
  case infinite =>
    intro x hx
    rw [Value.toJson, Json.real, hx]
    rfl

end Driver

/-! ## Connections -/

namespace Sqlite

open Driver (Argument)

variable {names : List String} {arguments : List Argument}

theorem shows_ofArgument {row : ResultRow} {i : Nat} {name : String} {a : Argument}
    (h : row[i]? = some (name, Datum.ofArgument a)) : Connection.driver.Shows row i a.kept := by
  have hcell : cellAt row i = .ok (.ofArgument a) := by
    rw [cellAt, h]
  have hread {α : Type} (f : Datum → α) : (cellAt row i).map f = .ok (f (.ofArgument a)) := by
    rw [hcell]
    rfl
  cases a with
  | noInteger => exact ⟨_, hread _, rfl⟩
  | integer n => exact ⟨hread _, hread _⟩
  | real x =>
      have hdatum : Datum.ofArgument (.real x) = if x.isNaN then .null else .value (.real x) := rfl
      rw [Argument.kept]
      cases hnan : x.isNaN with
      | false =>
          rw [hnan, if_neg Bool.false_ne_true] at hdatum
          rw [hdatum] at hread
          exact ⟨hread _, hread _⟩
      | true =>
          rw [hnan, if_pos rfl] at hdatum
          rw [hdatum] at hread
          exact ⟨_, hread _, rfl⟩
  | text s =>
      have htext : textAt row i = .ok s := by
        have hbytes : (Datum.ofArgument (.text s)).bytes = Text.encodeUtf8 s := rfl
        rw [textAt, ok_bind hcell, hbytes, Text.decodeUtf8_encodeUtf8]
        rfl
      exact ⟨hread _, htext⟩
  | bytes bs => exact ⟨hread _, hread _⟩

theorem holds_arguments (h : arguments.length = names.length) :
    Connection.driver.Holds (names.zip (arguments.map .ofArgument)) names
      (arguments.map Argument.kept) where
  columns := by
    refine List.ext_getElem ?_ fun i _ _ => ?_
    · simp [Connection.driver, h]
    · simp [Connection.driver]
  cells := by
    intro i cell hi
    obtain ⟨a, ha, rfl⟩ := Option.map_eq_some_iff.mp (List.getElem?_map ▸ hi)
    obtain ⟨name, hname⟩ : ∃ name, names[i]? = some name :=
      ⟨_, List.getElem?_eq_getElem (h ▸ (List.getElem?_eq_some_iff.mp ha).1)⟩
    have hdatum : (arguments.map Datum.ofArgument)[i]? = some (.ofArgument a) := by
      rw [List.getElem?_map, ha]
      rfl
    exact shows_ofArgument (List.getElem?_zip_eq_some.mpr ⟨hname, hdatum⟩)

/-- Lone question marks take the arguments in their order, behind those that were taken
before. -/
theorem bind_replicate (taken arguments : List Argument) :
    Parameters.bind (taken ++ arguments) taken.length (List.replicate arguments.length none) =
      .ok (arguments.map .ofArgument, (taken ++ arguments).length) := by
  induction arguments generalizing taken with
  | nil => rw [List.append_nil]; rfl
  | cons a arguments ih =>
      have hnext : (taken ++ a :: arguments)[taken.length + 1 - 1]? = some a := by simp
      -- the rest is bound with one argument more taken
      have hrest := ih (taken ++ [a])
      rw [List.append_assoc, List.singleton_append, List.length_append, List.length_singleton]
        at hrest
      rw [List.length_cons, List.replicate_succ, Parameters.bind]
      dsimp only
      rw [pure_bind, hnext]
      dsimp only
      rw [hrest]
      rfl

theorem bind_of_prepare {c : Connection} {ts : List Token} {p : Prepared} {definite : Definite}
    {parameters : List Datum} {taken after : Nat} (hprepare : prepare ts = .ok p)
    (hdefinite : Definite.ofCommand c.tables p.command = .ok definite)
    (hbound : Parameters.bind arguments taken p.parameters = .ok (parameters, after)) :
    c.bind arguments taken ts = .ok (definite, parameters, after) := by
  have hread : (prepare ts >>= fun p => return (← Definite.ofCommand c.tables p.command,
      p.parameters)) = Except.ok (definite, p.parameters) :=
    (ok_bind hprepare).trans (ok_bind hdefinite)
  rw [Connection.bind, hread]
  exact ok_bind hbound

theorem handed_eq (sql : String) (arguments : List Argument) :
    Connection.driver.handed sql arguments = (sql, arguments) := by
  rw [Driver.handed]
  induction arguments using List.reverseRecOn with
  | nil => rfl
  | append_singleton arguments a ih =>
      rw [List.foldl_append, ih]
      rfl

/-- The query for its own parameters gives what it took for the arguments, as its only row
and under the names, and changes nothing. -/
theorem execute_query (c : Connection) (h : arguments.length = names.length) (hne : names ≠ [])
    (hmost : names.length ≤ maxColumns) (hnul : ∀ name ∈ names, '\x00' ∉ name.toList)
    (untilRow : Bool) :
    ∃ answers, c.execute (Echo.query names) arguments untilRow = (.ok answers, c) ∧
      answers.rows = [names.zip (arguments.map .ofArgument)] := by
  obtain ⟨ts, selection, q, hstatements, hprepare, hselection, hrun⟩ :=
    Echo.exists_retrieval hne hmost hnul c.tables
  have hbound : Parameters.bind arguments 0 (List.replicate names.length none) =
      .ok (arguments.map .ofArgument, arguments.length) := by
    rw [← h]
    exact bind_replicate [] arguments
  have hdefinite : Definite.ofCommand c.tables (.select selection) = .ok (.retrieval q) := by
    rw [Definite.ofCommand, hselection]
    rfl
  have hbind := bind_of_prepare hprepare hdefinite hbound
  have hcarry : c.carryOut (arguments.map .ofArgument) (.retrieval q) =
      (.ok [names.zip (arguments.map .ofArgument)], c) := by
    rw [Connection.carryOut, hrun _ (by rw [List.length_map, h])]
  refine ⟨Answers.add {} [names.zip (arguments.map .ofArgument)] c, ?_, rfl⟩
  rw [Connection.execute, hstatements, Connection.carryOutAll, hbind]
  dsimp only
  rw [hcarry]
  -- no statement is left, so it makes no difference whether one row was wanted or all
  cases untilRow <;> rfl

theorem returns_query (c : Connection) (h : arguments.length = names.length) (hne : names ≠ [])
    (hmost : names.length ≤ maxColumns) (hnul : ∀ name ∈ names, '\x00' ∉ name.toList) :
    Connection.driver.Returns (Connection.driver.handed (Echo.query names) arguments) c names
      arguments := by
  refine ⟨names.zip (arguments.map .ofArgument), ?_, holds_arguments h⟩
  rw [handed_eq]
  constructor
  case all =>
    obtain ⟨answers, hexecute, hrows⟩ := execute_query c h hne hmost hnul false
    dsimp only [Connection.driver]
    rw [hexecute, ← hrows]
    rfl
  case first =>
    obtain ⟨answers, hexecute, hrows⟩ := execute_query c h hne hmost hnul true
    dsimp only [Connection.driver]
    rw [hexecute]
    show Except.ok answers.rows.head? = _
    rw [hrows]
    rfl

end Sqlite

namespace Driver

/-- An infinity, bytes, a float that is no number and a text, under names of which one is
repeated and one is a quote. -/
theorem row_round_trip_repeated :
    let names := ["n", "x", "b", "n", "\""]
    let values : List Value := [.integer 1, .real ⟨0x7FF0000000000000⟩, .blob [0, 255],
      .real ⟨0x7FF8000000000000⟩, .text "ß"]
    let d := Sqlite.Connection.driver
    let c : Sqlite.Connection := { tables := [] }
    let s : Statement :=
      ⟨"SELECT ? AS \"n\", ? AS \"x\", ? AS \"b\", ? AS \"n\", ? AS \"\"\"\"", values⟩
    names.length = values.length ∧
      ∃ object : Row, (d.client.answer .all () s c).1 = .ok [object] ∧
        (d.client.answer .first () s c).1 = .ok (some object) ∧
        Keyed.keys object = ["n", "x", "b", "\""] ∧ ("n", .null) ∈ object ∧
        ("x", .null) ∈ object ∧ ("b", .array [.int 0, .int 255]) ∈ object ∧
        ("\"", .text "ß") ∈ object := by
  intro names values d c s
  let arguments := values.map Argument.ofValue
  have hlength : names.length = values.length := rfl
  have hsql : Sqlite.Echo.query names = s.sql := by decide
  have hreturns : d.Returns (d.handed (Sqlite.Echo.query names) arguments) c names arguments :=
    Sqlite.returns_query c rfl (List.cons_ne_nil _ _) (by decide) (by decide)
  rw [hsql] at hreturns
  obtain ⟨object, hrow, hreads, -⟩ := row_round_trip d hlength hreturns
  obtain ⟨hall, hfirst⟩ : d.Reads s c object := hreads
  -- each entry with what was written before it and after it
  let members : List (String × Json) := names.zip (values.map Value.toJson)
  refine ⟨hlength, object, hall, hfirst, hrow.keys, (hrow.entry _ _).mpr ?_,
    (hrow.entry _ _).mpr ?_, (hrow.entry _ _).mpr ?_, (hrow.entry _ _).mpr ?_⟩
  · exact ⟨members.take 3, members.drop 4, rfl, by decide⟩
  · exact ⟨members.take 1, members.drop 2, rfl, by decide⟩
  · exact ⟨members.take 2, members.drop 3, rfl, by decide⟩
  · exact ⟨members.take 4, members.drop 5, rfl, by decide⟩

end Driver

end SqlChain
