import SqlChain.Error.Basic
import SqlChain.Value.Json

/-!
# Records

The data of an INSERT or of a SET: columns with their values, in the order in
which the columns were first written, and each column once. Pairs, JSON objects
and data that presents itself all come down to the same sequence of writings.
That no column is there twice is part of what a record is.
-/

namespace SqlChain

/-- Distinct columns and their values. -/
@[ext]
structure Record where
  fields : List (String × Value)
  distinct : (Keyed.keys fields).Nodup
deriving DecidableEq, Repr

namespace Record

/-- No columns. -/
def empty : Record := ⟨[], List.nodup_nil⟩

/-- Write a column: in place if it is there, else at the end. -/
def put (r : Record) (column : String) (value : Value) : Record :=
  ⟨Keyed.put r.fields column value, Keyed.nodup_keys_put column value r.distinct⟩

/-- The columns, in order. -/
def columns (r : Record) : List String := Keyed.keys r.fields

/-- The values, in the order of their columns. -/
def values (r : Record) : List Value := Keyed.values r.fields

/-- The number of columns. -/
def size (r : Record) : Nat := r.fields.length

/-- Write pairs one after another. -/
def ofPairs (pairs : List (String × Value)) : Record :=
  pairs.foldl (fun r p => r.put p.1 p.2) empty

/-- Write pairs in the order of their names, the last of each name. -/
def ofSorted (pairs : List (String × Value)) : Record where
  fields := (ofPairs pairs).fields.mergeSort fun p q => p.1 ≤ q.1
  distinct := ((List.mergeSort_perm _ _).map Prod.fst).nodup_iff.mpr (ofPairs pairs).distinct

/-- Write the members of a JSON object. -/
def ofMembers (members : List (String × Json)) : Record :=
  ofPairs (members.map fun m => (m.1, Value.ofJson m.2))

/-- Write data that presents itself as a structure or a map. -/
def ofSerial (data : Serial) : Except SerializationError Record :=
  match data.toJson with
  | .error fault => .error (.key fault)
  | .ok (.object members) => .ok (ofMembers members)
  | .ok other => .error (.notRecord other)

@[simp]
theorem length_values (r : Record) : r.values.length = r.columns.length := by
  simp [values, columns, Keyed.values, Keyed.keys]

theorem fields_ofPairs (pairs : List (String × Value)) :
    (ofPairs pairs).fields = Keyed.ofList pairs :=
  (List.foldl_hom Record.fields fun _ _ => rfl).symm

end Record

end SqlChain
