import Mathlib.Data.List.Sort
import Mathlib.Data.String.Basic
import SqlChain.Proofs.Foreign

/-!
# Columns and their values

The data of an INSERT or of a SET comes as pairs, as a JSON object, as a sorted map or
as a structure that presents itself. Whichever way it comes, entries are written one
after another: a column stands where it was first written, and has the value that was
written last.

The compiler takes a record apart. The columns go to the text and the values to the
parameters, and only their positions bring them together again, so the text must have
a placeholder for each column and the parameters must begin with the values in the
order of the columns. They do, for an INSERT and for an UPDATE.

In one respect the two differ. An INSERT into no columns is refused; an UPDATE is asked
whether it was told what to set, and not whether that is anything.
-/

namespace SqlChain

/-! ## Writings one after another -/

namespace Keyed

variable {κ ν : Type} {entries : List (κ × ν)} {k : κ} {v : ν}

/-- `v` was written under `k`, and nothing was written under `k` after it. -/
def LastWritten (pairs : List (κ × ν)) (k : κ) (v : ν) : Prop :=
  ∃ front back, pairs = front ++ (k, v) :: back ∧ k ∉ keys back

theorem lastWritten_concat_iff {pairs : List (κ × ν)} {p : κ × ν} :
    LastWritten (pairs ++ [p]) k v ↔ (k, v) = p ∨ LastWritten pairs k v ∧ k ≠ p.1 := by
  constructor
  · rintro ⟨front, back, heq, hk⟩
    rcases List.eq_nil_or_concat back with rfl | ⟨back, last, rfl⟩
    · obtain ⟨-, hlast⟩ := List.append_inj' heq rfl
      exact .inl (List.singleton_inj.mp hlast).symm
    · rw [List.concat_eq_append, ← List.cons_append, ← List.append_assoc] at heq
      obtain ⟨hpairs, hlast⟩ := List.append_inj' heq rfl
      rw [List.concat_eq_append, keys, List.map_append, List.mem_append, not_or] at hk
      cases hlast
      exact .inr ⟨⟨front, back, hpairs, hk.1⟩, fun hp => hk.2 (List.mem_singleton.mpr hp)⟩
  · rintro (rfl | ⟨⟨front, back, rfl, hk⟩, hne⟩)
    · exact ⟨pairs, [], rfl, List.not_mem_nil⟩
    · refine ⟨front, back ++ [p], by simp, ?_⟩
      rw [keys, List.map_append, List.mem_append, not_or]
      exact ⟨hk, fun hp => hne (List.mem_singleton.mp hp)⟩

variable [DecidableEq κ]

/-- Where keys are distinct, a writing replaces the entry of its key and no other. -/
theorem mem_put_iff (h : (keys entries).Nodup) {e : κ × ν} :
    e ∈ put entries k v ↔ e = (k, v) ∨ e ∈ entries ∧ e.1 ≠ k := by
  induction entries with
  | nil => simp [put]
  | cons first rest ih =>
      obtain ⟨hfirst, hrest⟩ := List.nodup_cons.mp h
      by_cases hk : first.1 = k
      -- `put` stops here, so the rest must have no second entry under the key
      · have hne : ∀ e ∈ rest, e.1 ≠ k := by
          rintro e he rfl
          exact hfirst (hk ▸ List.mem_map_of_mem he)
        simp only [put, hk, if_true, List.mem_cons]
        grind
      · simp only [put, hk, if_false, List.mem_cons, ih hrest]
        grind

theorem nodup_keys_ofList (pairs : List (κ × ν)) : (keys (ofList pairs)).Nodup := by
  induction pairs using List.reverseRecOn with
  | nil => exact List.nodup_nil
  | append_singleton pairs p ih =>
      rw [ofList_concat]
      exact nodup_keys_put p.1 p.2 ih

/-- The keys stand in the order in which they were first written. -/
theorem keys_ofList (pairs : List (κ × ν)) :
    keys (ofList pairs) = (pairs.map Prod.fst).eraseDups := by
  -- On the end of the list: the last writing finds its key there or puts it at the end.
  induction pairs using List.reverseRecOn with
  | nil => rfl
  | append_singleton pairs p ih =>
      rw [ofList_concat, List.map_append, List.eraseDups_append, ← ih]
      by_cases hp : p.1 ∈ keys (ofList pairs)
      · have hseen : p.1 ∈ pairs.map Prod.fst := by rwa [ih, List.mem_eraseDups] at hp
        have hnone : [p.1].removeAll (pairs.map Prod.fst) = [] := by
          simp [List.removeAll, hseen]
        rw [keys_put_of_mem p.2 hp, List.map_singleton, hnone]
        exact (List.append_nil _).symm
      · have hfresh : p.1 ∉ pairs.map Prod.fst := by rwa [ih, List.mem_eraseDups] at hp
        have hone : [p.1].removeAll (pairs.map Prod.fst) = [p.1] := by
          simp [List.removeAll, hfresh]
        rw [put_of_not_mem p.2 hp, keys, List.map_append, List.map_singleton, hone]
        rfl

theorem mem_ofList_iff {pairs : List (κ × ν)} :
    (k, v) ∈ ofList pairs ↔ LastWritten pairs k v := by
  induction pairs using List.reverseRecOn with
  | nil => simp [ofList, LastWritten]
  | append_singleton pairs p ih =>
      rw [ofList_concat, mem_put_iff (nodup_keys_ofList pairs), ih, lastWritten_concat_iff]

/-- Entries with distinct keys are written as they are. -/
theorem ofList_of_nodup (h : (keys entries).Nodup) : ofList entries = entries := by
  induction entries using List.reverseRecOn with
  | nil => rfl
  | append_singleton entries p ih =>
      rw [keys, List.map_append, List.nodup_append] at h
      obtain ⟨hentries, -, hdistinct⟩ := h
      have hfresh : p.1 ∉ keys entries := fun hp =>
        hdistinct p.1 hp p.1 (List.mem_singleton_self p.1) rfl
      rw [ofList_concat, ih hentries, put_of_not_mem p.2 hfresh]

theorem ofList_ofList (pairs : List (κ × ν)) : ofList (ofList pairs) = ofList pairs :=
  ofList_of_nodup (nodup_keys_ofList pairs)

end Keyed

/-! ## Data that presents itself -/

namespace Serial

/-- `data.Presents members`: the data is a structure, a map or a named part, perhaps in
wrappers, and its entries are `members` one by one, with the texts of their keys and
their values in JSON. -/
inductive Presents : Serial → List (String × Json) → Prop where
  | map {entries : List (Serial × Serial)} {members : List (String × Json)}
      (h : List.Forall₂ (fun e m => e.1.keyText = .ok m.1 ∧ e.2.toJson = .ok m.2)
        entries members) :
      Presents (.map entries) members
  | record {fields : List (String × Serial)} {members : List (String × Json)}
      (h : List.Forall₂ (fun f m => f.1 = m.1 ∧ f.2.toJson = .ok m.2) fields members) :
      Presents (.record fields) members
  | payload {inner : Serial} {value : Json} (name : String) (h : inner.toJson = .ok value) :
      Presents (.payload name inner) [(name, value)]
  | optional {inner : Serial} {members : List (String × Json)} :
      inner.Presents members → Presents (.optional inner) members
  | wrapped {inner : Serial} {members : List (String × Json)} :
      inner.Presents members → Presents (.wrapped inner) members

section

variable {ε α β : Type} {r : Except ε α} {y : β}

theorem map_eq_ok_iff {f : α → β} : r.map f = .ok y ↔ ∃ x, r = .ok x ∧ f x = y := by
  cases r <;> simp [Except.map]

theorem bind_eq_ok_iff {f : α → Except ε β} :
    r >>= f = .ok y ↔ ∃ x, r = .ok x ∧ f x = .ok y := by
  cases r <;> simp [bind, Except.bind]

end

theorem entriesToJson_eq_ok_iff {entries : List (Serial × Serial)}
    {members : List (String × Json)} :
    entriesToJson entries = .ok members ↔
      List.Forall₂ (fun e m => e.1.keyText = .ok m.1 ∧ e.2.toJson = .ok m.2)
        entries members := by
  induction entries generalizing members with
  | nil => simp [entriesToJson, List.forall₂_nil_left_iff, eq_comm]
  | cons e rest ih =>
      obtain ⟨key, value⟩ := e
      rw [List.forall₂_cons_left_iff]
      simp only [entriesToJson, bind_eq_ok_iff, pure, Except.pure]
      constructor
      · rintro ⟨text, hkey, json, hvalue, others, hrest, hm⟩
        cases hm
        exact ⟨_, _, ⟨hkey, hvalue⟩, ih.mp hrest, rfl⟩
      · rintro ⟨⟨text, json⟩, others, ⟨hkey, hvalue⟩, hrest, rfl⟩
        exact ⟨text, hkey, json, hvalue, others, ih.mpr hrest, rfl⟩

theorem fieldsToJson_eq_ok_iff {fields : List (String × Serial)}
    {members : List (String × Json)} :
    fieldsToJson fields = .ok members ↔
      List.Forall₂ (fun f m => f.1 = m.1 ∧ f.2.toJson = .ok m.2) fields members := by
  induction fields generalizing members with
  | nil => simp [fieldsToJson, List.forall₂_nil_left_iff, eq_comm]
  | cons f rest ih =>
      obtain ⟨name, value⟩ := f
      rw [List.forall₂_cons_left_iff]
      simp only [fieldsToJson, bind_eq_ok_iff, pure, Except.pure]
      constructor
      · rintro ⟨json, hvalue, others, hrest, hm⟩
        cases hm
        exact ⟨_, _, ⟨rfl, hvalue⟩, ih.mp hrest, rfl⟩
      · rintro ⟨⟨text, json⟩, others, ⟨hname, hvalue⟩, hrest, rfl⟩
        cases hname
        exact ⟨json, hvalue, others, ih.mpr hrest, rfl⟩

theorem Presents.toJson_eq {data : Serial} {members : List (String × Json)}
    (h : data.Presents members) : data.toJson = .ok (.ofMembers members) := by
  induction h with
  | map h => rw [toJson, entriesToJson_eq_ok_iff.mpr h]; rfl
  | record h => rw [toJson, fieldsToJson_eq_ok_iff.mpr h]; rfl
  | payload name h => rw [toJson, h]; rfl
  | optional _ ih => exact ih
  | wrapped _ ih => exact ih

/-- What has the JSON form of an object presents its members. -/
theorem exists_presents {members : List (String × Json)} :
    (data : Serial) → data.toJson = .ok (.object members) →
      ∃ written, data.Presents written ∧ members = Keyed.ofList written
  | .map entries, h => by
      obtain ⟨written, hw, hm⟩ := map_eq_ok_iff.mp h
      cases hm
      exact ⟨written, .map (entriesToJson_eq_ok_iff.mp hw), rfl⟩
  | .record fields, h => by
      obtain ⟨written, hw, hm⟩ := map_eq_ok_iff.mp h
      cases hm
      exact ⟨written, .record (fieldsToJson_eq_ok_iff.mp hw), rfl⟩
  | .payload name inner, h => by
      obtain ⟨value, hv, hm⟩ := map_eq_ok_iff.mp h
      cases hm
      exact ⟨[(name, value)], .payload name hv, rfl⟩
  | .optional inner, h => by
      obtain ⟨written, hw, hm⟩ := exists_presents inner h
      exact ⟨written, .optional hw, hm⟩
  | .wrapped inner, h => by
      obtain ⟨written, hw, hm⟩ := exists_presents inner h
      exact ⟨written, .wrapped hw, hm⟩
  | .sequence items, h => by
      obtain ⟨_, -, hm⟩ := map_eq_ok_iff.mp h
      cases hm
  | .real x, h => by
      rw [toJson, Json.real] at h
      split at h <;> cases h

end Serial

/-! ## Ways to a record -/

namespace Record

theorem length_columns (r : Record) : r.columns.length = r.size := List.length_map _

/-- Taken apart and put together by position, a record is what it was. -/
theorem zip_columns_values (r : Record) : r.columns.zip r.values = r.fields :=
  (List.zip_of_prod rfl rfl).symm

theorem columns_ofPairs (pairs : List (String × Value)) :
    (ofPairs pairs).columns = (pairs.map Prod.fst).eraseDups := by
  rw [columns, fields_ofPairs]
  exact Keyed.keys_ofList pairs

theorem mem_fields_ofPairs_iff {pairs : List (String × Value)} {column : String} {value : Value} :
    (column, value) ∈ (ofPairs pairs).fields ↔ Keyed.LastWritten pairs column value := by
  rw [fields_ofPairs]
  exact Keyed.mem_ofList_iff

/-- An object that was written from the members has forgotten what they repeat; so
would the record have. -/
theorem ofMembers_ofList (members : List (String × Json)) :
    ofMembers (Keyed.ofList members) = ofPairs (members.map (Prod.map id Value.ofJson)) := by
  have hvalues : Keyed.ofList ((Keyed.ofList members).map (Prod.map id Value.ofJson)) =
      Keyed.ofList (members.map (Prod.map id Value.ofJson)) := by
    rw [← Keyed.map_ofList, Keyed.ofList_ofList, Keyed.map_ofList]
  apply Record.ext
  rw [fields_ofPairs, ← hvalues]
  exact fields_ofPairs _

theorem ofSerial_eq_ok_iff {data : Serial} {r : Record} :
    ofSerial data = .ok r ↔ ∃ members, data.Presents members ∧
      r = ofPairs (members.map (Prod.map id Value.ofJson)) := by
  constructor
  · intro h
    rw [ofSerial] at h
    split at h
    · cases h
    · next members hj =>
        cases h
        obtain ⟨written, hw, rfl⟩ := Serial.exists_presents _ hj
        exact ⟨written, hw, ofMembers_ofList written⟩
    · cases h
  · rintro ⟨members, hm, rfl⟩
    rw [ofSerial, hm.toJson_eq]
    exact congrArg Except.ok (ofMembers_ofList members)

/-- A sorted map has its keys in strict order, and each key with its last value. -/
theorem exists_sorted (pairs : List (String × Value)) :
    ∃ sorted : List (String × Value), sorted.Pairwise (fun p q => p.1 < q.1) ∧
      (∀ column value,
        (column, value) ∈ sorted ↔ Keyed.LastWritten pairs column value) ∧
      ofSorted pairs = ofPairs sorted := by
  have hperm : (ofSorted pairs).fields.Perm (Keyed.ofList pairs) := by
    rw [← fields_ofPairs]
    exact List.mergeSort_perm _ _
  have hle : (ofSorted pairs).fields.Pairwise (fun p q => p.1 ≤ q.1) :=
    List.pairwise_mergeSort' _ _
  have hne : (ofSorted pairs).fields.Pairwise (fun p q => p.1 ≠ q.1) :=
    List.pairwise_map.mp (ofSorted pairs).distinct
  refine ⟨(ofSorted pairs).fields, ?_, fun column value => ?_, ?_⟩
  · exact (hle.and hne).imp fun h => lt_of_le_of_ne h.1 h.2
  · rw [hperm.mem_iff]
    exact Keyed.mem_ofList_iff
  · apply Record.ext
    rw [fields_ofPairs, Keyed.ofList_of_nodup (ofSorted pairs).distinct]

end Record

/-! ## Columns in the text, values among the parameters -/

namespace Query

variable {κ : Type} {ts : List Transition} {q : Query κ} {table : String} {data : Record}

/-- The statement writes the record to new rows of the table. -/
def Inserts (q : Query κ) (table : String) (data : Record) : Prop :=
  q.sql = "INSERT INTO " ++ table ++ " (" ++ Text.listing data.columns ++ ") VALUES (" ++
      Text.placeholderList data.size ++ ")" ++ (Statement.ofClauses q.descriptor.tail).sql ∧
    q.parameters = data.values ++ (Statement.ofClauses q.descriptor.tail).parameters

/-- The text assigns a placeholder to each of the columns of the table. -/
def Assigns (q : Query κ) (table : String) (columns : List String) : Prop :=
  q.sql = "UPDATE " ++ table ++ " SET " ++ Text.listing (columns.map fun c => c ++ " = ?") ++
    (Statement.ofClauses q.descriptor.tail).sql

/-- The statement writes the record to rows of the table. -/
def Updates (q : Query κ) (table : String) (data : Record) : Prop :=
  q.Assigns table data.columns ∧
    q.parameters = data.values ++ (Statement.ofClauses q.descriptor.tail).parameters

theorem inserts_of_columns (hm : q.descriptor.effectiveMode = some .insert)
    (hcolumns : q.descriptor.insertColumns = data.columns)
    (hvalues : q.descriptor.insertParameters = data.values) :
    q.Inserts q.descriptor.tableText data := by
  have hhead : q.descriptor.head = q.descriptor.insertHead := by rw [Descriptor.head, hm]
  have hbound : q.descriptor.insertHead.values = data.values := hvalues
  constructor
  · show (Statement.ofClauses (q.descriptor.head :: q.descriptor.tail)).sql = _
    rw [Statement.sql_ofClauses_cons, hhead, Descriptor.text_insertHead, hcolumns,
      Record.length_columns]
  · show (Statement.ofClauses (q.descriptor.head :: q.descriptor.tail)).parameters = _
    rw [Statement.parameters_ofClauses_cons, hhead, hbound]

theorem updates_of_assignments (hm : q.descriptor.effectiveMode = some .update)
    (hset : q.descriptor.setClause = some data.assignments)
    (hvalues : q.descriptor.setParameters = data.values) :
    q.Updates q.descriptor.tableText data := by
  have hhead : q.descriptor.head =
      ⟨"UPDATE " ++ q.descriptor.tableText ++ " SET " ++ data.assignments, data.values⟩ := by
    simp only [Descriptor.head, hm, Descriptor.updateHead, hset, hvalues]
  constructor
  · show (Statement.ofClauses (q.descriptor.head :: q.descriptor.tail)).sql = _
    rw [Statement.sql_ofClauses_cons, hhead]
    rfl
  · show (Statement.ofClauses (q.descriptor.head :: q.descriptor.tail)).parameters = _
    rw [Statement.parameters_ofClauses_cons, hhead]

/-- An INSERT of the record, on a query that is no other statement yet. -/
theorem apply_insertInto (hm : q.descriptor.mode = none ∨ q.descriptor.mode = some .insert)
    (table : String) (data : Record) :
    ∃ r, q.apply (.insertInto table data) = .ok r ∧
      r.descriptor.effectiveMode = some .insert ∧ r.Inserts table data := by
  obtain ⟨d, o⟩ := q
  obtain ⟨mode⟩ := d
  refine ⟨_, rfl, ?_⟩
  rcases hm with hm | hm <;> cases hm
  · exact ⟨rfl, inserts_of_columns rfl rfl rfl⟩
  · exact ⟨rfl, inserts_of_columns rfl rfl rfl⟩

/-- Assignments of the record, on an UPDATE. -/
theorem apply_set (hm : q.descriptor.effectiveMode = some .update) (data : Record) :
    ∃ r, q.apply (.set data) = .ok r ∧ r.descriptor.effectiveMode = some .update ∧
      r.Updates q.descriptor.tableText data :=
  ⟨_, rfl, hm, updates_of_assignments hm rfl rfl⟩

/-- A record has its columns in the order of first writing, each once and with its last
value, whether the entries come as pairs, in an object, or in data that presents them; a
sorted map gives the record of its entries. An INSERT and an UPDATE show a placeholder
for each column, and their parameters begin with the values in the same order. -/
theorem data_aligned :
    (∀ pairs : List (String × Value),
      (Record.ofPairs pairs).columns = (pairs.map Prod.fst).eraseDups ∧
        ∀ column value, (column, value) ∈ (Record.ofPairs pairs).fields ↔
          Keyed.LastWritten pairs column value) ∧
      (∀ members : List (String × Json),
        Record.ofMembers (Keyed.ofList members) =
            Record.ofPairs (members.map (Prod.map id Value.ofJson)) ∧
          ∀ data : Serial, data.Presents members →
            Record.ofSerial data =
              .ok (Record.ofPairs (members.map (Prod.map id Value.ofJson)))) ∧
      (∀ pairs : List (String × Value), ∃ sorted : List (String × Value),
        sorted.Pairwise (fun p q => p.1 < q.1) ∧
          (∀ column value,
            (column, value) ∈ sorted ↔ Keyed.LastWritten pairs column value) ∧
          Record.ofSorted pairs = Record.ofPairs sorted) ∧
      ∀ data : Record,
        (data.columns.length = data.size ∧ data.values.length = data.size ∧
          data.columns.zip data.values = data.fields ∧
          Text.placeholders (Text.placeholderList data.size) = data.size) ∧
        ∀ q : Query κ,
          (∀ table, q.descriptor.mode = none ∨ q.descriptor.mode = some .insert →
            ∃ r, q.apply (.insertInto table data) = .ok r ∧
              r.descriptor.effectiveMode = some .insert ∧ r.Inserts table data) ∧
          (q.descriptor.effectiveMode = some .update →
            ∃ r, q.apply (.set data) = .ok r ∧ r.descriptor.effectiveMode = some .update ∧
              r.Updates q.descriptor.tableText data) := by
  refine ⟨fun pairs => ⟨Record.columns_ofPairs pairs, fun _ _ => Record.mem_fields_ofPairs_iff⟩,
    fun members => ⟨Record.ofMembers_ofList members, fun data hdata => ?_⟩,
    Record.exists_sorted, fun data => ⟨⟨data.length_columns, ?_, data.zip_columns_values,
      Text.placeholders_placeholderList _⟩,
      fun q => ⟨fun table hm => apply_insertInto hm table data, fun hm => apply_set hm data⟩⟩⟩
  · exact Record.ofSerial_eq_ok_iff.mpr ⟨members, hdata, rfl⟩
  · rw [Record.length_values, Record.length_columns]

/-- A map that writes `name` twice, in a new row and over rows that are there. -/
theorem data_aligned_repeated :
    let members : List (String × Json) :=
      [("name", .text "Jan"), ("age", .int 25), ("name", .text "Jane")]
    let data : Serial := .wrapped (.map
      [(.text "name", .text "Jan"), (.text "age", .int 25), (.text "name", .text "Jane")])
    ∃ record, Record.ofSerial data = .ok record ∧
      Record.ofMembers (Keyed.ofList members) = record ∧
      record.columns = ["name", "age"] ∧
      (∃ r : Query Unit, new.apply (.insertInto "users" record) = .ok r ∧
        r.sql = "INSERT INTO users (name, age) VALUES (?, ?)" ∧
        r.parameters = [.text "Jane", .integer 25]) ∧
      ∃ p r : Query Unit, new.apply (.update "users") = .ok p ∧
        p.apply (.set record) = .ok r ∧ r.sql = "UPDATE users SET name = ?, age = ?" ∧
        r.parameters = [.text "Jane", .integer 25] := by
  intro members data
  obtain ⟨hpairs, hmembers, -, hheads⟩ := data_aligned (κ := Unit)
  obtain ⟨hobject, hserial⟩ := hmembers members
  have hdata : data.Presents members :=
    .wrapped (.map (.cons ⟨rfl, rfl⟩ (.cons ⟨rfl, rfl⟩ (.cons ⟨rfl, rfl⟩ .nil))))
  refine ⟨_, hserial data hdata, hobject, (hpairs _).1, ?_, ?_⟩
  · obtain ⟨r, hr, -, hsql, hparameters⟩ := ((hheads _).2 new).1 "users" (.inl rfl)
    refine ⟨r, hr, ?_⟩
    rw [hsql, hparameters]
    cases hr
    decide
  · obtain ⟨p, hp, hm⟩ : ∃ p : Query Unit, new.apply (.update "users") = .ok p ∧
        p.descriptor.effectiveMode = some .update := ⟨_, rfl, rfl⟩
    obtain ⟨r, hr, -, hsql, hparameters⟩ := ((hheads _).2 p).2 hm
    refine ⟨p, r, hp, hr, ?_⟩
    rw [hsql, hparameters]
    cases hp
    cases hr
    decide

/-! ## Accepted changes -/

/-- Where something is assigned, something is written. -/
theorem listing_assignments_eq_empty_iff {columns : List String} :
    Text.listing (columns.map fun c => c ++ " = ?") = "" ↔ columns = [] := by
  match columns with
  | [] => exact iff_of_true rfl rfl
  | [column] =>
      refine iff_of_false (fun h => ?_) (List.cons_ne_nil column [])
      exact absurd (String.append_eq_empty_iff.mp h).2 (by decide)
  | column :: next :: rest =>
      refine iff_of_false (fun h => ?_) (List.cons_ne_nil column (next :: rest))
      rw [List.map_cons, List.map_cons, Text.listing_cons_cons, String.append_assoc,
        String.append_assoc] at h
      exact absurd (String.append_eq_empty_iff.mp (String.append_eq_empty_iff.mp h).2).1 (by decide)

/-- The text tells whether anything is assigned. -/
theorem Assigns.exists_ne_nil_iff {columns : List String} (h : q.Assigns table columns) :
    (∃ others, others ≠ [] ∧ q.Assigns table others) ↔ columns ≠ [] := by
  refine ⟨?_, fun hne => ⟨columns, hne, h⟩⟩
  rintro ⟨others, hothers, ho⟩ rfl
  -- both texts have the same words around the assignments
  have hlisting := h.symm.trans ho
  rw [String.append_left_inj, String.append_right_inj] at hlisting
  exact hothers (listing_assignments_eq_empty_iff.mp hlisting.symm)

/-- A change is made to the table that was named last for its kind. -/
theorem Reachable.exists_lastTable (h : Reachable ts q) {m : Mode}
    (hm : q.descriptor.effectiveMode = some m) (hne : m ≠ .select) :
    ∃ table, lastTable m q.options ts = some table ∧ q.descriptor.tableText = table := by
  have hfirst : firstMode ts = some m := (h.effectiveMode_eq_some_iff hne).mp hm
  obtain ⟨table, htable⟩ := Option.isSome_iff_exists.mp (isSome_lastTable hfirst hne q.options)
  refine ⟨table, htable, ?_⟩
  rw [Descriptor.tableText, Descriptor.targetTable_of_effectiveMode hm, h.tableOf_eq, htable]
  rfl

/-- What an accepted change writes is the record of the last call that gave one, to the
table of the last call that named one. An INSERT has a column. An UPDATE was told what
to set, and assigns something exactly if the record that it was told has a column. -/
theorem accepted_change (h : Reachable ts q) (hv : q.descriptor.IsValid) :
    (q.descriptor.effectiveMode = some .update →
      ∃ table data, lastTable .update q.options ts = some table ∧
        ts.findSomeRev? Transition.data? = some data ∧ q.Updates table data ∧
        ((∃ columns, columns ≠ [] ∧ q.Assigns table columns) ↔ data.columns ≠ [])) ∧
      (q.descriptor.effectiveMode = some .insert →
        ∃ table data, lastTable .insert q.options ts = some table ∧
          ts.findSomeRev? Transition.inserted? = some data ∧ q.Inserts table data ∧
          data.columns ≠ []) := by
  constructor
  · intro hm
    obtain ⟨table, htable, rfl⟩ := h.exists_lastTable hm (by decide)
    obtain ⟨assigned, hassigned⟩ := hv.assignments hm
    have hset := h.setClause_eq
    have hvalues := h.setParameters_eq
    cases hd : ts.findSomeRev? Transition.data? with
    | none =>
        rw [hd, hassigned] at hset
        cases hset
    | some data =>
        rw [hd] at hset hvalues
        have hupdates : q.Updates q.descriptor.tableText data :=
          updates_of_assignments hm hset hvalues
        exact ⟨_, data, htable, rfl, hupdates, hupdates.1.exists_ne_nil_iff⟩
  · intro hm
    obtain ⟨table, htable, rfl⟩ := h.exists_lastTable hm (by decide)
    have hne : q.descriptor.insertColumns ≠ [] := hv.columns hm
    have hcolumns := h.insertColumns_eq
    have hvalues := h.insertParameters_eq
    cases hd : ts.findSomeRev? Transition.inserted? with
    | none =>
        rw [hd] at hcolumns
        exact absurd hcolumns hne
    | some data =>
        rw [hd] at hcolumns hvalues
        rw [hcolumns] at hne
        exact ⟨_, data, htable, rfl, inserts_of_columns hm hcolumns hvalues, hne⟩

/-- An UPDATE that is told twice what to set, and does the second. -/
theorem accepted_change_update :
    let ts : List Transition :=
      [.update "users", .set .empty, .filter (.compare "id" (.spelled "=") (.integer 1)),
        .set (.ofPairs [("name", .text "Jane"), ("age", .integer 25)])]
    ∃ q : Query Unit, new.chain ts = .ok q ∧ q.descriptor.IsValid ∧
      q.Updates "users" (.ofPairs [("name", .text "Jane"), ("age", .integer 25)]) ∧
      ∃ columns, columns ≠ [] ∧ q.Assigns "users" columns := by
  intro ts
  obtain ⟨q, hq, hv, hm⟩ : ∃ q : Query Unit, new.chain ts = .ok q ∧ q.descriptor.IsValid ∧
      q.descriptor.effectiveMode = some .update := ⟨_, rfl, by decide, rfl⟩
  obtain ⟨hupdate, -⟩ := accepted_change (reachable_iff.mpr ⟨_, hq⟩) hv
  obtain ⟨table, data, htable, hdata, hupdates, hiff⟩ := hupdate hm
  cases htable
  cases hdata
  exact ⟨q, hq, hv, hupdates, hiff.mpr (by decide)⟩

/-- An UPDATE that is told to set nothing is accepted, where an INSERT of nothing is
refused. Its text ends after the word SET. -/
theorem exists_isValid_assigning_nothing :
    ∃ q p : Query Unit,
      new.chain [.update "users", .set (.ofPairs []), .force true] = .ok q ∧
        q.descriptor.IsValid ∧ q.descriptor.effectiveMode = some .update ∧
        q.sql = "UPDATE users SET " ∧
        (¬ ∃ columns, columns ≠ [] ∧ q.Assigns "users" columns) ∧
        new.chain [.insertInto "users" (.ofPairs [])] = .ok p ∧
        p.violation? = some .emptyInsert := by
  obtain ⟨q, hq, hv, hm, hsql⟩ : ∃ q : Query Unit,
      new.chain [.update "users", .set (.ofPairs []), .force true] = .ok q ∧
        q.descriptor.IsValid ∧ q.descriptor.effectiveMode = some .update ∧
        q.sql = "UPDATE users SET " := ⟨_, rfl, by decide, rfl, by decide⟩
  have hassigns : q.Assigns "users" [] := by
    cases hq
    unfold Assigns
    decide
  exact ⟨q, _, hq, hv, hm, hsql, fun h => hassigns.exists_ne_nil_iff.mp h rfl, rfl, by decide⟩

end Query

end SqlChain
