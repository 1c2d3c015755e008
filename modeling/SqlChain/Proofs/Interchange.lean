import Mathlib.Data.Set.List
import SqlChain.Value.Json

/-!
# Values written and read as JSON

Three functions were made one by one: one writes a value, one reads what was written,
one takes any JSON as data to bind. This file says how far they agree. The reader tries
one storage class after the other, so it is right only if nothing that one class writes
is taken by a class before it; the one value for which that fails is a float that stands
for no number, and it is written as null because JSON has no word for it.

The reader takes less than the other does, and where both take a JSON value they make
the same of it. An array of bytes is the exception, and the only one: the reader makes
bytes of it again, and as data to bind it is a text.
-/

namespace SqlChain

open Decimal (Binary64 Number)

/-! ## Bytes in JSON -/

theorem Word.toNat_le_maxByte (b : UInt8) : (b.toNat : Int) ≤ maxByte := by
  have := b.toNat_lt
  rw [maxByte]
  omega

theorem Word.toNat_ofNat_byte {n : Int} (hlow : 0 ≤ n) (hhigh : n ≤ maxByte) :
    ((UInt8.ofNat n.toNat).toNat : Int) = n := by
  have hsize : n.toNat < UInt8.size := by
    have : UInt8.size = 256 := rfl
    rw [maxByte] at hhigh
    omega
  rw [UInt8.toNat_ofNat_of_lt' hsize, Int.toNat_of_nonneg hlow]

namespace Json

/-- An integer that a byte can hold. -/
def IsByte (item : Json) : Prop := ∃ n : Int, item = .int n ∧ 0 ≤ n ∧ n ≤ 255

theorem isByte_iff {item : Json} : item.IsByte ↔ ∃ b : UInt8, item = .int b.toNat := by
  constructor
  · rintro ⟨n, rfl, hlow, hhigh⟩
    exact ⟨UInt8.ofNat n.toNat, congrArg Json.int (Word.toNat_ofNat_byte hlow hhigh).symm⟩
  · rintro ⟨b, rfl⟩
    exact ⟨b.toNat, rfl, Int.natCast_nonneg _, Word.toNat_le_maxByte b⟩

theorem forall_isByte_iff {items : List Json} :
    (∀ item ∈ items, item.IsByte) ↔ ∃ bs : List UInt8, .array items = bytes bs := by
  have hrange := Set.ext_iff.mp (Set.range_list_map fun b : UInt8 => Json.int b.toNat) items
  simp only [Set.mem_range, Set.mem_ofPred_eq] at hrange
  simp only [isByte_iff, bytes, Json.array.injEq, eq_comm (a := items), hrange]
  exact forall₂_congr fun item _ => exists_congr fun b => eq_comm

/-! ## The text of an array of bytes -/

theorem commaSeparated_eq (texts : List String) :
    commaSeparated texts = String.intercalate "," texts := by
  induction texts with
  | nil => rfl
  | cons text rest ih =>
      cases rest with
      | nil => exact String.intercalate_singleton.symm
      | cons next rest =>
          rw [commaSeparated, ih, String.intercalate_cons_cons]
          exact List.cons_ne_nil _ _

theorem printItems_bytes (bs : List UInt8) :
    printItems (bs.map fun b => .int b.toNat) = bs.map fun b => toString b.toNat := by
  induction bs with
  | nil => rfl
  | cons b rest ih => rw [List.map_cons, List.map_cons, printItems, ih]; rfl

/-- Numerals between brackets, with commas and no blanks. -/
theorem print_bytes (bs : List UInt8) :
    print (bytes bs) = "[" ++ String.intercalate "," (bs.map fun b => toString b.toNat) ++ "]" := by
  rw [bytes, print, printItems_bytes, commaSeparated_eq]

end Json

namespace Value

/-! ## Reading what was written -/

/-- No infinity and no NaN: JSON has a word for the value. -/
def isFinite : Value → Bool
  | .real x => x.isFinite
  | _ => true

theorem readByte?_eq_some_iff {item : Json} {b : UInt8} :
    readByte? item = some b ↔ item = .int b.toNat := by
  have hint (n : Int) : readByte? (.int n) =
      if 0 ≤ n ∧ n ≤ Word.maxByte then some (UInt8.ofNat n.toNat) else none := by
    show ((Shape.readInt 0 Word.maxByte "u8" (.int n)).map _).toOption = _
    rw [Json.int, Shape.readInt]
    split <;> rfl
  constructor
  · intro h
    obtain ⟨n, rfl⟩ : ∃ n, item = .int n := by
      cases item with
      | number n =>
          cases n with
          | int n => exact ⟨n, rfl⟩
          | real x => cases h
      | _ => cases h
    rw [hint] at h
    split at h
    · next hrange =>
        cases h
        rw [Word.toNat_ofNat_byte hrange.1 hrange.2]
    · cases h
  · rintro rfl
    rw [hint, if_pos ⟨Int.natCast_nonneg _, Word.toNat_le_maxByte b⟩, Int.toNat_natCast,
      UInt8.ofNat_toNat]

theorem readBytes?_array_eq_some_iff {items : List Json} {bs : List UInt8} :
    readBytes? (.array items) = some bs ↔ .array items = Json.bytes bs := by
  rw [readBytes?, Json.bytes, Json.array.injEq]
  induction items generalizing bs with
  | nil => cases bs <;> simp
  | cons item items ih =>
      simp only [List.mapM_cons, Option.bind_eq_bind, Option.bind_eq_some_iff,
        readByte?_eq_some_iff, ih]
      cases bs <;> simp

theorem read?_bytes (bs : List UInt8) : read? (Json.bytes bs) = some (.blob bs) := by
  have hbytes : readBytes? (Json.bytes bs) = some bs := readBytes?_array_eq_some_iff.mpr rfl
  rw [Json.bytes] at hbytes ⊢
  rw [read?_array, hbytes]
  rfl

theorem ofNumber_toInt (n : Int64) : ofNumber (.int n.toInt) = .integer n := by
  have hrange : Word.minInt64 ≤ n.toInt ∧ n.toInt ≤ Word.maxInt64 := by
    have hlow := n.le_toInt
    have hhigh := n.toInt_lt
    rw [Word.minInt64, Word.maxInt64]
    omega
  rw [ofNumber, Word.int64?, if_pos hrange, Int64.ofInt_toInt]

theorem read?_real (x : Binary64) :
    read? (.real x) = some (if x.isFinite then .real x else .null) := by
  rw [Json.real]
  split
  · exact read?_number (.real x)
  · exact read?_null

/-- What a value is written as is read as the value. -/
theorem read?_toJson (v : Value) : read? v.toJson = some (if v.isFinite then v else .null) := by
  cases v with
  | null => rfl
  | integer n => exact (read?_number _).trans (congrArg some (ofNumber_toInt n))
  | real x => exact read?_real x
  | text s => rfl
  | blob bytes => exact read?_bytes bytes

/-- A value that presents itself is written as it is in JSON. -/
theorem toJson_present (v : Value) : v.present.toJson = .ok v.toJson := by
  cases v with
  | blob bytes =>
      have hitems : Serial.itemsToJson (bytes.map fun b => .int b.toNat) =
          .ok (bytes.map fun b => Json.int b.toNat) := by
        induction bytes with
        | nil => rfl
        | cons b rest ih =>
            rw [List.map_cons, Serial.itemsToJson, ih]
            rfl
      rw [present, Serial.toJson, hitems]
      rfl
  | _ => rfl

/-! ## Two ways to take a JSON value -/

theorem exists_read?_array_iff {items : List Json} :
    (∃ v, read? (.array items) = some v) ↔ ∀ item ∈ items, item.IsByte := by
  rw [Json.forall_isByte_iff, read?_array]
  constructor
  · rintro ⟨v, h⟩
    obtain ⟨bs, hbs, -⟩ := Option.map_eq_some_iff.mp h
    exact ⟨bs, readBytes?_array_eq_some_iff.mp hbs⟩
  · rintro ⟨bs, h⟩
    exact ⟨.blob bs, Option.map_eq_some_iff.mpr ⟨bs, readBytes?_array_eq_some_iff.mpr h, rfl⟩⟩

theorem exists_read?_iff {j : Json} :
    (∃ v, read? j = some v) ↔
      j = .null ∨ (∃ n, j = .number n) ∨ (∃ s, j = .text s) ∨
        ∃ items, j = .array items ∧ ∀ item ∈ items, item.IsByte := by
  cases j with
  | null => simp [read?_null]
  | bool b => simp [read?_bool]
  | number n => simp [read?_number]
  | text s => simp [read?_text]
  | array items => simp [exists_read?_array_iff]
  | object members => simp [read?_object]

theorem ofJson_bytes (bs : List UInt8) :
    ofJson (Json.bytes bs) =
      .text ("[" ++ String.intercalate "," (bs.map fun b => toString b.toNat) ++ "]") :=
  congrArg Value.text (Json.print_bytes bs)

/-- What is read from anything but an array is what it is as data to bind. -/
theorem eq_ofJson_of_read? {j : Json} {v : Value} (h : read? j = some v)
    (hj : ∀ items, j ≠ .array items) : v = ofJson j := by
  cases j with
  | null => exact (Option.some.inj h).symm
  | bool b => cases h
  | number n =>
      rw [read?_number] at h
      exact (Option.some.inj h).symm
  | text s => exact (Option.some.inj h).symm
  | array items => exact absurd rfl (hj items)
  | object members => cases h

/-- A value that presents itself to a writer is written as it is in JSON, and is read back
from there as itself, to the last bit of a float. As data to bind it is itself again, but
for bytes, which are the text of an array. Only a float that is not finite is lost on
either way: it becomes null. -/
theorem json_round_trip (v : Value) :
    v.present.toJson? = some v.toJson ∧
      read? v.toJson = some (if v.isFinite then v else .null) ∧
      ((∀ bytes, v ≠ .blob bytes) → ofJson v.toJson = if v.isFinite then v else .null) ∧
      ∀ bytes, v = .blob bytes → ofJson v.toJson =
        .text ("[" ++ String.intercalate "," (bytes.map fun b => toString b.toNat) ++ "]") := by
  have hread := read?_toJson v
  refine ⟨congrArg Except.toOption v.toJson_present, hread, fun hv => ?_, ?_⟩
  · have hjson : ∀ items, v.toJson ≠ .array items := by
      rintro items hitems
      cases v with
      | blob bytes => exact hv bytes rfl
      | real x =>
          rw [toJson, Json.real] at hitems
          split at hitems <;> cases hitems
      | _ => cases hitems
    exact (eq_ofJson_of_read? hread hjson).symm
  · rintro bytes rfl
    exact ofJson_bytes bytes

/-- The negative zero and the whole numbers among the floats keep their storage class, and
so do bytes. -/
theorem json_round_trip_floats :
    let zero : Value := .real ⟨0x8000000000000000⟩
    let infinite : Value := .real (.infinity true)
    read? zero.toJson = some zero ∧ ofJson zero.toJson = zero ∧
      read? infinite.toJson = some .null ∧ ofJson infinite.toJson = .null ∧
      read? (Value.blob []).toJson = some (.blob []) ∧
      ofJson (Value.blob [0, 255]).toJson = .text "[0,255]" := by
  intro zero infinite
  obtain ⟨-, hzero, hbound, -⟩ := json_round_trip zero
  obtain ⟨-, hinfinite, hnull, -⟩ := json_round_trip infinite
  obtain ⟨-, hempty, -⟩ := json_round_trip (.blob [])
  obtain ⟨-, -, -, hbytes⟩ := json_round_trip (.blob [0, 255])
  exact ⟨hzero, hbound (by simp [zero]), hinfinite, hnull (by simp [infinite]), hempty,
    hbytes _ rfl⟩

/-- The reader takes null, numbers, texts and arrays of integers that bytes can hold, and
nothing else; and but for the arrays it makes of them what they are as data to bind. An
array of bytes is bytes to the one and a text to the other. Data to bind is all JSON there
is: the truth values are integers, arrays and objects are their texts. -/
theorem two_readings (j : Json) :
    ((∃ v, read? j = some v) ↔
        j = .null ∨ (∃ n, j = .number n) ∨ (∃ s, j = .text s) ∨
          ∃ items, j = .array items ∧ ∀ item ∈ items, item.IsByte) ∧
      (∀ v, read? j = some v → (∀ items, j ≠ .array items) → v = ofJson j) ∧
      (∀ n, j = .int n → Word.maxInt64 < n →
        read? j = some (.real (.ofInt n)) ∧ ofJson j = .real (.ofInt n)) ∧
      (∀ items, j = .array items → (∀ item ∈ items, item.IsByte) →
        ∃ bs : List UInt8, items = bs.map (fun b => .int b.toNat) ∧ read? j = some (.blob bs) ∧
          ofJson j =
            .text ("[" ++ String.intercalate "," (bs.map fun b => toString b.toNat) ++ "]")) ∧
      (∀ b, j = .bool b → ofJson j = .integer (if b then 1 else 0)) ∧
      (∀ items, j = .array items → ofJson j = .text j.print) ∧
      ∀ members, j = .object members → ofJson j = .text j.print := by
  refine ⟨exists_read?_iff, fun v h hj => eq_ofJson_of_read? h hj, ?_, ?_, ?_, ?_, ?_⟩
  · rintro n rfl hn
    have hnumber : ofNumber (.int n) = .real (.ofInt n) := by
      rw [ofNumber, Word.int64?, if_neg fun h => absurd h.2 (Int.not_le.mpr hn)]
    exact ⟨(read?_number _).trans (congrArg some hnumber), hnumber⟩
  · rintro items rfl hitems
    obtain ⟨bs, hbs⟩ := Json.forall_isByte_iff.mp hitems
    rw [hbs]
    exact ⟨bs, Json.array.inj hbs, read?_bytes bs, ofJson_bytes bs⟩
  · rintro b rfl
    rfl
  · rintro items rfl
    rfl
  · rintro members rfl
    rfl

/-- The first integer that no signed word holds, and the first that no byte holds. -/
theorem two_readings_boundary :
    let large : Json := .int 9223372036854775808
    let bytes : Json := .array [.int 0, .int 255]
    read? large = some (.real ⟨0x43E0000000000000⟩) ∧
      ofJson large = .real ⟨0x43E0000000000000⟩ ∧
      (∃ bs, read? bytes = some (.blob bs)) ∧ ofJson bytes = .text "[0,255]" ∧
      ¬ ∃ v, read? (.array [.int 0, .int 256]) = some v := by
  intro large bytes
  obtain ⟨-, -, hlarge, -⟩ := two_readings large
  obtain ⟨hread, hbound⟩ := hlarge _ rfl (by decide)
  have hfloat : Binary64.ofInt 9223372036854775808 = ⟨0x43E0000000000000⟩ := by decide
  rw [hfloat] at hread hbound
  have hitems : ∀ item ∈ [Json.int 0, Json.int 255], item.IsByte := by
    rw [List.forall_mem_cons, List.forall_mem_singleton]
    exact ⟨⟨0, rfl, by decide⟩, ⟨255, rfl, by decide⟩⟩
  obtain ⟨-, -, -, hbytes, -, htext, -⟩ := two_readings bytes
  obtain ⟨bs, -, hblob, -⟩ := hbytes _ rfl hitems
  have hprint : bytes.print = "[0,255]" := by decide
  refine ⟨hread, hbound, ⟨bs, hblob⟩, (htext _ rfl).trans (congrArg Value.text hprint), ?_⟩
  obtain ⟨hexists, -⟩ := two_readings (.array [.int 0, .int 256])
  rw [hexists]
  rintro (h | ⟨n, h⟩ | ⟨s, h⟩ | ⟨items, h, hall⟩)
  · cases h
  · cases h
  · cases h
  · cases h
    obtain ⟨n, hn, -, hhigh⟩ := hall (.int 256) (by simp)
    cases hn
    exact absurd hhigh (by decide)

end Value

end SqlChain
