import Mathlib.Data.Char
import SqlChain.Text.Utf8

/-!
# Texts as bytes

A text that is stored is its bytes, and whoever reads it has to find the characters in
them again. A first byte announces how many more belong to it, those are known by their
two top bits, and what is left of each is put together to a code point. So the bytes of
a character cannot be taken for anything but this character, whatever follows them, and
a text is read back from its bytes as it was.
-/

namespace SqlChain.Text

variable {first second b : UInt8} {start code seen : Nat} {more rest : List UInt8}

/-! ## Sequences -/

theorem sequenceLength_eq :
    sequenceLength b =
      if b.toNat < 0x80 then some 1 else if b.toNat < 0xC2 then none
      else if b.toNat < 0xE0 then some 2 else if b.toNat < 0xF0 then some 3
      else if b.toNat < 0xF5 then some 4 else none := by
  simp only [sequenceLength, UInt8.lt_iff_toNat_lt]
  rfl

theorem isContinuation_iff : isContinuation b = true ↔ 0x80 ≤ b.toNat ∧ b.toNat < 0xC0 := by
  simp [isContinuation, UInt8.le_iff_toNat_le, UInt8.lt_iff_toNat_lt]

theorem isSecond_iff :
    isSecond first second = true ↔
      isContinuation second = true ∧ (first.toNat = 0xE0 → 0xA0 ≤ second.toNat) ∧
        (first.toNat = 0xED → second.toNat < 0xA0) ∧ (first.toNat = 0xF0 → 0x90 ≤ second.toNat) ∧
        (first.toNat = 0xF4 → second.toNat < 0x90) := by
  simp only [isSecond, isContinuation, beq_iff_eq, ← UInt8.toNat_inj]
  split_ifs <;>
    simp only [Bool.and_eq_true, decide_eq_true_eq, UInt8.le_iff_toNat_le, UInt8.lt_iff_toNat_lt,
      UInt8.reduceToNat] at * <;>
    omega

theorem continuation_append (h : ∀ b ∈ more, isContinuation b = true) :
    continuation start code seen more.length (more ++ rest) =
      .ok (more.foldl (fun code b => code * 64 + b.toNat % 64) code) := by
  induction more generalizing code seen with
  | nil => cases rest <;> rfl
  | cons b more ih =>
      obtain ⟨hb, hmore⟩ := List.forall_mem_cons.mp h
      rw [List.length_cons, List.cons_append, continuation, if_pos hb, ih hmore]
      rfl

theorem sequenceChar_append (hs : isSecond first second = true)
    (hm : ∀ b ∈ more, isContinuation b = true) :
    sequenceChar start first (more.length + 2) (second :: (more ++ rest)) =
      .ok (Char.ofNat (more.foldl (fun code b => code * 64 + b.toNat % 64)
        (first.toNat % leadSize (more.length + 2) * 64 + second.toNat % 64))) := by
  simp only [sequenceChar, if_pos hs]
  rw [Nat.add_sub_cancel, continuation_append hm]
  rfl

/-- The bytes of a character are as many as the first of them announces, and together they
stand for the character. -/
theorem sequence_utf8EncodeChar (c : Char) :
    ∃ first more, String.utf8EncodeChar c = first :: more ∧
      sequenceLength first = some (more.length + 1) ∧
      ∀ start rest, sequenceChar start first (more.length + 1) (more ++ rest) = .ok c := by
  have hvalid : c.val.toNat < 0xD800 ∨ 0xDFFF < c.val.toNat ∧ c.val.toNat < 0x110000 := c.valid
  have hchar : Char.ofNat c.val.toNat = c := Char.ofNat_toNat c
  have hbyte : ∀ n, n < 256 → (UInt8.ofNat n).toNat = n := fun n h => UInt8.toNat_ofNat_of_lt' h
  have hlow : ∀ n, (UInt8.ofNat (n % 64 + 128)).toNat = n % 64 + 128 := fun n => hbyte _ (by omega)
  have hmore : ∀ n, isContinuation (UInt8.ofNat (n % 64 + 128)) = true := by
    intro n
    rw [isContinuation_iff, hlow]
    omega
  rw [String.utf8EncodeChar]
  generalize c.val.toNat = v at hvalid hchar ⊢
  split_ifs with h1 h2 h3
  · have hfirst : (UInt8.ofNat v).toNat = v := hbyte _ (by omega)
    refine ⟨_, [], rfl, ?_, fun start rest => ?_⟩
    · rw [sequenceLength_eq, hfirst, if_pos (by omega)]
      rfl
    · rw [List.length_nil, sequenceChar, hfirst, hchar]
  · have hfirst : (UInt8.ofNat (v / 64 % 32 + 192)).toNat = v / 64 % 32 + 192 := hbyte _ (by omega)
    refine ⟨_, [_], rfl, ?_, fun start rest => ?_⟩
    · rw [sequenceLength_eq, hfirst, if_neg (by omega), if_neg (by omega), if_pos (by omega)]
      rfl
    · have hsecond : isSecond (UInt8.ofNat (v / 64 % 32 + 192)) (UInt8.ofNat (v % 64 + 128)) =
          true := isSecond_iff.mpr ⟨hmore v, by omega⟩
      refine (sequenceChar_append hsecond (List.forall_mem_nil _)).trans ?_
      have hcode : (v / 64 % 32 + 192) % 32 * 64 + (v % 64 + 128) % 64 = v := by omega
      rw [List.foldl_nil, hfirst, hlow, List.length_nil, leadSize, hcode, hchar]
  · have hfirst : (UInt8.ofNat (v / 4096 % 16 + 224)).toNat = v / 4096 % 16 + 224 :=
      hbyte _ (by omega)
    refine ⟨_, [_, _], rfl, ?_, fun start rest => ?_⟩
    · rw [sequenceLength_eq, hfirst, if_neg (by omega), if_neg (by omega), if_neg (by omega),
        if_pos (by omega)]
      rfl
    · have hsecond : isSecond (UInt8.ofNat (v / 4096 % 16 + 224))
          (UInt8.ofNat (v / 64 % 64 + 128)) = true := by
        rw [isSecond_iff, hfirst, hlow]
        exact ⟨hmore _, by omega⟩
      refine (sequenceChar_append hsecond (List.forall_mem_singleton.mpr (hmore v))).trans ?_
      have hcode : ((v / 4096 % 16 + 224) % 16 * 64 + (v / 64 % 64 + 128) % 64) * 64 +
          (v % 64 + 128) % 64 = v := by omega
      rw [List.foldl_cons, List.foldl_nil, hfirst, hlow, hlow, List.length_singleton, leadSize,
        hcode, hchar]
  · have hfirst : (UInt8.ofNat (v / 262144 % 8 + 240)).toNat = v / 262144 % 8 + 240 :=
      hbyte _ (by omega)
    refine ⟨_, [_, _, _], rfl, ?_, fun start rest => ?_⟩
    · rw [sequenceLength_eq, hfirst, if_neg (by omega), if_neg (by omega), if_neg (by omega),
        if_neg (by omega), if_pos (by omega)]
      rfl
    · have hsecond : isSecond (UInt8.ofNat (v / 262144 % 8 + 240))
          (UInt8.ofNat (v / 4096 % 64 + 128)) = true := by
        rw [isSecond_iff, hfirst, hlow]
        exact ⟨hmore _, by omega⟩
      refine (sequenceChar_append hsecond (List.forall_mem_cons.mpr
        ⟨hmore (v / 64), List.forall_mem_singleton.mpr (hmore v)⟩)).trans ?_
      have hcode : (((v / 262144 % 8 + 240) % 8 * 64 + (v / 4096 % 64 + 128) % 64) * 64 +
          (v / 64 % 64 + 128) % 64) * 64 + (v % 64 + 128) % 64 = v := by omega
      simp only [List.foldl_cons, List.foldl_nil, hfirst, hlow, List.length_cons, List.length_nil,
        leadSize, hcode, hchar]

/-! ## Whole texts -/

theorem decodeFrom_flatMap (cs : List Char) {fuel : Nat} (start : Nat)
    (h : (cs.flatMap String.utf8EncodeChar).length ≤ fuel) :
    decodeFrom fuel start (cs.flatMap String.utf8EncodeChar) = .ok cs := by
  induction cs generalizing fuel start with
  | nil => cases fuel <;> rfl
  | cons c cs ih =>
      obtain ⟨first, more, hbytes, hlength, hchar⟩ := sequence_utf8EncodeChar c
      rw [List.flatMap_cons, hbytes, List.cons_append] at h ⊢
      rw [List.length_cons, List.length_append] at h
      obtain ⟨fuel, rfl⟩ : ∃ f, fuel = f + 1 := ⟨fuel - 1, by omega⟩
      rw [decodeFrom, hlength]
      dsimp only
      rw [hchar, Nat.add_sub_cancel, List.drop_left]
      show (do return c :: (← decodeFrom fuel _ _)) = _
      rw [ih _ (by omega)]
      rfl

theorem encodeUtf8_eq (s : String) : encodeUtf8 s = s.toList.flatMap String.utf8EncodeChar := by
  rw [encodeUtf8, String.toUTF8_eq_toByteArray, ← String.utf8Encode_toList, List.utf8Encode,
    List.toList_data_toByteArray]

/-- A text is read back from its bytes. -/
theorem decodeUtf8_encodeUtf8 (s : String) : decodeUtf8 (encodeUtf8 s) = .ok s := by
  rw [encodeUtf8_eq, decodeUtf8, decodeFrom_flatMap _ _ le_rfl]
  exact congrArg Except.ok String.ofList_toList

end SqlChain.Text
