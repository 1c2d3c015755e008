/-!
# Bytes as text

Every text has its bytes in UTF-8, but bytes are text only if they are
well-formed. Where they are not, the reader says how far they were good, and
whether the fault is a wrong sequence or one that the end cuts short; or it puts
U+FFFD in the place of what is wrong and goes on.
-/

namespace SqlChain.Text

/-- The bytes of a text. -/
def encodeUtf8 (s : String) : List UInt8 := s.toUTF8.data.toList

/-- Where bytes stop being text. `length` is the number of bytes of the wrong
sequence, or none if the bytes end within a sequence. -/
structure Utf8Fault where
  validUpTo : Nat
  length : Option Nat
deriving DecidableEq, Repr

/-- The words for a fault. -/
def Utf8Fault.message (f : Utf8Fault) : String :=
  match f.length with
  | some n =>
      "invalid utf-8 sequence of " ++ toString n ++ " bytes from index " ++ toString f.validUpTo
  | none => "incomplete utf-8 byte sequence from index " ++ toString f.validUpTo

/-- Whether a byte continues a sequence. -/
def isContinuation (b : UInt8) : Bool := 0x80 ≤ b && b < 0xC0

/-- The bytes that may stand second, after a first byte of two or more: some
first bytes would otherwise start an overlong form, a surrogate or a code point
past the last. -/
def isSecond (first second : UInt8) : Bool :=
  if first == 0xE0 then 0xA0 ≤ second && second < 0xC0
  else if first == 0xED then 0x80 ≤ second && second < 0xA0
  else if first == 0xF0 then 0x90 ≤ second && second < 0xC0
  else if first == 0xF4 then 0x80 ≤ second && second < 0x90
  else isContinuation second

/-- The number of values that the free bits of a first byte have. -/
def leadSize : Nat → Nat
  | 2 => 32
  | 3 => 16
  | _ => 8

/-- The number of bytes that a first byte announces; none starts no sequence. -/
def sequenceLength (first : UInt8) : Option Nat :=
  if first < 0x80 then some 1
  else if first < 0xC2 then none
  else if first < 0xE0 then some 2
  else if first < 0xF0 then some 3
  else if first < 0xF5 then some 4
  else none

/-- The continuation bytes of a sequence of `n` bytes after the `seen` good
ones: the code point they complete, or the fault. -/
def continuation (start : Nat) (code seen : Nat) : Nat → List UInt8 → Except Utf8Fault Nat
  | 0, _ => .ok code
  | _ + 1, [] => .error ⟨start, none⟩
  | n + 1, b :: rest =>
      if isContinuation b then
        continuation start (code * 64 + b.toNat % 64) (seen + 1) n rest
      else .error ⟨start, some seen⟩

/-- The character that a sequence of `n` bytes stands for. -/
def sequenceChar (start : Nat) (first : UInt8) (n : Nat) (rest : List UInt8) :
    Except Utf8Fault Char :=
  match n, rest with
  | 1, _ => .ok (Char.ofNat first.toNat)
  | _, [] => .error ⟨start, none⟩
  | n, second :: rest =>
      if isSecond first second then do
        let lead := first.toNat % leadSize n
        let code ← continuation start (lead * 64 + second.toNat % 64) 2 (n - 2) rest
        return Char.ofNat code
      else .error ⟨start, some 1⟩

/-- Read bytes from a position on, in at most as many steps as there are bytes. -/
def decodeFrom : Nat → Nat → List UInt8 → Except Utf8Fault (List Char)
  | 0, _, _ => .ok []
  | _ + 1, _, [] => .ok []
  | fuel + 1, start, first :: rest =>
      match sequenceLength first with
      | none => .error ⟨start, some 1⟩
      | some n => do
          let c ← sequenceChar start first n rest
          return c :: (← decodeFrom fuel (start + n) (rest.drop (n - 1)))

/-- The text that bytes spell. -/
def decodeUtf8 (bytes : List UInt8) : Except Utf8Fault String :=
  (decodeFrom bytes.length 0 bytes).map String.ofList

/-- Read bytes with U+FFFD in the place of every wrong sequence. -/
def decodeLossyFrom : Nat → List UInt8 → List Char
  | 0, _ => []
  | _ + 1, [] => []
  | fuel + 1, first :: rest =>
      match sequenceLength first with
      | none => '\uFFFD' :: decodeLossyFrom fuel rest
      | some n =>
          match sequenceChar 0 first n rest with
          | .ok c => c :: decodeLossyFrom fuel (rest.drop (n - 1))
          | .error ⟨_, some wrong⟩ => '\uFFFD' :: decodeLossyFrom fuel (rest.drop (wrong - 1))
          | .error ⟨_, none⟩ => ['\uFFFD']

/-- The text that bytes spell, with U+FFFD where they spell none. -/
def decodeLossy (bytes : List UInt8) : String :=
  String.ofList (decodeLossyFrom bytes.length bytes)

end SqlChain.Text
