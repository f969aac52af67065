/-!
# UTF-8

`encode` writes characters as bytes and `decode` reads them back; bytes that
are no such writing are refused with the place where the first bad sequence
starts and the length of its longest well-formed beginning.  `decodeLossy`
writes the replacement character for every bad sequence instead.

`Lead` gives the shape of a sequence by its first byte: the bits that this byte
adds to the code point and, for each byte that must follow, the range in which
it must lie.  The narrow ranges of the second byte rule out overlong forms,
surrogates and code points beyond U+10FFFF.
-/

namespace ClassDiagram

/-- Bytes in reading order. -/
abbrev Bytes := List UInt8

namespace Utf8

/-! ## Writing -/

/-- The bytes of one character. -/
def encodeChar (c : Char) : Bytes :=
  let code := c.toNat
  if code < 0x80 then [UInt8.ofNat code]
  else if code < 0x800 then
    [UInt8.ofNat (0xC0 + code / 64), UInt8.ofNat (0x80 + code % 64)]
  else if code < 0x10000 then
    [UInt8.ofNat (0xE0 + code / 4096), UInt8.ofNat (0x80 + code / 64 % 64),
      UInt8.ofNat (0x80 + code % 64)]
  else
    [UInt8.ofNat (0xF0 + code / 262144), UInt8.ofNat (0x80 + code / 4096 % 64),
      UInt8.ofNat (0x80 + code / 64 % 64), UInt8.ofNat (0x80 + code % 64)]

/-- The bytes of a list of characters. -/
def encode (cs : List Char) : Bytes :=
  cs.flatMap encodeChar

/-- The bytes of a text. -/
def encodeText (text : String) : Bytes :=
  encode text.toList

/-! ## The shape of a sequence -/

/-- The range of an ordinary continuation byte. -/
def tailRange : Nat × Nat := (0x80, 0xBF)

/-- What a first byte announces. -/
structure Lead where
  /-- The bits of the first byte that belong to the code point. -/
  bits : Nat
  /-- The ranges of the bytes that must follow. -/
  tails : List (Nat × Nat)

/-- The shape announced by a first byte; none if no sequence starts with it. -/
def Lead.of? (byte : Nat) : Option Lead :=
  if byte < 0x80 then some ⟨byte, []⟩
  else if byte < 0xC2 then none
  else if byte < 0xE0 then some ⟨byte - 0xC0, [tailRange]⟩
  else if byte = 0xE0 then some ⟨0, [(0xA0, 0xBF), tailRange]⟩
  else if byte = 0xED then some ⟨0xD, [(0x80, 0x9F), tailRange]⟩
  else if byte < 0xF0 then some ⟨byte - 0xE0, [tailRange, tailRange]⟩
  else if byte = 0xF0 then some ⟨0, [(0x90, 0xBF), tailRange, tailRange]⟩
  else if byte < 0xF4 then some ⟨byte - 0xF0, [tailRange, tailRange, tailRange]⟩
  else if byte = 0xF4 then some ⟨4, [(0x80, 0x8F), tailRange, tailRange]⟩
  else none

/-! ## Reading one sequence -/

/-- What stands at the front of some bytes. -/
inductive Front where
  /-- A character, followed by `rest`. -/
  | char (c : Char) (rest : Bytes)
  /-- A bad sequence of `length` bytes, followed by `rest`. -/
  | bad (length : Nat) (rest : Bytes)
  /-- A sequence that the end of the bytes cuts short. -/
  | cut

/-- Reads the bytes that must follow after `used` bytes of a sequence that make up `value`. -/
def readTails (value used : Nat) : List (Nat × Nat) → Bytes → Front
  | [], rest => .char (Char.ofNat value) rest
  | _ :: _, [] => .cut
  | range :: ranges, byte :: rest =>
      if range.1 ≤ byte.toNat ∧ byte.toNat ≤ range.2 then
        readTails (value * 64 + (byte.toNat - 0x80)) (used + 1) ranges rest
      else .bad used (byte :: rest)

/-- Reads the sequence that starts with `byte`. -/
def readFront (byte : UInt8) (rest : Bytes) : Front :=
  match Lead.of? byte.toNat with
  | none => .bad 1 rest
  | some lead => readTails lead.bits 1 lead.tails rest

/-- The bytes left over are an end of the bytes read. -/
theorem length_le_of_readTails {value used : Nat} {ranges : List (Nat × Nat)} {bytes : Bytes} :
    (∀ {c rest}, readTails value used ranges bytes = .char c rest →
      rest.length ≤ bytes.length) ∧
    (∀ {length rest}, readTails value used ranges bytes = .bad length rest →
      rest.length ≤ bytes.length) := by
  fun_induction readTails value used ranges bytes with
  | case1 => simp
  | case2 => simp
  | case3 value used range ranges byte rest _ ih =>
      exact ⟨fun h => Nat.le_succ_of_le (ih.1 h), fun h => Nat.le_succ_of_le (ih.2 h)⟩
  | case4 => simp

theorem length_le_of_readFront_char {byte : UInt8} {bytes rest : Bytes} {c : Char}
    (h : readFront byte bytes = .char c rest) : rest.length ≤ bytes.length := by
  unfold readFront at h
  split at h
  · simp at h
  · exact length_le_of_readTails.1 h

theorem length_le_of_readFront_bad {byte : UInt8} {bytes rest : Bytes} {length : Nat}
    (h : readFront byte bytes = .bad length rest) : rest.length ≤ bytes.length := by
  unfold readFront at h
  split at h
  · simp only [Front.bad.injEq] at h
    simp [h.2]
  · exact length_le_of_readTails.2 h

/-! ## Reading all bytes -/

/-- Where reading fails. -/
structure Fault where
  /-- The offset at which the first bad sequence starts. -/
  index : Nat
  /-- Its length; none if it is cut short by the end of the bytes. -/
  length : Option Nat
deriving DecidableEq

/-- The fault in words. -/
def Fault.message (fault : Fault) : String :=
  match fault.length with
  | some length => s!"invalid utf-8 sequence of {length} bytes from index {fault.index}"
  | none => s!"incomplete utf-8 byte sequence from index {fault.index}"

/-- Reads bytes that start at offset `index` of a larger whole. -/
def decodeFrom (index : Nat) : Bytes → Except Fault (List Char)
  | [] => .ok []
  | byte :: bytes =>
      match h : readFront byte bytes with
      | .char c rest =>
          (decodeFrom (index + (bytes.length + 1 - rest.length)) rest).map (c :: ·)
      | .bad length _ => .error ⟨index, some length⟩
      | .cut => .error ⟨index, none⟩
termination_by bytes => bytes.length
decreasing_by exact Nat.lt_succ_of_le (length_le_of_readFront_char h)

/-- The characters written by `bytes`. -/
def decode (bytes : Bytes) : Except Fault (List Char) :=
  decodeFrom 0 bytes

/-- The text written by `bytes`. -/
def decodeText (bytes : Bytes) : Except Fault String :=
  (decode bytes).map String.ofList

/-- Reads all bytes, with U+FFFD in place of each bad sequence. -/
def decodeLossy : Bytes → List Char
  | [] => []
  | byte :: bytes =>
      match _h : readFront byte bytes with
      | .char c rest => c :: decodeLossy rest
      | .bad _ rest => Char.ofNat 0xFFFD :: decodeLossy rest
      | .cut => [Char.ofNat 0xFFFD]
termination_by bytes => bytes.length
decreasing_by
  · exact Nat.lt_succ_of_le (length_le_of_readFront_char _h)
  · exact Nat.lt_succ_of_le (length_le_of_readFront_bad _h)

end Utf8

end ClassDiagram
