import ClassDiagram.Utf8

/-!
# UTF-8 read back

Every character is read back from its own bytes, whatever follows them
(`readFront_encodeChar`), and from no other bytes (`eq_encodeChar_of_readFront`): the ranges
of the bytes that follow leave no second writing.  So `decode` undoes `encode`, and what it
reads is what was written (`decode_eq_ok_iff`).

The bytes of an ASCII character are its code alone, and no other character has
such a byte.  A search for an ASCII byte in written text thus finds the character.
-/

namespace ClassDiagram.Utf8

/-! ## One character -/

theorem toNat_ofNat {code : Nat} (h : code < 256) : (UInt8.ofNat code).toNat = code :=
  UInt8.toNat_ofNat_of_lt' h

theorem toNat_ofNat_of_isValidChar {code : Nat} (h : code.isValidChar) :
    (Char.ofNat code).toNat = code := by
  rw [Char.ofNat, dif_pos h]
  rfl

/-- The code of a character is not that of a surrogate. -/
theorem toNat_cases (c : Char) :
    c.toNat < 0xD800 ∨ 0xDFFF < c.toNat ∧ c.toNat < 0x110000 := c.valid

theorem encodeChar_of_ascii {c : Char} (h : c.toNat < 0x80) :
    encodeChar c = [UInt8.ofNat c.toNat] := by
  simp only [encodeChar, if_pos h]

/-- A byte in the range adds its six bits. -/
theorem readTails_cons {value used bits : Nat} {range : Nat × Nat} {ranges : List (Nat × Nat)}
    {rest : Bytes} (hbits : bits < 64)
    (hrange : range.1 ≤ 0x80 + bits ∧ 0x80 + bits ≤ range.2) :
    readTails value used (range :: ranges) (UInt8.ofNat (0x80 + bits) :: rest) =
      readTails (value * 64 + bits) (used + 1) ranges rest := by
  have hbyte : (UInt8.ofNat (0x80 + bits)).toNat = 0x80 + bits := toNat_ofNat (by omega)
  rw [readTails, hbyte, if_pos hrange, Nat.add_sub_cancel_left]

/-- The first byte of a character announces the bytes that follow. -/
theorem readFront_of_lead {code bits : Nat} {tails : List (Nat × Nat)} (hcode : code < 256)
    (hlead : Lead.of? code = some ⟨bits, tails⟩) (rest : Bytes) :
    readFront (UInt8.ofNat code) rest = readTails bits 1 tails rest := by
  rw [readFront, toNat_ofNat hcode, hlead]

theorem lead_two {bits : Nat} (h : 2 ≤ bits) (h' : bits < 32) :
    Lead.of? (0xC0 + bits) = some ⟨bits, [tailRange]⟩ := by
  rw [Lead.of?, if_neg (by omega), if_neg (by omega), if_pos (by omega), Nat.add_sub_cancel_left]

/-- The range of the second of three bytes. -/
def secondOfThree (bits : Nat) : Nat × Nat :=
  if bits = 0 then (0xA0, 0xBF) else if bits = 13 then (0x80, 0x9F) else tailRange

theorem lead_three {bits : Nat} (h : bits < 16) :
    Lead.of? (0xE0 + bits) = some ⟨bits, [secondOfThree bits, tailRange]⟩ := by
  by_cases hfirst : bits = 0
  · subst hfirst
    rfl
  · by_cases hsurrogates : bits = 13
    · subst hsurrogates
      rfl
    · rw [Lead.of?, if_neg (by omega), if_neg (by omega), if_neg (by omega), if_neg (by omega),
        if_neg (by omega), if_pos (by omega), Nat.add_sub_cancel_left, secondOfThree,
        if_neg hfirst, if_neg hsurrogates]

/-- The range of the second of four bytes. -/
def secondOfFour (bits : Nat) : Nat × Nat :=
  if bits = 0 then (0x90, 0xBF) else if bits = 4 then (0x80, 0x8F) else tailRange

theorem lead_four {bits : Nat} (h : bits < 5) :
    Lead.of? (0xF0 + bits) = some ⟨bits, [secondOfFour bits, tailRange, tailRange]⟩ := by
  by_cases hfirst : bits = 0
  · subst hfirst
    rfl
  · by_cases hlast : bits = 4
    · subst hlast
      rfl
    · rw [Lead.of?, if_neg (by omega), if_neg (by omega), if_neg (by omega), if_neg (by omega),
        if_neg (by omega), if_neg (by omega), if_neg (by omega), if_pos (by omega),
        Nat.add_sub_cancel_left, secondOfFour, if_neg hfirst, if_neg hlast]

theorem readFront_two {code : Nat} (h : 0x80 ≤ code) (h' : code < 0x800) (rest : Bytes) :
    readFront (UInt8.ofNat (0xC0 + code / 64)) (UInt8.ofNat (0x80 + code % 64) :: rest) =
      .char (Char.ofNat code) rest := by
  have hvalue : code / 64 * 64 + code % 64 = code := by omega
  rw [readFront_of_lead (by omega) (lead_two (by omega) (by omega)),
    readTails_cons (by omega) (by simp only [tailRange]; omega), hvalue, readTails]

theorem readFront_three {code : Nat} (h : 0x800 ≤ code) (h' : code < 0x10000)
    (hvalid : code < 0xD800 ∨ 0xDFFF < code) (rest : Bytes) :
    readFront (UInt8.ofNat (0xE0 + code / 4096))
      (UInt8.ofNat (0x80 + code / 64 % 64) :: UInt8.ofNat (0x80 + code % 64) :: rest) =
        .char (Char.ofNat code) rest := by
  have hvalue : (code / 4096 * 64 + code / 64 % 64) * 64 + code % 64 = code := by omega
  have hsecond : (secondOfThree (code / 4096)).1 ≤ 0x80 + code / 64 % 64 ∧
      0x80 + code / 64 % 64 ≤ (secondOfThree (code / 4096)).2 := by
    unfold secondOfThree tailRange
    split
    · omega
    · split <;> omega
  rw [readFront_of_lead (by omega) (lead_three (by omega)), readTails_cons (by omega) hsecond,
    readTails_cons (by omega) (by simp only [tailRange]; omega), hvalue, readTails]

theorem readFront_four {code : Nat} (h : 0x10000 ≤ code) (h' : code < 0x110000) (rest : Bytes) :
    readFront (UInt8.ofNat (0xF0 + code / 262144))
      (UInt8.ofNat (0x80 + code / 4096 % 64) :: UInt8.ofNat (0x80 + code / 64 % 64) ::
        UInt8.ofNat (0x80 + code % 64) :: rest) = .char (Char.ofNat code) rest := by
  have hvalue : ((code / 262144 * 64 + code / 4096 % 64) * 64 + code / 64 % 64) * 64 +
      code % 64 = code := by omega
  have hsecond : (secondOfFour (code / 262144)).1 ≤ 0x80 + code / 4096 % 64 ∧
      0x80 + code / 4096 % 64 ≤ (secondOfFour (code / 262144)).2 := by
    unfold secondOfFour tailRange
    split
    · omega
    · split <;> omega
  rw [readFront_of_lead (by omega) (lead_four (by omega)), readTails_cons (by omega) hsecond,
    readTails_cons (by omega) (by simp only [tailRange]; omega),
    readTails_cons (by omega) (by simp only [tailRange]; omega), hvalue, readTails]

/-- A character is read back from its bytes, whatever follows them. -/
theorem readFront_encodeChar (c : Char) : ∃ byte tail, encodeChar c = byte :: tail ∧
    ∀ rest, readFront byte (tail ++ rest) = .char c rest := by
  have hvalid := toNat_cases c
  have hc : Char.ofNat c.toNat = c := Char.ofNat_toNat c
  unfold encodeChar
  simp only
  by_cases hone : c.toNat < 0x80
  · rw [if_pos hone]
    refine ⟨_, _, rfl, fun rest => ?_⟩
    have hlead : Lead.of? c.toNat = some ⟨c.toNat, []⟩ := by rw [Lead.of?, if_pos hone]
    rw [readFront_of_lead (by omega) hlead, readTails, hc, List.nil_append]
  · rw [if_neg hone]
    by_cases htwo : c.toNat < 0x800
    · rw [if_pos htwo]
      refine ⟨_, _, rfl, fun rest => ?_⟩
      exact (readFront_two (by omega) htwo rest).trans (by rw [hc])
    · rw [if_neg htwo]
      by_cases hthree : c.toNat < 0x10000
      · rw [if_pos hthree]
        refine ⟨_, _, rfl, fun rest => ?_⟩
        exact (readFront_three (by omega) hthree (by omega) rest).trans (by rw [hc])
      · rw [if_neg hthree]
        refine ⟨_, _, rfl, fun rest => ?_⟩
        exact (readFront_four (by omega) (by omega) rest).trans (by rw [hc])

/-! ## The bytes of a character -/

/-- The range of a byte that follows. -/
def Follows (range : Nat × Nat) : Prop := 0x80 ≤ range.1 ∧ range.2 ≤ 0xBF

instance (range : Nat × Nat) : Decidable (Follows range) :=
  inferInstanceAs (Decidable (_ ∧ _))

theorem follows_tailRange : Follows tailRange := by decide

theorem follows_secondOfThree (bits : Nat) : Follows (secondOfThree bits) := by
  unfold secondOfThree
  split
  · decide
  · split <;> decide

theorem follows_secondOfFour (bits : Nat) : Follows (secondOfFour bits) := by
  unfold secondOfFour
  split
  · decide
  · split <;> decide

/-- A byte that must follow is read if it lies in its range, and adds its six bits. -/
theorem exists_of_readTails_cons {value used : Nat} {range : Nat × Nat} {ranges : List (Nat × Nat)}
    (hrange : Follows range) {bytes after : Bytes} {c : Char}
    (h : readTails value used (range :: ranges) bytes = .char c after) :
    ∃ bits rest, bytes = UInt8.ofNat (0x80 + bits) :: rest ∧ bits < 64 ∧
      (range.1 ≤ 0x80 + bits ∧ 0x80 + bits ≤ range.2) ∧
      readTails (value * 64 + bits) (used + 1) ranges rest = .char c after := by
  obtain ⟨hlow, hhigh⟩ := hrange
  cases bytes with
  | nil => cases h
  | cons byte rest =>
      rw [readTails] at h
      split at h
      · next hbyte =>
          have hbits : 0x80 + (byte.toNat - 0x80) = byte.toNat := by omega
          refine ⟨byte.toNat - 0x80, rest, ?_, by omega, by omega, h⟩
          rw [hbits, UInt8.ofNat_toNat]
      · cases h

theorem readTails_nil_eq_char_iff {value used : Nat} {bytes after : Bytes} {c : Char} :
    readTails value used [] bytes = .char c after ↔ Char.ofNat value = c ∧ bytes = after := by
  rw [readTails, Front.char.injEq]

/-- Only these bytes can be first. -/
theorem lead_cases {code : Nat} {lead : Lead} (h : Lead.of? code = some lead) :
    (code < 0x80 ∧ lead = ⟨code, []⟩) ∨
      (∃ bits, 2 ≤ bits ∧ bits < 32 ∧ code = 0xC0 + bits ∧ lead = ⟨bits, [tailRange]⟩) ∨
      (∃ bits, bits < 16 ∧ code = 0xE0 + bits ∧
        lead = ⟨bits, [secondOfThree bits, tailRange]⟩) ∨
      ∃ bits, bits < 5 ∧ code = 0xF0 + bits ∧
        lead = ⟨bits, [secondOfFour bits, tailRange, tailRange]⟩ := by
  by_cases hone : code < 0x80
  · rw [Lead.of?, if_pos hone] at h
    exact .inl ⟨hone, (Option.some.inj h).symm⟩
  · by_cases hnone : code < 0xC2
    · rw [Lead.of?, if_neg hone, if_pos hnone] at h
      cases h
    · by_cases htwo : code < 0xE0
      · obtain ⟨bits, rfl⟩ := Nat.exists_eq_add_of_le (show 0xC0 ≤ code by omega)
        rw [lead_two (by omega) (by omega)] at h
        exact .inr (.inl ⟨bits, by omega, by omega, rfl, (Option.some.inj h).symm⟩)
      · by_cases hthree : code < 0xF0
        · obtain ⟨bits, rfl⟩ := Nat.exists_eq_add_of_le (show 0xE0 ≤ code by omega)
          rw [lead_three (by omega)] at h
          exact .inr (.inr (.inl ⟨bits, by omega, rfl, (Option.some.inj h).symm⟩))
        · by_cases hfour : code < 0xF5
          · obtain ⟨bits, rfl⟩ := Nat.exists_eq_add_of_le (show 0xF0 ≤ code by omega)
            rw [lead_four (by omega)] at h
            exact .inr (.inr (.inr ⟨bits, by omega, rfl, (Option.some.inj h).symm⟩))
          · have hnone : Lead.of? code = none := by
              simp only [Lead.of?]
              repeat rw [if_neg (by omega)]
            rw [hnone] at h
            cases h

theorem encodeChar_two {first second : Nat} (hlow : 2 ≤ first) (hhigh : first < 32)
    (hsecond : second < 64) :
    encodeChar (Char.ofNat (first * 64 + second)) =
      [UInt8.ofNat (0xC0 + first), UInt8.ofNat (0x80 + second)] := by
  have hcode : (Char.ofNat (first * 64 + second)).toNat = first * 64 + second :=
    toNat_ofNat_of_isValidChar (.inl (by omega))
  have hfirst : (first * 64 + second) / 64 = first := by omega
  have hsecond : (first * 64 + second) % 64 = second := by omega
  rw [encodeChar, hcode]
  rw [if_neg (by omega), if_pos (by omega), hfirst, hsecond]

theorem encodeChar_three {first second third : Nat} (hfirst : first < 16)
    (hsecond : (secondOfThree first).1 ≤ 0x80 + second ∧ 0x80 + second ≤ (secondOfThree first).2)
    (hthird : third < 64) :
    encodeChar (Char.ofNat ((first * 64 + second) * 64 + third)) =
      [UInt8.ofNat (0xE0 + first), UInt8.ofNat (0x80 + second), UInt8.ofNat (0x80 + third)] := by
  -- The narrow ranges keep the code from being short or that of a surrogate.
  have hbounds : second < 64 ∧ 0x800 ≤ (first * 64 + second) * 64 + third ∧
      ((first * 64 + second) * 64 + third < 0xD800 ∨
        0xDFFF < (first * 64 + second) * 64 + third) := by
    unfold secondOfThree tailRange at hsecond
    split at hsecond
    · simp only at hsecond; omega
    · split at hsecond <;> simp only at hsecond <;> omega
  obtain ⟨hsix, hlow, hvalid⟩ := hbounds
  have hcode : (Char.ofNat ((first * 64 + second) * 64 + third)).toNat =
      (first * 64 + second) * 64 + third :=
    toNat_ofNat_of_isValidChar (hvalid.imp_right fun hlt => ⟨hlt, by omega⟩)
  have hparts : ((first * 64 + second) * 64 + third) / 4096 = first ∧
      ((first * 64 + second) * 64 + third) / 64 % 64 = second ∧
      ((first * 64 + second) * 64 + third) % 64 = third := by omega
  rw [encodeChar, hcode]
  rw [if_neg (by omega), if_neg (by omega), if_pos (by omega), hparts.1, hparts.2.1, hparts.2.2]

theorem encodeChar_four {first second third fourth : Nat} (hfirst : first < 5)
    (hsecond : (secondOfFour first).1 ≤ 0x80 + second ∧ 0x80 + second ≤ (secondOfFour first).2)
    (hthird : third < 64) (hfourth : fourth < 64) :
    encodeChar (Char.ofNat (((first * 64 + second) * 64 + third) * 64 + fourth)) =
      [UInt8.ofNat (0xF0 + first), UInt8.ofNat (0x80 + second), UInt8.ofNat (0x80 + third),
        UInt8.ofNat (0x80 + fourth)] := by
  have hbounds : second < 64 ∧ 0x10000 ≤ ((first * 64 + second) * 64 + third) * 64 + fourth ∧
      ((first * 64 + second) * 64 + third) * 64 + fourth < 0x110000 := by
    unfold secondOfFour tailRange at hsecond
    split at hsecond
    · simp only at hsecond; omega
    · split at hsecond <;> simp only at hsecond <;> omega
  obtain ⟨hsix, hlow, hvalid⟩ := hbounds
  have hcode : (Char.ofNat (((first * 64 + second) * 64 + third) * 64 + fourth)).toNat =
      ((first * 64 + second) * 64 + third) * 64 + fourth :=
    toNat_ofNat_of_isValidChar (.inr ⟨by omega, hvalid⟩)
  have hparts : (((first * 64 + second) * 64 + third) * 64 + fourth) / 262144 = first ∧
      (((first * 64 + second) * 64 + third) * 64 + fourth) / 4096 % 64 = second ∧
      (((first * 64 + second) * 64 + third) * 64 + fourth) / 64 % 64 = third ∧
      (((first * 64 + second) * 64 + third) * 64 + fourth) % 64 = fourth := by omega
  rw [encodeChar, hcode]
  rw [if_neg (by omega), if_neg (by omega), if_neg (by omega), hparts.1, hparts.2.1,
    hparts.2.2.1, hparts.2.2.2]

/-- A character is read from its own bytes only. -/
theorem eq_encodeChar_of_readFront {byte : UInt8} {bytes after : Bytes} {c : Char}
    (h : readFront byte bytes = .char c after) : byte :: bytes = encodeChar c ++ after := by
  unfold readFront at h
  split at h
  · cases h
  · next lead hlead =>
      have hbyte : UInt8.ofNat byte.toNat = byte := UInt8.ofNat_toNat
      rcases lead_cases hlead with ⟨hone, rfl⟩ | ⟨first, hlow, hhigh, hcode, rfl⟩ |
        ⟨first, hfirst, hcode, rfl⟩ | ⟨first, hfirst, hcode, rfl⟩
      · obtain ⟨rfl, rfl⟩ := readTails_nil_eq_char_iff.1 h
        have hchar : (Char.ofNat byte.toNat).toNat = byte.toNat :=
          toNat_ofNat_of_isValidChar (.inl (by omega))
        have hascii : (Char.ofNat byte.toNat).toNat < 0x80 := by omega
        rw [encodeChar_of_ascii hascii, hchar, hbyte]
        rfl
      · obtain ⟨second, rest, rfl, hsecond, -, h⟩ := exists_of_readTails_cons follows_tailRange h
        obtain ⟨rfl, rfl⟩ := readTails_nil_eq_char_iff.1 h
        rw [encodeChar_two hlow hhigh hsecond, ← hcode, hbyte]
        rfl
      · obtain ⟨second, rest, rfl, -, hsecond, h⟩ :=
          exists_of_readTails_cons (follows_secondOfThree first) h
        obtain ⟨third, rest, rfl, hthird, -, h⟩ := exists_of_readTails_cons follows_tailRange h
        obtain ⟨rfl, rfl⟩ := readTails_nil_eq_char_iff.1 h
        rw [encodeChar_three hfirst hsecond hthird, ← hcode, hbyte]
        rfl
      · obtain ⟨second, rest, rfl, -, hsecond, h⟩ :=
          exists_of_readTails_cons (follows_secondOfFour first) h
        obtain ⟨third, rest, rfl, hthird, -, h⟩ := exists_of_readTails_cons follows_tailRange h
        obtain ⟨fourth, rest, rfl, hfourth, -, h⟩ := exists_of_readTails_cons follows_tailRange h
        obtain ⟨rfl, rfl⟩ := readTails_nil_eq_char_iff.1 h
        rw [encodeChar_four hfirst hsecond hthird hfourth, ← hcode, hbyte]
        rfl

/-! ## Texts -/

@[simp]
theorem encode_nil : encode [] = [] := rfl

@[simp]
theorem encode_cons (c : Char) (cs : List Char) : encode (c :: cs) = encodeChar c ++ encode cs :=
  rfl

@[simp]
theorem encode_append (cs cs' : List Char) : encode (cs ++ cs') = encode cs ++ encode cs' :=
  List.flatMap_append

theorem decodeFrom_encode (index : Nat) (cs : List Char) :
    decodeFrom index (encode cs) = .ok cs := by
  induction cs generalizing index with
  | nil => rw [encode_nil, decodeFrom]
  | cons c cs ih =>
      obtain ⟨byte, tail, hc, hfront⟩ := readFront_encodeChar c
      rw [encode_cons, hc, List.cons_append, decodeFrom]
      split
      · next c' rest' h =>
          rw [hfront] at h
          obtain ⟨rfl, rfl⟩ := Front.char.inj h
          rw [ih]
          rfl
      · next h =>
          rw [hfront] at h
          cases h
      · next h =>
          rw [hfront] at h
          cases h

/-- What was written is read back. -/
theorem decode_encode (cs : List Char) : decode (encode cs) = .ok cs :=
  decodeFrom_encode 0 cs

theorem decodeText_encode (text : String) : decodeText (encode text.toList) = .ok text := by
  rw [decodeText, decode_encode]
  exact congrArg Except.ok String.ofList_toList

/-- Different characters are written differently. -/
theorem encode_injective : Function.Injective encode := by
  intro cs cs' h
  have hok : (Except.ok cs : Except Fault (List Char)) = .ok cs' := by
    rw [← decode_encode cs, h, decode_encode cs']
  exact Except.ok.inj hok

theorem eq_encode_of_decodeFrom {index : Nat} {bytes : Bytes} {cs : List Char}
    (h : decodeFrom index bytes = .ok cs) : bytes = encode cs := by
  fun_induction decodeFrom index bytes generalizing cs with
  | case1 => 
      obtain rfl := Except.ok.inj h
      rfl
  | case2 index byte bytes c rest hfront ih =>
      cases hrest : decodeFrom (index + (bytes.length + 1 - rest.length)) rest with
      | error fault => 
          rw [hrest] at h
          cases h
      | ok cs' =>
          rw [hrest] at h
          obtain rfl := Except.ok.inj h
          rw [eq_encodeChar_of_readFront hfront, ih hrest, encode_cons]
  | case3 => cases h
  | case4 => cases h

/-- Bytes are read as the characters of which they are the writing, and as no others. -/
theorem decode_eq_ok_iff {bytes : Bytes} {cs : List Char} :
    decode bytes = .ok cs ↔ bytes = encode cs := by
  constructor
  · exact eq_encode_of_decodeFrom
  · rintro rfl
    exact decode_encode cs

theorem decodeText_eq_ok_iff {bytes : Bytes} {text : String} :
    decodeText bytes = .ok text ↔ bytes = encodeText text := by
  constructor
  · intro h
    cases hdecode : decode bytes with
    | error fault => 
        rw [decodeText, hdecode] at h
        cases h
    | ok cs =>
        rw [decodeText, hdecode] at h
        obtain rfl := Except.ok.inj h
        rw [encodeText, String.toList_ofList]
        exact decode_eq_ok_iff.1 hdecode
  · rintro rfl
    exact decodeText_encode text

/-! ## ASCII bytes -/

/-- A byte of a character that is not ASCII is not ASCII either. -/
theorem le_of_mem_encodeChar {c : Char} (h : 0x80 ≤ c.toNat) {byte : UInt8}
    (hbyte : byte ∈ encodeChar c) : 0x80 ≤ byte.toNat := by
  have hvalid := toNat_cases c
  unfold encodeChar at hbyte
  simp only [if_neg (Nat.not_lt.2 h)] at hbyte
  have hall : ∀ code, 0x80 ≤ code → code < 256 → byte = UInt8.ofNat code →
      0x80 ≤ byte.toNat := by
    rintro code hcode hlt rfl
    rw [toNat_ofNat hlt]
    exact hcode
  split at hbyte
  · simp only [List.mem_cons, List.not_mem_nil, or_false] at hbyte
    rcases hbyte with hbyte | hbyte <;> exact hall _ (by omega) (by omega) hbyte
  · split at hbyte
    · simp only [List.mem_cons, List.not_mem_nil, or_false] at hbyte
      rcases hbyte with hbyte | hbyte | hbyte <;> exact hall _ (by omega) (by omega) hbyte
    · simp only [List.mem_cons, List.not_mem_nil, or_false] at hbyte
      rcases hbyte with hbyte | hbyte | hbyte | hbyte <;>
        exact hall _ (by omega) (by omega) hbyte

/-- A character whose bytes have an ASCII byte among them is the one with that code. -/
theorem toNat_eq_of_mem_encodeChar {c : Char} {byte : UInt8} (hascii : byte.toNat < 0x80)
    (hbyte : byte ∈ encodeChar c) : c.toNat = byte.toNat := by
  by_cases hc : c.toNat < 0x80
  · rw [encodeChar_of_ascii hc, List.mem_singleton] at hbyte
    rw [hbyte, toNat_ofNat (by omega)]
  · have := le_of_mem_encodeChar (Nat.not_lt.1 hc) hbyte
    omega

/-- The byte of an ASCII character stands in no other character. -/
theorem ne_of_mem_encodeChar {c ascii : Char} (hascii : ascii.toNat < 0x80) (hne : c ≠ ascii)
    {byte : UInt8} (hbyte : byte ∈ encodeChar c) : byte ≠ UInt8.ofNat ascii.toNat := by
  rintro rfl
  have hcode : (UInt8.ofNat ascii.toNat).toNat = ascii.toNat := toNat_ofNat (by omega)
  have hsame := toNat_eq_of_mem_encodeChar (by omega) hbyte
  apply hne
  rw [← Char.ofNat_toNat c, hsame, hcode, Char.ofNat_toNat]

theorem ne_of_mem_encode {cs : List Char} {ascii : Char} (hascii : ascii.toNat < 0x80)
    (hne : ∀ c ∈ cs, c ≠ ascii) {byte : UInt8} (hbyte : byte ∈ encode cs) :
    byte ≠ UInt8.ofNat ascii.toNat := by
  obtain ⟨c, hc, hbyte⟩ := List.mem_flatMap.1 hbyte
  exact ne_of_mem_encodeChar hascii (hne c hc) hbyte

end ClassDiagram.Utf8
