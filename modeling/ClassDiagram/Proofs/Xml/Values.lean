import ClassDiagram.Proofs.Xml.Writing
import ClassDiagram.Xml.Reference

/-!
# Written values are read back

However the characters of a value are written, `expandReferences` gives them
back.  A character is a matter of its own: the expansion of what is written for
it does not depend on what follows, and what it stands for is not read again.
-/

namespace ClassDiagram.Xml

/-! ## Numbers -/

/-- A digit is not a sign and has no meaning in references. -/
theorem digit_cases {c : Char} {value : Nat} (hlt : value < 16) (hdigit : IsDigit c value) :
    digitValue? c = some value ∧ inReference c = true ∧ c ∉ ['+', '-', 'x'] ∧
      c ∉ entities.map Prod.fst := by
  have hall : ((List.range 16).all fun value =>
      [Nat.digitChar value, (Nat.digitChar value).toUpper].all fun c =>
        digitValue? c = some value ∧ inReference c = true ∧ c ∉ ['+', '-', 'x'] ∧
          c ∉ entities.map Prod.fst) = true := by decide
  have hvalue := List.all_eq_true.1 (List.all_eq_true.1 hall value (List.mem_range.2 hlt))
  apply of_decide_eq_true
  apply hvalue
  rcases hdigit with rfl | rfl <;> simp

theorem digits_of_spells {base number : Nat} {digits : List Char} (hbase : base ≤ 16)
    (h : Spells base digits number) :
    digits ≠ [] ∧ ∀ c ∈ digits, ∃ value < 16, IsDigit c value := by
  induction h with
  | single hlt hdigit =>
      refine ⟨by simp, fun c hc => ?_⟩
      rw [List.mem_singleton.1 hc]
      exact ⟨_, by omega, hdigit⟩
  | snoc _ hlt hdigit ih =>
      refine ⟨by simp, fun c hc => ?_⟩
      rcases List.mem_append.1 hc with hc | hc
      · exact ih.2 c hc
      · rw [List.mem_singleton.1 hc]
        exact ⟨_, by omega, hdigit⟩

/-- Digits are read as the number that they spell, if it is not too large. -/
theorem readDigits_of_spells {base number : Nat} {digits : List Char} (hbase : base ≤ 16)
    (h : Spells base digits number) (hnumber : number < 4294967296) (rest : List Char) :
    readDigits base 0 (digits ++ rest) = readDigits base number rest := by
  induction h generalizing rest with
  | @single c value hlt hdigit =>
      have hvalue := (digit_cases (by omega) hdigit).1
      simp [readDigits, hvalue, Option.filter, hlt, hnumber]
  | @snoc digits c number value hdigits hlt hdigit ih =>
      have hvalue := (digit_cases (by omega) hdigit).1
      have hle : number ≤ number * base := Nat.le_mul_of_pos_right number (by omega)
      rw [List.append_assoc, ih (by omega)]
      simp [readDigits, hvalue, Option.filter, hlt, hnumber]

theorem readNumber_of_spells {base number : Nat} {digits : List Char} (hbase : base ≤ 16)
    (h : Spells base digits number) (hnumber : number < 4294967296) :
    readNumber base digits = .ok number := by
  obtain ⟨hne, hall⟩ := digits_of_spells hbase h
  have hread := readDigits_of_spells hbase h hnumber []
  rw [List.append_nil, readDigits] at hread
  cases digits with
  | nil => exact absurd rfl hne
  | cons c digits =>
      obtain ⟨value, hlt, hdigit⟩ := hall c List.mem_cons_self
      have hsign := (digit_cases hlt hdigit).2.2.1
      simp only [List.mem_cons, List.not_mem_nil, or_false, not_or] at hsign
      rw [readNumber, if_neg (by simp [hsign]), hread]

/-- The code of a character is well below the limit of numbers. -/
theorem toNat_lt (c : Char) : c.toNat < 4294967296 := by
  rcases c.valid with h | h
  · exact Nat.lt_trans h (by decide)
  · exact Nat.lt_trans h.2 (by decide)

/-- The number of a character names the character. -/
theorem numberedChar_of_number {c : Char} (hzero : c.toNat ≠ 0)
    {number : Except ReferenceFault Nat} (h : number = .ok c.toNat) :
    (number >>= fun code =>
      if code = 0 then .error .zero
      else if code.isValidChar then .ok (Char.ofNat code)
      else .error (.notCharacter code)) = .ok c := by
  have hvalid : c.toNat.isValidChar := c.valid
  rw [h]
  show (if c.toNat = 0 then _ else if c.toNat.isValidChar then _ else _) = _
  rw [if_neg hzero, if_pos hvalid, Char.ofNat_toNat]

theorem numberedChar_decimal {c : Char} {digits : List Char} (hzero : c.toNat ≠ 0)
    (h : Spells 10 digits c.toNat) : numberedChar digits = .ok c := by
  have hnumber := readNumber_of_spells (by decide) h (toNat_lt c)
  unfold numberedChar
  split
  · next rest =>
      obtain ⟨value, hlt, hdigit⟩ := (digits_of_spells (by decide) h).2 'x' List.mem_cons_self
      have hx := (digit_cases hlt hdigit).2.2.1
      simp at hx
  · exact numberedChar_of_number hzero hnumber

theorem numberedChar_hexadecimal {c : Char} {digits : List Char} (hzero : c.toNat ≠ 0)
    (h : Spells 16 digits c.toNat) : numberedChar ('x' :: digits) = .ok c :=
  numberedChar_of_number hzero (readNumber_of_spells (by decide) h (toNat_lt c))

/-! ## References -/

/-- What stands between `&` and `;` is expanded to the character that it refers to. -/
theorem expandFrom_reference {name rest cs : List Char} {c : Char}
    (hname : ∀ c ∈ name, inReference c = true)
    (hrefers : ∀ start, referredChar start name = .ok c)
    (hrest : ∀ offset, expandFrom offset rest = .ok cs) (offset : Nat) :
    expandFrom offset ('&' :: name ++ [';'] ++ rest) = .ok (c :: cs) := by
  have hdrop : (name ++ ';' :: rest).dropWhile inReference = ';' :: rest := by
    rw [List.dropWhile_append_of_pos hname]
    rfl
  have htake : (name ++ ';' :: rest).takeWhile inReference = name := by
    rw [List.takeWhile_append_of_pos hname]
    exact List.append_nil name
  rw [List.cons_append, List.cons_append, List.append_assoc, List.singleton_append, expandFrom,
    if_pos rfl]
  split
  · next after h =>
      rw [hdrop] at h
      obtain rfl := (List.cons.inj h).2
      simp only [htake, hrefers, hrest]
      rfl
  · next h => exact absurd hdrop (h rest)

theorem referredChar_entity {c : Char} {name : List Char} (h : (c, name) ∈ entities)
    (start : Nat) : referredChar start name = .ok c := by
  simp only [entities, List.mem_cons, Prod.mk.injEq, List.not_mem_nil, or_false] at h
  rcases h with ⟨rfl, rfl⟩ | ⟨rfl, rfl⟩ | ⟨rfl, rfl⟩ | ⟨rfl, rfl⟩ | ⟨rfl, rfl⟩ <;> rfl

theorem inReference_entity {c : Char} {name : List Char} (h : (c, name) ∈ entities) :
    ∀ c ∈ name, inReference c = true := by
  have hall : (entities.all fun entity => entity.2.all inReference) = true := by decide
  exact List.all_eq_true.1 (List.all_eq_true.1 hall (c, name) h)

theorem inReference_digits {base number : Nat} {digits : List Char} (hbase : base ≤ 16)
    (h : Spells base digits number) : ∀ c ∈ digits, inReference c = true := by
  intro c hc
  obtain ⟨value, hlt, hdigit⟩ := (digits_of_spells hbase h).2 c hc
  exact (digit_cases hlt hdigit).2.1

/-! ## Values -/

/-- What is written for a character is expanded to it. -/
theorem expandFrom_writesChar {c : Char} {written rest cs : List Char}
    (h : WritesChar c written) (hrest : ∀ offset, expandFrom offset rest = .ok cs)
    (offset : Nat) : expandFrom offset (written ++ rest) = .ok (c :: cs) := by
  cases h with
  | entity hname =>
      exact expandFrom_reference (inReference_entity hname) (referredChar_entity hname) hrest offset
  | raw hplain =>
      have hamp : c ≠ '&' := fun heq => hplain (heq ▸ by decide)
      rw [List.singleton_append, expandFrom, if_neg hamp, hrest]
      rfl
  | @decimal digits hzero hdigits =>
      have hname : ∀ c ∈ '#' :: digits, inReference c = true :=
        List.forall_mem_cons.2 ⟨rfl, inReference_digits (by decide) hdigits⟩
      exact expandFrom_reference hname (fun _ => numberedChar_decimal hzero hdigits) hrest offset
  | @hexadecimal digits hzero hdigits =>
      have hname : ∀ c ∈ '#' :: 'x' :: digits, inReference c = true :=
        List.forall_mem_cons.2 ⟨rfl,
          List.forall_mem_cons.2 ⟨rfl, inReference_digits (by decide) hdigits⟩⟩
      exact expandFrom_reference hname (fun _ => numberedChar_hexadecimal hzero hdigits) hrest
        offset

/-- What is written for a value is expanded to it. -/
theorem expandReferences_of_writesValue {cs written : List Char} (h : WritesValue cs written) :
    expandReferences written = .ok cs := by
  have hall : ∀ offset, expandFrom offset written = .ok cs := by
    induction h with
    | nil =>
        intro offset
        rw [expandFrom]
    | cons hchar _ ih => exact expandFrom_writesChar hchar ih
  exact hall 0

/-- The character is no quote. -/
def NoQuote (c : Char) : Prop := c ≠ doubleQuote ∧ c ≠ singleQuote

instance (c : Char) : Decidable (NoQuote c) := inferInstanceAs (Decidable (_ ∧ _))

theorem noQuote_of_not_mem {c : Char} (h : c ∉ entities.map Prod.fst) : NoQuote c := by
  refine ⟨fun heq => h ?_, fun heq => h ?_⟩
  · rw [heq]
    decide
  · rw [heq]
    decide

theorem noQuote_digits {base number : Nat} {digits : List Char} (hbase : base ≤ 16)
    (h : Spells base digits number) : ∀ c ∈ digits, NoQuote c := by
  intro c hc
  obtain ⟨value, hlt, hdigit⟩ := (digits_of_spells hbase h).2 c hc
  exact noQuote_of_not_mem (digit_cases hlt hdigit).2.2.2

/-- Nothing that is written for a character holds a quote. -/
theorem noQuote_writesChar {c : Char} {written : List Char} (h : WritesChar c written) :
    ∀ c ∈ written, NoQuote c := by
  have hamp : NoQuote '&' := by decide
  have hhash : NoQuote '#' := by decide
  have hx : NoQuote 'x' := by decide
  have hend : NoQuote ';' := by decide
  cases h with
  | @entity name hname =>
      have hall : (entities.all fun entity => entity.2.all (NoQuote ·)) = true := by decide
      have hname' : ∀ c ∈ name, NoQuote c := fun c hc => of_decide_eq_true
        (List.all_eq_true.1 (List.all_eq_true.1 hall (_, name) hname) c hc)
      simpa [or_imp, forall_and, hamp, hend] using hname'
  | raw hplain => simpa using noQuote_of_not_mem hplain
  | decimal hzero hdigits =>
      simpa [or_imp, forall_and, hamp, hhash, hend] using noQuote_digits (by decide) hdigits
  | hexadecimal hzero hdigits =>
      simpa [or_imp, forall_and, hamp, hhash, hx, hend] using noQuote_digits (by decide) hdigits

/-- A quote in a value is never written as itself. -/
theorem noQuote_writesValue {cs written : List Char} (h : WritesValue cs written) :
    ∀ c ∈ written, NoQuote c := by
  induction h with
  | nil => simp
  | cons hchar _ ih =>
      intro c hc
      rcases List.mem_append.1 hc with hc | hc
      · exact noQuote_writesChar hchar c hc
      · exact ih c hc

end ClassDiagram.Xml
