import ClassDiagram.Json.Value
import Mathlib.Data.Option.Basic

/-!
# Scanning JSON text

The scanner goes through a text character by character and gives its tokens.
Between tokens it passes over blanks of any amount, so it reads more texts than
those that `Value.pretty` lays out.

On the text of a value the scanner gives the tokens of that value in order,
whatever the level of indentation (`scans_prettyAt`).
-/

namespace ClassDiagram.Json

/-! ## Tokens -/

/-- A sign of JSON. -/
inductive Token where
  | null
  | text (value : String)
  | openArray
  | closeArray
  | openObject
  | closeObject
  | comma
  | colon
deriving DecidableEq

/-- Where the scanner stands. -/
inductive ScanMode where
  | between
  /-- In the word for null, with what is left of it. -/
  | word (left : List Char)
  /-- In a text, with the characters read so far. -/
  | text (read : List Char)
  /-- In a text after a backslash. -/
  | escape (read : List Char)
  /-- In the code of a character, with the number of digits to come and the value so far. -/
  | code (read : List Char) (digits value : Nat)

namespace ScanMode

/-- The value of a digit in base sixteen, in either case. -/
def hexValue? (c : Char) : Option Nat :=
  let code := c.toNat
  if 0x30 ≤ code ∧ code ≤ 0x39 then some (code - 0x30)
  else if 0x61 ≤ code ∧ code ≤ 0x66 then some (code - 0x57)
  else if 0x41 ≤ code ∧ code ≤ 0x46 then some (code - 0x37)
  else none

/-- A character between tokens. -/
def stepBetween (c : Char) : Option (List Token × ScanMode) :=
  if c = ' ' ∨ c = '\n' ∨ c = '\r' ∨ c = '\t' then some ([], between)
  else if c = '[' then some ([.openArray], between)
  else if c = ']' then some ([.closeArray], between)
  else if c = Char.ofNat 0x7B then some ([.openObject], between)
  else if c = Char.ofNat 0x7D then some ([.closeObject], between)
  else if c = ',' then some ([.comma], between)
  else if c = ':' then some ([.colon], between)
  else if c = quoteMark then some ([], text [])
  else if c = 'n' then some ([], word ['u', 'l', 'l'])
  else none

/-- A character of the word for null. -/
def stepWord (left : List Char) (c : Char) : Option (List Token × ScanMode) :=
  if left = [c] then some ([.null], between)
  else if left.head? = some c then some ([], word left.tail)
  else none

/-- A character of a text.  Control characters are not allowed there. -/
def stepText (read : List Char) (c : Char) : Option (List Token × ScanMode) :=
  if c = quoteMark then some ([.text (String.ofList read)], between)
  else if c = '\\' then some ([], escape read)
  else if c.toNat < 0x20 then none
  else some ([], text (read ++ [c]))

/-- The character after a backslash. -/
def stepEscape (read : List Char) (c : Char) : Option (List Token × ScanMode) :=
  if c = quoteMark ∨ c = '\\' ∨ c = '/' then some ([], text (read ++ [c]))
  else if c = 'b' then some ([], text (read ++ [Char.ofNat 0x08]))
  else if c = 'f' then some ([], text (read ++ [Char.ofNat 0x0C]))
  else if c = 'n' then some ([], text (read ++ ['\n']))
  else if c = 'r' then some ([], text (read ++ ['\r']))
  else if c = 't' then some ([], text (read ++ ['\t']))
  else if c = 'u' then some ([], code read 4 0)
  else none

/-- A digit of the code of a character.  Codes that are not those of a character are refused. -/
def stepCode (read : List Char) (digits value : Nat) (c : Char) :
    Option (List Token × ScanMode) :=
  (hexValue? c).bind fun digit =>
    let value := 16 * value + digit
    if 1 < digits then some ([], code read (digits - 1) value)
    else if value.isValidChar then some ([], text (read ++ [Char.ofNat value]))
    else none

/-- The tokens that end with a character, and where the scanner stands after it. -/
def step : ScanMode → Char → Option (List Token × ScanMode)
  | between => stepBetween
  | word left => stepWord left
  | text read => stepText read
  | escape read => stepEscape read
  | code read digits value => stepCode read digits value

/-- The tokens that end in some characters, and where the scanner stands after them. -/
def run (mode : ScanMode) : List Char → Option (List Token × ScanMode)
  | [] => some ([], mode)
  | c :: cs => do
      let (tokens, mode) ← mode.step c
      let (tokens', mode) ← mode.run cs
      return (tokens ++ tokens', mode)

end ScanMode

/-- The tokens of a text, which must not end within one. -/
def scan (cs : List Char) : Option (List Token) :=
  match ScanMode.between.run cs with
  | some (tokens, .between) => some tokens
  | _ => none

/-! ## Runs of the scanner -/

namespace ScanMode

theorem run_cons {mode mode' mode'' : ScanMode} {c : Char} {cs : List Char}
    {tokens tokens' : List Token} (h : mode.step c = some (tokens, mode'))
    (h' : mode'.run cs = some (tokens', mode'')) :
    mode.run (c :: cs) = some (tokens ++ tokens', mode'') := by
  simp [run, h, h']

theorem run_append {mode mode' mode'' : ScanMode} {cs cs' : List Char}
    {tokens tokens' : List Token} (h : mode.run cs = some (tokens, mode'))
    (h' : mode'.run cs' = some (tokens', mode'')) :
    mode.run (cs ++ cs') = some (tokens ++ tokens', mode'') := by
  induction cs generalizing mode tokens with
  | nil =>
      obtain ⟨rfl, rfl⟩ := Prod.mk.inj (Option.some.inj h)
      exact h'
  | cons c cs ih =>
      simp only [run, Option.bind_eq_bind, Option.bind_eq_some_iff] at h
      obtain ⟨⟨first, middle⟩, hstep, ⟨rest, last⟩, hrun, hall⟩ := h
      obtain ⟨rfl, rfl⟩ := Prod.mk.inj (Option.some.inj hall)
      rw [List.cons_append, run_cons hstep (ih hrun), List.append_assoc]

end ScanMode

open ScanMode

/-- The characters are scanned to the tokens, from between tokens to between tokens. -/
def Scans (cs : List Char) (tokens : List Token) : Prop :=
  between.run cs = some (tokens, between)

theorem scans_append {cs cs' : List Char} {tokens tokens' : List Token} (h : Scans cs tokens)
    (h' : Scans cs' tokens') : Scans (cs ++ cs') (tokens ++ tokens') :=
  run_append h h'

/-- The scanner passes over the start of a new line. -/
theorem scans_newLine {cs : List Char} {tokens : List Token} (level : Nat) (h : Scans cs tokens) :
    Scans (cs ++ newLine level) tokens := by
  have hblanks : ∀ count, Scans (List.replicate count ' ') [] := by
    intro count
    induction count with
    | zero => rfl
    | succ count ih =>
        have hblank : Scans [' '] [] := rfl
        exact scans_append hblank ih
  have hbreak : Scans ['\n'] [] := rfl
  have hline := scans_append h (scans_append hbreak (hblanks (2 * level)))
  rwa [List.append_nil, List.append_nil] at hline

/-! ## Quoted texts -/

theorem hexValue?_hexDigit {value : Nat} (h : value < 16) :
    hexValue? (hexDigit value) = some value := by
  have hall : ∀ value < 16, hexValue? (hexDigit value) = some value := by decide
  exact hall value h

/-- A character written by its code is read as itself. -/
theorem run_code {read : List Char} {c : Char} (h : c.toNat < 0x20) :
    (text read).run ['\\', 'u', '0', '0', hexDigit (c.toNat / 16), hexDigit (c.toNat % 16)] =
      some ([], text (read ++ [c])) := by
  have hhigh : hexValue? (hexDigit (c.toNat / 16)) = some (c.toNat / 16) :=
    hexValue?_hexDigit (by omega)
  have hlow : hexValue? (hexDigit (c.toNat % 16)) = some (c.toNat % 16) :=
    hexValue?_hexDigit (by omega)
  have hzero : hexValue? '0' = some 0 := by decide
  have hvalue : 16 * (c.toNat / 16) + c.toNat % 16 = c.toNat := by omega
  have hvalid : c.toNat.isValidChar := c.valid
  simp [run, step, stepText, stepEscape, stepCode, quoteMark, hhigh, hlow, hzero, hvalue, hvalid]

/-- The characters that stand for one in a text are read as that one. -/
theorem run_escapeChar (read : List Char) (c : Char) :
    (text read).run (escapeChar c) = some ([], text (read ++ [c])) := by
  have hc : c = Char.ofNat c.toNat := (Char.ofNat_toNat c).symm
  unfold escapeChar
  split
  case h_8 code hquote hbackslash _ _ _ _ _ =>
    by_cases hcontrol : c.toNat < 0x20
    · rw [if_pos hcontrol]
      exact run_code hcontrol
    · have hquoteMark : c ≠ quoteMark := fun h => hquote (h ▸ rfl)
      have hslash : c ≠ '\\' := fun h => hbackslash (h ▸ rfl)
      simp [hcontrol, run, step, stepText, hquoteMark, hslash]
  all_goals
    next hcode =>
      rw [hcode] at hc
      subst hc
      rfl

/-- A text between quotes is read as itself. -/
theorem scans_quoted (value : String) : Scans (quoted value) [.text value] := by
  have hchars : ∀ read cs,
      (text read).run (cs.flatMap escapeChar) = some ([], text (read ++ cs)) := by
    intro read cs
    induction cs generalizing read with
    | nil => simp [run]
    | cons c cs ih =>
        have h := run_append (run_escapeChar read c) (ih (read ++ [c]))
        rwa [List.append_assoc] at h
  have hopen : between.run [quoteMark] = some ([], text []) := rfl
  have hclose : (text value.toList).run [quoteMark] = some ([.text value], between) := by
    simp [run, step, stepText]
  exact run_append (run_append hopen (hchars [] value.toList)) hclose

/-! ## Whole values -/

mutual

/-- The tokens of a value. -/
def Value.tokens : Value → List Token
  | .null => [.null]
  | .text value => [.text value]
  | .array [] => [.openArray, .closeArray]
  | .array (item :: items) =>
      .openArray :: item.tokens ++ tokensOfItems items ++ [.closeArray]
  | .object [] => [.openObject, .closeObject]
  | .object ((key, value) :: members) =>
      .openObject :: .text key :: .colon :: value.tokens ++ tokensOfMembers members
        ++ [.closeObject]

/-- The tokens of the items of an array after the first. -/
def tokensOfItems : List Value → List Token
  | [] => []
  | item :: items => .comma :: item.tokens ++ tokensOfItems items

/-- The tokens of the members of an object after the first. -/
def tokensOfMembers : List (String × Value) → List Token
  | [] => []
  | (key, value) :: members =>
      .comma :: .text key :: .colon :: value.tokens ++ tokensOfMembers members

end

theorem scans_openArray : Scans ['['] [.openArray] := rfl

theorem scans_closeArray : Scans [']'] [.closeArray] := rfl

theorem scans_openObject : Scans [Char.ofNat 0x7B] [.openObject] := rfl

theorem scans_closeObject : Scans [Char.ofNat 0x7D] [.closeObject] := rfl

theorem scans_comma : Scans [','] [.comma] := rfl

theorem scans_colon : Scans [':', ' '] [.colon] := rfl

mutual

/-- The text of a value is scanned to the tokens of the value, at every level. -/
theorem scans_prettyAt (level : Nat) : ∀ value : Value, Scans (value.prettyAt level) value.tokens
  | .null => rfl
  | .text value => scans_quoted value
  | .array [] => rfl
  | .array (item :: items) => by
      have hopen := scans_newLine (level + 1) scans_openArray
      have hitem := scans_append hopen (scans_prettyAt (level + 1) item)
      have hitems := scans_append hitem (scans_prettyItems (level + 1) items)
      exact scans_append (scans_newLine level hitems) scans_closeArray
  | .object [] => rfl
  | .object ((key, value) :: members) => by
      have hopen := scans_newLine (level + 1) scans_openObject
      have hkey := scans_append (scans_append hopen (scans_quoted key)) scans_colon
      have hvalue := scans_append hkey (scans_prettyAt (level + 1) value)
      have hmembers := scans_append hvalue (scans_prettyMembers (level + 1) members)
      exact scans_append (scans_newLine level hmembers) scans_closeObject

theorem scans_prettyItems (level : Nat) :
    ∀ items : List Value, Scans (prettyItems level items) (tokensOfItems items)
  | [] => rfl
  | item :: items => by
      have hitem := scans_append (scans_newLine level scans_comma) (scans_prettyAt level item)
      exact scans_append hitem (scans_prettyItems level items)

theorem scans_prettyMembers (level : Nat) : ∀ members : List (String × Value),
    Scans (prettyMembers level members) (tokensOfMembers members)
  | [] => rfl
  | (key, value) :: members => by
      have hkey := scans_append (scans_newLine level scans_comma) (scans_quoted key)
      have hvalue := scans_append (scans_append hkey scans_colon) (scans_prettyAt level value)
      exact scans_append hvalue (scans_prettyMembers level members)

end

theorem scan_pretty (value : Value) : scan value.pretty.toList = some value.tokens := by
  have h := scans_prettyAt 0 value
  rw [Scans] at h
  rw [scan, Value.pretty, String.toList_ofList, h]

end ClassDiagram.Json
