import ClassDiagram.Proofs.Json.Scanner

/-!
# Reading JSON text

The reader takes the tokens of a text one by one and keeps a stack of the arrays
and objects that are open.  It accepts the JSON of nulls, texts, arrays and
objects in any layout, and no other text: a comma needs what it separates, and
after the value nothing may follow.

To read the tokens of a value is to deliver that value to what is open
(`run_tokens`), so `Value.ofText?` undoes `Value.pretty`.
-/

namespace ClassDiagram.Json

/-! ## The reader -/

/-- What is open, with what has been read of it. -/
inductive Open where
  | array (items : List Value)
  | object (members : List (String × Value))
  /-- An object with a key whose value is to come. -/
  | member (members : List (String × Value)) (key : String)

/-- What may come next. -/
inductive Need where
  | value
  | valueOrClose
  | key
  | keyOrClose
  | colon
  | commaOrClose

/-- How far the reader is. -/
inductive Reading where
  /-- Inside of what is open, innermost first. -/
  | within (opened : List Open) (need : Need)
  | done (value : Value)

namespace Reading

/-- Puts a value where it belongs. -/
def deliver (value : Value) : List Open → Option Reading
  | [] => some (done value)
  | .array items :: opened => some (within (.array (items ++ [value]) :: opened) .commaOrClose)
  | .member members key :: opened =>
      some (within (.object (members ++ [(key, value)]) :: opened) .commaOrClose)
  | .object _ :: _ => none

/-- Ends the innermost array or object. -/
def close : List Open → Token → Option Reading
  | .array items :: opened, .closeArray => deliver (.array items) opened
  | .object members :: opened, .closeObject => deliver (.object members) opened
  | _, _ => none

/-- The first token of a value. -/
def stepValue (opened : List Open) : Token → Option Reading
  | .null => deliver .null opened
  | .text value => deliver (.text value) opened
  | .openArray => some (within (.array [] :: opened) .valueOrClose)
  | .openObject => some (within (.object [] :: opened) .keyOrClose)
  | _ => none

/-- The key of a member. -/
def stepKey : List Open → Token → Option Reading
  | .object members :: opened, .text key => some (within (.member members key :: opened) .colon)
  | _, _ => none

/-- What may come after a comma. -/
def afterComma : List Open → Option Need
  | .array _ :: _ => some .value
  | .object _ :: _ => some .key
  | _ => none

/-- Takes one token. -/
def step : Reading → Token → Option Reading
  | done _, _ => none
  | within opened .value, token => stepValue opened token
  | within opened .valueOrClose, token =>
      if token = .closeArray then close opened token else stepValue opened token
  | within opened .key, token => stepKey opened token
  | within opened .keyOrClose, token =>
      if token = .closeObject then close opened token else stepKey opened token
  | within opened .colon, token =>
      if token = .colon then some (within opened .value) else none
  | within opened .commaOrClose, token =>
      if token = .comma then (afterComma opened).map (within opened) else close opened token

/-- Takes tokens in order. -/
def run (reading : Reading) (tokens : List Token) : Option Reading :=
  tokens.foldlM step reading

/-- The reader before the first token. -/
def start : Reading := within [] .value

end Reading

/-- The value with the given tokens. -/
def Value.ofTokens? (tokens : List Token) : Option Value :=
  match Reading.start.run tokens with
  | some (.done value) => some value
  | _ => none

/-- The value with the given text. -/
def Value.ofText? (text : String) : Option Value :=
  (scan text.toList).bind Value.ofTokens?

/-! ## Reading the tokens of a value -/

namespace Reading

theorem run_append (reading : Reading) (tokens tokens' : List Token) :
    reading.run (tokens ++ tokens') = (reading.run tokens).bind (·.run tokens') :=
  List.foldlM_append

theorem run_cons {reading reading' : Reading} {token : Token} (tokens : List Token)
    (h : reading.step token = some reading') :
    reading.run (token :: tokens) = reading'.run tokens := by
  simp [run, h]

/-- Where an array may end, a value is read as where it may not. -/
theorem run_valueOrClose (opened : List Open) (value : Value) :
    (within opened .valueOrClose).run value.tokens = (within opened .value).run value.tokens := by
  cases value with
  | null => rfl
  | text value => rfl
  | array items => cases items <;> rfl
  | object members => cases members <;> rfl

theorem run_singleton (reading : Reading) (token : Token) :
    reading.run [token] = reading.step token := by
  simp [run]

mutual

/-- The tokens of a value deliver that value. -/
theorem run_tokens (opened : List Open) :
    ∀ value : Value, (within opened .value).run value.tokens = deliver value opened
  | .null => run_singleton _ _
  | .text value => run_singleton _ _
  | .array [] => by
      rw [Value.tokens, run_cons _ rfl, run_singleton]
      rfl
  | .array (item :: items) => by
      simp only [Value.tokens, List.cons_append, List.append_assoc]
      rw [run_cons _ rfl, run_append, run_valueOrClose, run_tokens]
      exact run_tokensOfItems opened [item] items
  | .object [] => by
      rw [Value.tokens, run_cons _ rfl, run_singleton]
      rfl
  | .object ((key, value) :: members) => by
      simp only [Value.tokens, List.cons_append, List.append_assoc]
      rw [run_cons _ rfl, run_cons _ rfl, run_cons _ rfl, run_append, run_tokens]
      exact run_tokensOfMembers opened [(key, value)] members

/-- Further items are added to an array, which then ends. -/
theorem run_tokensOfItems (opened : List Open) (before : List Value) : ∀ items : List Value,
    (within (.array before :: opened) .commaOrClose).run
      (tokensOfItems items ++ [.closeArray]) = deliver (.array (before ++ items)) opened
  | [] => by
      rw [tokensOfItems, List.nil_append, run_singleton, List.append_nil]
      rfl
  | item :: items => by
      simp only [tokensOfItems, List.cons_append, List.append_assoc]
      rw [run_cons _ rfl, run_append, run_tokens, List.append_cons before item items]
      exact run_tokensOfItems opened (before ++ [item]) items

/-- Further members are added to an object, which then ends. -/
theorem run_tokensOfMembers (opened : List Open) (before : List (String × Value)) :
    ∀ members : List (String × Value),
      (within (.object before :: opened) .commaOrClose).run
        (tokensOfMembers members ++ [.closeObject]) =
          deliver (.object (before ++ members)) opened
  | [] => by
      rw [tokensOfMembers, List.nil_append, run_singleton, List.append_nil]
      rfl
  | (key, value) :: members => by
      simp only [tokensOfMembers, List.cons_append, List.append_assoc]
      rw [run_cons _ rfl, run_cons _ rfl, run_cons _ rfl, run_append, run_tokens,
        List.append_cons before (key, value) members]
      exact run_tokensOfMembers opened (before ++ [(key, value)]) members

end

end Reading

/-- The text of a value is read as that value. -/
theorem Value.ofText?_pretty (value : Value) : Value.ofText? value.pretty = some value := by
  rw [Value.ofText?, scan_pretty, Option.bind_some, Value.ofTokens?, Reading.start,
    Reading.run_tokens]
  rfl

end ClassDiagram.Json
