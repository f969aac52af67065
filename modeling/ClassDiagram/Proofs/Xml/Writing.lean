import ClassDiagram.Xml.Node

/-!
# How elements are written

`Writes nodes text` says that `text` writes elements one after the other.  The
relation leaves open what a writer may choose: the quotes around each value, how
a character is escaped, which form an element without children takes, and what
stands between the tags.
-/

namespace ClassDiagram.Xml

/-! ## Names -/

/-- Whether a name may start with the character. -/
def startsName (c : Char) : Bool := c.isAlpha || c == '_'

/-- Whether the character may stand in a name. -/
def inName (c : Char) : Bool := c.isAlphanum || c ∈ ['_', '-', '.', ':']

/-- The characters are those of a name. -/
def IsName (cs : List Char) : Prop :=
  ∃ first rest, cs = first :: rest ∧ startsName first = true ∧ ∀ c ∈ rest, inName c = true

/-! ## Characters -/

/-- The character is a digit with this value, in either case. -/
def IsDigit (c : Char) (value : Nat) : Prop :=
  c = Nat.digitChar value ∨ c = (Nat.digitChar value).toUpper

/-- The digits spell a number, which may start with zeros. -/
inductive Spells (base : Nat) : List Char → Nat → Prop where
  | single {c : Char} {value : Nat} (hlt : value < base) (hdigit : IsDigit c value) :
      Spells base [c] value
  | snoc {digits : List Char} {c : Char} {number value : Nat} (hdigits : Spells base digits number)
      (hlt : value < base) (hdigit : IsDigit c value) :
      Spells base (digits ++ [c]) (number * base + value)

/-- The double quote. -/
def doubleQuote : Char := Char.ofNat 0x22

/-- The single quote. -/
def singleQuote : Char := Char.ofNat 0x27

/-- The characters that are not written as themselves, with the names that stand for them. -/
def entities : List (Char × List Char) :=
  [('&', ['a', 'm', 'p']), ('<', ['l', 't']), ('>', ['g', 't']),
    (doubleQuote, ['q', 'u', 'o', 't']), (singleQuote, ['a', 'p', 'o', 's'])]

/-- A character in a value. -/
inductive WritesChar : Char → List Char → Prop where
  | entity {c : Char} {name : List Char} (hname : (c, name) ∈ entities) :
      WritesChar c ('&' :: name ++ [';'])
  | raw {c : Char} (hplain : c ∉ entities.map Prod.fst) : WritesChar c [c]
  | decimal {c : Char} {digits : List Char} (hzero : c.toNat ≠ 0)
      (hdigits : Spells 10 digits c.toNat) : WritesChar c ('&' :: '#' :: digits ++ [';'])
  | hexadecimal {c : Char} {digits : List Char} (hzero : c.toNat ≠ 0)
      (hdigits : Spells 16 digits c.toNat) : WritesChar c ('&' :: '#' :: 'x' :: digits ++ [';'])

/-- The characters of a value, one after the other. -/
inductive WritesValue : List Char → List Char → Prop where
  | nil : WritesValue [] []
  | cons {c : Char} {cs first rest : List Char} (hchar : WritesChar c first)
      (hrest : WritesValue cs rest) : WritesValue (c :: cs) (first ++ rest)

/-! ## Tags -/

/-- Attributes in order, each after one space. -/
inductive WritesAttributes : List (String × String) → List Char → Prop where
  | nil : WritesAttributes [] []
  | cons {key value : String} {attributes : List (String × String)} {quote : Char}
      {written rest : List Char} (hkey : IsName key.toList)
      (hquote : quote = doubleQuote ∨ quote = singleQuote)
      (hvalue : WritesValue value.toList written) (hrest : WritesAttributes attributes rest) :
      WritesAttributes ((key, value) :: attributes)
        (' ' :: key.toList ++ '=' :: quote :: written ++ quote :: rest)

/-- The name of an element and its attributes. -/
inductive WritesTag (node : Node) : List Char → Prop where
  | tag {attributes : List Char} (hname : IsName node.tag.toList)
      (hattributes : WritesAttributes node.attributes.entries attributes) :
      WritesTag node (node.tag.toList ++ attributes)

/-! ## Elements -/

/-- The text may stand in a comment. -/
def IsCommentText (text : List Char) : Prop :=
  ¬['-', '-'] <:+: text ∧ ¬['>'] <+: text ∧ ¬['-', '>'] <+: text

/-- Characters and comments, which say nothing. -/
inductive IsFiller : List Char → Prop where
  | nil : IsFiller []
  | char {c : Char} {rest : List Char} (hc : c ≠ '<') (hrest : IsFiller rest) :
      IsFiller (c :: rest)
  | comment {text rest : List Char} (htext : IsCommentText text) (hrest : IsFiller rest) :
      IsFiller (['<', '!', '-', '-'] ++ text ++ ['-', '-', '>'] ++ rest)

/-- Elements in order, with filler before, between and after them. -/
inductive Writes : List Node → List Char → Prop where
  | none {filler : List Char} (hfiller : IsFiller filler) : Writes [] filler
  | childless {node : Node} {nodes : List Node} {filler tag rest : List Char}
      (hfiller : IsFiller filler) (hchildren : node.children = []) (htag : WritesTag node tag)
      (hrest : Writes nodes rest) :
      Writes (node :: nodes) (filler ++ '<' :: tag ++ ['/', '>'] ++ rest)
  | element {node : Node} {nodes : List Node} {filler tag content rest : List Char}
      (hfiller : IsFiller filler) (htag : WritesTag node tag)
      (hcontent : Writes node.children content) (hrest : Writes nodes rest) :
      Writes (node :: nodes)
        (filler ++ '<' :: tag ++ '>' :: content ++ ['<', '/'] ++ node.tag.toList ++ '>' :: rest)

end ClassDiagram.Xml
