import ClassDiagram.Proofs.Xml.Canonical
import ClassDiagram.Proofs.Xml.RoundTrip

/-!
# Only whole documents are read

A document that is cut short is refused, wherever the cut falls.  Two things can
happen at the cut: a piece of markup is left without its end, and then the reader
refuses it, or the cut falls between two pieces, and then the tree is
`Unfinished`, because an element is open or there is no root yet.

`RefusesCuts` says that all beginnings of some bytes are refused; it is composed
piece by piece as the reading itself is.  Inside an open element it holds of every
piece of a document (`refusesCuts_content`), by induction on how the piece was
written, and of an element it holds up to the angle that ends it
(`refusesCuts_element`).  Documents that follow one another have several roots and
are refused as well, so that of some documents written one after the other only a
single one is read (`readTree_only_whole`).
-/

namespace ClassDiagram.Xml

/-! ## Bytes cut short -/

/-- What cuts two parts short ends in the first, or holds it and cuts the second short. -/
theorem prefix_append_cases {short first rest : Bytes} (h : short <+: first ++ rest) :
    short <+: first ∨ ∃ more, more <+: rest ∧ short = first ++ more := by
  rcases List.prefix_or_prefix_of_prefix h (List.prefix_append first rest) with h' | ⟨more, rfl⟩
  · exact .inl h'
  · exact .inr ⟨more, (List.prefix_append_right_inj first).1 h, rfl⟩

/-- A scan that has not ended after some bytes has not ended before. -/
theorem cut_eq_none_of_prefix {σ : Type} {step : σ → UInt8 → Option σ} {state state' : σ}
    {bytes short : Bytes} (h : bytes.foldlM step state = some state') (hshort : short <+: bytes) :
    cut step state short = none := by
  obtain ⟨rest, rfl⟩ := hshort
  induction short generalizing state with
  | nil => rfl
  | cons byte short ih =>
      rw [List.cons_append, List.foldlM_cons] at h
      obtain ⟨next, hstep, h⟩ := Option.bind_eq_some_iff.1 h
      rw [cut, hstep]
      show (cut step next short).map _ = none
      rw [ih h]
      rfl

/-- A tag without its angle is refused. -/
theorem read_cut_tag {bytes short : Bytes} {first : UInt8} (hfirst : bytes.head? = some first)
    (hbang : first ≠ bang) (hquestion : first ≠ question)
    (h : bytes.foldlM tagStep none = some none) (hshort : short <+: bytes) :
    Markup.read short = .error .unclosedTag := by
  have hcut : cut tagStep none short = none := cut_eq_none_of_prefix h hshort
  cases short with
  | nil => rfl
  | cons byte short =>
      obtain ⟨rest, rfl⟩ := hshort
      obtain rfl := Option.some.inj hfirst
      simp only [Markup.read, if_neg hbang, if_neg hquestion, delimit, hcut]
      rfl

/-- A comment without its angle is refused. -/
theorem read_cut_comment {text : List Char} {short : Bytes} (h : IsCommentText text)
    (hshort : short <+: bang :: hyphen :: hyphen :: (Utf8.encode text ++ [hyphen, hyphen])) :
    ∃ fault, Markup.read short = .error fault := by
  obtain ⟨count, hyphens, -, -, hcontent⟩ := foldlM_commentStep_comment h
  cases short with
  | nil => exact ⟨_, rfl⟩
  | cons first short =>
      obtain ⟨hfirst, hafter⟩ := List.cons_prefix_cons.1 hshort
      have hcut : cut commentStep (0, 0) short = none := cut_eq_none_of_prefix hcontent hafter
      rw [hfirst]
      cases short with
      | nil => exact ⟨_, rfl⟩
      | cons byte short =>
          obtain ⟨hbyte, -⟩ := List.cons_prefix_cons.1 hafter
          have hbracket : ¬some hyphen = some openBracket := by decide
          rw [hbyte] at hcut ⊢
          refine ⟨.unclosedComment, ?_⟩
          rw [Markup.read, if_pos rfl]
          simp only [Markup.readDeclaration, List.head?_cons, if_neg hbracket, if_true, delimit,
            hcut]
          rfl

/-! ## Refusal -/

/-- The tree cannot end here: an element is open or there is no root. -/
def Assembly.Unfinished (assembly : Assembly) : Prop :=
  ∃ error, assembly.finish = .error error

theorem unfinished_empty : Assembly.empty.Unfinished := ⟨_, rfl⟩

theorem unfinished_of_open (node : Node) (outer : List Node) (root : Option Node) :
    Assembly.Unfinished ⟨node :: outer, root⟩ := ⟨_, rfl⟩

/-- Reading on comes to an error if the document ends within these bytes or right after them. -/
def RefusesCuts (size : Nat) (openNames : List Bytes) (assembly : Assembly) (bytes : Bytes) :
    Prop :=
  ∀ short, short <+: bytes → ∃ error, readOn size short openNames assembly = .error error

variable {size : Nat} {openNames openNames' : List Bytes} {assembly assembly' : Assembly}

theorem refuses_nil (h : assembly.Unfinished) :
    ∃ error, readOn size [] openNames assembly = .error error := by
  obtain ⟨error, herror⟩ := h
  exact ⟨error, (Progress.run_of_end rfl).trans herror⟩

/-- Two parts are refused where the first is, and the second after the first is read. -/
theorem refusesCuts_append {first rest : Bytes}
    (hfirst : RefusesCuts size openNames assembly first)
    (hread : ∀ more, readOn size (first ++ more) openNames assembly =
      readOn size more openNames' assembly')
    (hrest : RefusesCuts size openNames' assembly' rest) :
    RefusesCuts size openNames assembly (first ++ rest) := by
  intro short hshort
  rcases prefix_append_cases hshort with hshort | ⟨more, hmore, rfl⟩
  · exact hfirst short hshort
  · rw [hread]
    exact hrest more hmore

/-- The same where a byte ends the first part. -/
theorem refusesCuts_append_cons {first rest : Bytes} {byte : UInt8}
    (hfirst : RefusesCuts size openNames assembly first)
    (hread : ∀ more, readOn size (first ++ byte :: more) openNames assembly =
      readOn size more openNames' assembly')
    (hrest : RefusesCuts size openNames' assembly' rest) :
    RefusesCuts size openNames assembly (first ++ byte :: rest) := by
  intro short hshort
  rcases prefix_append_cases hshort with hshort | ⟨more, hmore, rfl⟩
  · exact hfirst short hshort
  · cases more with
    | nil => exact hfirst _ (by simp)
    | cons other more =>
        obtain ⟨hbyte, hafter⟩ := List.cons_prefix_cons.1 hmore
        rw [hbyte, hread]
        exact hrest more hafter

/-- A piece of markup without its end is refused. -/
theorem refusesCuts_markup {bytes : Bytes} (hunfinished : assembly.Unfinished)
    (hread : ∀ short, short <+: bytes → ∃ fault, Markup.read short = .error fault) :
    RefusesCuts size openNames assembly (openAngle :: bytes) := by
  intro short hshort
  cases short with
  | nil => exact refuses_nil hunfinished
  | cons first short =>
      obtain ⟨hangle, hafter⟩ := List.cons_prefix_cons.1 hshort
      obtain ⟨fault, hfault⟩ := hread short hafter
      have hdrop : (openAngle :: short).dropWhile (· != openAngle) = openAngle :: short := rfl
      rw [hangle]
      refine ⟨.syntaxAt (size - (short.length + 1)) fault, Progress.run_of_error ?_⟩
      simp only [Progress.step, Reader.next, hdrop, hfault]

/-! ## Pieces -/

theorem refusesCuts_filler {filler : List Char} (h : IsFiller filler)
    (hunfinished : assembly.Unfinished) :
    RefusesCuts size openNames assembly (Utf8.encode filler) := by
  induction h with
  | nil =>
      intro short hshort
      rw [List.prefix_nil.1 hshort]
      exact refuses_nil hunfinished
  | @char c filler hc _ ih =>
      have hbytes : ∀ byte ∈ Utf8.encodeChar c, byte ≠ openAngle := fun byte hbyte =>
        Utf8.ne_of_mem_encodeChar (by decide) hc hbyte
      refine refusesCuts_append (fun short hshort => ?_) (fun _ => readOn_skip hbytes) ih
      -- A cut inside the bytes of a character is no different from one before it.
      rw [← List.append_nil short, readOn_skip fun byte hbyte => hbytes byte (hshort.subset hbyte)]
      exact refuses_nil hunfinished
  | @comment text filler htext _ ih =>
      have hbytes : Utf8.encode (['<', '!', '-', '-'] ++ text ++ ['-', '-', '>'] ++ filler) =
          openAngle :: bang :: hyphen :: hyphen :: (Utf8.encode text ++ [hyphen, hyphen]) ++
            closeAngle :: Utf8.encode filler := by
        simp [encodeChar_open, encodeChar_close, encodeChar_bang, encodeChar_hyphen]
      rw [hbytes]
      refine refusesCuts_append_cons
        (refusesCuts_markup hunfinished fun _ => read_cut_comment htext) (fun more => ?_) ih
      simpa using readOn_comment htext more

/-- An element without children is refused up to the angle that ends it. -/
theorem refusesCuts_emptyTag {node : Node} {tag : List Char} (h : WritesTag node tag)
    (hunfinished : assembly.Unfinished) :
    RefusesCuts size openNames assembly (emptyTagBytes tag) := by
  obtain ⟨⟨first, hfirst, hplain⟩, hfold⟩ := bytes_of_emptyTag h
  obtain ⟨-, hbang, hquestion⟩ := ne_of_plainByte hplain
  exact refusesCuts_markup hunfinished fun _ hshort =>
    ⟨_, read_cut_tag hfirst hbang hquestion hfold hshort⟩

/-- A start tag is refused up to the angle that ends it. -/
theorem refusesCuts_startTag {node : Node} {tag : List Char} (h : WritesTag node tag)
    (hunfinished : assembly.Unfinished) :
    RefusesCuts size openNames assembly (openAngle :: Utf8.encode tag) := by
  obtain ⟨⟨first, hfirst, hplain⟩, hfold, -⟩ := bytes_of_writesTag h
  obtain ⟨-, hbang, hquestion⟩ := ne_of_plainByte hplain
  exact refusesCuts_markup hunfinished fun _ hshort =>
    ⟨_, read_cut_tag hfirst hbang hquestion hfold hshort⟩

/-- An end tag is refused up to the angle that ends it. -/
theorem refusesCuts_endTag {name : List Char} (h : IsName name)
    (hunfinished : assembly.Unfinished) :
    RefusesCuts size openNames assembly (openAngle :: slash :: Utf8.encode name) :=
  refusesCuts_markup hunfinished fun _ hshort =>
    ⟨_, read_cut_tag rfl (by decide) (by decide) (foldlM_tagStep_endTag h) hshort⟩

/-! ## Elements -/

/-- An element is refused up to the angle that ends it, if its content is refused inside it. -/
theorem refusesCuts_element {node : Node} {tag content : List Char} (htag : WritesTag node tag)
    (hcontent : Writes node.children content) (hunfinished : assembly.Unfinished)
    (hinside : RefusesCuts size (Utf8.encode node.tag.toList :: openNames)
      ⟨{ node with children := [] } :: assembly.openNodes, assembly.root⟩
      (Utf8.encode content)) :
    RefusesCuts size openNames assembly (elementBytes node.tag tag content) := by
  have hname : IsName node.tag.toList := by
    obtain ⟨hname, -⟩ := htag
    exact hname
  have hend : RefusesCuts size (Utf8.encode node.tag.toList :: openNames)
      ⟨node :: assembly.openNodes, assembly.root⟩
      (openAngle :: slash :: Utf8.encode node.tag.toList) :=
    refusesCuts_endTag hname (unfinished_of_open _ _ _)
  refine refusesCuts_append_cons (refusesCuts_startTag htag hunfinished)
    (fun more => readOn_startTag htag more) (refusesCuts_append hinside (fun more => ?_) hend)
  rw [readOn_writes hcontent, foldlM_attach_children]
  rfl

/-- Inside an open element every piece of a document is refused, also at its end. -/
theorem refusesCuts_content {nodes : List Node} {text : List Char} (h : Writes nodes text)
    (parent : Node) (outer : List Node) (root : Option Node) :
    RefusesCuts size openNames ⟨parent :: outer, root⟩ (Utf8.encode text) := by
  induction h generalizing openNames parent outer with
  | none hfiller => exact refusesCuts_filler hfiller (unfinished_of_open _ _ _)
  | @childless node nodes filler tag after hfiller hchildren htag _ ih =>
      have hnode : RefusesCuts size openNames ⟨parent :: outer, root⟩ (emptyTagBytes tag) :=
        refusesCuts_emptyTag htag (unfinished_of_open _ _ _)
      have hafter : RefusesCuts size openNames ⟨parent.withChild node :: outer, root⟩
          (Utf8.encode after) := ih _ _
      rw [encode_emptyTag]
      exact refusesCuts_append (refusesCuts_filler hfiller (unfinished_of_open _ _ _))
        (readOn_filler hfiller)
        (refusesCuts_append_cons hnode (readOn_emptyTag htag hchildren) hafter)
  | @element node nodes filler tag content after hfiller htag hcontent _ ihcontent ihafter =>
      have hnode : RefusesCuts size openNames ⟨parent :: outer, root⟩
          (elementBytes node.tag tag content) :=
        refusesCuts_element htag hcontent (unfinished_of_open _ _ _) (ihcontent _ _)
      have hafter : RefusesCuts size openNames ⟨parent.withChild node :: outer, root⟩
          (Utf8.encode after) := ihafter _ _
      rw [encode_element]
      exact refusesCuts_append (refusesCuts_filler hfiller (unfinished_of_open _ _ _))
        (readOn_filler hfiller)
        (refusesCuts_append_cons hnode (readOn_writtenElement htag hcontent) hafter)

/-- The canonical writing of an element is refused up to the angle that ends it. -/
theorem refusesCuts_canonical (form : LeafForm) {node : Node} (h : node.IsNamed)
    (hunfinished : assembly.Unfinished) :
    ∃ before, Utf8.encode (node.canonical form) = before ++ [closeAngle] ∧
      RefusesCuts size openNames assembly before := by
  have htag := writesTag_canonicalTag h
  rcases canonical_cases form node with ⟨-, htext⟩ | htext
  · refine ⟨_, ?_, refusesCuts_emptyTag htag hunfinished⟩
    have hbytes := encode_emptyTag [] (canonicalTag node.tag node.attributes) []
    rw [htext]
    simpa using hbytes
  · have hcontent : Writes node.children (canonicalAll form node.children) := by
      obtain ⟨-, -, hchildren⟩ := h
      exact writes_canonicalAll form node.children hchildren
    refine ⟨_, ?_, refusesCuts_element htag hcontent hunfinished
      (refusesCuts_content hcontent _ _ _)⟩
    have hbytes := encode_element node.tag [] (canonicalTag node.tag node.attributes)
      (canonicalAll form node.children) []
    rw [htext]
    simpa using hbytes

/-- The bytes of the canonical writing. -/
def Node.document (form : LeafForm) (node : Node) : Bytes := Utf8.encode (node.canonical form)

/-- A document that lacks its end is refused. -/
theorem readDocument_of_cut (form : LeafForm) {node : Node} (h : node.IsNamed) {short : Bytes}
    (hshort : short <+: node.document form) (hne : short ≠ node.document form) :
    ∃ error, readDocument short = .error error := by
  let size := (Reader.withoutMark short).length
  obtain ⟨before, hbytes, hrefuses⟩ : ∃ before,
      node.document form = before ++ [closeAngle] ∧ RefusesCuts size [] Assembly.empty before :=
    refusesCuts_canonical form h unfinished_empty
  rw [hbytes] at hshort hne
  obtain ⟨error, herror⟩ := hrefuses short ((List.prefix_concat_iff.1 hshort).resolve_left hne)
  refine ⟨error, ?_⟩
  calc
    readDocument short = readOn size (Reader.withoutMark short) [] Assembly.empty := rfl
    _ = readOn size short [] Assembly.empty := readOn_withoutMark short
    _ = .error error := herror

/-- Elements written one after the other are read only if there is just one. -/
theorem readDocument_of_documents (form : LeafForm) {nodes : List Node}
    (h : ∀ node ∈ nodes, node.IsNamed) :
    (∃ node, nodes = [node] ∧ readDocument (nodes.flatMap (·.document form)) = .ok node) ∨
      nodes.length ≠ 1 ∧
        ∃ error, readDocument (nodes.flatMap (·.document form)) = .error error := by
  have hbytes : nodes.flatMap (·.document form) = Utf8.encode (canonicalAll form nodes) := by
    rw [canonicalAll_eq_flatMap, Utf8.encode, List.flatMap_assoc]
    rfl
  rw [hbytes, readDocument_of_writes (writes_canonicalAll form nodes h)]
  rcases nodes with _ | ⟨first, _ | ⟨second, others⟩⟩
  · exact .inr ⟨by simp, .noRoot, rfl⟩
  · exact .inl ⟨first, rfl, rfl⟩
  · exact .inr ⟨by simp, .severalRoots second.tag, rfl⟩

end ClassDiagram.Xml

namespace ClassDiagram

/-- The bytes are refused as no XML document. -/
def RefusedAsXml (bytes : Bytes) : Prop :=
  ∃ fault, readTree bytes = .error fault ∧ fault.kind = .xml

theorem refusedAsXml_of_error {bytes : Bytes} {error : Xml.Error}
    (h : Xml.readDocument bytes = .error error) : RefusedAsXml bytes := by
  refine ⟨.malformedXml error, ?_, rfl⟩
  rw [readTree, h]
  rfl

/-- Every document that lacks its end is refused, wherever it ends, and of documents written one
after the other exactly a single one is read. -/
theorem readTree_only_whole (form : Xml.LeafForm) (nodes : List Xml.Node)
    (h : ∀ node ∈ nodes, node.IsNamed) :
    (∀ node ∈ nodes, ∀ short, short <+: node.document form → short ≠ node.document form →
      RefusedAsXml short) ∧
    ((∃ node, readTree (nodes.flatMap (·.document form)) = .ok node) ↔ nodes.length = 1) ∧
    (nodes.length ≠ 1 → RefusedAsXml (nodes.flatMap (·.document form))) := by
  refine ⟨fun node hnode short hshort hne => ?_, ?_⟩
  · obtain ⟨error, herror⟩ := Xml.readDocument_of_cut form (h node hnode) hshort hne
    exact refusedAsXml_of_error herror
  · rcases Xml.readDocument_of_documents form h with ⟨node, rfl, hread⟩ | ⟨hlength, error, herror⟩
    · have hok : readTree ([node].flatMap (·.document form)) = .ok node := by
        rw [readTree, hread]
        rfl
      exact ⟨iff_of_true ⟨node, hok⟩ rfl, fun hlength => absurd rfl hlength⟩
    · obtain ⟨fault, hfault, hkind⟩ := refusedAsXml_of_error herror
      refine ⟨iff_of_false ?_ hlength, fun _ => ⟨fault, hfault, hkind⟩⟩
      rintro ⟨node, hok⟩
      cases hfault.symm.trans hok

/-- An element with a value that needs an entity and more than one byte for a character. -/
def signpost : Xml.Node :=
  ((Xml.Node.ofTag "t").withAttribute "k" "<é").withChild (Xml.Node.ofTag "u")

/-- A signpost that ends inside a character is refused, and so are two of them. -/
theorem readTree_only_whole_signposts :
    (∀ node ∈ [signpost, signpost], node.IsNamed) ∧
      (Utf8.encode "<t k=\"&lt;".toList ++ [0xC3] <+: signpost.document .emptyTag) ∧
      RefusedAsXml (Utf8.encode "<t k=\"&lt;".toList ++ [0xC3]) ∧
      RefusedAsXml (signpost.document .emptyTag ++ signpost.document .emptyTag) := by
  have hnamed : ∀ node ∈ [signpost, signpost], node.IsNamed := by
    have hname : ∀ c : Char, Xml.startsName c = true → Xml.IsName [c] := fun c hc =>
      ⟨c, [], rfl, hc, by simp⟩
    have hleaf : (Xml.Node.ofTag "u").attributes.keys = [] := rfl
    have hchild : (Xml.Node.ofTag "u").IsNamed :=
      .named (hname 'u' (by decide)) (by simp [hleaf]) (by simp [Xml.Node.ofTag])
    have hkeys : signpost.attributes.keys = ["k"] := rfl
    have hchildren : signpost.children = [Xml.Node.ofTag "u"] := rfl
    have hsignpost : signpost.IsNamed :=
      .named (hname 't' (by decide)) (by simpa [hkeys] using hname 'k' (by decide))
        (by simpa [hchildren] using hchild)
    simpa using hsignpost
  have hshort : Utf8.encode "<t k=\"&lt;".toList ++ [0xC3] <+: signpost.document .emptyTag := by
    decide +kernel
  obtain ⟨hcut, -, htwo⟩ := readTree_only_whole .emptyTag [signpost, signpost] hnamed
  exact ⟨hnamed, hshort, hcut signpost (by simp) _ hshort (by decide +kernel), htwo (by decide)⟩

end ClassDiagram
