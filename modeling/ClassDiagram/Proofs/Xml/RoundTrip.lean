import ClassDiagram.Diagram
import ClassDiagram.Proofs.Script
import ClassDiagram.Proofs.Xml.Pieces

/-!
# Documents are read as they were written

Reading a piece of a document that writes some elements attaches these elements
to the tree under construction and changes nothing else (`readOn_writes`).  The
induction is on how the piece was written, so the reader's stack of names and the
stack of open nodes are followed side by side.

A whole document holds one element, and it is read as that element
(`readTree_of_writes`).
-/

namespace ClassDiagram.Xml

/-! ## Runs -/

namespace Progress

theorem run_of_step {progress later : Progress} (h : progress.step = .ok (some later)) :
    progress.run = later.run := by
  rw [run]
  split
  · next h' => cases h.symm.trans h'
  · next h' => cases h.symm.trans h'
  · next h' =>
      obtain rfl := Option.some.inj (Except.ok.inj (h.symm.trans h'))
      rfl

theorem run_of_end {progress : Progress} (h : progress.step = .ok none) :
    progress.run = progress.assembly.finish := by
  rw [run]
  split
  · next h' => cases h.symm.trans h'
  · rfl
  · next h' => cases h.symm.trans h'

theorem run_of_error {progress : Progress} {error : Error} (h : progress.step = .error error) :
    progress.run = .error error := by
  rw [run]
  split
  · next h' => rw [Except.error.inj (h.symm.trans h')]
  · next h' => cases h.symm.trans h'
  · next h' => cases h.symm.trans h'

/-- What is read depends on the next step and on the tree so far. -/
theorem run_congr {progress progress' : Progress} (hstep : progress.step = progress'.step)
    (hassembly : progress.assembly = progress'.assembly) : progress.run = progress'.run := by
  cases h : progress'.step with
  | error error => rw [run_of_error h, run_of_error (hstep.trans h)]
  | ok later =>
      cases later with
      | none => rw [run_of_end h, run_of_end (hstep.trans h), hassembly]
      | some later => rw [run_of_step h, run_of_step (hstep.trans h)]

end Progress

/-- An element is its name and attributes with its children. -/
theorem with_children_eq {node : Node} {children : List Node} (h : node.children = children) :
    { node with children := children } = node := by
  subst h
  cases node
  rfl

/-- The bytes, the open names and the tree from which reading goes on. -/
def readOn (size : Nat) (rest : Bytes) (openNames : List Bytes) (assembly : Assembly) :
    Except Error Node :=
  Progress.run ⟨⟨size, rest, openNames⟩, assembly⟩

variable {size : Nat} {openNames : List Bytes} {assembly : Assembly}

/-- Bytes before the next angle are passed over. -/
theorem readOn_skip {skipped rest : Bytes} (h : ∀ byte ∈ skipped, byte ≠ openAngle) :
    readOn size (skipped ++ rest) openNames assembly = readOn size rest openNames assembly := by
  have hdrop : (skipped ++ rest).dropWhile (· != openAngle) = rest.dropWhile (· != openAngle) :=
    List.dropWhile_append_of_pos fun byte hbyte => bne_iff_ne.2 (h byte hbyte)
  have hnext : Reader.next ⟨size, skipped ++ rest, openNames⟩ =
      Reader.next ⟨size, rest, openNames⟩ := by
    simp only [Reader.next, hdrop]
    rfl
  apply Progress.run_congr
  · simp only [Progress.step, hnext]
  · rfl

/-- A piece of markup is read as the event that it means, and the tree follows it. -/
theorem readOn_markup {markup : Markup} {bytes rest : Bytes} {event : Event}
    {openNames' : List Bytes} (hread : Markup.read bytes = .ok (markup, rest))
    (hevent : ∀ position, Reader.interpret ⟨size, openAngle :: bytes, openNames⟩ position markup
      rest = .ok (event, ⟨size, rest, openNames'⟩)) :
    readOn size (openAngle :: bytes) openNames assembly =
      assembly.feed event >>= readOn size rest openNames' := by
  have hdrop : (openAngle :: bytes).dropWhile (· != openAngle) = openAngle :: bytes := rfl
  cases hfeed : assembly.feed event with
  | error error =>
      apply Progress.run_of_error
      simp only [Progress.step, Reader.next, hdrop, hread, hevent, Except.map, hfeed]
  | ok assembly' =>
      apply Progress.run_of_step
      simp only [Progress.step, Reader.next, hdrop, hread, hevent, Except.map, hfeed]

/-- A comment changes nothing. -/
theorem readOn_comment {text : List Char} (h : IsCommentText text) (rest : Bytes) :
    readOn size (openAngle :: bang :: hyphen :: hyphen :: (Utf8.encode text ++
      hyphen :: hyphen :: closeAngle :: rest)) openNames assembly =
        readOn size rest openNames assembly :=
  readOn_markup (read_comment h rest) fun _ => rfl

/-- A start tag opens its element. -/
theorem readOn_startTag {node : Node} {tag : List Char} (h : WritesTag node tag)
    (rest : Bytes) :
    readOn size (openAngle :: (Utf8.encode tag ++ closeAngle :: rest)) openNames assembly =
      readOn size rest (Utf8.encode node.tag.toList :: openNames)
        ⟨{ node with children := [] } :: assembly.openNodes, assembly.root⟩ := by
  have hfeed : assembly.feed (.opened (Utf8.encode tag)) =
      .ok ⟨{ node with children := [] } :: assembly.openNodes, assembly.root⟩ := by
    rw [Assembly.feed, ofTagContent_of_writesTag h]
    rfl
  rw [readOn_markup (read_startTag h rest) fun _ => rfl, hfeed, tagName_of_writesTag h]
  rfl

/-- The bytes of an element without children up to the angle that ends it. -/
def emptyTagBytes (tag : List Char) : Bytes := openAngle :: (Utf8.encode tag ++ [slash])

/-- The tag of an element without children attaches it. -/
theorem readOn_emptyTag {node : Node} {tag : List Char} (h : WritesTag node tag)
    (hchildren : node.children = []) (rest : Bytes) :
    readOn size (emptyTagBytes tag ++ closeAngle :: rest) openNames assembly =
      assembly.attach node >>= readOn size rest openNames := by
  have hfeed : assembly.feed (.childless (Utf8.encode tag)) = assembly.attach node := by
    rw [Assembly.feed, ofTagContent_of_writesTag h, with_children_eq hchildren]
    rfl
  rw [← hfeed]
  exact readOn_markup (read_emptyTag h rest) fun _ => rfl

/-- The end tag of the innermost element attaches it. -/
theorem readOn_endTag {node : Node} {outer : List Node} {root : Option Node}
    (hname : IsName node.tag.toList) (rest : Bytes) :
    readOn size (openAngle :: (slash :: Utf8.encode node.tag.toList ++ closeAngle :: rest))
      (Utf8.encode node.tag.toList :: openNames) ⟨node :: outer, root⟩ =
        Assembly.attach ⟨outer, root⟩ node >>= readOn size rest openNames := by
  have hevent : ∀ position, Reader.interpret ⟨size,
      openAngle :: (slash :: Utf8.encode node.tag.toList ++ closeAngle :: rest),
      Utf8.encode node.tag.toList :: openNames⟩ position
        (.endTag (Utf8.encode node.tag.toList)) rest = .ok (.closed, ⟨size, rest, openNames⟩) :=
    fun _ => if_pos rfl
  exact readOn_markup (read_endTag hname rest) hevent

/-! ## Whole pieces -/

theorem encodeChar_open : Utf8.encodeChar '<' = [openAngle] := rfl

theorem encodeChar_close : Utf8.encodeChar '>' = [closeAngle] := rfl

theorem encodeChar_slash : Utf8.encodeChar '/' = [slash] := rfl

theorem encodeChar_bang : Utf8.encodeChar '!' = [bang] := rfl

theorem encodeChar_hyphen : Utf8.encodeChar '-' = [hyphen] := rfl

/-- Filler changes nothing. -/
theorem readOn_filler {filler : List Char} (h : IsFiller filler) (rest : Bytes) :
    readOn size (Utf8.encode filler ++ rest) openNames assembly =
      readOn size rest openNames assembly := by
  induction h with
  | nil => rfl
  | @char c filler hc _ ih =>
      rw [Utf8.encode_cons, List.append_assoc,
        readOn_skip fun byte hbyte => Utf8.ne_of_mem_encodeChar (by decide) hc hbyte, ih]
  | @comment text filler htext _ ih =>
      have hbytes : Utf8.encode (['<', '!', '-', '-'] ++ text ++ ['-', '-', '>'] ++ filler) ++
          rest = openAngle :: bang :: hyphen :: hyphen :: (Utf8.encode text ++
            hyphen :: hyphen :: closeAngle :: (Utf8.encode filler ++ rest)) := by
        simp [encodeChar_open, encodeChar_close, encodeChar_bang, encodeChar_hyphen]
      rw [hbytes, readOn_comment htext, ih]

/-- Elements are added to the innermost open one, after the children that it has. -/
theorem foldlM_attach_open (nodes : List Node) (parent : Node) (outer : List Node)
    (root : Option Node) :
    nodes.foldlM Assembly.attach ⟨parent :: outer, root⟩ =
      .ok ⟨{ parent with children := parent.children ++ nodes } :: outer, root⟩ := by
  induction nodes generalizing parent with
  | nil =>
      rw [List.append_nil, with_children_eq rfl]
      rfl
  | cons node nodes ih =>
      rw [List.foldlM_cons]
      show nodes.foldlM Assembly.attach ⟨parent.withChild node :: outer, root⟩ = _
      rw [ih, Node.withChild, List.append_assoc]
      rfl

/-- The element whose start tag has been read becomes whole when its children are attached. -/
theorem foldlM_attach_children (node : Node) :
    node.children.foldlM Assembly.attach
      ⟨{ node with children := [] } :: assembly.openNodes, assembly.root⟩ =
        .ok ⟨node :: assembly.openNodes, assembly.root⟩ := by
  rw [foldlM_attach_open, List.nil_append]
  cases node
  rfl

/-- The bytes of an element up to the angle that ends it. -/
def elementBytes (name : String) (tag content : List Char) : Bytes :=
  openAngle :: Utf8.encode tag ++ closeAngle ::
    (Utf8.encode content ++ openAngle :: slash :: Utf8.encode name.toList)

theorem encode_emptyTag (filler tag rest : List Char) :
    Utf8.encode (filler ++ '<' :: tag ++ ['/', '>'] ++ rest) =
      Utf8.encode filler ++ (emptyTagBytes tag ++ closeAngle :: Utf8.encode rest) := by
  simp [emptyTagBytes, encodeChar_open, encodeChar_close, encodeChar_slash]

theorem encode_element (name : String) (filler tag content rest : List Char) :
    Utf8.encode (filler ++ '<' :: tag ++ '>' :: content ++ ['<', '/'] ++ name.toList ++
      '>' :: rest) =
        Utf8.encode filler ++ (elementBytes name tag content ++ closeAngle :: Utf8.encode rest) := by
  simp [elementBytes, encodeChar_open, encodeChar_close, encodeChar_slash]

/-- An element whose content is read as its children is attached at its end. -/
theorem readOn_element {node : Node} {tag content : List Char} (htag : WritesTag node tag)
    (hcontent : ∀ rest, readOn size (Utf8.encode content ++ rest)
      (Utf8.encode node.tag.toList :: openNames)
      ⟨{ node with children := [] } :: assembly.openNodes, assembly.root⟩ =
        readOn size rest (Utf8.encode node.tag.toList :: openNames)
          ⟨node :: assembly.openNodes, assembly.root⟩) (rest : Bytes) :
    readOn size (elementBytes node.tag tag content ++ closeAngle :: rest) openNames assembly =
      assembly.attach node >>= readOn size rest openNames := by
  have hname : IsName node.tag.toList := by
    obtain ⟨hname, -⟩ := htag
    exact hname
  have hbytes : elementBytes node.tag tag content ++ closeAngle :: rest =
      openAngle :: (Utf8.encode tag ++ closeAngle :: (Utf8.encode content ++
        openAngle :: (slash :: Utf8.encode node.tag.toList ++ closeAngle :: rest))) := by
    simp [elementBytes]
  rw [hbytes, readOn_startTag htag, hcontent, readOn_endTag hname]

/-- Reading a text that writes some elements attaches these elements, in order. -/
theorem readOn_writes {nodes : List Node} {text : List Char} (h : Writes nodes text)
    (rest : Bytes) :
    readOn size (Utf8.encode text ++ rest) openNames assembly =
      nodes.foldlM Assembly.attach assembly >>= readOn size rest openNames := by
  induction h generalizing openNames assembly rest with
  | none hfiller => exact readOn_filler hfiller rest
  | @childless node nodes filler tag after hfiller hchildren htag _ ih =>
      rw [encode_emptyTag, List.append_assoc, List.append_assoc, List.cons_append,
        readOn_filler hfiller, readOn_emptyTag htag hchildren, List.foldlM_cons, bind_assoc]
      exact bind_congr fun _ => ih rest
  | @element node nodes filler tag content after hfiller htag _ _ ihcontent ihafter =>
      have hcontent : ∀ rest, readOn size (Utf8.encode content ++ rest)
          (Utf8.encode node.tag.toList :: openNames)
          ⟨{ node with children := [] } :: assembly.openNodes, assembly.root⟩ =
            readOn size rest (Utf8.encode node.tag.toList :: openNames)
              ⟨node :: assembly.openNodes, assembly.root⟩ := by
        intro rest
        rw [ihcontent, foldlM_attach_children]
        rfl
      rw [encode_element, List.append_assoc, List.append_assoc, List.cons_append,
        readOn_filler hfiller, readOn_element htag hcontent, List.foldlM_cons, bind_assoc]
      exact bind_congr fun _ => ihafter rest

/-- An element that was written is attached at its end. -/
theorem readOn_writtenElement {node : Node} {tag content : List Char} (htag : WritesTag node tag)
    (hcontent : Writes node.children content) (rest : Bytes) :
    readOn size (elementBytes node.tag tag content ++ closeAngle :: rest) openNames assembly =
      assembly.attach node >>= readOn size rest openNames := by
  refine readOn_element htag (fun rest => ?_) rest
  rw [readOn_writes hcontent, foldlM_attach_children]
  rfl

/-! ## Whole documents -/

/-- A byte order mark is passed over, whether it is read or not. -/
theorem readOn_withoutMark (bytes : Bytes) :
    readOn size (Reader.withoutMark bytes) openNames assembly =
      readOn size bytes openNames assembly := by
  unfold Reader.withoutMark
  split
  · next hmark =>
      obtain ⟨rest, hrest⟩ := List.isPrefixOf_iff_prefix.1 hmark
      have hskip : ∀ byte ∈ Reader.byteOrderMark, byte ≠ openAngle := by
        simp [Reader.byteOrderMark, openAngle]
      rw [← hrest, List.drop_left, readOn_skip hskip]
  · rfl

/-- A document that writes some elements is read as if they were put at the root in turn. -/
theorem readDocument_of_writes {nodes : List Node} {text : List Char} (h : Writes nodes text) :
    readDocument (Utf8.encode text) =
      nodes.foldlM Assembly.attach Assembly.empty >>= Assembly.finish := by
  let size := (Reader.withoutMark (Utf8.encode text)).length
  have hend : ∀ assembly, readOn size [] [] assembly = assembly.finish := fun _ =>
    Progress.run_of_end rfl
  calc
    readDocument (Utf8.encode text) =
        readOn size (Reader.withoutMark (Utf8.encode text)) [] Assembly.empty := rfl
    _ = readOn size (Utf8.encode text ++ []) [] Assembly.empty := by
      rw [readOn_withoutMark, List.append_nil]
    _ = nodes.foldlM Assembly.attach Assembly.empty >>= readOn size [] [] := readOn_writes h []
    _ = nodes.foldlM Assembly.attach Assembly.empty >>= Assembly.finish := bind_congr hend

end ClassDiagram.Xml

namespace ClassDiagram

/-- However an element is written, its document is read as that element. -/
theorem readTree_of_writes {node : Xml.Node} {text : List Char} (h : Xml.Writes [node] text) :
    readTree (Utf8.encode text) = .ok node := by
  rw [readTree, Xml.readDocument_of_writes h]
  rfl

/-- An element with an attribute and a child. -/
def greeting : Xml.Node :=
  ((Xml.Node.ofTag "t").withAttribute "k" "<b").withChild (Xml.Node.ofTag "u")

/-- The element after a comment, with an entity and a reference by number in its attribute. -/
def greetingText : List Char := "<!--m-->\n<t k=\"&lt;&#x62;\"> <u/></t>".toList

/-- The greeting is read from its text. -/
theorem readTree_of_writes_greeting :
    Xml.Writes [greeting] greetingText ∧ readTree (Utf8.encode greetingText) = .ok greeting := by
  have hcomment : Xml.IsCommentText ['m'] := ⟨by decide, by decide, by decide⟩
  have hlt : Xml.WritesChar '<' ['&', 'l', 't', ';'] :=
    @Xml.WritesChar.entity '<' ['l', 't'] (by decide)
  have hdigits : Xml.Spells 16 ['6', '2'] (6 * 16 + 2) :=
    .snoc (.single (by decide) (.inl (by decide))) (by decide) (.inl (by decide))
  have hb : Xml.WritesChar 'b' ['&', '#', 'x', '6', '2', ';'] :=
    @Xml.WritesChar.hexadecimal 'b' ['6', '2'] (by decide) hdigits
  have hvalue : Xml.WritesValue "<b".toList "&lt;&#x62;".toList := .cons hlt (.cons hb .nil)
  have hkey : Xml.IsName "k".toList := ⟨'k', [], rfl, rfl, by simp⟩
  have hattributes : Xml.WritesAttributes [("k", "<b")] " k=\"&lt;&#x62;\"".toList :=
    .cons hkey (.inl rfl) hvalue .nil
  have htag : Xml.WritesTag greeting "t k=\"&lt;&#x62;\"".toList :=
    @Xml.WritesTag.tag greeting _ ⟨'t', [], rfl, rfl, by simp⟩ hattributes
  have hleaf : Xml.WritesTag (Xml.Node.ofTag "u") "u".toList :=
    @Xml.WritesTag.tag (Xml.Node.ofTag "u") _ ⟨'u', [], rfl, rfl, by simp⟩ .nil
  have hspace : Xml.IsFiller [' '] := .char (by decide) .nil
  have hcontent : Xml.Writes [Xml.Node.ofTag "u"] " <u/>".toList :=
    .childless hspace rfl hleaf (.none .nil)
  have hfiller : Xml.IsFiller "<!--m-->\n".toList :=
    .comment hcomment (@Xml.IsFiller.char '\n' [] (by decide) .nil)
  have hwrites : Xml.Writes [greeting] greetingText :=
    .element hfiller htag hcontent (.none .nil)
  exact ⟨hwrites, readTree_of_writes hwrites⟩

end ClassDiagram
