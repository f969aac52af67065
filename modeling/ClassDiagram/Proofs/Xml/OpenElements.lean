import ClassDiagram.Proofs.Utf8
import ClassDiagram.Proofs.Xml.RoundTrip

/-!
# Open elements

What is open in a document is kept twice: the reader keeps the names of the open elements,
as the start tags write them, and the tree under construction keeps their nodes.  Neither
looks at the other.

Both follow the events.  `Event.openAfter` says which names are open after an event, and
the reader (`openNames_of_next`) and the tree (`openTags_of_feed`) each keep to it.  So the
two are `InStep` at the start and after every event.  The reader lets an end tag close
the innermost name that it has and no other, so the node that is closed bears the name of
the tag (`InStep.next_eq_closed_iff`), and there is always a node to close
(`InStep.run_ne_closingNothing`).
-/

namespace ClassDiagram.Xml

/-! ## Events -/

/-- The names that are open after an event, innermost first. -/
def Event.openAfter (event : Event) (names : List Bytes) : List Bytes :=
  match event with
  | .opened content => tagName content :: names
  | .closed => names.tail
  | .childless _ | .skipped => names

/-- The names of the elements that some events have opened and not closed, innermost first. -/
def stillOpen (events : List Event) : List Bytes :=
  events.foldl (fun names event => event.openAfter names) []

theorem stillOpen_concat (events : List Event) (event : Event) :
    stillOpen (events ++ [event]) = event.openAfter (stillOpen events) := by
  rw [stillOpen, List.foldl_append]
  rfl

/-! ## The reader -/

namespace Reader

/-- The next piece of markup, and the bytes that follow it. -/
def Meets (reader : Reader) (markup : Markup) (after : Bytes) : Prop :=
  ∃ rest, reader.rest.dropWhile (· != openAngle) = openAngle :: rest ∧
    Markup.read rest = .ok (markup, after)

variable {reader later : Reader} {markup : Markup} {after : Bytes} {event : Event}

/-- The next piece of markup decides what happens next. -/
theorem Meets.next_eq (h : reader.Meets markup after) :
    ∃ position, reader.next = (reader.interpret position markup after).map some := by
  obtain ⟨rest, hrest, hread⟩ := h
  refine ⟨reader.size - (rest.length + 1), ?_⟩
  rw [next, hrest]
  simp only [hread]

/-- An event comes from the next piece of markup. -/
theorem exists_meets_of_next (h : reader.next = .ok (some (event, later))) :
    ∃ markup after position, reader.Meets markup after ∧
      reader.interpret position markup after = .ok (event, later) := by
  unfold next at h
  split at h
  · cases h
  · next angle rest hrest =>
      have hangle := List.head?_dropWhile_not (· != openAngle) reader.rest
      rw [hrest] at hangle
      obtain rfl : angle = openAngle := by simpa using hangle
      simp only at h
      split at h
      · cases h
      · next markup after hread =>
          obtain ⟨pair, hpair, hsome⟩ := map_eq_ok.1 h
          obtain rfl := Option.some.inj hsome
          exact ⟨markup, after, _, ⟨rest, hrest, hread⟩, hpair⟩

/-- A start tag opens its name, an end tag closes the innermost, and nothing else does either. -/
theorem openNames_of_interpret {position : Nat}
    (h : reader.interpret position markup after = .ok (event, later)) :
    later.openNames = event.openAfter reader.openNames := by
  cases markup with
  | endTag name =>
      simp only [interpret] at h
      split at h
      · cases h
      · next innermost outer hnames =>
          split at h
          · cases h
            rw [hnames]
            rfl
          · cases h
  | doctype named =>
      cases named with
      | true => cases h; rfl
      | false => cases h
  | _ => cases h; rfl

theorem openNames_of_next (h : reader.next = .ok (some (event, later))) :
    later.openNames = event.openAfter reader.openNames := by
  obtain ⟨markup, after, position, -, hinterpret⟩ := exists_meets_of_next h
  exact openNames_of_interpret hinterpret

/-- An end tag closes the innermost element if it has its name, and is refused otherwise. -/
theorem next_eq_closed_iff {name : Bytes} (h : reader.Meets (.endTag name) after) :
    (∃ later, reader.next = .ok (some (.closed, later))) ↔
      ∃ outer, reader.openNames = name :: outer := by
  obtain ⟨position, hnext⟩ := h.next_eq
  rw [hnext, interpret]
  cases hnames : reader.openNames with
  | nil => simp [Except.map]
  | cons innermost outer =>
      by_cases hname : name = innermost
      · simp [hname, Except.map]
      · simp [hname, Ne.symm hname, Except.map]

/-- Only an end tag closes an element. -/
theorem meets_endTag_of_next (h : reader.next = .ok (some (.closed, later))) :
    ∃ name after, reader.Meets (.endTag name) after := by
  obtain ⟨markup, after, position, hmeets, hinterpret⟩ := exists_meets_of_next h
  cases markup with
  | endTag name => exact ⟨name, after, hmeets⟩
  | doctype named => cases named <;> cases hinterpret
  | _ => cases hinterpret

/-- The reader says of an end tag that closes nothing that it is out of place. -/
theorem interpret_ne_closingNothing (reader : Reader) (position : Nat) (markup : Markup)
    (after : Bytes) : reader.interpret position markup after ≠ .error .closingNothing := by
  intro h
  cases markup with
  | endTag name =>
      simp only [interpret] at h
      split at h
      · cases h
      · split at h <;> cases h
  | doctype named => cases named <;> cases h
  | _ => cases h

theorem next_ne_closingNothing (reader : Reader) : reader.next ≠ .error .closingNothing := by
  intro h
  unfold next at h
  split at h
  · cases h
  · simp only at h
    split at h
    · cases h
    · exact interpret_ne_closingNothing reader _ _ _ (map_eq_error.1 h)

end Reader

/-! ## The tree -/

/-- The node of a start tag bears the name in the tag, byte for byte. -/
theorem encodeText_tag_of_ofTagContent {content : Bytes} {node : Node}
    (h : Node.ofTagContent content = .ok node) : Utf8.encodeText node.tag = tagName content := by
  obtain ⟨tag, htag, h⟩ := bind_eq_ok.1 h
  obtain ⟨attributes, -, h⟩ := bind_eq_ok.1 h
  obtain rfl := Except.ok.inj h
  exact (Utf8.decodeText_eq_ok_iff.1 (mapError_eq_ok.1 htag)).symm

theorem RawAttribute.decode_ne_closingNothing (raw : RawAttribute) :
    raw.decode ≠ .error .closingNothing := by
  intro h
  rcases bind_eq_error.1 h with h | ⟨name, -, h⟩
  · obtain ⟨_, -, h⟩ := mapError_eq_error.1 h
    cases h
  · rcases bind_eq_error.1 h with h | ⟨value, -, h⟩
    · obtain ⟨_, -, h⟩ := mapError_eq_error.1 h
      cases h
    · rcases bind_eq_error.1 h with h | ⟨expanded, -, h⟩
      · obtain ⟨_, -, h⟩ := mapError_eq_error.1 h
        cases h
      · cases h

theorem readAttributes_ne_closingNothing (size : Nat) (seen : List RawAttribute)
    (attributes : OrderedMap String String) (bytes : Bytes) :
    readAttributes size seen attributes bytes ≠ .error .closingNothing := by
  fun_induction readAttributes size seen attributes bytes with
  | case1 => simp
  | case2 => simp
  | case3 seen attributes bytes raw after hnext error hdecode =>
      intro h
      obtain rfl := Except.error.inj h
      exact raw.decode_ne_closingNothing hdecode
  | case4 seen attributes bytes raw after hnext name value hdecode ih => exact ih

theorem ofTagContent_ne_closingNothing (content : Bytes) :
    Node.ofTagContent content ≠ .error .closingNothing := by
  intro h
  rcases bind_eq_error.1 h with h | ⟨tag, -, h⟩
  · obtain ⟨_, -, h⟩ := mapError_eq_error.1 h
    cases h
  · rcases bind_eq_error.1 h with h | ⟨attributes, -, h⟩
    · exact readAttributes_ne_closingNothing _ _ _ _ h
    · cases h

namespace Assembly

/-- The tags of the open nodes in bytes, innermost first. -/
def openTags (assembly : Assembly) : List Bytes :=
  assembly.openNodes.map fun node => Utf8.encodeText node.tag

variable {assembly later : Assembly} {event : Event}

/-- A complete element opens and closes nothing. -/
theorem openTags_of_attach {node : Node} (h : assembly.attach node = .ok later) :
    later.openTags = assembly.openTags := by
  obtain ⟨openNodes, root⟩ := assembly
  unfold attach at h
  cases openNodes with
  | cons parent outer =>
      obtain rfl := Except.ok.inj h
      rfl
  | nil =>
      cases root with
      | some root => cases h
      | none =>
          obtain rfl := Except.ok.inj h
          rfl

/-- The open nodes follow the events. -/
theorem openTags_of_feed (h : assembly.feed event = .ok later) :
    later.openTags = event.openAfter assembly.openTags := by
  cases event with
  | opened content =>
      obtain ⟨node, hnode, rfl⟩ := map_eq_ok.1 h
      exact congrArg (· :: assembly.openTags) (encodeText_tag_of_ofTagContent hnode)
  | childless content =>
      obtain ⟨node, -, hattach⟩ := bind_eq_ok.1 h
      exact openTags_of_attach hattach
  | closed =>
      obtain ⟨openNodes, root⟩ := assembly
      cases openNodes with
      | nil => cases h
      | cons node outer =>
          have hattach : attach ⟨outer, root⟩ node = .ok later := h
          exact openTags_of_attach hattach
  | skipped =>
      obtain rfl := Except.ok.inj h
      rfl

theorem attach_ne_closingNothing (assembly : Assembly) (node : Node) :
    assembly.attach node ≠ .error .closingNothing := by
  unfold attach
  split
  · simp
  · split <;> simp

/-- Only an end tag can close nothing, where no node is open. -/
theorem feed_eq_closingNothing (h : assembly.feed event = .error .closingNothing) :
    event = .closed ∧ assembly.openNodes = [] := by
  cases event with
  | opened content => exact absurd (map_eq_error.1 h) (ofTagContent_ne_closingNothing content)
  | childless content =>
      rcases bind_eq_error.1 h with h | ⟨node, -, h⟩
      · exact absurd h (ofTagContent_ne_closingNothing content)
      · exact absurd h (attach_ne_closingNothing assembly node)
  | closed =>
      obtain ⟨openNodes, root⟩ := assembly
      cases openNodes with
      | nil => exact ⟨rfl, rfl⟩
      | cons node outer => exact absurd h (attach_ne_closingNothing ⟨outer, root⟩ node)
  | skipped => cases h

end Assembly

/-! ## Side by side -/

namespace Progress

/-- The reader and the tree have the same elements open. -/
def InStep (progress : Progress) : Prop :=
  progress.reader.openNames = progress.assembly.openTags

variable {progress later : Progress}

theorem inStep_start (bytes : Bytes) : (start bytes).InStep := rfl

/-- A step is an event that the tree follows. -/
theorem step_eq_ok_some_iff :
    progress.step = .ok (some later) ↔ ∃ event,
      progress.reader.next = .ok (some (event, later.reader)) ∧
        progress.assembly.feed event = .ok later.assembly := by
  unfold step
  constructor
  · intro h
    split at h
    · cases h
    · cases h
    · next event reader hnext =>
        obtain ⟨assembly, hfeed, hlater⟩ := map_eq_ok.1 h
        obtain rfl := Option.some.inj hlater
        exact ⟨event, hnext, hfeed⟩
  · rintro ⟨event, hnext, hfeed⟩
    rw [hnext]
    show (progress.assembly.feed event).map _ = _
    rw [hfeed]
    rfl

/-- Whatever event comes next, the tree follows the reader. -/
theorem InStep.feed (h : progress.InStep) {event : Event}
    (hnext : progress.reader.next = .ok (some (event, later.reader)))
    (hfeed : progress.assembly.feed event = .ok later.assembly) : later.InStep := by
  rw [InStep, Reader.openNames_of_next hnext, Assembly.openTags_of_feed hfeed, h]

/-- An end tag is accepted exactly if the innermost open node bears its name. -/
theorem InStep.next_eq_closed_iff (h : progress.InStep) {name after : Bytes}
    (hmeets : progress.reader.Meets (.endTag name) after) :
    (∃ reader, progress.reader.next = .ok (some (.closed, reader))) ↔
      ∃ node outer, progress.assembly.openNodes = node :: outer ∧
        Utf8.encodeText node.tag = name := by
  rw [Reader.next_eq_closed_iff hmeets, h, Assembly.openTags]
  constructor
  · rintro ⟨names, hnames⟩
    obtain ⟨node, outer, hnodes, hname, -⟩ := List.map_eq_cons_iff.1 hnames
    exact ⟨node, outer, hnodes, hname⟩
  · rintro ⟨node, outer, hnodes, rfl⟩
    rw [hnodes]
    exact ⟨_, rfl⟩

/-- No step finds nothing to close. -/
theorem InStep.step_ne_closingNothing (h : progress.InStep) :
    progress.step ≠ .error .closingNothing := by
  intro hstep
  unfold step at hstep
  split at hstep
  · next error hnext =>
      obtain rfl := Except.error.inj hstep
      exact progress.reader.next_ne_closingNothing hnext
  · cases hstep
  · next event reader hnext =>
      obtain ⟨rfl, hnodes⟩ := Assembly.feed_eq_closingNothing (map_eq_error.1 hstep)
      -- The reader has closed an element, and this is open in the tree too.
      obtain ⟨name, after, hmeets⟩ := Reader.meets_endTag_of_next hnext
      obtain ⟨node, outer, hopen, -⟩ := (h.next_eq_closed_iff hmeets).1 ⟨reader, hnext⟩
      rw [hnodes] at hopen
      cases hopen

theorem finish_ne_closingNothing (assembly : Assembly) :
    assembly.finish ≠ .error .closingNothing := by
  unfold Assembly.finish
  split <;> simp

/-- Reading on never finds nothing to close. -/
theorem InStep.run_ne_closingNothing (h : progress.InStep) :
    progress.run ≠ .error .closingNothing := by
  fun_induction run progress with
  | case1 progress error hstep =>
      intro herror
      obtain rfl := Except.error.inj herror
      exact h.step_ne_closingNothing hstep
  | case2 progress hstep => exact finish_ne_closingNothing progress.assembly
  | case3 progress later hstep ih =>
      obtain ⟨event, hnext, hfeed⟩ := step_eq_ok_some_iff.1 hstep
      exact ih (h.feed hnext hfeed)

/-- The bytes have been read as some events, and the tree has followed. -/
inductive ReadsTo (bytes : Bytes) : List Event → Progress → Prop where
  | start : ReadsTo bytes [] (start bytes)
  | event {events : List Event} {progress later : Progress} {event : Event}
      (reads : ReadsTo bytes events progress)
      (next : progress.reader.next = .ok (some (event, later.reader)))
      (feed : progress.assembly.feed event = .ok later.assembly) :
      ReadsTo bytes (events ++ [event]) later

theorem ReadsTo.inStep {bytes : Bytes} {events : List Event} (h : ReadsTo bytes events progress) :
    progress.InStep := by
  induction h with
  | start => exact inStep_start bytes
  | event _ hnext hfeed ih => exact ih.feed hnext hfeed

/-- The names that the reader has are those that the events have left open. -/
theorem ReadsTo.openNames_eq {bytes : Bytes} {events : List Event}
    (h : ReadsTo bytes events progress) : progress.reader.openNames = stillOpen events := by
  induction h with
  | start => rfl
  | event _ hnext _ ih => rw [stillOpen_concat, Reader.openNames_of_next hnext, ih]

/-- What comes of the document comes of going on from there. -/
theorem ReadsTo.readDocument_eq {bytes : Bytes} {events : List Event}
    (h : ReadsTo bytes events progress) : readDocument bytes = progress.run := by
  induction h with
  | start => rfl
  | event _ hnext hfeed ih => rw [ih, run_of_step (step_eq_ok_some_iff.2 ⟨_, hnext, hfeed⟩)]

end Progress

/-! ## Messages -/

/-- More words at the end leave the first ones. -/
theorem prefix_toList_append {opening text : String} (h : opening.toList <+: text.toList)
    (more : String) : opening.toList <+: (text ++ more).toList := by
  rw [String.toList_append]
  exact h.trans (List.prefix_append _ _)

/-- The first words of a message, which tell the kinds of errors apart. -/
def Error.opening : Error → String
  | syntaxAt .. | formAt .. => "XML parse error at position "
  | tagName _ => "Invalid tag name: "
  | attributeName _ => "Attribute key error: "
  | attributeText _ => "Attribute value error: cannot decode input using UTF-8: "
  | malformedAttribute _ => "Attribute error: "
  | malformedReference _ => "Attribute value error: "
  | closingNothing => "Unexpected closing tag"
  | unclosedElement _ => "Unclosed element '"
  | noRoot => "Document has no root element"
  | severalRoots _ => "Multiple root elements: unexpected '"

theorem Error.opening_prefix (error : Error) : error.opening.toList <+: error.message.toList := by
  have hthree : ∀ first second third fourth : String,
      first.toList <+: (first ++ second ++ third ++ fourth).toList := fun first _ _ _ =>
    prefix_toList_append (prefix_toList_append (prefix_toList_append List.prefix_rfl _) _) _
  cases error with
  | syntaxAt position fault => exact hthree _ _ _ _
  | formAt position fault => exact hthree _ _ _ _
  | closingNothing => exact List.prefix_rfl
  | unclosedElement tag => exact prefix_toList_append (prefix_toList_append List.prefix_rfl _) _
  | noRoot => exact List.prefix_rfl
  | severalRoots tag => exact prefix_toList_append (prefix_toList_append List.prefix_rfl _) _
  | _ => exact prefix_toList_append List.prefix_rfl _

/-- No other error has this message. -/
theorem Error.message_eq_iff {error : Error} :
    error.message = "Unexpected closing tag" ↔ error = .closingNothing := by
  constructor
  · intro h
    have hopening := h ▸ error.opening_prefix
    cases error with
    | closingNothing => rfl
    | _ =>
        simp only [opening] at hopening
        exact absurd hopening (by decide)
  · rintro rfl
    rfl

end ClassDiagram.Xml

namespace ClassDiagram

open Xml

/-- After every event the open nodes bear the names that the reader has open, which are those that
the events have opened and not closed.  Elements are closed by end tags only, and an end tag is
accepted exactly if the innermost open node bears its name.  No document is refused because a closing
tag was not expected. -/
theorem openNodes_follow_reader (bytes : Bytes) :
    (∀ events progress, Progress.ReadsTo bytes events progress →
      readDocument bytes = progress.run ∧
      progress.assembly.openNodes.map (fun node => Utf8.encodeText node.tag) =
        progress.reader.openNames ∧
      progress.reader.openNames = stillOpen events ∧
      (∀ reader, progress.reader.next = .ok (some (.closed, reader)) →
        ∃ name after, progress.reader.Meets (.endTag name) after) ∧
      ∀ name after, progress.reader.Meets (.endTag name) after →
        ((∃ reader, progress.reader.next = .ok (some (.closed, reader))) ↔
          ∃ node outer, progress.assembly.openNodes = node :: outer ∧
            Utf8.encodeText node.tag = name)) ∧
    ∀ fault, readTree bytes = .error fault → fault.detail ≠ "Unexpected closing tag" := by
  constructor
  · intro events progress hreads
    refine ⟨hreads.readDocument_eq, hreads.inStep.symm, hreads.openNames_eq, ?_, ?_⟩
    · intro reader hnext
      exact Reader.meets_endTag_of_next hnext
    · intro name after hmeets
      exact hreads.inStep.next_eq_closed_iff hmeets
  · intro fault hfault hdetail
    obtain ⟨error, herror, rfl⟩ := mapError_eq_error.1 hfault
    obtain rfl := Error.message_eq_iff.1 hdetail
    exact (Progress.inStep_start bytes).run_ne_closingNothing herror

/-- An element inside another, with a blank in its end tag. -/
def nestedBytes : Bytes := keyword "<a x='1'><b></b ></a>"

/-- After two start tags both elements are open, and the end tag of the inner one is accepted. -/
theorem openNodes_follow_reader_nested :
    ∃ events progress, Progress.ReadsTo nestedBytes events progress ∧
      stillOpen events = [keyword "b", keyword "a"] ∧
      progress.reader.Meets (.endTag (keyword "b")) (keyword "</a>") ∧
      ∃ reader, progress.reader.next = .ok (some (.closed, reader)) := by
  have hdecodes : ∀ content ∈ [keyword "a x='1'", keyword "b"],
      (Node.ofTagContent content).isOk = true := by decide +kernel
  obtain ⟨outer, houter⟩ := exists_eq_ok_of_isOk (hdecodes (keyword "a x='1'") (by simp))
  obtain ⟨inner, hinner⟩ := exists_eq_ok_of_isOk (hdecodes (keyword "b") (by simp))
  have hfeed : ∀ {content : Bytes} {node : Node}, Node.ofTagContent content = .ok node →
      ∀ nodes, Assembly.feed ⟨nodes, none⟩ (.opened content) = .ok ⟨node :: nodes, none⟩ := by
    intro content node hnode nodes
    rw [Assembly.feed, hnode]
    rfl
  have hfirst : Progress.ReadsTo nestedBytes [.opened (keyword "a x='1'")]
      ⟨⟨21, keyword "<b></b ></a>", [keyword "a"]⟩, ⟨[outer], none⟩⟩ :=
    .event .start rfl (hfeed houter [])
  have hsecond : Progress.ReadsTo nestedBytes [.opened (keyword "a x='1'"), .opened (keyword "b")]
      ⟨⟨21, keyword "</b ></a>", [keyword "b", keyword "a"]⟩, ⟨[inner, outer], none⟩⟩ :=
    .event hfirst rfl (hfeed hinner [outer])
  obtain ⟨-, htags, hopen, -, hclosed⟩ := (openNodes_follow_reader nestedBytes).1 _ _ hsecond
  have hmeets : Reader.Meets ⟨21, keyword "</b ></a>", [keyword "b", keyword "a"]⟩
      (.endTag (keyword "b")) (keyword "</a>") := ⟨_, rfl, rfl⟩
  obtain ⟨htag, -⟩ := List.cons.inj htags
  exact ⟨_, _, hsecond, hopen.symm, hmeets,
    (hclosed _ _ hmeets).2 ⟨inner, [outer], rfl, htag⟩⟩

end ClassDiagram
