import ClassDiagram.Proofs.Stages
import ClassDiagram.Proofs.Xml.Similarity

/-!
# The layout of a document does not matter

A model is read into the same store, or refused for the same fault, if its elements are
laid out in another way (`readModel_eq_of_similar`).  The elements of one kind must stay
in order, but elements of different kinds may change places, and anything else may stand
between them: the store is made of the five sequences of elements by themselves.  Within
an element the order of the attributes is free, and so is the way in which children of
different tags are mixed.  Whether the model stands alone or in a wrapper makes no
difference either.

Every recorder asks for attributes by name and for children by tag, so that similar
elements give the same script.  The lemmas that say so follow the definitions of the
recorders, from the inside out.
-/

namespace ClassDiagram

open Script Xml.Node

/-! ## Lists of similar elements -/

theorem forM_congr {α : Type} {step : α → Script PUnit} {items others : List α}
    (h : List.Forall₂ (fun item other => step item = step other) items others) :
    forM items step = forM others step := by
  induction h with
  | nil => rfl
  | cons hitem _ ih => rw [List.forM_cons, List.forM_cons, hitem, ih]

theorem mapM_congr {ε α β : Type} {read : α → Except ε β} {items others : List α}
    (h : List.Forall₂ (fun item other => read item = read other) items others) :
    items.mapM read = others.mapM read := by
  induction h with
  | nil => rfl
  | cons hitem _ ih => rw [List.mapM_cons, List.mapM_cons, hitem, ih]

/-- Items that correspond still do so together with their positions. -/
theorem forall₂_zipIdx {α : Type} {related : α → α → Prop} {items others : List α}
    (h : List.Forall₂ related items others) (start : Nat) :
    List.Forall₂ (fun item other => related item.1 other.1 ∧ item.2 = other.2)
      (items.zipIdx start) (others.zipIdx start) := by
  induction h generalizing start with
  | nil => exact .nil
  | cons hitem _ ih => exact .cons ⟨hitem, rfl⟩ (ih (start + 1))

/-! ## Reading similar elements -/

section

variable {node other : Xml.Node} (h : Similar node other)

include h

theorem elementId_congr : elementId node = elementId other := by
  rw [elementId, elementId, h.text?_eq, h.tag_eq, h.attribute?_eq]

theorem comment?_congr : comment? node = comment? other := by
  refine h.bind_childTagged? (fun {block block'} hblock => ?_) "eAnnotations" 0
  refine hblock.bind_childTagged? (fun {detail detail'} hdetail => ?_) "details" 1
  rw [hdetail.attribute?_eq, hdetail.attribute?_eq]

/-! ### Types, enumerations and associations -/

theorem recordType_congr (system : TypeSystem) :
    recordType system node = recordType system other := by
  rw [recordType, recordType, elementId_congr h, h.attribute?_eq]

theorem readEnumeration_congr : readEnumeration node = readEnumeration other := by
  have hliterals : ∀ name, (node.childrenTagged "ownedLiteral").mapM (literalValue name) =
      (other.childrenTagged "ownedLiteral").mapM (literalValue name) := by
    intro name
    refine mapM_congr ((h.childrenTagged "ownedLiteral").imp fun literal literal' hliteral => ?_)
    rw [literalValue, literalValue, hliteral.text?_eq]
  rw [readEnumeration, readEnumeration, h.text?_eq]
  simp only [hliterals, elementId_congr h]

theorem endType_congr (side : AssociationEnd) (association : ElementId) :
    endType side association node = endType side association other := by
  rw [endType, endType, h.text?_eq]

theorem isMany_congr : isMany node = isMany other := by
  rw [isMany, isMany, h.bind_childTagged? fun hbound => hbound.attribute?_eq "value"]

end

theorem joinEnds_congr {target target' source source' : Xml.Node} (htarget : Similar target target')
    (hsource : Similar source source') (id : ElementId) (comment : String) :
    joinEnds id comment target source = joinEnds id comment target' source' := by
  unfold joinEnds
  simp only [endType_congr htarget, endType_congr hsource, htarget.text?_eq, hsource.text?_eq,
    isMany_congr htarget, isMany_congr hsource]

section

variable {node other : Xml.Node} (h : Similar node other)

include h

theorem readAssociation_congr : readAssociation node = readAssociation other := by
  have hends := h.childrenTagged "ownedEnd"
  unfold readAssociation
  rw [elementId_congr h, comment?_congr h]
  congr 1
  funext id
  generalize node.childrenTagged "ownedEnd" = ends at hends ⊢
  generalize other.childrenTagged "ownedEnd" = ends' at hends ⊢
  -- Only two ends are read; of any other number only the number counts.
  rcases hends with _ | ⟨htarget, _ | ⟨hsource, _ | ⟨hthird, hothers⟩⟩⟩
  · rfl
  · rfl
  · simp only [joinEnds_congr htarget hsource]
  · simp only [List.length_cons, hothers.length_eq]

/-! ### Members -/

theorem typeSource_congr : TypeSource.ofNode? node = TypeSource.ofNode? other := by
  rw [TypeSource.ofNode?, TypeSource.ofNode?, h.text?_eq,
    h.bind_childTagged? fun htype => htype.text?_eq "href"]

theorem recordField_congr (system : TypeSystem) (owner : Owner) (name : String) :
    recordField system owner name node = recordField system owner name other := by
  rw [recordField, recordField, fieldType, fieldType, typeSource_congr h, elementId_congr h,
    comment?_congr h]

theorem parameterRole_congr (owner : Owner) (operation : String) (index : Nat) :
    parameterRole owner operation node index = parameterRole owner operation other index := by
  rw [parameterRole, parameterRole, parameterType, parameterType, typeSource_congr h,
    h.text?_eq, isResult, isResult, h.text?_eq, h.attribute?_eq, parameterName, parameterName,
    h.text?_eq]

theorem readOperation_congr (owner : Owner) (name : String) :
    readOperation owner name node = readOperation owner name other := by
  rw [readOperation, readOperation, elementId_congr h]
  congr 1
  apply mapM_congr
  refine (forall₂_zipIdx (h.childrenTagged "ownedParameter") 0).imp ?_
  rintro ⟨parameter, index⟩ ⟨parameter', index'⟩ ⟨hparameter, rfl⟩
  exact parameterRole_congr hparameter owner name index

theorem recordOperation_congr (owner : Owner) (name : String) :
    recordOperation owner name node = recordOperation owner name other := by
  rw [recordOperation, recordOperation, readOperation_congr h]

theorem recordMember_congr (sort : MemberSort) (owner : Owner)
    {record : String → Xml.Node → Script Unit}
    (hrecord : ∀ name, record name node = record name other) :
    recordMember sort owner record node = recordMember sort owner record other := by
  rw [recordMember, recordMember, h.text?_eq]
  simp only [hrecord]

theorem recordMembers_congr (system : TypeSystem) (owner : Owner) :
    recordMembers system owner node = recordMembers system owner other := by
  have hfields := (h.childrenTagged attributeTag).imp fun _ _ hmember =>
    recordMember_congr hmember .field owner (recordField_congr hmember system owner)
  have hoperations := (h.childrenTagged operationTag).imp fun _ _ hmember =>
    recordMember_congr hmember .operation owner (recordOperation_congr hmember owner)
  unfold recordMembers
  rw [List.forM_eq_forM, forM_congr hfields, forM_congr hoperations]

/-! ### Classes and interfaces, and elements of all kinds -/

theorem recordEntity_congr (system : TypeSystem) (kind : EntityKind) :
    recordEntity system kind node = recordEntity system kind other := by
  have hname : readClassName kind node = readClassName kind other := by
    rw [readClassName, readClassName, h.text?_eq]
  unfold recordEntity entityNamed
  simp only [hname, elementId_congr h, comment?_congr h, recordMembers_congr h]

/-- Similar elements are read by the same script. -/
theorem recordElement_congr (system : TypeSystem) (kind : ElementKind) :
    recordElement system kind node = recordElement system kind other := by
  cases kind with
  | type => exact recordType_congr h system
  | enumeration =>
      rw [recordElement, recordElement, recordEnumeration, recordEnumeration,
        readEnumeration_congr h]
  | entity kind => rw [recordElement, recordElement, recordEntity_congr h]
  | association =>
      rw [recordElement, recordElement, recordAssociation, recordAssociation,
        readAssociation_congr h]

end

/-! ## Models -/

/-- Models whose elements are similar, kind by kind, are read by the same script. -/
theorem recordElements_congr (system : TypeSystem) {model model' : Xml.Node}
    (h : ∀ kind, List.Forall₂ Similar (elementsOf kind model) (elementsOf kind model')) :
    recordElements system model = recordElements system model' := by
  have hkind : ∀ kind, (elementsOf kind model).forM (recordElement system kind) =
      (elementsOf kind model').forM (recordElement system kind) := fun kind =>
    forM_congr ((h kind).imp fun _ _ hnode => recordElement_congr hnode system kind)
  unfold recordElements
  simp only [hkind]

/-! ## Documents -/

/-- Reads the model in a document into a store. -/
def readRoot (system : TypeSystem) (document : Xml.Node) : Except Fault Store :=
  modelRoot document >>= fun model => (readModel system model).result

/-- A text is read as the document that it writes. -/
theorem readDiagram_eq_readRoot (system : TypeSystem) (text : String) :
    (readDiagram system text).result =
      readTree (Utf8.encodeText text) >>= readRoot system := by
  unfold readDiagram readRoot
  rw [← bind_assoc]
  cases readTree (Utf8.encodeText text) >>= modelRoot <;> rfl

/-- The document is the model itself, or a wrapper around it and elements that are no models. -/
inductive HoldsModel : Xml.Node → Xml.Node → Prop where
  | bare {model : Xml.Node} (hmodel : model.tag = modelTag) : HoldsModel model model
  | wrapped {wrapper model : Xml.Node} {before after : List Xml.Node}
      (hwrapper : wrapper.tag = wrapperTag) (hmodel : model.tag = modelTag)
      (hchildren : wrapper.children = before ++ model :: after)
      (hothers : ∀ other ∈ before ++ after, other.tag ≠ modelTag) : HoldsModel wrapper model

theorem modelRoot_of_holdsModel {document model : Xml.Node} (h : HoldsModel document model) :
    modelRoot document = .ok model := by
  cases h with
  | bare hmodel => rw [modelRoot, if_pos hmodel]
  | @wrapped _ before after hwrapper hmodel hchildren hothers =>
      have hbefore : before.filter (·.tag = modelTag) = [] := by
        simpa using fun other hother => hothers other (List.mem_append_left _ hother)
      have hafter : after.filter (·.tag = modelTag) = [] := by
        simpa using fun other hother => hothers other (List.mem_append_right _ hother)
      have hmodels : document.childrenTagged modelTag = [model] := by
        simp [Xml.Node.childrenTagged, hchildren, hbefore, hafter, hmodel]
      have hother : ¬ document.tag = modelTag := by rw [hwrapper]; decide
      rw [modelRoot, if_neg hother, if_pos hwrapper, hmodels]

/-- Models whose elements of each kind are similar, in order, give the same store or the same fault,
however these elements are mixed with each other and with anything else, and whether a model
stands alone or in a wrapper. -/
theorem readModel_eq_of_similar {system : TypeSystem} {model model' : Xml.Node}
    (h : ∀ kind, List.Forall₂ Similar (elementsOf kind model) (elementsOf kind model')) :
    (readModel system model).result = (readModel system model').result ∧
    ∀ document document', HoldsModel document model → HoldsModel document' model' →
      readRoot system document = (readModel system model).result ∧
        readRoot system document' = (readModel system model).result := by
  have hsame : (readModel system model).result = (readModel system model').result := by
    rw [readModel_eq_recordElements, readModel_eq_recordElements, recordElements_congr system h]
  refine ⟨hsame, fun document document' hdocument hdocument' => ⟨?_, ?_⟩⟩
  · rw [readRoot, modelRoot_of_holdsModel hdocument]
    rfl
  · rw [readRoot, modelRoot_of_holdsModel hdocument', hsame]
    rfl

/-- The element of `elementNamed` with its name before its id. -/
def kioskElement (kind id name : String) : Xml.Node :=
  (((Xml.Node.ofTag Packages.elementTag).withAttribute "xsi:type" kind).withAttribute
    "name" name).withAttribute idAttribute id

/-- A member of a type of the diagram. -/
def kioskMember (tag id name : String) : Xml.Node := memberNamed tag id name "text"

/-- An interface before a class with an attribute and an operation. -/
def kiosk : Xml.Node :=
  let paper := ((elementNamed "uml:Class" "c" "Paper").withChild
    (kioskMember attributeTag "t" "title")).withChild (kioskMember operationTag "s" "sell")
  ((Xml.Node.ofTag modelTag).withChild (elementNamed "uml:Interface" "i" "Priced")).withChild paper

/-- The class, whose operation comes first, before an element of another kind and the interface. -/
def kioskRearranged : Xml.Node :=
  let paper := ((kioskElement "uml:Class" "c" "Paper").withChild
    (kioskMember operationTag "s" "sell")).withChild (kioskMember attributeTag "t" "title")
  (((Xml.Node.ofTag modelTag).withChild paper).withChild
    (elementNamed "uml:Package" "p" "Stock")).withChild
      (kioskElement "uml:Interface" "i" "Priced")

/-- The rearranged kiosk in a wrapper. -/
def kioskWrapped : Xml.Node :=
  ((Xml.Node.ofTag wrapperTag).withChild (.ofTag "note")).withChild kioskRearranged

/-- The kiosk by itself and the rearranged kiosk in a wrapper are read into the same store. -/
theorem readModel_eq_of_similar_kiosk :
    (∀ kind, List.Forall₂ Similar (elementsOf kind kiosk) (elementsOf kind kioskRearranged)) ∧
      HoldsModel kiosk kiosk ∧ HoldsModel kioskWrapped kioskRearranged ∧
      ∃ store, readRoot .sql kiosk = .ok store ∧ readRoot .sql kioskWrapped = .ok store := by
  have helement : ∀ kind id name, Similar (elementNamed kind id name)
      (kioskElement kind id name) := fun _ _ _ =>
    similar_withAttribute_comm _ (by decide) _ _
  have hmembers : (kioskMember attributeTag "t" "title").tag ≠
      (kioskMember operationTag "s" "sell").tag := by decide
  have hpaper := (similar_withChild_comm (elementNamed "uml:Class" "c" "Paper") hmembers).trans
    (((helement _ _ _).withChild (.refl _)).withChild (.refl _))
  have hsimilar : ∀ kind, List.Forall₂ Similar (elementsOf kind kiosk)
      (elementsOf kind kioskRearranged) := by
    rintro (_ | _ | (_ | _) | _)
    · exact .nil
    · exact .nil
    · exact .cons hpaper .nil
    · exact .cons (helement _ _ _) .nil
    · exact .nil
  have hbare : HoldsModel kiosk kiosk := .bare rfl
  have hwrapped : HoldsModel kioskWrapped kioskRearranged :=
    @HoldsModel.wrapped _ _ [.ofTag "note"] [] rfl rfl rfl (by decide)
  have hread : (readModel .sql kiosk).result.isOk = true := by decide +kernel
  obtain ⟨store, hstore⟩ := exists_eq_ok_of_isOk hread
  obtain ⟨hfirst, hsecond⟩ := (readModel_eq_of_similar hsimilar).2 _ _ hbare hwrapped
  exact ⟨hsimilar, hbare, hwrapped, store, hfirst.trans hstore, hsecond.trans hstore⟩

end ClassDiagram
