import ClassDiagram.Proofs.UserClass

/-!
# What each part of a store depends on

The stages hand one store on to the next, but a stage writes only to some of its maps
(`StorePart.WrittenBy`).  A map of the store of a model is what the elements of the kinds
that write to it make of the empty map (`map_of_readModel`), and it is the same for two
models that have the same elements of these kinds (`map_eq_of_sameElements`).

`parts_eq_of_sameElements` says for each part of a store which kinds these are.
-/

namespace ClassDiagram

variable {υ : Type}

/-- The models have the same elements of a kind, in the same order. -/
def SameElements (model model' : Xml.Node) (kind : ElementKind) : Prop :=
  elementsOf kind model = elementsOf kind model'

/-! ## The maps of a store -/

/-- A map of the store of a model has what the elements write to it, stage by stage. -/
theorem map_of_readModel (part : StorePart υ) {system : TypeSystem} {model : Xml.Node}
    {store : Store} (h : (readModel system model).result = .ok store) :
    part.map store = (∅ : OrderedMap ElementId υ).insertAll
      (ElementKind.stages.flatMap fun kind => (elementsOf kind model).flatMap fun node =>
        part.written (recordElement system kind node).edits) := by
  obtain ⟨hsucceeds, rfl⟩ := readModel_eq_ok_iff.1 h
  rw [StorePart.map_applyAll, part.map_empty, written_elements hsucceeds]

/-- A map to which the elements of one kind write has what these elements write. -/
theorem map_of_kind {part : StorePart υ} {kind : ElementKind} (hpart : part.WrittenBy (· = kind))
    {system : TypeSystem} {model : Xml.Node} {store : Store}
    (h : (readModel system model).result = .ok store) :
    part.map store = (∅ : OrderedMap ElementId υ).insertAll
      ((elementsOf kind model).flatMap fun node =>
        part.written (recordElement system kind node).edits) := by
  rw [map_of_readModel part h,
    flatMap_stages_of_kind fun kind' hne => flatMap_written_eq_nil hpart hne _]

/-- A map is the same for two models that have the same elements of the kinds that write to
it. -/
theorem map_eq_of_sameElements {part : StorePart υ} {among : ElementKind → Prop}
    (hpart : part.WrittenBy among) {system : TypeSystem} {model model' : Xml.Node}
    {store store' : Store} (h : (readModel system model).result = .ok store)
    (h' : (readModel system model').result = .ok store')
    (hsame : ∀ kind, among kind → SameElements model model' kind) :
    part.map store = part.map store' := by
  rw [map_of_readModel part h, map_of_readModel part h']
  congr 1
  apply List.flatMap_congr
  intro kind _
  by_cases hkind : among kind
  · rw [hsame kind hkind]
  · rw [flatMap_written_eq_nil hpart hkind, flatMap_written_eq_nil hpart hkind]

/-! ## All parts of a store -/

/-- Models that have the same enumerations, or the same associations, and so on, have stores that
agree in the parts that these elements write to, whatever else is in the models. -/
theorem parts_eq_of_sameElements {system : TypeSystem} {model model' : Xml.Node}
    {store store' : Store} (h : (readModel system model).result = .ok store)
    (h' : (readModel system model').result = .ok store') :
    let same := SameElements model model'
    (same .enumeration → store.enumerations = store'.enumerations) ∧
    (same .association → store.associations = store'.associations) ∧
    (same (.entity .concrete) →
      store.classes = store'.classes ∧ store.userClass = store'.userClass) ∧
    (same (.entity .interface) → store.interfaces = store'.interfaces) ∧
    (same (.entity .concrete) → same (.entity .interface) →
      store.fields = store'.fields ∧ store.operations = store'.operations) ∧
    (same .type → same (.entity .concrete) → same (.entity .interface) →
      store.types = store'.types) := by
  intro same
  have hentities : same (.entity .concrete) → same (.entity .interface) →
      ∀ kind, (∃ entity, kind = .entity entity) → same kind := by
    rintro hclasses hinterfaces _ ⟨_ | _, rfl⟩
    · exact hclasses
    · exact hinterfaces
  refine ⟨fun hsame => ?_, fun hsame => ?_, fun hsame => ⟨?_, ?_⟩, fun hsame => ?_,
    fun hclasses hinterfaces => ⟨?_, ?_⟩, fun htypes hclasses hinterfaces => ?_⟩
  · exact map_eq_of_sameElements enumerations_writtenBy h h' fun _ hkind => hkind ▸ hsame
  · exact map_eq_of_sameElements associations_writtenBy h h' fun _ hkind => hkind ▸ hsame
  · exact map_eq_of_sameElements (entities_writtenBy .concrete) h h' fun _ hkind => hkind ▸ hsame
  · rw [userClass_of_readModel h, userClass_of_readModel h', hsame]
  · exact map_eq_of_sameElements (entities_writtenBy .interface) h h' fun _ hkind => hkind ▸ hsame
  · exact map_eq_of_sameElements (members_writtenBy .fields) h h' (hentities hclasses hinterfaces)
  · exact map_eq_of_sameElements (members_writtenBy .operations) h h'
      (hentities hclasses hinterfaces)
  · refine map_eq_of_sameElements types_writtenBy h h' fun kind hkind => ?_
    rcases hkind with rfl | hentity
    · exact htypes
    · exact hentities hclasses hinterfaces kind hentity

/-- The shop with its elements the other way round, and a list of shelves. -/
def shelvedModel : Xml.Node :=
  { shopModel with
    children := elementNamed "uml:Enumeration" "s" "Shelf" :: shopModel.children.reverse }

/-- The shelves stand among the enumerations, and the rest of the shop is as it was. -/
theorem parts_eq_of_sameElements_shelves :
    ∃ store store', (readModel .sql shopModel).result = .ok store ∧
      (readModel .sql shelvedModel).result = .ok store' ∧
      store.enumerations.keys = [] ∧ store'.enumerations.keys = ["s"] ∧
      store.types = store'.types ∧ store.classes = store'.classes ∧
      store.interfaces = store'.interfaces ∧ store.fields = store'.fields ∧
      store.operations = store'.operations ∧ store.associations = store'.associations ∧
      store.userClass = store'.userClass := by
  have hkeys : (readModel .sql shopModel).result.map (·.enumerations.keys) = .ok [] := by
    decide +kernel
  have hkeys' : (readModel .sql shelvedModel).result.map (·.enumerations.keys) = .ok ["s"] := by
    decide +kernel
  obtain ⟨store, hstore, hnone⟩ := map_eq_ok.1 hkeys
  obtain ⟨store', hstore', hshelves⟩ := map_eq_ok.1 hkeys'
  obtain ⟨-, hassociations, hclasses, hinterfaces, hmembers, htypes⟩ :=
    parts_eq_of_sameElements hstore hstore'
  obtain ⟨hfields, hoperations⟩ := hmembers rfl rfl
  exact ⟨store, store', hstore, hstore', hnone, hshelves, htypes rfl rfl rfl,
    (hclasses rfl).1, hinterfaces rfl, hfields, hoperations, hassociations rfl, (hclasses rfl).2⟩

end ClassDiagram
