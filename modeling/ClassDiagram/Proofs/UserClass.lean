import ClassDiagram.Proofs.EntityIds
import ClassDiagram.Proofs.Stages

/-!
# The user class

Classes claim to be the user class as they are entered, and the first claim counts
(`userClass_applyAll`).  Only classes make one, and which do can be read off their names
(`claims_recordElement`), so that the user class of a store is the first class of the
document that is named as one (`userClass_of_readModel`).

What it is to be named as the user class is said of the document alone (`CalledUser`): the
name before the table is the word `user`, with blanks around it or without.  The first class
that is called so is the user class, and without such a class there is none
(`userClass_eq_some_iff_isFirst`).
-/

namespace ClassDiagram

open Script

/-! ## Claims -/

/-- The class for which an edit makes a claim. -/
def Edit.claim? : Edit → Option ElementId
  | claimUserClass id => some id
  | _ => none

/-- The classes for which some edits make claims, in order. -/
def Edit.claims (edits : List Edit) : List ElementId := edits.filterMap Edit.claim?

theorem Edit.claims_append (edits edits' : List Edit) :
    claims (edits ++ edits') = claims edits ++ claims edits' :=
  List.filterMap_append

theorem Edit.claims_flatMap {α : Type} (items : List α) (edits : α → List Edit) :
    claims (items.flatMap edits) = items.flatMap fun item => claims (edits item) :=
  List.filterMap_flatMap

theorem userClass_apply (edit : Edit) (store : Store) :
    (edit.apply store).userClass = store.userClass.or edit.claim? := by
  cases edit with
  | addEntity kind id entity => cases kind <;> exact Option.or_none.symm
  | claimUserClass id => rfl
  | _ => exact Option.or_none.symm

/-- After some edits the user class is the one that there was, or else the first that was
claimed. -/
theorem userClass_applyAll (edits : List Edit) (store : Store) :
    (Edit.applyAll edits store).userClass = store.userClass.or (Edit.claims edits).head? := by
  rw [Edit.claims, List.head?_filterMap]
  induction edits generalizing store with
  | nil => exact Option.or_none.symm
  | cons edit edits ih =>
      rw [Edit.applyAll_cons, ih, userClass_apply, Option.or_assoc, List.findSome?_cons]
      cases edit.claim? <;> rfl

/-! ## Which elements make claims -/

/-- The id of an element that is named as the user class. -/
def userClass? (node : Xml.Node) : Option ElementId :=
  if isUserName (ClassName.split ((node.text? "name").getD "")).entity then
    node.text? idAttribute
  else none

/-- An element whose names or whose id cannot be read is not the user class. -/
theorem userClass?_eq_none {kind : EntityKind} {node : Xml.Node}
    (h : (∀ names, readClassName kind node ≠ .ok names) ∨ node.text? idAttribute = none) :
    userClass? node = none := by
  rcases h with hunnamed | hid
  · have hentity : (ClassName.split ((node.text? "name").getD "")).entity = "" := by
      unfold readClassName at hunnamed
      cases hname : node.text? "name" with
      | none => rfl
      | some name =>
          by_contra hne
          refine hunnamed (ClassName.split name) ?_
          rw [hname]
          exact if_neg hne
    rw [userClass?, hentity]
    rfl
  · rw [userClass?, hid, ite_self]

theorem claims_eq_nil {α : Type} {script : Script α}
    (h : script.MakesOnly fun e => e.claim? = none) : Edit.claims script.edits = [] :=
  List.filterMap_eq_nil_iff.2 h

/-- A class makes its claim where its name and its id are known, and an interface makes none. -/
theorem claims_claimPlace {kind : EntityKind} {node : Xml.Node} {names : ClassName}
    {id : ElementId} (hnames : readClassName kind node = .ok names)
    (hid : node.text? idAttribute = some id) :
    Edit.claims (claimPlace kind names id).edits =
      if kind = .concrete then (userClass? node).toList else [] := by
  have hclaim : Edit.claims (claimPlace kind names id).edits =
      if isUserClass kind names then [id] else [] := by
    unfold claimPlace
    split <;> rfl
  rw [hclaim, userClass?, ← split_of_readClassName hnames, hid]
  cases kind with
  | concrete => cases huser : isUserName names.entity <;> simp [isUserClass, huser]
  | interface => rfl

theorem claims_recordMembers (system : TypeSystem) (owner : Owner) (node : Xml.Node) :
    Edit.claims (recordMembers system owner node).edits = [] :=
  claims_eq_nil (makesOnly_recordMembers (fun _ => rfl) (fun _ _ => rfl) (fun _ _ => rfl)
    (fun _ _ => rfl) fun _ _ => rfl)

/-- A class makes a claim if it is named as the user class, and an interface makes none. -/
theorem claims_recordEntity {system : TypeSystem} {kind : EntityKind} {node : Xml.Node}
    (h : (recordElement system (.entity kind) node).Succeeds) :
    Edit.claims (recordElement system (.entity kind) node).edits =
      if kind = .concrete then (userClass? node).toList else [] := by
  obtain ⟨names, id, hnames, hid, -, hedits⟩ := edits_recordElement_entity h
  have hentity : ∀ entity, Edit.claims (entering kind id entity) = [] :=
    fun _ => rfl
  rw [hedits, Edit.claims_append, Edit.claims_append, claims_recordMembers,
    hentity, List.append_nil, List.append_nil, claims_claimPlace hnames hid]

/-- Only classes make claims. -/
theorem claims_recordElement {system : TypeSystem} {kind : ElementKind} {node : Xml.Node}
    (h : (recordElement system kind node).Succeeds) :
    Edit.claims (recordElement system kind node).edits =
      if kind = .entity .concrete then (userClass? node).toList else [] := by
  cases kind with
  | entity kind =>
      rw [claims_recordEntity h]
      simp only [ElementKind.entity.injEq]
  | _ =>
      apply claims_eq_nil
      intro e he
      have hfits := makesOnly_recordElement e he
      cases e with
      | claimUserClass id => cases hfits
      | _ => rfl

/-- The user class is the first class of the document that is named as one. -/
theorem userClass_of_readModel {system : TypeSystem} {model : Xml.Node} {store : Store}
    (h : (readModel system model).result = .ok store) :
    store.userClass = (elementsOf (.entity .concrete) model).findSome? userClass? := by
  obtain ⟨hsucceeds, rfl⟩ := readModel_eq_ok_iff_modelEdits.1 h
  have hstage : ∀ kind, ((elementsOf kind model).flatMap fun node =>
      Edit.claims (recordElement system kind node).edits) =
        if kind = .entity .concrete then (elementsOf kind model).filterMap userClass?
        else [] := by
    intro kind
    rw [List.flatMap_congr fun node hnode => claims_recordElement (hsucceeds kind node hnode)]
    split
    · exact (List.filterMap_eq_flatMap_toList _ _).symm
    · exact List.flatMap_eq_nil_iff.2 fun _ _ => rfl
  have hother : ∀ kind, kind ≠ .entity .concrete → ((elementsOf kind model).flatMap fun node =>
      Edit.claims (recordElement system kind node).edits) = [] :=
    fun kind hkind => (hstage kind).trans (if_neg hkind)
  have hclaims : Edit.claims (modelEdits system model) =
      (elementsOf (.entity .concrete) model).filterMap userClass? := by
    rw [modelEdits, Edit.claims_flatMap]
    simp only [Edit.claims_flatMap]
    rw [flatMap_stages_of_kind hother, hstage, if_pos rfl]
  rw [userClass_applyAll, hclaims, List.head?_filterMap]
  rfl

/-! ## The first class that is called `user` -/

/-- Before the table the name is the word `user`, up to the case of ASCII letters and to blanks
around it. -/
def Grammar.NamesUser (name : String) : Prop :=
  ∃ front word back, name.toList.takeWhile (· ≠ '(') = front ++ word ++ back ∧
    (∀ c ∈ front, Text.isBlank c = true) ∧ (∀ c ∈ back, Text.isBlank c = true) ∧
    word.map Text.foldAscii = ['u', 's', 'e', 'r']

/-- The element has the name of a user class. -/
def CalledUser (node : Xml.Node) : Prop :=
  ∃ name, Grammar.Named node name ∧ Grammar.NamesUser name

/-- The first of some elements that meet a condition. -/
def IsFirst (condition : Xml.Node → Prop) (nodes : List Xml.Node) (node : Xml.Node) : Prop :=
  ∃ before after, nodes = before ++ node :: after ∧ condition node ∧
    ∀ other ∈ before, ¬condition other

/-- No character that is a letter of the word up to case is blank. -/
theorem isBlank_of_foldAscii_mem {c : Char} (h : Text.foldAscii c ∈ ['u', 's', 'e', 'r']) :
    Text.isBlank c = false := by
  unfold Text.foldAscii at h
  split at h
  · next hcapital =>
      have hall : ∀ code ≤ 0x5A, 0x41 ≤ code → Text.isBlank (Char.ofNat code) = false := by decide
      rw [← Char.ofNat_toNat c]
      exact hall c.toNat hcapital.2 hcapital.1
  · have hall : ['u', 's', 'e', 'r'].all (!Text.isBlank ·) = true := by decide
    simpa using List.all_eq_true.1 hall c h

/-- A word that is `user` up to case has no blanks that trimming would cut. -/
theorem trimmed_of_map_foldAscii {word : List Char}
    (h : word.map Text.foldAscii = ['u', 's', 'e', 'r']) : Text.Trimmed word := by
  have hblank : ∀ c ∈ word, Text.isBlank c = false := fun c hc =>
    isBlank_of_foldAscii_mem (h ▸ List.mem_map_of_mem hc)
  exact ⟨fun c hc => hblank c (List.mem_of_mem_head? hc),
    fun c hc => hblank c (List.mem_of_getLast? hc)⟩

theorem isUserName_split_iff {name : String} :
    isUserName (ClassName.split name).entity = true ↔ Grammar.NamesUser name := by
  have hentity : Text.asciiFolded (ClassName.split name).entity =
      (Text.trimChars (name.toList.takeWhile (· ≠ '('))).map Text.foldAscii := by
    rw [Text.asciiFolded, ClassName.split, String.toList_ofList]
  have hword : Text.asciiFolded "user" = ['u', 's', 'e', 'r'] := by decide
  rw [isUserName, Text.equalIgnoringCase_iff, hentity, hword, Grammar.NamesUser]
  constructor
  · intro h
    obtain ⟨-, front, back, hsplit, hfront, hback⟩ := Text.trimChars_eq_iff.1 rfl
    exact ⟨front, _, back, hsplit, hfront, hback, h⟩
  · rintro ⟨front, word, back, hsplit, hfront, hback, hword⟩
    rw [Text.trimChars_eq_iff.2
      ⟨trimmed_of_map_foldAscii hword, front, back, hsplit, hfront, hback⟩, hword]

theorem calledUser_iff {node : Xml.Node} :
    CalledUser node ↔
      isUserName (ClassName.split ((node.text? "name").getD "")).entity = true := by
  unfold CalledUser Grammar.Named
  simp only [← text?_eq_some_iff, ← isUserName_split_iff]
  cases node.text? "name" with
  | none =>
      have hempty : isUserName (ClassName.split "").entity = false := by decide
      simp [hempty]
  | some name => simp

instance (node : Xml.Node) : Decidable (CalledUser node) :=
  decidable_of_iff _ calledUser_iff.symm

/-- An element is the user class under its id if it is called so. -/
theorem userClass?_eq_some_iff {node : Xml.Node} {id : ElementId} :
    userClass? node = some id ↔ CalledUser node ∧ node.text? idAttribute = some id := by
  rw [userClass?, calledUser_iff, Option.ite_none_right_eq_some]

/-- The user class is the first class of the document that is called so, and a class of the store;
there is none if no class of the document is called so. -/
theorem userClass_eq_some_iff_isFirst {system : TypeSystem} {model : Xml.Node} {store : Store}
    (h : (readModel system model).result = .ok store) :
    (∀ id, store.userClass = some id ↔ ∃ node,
      IsFirst CalledUser (elementsOf (.entity .concrete) model) node ∧
        node.text? idAttribute = some id) ∧
    (store.userClass = none ↔ ∀ node ∈ elementsOf (.entity .concrete) model, ¬CalledUser node) ∧
    ∀ id, store.userClass = some id → id ∈ store.classes.keys := by
  -- A class that is accepted has an id, so only its name keeps it from being the user class.
  have hnone : ∀ node ∈ elementsOf (.entity .concrete) model,
      (userClass? node = none ↔ ¬CalledUser node) := by
    intro node hnode
    have hid := (succeeds_recordElement.1
      (succeeds_of_mem_elementsOf (readModel_eq_ok_iff.1 h).1 hnode)).1
    obtain ⟨id, hid⟩ := filled_iff.1 hid
    rw [Option.eq_none_iff_forall_ne_some]
    simp only [ne_eq, userClass?_eq_some_iff, hid, not_and]
    exact ⟨fun hother hcalled => hother id hcalled rfl,
      fun hcalled _ hcalled' => absurd hcalled' hcalled⟩
  have hfirst : ∀ id, store.userClass = some id ↔ ∃ node,
      IsFirst CalledUser (elementsOf (.entity .concrete) model) node ∧
        node.text? idAttribute = some id := by
    intro id
    rw [userClass_of_readModel h, List.findSome?_eq_some_iff]
    constructor
    · rintro ⟨before, node, after, hnodes, huser, hbefore⟩
      obtain ⟨hcalled, hid⟩ := userClass?_eq_some_iff.1 huser
      refine ⟨node, ⟨before, after, hnodes, hcalled, fun other hother => ?_⟩, hid⟩
      exact (hnone other (hnodes ▸ List.mem_append_left _ hother)).1 (hbefore other hother)
    · rintro ⟨node, ⟨before, after, hnodes, hcalled, hbefore⟩, hid⟩
      refine ⟨before, node, after, hnodes, userClass?_eq_some_iff.2 ⟨hcalled, hid⟩, ?_⟩
      intro other hother
      exact (hnone other (hnodes ▸ List.mem_append_left _ hother)).2 (hbefore other hother)
  refine ⟨hfirst, ?_, ?_⟩
  · rw [userClass_of_readModel h, List.findSome?_eq_none_iff]
    exact forall₂_congr hnone
  · intro id hid
    obtain ⟨node, ⟨before, after, hnodes, -⟩, hid⟩ := (hfirst id).1 hid
    have hnode : node ∈ elementsOf (.entity .concrete) model := by simp [hnodes]
    exact (mem_keys_entities h .concrete).2 (List.mem_filterMap.2 ⟨node, hnode, hid⟩)

/-- An interface, a class that is not called `user`, and two that are. -/
def usersModel : Xml.Node :=
  ((((Xml.Node.ofTag modelTag).withChild (elementNamed "uml:Interface" "i" "User")).withChild
    (elementNamed "uml:Class" "o" "Users")).withChild
    (elementNamed "uml:Class" "u" " uSER (accounts)")).withChild
    (elementNamed "uml:Class" "v" "User")

/-- The first of the two classes is the user class. -/
theorem userClass_eq_some_iff_isFirst_users :
    ∃ store, (readModel .sql usersModel).result = .ok store ∧
      store.userClass = some "u" ∧ "u" ∈ store.classes.keys := by
  have hread : (readModel .sql usersModel).result.isOk = true := by decide +kernel
  obtain ⟨store, hstore⟩ := exists_eq_ok_of_isOk hread
  obtain ⟨hfirst, -, hkey⟩ := userClass_eq_some_iff_isFirst hstore
  have huser : store.userClass = some "u" := by
    refine (hfirst "u").2 ⟨elementNamed "uml:Class" "u" " uSER (accounts)", ⟨
      [elementNamed "uml:Class" "o" "Users"], [elementNamed "uml:Class" "v" "User"],
      rfl, by decide +kernel, ?_⟩, by decide +kernel⟩
    rw [List.forall_mem_singleton]
    decide +kernel
  exact ⟨store, hstore, huser, hkey "u" huser⟩

end ClassDiagram
