import ClassDiagram.Files.Convert

/-!
# The names of files

A path that is joined to another one has the steps of both (`steps_join`), so that the output
for an input is a file of the stem of the input, whatever the output directory is called
(`fileName?_output`).  Outputs for inputs of distinct stems are distinct (`output_eq_iff`).
-/

namespace ClassDiagram

namespace Path

/-! ## Steps -/

/-- The texts between marks do not hold the mark. -/
theorem not_mem_of_mem_splitOn {mark : Char} {cs step : List Char} (h : step ∈ cs.splitOn mark) :
    mark ∉ step := by
  induction cs generalizing step with
  | nil => simp_all
  | cons c rest ih =>
      rw [List.splitOn_cons_eq_if_modifyHead] at h
      split at h
      · rcases List.mem_cons.1 h with rfl | h
        · exact List.not_mem_nil
        · exact ih h
      · next hc =>
          cases hsplit : rest.splitOn mark with
          | nil => exact absurd hsplit (List.splitOn_ne_nil mark rest)
          | cons first others =>
              rw [hsplit] at h
              rcases List.mem_cons.1 h with rfl | h
              · have hfirst := ih (hsplit ▸ List.mem_cons_self)
                have hne : mark ≠ c := fun heq => hc (beq_iff_eq.2 heq.symm)
                exact List.not_mem_cons_of_ne_of_not_mem hne hfirst
              · exact ih (hsplit ▸ List.mem_cons_of_mem first h)

/-- A relative path is joined to another one behind a fixed front. -/
theorem join_of_relative {path : String} (h : isAbsolute path = false) (base : String) :
    join base path =
      (if base = "" then "" else if endsWithSlash base then base else base ++ "/") ++ path := by
  unfold join
  by_cases hbase : base = ""
  · simp [hbase]
  · simp only [h, hbase, Bool.false_eq_true, or_self, if_false]
    split <;> rfl

/-- Joined paths have the steps of both, in order. -/
theorem steps_join {path : String} (h : isAbsolute path = false) (base : String) :
    steps (join base path) = steps base ++ steps path := by
  rw [join_of_relative h]
  by_cases hbase : base = ""
  · rw [if_pos hbase, hbase, String.empty_append]
    rfl
  · rw [if_neg hbase]
    cases hslash : endsWithSlash base with
    | true =>
        obtain ⟨front, hfront⟩ := List.getLast?_eq_some_iff.1 (of_decide_eq_true hslash)
        have hjoined : (base ++ path).toList = front ++ '/' :: path.toList := by
          rw [String.toList_append, hfront, List.append_assoc, List.singleton_append]
        rw [if_pos rfl, steps, steps, steps, hjoined, hfront,
          List.splitOn_append_cons_self, List.splitOn_append_cons_self, List.filter_append,
          List.filter_append]
        simp
    | false =>
        have hjoined : (base ++ "/" ++ path).toList = base.toList ++ '/' :: path.toList := by
          rw [String.toList_append, String.toList_append, List.append_assoc]
          rfl
        rw [if_neg Bool.false_ne_true, steps, hjoined, List.splitOn_append_cons_self,
          List.filter_append]
        rfl

theorem isAbsolute_join {path : String} (h : isAbsolute path = false) (base : String) :
    isAbsolute (join base path) = isAbsolute base := by
  rw [join_of_relative h]
  by_cases hbase : base = ""
  · rw [if_pos hbase, hbase, String.empty_append, h]
    rfl
  · obtain ⟨c, rest, hcons⟩ := List.exists_cons_of_ne_nil (mt String.toList_eq_nil_iff.1 hbase)
    rw [if_neg hbase, isAbsolute, isAbsolute, String.toList_append, hcons]
    split <;> simp [hcons]

/-! ## Names of files -/

/-- A name that can stand in a directory. -/
structure IsName (name : List Char) : Prop where
  ne_nil : name ≠ []
  not_slash : '/' ∉ name
  not_current : name ≠ ['.']
  not_parent : name ≠ ['.', '.']

theorem componentOf?_eq_name_iff {step name : List Char} :
    componentOf? step = some (.name name) ↔ step = name ∧ name ≠ ['.'] ∧ name ≠ ['.', '.'] := by
  unfold componentOf?
  split
  · simp_all
  · split
    · simp_all
    · simp only [Option.some.injEq, Component.name.injEq]
      constructor
      · rintro rfl
        exact ⟨rfl, ‹_›, ‹_›⟩
      · exact And.left

theorem eq_of_componentOf?_eq_none {step : List Char} (h : componentOf? step = none) :
    step = ['.'] := by
  unfold componentOf? at h
  split at h
  · next hdot => exact hdot
  · split at h <;> cases h

/-- What comes before the steps of a path has no name. -/
theorem getLast?_of_fileName? {path : String} {name : List Char} (h : fileName? path = some name) :
    ((steps path).filterMap componentOf?).getLast? = some (.name name) := by
  have hlast : (components path).getLast? = some (.name name) := by
    unfold fileName? at h
    split at h
    · next hlast => rw [hlast, Option.some.inj h]
    · cases h
  rw [components, List.getLast?_append] at hlast
  cases hnames : ((steps path).filterMap componentOf?).getLast? with
  | some component => rwa [hnames] at hlast
  | none =>
      rw [hnames, Option.none_or] at hlast
      split at hlast
      · cases hlast
      · split at hlast <;> cases hlast

/-- The name of a file is the last step of its path but for single dots. -/
theorem exists_steps_of_fileName? {path : String} {name : List Char}
    (h : fileName? path = some name) :
    IsName name ∧ ∃ front dots, steps path = front ++ name :: dots ∧ ∀ dot ∈ dots, dot = ['.'] := by
  obtain ⟨before, hbefore⟩ := List.getLast?_eq_some_iff.1 (getLast?_of_fileName? h)
  obtain ⟨front, rest, hsplit, -, hrest⟩ := List.filterMap_eq_append_iff.1 hbefore
  obtain ⟨dots, step, dots', rfl, hdots, hstep, hdots'⟩ := List.filterMap_eq_cons_iff.1 hrest
  obtain ⟨rfl, hcurrent, hparent⟩ := componentOf?_eq_name_iff.1 hstep
  have hmem : step ∈ steps path := by
    rw [hsplit]
    simp
  obtain ⟨hmem, hne⟩ := List.mem_filter.1 hmem
  refine ⟨⟨of_decide_eq_true hne, not_mem_of_mem_splitOn hmem, hcurrent, hparent⟩,
    front ++ dots, dots', by rw [hsplit, List.append_assoc], fun dot hdot => ?_⟩
  exact eq_of_componentOf?_eq_none (List.filterMap_eq_nil_iff.1 hdots' dot hdot)

theorem isAbsolute_ofList {name : List Char} (h : '/' ∉ name) :
    isAbsolute (String.ofList name) = false := by
  rw [isAbsolute, String.toList_ofList, decide_eq_false_iff_not]
  exact fun hhead => h (List.mem_of_head? hhead)

theorem steps_ofList {name : List Char} (h : IsName name) :
    steps (String.ofList name) = [name] := by
  rw [steps, String.toList_ofList, List.splitOn_eq_singleton h.not_slash]
  exact List.filter_cons_of_pos (decide_eq_true h.ne_nil)

/-- A file in a directory has its name. -/
theorem fileName?_join {name : List Char} (h : IsName name) (base : String) :
    fileName? (join base (String.ofList name)) = some name := by
  have hlast : (components (join base (String.ofList name))).getLast? = some (.name name) := by
    have hcomponent := componentOf?_eq_name_iff.2 ⟨rfl, h.not_current, h.not_parent⟩
    rw [components, steps_join (isAbsolute_ofList h.not_slash), steps_ofList h,
      List.filterMap_append, List.filterMap_cons_some hcomponent, List.filterMap_nil,
      List.getLast?_append, List.getLast?_concat, Option.some_or]
  rw [fileName?, hlast]

/-! ## Stems and extensions -/

theorem splitName_append {stem extension : List Char} (hstem : stem ≠ [])
    (hextension : '.' ∉ extension) :
    splitName (stem ++ '.' :: extension) = (stem, some extension) := by
  have hreverse : (stem ++ '.' :: extension).reverse =
      extension.reverse ++ '.' :: stem.reverse := by
    simp
  have hall : ∀ c ∈ extension.reverse, decide (c ≠ '.') = true := by
    intro c hc
    refine decide_eq_true fun hdot => hextension ?_
    rw [← hdot]
    exact List.mem_reverse.1 hc
  have htake : (stem ++ '.' :: extension).reverse.takeWhile (· ≠ '.') = extension.reverse := by
    rw [hreverse, List.takeWhile_append_of_pos hall, List.takeWhile_cons_of_neg (by decide),
      List.append_nil]
  have hdrop : (stem ++ '.' :: extension).reverse.dropWhile (· ≠ '.') = '.' :: stem.reverse := by
    rw [hreverse, List.dropWhile_append_of_pos hall, List.dropWhile_cons_of_neg (by decide)]
  simp only [splitName, htake, hdrop, List.drop_one, List.tail_cons, List.reverse_reverse,
    if_neg hstem]

theorem splitName_fst_subset (name : List Char) : (splitName name).1 ⊆ name := by
  unfold splitName
  dsimp only
  split
  · exact List.Subset.refl name
  · intro c hc
    have hrest : c ∈ name.reverse.dropWhile (· ≠ '.') :=
      List.mem_of_mem_drop (List.mem_reverse.1 hc)
    exact List.mem_reverse.1 ((List.dropWhile_suffix _).subset hrest)

theorem splitName_fst_ne_nil {name : List Char} (h : name ≠ []) : (splitName name).1 ≠ [] := by
  unfold splitName
  dsimp only
  split
  · exact h
  · next hstem => exact hstem

/-- The text can follow the last dot of a name. -/
structure IsExtension (extension : String) : Prop where
  ne_nil : extension.toList ≠ []
  not_slash : '/' ∉ extension.toList
  not_dot : '.' ∉ extension.toList

/-- The name of an output. -/
def outputName (stem extension : String) : List Char := stem.toList ++ '.' :: extension.toList

section

variable {input stem extension : String} (hstem : fileStem? input = some stem)
  (hextension : IsExtension extension)

include hstem

theorem isName_outputName (hextension : IsExtension extension) :
    stem.toList ≠ [] ∧ IsName (outputName stem extension) := by
  obtain ⟨name, hname, rfl⟩ := Option.map_eq_some_iff.1 hstem
  obtain ⟨hname, -⟩ := exists_steps_of_fileName? hname
  have hne := splitName_fst_ne_nil hname.ne_nil
  have hlong : 2 < (outputName (String.ofList (splitName name).1) extension).length := by
    have hfirst := List.length_pos_iff.2 hne
    have hlast := List.length_pos_iff.2 hextension.ne_nil
    simp only [outputName, String.toList_ofList, List.length_append, List.length_cons]
    omega
  refine ⟨by rwa [String.toList_ofList], ?_, ?_, ?_, ?_⟩
  · exact List.append_ne_nil_of_right_ne_nil _ (List.cons_ne_nil _ _)
  · rw [outputName, String.toList_ofList, List.mem_append, List.mem_cons]
    rintro (hslash | hdot | hslash)
    · exact hname.not_slash (splitName_fst_subset name hslash)
    · exact absurd hdot (by decide)
    · exact hextension.not_slash hslash
  · exact fun hcurrent => absurd (congrArg List.length hcurrent) (by simp; omega)
  · exact fun hparent => absurd (congrArg List.length hparent) (by simp; omega)

/-- An output stands in the directory. -/
theorem output_eq_join (directory extension : String) :
    output input directory extension =
      join directory (String.ofList (outputName stem extension)) := by
  have hname : stem ++ "." ++ extension = String.ofList (outputName stem extension) := by
    rw [← String.toList_inj, String.toList_ofList, String.toList_append, String.toList_append,
      List.append_assoc]
    rfl
  rw [output, hstem, Option.getD_some, hname]

include hextension

theorem splitName_outputName :
    splitName (outputName stem extension) = (stem.toList, some extension.toList) :=
  splitName_append (isName_outputName hstem hextension).1 hextension.not_dot

/-- An output is a file of the stem of its input. -/
theorem fileName?_output (directory : String) :
    fileName? (output input directory extension) = some (outputName stem extension) := by
  rw [output_eq_join hstem]
  exact fileName?_join (isName_outputName hstem hextension).2 directory

/-- Names of outputs are equal only if their stems are, and their extensions. -/
theorem outputName_inj {other : String} {stem' extension' : String}
    (hother : fileStem? other = some stem') (hextension' : IsExtension extension')
    (h : outputName stem extension = outputName stem' extension') :
    stem = stem' ∧ extension = extension' := by
  have hsplit := splitName_outputName hstem hextension
  rw [h, splitName_outputName hother hextension'] at hsplit
  obtain ⟨hstems, hextensions⟩ := Prod.mk.inj hsplit
  exact ⟨(String.toList_inj.1 hstems).symm,
    (String.toList_inj.1 (Option.some.inj hextensions)).symm⟩

/-- Outputs with the same extension are the same file exactly if their inputs have the same stem. -/
theorem output_eq_iff {other : String} {stem' : String} (hother : fileStem? other = some stem')
    (directory : String) :
    output input directory extension = output other directory extension ↔ stem = stem' := by
  constructor
  · intro h
    have hnames : some (outputName stem extension) = some (outputName stem' extension) := by
      rw [← fileName?_output hstem hextension directory, h,
        fileName?_output hother hextension directory]
    exact (outputName_inj hstem hextension hother hextension (Option.some.inj hnames)).1
  · rintro rfl
    rw [output, output, hstem, hother, Option.getD_some, Option.getD_some]

end

end Path

/-! ## Diagrams -/

theorem isExtension_declarationExtension : Path.IsExtension declarationExtension :=
  ⟨by decide, by decide, by decide⟩

theorem isExtension_modelExtension : Path.IsExtension modelExtension :=
  ⟨by decide, by decide, by decide⟩

/-- A diagram has a stem and one of the extensions of diagrams. -/
theorem exists_name_of_isDiagram {path : String} (h : isDiagram path = true) :
    ∃ name extension, Path.fileName? path = some name ∧
      (Path.splitName name).2 = some extension ∧
      diagramExtensions.any (Text.equalIgnoringCase · (String.ofList extension)) = true := by
  unfold isDiagram at h
  split at h
  · next extension hextension =>
      obtain ⟨name, hname, hsplit⟩ := Option.bind_eq_some_iff.1 hextension
      obtain ⟨last, hlast, rfl⟩ := Option.map_eq_some_iff.1 hsplit
      exact ⟨name, last, hname, hlast, h⟩
  · cases h

theorem exists_stem_of_isDiagram {path : String} (h : isDiagram path = true) :
    ∃ stem, Path.fileStem? path = some stem := by
  obtain ⟨name, -, hname, -⟩ := exists_name_of_isDiagram h
  exact ⟨_, Option.map_eq_some_iff.2 ⟨name, hname, rfl⟩⟩

end ClassDiagram
