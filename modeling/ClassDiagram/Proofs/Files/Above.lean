import ClassDiagram.Proofs.Files.Tree

/-!
# The paths above a path

A path is followed step by step, and on the way one comes by every path above it: whoever
follows a path `Passes` a path above it and goes on from there by at least one more step
(`pairwise_passes`).  A path above another one is no more than a part of its text
(`sublist_of_mem_parents`), so that it is fit to be followed if the other one is.

Dots and repeated slashes are in a path but not in the paths above it.  They make no difference
to where a path leads, except for dots at the end (`walk_dot_cons`).
-/

namespace ClassDiagram

namespace Path

/-! ## Splitting and joining -/

/-- To leave out some of the parts is to leave out characters. -/
theorem intercalate_sublist (mark : Char) {parts parts' : List (List Char)}
    (h : parts.Sublist parts') :
    ([mark].intercalate parts).Sublist ([mark].intercalate parts') := by
  induction h with
  | slnil => exact List.Sublist.refl _
  | @cons parts parts' part hsub ih =>
      by_cases hnil : parts' = []
      · rw [hnil, List.sublist_nil] at hsub
        rw [hsub]
        exact List.nil_sublist _
      · rw [List.intercalate_cons_of_ne_nil hnil]
        exact ih.trans (List.sublist_append_right _ _)
  | @cons_cons parts parts' part hsub ih =>
      by_cases hnil : parts = []
      · rw [hnil]
        by_cases hnil' : parts' = []
        · rw [hnil']
        · rw [List.intercalate_cons_of_ne_nil hnil', List.append_assoc]
          simp
      · have hnil' : parts' ≠ [] := by
          intro hempty
          rw [hempty, List.sublist_nil] at hsub
          exact hnil hsub
        rw [List.intercalate_cons_of_ne_nil hnil, List.intercalate_cons_of_ne_nil hnil']
        exact ih.append_left _

/-! ## Components -/

/-- The steps that some components stand for; the root is none. -/
def stepsOf (parts : List Component) : List (List Char) :=
  (parts.map Component.text).filter (· ≠ [])

/-- The component can follow another one in a path. -/
structure Follows (component : Component) : Prop where
  ne_nil : component.text ≠ []
  not_slash : '/' ∉ component.text

theorem follows_of_mem_steps {path : String} {step : List Char} {component : Component}
    (hstep : step ∈ steps path) (h : componentOf? step = some component) :
    component.text = step ∧ Follows component := by
  have htext : component.text = step := by
    unfold componentOf? at h
    split at h
    · cases h
    · split at h
      · next hparent =>
          obtain rfl := Option.some.inj h
          exact hparent.symm
      · obtain rfl := Option.some.inj h
        rfl
  obtain ⟨hmem, hne⟩ := List.mem_filter.1 hstep
  exact ⟨htext, htext ▸ of_decide_eq_true hne, htext ▸ not_mem_of_mem_splitOn hmem⟩

theorem map_text_filterMap_componentOf? (steps : List (List Char)) :
    (steps.filterMap componentOf?).map Component.text = steps.filter (· ≠ ['.']) := by
  rw [List.map_filterMap, ← List.filterMap_eq_filter]
  apply List.filterMap_congr
  intro step _
  unfold componentOf?
  by_cases hcurrent : step = ['.']
  · simp [hcurrent, Option.guard]
  · by_cases hparent : step = ['.', '.']
    · simp [hparent, Component.text]
    · simp [hcurrent, hparent, Component.text]

/-- Components that make up a path: only the first one can be the root. -/
structure IsWay (first : Component) (rest : List Component) : Prop where
  first : first = .root ∨ Follows first
  rest : ∀ part ∈ rest, Follows part

theorem IsWay.take {first : Component} {rest : List Component} (h : IsWay first rest)
    (count : Nat) : IsWay first (rest.take count) :=
  ⟨h.first, fun part hpart => h.rest part (List.mem_of_mem_take hpart)⟩

theorem IsWay.not_slash {first : Component} {rest : List Component} (h : IsWay first rest) :
    ∀ part ∈ first :: rest, '/' ∉ part.text := by
  intro part hpart
  rcases List.mem_cons.1 hpart with rfl | hpart
  · rcases h.first with rfl | hfollows
    · exact List.not_mem_nil
    · exact hfollows.not_slash
  · exact (h.rest part hpart).not_slash

/-- The components of a path: the root of an absolute path or a dot at the start, then names. -/
theorem components_cases (path : String) :
    ∃ front, components path = front ++ (steps path).filterMap componentOf? ∧
      (isAbsolute path = true ∧ front = [.root] ∨
        isAbsolute path = false ∧
          (front = [.current] ∧ (steps path).head? = some ['.'] ∨
            front = [] ∧ (steps path).head? ≠ some ['.'])) := by
  refine ⟨_, rfl, ?_⟩
  cases isAbsolute path with
  | true => exact .inl ⟨rfl, rfl⟩
  | false =>
      refine .inr ⟨rfl, ?_⟩
      by_cases hdot : (steps path).head? = some ['.']
      · exact .inl ⟨by simp [hdot], hdot⟩
      · exact .inr ⟨by simp [hdot], hdot⟩

theorem follows_of_mem_names {path : String} {part : Component}
    (h : part ∈ (steps path).filterMap componentOf?) : Follows part := by
  obtain ⟨step, hstep, hpart⟩ := List.mem_filterMap.1 h
  exact (follows_of_mem_steps hstep hpart).2

theorem isWay_components {path : String} {first : Component} {rest : List Component}
    (h : components path = first :: rest) :
    IsWay first rest ∧ (first = .root ↔ isAbsolute path = true) := by
  obtain ⟨front, hcomponents, hfront⟩ := components_cases path
  rw [h] at hcomponents
  rcases hfront with ⟨habsolute, rfl⟩ | ⟨hrelative, ⟨rfl, -⟩ | ⟨rfl, -⟩⟩
  · obtain ⟨rfl, rfl⟩ := List.cons.inj hcomponents
    exact ⟨⟨.inl rfl, fun _ => follows_of_mem_names⟩, by simp [habsolute]⟩
  · obtain ⟨rfl, rfl⟩ := List.cons.inj hcomponents
    have hfollows : Follows .current := ⟨by decide, by decide⟩
    exact ⟨⟨.inr hfollows, fun _ => follows_of_mem_names⟩, by simp [hrelative]⟩
  · rw [List.nil_append] at hcomponents
    have hall : ∀ part ∈ first :: rest, Follows part := by
      intro part hpart
      rw [hcomponents] at hpart
      exact follows_of_mem_names hpart
    have hfirst := hall first List.mem_cons_self
    have hroot : first ≠ .root := by
      rintro rfl
      exact hfirst.ne_nil rfl
    refine ⟨⟨.inr hfirst, fun part hpart => hall part (List.mem_cons_of_mem _ hpart)⟩, ?_⟩
    simp [hrelative, hroot]

/-! ## Paths made of components -/

theorem toList_ofComponents {parts : List Component} (h : parts ≠ [.root]) :
    (ofComponents parts).toList = ['/'].intercalate (parts.map Component.text) := by
  unfold ofComponents
  split
  · exact absurd rfl h
  · exact String.toList_ofList

theorem steps_ofComponents {first : Component} {rest : List Component} (h : IsWay first rest) :
    steps (ofComponents (first :: rest)) = stepsOf (first :: rest) := by
  by_cases hroot : first :: rest = [.root]
  · rw [hroot]
    rfl
  · have hparts : ∀ part ∈ (first :: rest).map Component.text, '/' ∉ part := by
      intro text htext
      obtain ⟨part, hpart, rfl⟩ := List.mem_map.1 htext
      exact h.not_slash part hpart
    rw [steps, toList_ofComponents hroot, List.splitOn_intercalate _ hparts (by simp)]
    rfl

theorem isAbsolute_ofComponents {first : Component} {rest : List Component}
    (h : IsWay first rest) :
    isAbsolute (ofComponents (first :: rest)) = true ↔ first = .root := by
  by_cases hroot : first :: rest = [.root]
  · rw [hroot]
    exact iff_of_true rfl (List.cons.inj hroot).1
  · rw [isAbsolute, decide_eq_true_iff, toList_ofComponents hroot, List.map_cons]
    rcases h.first with rfl | hfollows
    · -- Something follows the root, behind a slash.
      have hrest : rest.map Component.text ≠ [] := by
        intro hnil
        exact hroot (by rw [List.map_eq_nil_iff.1 hnil])
      rw [List.intercalate_cons_of_ne_nil hrest]
      exact iff_of_true rfl rfl
    · have hfirst : first ≠ .root := by
        rintro rfl
        exact hfollows.ne_nil rfl
      refine iff_of_false (fun hhead => hfollows.not_slash ?_) hfirst
      obtain ⟨c, text, htext⟩ := List.exists_cons_of_ne_nil hfollows.ne_nil
      rw [htext] at hhead ⊢
      have hc : c = '/' := by
        cases rest <;> simpa using hhead
      rw [hc]
      exact List.mem_cons_self

theorem ofComponents_ne_empty {first : Component} {rest : List Component}
    (h : IsWay first rest) : ofComponents (first :: rest) ≠ "" := by
  intro hempty
  rcases h.first with hroot | hfollows
  · have habsolute := (isAbsolute_ofComponents h).2 hroot
    rw [hempty] at habsolute
    cases habsolute
  · have hsteps := steps_ofComponents h
    rw [hempty] at hsteps
    have hfirst : first.text ∈ stepsOf (first :: rest) :=
      List.mem_filter.2 ⟨List.mem_cons_self, decide_eq_true hfollows.ne_nil⟩
    rw [← hsteps] at hfirst
    cases hfirst

/-- A path is a text of its components, with more slashes and dots. -/
theorem map_text_components_sublist (path : String) :
    ((components path).map Component.text).Sublist (path.toList.splitOn '/') := by
  obtain ⟨front, hcomponents, hfront⟩ := components_cases path
  have hsteps : (steps path).Sublist (path.toList.splitOn '/') := List.filter_sublist
  rw [hcomponents, List.map_append, map_text_filterMap_componentOf?]
  have hdots : ((steps path).filter (· ≠ ['.'])).Sublist (steps path) := List.filter_sublist
  rcases hfront with ⟨habsolute, rfl⟩ | ⟨-, ⟨rfl, hdot⟩ | ⟨rfl, -⟩⟩
  · -- The text before the first slash is empty and is no step.
    obtain ⟨rest, hrest⟩ := List.head?_eq_some_iff.1 (of_decide_eq_true habsolute)
    have hsplit : path.toList.splitOn '/' = [] :: rest.splitOn '/' := by
      rw [hrest, List.splitOn_cons_eq_if_modifyHead, if_pos (beq_self_eq_true _)]
    rw [hsplit]
    refine List.Sublist.cons_cons _ (hdots.trans ?_)
    rw [steps, hsplit, List.filter_cons_of_neg (by decide)]
    exact List.filter_sublist
  · obtain ⟨rest, hrest⟩ := List.head?_eq_some_iff.1 hdot
    refine List.Sublist.trans ?_ hsteps
    rw [hrest]
    refine List.Sublist.cons_cons _ ?_
    rw [List.filter_cons_of_neg (by decide)]
    exact List.filter_sublist
  · exact hdots.trans hsteps

/-! ## Paths above -/

theorem parents_eq {path : String} {first : Component} {rest : List Component}
    (h : components path = first :: rest) :
    parents path = (List.range rest.length).reverse.map fun count =>
      ofComponents (first :: rest.take count) := by
  have hrange : (List.range (rest.length + 1)).reverse.filter (0 < ·) =
      (List.range rest.length).reverse.map (· + 1) := by
    rw [List.range_succ_eq_map, List.reverse_cons, List.filter_append, ← List.map_reverse,
      List.filter_eq_self.2]
    · simp
    · simp
  rw [parents]
  simp only [h, List.length_cons]
  rw [hrange, List.map_map]
  rfl

/-- A path above another one has the first components of that path. -/
theorem exists_of_mem_parents {path above : String} (h : above ∈ parents path) :
    ∃ first rest count, components path = first :: rest ∧
      above = ofComponents (first :: rest.take count) := by
  cases hcomponents : components path with
  | nil => simp [parents, hcomponents] at h
  | cons first rest =>
      rw [parents_eq hcomponents] at h
      obtain ⟨count, -, rfl⟩ := List.mem_map.1 h
      exact ⟨first, rest, count, rfl, rfl⟩

theorem ne_empty_of_mem_parents {path above : String} (h : above ∈ parents path) : above ≠ "" := by
  obtain ⟨first, rest, count, hcomponents, rfl⟩ := exists_of_mem_parents h
  exact ofComponents_ne_empty ((isWay_components hcomponents).1.take count)

/-- A path above another one is a part of its text. -/
theorem sublist_of_mem_parents {path above : String} (h : above ∈ parents path) :
    above.toList.Sublist path.toList := by
  obtain ⟨first, rest, count, hcomponents, rfl⟩ := exists_of_mem_parents h
  by_cases hroot : first :: rest.take count = [.root]
  · obtain ⟨hfirst, -⟩ := List.cons.inj hroot
    have habsolute := (isWay_components hcomponents).2.1 hfirst
    obtain ⟨tail, htail⟩ := List.head?_eq_some_iff.1 (of_decide_eq_true habsolute)
    rw [hroot, htail]
    exact List.singleton_sublist.2 List.mem_cons_self
  · have htake : (first :: rest.take count).Sublist (first :: rest) :=
      (List.take_sublist _ _).cons_cons _
    have htexts : ((first :: rest.take count).map Component.text).Sublist
        (path.toList.splitOn '/') :=
      (htake.map Component.text).trans (hcomponents ▸ map_text_components_sublist path)
    have hpart := intercalate_sublist '/' htexts
    rw [List.intercalate_splitOn] at hpart
    rw [toList_ofComponents hroot]
    exact hpart

end Path

namespace FileSystem

/-! ## On the way -/

theorem walk_cons_congr {files : FileSystem} {steps steps' : Location}
    (h : ∀ location, files.walk location steps = files.walk location steps') (location : Location)
    (step : List Char) :
    files.walk location (step :: steps) = files.walk location (step :: steps') := by
  simp only [walk, h]

/-- A dot before another step makes no difference: either step needs a directory. -/
theorem walk_dot_cons (files : FileSystem) (location : Location) (step : List Char)
    (rest : Location) :
    files.walk location (['.'] :: step :: rest) = files.walk location (step :: rest) := by
  rw [walk.eq_def files location (['.'] :: step :: rest)]
  cases hentry : files.entry? location with
  | none => simp only [walk, hentry]
  | some found =>
      cases found with
      | file content => simp only [walk, hentry]
      | directory => rfl

/-- Only the dots at the end of a path make a difference. -/
theorem exists_dots (steps : Location) :
    ∃ dots : Location, (steps ≠ [] → steps.filter (· ≠ ['.']) ++ dots ≠ []) ∧
      ∀ (files : FileSystem) (location : Location), files.walk location steps =
        files.walk location (steps.filter (· ≠ ['.']) ++ dots) := by
  induction steps with
  | nil => exact ⟨[], by simp, fun _ _ => rfl⟩
  | cons step rest ih =>
      obtain ⟨dots, hne, hwalk⟩ := ih
      by_cases hdot : step = ['.']
      · rw [hdot, List.filter_cons_of_neg (by decide)]
        cases hrest : rest.filter (· ≠ ['.']) ++ dots with
        | nil =>
            have hnil : rest = [] := by
              by_contra hsome
              exact hne hsome hrest
            refine ⟨[['.']], by simp, fun files location => ?_⟩
            rw [hnil]
            rfl
        | cons next others =>
            refine ⟨dots, fun _ => hrest ▸ List.cons_ne_nil _ _, fun files location => ?_⟩
            rw [walk_cons_congr (hwalk files), hrest]
            exact walk_dot_cons files location next others
      · have hkeep : decide (step ≠ ['.']) = true := decide_eq_true hdot
        rw [List.filter_cons_of_pos (p := (· ≠ ['.'])) hkeep]
        refine ⟨dots, by simp, fun files location => ?_⟩
        exact walk_cons_congr (hwalk files) location step

/-- Whoever follows the path comes by the other one, and goes on from there. -/
structure Passes (path above : String) : Prop where
  isAbsolute : Path.isAbsolute path = Path.isAbsolute above
  steps : ∃ step rest, ∀ (files : FileSystem) (location : Location),
    files.walk location (Path.steps path) =
      files.walk location (Path.steps above ++ step :: rest)

/-- A path leads where its components do, but for dots at the end. -/
theorem exists_walk_components (path : String) : ∃ dots : Location,
    ∀ (files : FileSystem) (location : Location), files.walk location (Path.steps path) =
      files.walk location (Path.stepsOf (Path.components path) ++ dots) := by
  obtain ⟨front, hcomponents, hfront⟩ := Path.components_cases path
  obtain ⟨dots, hne, hwalk⟩ := exists_dots (Path.steps path)
  have hnames : (((Path.steps path).filterMap Path.componentOf?).map
      Path.Component.text).filter (· ≠ []) = (Path.steps path).filter (· ≠ ['.']) := by
    rw [List.filter_eq_self.2, Path.map_text_filterMap_componentOf?]
    intro text htext
    obtain ⟨part, hpart, rfl⟩ := List.mem_map.1 htext
    exact decide_eq_true (Path.follows_of_mem_names hpart).ne_nil
  refine ⟨dots, fun files location => ?_⟩
  rw [hwalk, hcomponents, Path.stepsOf, List.map_append, List.filter_append, hnames]
  rcases hfront with ⟨-, rfl⟩ | ⟨-, ⟨rfl, hdot⟩ | ⟨rfl, -⟩⟩
  · rfl
  · have hsteps : Path.steps path ≠ [] := by
      intro hnil
      rw [hnil] at hdot
      cases hdot
    obtain ⟨next, others, hcons⟩ := List.exists_cons_of_ne_nil (hne hsteps)
    rw [List.append_assoc, hcons]
    exact (walk_dot_cons files location next others).symm
  · rfl

/-- More components go on from fewer. -/
theorem exists_stepsOf_append {first : Path.Component} {rest more : List Path.Component}
    (h : Path.IsWay first (rest ++ more)) (hmore : more ≠ []) : ∃ step others,
    Path.stepsOf (first :: (rest ++ more)) = Path.stepsOf (first :: rest) ++ step :: others := by
  obtain ⟨part, parts, rfl⟩ := List.exists_cons_of_ne_nil hmore
  have hpart := h.rest part (by simp)
  refine ⟨part.text, (parts.map Path.Component.text).filter (· ≠ []), ?_⟩
  unfold Path.stepsOf
  rw [← List.cons_append, List.map_append, List.filter_append, List.map_cons (l := parts),
    List.filter_cons_of_pos (p := (· ≠ [])) (decide_eq_true hpart.ne_nil)]

/-- Whoever follows a path passes all paths above it, one after the other. -/
theorem pairwise_passes (path : String) : (path :: Path.parents path).Pairwise Passes := by
  cases hcomponents : Path.components path with
  | nil => simp [Path.parents, hcomponents]
  | cons first rest =>
      obtain ⟨hway, habsolute⟩ := Path.isWay_components hcomponents
      have habove : ∀ count, Path.steps (Path.ofComponents (first :: rest.take count)) =
            Path.stepsOf (first :: rest.take count) ∧
          Path.isAbsolute (Path.ofComponents (first :: rest.take count)) =
            Path.isAbsolute path := by
        intro count
        refine ⟨Path.steps_ofComponents (hway.take count), ?_⟩
        rw [Bool.eq_iff_iff, Path.isAbsolute_ofComponents (hway.take count), habsolute]
      -- The first components of a path, and those that are left out.
      have hsplit : ∀ {count total : Nat}, count < total → total ≤ rest.length →
          ∃ step others, Path.stepsOf (first :: rest.take total) =
            Path.stepsOf (first :: rest.take count) ++ step :: others := by
        intro count total hlt hle
        have htake : rest.take total = rest.take count ++ (rest.take total).drop count := by
          have hfirst : (rest.take total).take count = rest.take count := by
            rw [List.take_take, Nat.min_eq_left (Nat.le_of_lt hlt)]
          rw [← hfirst, List.take_append_drop]
        have hwhole := hway.take total
        rw [htake] at hwhole ⊢
        refine exists_stepsOf_append hwhole ?_
        rw [ne_eq, List.drop_eq_nil_iff, List.length_take]
        omega
      rw [Path.parents_eq hcomponents, List.pairwise_cons]
      constructor
      · intro above hmem
        obtain ⟨count, hcount, rfl⟩ := List.mem_map.1 hmem
        rw [List.mem_reverse, List.mem_range] at hcount
        obtain ⟨step, others, hsteps⟩ := hsplit hcount (Nat.le_refl _)
        obtain ⟨dots, hwalk⟩ := exists_walk_components path
        rw [List.take_length] at hsteps
        refine ⟨(habove count).2.symm, step, others ++ dots, fun files location => ?_⟩
        rw [hwalk, hcomponents, hsteps, (habove count).1, List.append_assoc, List.cons_append]
      · rw [List.pairwise_map, List.pairwise_reverse]
        refine List.Pairwise.imp_of_mem (fun {count total} hcount htotal hlt => ?_)
          List.pairwise_lt_range
        rw [List.mem_range] at htotal
        obtain ⟨step, others, hsteps⟩ := hsplit hlt (Nat.le_of_lt htotal)
        refine ⟨(habove total).2.trans (habove count).2.symm, step, others,
          fun files location => ?_⟩
        rw [(habove total).1, (habove count).1, hsteps]

end FileSystem

end ClassDiagram
