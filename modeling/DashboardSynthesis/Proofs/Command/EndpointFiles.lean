import DashboardSynthesis.Proofs.Command.Endpoint
import DashboardSynthesis.Proofs.FileTree.LastName

/-!
# The files of an endpoint

The files of both dashboards of an endpoint have different names, and if the endpoint has no separator in
it, these are the last names of their paths (`endsWith_target`).  Separators in it make further names, which
both paths have in common (`namesBehind`).  A path with another last name is read after such a file has been
put as it was before (`LeadsBeside`): this holds of the file of variables, of templates and of files of
decisions.
-/

namespace DashboardSynthesis

/-! ## The files of an endpoint -/

/-- The name of the file of a dashboard of an endpoint. -/
def Flavor.fileName (endpoint : Text) : Flavor → Text
  | .operational => ("operational-dashboard-" : Text) ++ endpoint ++ (".json" : Text)
  | .decisionModel _ | .ruleUnit => ("domain-dashboard-" : Text) ++ endpoint ++ (".json" : Text)

theorem Flavor.path_eq (flavor : Flavor) (endpoint : Text) :
    flavor.path endpoint = ("dashboards" : Text) ++ .scalar '/' :: flavor.fileName endpoint := by
  cases flavor <;> rfl

theorem Flavor.head?_fileName (flavor : Flavor) (endpoint : Text) :
    (flavor.fileName endpoint).head? ∈ [some (.scalar 'o'), some (.scalar 'd')] := by
  cases flavor with
  | operational => exact List.mem_cons_self
  | decisionModel decisions => exact List.mem_cons_of_mem _ List.mem_cons_self
  | ruleUnit => exact List.mem_cons_of_mem _ List.mem_cons_self

/-- A text that starts in another way is not the name of such a file. -/
theorem Flavor.fileName_ne {t : Text} (h : t.head? ∉ [some (.scalar 'o'), some (.scalar 'd')])
    (flavor : Flavor) (endpoint : Text) : flavor.fileName endpoint ≠ t := by
  rintro rfl
  exact h (flavor.head?_fileName endpoint)

/-- Both files of an endpoint can be told apart by how their names start. -/
theorem Flavor.head?_fileName_ne (endpoint : Text) :
    (Flavor.operational.fileName endpoint).head? ≠ (Flavor.ruleUnit.fileName endpoint).head? := by
  have hoperational : (Flavor.operational.fileName endpoint).head? = some (.scalar 'o') := rfl
  have hdomain : (Flavor.ruleUnit.fileName endpoint).head? = some (.scalar 'd') := rfl
  rw [hoperational, hdomain]
  decide

theorem Flavor.fileName_ofDecisions_ne (endpoint : Text) (decisions : Option (List Decision)) :
    Flavor.operational.fileName endpoint ≠ (Flavor.ofDecisions decisions).fileName endpoint := by
  have hdomain : (Flavor.ofDecisions decisions).fileName endpoint = Flavor.ruleUnit.fileName endpoint := by
    cases decisions <;> rfl
  rw [hdomain]
  exact fun h => Flavor.head?_fileName_ne endpoint (congrArg List.head? h)

theorem Flavor.notMem_fileName {endpoint : Text} (hplain : .scalar '/' ∉ endpoint) (flavor : Flavor) :
    .scalar '/' ∉ flavor.fileName endpoint := by
  cases flavor <;>
    · simp only [fileName, List.mem_append, not_or]
      exact ⟨⟨by decide, hplain⟩, by decide⟩

/-! ## The names in the path of an endpoint -/

/-- The names in the path of an endpoint from its first separator on. -/
def namesBehind (endpoint : Text) : List Text :=
  Path.namesOf ((endpoint ++ (".json" : Text)).dropWhile (· ≠ .scalar '/'))

theorem Flavor.exists_fileName_eq (flavor : Flavor) (endpoint : Text) :
    ∃ start : Text, .scalar '/' ∉ start ∧ start.head? ∈ [some (.scalar 'o'), some (.scalar 'd')] ∧
      flavor.fileName endpoint = start ++ (endpoint ++ (".json" : Text)) := by
  cases flavor with
  | operational => exact ⟨"operational-dashboard-", by decide, by decide, List.append_assoc _ _ _⟩
  | decisionModel decisions => exact ⟨"domain-dashboard-", by decide, by decide, List.append_assoc _ _ _⟩
  | ruleUnit => exact ⟨"domain-dashboard-", by decide, by decide, List.append_assoc _ _ _⟩

/-- The first name reaches up to the first separator of the endpoint. -/
theorem Flavor.exists_namesOf_fileName_eq (flavor : Flavor) (endpoint : Text) :
    ∃ name : Text, name ≠ ".." ∧ name.head? = (flavor.fileName endpoint).head? ∧
      Path.namesOf (flavor.fileName endpoint) = name :: namesBehind endpoint := by
  obtain ⟨start, hplain, hstart, hname⟩ := flavor.exists_fileName_eq endpoint
  have hhead : ∀ t : Text, (start ++ t).head? = start.head? := by
    intro t
    cases start with
    | nil => exact absurd hstart (by simp)
    | cons c start => rfl
  rw [hname, namesBehind, hhead]
  generalize endpoint ++ (".json" : Text) = t
  have hall : ∀ c ∈ start, decide (c ≠ .scalar '/') = true := by
    rintro c hc
    refine decide_eq_true ?_
    rintro rfl
    exact hplain hc
  have hne : ∀ other : Text, other.head? ∉ [some (.scalar 'o'), some (.scalar 'd')] →
      start ++ t.takeWhile (· ≠ .scalar '/') ≠ other := by
    rintro other hother rfl
    rw [hhead] at hother
    exact hother hstart
  refine ⟨_, hne _ (by decide), hhead _, ?_⟩
  rw [Path.namesOf_eq_cons (List.takeWhile_append_of_pos hall) (hne _ (by decide)) (hne _ (by decide)),
    List.dropWhile_append_of_pos hall]

/-- Two names stand in front of these. -/
theorem Flavor.exists_ofText_path_eq (flavor : Flavor) (endpoint : Text) :
    ∃ name : Text, name ≠ ".." ∧ name.head? = (flavor.fileName endpoint).head? ∧
      Path.ofText (flavor.path endpoint) =
        ⟨[], ("dashboards" : Text) :: name :: namesBehind endpoint⟩ := by
  obtain ⟨name, hname, hhead, hnames⟩ := flavor.exists_namesOf_fileName_eq endpoint
  refine ⟨name, hname, hhead, ?_⟩
  rw [Path.ofText, flavor.path_eq, Path.namesOf_append_cons, hnames]
  rfl

/-- The last name does not lead upwards. -/
theorem Flavor.exists_ofText_path_concat (flavor : Flavor) (endpoint : Text) :
    ∃ (above : List Text) (last : Text), last ≠ ".." ∧
      Path.ofText (flavor.path endpoint) = ⟨[], above ++ [last]⟩ := by
  obtain ⟨start, -, -, hname⟩ := flavor.exists_fileName_eq endpoint
  have hseparator : .scalar '/' ∈ ("dashboards" : Text) ++ .scalar '/' :: (start ++ endpoint) := by simp
  obtain ⟨s, last, hsplit, hlast⟩ := Text.exists_eq_append_cons hseparator
  have hpath : flavor.path endpoint = s ++ .scalar '/' :: (last ++ (".json" : Text)) := by
    have hwhole := congrArg (· ++ (".json" : Text)) hsplit
    simpa [flavor.path_eq, hname] using hwhole
  have hplain : .scalar '/' ∉ last ++ (".json" : Text) := by
    rw [List.mem_append, not_or]
    exact ⟨hlast, by decide⟩
  have hne : ∀ other : Text, other.getLast? ≠ some (.scalar 'n') → last ++ (".json" : Text) ≠ other := by
    rintro other hother rfl
    exact hother (by rw [List.getLast?_append]; rfl)
  have hnames : (Path.namesOf (flavor.path endpoint)).getLast? = some (last ++ (".json" : Text)) := by
    rw [hpath]
    exact Path.getLast?_namesOf hplain (hne _ (by decide)) (hne _ (by decide))
  refine ⟨(Path.namesOf (flavor.path endpoint)).dropLast, _, hne _ (by decide), ?_⟩
  rw [List.dropLast_append_getLast? _ hnames, Path.ofText, flavor.path_eq]
  rfl

/-- A name without a separator makes the last name. -/
theorem Flavor.endsWith_join {endpoint : Text} (hplain : .scalar '/' ∉ endpoint) (flavor : Flavor)
    (directory : Path) :
    (directory.join (.ofText (flavor.path endpoint))).EndsWith (flavor.fileName endpoint) := by
  have hnames : (Path.namesOf (flavor.path endpoint)).getLast? = some (flavor.fileName endpoint) := by
    rw [flavor.path_eq]
    exact Path.getLast?_namesOf (flavor.notMem_fileName hplain)
      (flavor.fileName_ne (by decide) _) (flavor.fileName_ne (by decide) _)
  have hroot : Path.rootOf (flavor.path endpoint) = [] := by
    rw [flavor.path_eq]
    rfl
  refine ⟨?_, flavor.fileName_ne (by decide) _⟩
  rw [Path.join_of_root_eq_nil hroot, List.getLast?_append]
  exact congrArg (Option.or · _) hnames

theorem EndpointOptions.endsWith_target {options : EndpointOptions}
    (hplain : .scalar '/' ∉ options.endpoint) (flavor : Flavor) (settings : Settings) :
    (options.target flavor settings).EndsWith (flavor.fileName options.endpoint) :=
  flavor.endsWith_join hplain _

/-! ## Reading beside a file that has been put -/

section

variable {before after : FileTree} {home place : Location} {name path : Text} {contents : ByteArray}

/-- A path that leads somewhere, with another last name than some. -/
structure LeadsBeside (files : FileTree) (home : Location) (name : Text) (p : Path) : Prop where
  leads : ∃ place, files.resolve home p = .ok place
  isBeside : ∃ last, p.EndsWith last ∧ last ≠ name

theorem LeadsBeside.status_eq_or {p : Path} (h : LeadsBeside before home name p)
    (hput : FileTree.FileIsPut before after place contents) (hplace : place.getLast? = some name) :
    after.status home p = before.status home p ∨
      before.status home p = .error .notFound ∧ after.status home p = .ok .directory := by
  obtain ⟨⟨other, hresolve⟩, last, hlast, hne⟩ := h
  exact hput.status_eq_or hplace hlast hne hresolve

/-- Where the file of variables would be does not depend on what there is. -/
theorem leadsBeside_variableFile (hname : name ≠ ".env") :
    LeadsBeside before home name Run.variableFile :=
  ⟨⟨home ++ [(".env" : Text)], rfl⟩, (".env" : Text), ⟨rfl, by decide⟩, hname.symm⟩

theorem variablesOutcome_of_fileIsPut (hname : name ≠ ".env")
    (hput : FileTree.FileIsPut before after place contents) (hplace : place.getLast? = some name) :
    Run.variablesOutcome after home = Run.variablesOutcome before home := by
  have hbeside : LeadsBeside before home name Run.variableFile := leadsBeside_variableFile hname
  rw [Run.variablesOutcome, Run.variablesOutcome]
  obtain hsame | ⟨hnone, hdirectory⟩ := hbeside.status_eq_or hput hplace
  · simp only [Run.probeOutcome, Run.textOutcome, Run.contentsOutcome, FileTree.probe,
      FileTree.readFile, hsame]
  · -- a directory brings no more variables than nothing does
    simp only [Run.probeOutcome, FileTree.probe, hnone, hdirectory]
    rfl

theorem loadTemplate_of_fileIsPut (h : LeadsBeside before home name (.ofText path))
    (hput : FileTree.FileIsPut before after place contents) (hplace : place.getLast? = some name) :
    loadTemplate after home path = loadTemplate before home path := by
  rw [loadTemplate, loadTemplate, templateBytes, templateBytes]
  obtain hsame | ⟨hnone, hdirectory⟩ := h.status_eq_or hput hplace
  · have hprobe : after.probe home (.ofText path) = before.probe home (.ofText path) := by
      rw [FileTree.probe, FileTree.probe, hsame]
    rw [hprobe]
  · -- either way the template is looked up in the library
    have hbefore : before.probe home (.ofText path) = .ok none := by
      rw [FileTree.probe, hnone]
    have hafter : after.probe home (.ofText path) = .ok (some .directory) := by
      rw [FileTree.probe, hdirectory]
    rw [hbefore, hafter]

theorem loadOutcome_of_fileIsPut {platform : Platform} {decisions : List Decision}
    (h : LeadsBeside before home name (.ofText path))
    (hput : FileTree.FileIsPut before after place contents) (hplace : place.getLast? = some name)
    (hload : Decision.loadOutcome platform before home path = .ok decisions) :
    Decision.loadOutcome platform after home path = .ok decisions := by
  rw [← hload]
  obtain hsame | ⟨hnone, -⟩ := h.status_eq_or hput hplace
  · simp only [Decision.loadOutcome, Run.probeOutcome, Run.contentsOutcome, FileTree.probe,
      FileTree.readFile, hsame]
  · -- without a file there would be no decisions
    simp only [Decision.loadOutcome, Run.probeOutcome, FileTree.probe, hnone] at hload
    exact absurd hload throw_ne_ok

end

end DashboardSynthesis
