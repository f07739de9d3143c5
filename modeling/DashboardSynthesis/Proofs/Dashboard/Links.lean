import DashboardSynthesis.Proofs.Dashboard.Runs

/-!
# Links after a run of edits

A link that is added takes the place of all links with its title and goes to the end.  So the links after a
run of edits are those of the template whose title no edit has, as they were, and behind them, for each title
that edits have, the link that was added last (`links_edits`).

Which links have a title can be asked of objects only.  If the links of the template are objects no edit
fails (`edits?_eq`), since every link that is added is one.
-/

namespace DashboardSynthesis
namespace Document

variable {d : Document}

/-! ## Edits that do not fail -/

/-- Every link of the document has the shape that adding another one asks for. -/
def LinksAreObjects (d : Document) : Prop := ∀ link ∈ d.links, link.isObject = true

/-- The document with other links. -/
def withLinks (d : Document) (links : List Json) : Document :=
  { d with members := d.members.set "links" (.arr links) }

theorem addLink?_eq (h : d.LinksAreObjects) (title url : Text) :
    d.addLink? title url =
      some (d.withLinks (d.links.filter (fun link => !hasTitle title link) ++ [linkTo title url])) := by
  rw [addLink?, if_pos (List.all_eq_true.2 h)]
  rfl

theorem addLink?_eq_none (h : ¬ d.LinksAreObjects) (title url : Text) : d.addLink? title url = none := by
  have hall : ¬ d.links.all Json.isObject = true := fun hall => h (List.all_eq_true.1 hall)
  rw [addLink?, if_neg hall]

theorem edit?_eq (h : d.LinksAreObjects) (e : Edit) : d.edit? e = some (d.edit e) := by
  cases e with
  | title title => rfl
  | panel content => rfl
  | link title url =>
    have hadd := addLink?_eq h title url
    rw [edit, edit?, hadd]
    rfl

theorem edit_link (h : d.LinksAreObjects) (title url : Text) :
    d.edit (.link title url) =
      d.withLinks (d.links.filter (fun link => !hasTitle title link) ++ [linkTo title url]) :=
  Option.some_inj.1 ((edit?_eq h _).symm.trans (addLink?_eq h title url))

theorem links_withLinks (d : Document) (links : List Json) : (d.withLinks links).links = links :=
  links_eq (Json.Members.get?_set_self _ _ _)

theorem links_addPanel (d : Document) (content : PanelContent) : (d.addPanel content).links = d.links := by
  have hget : (d.addPanel content).members.get? "links" = d.members.get? "links" :=
    Json.Members.get?_set_of_ne _ _ (by decide)
  rw [links, links, hget]

theorem LinksAreObjects.edit (h : d.LinksAreObjects) (e : Edit) : (d.edit e).LinksAreObjects := by
  intro link hlink
  cases e with
  | title title =>
    rw [Document.edit, edit?, Option.getD_some, links_setTitle] at hlink
    exact h link hlink
  | panel content =>
    rw [Document.edit, edit?, Option.getD_some, links_addPanel] at hlink
    exact h link hlink
  | link title url =>
    rw [edit_link h, links_withLinks, List.mem_append, List.mem_singleton] at hlink
    obtain hold | rfl := hlink
    · exact h link (List.mem_filter.1 hold).1
    · rfl

theorem edits?_eq (h : d.LinksAreObjects) (es : List Edit) : d.edits? es = some (d.edits es) := by
  induction es generalizing d with
  | nil => rfl
  | cons e es ih =>
    rw [edits?, edit?_eq h, Option.bind_some]
    exact ih (h.edit e)

/-! ## The last link of each title -/

/-- The title and the url of the link that an edit adds. -/
def Edit.link? : Edit → Option (Text × Text)
  | .link name url => some (name, url)
  | .title _ | .panel _ => none

/-- The titles and the urls of the links that edits add, in order. -/
def addedLinks (es : List Edit) : List (Text × Text) := es.filterMap Edit.link?

/-- Of the links with one title the last one: a link stays if there is none with its title behind it. -/
def lastOfEach : List (Text × Text) → List (Text × Text)
  | [] => []
  | link :: links =>
    if link.1 ∈ links.map Prod.fst then lastOfEach links else link :: lastOfEach links

/-- The link has a title for which one is added. -/
def IsReplaced (added : List (Text × Text)) (link : Json) : Prop := ∃ l ∈ added, hasTitle l.1 link = true

instance (added : List (Text × Text)) (link : Json) : Decidable (IsReplaced added link) :=
  inferInstanceAs (Decidable (∃ l ∈ added, hasTitle l.1 link = true))

theorem hasTitle_linkTo (title title' url : Text) :
    hasTitle title (linkTo title' url) = decide (title' = title) := rfl

theorem isReplaced_cons {l : Text × Text} {added : List (Text × Text)} {link : Json} :
    IsReplaced (l :: added) link ↔ hasTitle l.1 link = true ∨ IsReplaced added link :=
  List.exists_mem_cons_iff _ _ _

/-- A link that was added is replaced if another one with its title is added. -/
theorem isReplaced_linkTo_iff {added : List (Text × Text)} {title url : Text} :
    IsReplaced added (linkTo title url) ↔ title ∈ added.map Prod.fst := by
  simp only [IsReplaced, hasTitle_linkTo, decide_eq_true_eq, List.mem_map]
  constructor
  · rintro ⟨l, hl, htitle⟩
    exact ⟨l, hl, htitle.symm⟩
  · rintro ⟨l, hl, htitle⟩
    exact ⟨l, hl, htitle.symm⟩

/-- **Links after a run.**  Those of the template that are not replaced, and the last one of each title that
was added. -/
theorem links_edits (h : d.LinksAreObjects) (es : List Edit) :
    (d.edits es).links =
      d.links.filter (fun link => ¬ IsReplaced (addedLinks es) link) ++
        (lastOfEach (addedLinks es)).map fun l => linkTo l.1 l.2 := by
  induction es generalizing d with
  | nil =>
    have hnone : ∀ link ∈ d.links, decide (¬ IsReplaced [] link) = true := by
      intro link _
      simp [IsReplaced]
    show d.links = d.links.filter (fun link => ¬ IsReplaced [] link) ++ []
    rw [List.filter_eq_self.2 hnone, List.append_nil]
  | cons e es ih =>
    have hrest := ih (h.edit e)
    show ((d.edit e).edits es).links = _
    rw [hrest]
    cases e with
    | title title =>
      have hsame : (d.edit (.title title)).links = d.links := links_setTitle d title
      rw [hsame]
      rfl
    | panel content =>
      have hsame : (d.edit (.panel content)).links = d.links := links_addPanel d content
      rw [hsame]
      rfl
    | link title url =>
      have hadded : addedLinks (.link title url :: es) = (title, url) :: addedLinks es := rfl
      have hkept : (d.links.filter fun link => !hasTitle title link).filter
            (fun link => ¬ IsReplaced (addedLinks es) link) =
          d.links.filter fun link => ¬ IsReplaced ((title, url) :: addedLinks es) link := by
        rw [List.filter_filter]
        refine List.filter_congr fun link _ => ?_
        rw [Bool.eq_iff_iff]
        simp [isReplaced_cons, and_comm]
      rw [edit_link h, links_withLinks, List.filter_append, hkept, hadded, lastOfEach, List.append_assoc]
      -- the link itself stays if none of its title is added behind it
      by_cases hagain : title ∈ (addedLinks es).map Prod.fst
      · rw [if_pos hagain, List.filter_cons_of_neg (by simp [isReplaced_linkTo_iff.2 hagain])]
        rfl
      · have hstays : ¬ IsReplaced (addedLinks es) (linkTo title url) :=
          fun hreplaced => hagain (isReplaced_linkTo_iff.1 hreplaced)
        rw [if_neg hagain, List.filter_cons_of_pos (by simpa using hstays)]
        rfl

end Document
end DashboardSynthesis
