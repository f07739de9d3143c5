import DashboardSynthesis.Proofs.Dashboard.Runs
import Mathlib.Order.Bounds.Basic

/-!
# Where generated panels stand

A run of edits puts the panels that it adds in pairs below the panels of the template: the `k`-th one stands
on the cells of `Grid.slot y k`, where `y` is the row below the template (`panelGrid_edits`).  The slots lie
within the columns of the grid and have no cell in common, and they have none in common with a panel of the
template, whatever columns that one spans.

The rows of a panel of the template are known if its `y` and `h` are integers or absent (`HasRows`); other
values may count as another integer than they stand for, such as a fraction, which is cut.
-/

namespace DashboardSynthesis

/-! ## Rectangles -/

namespace Grid

/-- A rectangle on the grid: its left column, its upper row, and how many columns and rows it spans. -/
structure Rect where
  x : ℤ
  y : ℤ
  w : ℤ
  h : ℤ
  deriving DecidableEq, Repr

/-- The cells that a rectangle covers, by column and row. -/
def Rect.cells (r : Rect) : Set (ℤ × ℤ) :=
  {cell | (r.x ≤ cell.1 ∧ cell.1 < r.x + r.w) ∧ r.y ≤ cell.2 ∧ cell.2 < r.y + r.h}

/-- No cell is covered by both rectangles. -/
def Rect.Apart (r s : Rect) : Prop := ∀ cell ∈ r.cells, cell ∉ s.cells

theorem Rect.Apart.symm {r s : Rect} (h : r.Apart s) : s.Apart r :=
  fun cell hs hr => h cell hr hs

/-- Where the `k`-th panel below a row stands, when they stand in pairs. -/
def slot (y : ℤ) (k : ℕ) : Rect := ⟨12 * (k % 2 : ℕ), y + 8 * (k / 2 : ℕ), 12, 8⟩

theorem apart_of_rows {r s : Rect} (h : r.y + r.h ≤ s.y) : r.Apart s := by
  intro cell hr hs
  have habove : cell.2 < r.y + r.h := hr.2.2
  have hbelow : s.y ≤ cell.2 := hs.2.1
  omega

theorem apart_of_columns {r s : Rect} (h : r.x + r.w ≤ s.x) : r.Apart s := by
  intro cell hr hs
  have hleft : cell.1 < r.x + r.w := hr.1.2
  have hright : s.x ≤ cell.1 := hs.1.1
  omega

theorem slot_within_columns (y : ℤ) (k : ℕ) :
    0 ≤ (slot y k).x ∧ (slot y k).x + (slot y k).w ≤ columns := by
  have hcolumn : k % 2 < 2 := Nat.mod_lt k Nat.two_pos
  simp only [slot, columns]
  omega

/-- Of two slots the earlier one stands above the later one, or to its left. -/
theorem slot_apart_of_lt {y : ℤ} {i j : ℕ} (h : i < j) : (slot y i).Apart (slot y j) := by
  rcases (Nat.div_le_div_right h.le : i / 2 ≤ j / 2).lt_or_eq with hrow | hrow
  · refine apart_of_rows ?_
    simp only [slot]
    omega
  · refine apart_of_columns ?_
    simp only [slot]
    omega

theorem slot_apart {y : ℤ} {i j : ℕ} (h : i ≠ j) : (slot y i).Apart (slot y j) := by
  rcases Nat.lt_or_gt_of_ne h with hlt | hgt
  · exact slot_apart_of_lt hlt
  · exact (slot_apart_of_lt hgt).symm

end Grid

namespace Document

/-- A panel says that it stands on a rectangle. -/
def StandsOn (panel : Json) (r : Grid.Rect) : Prop :=
  panel.get? "gridPos" =
    some (.obj [("h", .int r.h), ("w", .int r.w), ("x", .int r.x), ("y", .int r.y)])

/-! ## Rows of the template -/

/-- The integer under a key of the grid position of a panel: zero if it is absent, and none if there is
something else. -/
def gridInteger? (panel : Json) (key : Text) : Option ℤ :=
  match (present? panel "gridPos").bind (·.get? key) with
  | none => some 0
  | some (.int n) => some n
  | some (.bool b) => some (if b then 1 else 0)
  | some _ => none

/-- A panel has its upper edge in row `y` and spans `h` rows. -/
structure HasRows (panel : Json) (y h : ℤ) : Prop where
  upper : gridInteger? panel "y" = some y
  height : gridInteger? panel "h" = some h

/-- The lower edges of panels. -/
def edgesOf (panels : List Json) : Set ℤ :=
  {edge | ∃ panel ∈ panels, ∃ upper height, HasRows panel upper height ∧ edge = upper + height}

/-- The row is the greatest of zero and the lower edges of panels. -/
def IsRowBelow (panels : List Json) (y : ℤ) : Prop := IsGreatest (insert 0 (edgesOf panels)) y

theorem coordinate_of_gridInteger? {panel : Json} {key : Text} {n : ℤ}
    (h : gridInteger? panel key = some n) : coordinate panel key = .ok n := by
  rw [gridInteger?] at h
  rw [coordinate]
  split at h
  · next hnone => rw [hnone, ← Option.some_inj.1 h]
  · next hint => rw [hint, ← Option.some_inj.1 h]; rfl
  · next hbool => rw [hbool, ← Option.some_inj.1 h]; rfl
  · exact absurd h (by simp)

theorem HasRows.bottom {panel : Json} {y h : ℤ} (hrows : HasRows panel y h) :
    bottom panel = .ok (y + h) := by
  rw [Document.bottom, coordinate_of_gridInteger? hrows.upper, coordinate_of_gridInteger? hrows.height]
  rfl

/-- A panel has only one lower edge. -/
theorem HasRows.edge_unique {panel : Json} {y h y' h' : ℤ} (hrows : HasRows panel y h)
    (hrows' : HasRows panel y' h') : y + h = y' + h' :=
  Except.ok.inj (hrows.bottom.symm.trans hrows'.bottom)

/-- Where each panel has its rows, what is found by going through the panels is the greatest edge. -/
theorem isGreatest_of_contentBottom {least y : ℤ} {panels : List Json}
    (hrows : ∀ panel ∈ panels, ∃ upper height, HasRows panel upper height)
    (h : contentBottom least panels = .ok y) :
    IsGreatest (insert least (edgesOf panels)) y := by
  induction panels generalizing least with
  | nil =>
    obtain rfl := Except.ok.inj h
    simp [edgesOf]
  | cons panel panels ih =>
    rw [List.forall_mem_cons] at hrows
    obtain ⟨⟨upper, height, hpanel⟩, hrest⟩ := hrows
    rw [contentBottom, hpanel.bottom] at h
    obtain ⟨hmem, hupper⟩ := ih hrest h
    rw [mem_upperBounds, Set.forall_mem_insert] at hupper
    constructor
    · -- the greatest is the one so far, the edge of this panel, or that of a later one
      rcases hmem with rfl | ⟨later, hlater, hedge⟩
      · rcases max_choice least (upper + height) with hmax | hmax
        · rw [hmax]
          exact .inl rfl
        · rw [hmax]
          exact .inr ⟨panel, List.mem_cons_self, upper, height, hpanel, rfl⟩
      · exact .inr ⟨later, List.mem_cons_of_mem _ hlater, hedge⟩
    · rw [mem_upperBounds, Set.forall_mem_insert]
      refine ⟨(le_max_left _ _).trans hupper.1, ?_⟩
      rintro edge ⟨other, hother, upper', height', hrows', rfl⟩
      rcases List.mem_cons.1 hother with rfl | hother
      · rw [hrows'.edge_unique hpanel]
        exact (le_max_right _ _).trans hupper.1
      · exact hupper.2 _ ⟨other, hother, upper', height', hrows', rfl⟩

/-! ## Panels that are added -/

/-- Panels that are added behind others stand below them in pairs, and so beside each other and all
others. -/
structure StandInPairs (template added : List Json) (y : ℤ) : Prop where
  /-- Each one has its slot. -/
  slots : ∀ (k : ℕ) panel, added[k]? = some panel → StandsOn panel (Grid.slot y k)
  /-- The slots are within the columns. -/
  withinColumns : ∀ k, 0 ≤ (Grid.slot y k).x ∧ (Grid.slot y k).x + (Grid.slot y k).w ≤ Grid.columns
  /-- No two slots overlap. -/
  apart : ∀ i j, i ≠ j → (Grid.slot y i).Apart (Grid.slot y j)
  /-- No slot overlaps a panel of the template, whatever columns it spans. -/
  below : ∀ (k : ℕ), ∀ panel ∈ template, ∀ upper height, HasRows panel upper height →
    ∀ x w, (Grid.slot y k).Apart ⟨x, upper, w, height⟩

theorem standsOn_toJson (content : PanelContent) (id : ℤ) (place : Grid.Place)
    (datasource : Option Json) :
    StandsOn (content.toJson id place datasource) ⟨place.x, place.y, 12, 8⟩ :=
  gridPos_toJson content id place datasource

theorem standInPairs_generated {template : List Json} {y : ℤ} (hy : IsRowBelow template y)
    (datasource : Option Json) (id : ℤ) (contents : List PanelContent) :
    StandInPairs template (generated datasource id ⟨0, y⟩ contents) y := by
  refine ⟨?_, Grid.slot_within_columns y, fun i j hij => Grid.slot_apart hij, ?_⟩
  · intro k panel hk
    rw [getElem?_generated] at hk
    obtain ⟨content, -, rfl⟩ := Option.map_eq_some_iff.1 hk
    have hplace := Grid.Cursor.place_iterate_next y k
    have hstands := standsOn_toJson content (id + k) (Grid.Cursor.next^[k] ⟨0, y⟩).place datasource
    rw [hplace] at hstands ⊢
    simpa [Grid.slot] using hstands
  · intro k panel hpanel upper height hrows x w
    have hedge : upper + height ≤ y := hy.2 (.inr ⟨panel, hpanel, upper, height, hrows, rfl⟩)
    refine (Grid.apart_of_rows ?_).symm
    simp only [Grid.slot]
    omega

/-- **Below the template, in pairs.**  Whatever edits an accepted dashboard goes through, if the rows of its
own panels are known, they stay as they are, and the panels that were added stand in pairs below them. -/
theorem panelGrid_edits {text : Text} {members : Json.Members} {d : Document}
    (hread : Json.read text = .ok (.obj members)) (hparse : parse text = .ok d)
    (hrows : ∀ panel ∈ panelsOf members, ∃ upper height, HasRows panel upper height) :
    ∃ y, IsRowBelow (panelsOf members) y ∧ ∀ es, ∃ added,
      (d.edits es).panels = panelsOf members ++ added ∧
      List.Forall₂ (fun (content : PanelContent) panel =>
        ∃ id place datasource, panel = content.toJson id place datasource) (contentsOf es) added ∧
      StandInPairs (panelsOf members) added y := by
  obtain ⟨hpanels, y, hbottom, hcursor⟩ := of_parse hread hparse
  have hy : IsRowBelow (panelsOf members) y := isGreatest_of_contentBottom hrows hbottom
  refine ⟨y, hy, fun es => ⟨generated d.defaultDatasource? d.nextPanelId d.cursor (contentsOf es), ?_,
    forall₂_generated _ _ _ _, ?_⟩⟩
  · rw [panels_edits, hpanels]
  · rw [hcursor]
    exact standInPairs_generated hy _ _ _

/-- A dashboard with a panel of which only the upper edge is given, and one above the grid. -/
def scatteredSource : Text :=
  "\x7b\"panels\": [\x7b\"gridPos\": \x7b\"y\": 5\x7d\x7d, \x7b\"gridPos\": \x7b\"y\": -9, \"h\": 4\x7d\x7d]\x7d"

theorem panelGrid_edits_scattered :
    ∃ members d, Json.read scatteredSource = .ok (.obj members) ∧ parse scatteredSource = .ok d ∧
      (∀ panel ∈ panelsOf members, ∃ upper height, HasRows panel upper height) ∧
      ∃ y, IsRowBelow (panelsOf members) y ∧ ∃ added,
        (d.edits (someEdits ++ someEdits)).panels = panelsOf members ++ added ∧
        StandInPairs (panelsOf members) added y := by
  have hknown : (parse scatteredSource).toOption.any (fun d => d.panels.all fun panel =>
      (gridInteger? panel "y").isSome && (gridInteger? panel "h").isSome) = true := by decide +kernel
  obtain ⟨d, hd, hall⟩ := (Option.any_eq_true _ _).1 hknown
  have hparse := eq_ok_of_toOption_eq_some hd
  obtain ⟨members, hread, -⟩ := parse_eq_ok_iff.1 hparse
  rw [(of_parse hread hparse).1, List.all_eq_true] at hall
  have hrows : ∀ panel ∈ panelsOf members, ∃ upper height, HasRows panel upper height := by
    intro panel hpanel
    obtain ⟨hupper, hheight⟩ := Bool.and_eq_true_iff.1 (hall panel hpanel)
    obtain ⟨upper, hupper⟩ := Option.isSome_iff_exists.1 hupper
    obtain ⟨height, hheight⟩ := Option.isSome_iff_exists.1 hheight
    exact ⟨upper, height, hupper, hheight⟩
  obtain ⟨y, hy, hruns⟩ := panelGrid_edits hread hparse hrows
  obtain ⟨added, hadded, -, hpairs⟩ := hruns (someEdits ++ someEdits)
  exact ⟨members, d, hread, hparse, hrows, y, hy, added, hadded, hpairs⟩

end Document
end DashboardSynthesis
