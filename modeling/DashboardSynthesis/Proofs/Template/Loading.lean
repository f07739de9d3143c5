import DashboardSynthesis.Proofs.FileTree.Writing
import DashboardSynthesis.Template.Library
import Mathlib.Data.List.Basic

/-!
# Loading a packaged template

A packaged template is kept as bytes in a tree of its own.  Under its name it is found there as the text
that it is, unless a file of that name is in the way (`loadTemplate_domainName`).
-/

namespace DashboardSynthesis

theorem Text.unifyLineBreaks_of_not_mem {t : Text} (h : .scalar '\r' ∉ t) : unifyLineBreaks t = t := by
  fun_induction unifyLineBreaks t with
  | case1 => rfl
  | case2 rest ih => exact absurd List.mem_cons_self h
  | case3 rest _ ih => exact absurd List.mem_cons_self h
  | case4 c rest _ _ ih => rw [ih fun hmem => h (List.mem_cons_of_mem c hmem)]

namespace FileTree

theorem get?_place_self (tree : FileTree) {loc : Location} (h : loc ≠ []) (contents : ByteArray) :
    (tree.place loc contents).get? loc = some (.file contents) :=
  get?_set_self _ h _

/-- A relative path of a single name leads to that name. -/
theorem probe_of_name {tree : FileTree} {home : Location} {name : Text} {entry : Entry}
    (hcheck : checkPath ⟨[], [name]⟩ = .ok ()) (hstep : step home name = .ok (home ++ [name]))
    (hget : tree.get? (home ++ [name]) = some entry) :
    tree.probe home ⟨[], [name]⟩ = .ok (some entry) := by
  have hresolve : tree.resolve home ⟨[], [name]⟩ = .ok (home ++ [name]) := by
    rw [resolve, hcheck]
    exact hstep
  have hstatus : tree.status home ⟨[], [name]⟩ = .ok entry := by
    rw [status]
    refine (bind_of_eq_ok hresolve _).trans ?_
    rw [hget]
    rfl
  rw [probe, hstatus]

end FileTree

theorem loadTemplate_of_library {files : FileTree} {home : Location} {path text : Text}
    {bytes : ByteArray} (hfiles : files.probe home (.ofText path) = .ok none)
    (hlibrary : Library.tree.probe Library.home (.ofText (dropSeparators path)) =
      .ok (some (.file bytes)))
    (htext : Text.ofFile? bytes = some text) : loadTemplate files home path = .ok text := by
  have hbytes : templateBytes files home path = .ok bytes := by
    rw [templateBytes, hfiles]
    dsimp only
    rw [hlibrary]
  rw [loadTemplate, hbytes]
  dsimp only
  rw [htext]

namespace Library

theorem exists_unlines_eq (lines : List String) : ∃ s, unlines lines = Text.ofString s := by
  induction lines with
  | nil => exact ⟨"", rfl⟩
  | cons line lines ih =>
    obtain ⟨s, hs⟩ := ih
    refine ⟨line ++ "\n" ++ s, ?_⟩
    rw [unlines, List.flatMap_cons, ← unlines, hs]
    simp [Text.ofString]

/-- Lines that are kept as bytes are read back. -/
theorem ofFile?_unlines {lines : List String} (h : .scalar '\r' ∉ unlines lines) :
    Text.ofFile? ((unlines lines).encode?.getD default) = some (unlines lines) := by
  obtain ⟨s, hs⟩ := exists_unlines_eq lines
  have hbytes : (unlines lines).encode? = some s.toUTF8 := by
    rw [hs, Text.encode?, Text.toString?_ofString]
    rfl
  rw [hbytes, Option.getD_some, Text.ofFile?, Text.decode?_of_encode? hbytes, Option.map_some,
    Text.unifyLineBreaks_of_not_mem h]

theorem probe_tree_domainName : tree.probe home (.ofText (dropSeparators domainName)) =
    .ok (some (.file (domainTemplate.encode?.getD default))) := by
  have hpath : Path.ofText (dropSeparators domainName) = ⟨[], [domainName]⟩ := by decide +kernel
  rw [hpath, tree]
  refine FileTree.probe_of_name (by decide +kernel) (by decide +kernel) ?_
  exact FileTree.get?_place_self _ (List.cons_ne_nil _ _) _

theorem ofFile?_domainTemplate :
    Text.ofFile? (domainTemplate.encode?.getD default) = some domainTemplate :=
  ofFile?_unlines (by decide +kernel)

/-- **The packaged template.**  It is what its name stands for, unless there is a file of that name. -/
theorem loadTemplate_domainName {files : FileTree} {location : Location}
    (h : files.probe location (.ofText domainName) = .ok none) :
    loadTemplate files location domainName = .ok domainTemplate :=
  loadTemplate_of_library h probe_tree_domainName ofFile?_domainTemplate

end Library
end DashboardSynthesis
