import DashboardSynthesis.Proofs.Decision.Entries
import DashboardSynthesis.Proofs.Session.Inputs
import Mathlib.Data.List.TakeWhile

/-!
# Files of decisions keep every decision

`KeepsEveryDecision` says what a file with a list of decisions promises: that decisions are read from it
exactly if every entry has a name, that there is one for each entry then, with all that the entry gives, and
that the first entry without a name is the one that is reported otherwise.

An entry can break this in two ways, and in no other (`keepsEveryDecision_iff`).  An identifier such as `0`
that counts as absent gives way to the name, while a type of this kind is kept.  And a value that cannot be
written, where its text is asked for, ends the reading without a report.  Which value a file holds, and what
can be written, is for the platform to say.
-/

namespace DashboardSynthesis

variable {files : FileTree} {home : Location} {σ : Session} {name text : Text}

/-! ## What is at the path -/

namespace FileTree

variable {tree : FileTree} {p : Path} {contents : ByteArray}

theorem status_of_readFile (h : tree.readFile home p = .ok contents) :
    tree.status home p = .ok (.file contents) := by
  obtain ⟨entry, hstatus, hfile⟩ := exists_of_bind_eq_ok h
  cases entry with
  | file found => rw [hstatus, Except.ok.inj hfile]
  | directory => exact absurd hfile throw_ne_ok

theorem probe_of_status {entry : Entry} (h : tree.status home p = .ok entry) :
    tree.probe home p = .ok (some entry) := by
  rw [probe, h]

end FileTree

/-- What can be read is there. -/
theorem Run.probeOutcome_of_contentsOutcome {path : Path} {contents : ByteArray}
    (h : contentsOutcome files home path = .ok contents) :
    ∃ entry, probeOutcome files home path = .ok (some entry) := by
  have hstatus := FileTree.status_of_readFile (eq_ok_of_mapError_eq_ok h)
  exact ⟨.file contents, by rw [probeOutcome, FileTree.probe_of_status hstatus]; rfl⟩

namespace Decision

open Yaml (Value)

/-- The file under a name holds a value of YAML. -/
def HoldsValue (σ : Session) (name : Text) (v : Value) : Prop :=
  ∃ contents, Run.contentsOutcome σ.files σ.home (Path.ofText name) = .ok contents ∧
    σ.platform.yaml (Path.ofText name).toText contents = .ok v

variable {platform : Platform} {v : Value} {items : List Value} {contents : ByteArray}

/-- What is made of the contents of a file. -/
theorem loadOutcome_of_contents (h : Run.contentsOutcome files home (Path.ofText name) = .ok contents) :
    loadOutcome platform files home name =
      match platform.yaml (Path.ofText name).toText contents with
      | .error refusal => .error (failureOfYaml (Path.ofText name).toText refusal)
      | .ok v =>
        if v.isNull then .ok []
        else (ofFileValue platform.levels v).mapError (failureOf (Path.ofText name).toText) := by
  obtain ⟨entry, hprobe⟩ := Run.probeOutcome_of_contentsOutcome h
  rw [loadOutcome, bind_of_eq_ok hprobe]
  dsimp only
  rw [bind_of_eq_ok h]
  rcases platform.yaml (Path.ofText name).toText contents with refusal | v <;> rfl

theorem isNull_of_entries? (h : entries? v = some items) : ¬ v.isNull = true := by
  intro hnull
  rw [entries?] at h
  rw [Value.isNull] at hnull
  split at h
  · next hmap => exact absurd hnull (by simp [hmap])
  · exact absurd h (by simp)

/-- A file with a list of decisions comes down to its entries. -/
theorem loadOutcome_of_entries (hfile : HoldsValue σ name v) (hitems : entries? v = some items) :
    loadOutcome σ.platform σ.files σ.home name =
      (ofValues σ.platform.levels 0 items).mapError (failureOf (Path.ofText name).toText) := by
  obtain ⟨contents, hcontents, hvalue⟩ := hfile
  have hentries : ofFileValue σ.platform.levels v = ofValues σ.platform.levels 0 items := by
    rw [ofFileValue, hitems]
  rw [loadOutcome_of_contents hcontents, hvalue, ← hentries]
  exact if_neg (isNull_of_entries? hitems)

/-! ## Every decision is kept -/

/-- Reading fails with a report on the entry at an index. -/
def RefusesEntry (name : Text) (index : Nat) (σ : Session) : Prop :=
  ∃ report, ((load name).on σ).1 = .error (.reported report) ∧ report.kind = .configuration ∧
    report.details = [(("path" : Text), .str (Path.ofText name).toText), (("index" : Text), .int index)]

/-- Decisions are read from the entries of a file exactly if each of them has a name: one from each, in their
order, with all that it gives.  Otherwise the first entry without a name is reported. -/
structure KeepsEveryDecision (name : Text) (items : List Value) (σ : Session) : Prop where
  returns_iff : (∃ decisions, ((load name).on σ).1 = .ok decisions) ↔ ∀ entry ∈ items, IsNamed entry
  decisions : ∀ decisions, ((load name).on σ).1 = .ok decisions →
    decisions = items.map (declaredBy σ.platform.levels)
  refuses : ∀ before entry after, items = before ++ entry :: after → (∀ e ∈ before, IsNamed e) →
    ¬ IsNamed entry → RefusesEntry name before.length σ

theorem RefusesEntry.load_ne_ok {index : Nat} {decisions : List Decision} (h : RefusesEntry name index σ) :
    ((load name).on σ).1 ≠ .ok decisions := by
  obtain ⟨report, hreport, -⟩ := h
  rw [hreport]
  exact fun h => absurd h (by simp)

theorem load_on_of_named (hfile : HoldsValue σ name v) (hitems : entries? v = some items)
    (h : ∀ entry ∈ items, IsNamed entry ∧ HasPrintableTexts σ.platform.levels entry) :
    ((load name).on σ).1 = .ok (items.map (takenFrom σ.platform.levels)) := by
  rw [load_on_fst, loadOutcome_of_entries hfile hitems, ofValues_eq_ok_iff.2 ⟨h, rfl⟩]
  rfl

theorem refusesEntry_of_nameless {before after : List Value} {entry : Value}
    (hfile : HoldsValue σ name v) (hitems : entries? v = some (before ++ entry :: after))
    (hbefore : ∀ e ∈ before, IsNamed e ∧ HasPrintableTexts σ.platform.levels e) (h : ¬ IsNamed entry) :
    RefusesEntry name before.length σ := by
  have hload : ((load name).on σ).1 =
      .error (failureOf (Path.ofText name).toText (.noName before.length)) := by
    rw [load_on_fst, loadOutcome_of_entries hfile hitems, ofValues_of_nameless hbefore h, Nat.zero_add]
    rfl
  exact ⟨_, hload, rfl, rfl⟩

/-- Either every entry has a name, or there is a first one that has none. -/
theorem forall_isNamed_or_split (items : List Value) :
    (∀ entry ∈ items, IsNamed entry) ∨
      ∃ first after, items = items.takeWhile (IsNamed ·) ++ first :: after ∧ ¬ IsNamed first := by
  cases hrest : items.dropWhile (IsNamed ·) with
  | nil => exact .inl fun entry hmem => of_decide_eq_true (List.dropWhile_eq_nil_iff.1 hrest entry hmem)
  | cons first after =>
    refine .inr ⟨first, after, ?_, ?_⟩
    · rw [← hrest, List.takeWhile_append_dropWhile]
    · have hhead := List.head?_dropWhile_not (IsNamed ·) items
      simpa [hrest] using hhead

theorem isNamed_of_mem_takeWhile {entry : Value} (h : entry ∈ items.takeWhile (IsNamed ·)) :
    IsNamed entry :=
  of_decide_eq_true (List.mem_takeWhile_imp (p := (IsNamed ·)) h)

theorem takeWhile_of_named (h : ∀ entry ∈ items, IsNamed entry) : items.takeWhile (IsNamed ·) = items :=
  List.takeWhile_eq_self_iff.2 fun entry hmem => decide_eq_true (h entry hmem)

theorem takeWhile_of_nameless {before after : List Value} {entry : Value}
    (hbefore : ∀ e ∈ before, IsNamed e) (h : ¬ IsNamed entry) :
    (before ++ entry :: after).takeWhile (IsNamed ·) = before := by
  rw [List.takeWhile_append_of_pos fun e he => decide_eq_true (hbefore e he),
    List.takeWhile_cons_of_neg (by simpa using h), List.append_nil]

/-- A list of entries is read to its end, or up to the first one without a name, only if all texts that are
taken on the way can be written. -/
theorem KeepsEveryDecision.hasPrintableTexts (h : KeepsEveryDecision name items σ)
    (hfile : HoldsValue σ name v) (hitems : entries? v = some items) :
    ∀ entry ∈ items.takeWhile (IsNamed ·), HasPrintableTexts σ.platform.levels entry := by
  by_contra hnot
  obtain ⟨place, why, hplace⟩ := exists_unprintable_iff.2 (by simpa using hnot)
  obtain ⟨cause, hbroken⟩ : ∃ cause, ((load name).on σ).1 = .error (.broken cause) := by
    rw [load_on_fst, loadOutcome_of_entries hfile hitems, hplace]
    cases why <;> exact ⟨_, rfl⟩
  obtain hnamed | ⟨first, after, hsplit, hfirst⟩ := forall_isNamed_or_split items
  · obtain ⟨decisions, hdecisions⟩ := h.returns_iff.2 hnamed
    exact absurd (hbroken.symm.trans hdecisions) (by simp)
  · obtain ⟨report, hreport, -⟩ :=
      h.refuses _ first after hsplit (fun _ => isNamed_of_mem_takeWhile) hfirst
    exact absurd (Except.error.inj (hbroken.symm.trans hreport)) (by simp)

/-- What is read is what the entries declare only if no identifier is lost. -/
theorem KeepsEveryDecision.keepsIdentifier (h : KeepsEveryDecision name items σ)
    (hfile : HoldsValue σ name v) (hitems : entries? v = some items)
    (hnamed : ∀ entry ∈ items, IsNamed entry) : ∀ entry ∈ items, KeepsIdentifier σ.platform.levels entry := by
  have hprintable := h.hasPrintableTexts hfile hitems
  rw [takeWhile_of_named hnamed] at hprintable
  have htaken := load_on_of_named hfile hitems fun e he => ⟨hnamed e he, hprintable e he⟩
  have hall := List.map_inj_left.1 (h.decisions _ htaken)
  exact fun entry hmem => takenFrom_eq_iff.1 (hall entry hmem)

/-- **A file keeps every decision** exactly if there is a text for all that it asks for, up to the first entry
without a name, since no integer there is too long to be written and nothing is nested too deeply, and, where
all entries have a name, each identifier that counts as absent has the text of the name. -/
theorem keepsEveryDecision_iff (hfile : HoldsValue σ name v) (hitems : entries? v = some items) :
    KeepsEveryDecision name items σ ↔
      (∀ entry ∈ items.takeWhile (IsNamed ·), HasPrintableTexts σ.platform.levels entry) ∧
        ((∀ entry ∈ items, IsNamed entry) → ∀ entry ∈ items, KeepsIdentifier σ.platform.levels entry) := by
  refine ⟨fun h => ⟨h.hasPrintableTexts hfile hitems, h.keepsIdentifier hfile hitems⟩, ?_⟩
  rintro ⟨hprintable, hkeeps⟩
  have hrefuses : ∀ before entry after, items = before ++ entry :: after → (∀ e ∈ before, IsNamed e) →
      ¬ IsNamed entry → RefusesEntry name before.length σ := by
    rintro before entry after rfl hbefore hentry
    rw [takeWhile_of_nameless hbefore hentry] at hprintable
    exact refusesEntry_of_nameless hfile hitems (fun e he => ⟨hbefore e he, hprintable e he⟩) hentry
  obtain hnamed | ⟨first, after, hsplit, hfirst⟩ := forall_isNamed_or_split items
  · rw [takeWhile_of_named hnamed] at hprintable
    have htaken := load_on_of_named hfile hitems fun e he => ⟨hnamed e he, hprintable e he⟩
    refine ⟨iff_of_true ⟨_, htaken⟩ hnamed, fun decisions hdecisions => ?_, hrefuses⟩
    rw [← Except.ok.inj (htaken.symm.trans hdecisions)]
    exact List.map_inj_left.2 fun entry hmem => takenFrom_eq_iff.2 (hkeeps hnamed entry hmem)
  · have hrefused := hrefuses _ first after hsplit (fun _ => isNamed_of_mem_takeWhile) hfirst
    refine ⟨iff_of_false ?_ ?_, fun decisions hdecisions => ?_, hrefuses⟩
    · exact fun ⟨_, hdecisions⟩ => hrefused.load_ne_ok hdecisions
    · exact fun hnamed => hfirst (hnamed first (by rw [hsplit]; simp))
    · exact absurd hdecisions hrefused.load_ne_ok

/-! ## Two files -/

/-- A session in which the file `d` holds a text. -/
def sessionWith (text : String) : Session :=
  { files := ⟨[(["d"], .file text.toUTF8)]⟩, home := [] }

/-- A name that is a number and a type that is a flag; an identifier that counts as absent, but is the name;
and a name that is a list. -/
def unusualSession : Session :=
  sessionWith ("decisions: [\x7bname: 7, id: x, type: false\x7d, \x7bname: '0', id: 0\x7d, " ++
    "\x7bname: [a], id: ~\x7d]")

theorem exists_entries (σ : Session) (name : Text) (p : List Value → Bool)
    (h : ((Run.contentsOutcome σ.files σ.home (Path.ofText name)).toOption.any fun contents =>
      (σ.platform.yaml (Path.ofText name).toText contents).toOption.any fun v =>
        (entries? v).any p) = true) :
    ∃ v items, HoldsValue σ name v ∧ entries? v = some items ∧ p items = true := by
  obtain ⟨contents, hcontents, hread⟩ := (Option.any_eq_true _ _).1 h
  obtain ⟨v, hv, hentries⟩ := (Option.any_eq_true _ _).1 hread
  obtain ⟨items, hitems, hp⟩ := (Option.any_eq_true _ _).1 hentries
  exact ⟨v, items, ⟨contents, eq_ok_of_toOption_eq_some hcontents, eq_ok_of_toOption_eq_some hv⟩, hitems, hp⟩

/-- What the entries of that session's file declare. -/
def unusualDecisions : List Decision :=
  [{ name := "7", identifier := "x", valueType := some "False" }, { name := "0", identifier := "0" },
   { name := "['a']", identifier := "['a']" }]

theorem keepsEveryDecision_unusual : ∃ v items,
    HoldsValue unusualSession "d" v ∧ entries? v = some items ∧
      KeepsEveryDecision "d" items unusualSession ∧
      items.map (declaredBy unusualSession.platform.levels) = unusualDecisions := by
  obtain ⟨v, items, hfile, hitems, hchecks⟩ := exists_entries unusualSession "d" (fun items =>
    decide ((∀ entry ∈ items, IsNamed entry ∧ HasPrintableTexts unusualSession.platform.levels entry ∧
      KeepsIdentifier unusualSession.platform.levels entry) ∧
      items.map (declaredBy unusualSession.platform.levels) = unusualDecisions)) (by decide +kernel)
  obtain ⟨hall, hdeclared⟩ := of_decide_eq_true hchecks
  refine ⟨v, items, hfile, hitems, (keepsEveryDecision_iff hfile hitems).2 ⟨?_, ?_⟩, hdeclared⟩
  · exact fun entry hmem => (hall entry (List.takeWhile_subset _ hmem)).2.1
  · exact fun _ entry hmem => (hall entry hmem).2.2

/-- A session in which the file `d` gives an identifier `0`. -/
def zeroSession : Session := sessionWith "decisions: [\x7bname: a, id: 0\x7d]"

/-- The identifier is lost: the name stands in for it. -/
theorem not_keepsEveryDecision_zero : ∃ v items,
    HoldsValue zeroSession "d" v ∧ entries? v = some items ∧
      ((load "d").on zeroSession).1 = .ok [{ name := "a", identifier := "a" }] ∧
      items.map (declaredBy zeroSession.platform.levels) = [{ name := "a", identifier := "0" }] ∧
      ¬ KeepsEveryDecision "d" items zeroSession := by
  obtain ⟨v, items, hfile, hitems, hchecks⟩ := exists_entries zeroSession "d" (fun items =>
    decide (items.map (declaredBy zeroSession.platform.levels) = [{ name := "a", identifier := "0" }]))
    (by decide +kernel)
  have hdeclared : items.map (declaredBy zeroSession.platform.levels) =
      [{ name := "a", identifier := "0" }] := of_decide_eq_true hchecks
  have hload : ((load "d").on zeroSession).1 = .ok [{ name := "a", identifier := "a" }] :=
    eq_ok_of_toOption_eq_some (by decide +kernel)
  refine ⟨v, items, hfile, hitems, hload, hdeclared, fun h => ?_⟩
  have hkept := h.decisions _ hload
  rw [hdeclared] at hkept
  exact absurd hkept (by decide)

end Decision
end DashboardSynthesis
