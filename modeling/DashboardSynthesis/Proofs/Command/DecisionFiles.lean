import DashboardSynthesis.Proofs.Command.Answering
import DashboardSynthesis.Proofs.Decision.Loading

/-!
# Files of decisions that cannot be used

A file of decisions that cannot be used is a fault of the configuration, to be reported with its path, so that
a command that is given it ends with exit code 10.  `FaultsAreReported` says so of one path and one session.

What is at the path decides it (`IsForeseen`): nothing at all, malformed YAML, a value without a list and an
entry without a name are foreseen.  A name that is too long, a directory, and a value in an entry that cannot
be written are not, and neither is anything that goes wrong in reading the file but a fault that the reader of
YAML finds itself, such as bytes that are no text: what they cause passes for a breakdown.  And a report that
is made has yet to be told, which a tag in the path or in the YAML can prevent.
-/

namespace DashboardSynthesis

variable {files : FileTree} {home : Location} {σ σ₁ : Session} {name : Text} {failure : Failure}

/-! ## What is at the path -/

namespace Run

theorem contentsOutcome_of_file {path : Path} {contents : ByteArray}
    (h : files.status home path = .ok (.file contents)) :
    contentsOutcome files home path = .ok contents := by
  have hread : files.readFile home path = .ok contents := bind_of_eq_ok h _
  rw [contentsOutcome, hread]
  rfl

theorem contentsOutcome_of_directory {path : Path} (h : files.status home path = .ok .directory) :
    contentsOutcome files home path = .error (.broken (fileBreakdown path .isADirectory)) := by
  have hread : files.readFile home path = .error .isADirectory := bind_of_eq_ok h _
  rw [contentsOutcome, hread]
  rfl

end Run

namespace Decision

open Yaml (Value)

variable {platform : Platform}

/-! ## What is foreseen -/

/-- At the path there is nothing, or a file that is read as decisions or as something of which it is foreseen
that it holds none. -/
structure IsForeseen (σ : Session) (file : Text) : Prop where
  canBeLookedUp : σ.files.status σ.home (Path.ofText file) ≠ .error .nameTooLong
  isNoDirectory : σ.files.status σ.home (Path.ofText file) ≠ .ok .directory
  /-- What goes wrong in reading the file is that the YAML is malformed. -/
  isYaml : ∀ contents refusal, σ.files.status σ.home (Path.ofText file) = .ok (.file contents) →
    σ.platform.yaml (Path.ofText file).toText contents = .error refusal →
      ∃ message, refusal = .malformed message
  isPrintable : ∀ v items, HoldsValue σ file v → entries? v = some items →
    ∀ entry ∈ items.takeWhile (IsNamed ·), HasPrintableTexts σ.platform.levels entry

/-- Nothing is at the path. -/
theorem loadOutcome_of_status_error {fault : FileFault}
    (h : files.status home (Path.ofText name) = .error fault) (hfault : fault ≠ .nameTooLong) :
    loadOutcome platform files home name = .error (.reported (fileReport (Path.ofText name).toText
      (("Decision file not found: " : Text) ++ (Path.ofText name).toText))) := by
  have hprobe : Run.probeOutcome files home (Path.ofText name) = .ok none := by
    rw [Run.probeOutcome, FileTree.probe, h]
    cases fault with
    | nameTooLong => exact absurd rfl hfault
    | _ => rfl
  rw [loadOutcome, bind_of_eq_ok hprobe]
  rfl

/-- What is at the path, but cannot be read. -/
theorem loadOutcome_of_contentsOutcome_error {entry : Entry}
    (hstatus : files.status home (Path.ofText name) = .ok entry)
    (h : Run.contentsOutcome files home (Path.ofText name) = .error failure) :
    loadOutcome platform files home name = .error failure := by
  have hprobe : Run.probeOutcome files home (Path.ofText name) = .ok (some entry) := by
    rw [Run.probeOutcome, FileTree.probe_of_status hstatus]
    rfl
  rw [loadOutcome, bind_of_eq_ok hprobe]
  exact bind_eq_error_iff.2 (.inl h)

/-- A file that has no value. -/
theorem loadOutcome_of_refusal {contents : ByteArray} {refusal : Yaml.Refusal}
    (hstatus : files.status home (Path.ofText name) = .ok (.file contents))
    (h : platform.yaml (Path.ofText name).toText contents = .error refusal) :
    loadOutcome platform files home name = .error (failureOfYaml (Path.ofText name).toText refusal) := by
  rw [loadOutcome_of_contents (Run.contentsOutcome_of_file hstatus), h]

/-- A defect of the value of a file. -/
theorem exists_of_loadOutcome_of_value {contents : ByteArray} {v : Value}
    (hstatus : files.status home (Path.ofText name) = .ok (.file contents))
    (hvalue : platform.yaml (Path.ofText name).toText contents = .ok v)
    (h : loadOutcome platform files home name = .error failure) :
    ∃ defect, ofFileValue platform.levels v = .error defect ∧
      failureOf (Path.ofText name).toText defect = failure := by
  rw [loadOutcome_of_contents (Run.contentsOutcome_of_file hstatus), hvalue] at h
  dsimp only at h
  split at h
  · exact absurd h (by simp)
  · exact exists_of_mapError_eq_error h

theorem exists_entries_of_unprintable {levels : Nat} {v : Value} {index : Nat} {why : Yaml.Datum.TextFault}
    (h : ofFileValue levels v = .error (.unprintable index why)) :
    ∃ items, entries? v = some items ∧ ofValues levels 0 items = .error (.unprintable index why) := by
  rw [ofFileValue] at h
  cases hitems : entries? v with
  | none =>
    rw [hitems] at h
    exact absurd h (by simp)
  | some items =>
    rw [hitems] at h
    exact ⟨items, rfl, h⟩

/-- **What is foreseen is reported,** with the path, where no decisions are read. -/
theorem IsForeseen.loadOutcome (h : IsForeseen σ name) :
    (∃ decisions, loadOutcome σ.platform σ.files σ.home name = .ok decisions) ∨
      ∃ message index, loadOutcome σ.platform σ.files σ.home name =
        .error (.reported (fileReport (Path.ofText name).toText message index)) := by
  cases hstatus : σ.files.status σ.home (Path.ofText name) with
  | error fault =>
    have hfault : fault ≠ .nameTooLong := by
      rintro rfl
      exact h.canBeLookedUp hstatus
    exact .inr ⟨_, none, loadOutcome_of_status_error hstatus hfault⟩
  | ok entry =>
    cases entry with
    | directory => exact absurd hstatus h.isNoDirectory
    | file contents =>
      cases hyaml : σ.platform.yaml (Path.ofText name).toText contents with
      | error refusal =>
        obtain ⟨message, rfl⟩ := h.isYaml contents refusal hstatus hyaml
        exact .inr ⟨_, none, loadOutcome_of_refusal hstatus hyaml⟩
      | ok v =>
        cases hload : Decision.loadOutcome σ.platform σ.files σ.home name with
        | ok decisions => exact .inl ⟨decisions, rfl⟩
        | error failure =>
          obtain ⟨defect, hdefect, rfl⟩ := exists_of_loadOutcome_of_value hstatus hyaml hload
          cases defect with
          | noList => exact .inr ⟨_, none, rfl⟩
          | noName index => exact .inr ⟨_, some index, rfl⟩
          | unprintable index why =>
            obtain ⟨items, hitems, hfails⟩ := exists_entries_of_unprintable hdefect
            obtain ⟨entry, hmem, hentry⟩ := exists_unprintable_iff.1 ⟨index, why, hfails⟩
            have hfile : HoldsValue σ name v := ⟨contents, Run.contentsOutcome_of_file hstatus, hyaml⟩
            exact absurd (h.isPrintable v items hfile hitems entry hmem) hentry

/-- What is not foreseen breaks the reading. -/
theorem exists_of_not_isForeseen (h : ¬ IsForeseen σ name) :
    ∃ cause, loadOutcome σ.platform σ.files σ.home name = .error (.broken cause) := by
  by_contra hnot
  refine h ⟨fun hstatus => ?_, fun hstatus => ?_, fun contents refusal hstatus hyaml => ?_,
    fun v items hfile hitems => ?_⟩
  · have hprobe : Run.probeOutcome σ.files σ.home (Path.ofText name) =
        .error (.broken (Run.fileBreakdown (Path.ofText name) .nameTooLong)) := by
      rw [Run.probeOutcome, FileTree.probe, hstatus]
      rfl
    exact hnot ⟨_, bind_eq_error_iff.2 (.inl hprobe)⟩
  · exact hnot ⟨_, loadOutcome_of_contentsOutcome_error hstatus (Run.contentsOutcome_of_directory hstatus)⟩
  · have hload := loadOutcome_of_refusal hstatus hyaml
    cases refusal with
    | malformed message => exact ⟨message, rfl⟩
    | broken cause => exact absurd ⟨cause, hload⟩ hnot
  · by_contra hprintable
    obtain ⟨place, why, hplace⟩ := exists_unprintable_iff.2 (by simpa using hprintable)
    have hload := loadOutcome_of_entries hfile hitems
    rw [hplace] at hload
    cases why with
    | tooManyDigits => exact hnot ⟨_, hload⟩
    | tooDeep => exact hnot ⟨_, hload⟩

end Decision

/-! ## What commands make of it -/

/-- A file of decisions that cannot be used is reported as a fault of the configuration, with its path, and a
command that has a build ends with exit code 10 then. -/
structure FaultsAreReported (file : Text) (σ : Session) : Prop where
  reports : ∀ failure, ((Decision.load file).on σ).1 = .error failure → ∃ report,
    failure = .reported report ∧ report.kind = .configuration ∧
      (("path" : Text), Json.str (Path.ofText file).toText) ∈ report.details
  decision : ∀ identity options build, options.build.build = .ok build →
    (∀ decisions, ((Decision.load file).on σ).1 ≠ .ok decisions) →
      ∃ σ', ((Command.decision file options).run identity).on σ = (.ok 10, σ')
  endpoint : ∀ identity options build, options.build.build = .ok build →
    given? options.decisions = some file → (∀ decisions, ((Decision.load file).on σ).1 ≠ .ok decisions) →
      ∃ σ', ((Command.endpoint options).run identity).on σ = (.ok 10, σ')

theorem Run.orReport_on_of_ok {α : Type} {e : Except Report α} {a : α} (h : e = .ok a) (σ : Session) :
    (orReport e).on σ = (.ok a, σ) := by
  rw [h]
  rfl

variable {identity : IdentitySource} {build : Build}

namespace Command

/-- Decisions are read as soon as the build is known. -/
theorem body_on_decision {options : DashboardOptions} (hbuild : options.build.build = .ok build)
    (h : (Decision.load name).on σ = (.error failure, σ₁)) :
    ((Command.decision name options).body identity).on σ = (.error failure, σ₁) :=
  (Run.on_bind_ok (Run.orReport_on_of_ok hbuild σ)).trans (Run.on_bind_error h)

theorem body_on_endpoint {options : EndpointOptions} (hbuild : options.build.build = .ok build)
    (hfile : given? options.decisions = some name)
    (h : (Decision.load name).on σ = (.error failure, σ₁)) :
    ((Command.endpoint options).body identity).on σ = (.error failure, σ₁) := by
  have hload : ((given? options.decisions).mapM Decision.load).on σ = (.error failure, σ₁) := by
    rw [hfile]
    exact Run.on_bind_error h
  exact (Run.on_bind_ok (Run.orReport_on_of_ok hbuild σ)).trans (Run.on_bind_error hload)

/-- A guarded command that fails with a report on the configuration ends with exit code 10 if it can be
told. -/
theorem exists_guarded_on_iff {command : Run Int} {report : Report}
    (h : command.on σ = (.error (.reported report), σ₁)) (hkind : report.kind = .configuration) :
    (∃ σ', (({} : Guard).run command).on σ = (.ok 10, σ')) ↔ ({} : Guard).CanTell σ₁.platform report := by
  have hcode : (Failure.reported report).exitCode = 10 := by
    rw [Failure.exitCode, hkind]
    rfl
  rw [← hcode, Guard.exists_on_run_iff h]
  exact ⟨fun htell => htell report rfl, fun htell r hr => Failure.reported.inj hr ▸ htell⟩

end Command

/-- Reading decisions leaves the platform as it is. -/
theorem Decision.platform_of_load {outcome : Except Failure (List Decision)}
    (h : (load name).on σ = (outcome, σ₁)) : σ₁.platform = σ.platform := by
  obtain ⟨l, rfl⟩ := (logsOnly_load name).of_eq h
  rfl

/-- The report on a file that is foreseen to be of no use. -/
theorem Decision.IsForeseen.exists_report (h : IsForeseen σ name)
    (hnone : ∀ decisions, ((load name).on σ).1 ≠ .ok decisions) :
    ∃ message index σ₁,
      (load name).on σ = (.error (.reported (fileReport (Path.ofText name).toText message index)), σ₁) := by
  obtain ⟨decisions, hload⟩ | ⟨message, index, hload⟩ := h.loadOutcome
  · exact absurd ((load_on_fst name σ).trans hload) (hnone decisions)
  · obtain ⟨σ₁, hon⟩ := Run.exists_of_on_fst ((load_on_fst name σ).trans hload)
    exact ⟨message, index, σ₁, hon⟩

/-- **Every file of decisions that cannot be used is a fault of the configuration** exactly if what is at the
path is foreseen, and what is reported of it can be told. -/
theorem faultsAreReported_iff :
    FaultsAreReported name σ ↔
      Decision.IsForeseen σ name ∧
        ∀ report, ((Decision.load name).on σ).1 = .error (.reported report) →
          ({} : Guard).CanTell σ.platform report := by
  constructor
  · intro h
    have hforeseen : Decision.IsForeseen σ name := by
      by_contra hnot
      obtain ⟨cause, hbroken⟩ := Decision.exists_of_not_isForeseen hnot
      rw [← Decision.load_on_fst] at hbroken
      obtain ⟨report, hreport, -⟩ := h.reports _ hbroken
      exact absurd hreport (by simp)
    refine ⟨hforeseen, fun report hreport => ?_⟩
    obtain ⟨σ₁, hload⟩ := Run.exists_of_on_fst hreport
    obtain ⟨report', heq, hkind, -⟩ := h.reports _ hreport
    obtain rfl := Failure.reported.inj heq
    have hbuild : BuildOptions.build ⟨some "a", some "1"⟩ = .ok ⟨"a", "1"⟩ := rfl
    have hends := h.decision (.fixed ⟨0, []⟩) { endpoint := "e", build := ⟨some "a", some "1"⟩ } _ hbuild
      fun decisions hdecisions => absurd (hreport.symm.trans hdecisions) (by simp)
    rw [← Decision.platform_of_load hload]
    exact (Command.exists_guarded_on_iff (Command.body_on_decision hbuild hload) hkind).1 hends
  · rintro ⟨hforeseen, htell⟩
    refine ⟨fun failure hfailure => ?_, fun identity options build hbuild hnone => ?_,
      fun identity options build hbuild hfile hnone => ?_⟩
    · obtain ⟨message, index, σ₁, hload⟩ := hforeseen.exists_report fun decisions hdecisions =>
        absurd (hfailure.symm.trans hdecisions) (by simp)
      rw [hload] at hfailure
      exact ⟨_, (Except.error.inj hfailure).symm, rfl, List.mem_cons_self⟩
    · obtain ⟨message, index, σ₁, hload⟩ := hforeseen.exists_report hnone
      have htold := htell _ (congrArg Prod.fst hload)
      rw [← Decision.platform_of_load hload] at htold
      exact (Command.exists_guarded_on_iff (Command.body_on_decision hbuild hload) rfl).2 htold
    · obtain ⟨message, index, σ₁, hload⟩ := hforeseen.exists_report hnone
      have htold := htell _ (congrArg Prod.fst hload)
      rw [← Decision.platform_of_load hload] at htold
      exact (Command.exists_guarded_on_iff (Command.body_on_endpoint hbuild hfile hload) rfl).2 htold

/-- The file `d` holds a byte that is no text. -/
def byteSession : Session := { files := ⟨[(["d"], .file ⟨#[0xFF]⟩)]⟩, home := [] }

/-- A byte that is no text is not reported: the reading breaks, and the command ends with 127. -/
theorem not_faultsAreReported_byte :
    ((Decision.load "d").on byteSession).1 = .error (.broken .undecodable) ∧
      (((Command.decision "d" { endpoint := "e", build := ⟨some "a", some "1"⟩ }).run
        (.fixed ⟨7, "u"⟩)).on byteSession).1 = .ok 127 ∧
      ¬ FaultsAreReported "d" byteSession := by
  have hstatus : byteSession.files.status byteSession.home (Path.ofText "d") = .ok (.file ⟨#[0xFF]⟩) :=
    rfl
  have hrefusal : byteSession.platform.yaml (Path.ofText "d").toText ⟨#[0xFF]⟩ =
      .error (.broken .undecodable) := by
    have htext : Text.ofFile? ⟨#[0xFF]⟩ = none := by decide +kernel
    rw [show byteSession.platform.yaml = Yaml.readFile from rfl, Yaml.readFile, htext]
  have hload : ((Decision.load "d").on byteSession).1 = .error (.broken .undecodable) := by
    rw [Decision.load_on_fst, Decision.loadOutcome_of_refusal hstatus hrefusal]
    rfl
  refine ⟨hload, eq_ok_of_toOption_eq_some (by decide +kernel), fun h => ?_⟩
  obtain ⟨report, hreport, -⟩ := h.reports _ hload
  exact absurd hreport (by simp)

end DashboardSynthesis
