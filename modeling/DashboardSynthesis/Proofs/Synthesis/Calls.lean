import DashboardSynthesis.Proofs.Command.Dashboard
import DashboardSynthesis.Proofs.Synthesis.Customizations
import Mathlib.Data.Set.Operations
import Mathlib.Order.Interval.Set.Defs

/-!
# Calls of one synthesizer

A synthesizer is called for single dashboards and for both dashboards of an endpoint, in any order, and a call
that fails does not end its service.  Each call customizes what it can read (`Call.Customizes`): a single
dashboard takes one customization at most, an endpoint two, and the second one only if nothing has gone wrong
with the first.  Each call draws what its customizations take (`call_customizes`), so all calls together do,
and the customizations of a whole service take the identities in the order in which these are drawn, none is
left out and none is taken twice (`identities_areTakenInOrder`).
-/

namespace DashboardSynthesis

/-- A call of a synthesizer. -/
inductive Call where
  | dashboard (flavor : Flavor) (request : DashboardRequest)
  /-- For both dashboards of an endpoint. -/
  | endpoint (request : EndpointRequest)

/-- What a call gives. -/
inductive Answer where
  | text (text : Text)
  | files (files : List DashboardFile)

/-- What a synthesizer does when it is called. -/
def Call.run (s : Synthesizer) : Call → Run Answer
  | dashboard flavor r => return .text (← s.dashboard flavor r)
  | endpoint r => return .files (← endpointDashboards (pure s) r)

namespace EndpointRequest

/-- What one of the dashboards is asked for. -/
def dashboard (r : EndpointRequest) (settings : Settings) (template : Text) : DashboardRequest :=
  { template
    name := dashboardName (some r.build) r.endpoint
    endpoint := r.endpoint
    build := r.build
    auditLink := r.auditLink.getD settings.auditLink }

/-- The file of a dashboard, or how it comes that there is none. -/
def fileOutcome (r : EndpointRequest) (flavor : Flavor) (text : Text) : Except Failure DashboardFile :=
  match text.encode? with
  | some bytes => .ok ⟨flavor.path r.endpoint, bytes⟩
  | none => .error (.broken .unencodable)

/-- The files of both dashboards, or how it comes that there are none. -/
def filesOutcome (r : EndpointRequest) (operational domain : Text) :
    Except Failure (List DashboardFile) :=
  return [← r.fileOutcome .operational operational, ← r.fileOutcome r.domainFlavor domain]

end EndpointRequest

/-- What a call customizes, and what it gives.  For an endpoint the settings are read first; then there is the
operational dashboard, and if that comes out, the domain dashboard. -/
inductive Call.Customizes (s : Synthesizer) (σ : Session) :
    Call → List Customization → Except Failure Answer → Prop where
  | dashboard {flavor : Flavor} {r : DashboardRequest} {cs : List Customization}
      {outcome : Except Failure Text} (h : s.Customizes flavor r σ cs outcome) :
      Customizes s σ (.dashboard flavor r) cs (outcome.map .text)
  | settingsFail {r : EndpointRequest} {failure : Failure} (hsettings : σ.settingsOutcome = .error failure) :
      Customizes s σ (.endpoint r) [] (.error failure)
  | operationalFails {r : EndpointRequest} {settings : Settings} {cs : List Customization} {failure : Failure}
      (hsettings : σ.settingsOutcome = .ok settings)
      (h : s.Customizes .operational (r.dashboard settings settings.operationalTemplate) σ cs
        (.error failure)) :
      Customizes s σ (.endpoint r) cs (.error failure)
  | endpoint {r : EndpointRequest} {settings : Settings} {cs cs' : List Customization} {text : Text}
      {outcome : Except Failure Text} (hsettings : σ.settingsOutcome = .ok settings)
      (h : s.Customizes .operational (r.dashboard settings settings.operationalTemplate) σ cs (.ok text))
      (h' : s.Customizes r.domainFlavor (r.dashboard settings settings.domainTemplate) σ cs' outcome) :
      Customizes s σ (.endpoint r) (cs ++ cs') ((outcome >>= r.filesOutcome text).map .files)

/-- The next ids can be written, so many of them. -/
def IdentitySource.NextArePrintable (source : IdentitySource) (σ : Session) (count : ℕ) : Prop :=
  ∀ i < count, (Json.int (source.id (σ.idsDrawn + i))).isPrintable = true

instance (source : IdentitySource) (σ : Session) (count : ℕ) :
    Decidable (source.NextArePrintable σ count) := inferInstanceAs (Decidable (∀ i < count, _))

variable {s : Synthesizer} {σ σ' : Session} {call : Call} {cs : List Customization}

/-! ## One call -/

theorem Call.Customizes.length_le {answer : Except Failure Answer} (h : call.Customizes s σ cs answer) :
    cs.length ≤ 2 := by
  cases h with
  | dashboard h => exact h.length_le.trans (Nat.le_succ 1)
  | settingsFail => exact Nat.zero_le 2
  | operationalFails _ h => exact h.length_le.trans (Nat.le_succ 1)
  | endpoint _ h h' =>
    rw [List.length_append]
    exact Nat.add_le_add h.length_le h'.length_le

/-- What comes behind a command and leaves the session as it is only turns the outcome. -/
theorem Run.on_bind_of_on_eq {α β : Type} {x : Run α} {f : α → Run β} {g : α → Except Failure β}
    (hf : ∀ a τ, (f a).on τ = (g a, τ)) (σ : Session) :
    (x >>= f).on σ = ((x.on σ).1 >>= g, (x.on σ).2) := by
  rw [Run.on_bind]
  rcases x.on σ with ⟨_ | a, σ'⟩
  · rfl
  · exact hf a σ'

theorem Run.on_bind_pure {α β : Type} (x : Run α) (f : α → β) (σ : Session) :
    (x >>= fun a => pure (f a)).on σ = ((x.on σ).1.map f, (x.on σ).2) :=
  Run.on_bind_of_on_eq (g := fun a => .ok (f a)) (fun _ _ => rfl) σ

theorem EndpointRequest.fileOutcome_on (r : EndpointRequest) (flavor : Flavor) (text : Text) (σ : Session) :
    (DashboardFile.ofDashboard flavor r.endpoint text).on σ = (r.fileOutcome flavor text, σ) := by
  rw [DashboardFile.ofDashboard_on, fileOutcome]
  cases text.encode? <;> rfl

theorem EndpointRequest.filesOutcome_on (r : EndpointRequest) (operational domain : Text) (σ : Session) :
    (do return [← DashboardFile.ofDashboard .operational r.endpoint operational,
      ← DashboardFile.ofDashboard r.domainFlavor r.endpoint domain] : Run (List DashboardFile)).on σ =
      (r.filesOutcome operational domain, σ) := by
  have hdomain (file : DashboardFile) (τ : Session) :
      (do return [file, ← DashboardFile.ofDashboard r.domainFlavor r.endpoint domain] :
        Run (List DashboardFile)).on τ = (do return [file, ← r.fileOutcome r.domainFlavor domain], τ) := by
    rw [Run.on_bind_pure, r.fileOutcome_on]
    rfl
  rw [Run.on_bind_of_on_eq hdomain, r.fileOutcome_on, filesOutcome]

/-- An endpoint under settings: one dashboard behind the other, and then the files. -/
theorem endpointDashboards_on {settings : Settings} (r : EndpointRequest)
    (hsettings : σ.settingsOutcome = .ok settings) :
    (endpointDashboards (pure s) r).on σ = (do
      let operational ← s.dashboard .operational (r.dashboard settings settings.operationalTemplate)
      let domain ← s.dashboard r.domainFlavor (r.dashboard settings settings.domainTemplate)
      return [← DashboardFile.ofDashboard .operational r.endpoint operational,
        ← DashboardFile.ofDashboard r.domainFlavor r.endpoint domain] :
          Run (List DashboardFile)).on (σ.withSettings settings) := by
  have hread : Run.settings.on σ = (.ok settings, σ.withSettings settings) := by
    rw [Run.settings_on, hsettings]
  exact Run.on_bind_ok hread

theorem endpoint_customizes (r : EndpointRequest) (hid : s.identity.NextArePrintable σ 2) :
    ∃ cs, (Call.endpoint r).Customizes s σ cs (((endpointDashboards (pure s) r).on σ).1.map .files) ∧
      s.identity.DrawsFor σ ((endpointDashboards (pure s) r).on σ).2 cs := by
  cases hsettings : σ.settingsOutcome with
  | error failure =>
    have hon : (endpointDashboards (pure s) r).on σ = (.error failure, σ) :=
      Run.on_bind_error (by rw [Run.settings_on, hsettings])
    rw [hon]
    exact ⟨[], .settingsFail hsettings, .nil rfl rfl⟩
  | ok settings =>
    rw [endpointDashboards_on r hsettings]
    have hread : s.identity.DrawsFor σ (σ.withSettings settings) [] := .nil rfl rfl
    have hid₀ : s.idIsPrintable (σ.withSettings settings) = true := hid 0 Nat.two_pos
    obtain ⟨cs, h, hdraws⟩ := Synthesizer.dashboard_customizes s .operational
      (r.dashboard settings settings.operationalTemplate) hid₀
    rcases hon : (s.dashboard .operational (r.dashboard settings settings.operationalTemplate)).on
      (σ.withSettings settings) with ⟨failure | text, σ₁⟩
    · rw [hon] at h hdraws
      rw [Run.on_bind_error hon]
      exact ⟨cs, .operationalFails hsettings (h.congr rfl rfl), hread.append hdraws⟩
    · -- the second dashboard finds the same files, and the next identity
      rw [hon] at h hdraws
      obtain ⟨-, l, hσ₁⟩ := Synthesizer.of_dashboard hon
      have hid₁ : s.idIsPrintable σ₁ = true := by
        rw [hσ₁]
        exact hid 1 Nat.one_lt_two
      obtain ⟨cs', h', hdraws'⟩ := Synthesizer.dashboard_customizes s r.domainFlavor
        (r.dashboard settings settings.domainTemplate) hid₁
      have hfiles : σ.files = σ₁.files ∧ σ.home = σ₁.home := by
        rw [hσ₁]
        exact ⟨rfl, rfl⟩
      rw [Run.on_bind_ok hon, Run.on_bind_of_on_eq (r.filesOutcome_on text)]
      exact ⟨cs ++ cs', .endpoint hsettings (h.congr rfl rfl) (h'.congr hfiles.1 hfiles.2),
        (hread.append hdraws).append hdraws'⟩

/-- **One call.**  It customizes what it can read, and has drawn what it takes for that. -/
theorem call_customizes (call : Call) (hid : s.identity.NextArePrintable σ 2) :
    ∃ cs, call.Customizes s σ cs ((call.run s).on σ).1 ∧
      s.identity.DrawsFor σ ((call.run s).on σ).2 cs := by
  cases call with
  | dashboard flavor r =>
    obtain ⟨cs, h, hdraws⟩ := Synthesizer.dashboard_customizes s flavor r (hid 0 Nat.two_pos)
    rw [Call.run, Run.on_bind_pure]
    exact ⟨cs, .dashboard h, hdraws⟩
  | endpoint r =>
    rw [Call.run, Run.on_bind_pure]
    exact endpoint_customizes r hid

/-! ## All calls -/

/-- A turn of a synthesizer: a call, and the files as they are by then. -/
structure Turn where
  files : FileTree
  call : Call

namespace Synthesizer

/-- The session behind a turn, whatever comes of the call. -/
def serve (s : Synthesizer) (σ : Session) (turn : Turn) : Session :=
  ((turn.call.run s).on (σ.withFiles turn.files)).2

/-- In a turn these are customized, and as many identities are drawn. -/
structure Serves (s : Synthesizer) (σ : Session) (turn : Turn) (cs : List Customization) : Prop where
  customizes : turn.call.Customizes s (σ.withFiles turn.files) cs
    ((turn.call.run s).on (σ.withFiles turn.files)).1
  draws : s.identity.DrawsFor σ (s.serve σ turn) cs

/-- In turns, one behind the other, these are customized: the first list in the first turn, and so on. -/
inductive ServesAll (s : Synthesizer) : Session → List Turn → List (List Customization) → Prop where
  | nil {σ : Session} : ServesAll s σ [] []
  | cons {σ : Session} {turn : Turn} {turns : List Turn} {cs : List Customization}
      {css : List (List Customization)} (first : s.Serves σ turn cs)
      (rest : ServesAll s (s.serve σ turn) turns css) : ServesAll s σ (turn :: turns) (cs :: css)

variable {turns : List Turn} {css : List (List Customization)}

theorem serves (turn : Turn) (hid : s.identity.NextArePrintable σ 2) : ∃ cs, s.Serves σ turn cs := by
  have hturn : s.identity.NextArePrintable (σ.withFiles turn.files) 2 := hid
  obtain ⟨cs, h, hdraws⟩ := call_customizes turn.call hturn
  have hfiles : s.identity.DrawsFor σ (σ.withFiles turn.files) [] := .nil rfl rfl
  exact ⟨cs, h, hfiles.append hdraws⟩

theorem servesAll (hid : s.identity.NextArePrintable σ (2 * turns.length)) :
    ∃ css, s.ServesAll σ turns css := by
  induction turns generalizing σ with
  | nil => exact ⟨[], .nil⟩
  | cons turn turns ih =>
    rw [List.length_cons] at hid
    have htwo : s.identity.NextArePrintable σ 2 := fun i hi => hid i (by omega)
    obtain ⟨cs, hfirst⟩ := serves turn htwo
    -- a turn takes two identities at most, so the others are among those that can be written
    have hcount : cs.length ≤ 2 := hfirst.customizes.length_le
    have hlater : s.identity.NextArePrintable (s.serve σ turn) (2 * turns.length) := by
      intro i hi
      rw [hfirst.draws.ids, Nat.add_assoc]
      exact hid _ (by omega)
    obtain ⟨css, hrest⟩ := ih hlater
    exact ⟨cs :: css, .cons hfirst hrest⟩

/-- What all turns customize takes what all turns draw. -/
theorem ServesAll.drawsFor (h : s.ServesAll σ turns css) :
    s.identity.DrawsFor σ (turns.foldl s.serve σ) css.flatten := by
  induction h with
  | nil => exact .nil rfl rfl
  | cons first _ ih => exact first.draws.append ih

end Synthesizer

/-! ## Identities that do not repeat -/

/-- Where nothing repeats that is taken in order, nothing is taken twice. -/
theorem pairwise_of_injOn {α β : Type} {f : ℕ → β} {g : α → β} {n m : ℕ} {as : List α}
    (hlength : m = n + as.length) (hg : ∀ (i : ℕ) a, as[i]? = some a → g a = f (n + i))
    (hf : Set.InjOn f (Set.Ico n m)) : as.Pairwise fun a b => g a ≠ g b := by
  rw [List.pairwise_iff_getElem]
  intro i j hi hj hij hsame
  rw [hg i _ (List.getElem?_eq_getElem hi), hg j _ (List.getElem?_eq_getElem hj)] at hsame
  have hindex : n + i = n + j := hf ⟨by omega, by omega⟩ ⟨by omega, by omega⟩ hsame
  omega

namespace Synthesizer

/-- **Identities are taken in order.**  Whatever a synthesizer is called for, and whatever comes of the calls,
as many ids and uids are drawn as templates are customized, in each turn and in all together, and the
customizations take them in order, each one for all occurrences of the two markers.  Where no id is drawn
twice, no two customizations have the same id, and likewise with uids. -/
theorem identities_areTakenInOrder (s : Synthesizer) (σ : Session) (turns : List Turn)
    (hid : s.identity.NextArePrintable σ (2 * turns.length)) :
    ∃ css, s.ServesAll σ turns css ∧ s.identity.DrawsFor σ (turns.foldl s.serve σ) css.flatten ∧
      (∀ (i : ℕ) c, css.flatten[i]? = some c →
        c.IsMadeWith (s.identity.id (σ.idsDrawn + i)) (s.identity.uid (σ.uidsDrawn + i))) ∧
      (Set.InjOn s.identity.id (Set.Ico σ.idsDrawn (turns.foldl s.serve σ).idsDrawn) →
        css.flatten.Pairwise fun c c' => c.identity.id ≠ c'.identity.id) ∧
      (Set.InjOn s.identity.uid (Set.Ico σ.uidsDrawn (turns.foldl s.serve σ).uidsDrawn) →
        css.flatten.Pairwise fun c c' => c.identity.uid ≠ c'.identity.uid) := by
  obtain ⟨css, hcss⟩ := servesAll hid
  have hdraws := hcss.drawsFor
  refine ⟨css, hcss, hdraws, fun i c hc => ?_, pairwise_of_injOn hdraws.ids ?_,
    pairwise_of_injOn hdraws.uids ?_⟩
  · have hmade := c.isMadeWith
    rwa [hdraws.inOrder i c hc] at hmade
  · exact fun i c hc => congrArg Identity.id (hdraws.inOrder i c hc)
  · exact fun i c hc => congrArg Identity.uid (hdraws.inOrder i c hc)

/-- The ids go up from 1001, and the uids get longer and longer. -/
def risingSource : IdentitySource := ⟨fun n => 1001 + n, fun n => List.replicate (n + 1) (.scalar 'u')⟩

/-- The file `t` is the template of both dashboards of an endpoint, and the file `x` is not a template. -/
def mixedSession : Session :=
  { files := ⟨[(["t"], .file "\x7b\"id\": $id$, \"uid\": \"$uid$\", \"title\": \"$uid$\"\x7d".toUTF8),
      (["x"], .file "$id$ $uid$".toUTF8)]⟩
    home := []
    environment := [("DECISIONDASH_OPERATIONAL_TEMPLATE", "t"), ("DECISIONDASH_DOMAIN_TEMPLATE", "t")] }

def mixedSynthesizer : Synthesizer := { identity := risingSource, metric := "m", indent := 2 }

/-- Calls of all kinds: there is no such template, the template cannot be parsed, both dashboards come out,
and so does the last one. -/
def mixedTurns : List Turn :=
  let request (template : Text) : DashboardRequest :=
    { template, name := "n", endpoint := "e", build := ⟨"a", "1"⟩ }
  [⟨mixedSession.files, .dashboard .operational (request "none")⟩,
    ⟨mixedSession.files, .dashboard .ruleUnit (request "x")⟩,
    ⟨mixedSession.files, .endpoint { endpoint := "e", build := ⟨"a", "1"⟩ }⟩,
    ⟨mixedSession.files, .dashboard (.decisionModel [{ name := "rate", identifier := "i" }]) (request "t")⟩]

theorem identities_areTakenInOrder_mixed :
    ∃ css, mixedSynthesizer.ServesAll mixedSession mixedTurns css ∧ css.flatten.length = 4 ∧
      css.flatten.Pairwise (fun c c' => c.identity.id ≠ c'.identity.id) ∧
      css.flatten.Pairwise fun c c' => c.identity.uid ≠ c'.identity.uid := by
  obtain ⟨css, hserves, hdraws, -, hids, huids⟩ := identities_areTakenInOrder mixedSynthesizer
    mixedSession mixedTurns (by decide +kernel)
  have hdrawn : (mixedTurns.foldl mixedSynthesizer.serve mixedSession).idsDrawn = 4 := by decide +kernel
  refine ⟨css, hserves, ?_, hids ?_, huids ?_⟩
  · rw [← hdrawn, hdraws.ids]
    exact (Nat.zero_add _).symm
  · intro n _ m _ hsame
    have hid : (1001 + n : ℤ) = 1001 + m := hsame
    omega
  · intro n _ m _ hsame
    have hlength := congrArg List.length hsame
    exact Nat.succ.inj (by simpa [mixedSynthesizer, risingSource] using hlength)

end Synthesizer
end DashboardSynthesis
