import DashboardSynthesis.Proofs.Decimal.Digits
import DashboardSynthesis.Proofs.Template.OnePass

/-!
# Markers that come together

Values without dollar signs bring no marker with them.  Still a marker may come together in a customized
template, out of what stands around a value: if the endpoint is empty, `$$handlerName$id$` becomes `$id$`.
One pass does not look back, so such a marker stays, and a second pass would replace it.

Cutting a template into pieces shows where this happens, since it does not depend on the values (`cut`): two
dollar signs that belong to no marker have a marker between them, and with its value they enclose a name
(`Rejoins`).  The value is a part of the name then, and an empty one is a part of every name.  So if no value
is a part of a name, no marker is left.
-/

namespace DashboardSynthesis

/-! ## Names of markers -/

/-- The name of a marker, which stands between its dollar signs. -/
def Marker.name : Marker → Text
  | handlerName => "handlerName"
  | id => "id"
  | uid => "uid"
  | artifactId => "gavArtifactId"
  | version => "gavVersion"

theorem Marker.text_eq (m : Marker) : m.text = .scalar '$' :: (m.name ++ [.scalar '$']) := by
  cases m <;> rfl

theorem Marker.dollar_notMem_name (m : Marker) : .scalar '$' ∉ m.name := by
  cases m <;> decide

/-- No name starts with the name of another marker. -/
theorem Marker.eq_of_name_prefix {m m' : Marker} (h : m.name <+: m'.name) : m = m' := by
  rw [← List.isPrefixOf_iff_prefix] at h
  revert h
  cases m <;> cases m' <;> decide

/-- The text is a part of the name of some marker. -/
def IsPartOfName (t : Text) : Prop := ∃ m : Marker, t <:+: m.name

/-- A number is no part of a name. -/
theorem not_isPartOfName_ofInt (n : ℤ) : ¬ IsPartOfName (Text.ofInt n) := by
  rintro ⟨m, hm⟩
  obtain ⟨c, hc, hdigit⟩ := Text.exists_isDigit_mem_ofInt n
  have hnone : ∀ c ∈ m.name, c.isDigit = false := by cases m <;> decide
  simp [hnone c (hm.subset hc)] at hdigit

/-! ## Cutting -/

/-- The pieces behind the first `skip` code points, which are dropped. -/
def cutFrom : (skip : ℕ) → Text → List Piece
  | _, [] => []
  | skip + 1, _ :: rest => cutFrom skip rest
  | 0, c :: rest =>
    match Marker.atStart? (c :: rest) with
    | some m => .marker m :: cutFrom (m.text.length - 1) rest
    | none => .text [c] :: cutFrom 0 rest

/-- The markers of a template that are replaced, and the code points between them one by one. -/
def cut (t : Text) : List Piece := cutFrom 0 t

variable {value : Marker → Text} {t : Text}

theorem flatMap_filled_cutFrom (value : Marker → Text) (skip : ℕ) (t : Text) :
    (cutFrom skip t).flatMap (Piece.filled value) = customizeFrom value skip t := by
  induction t generalizing skip with
  | nil => cases skip <;> rfl
  | cons c t ih =>
    cases skip with
    | succ skip => exact ih skip
    | zero =>
      rw [cutFrom, customizeFrom]
      cases Marker.atStart? (c :: t) with
      | some m => exact congrArg (value m ++ ·) (ih (m.text.length - 1))
      | none => exact congrArg (c :: ·) (ih 0)

/-- **Customizing fills the pieces.** -/
theorem flatMap_filled_cut (value : Marker → Text) (t : Text) :
    (cut t).flatMap (Piece.filled value) = customize value t :=
  flatMap_filled_cutFrom value 0 t

/-- With its own text for each marker, a template stays as it is. -/
theorem customize_text (t : Text) : customize Marker.text t = t := by
  have hpass : IsOnePass Marker.text id := ⟨fun _ _ => rfl, fun _ _ _ _ => rfl, fun _ _ => rfl⟩
  exact congrFun hpass.eq_customize.symm t

/-- A text among the pieces is a single code point, at which no marker starts. -/
theorem exists_of_cutFrom_eq {skip : ℕ} {x : Text} {before behind : List Piece}
    (h : cutFrom skip t = before ++ .text x :: behind) :
    ∃ c, x = [c] ∧ Marker.atStart? (c :: behind.flatMap Piece.written) = none := by
  induction t generalizing skip before with
  | nil => cases skip <;> simp [cutFrom] at h
  | cons c t ih =>
    cases skip with
    | succ skip => exact ih h
    | zero =>
      rw [cutFrom] at h
      split at h
      · next m _ =>
        rcases before with _ | ⟨piece, before⟩
        · simp at h
        · exact ih (List.cons.inj h).2
      · next hstart =>
        rcases before with _ | ⟨piece, before⟩
        · obtain ⟨hx, rfl⟩ := List.cons.inj h
          have hrest : (cut t).flatMap Piece.written = t :=
            (flatMap_filled_cut Marker.text t).trans (customize_text t)
          exact ⟨c, (Piece.text.inj hx).symm, by rwa [← cut, hrest]⟩
        · exact ih (List.cons.inj h).2

theorem exists_of_text_mem_cut {x : Text} (h : .text x ∈ cut t) : ∃ c, x = [c] := by
  obtain ⟨before, behind, hcut⟩ := List.append_of_mem h
  obtain ⟨c, hx, -⟩ := exists_of_cutFrom_eq hcut
  exact ⟨c, hx⟩

/-- A dollar sign that no value brought stands in the template. -/
theorem exists_of_flatMap_filled_eq (hvalue : ∀ m, .scalar '$' ∉ value m) {ps : List Piece}
    (hone : ∀ x, .text x ∈ ps → ∃ c, x = [c]) {a b : Text}
    (h : ps.flatMap (Piece.filled value) = a ++ .scalar '$' :: b) :
    ∃ before behind, ps = before ++ .text [.scalar '$'] :: behind ∧
      before.flatMap (Piece.filled value) = a ∧ behind.flatMap (Piece.filled value) = b := by
  induction ps generalizing a with
  | nil => simp at h
  | cons piece ps ih =>
    have hrest : ∀ x, .text x ∈ ps → ∃ c, x = [c] := fun x hx => hone x (List.mem_cons_of_mem piece hx)
    rw [List.flatMap_cons] at h
    cases piece with
    | marker m =>
      -- the value ends in front of the dollar sign
      obtain ⟨a', rfl, ha'⟩ : ∃ a', a = value m ++ a' ∧
          ps.flatMap (Piece.filled value) = a' ++ .scalar '$' :: b := by
        rcases List.append_eq_append_iff.1 h with ⟨a', ha, hps⟩ | ⟨c, hm, hc⟩
        · exact ⟨a', ha, hps⟩
        · rcases c with _ | ⟨d, c⟩
          · exact ⟨[], by simpa using hm.symm, hc.symm⟩
          · refine absurd ?_ (hvalue m)
            rw [show value m = a ++ d :: c from hm, (List.cons.inj hc).1]
            simp
      obtain ⟨before, behind, rfl, hbefore, hbehind⟩ := ih hrest ha'
      exact ⟨.marker m :: before, behind, rfl, congrArg (value m ++ ·) hbefore, hbehind⟩
    | text x =>
      obtain ⟨c, rfl⟩ := hone x List.mem_cons_self
      rcases a with _ | ⟨d, a⟩
      · obtain ⟨rfl, hb⟩ := List.cons.inj h
        exact ⟨[], ps, rfl, rfl, hb⟩
      · obtain ⟨rfl, ha⟩ := List.cons.inj h
        obtain ⟨before, behind, rfl, hbefore, hbehind⟩ := ih hrest ha
        exact ⟨.text [c] :: before, behind, rfl, congrArg (c :: ·) hbefore, hbehind⟩

/-! ## Coming together -/

/-- Between two dollar signs of the template that belong to no marker there are pieces, with a marker among
them, that come to be the name of the marker `m`. -/
structure Rejoins (value : Marker → Text) (t : Text) (m : Marker) (between : List Piece) : Prop where
  stands : .text [.scalar '$'] :: (between ++ [.text [.scalar '$']]) <:+: cut t
  hasMarker : ∃ m', .marker m' ∈ between
  name : between.flatMap (Piece.filled value) = m.name

/-- **Markers that are left** have come together. -/
theorem holdsMarker_customize_iff (hvalue : ∀ m, .scalar '$' ∉ value m) :
    HoldsMarker (customize value t) ↔ ∃ m between, Rejoins value t m between := by
  rw [← flatMap_filled_cut]
  constructor
  · rintro ⟨m, a, b, h⟩
    have hopening : (cut t).flatMap (Piece.filled value) =
        a ++ .scalar '$' :: (m.name ++ .scalar '$' :: b) := by
      rw [← h, m.text_eq]
      simp
    have hone : ∀ x, .text x ∈ cut t → ∃ c, x = [c] := fun x => exists_of_text_mem_cut
    obtain ⟨before, rest, hcut, -, hclosing⟩ := exists_of_flatMap_filled_eq hvalue hone hopening
    obtain ⟨between, behind, rfl, hname, -⟩ := exists_of_flatMap_filled_eq hvalue
      (fun x hx => hone x (by simp [hcut, hx])) hclosing
    refine ⟨m, between, ⟨before, behind, by simp [hcut]⟩, ?_, hname⟩
    by_contra hnone
    -- else the marker stood in the template, and no marker started at its dollar sign
    have hwritten : between.flatMap Piece.written = m.name := by
      rw [← hname]
      refine List.flatMap_congr fun piece hpiece => ?_
      cases piece with
      | marker m' => exact absurd ⟨m', hpiece⟩ hnone
      | text x => rfl
    obtain ⟨c, hc, hstart⟩ := exists_of_cutFrom_eq hcut
    obtain rfl := (List.cons.inj hc).1
    have hmarker := m.atStart?_text_append (behind.flatMap Piece.written)
    rw [m.text_eq, ← hwritten] at hmarker
    simp [Piece.written] at hstart hmarker
    simp [hstart] at hmarker
  · rintro ⟨m, between, ⟨before, behind, hcut⟩, -, hname⟩
    refine ⟨m, before.flatMap (Piece.filled value), behind.flatMap (Piece.filled value), ?_⟩
    rw [← hcut, m.text_eq, ← hname]
    simp

/-- What comes together has a value as a part. -/
theorem Rejoins.exists_isPartOfName {m : Marker} {between : List Piece} (h : Rejoins value t m between) :
    ∃ m', IsPartOfName (value m') := by
  obtain ⟨m', hm'⟩ := h.hasMarker
  obtain ⟨before, behind, rfl⟩ := List.append_of_mem hm'
  refine ⟨m', m, before.flatMap (Piece.filled value), behind.flatMap (Piece.filled value), ?_⟩
  rw [← h.name]
  simp

/-! ## Parts of names -/

/-- A dollar sign starts no marker if what stands in front of the next one is no name. -/
theorem Marker.atStart?_eq_none_of_ne {a rest : Text} (ha : .scalar '$' ∉ a) (hname : ∀ m, name m ≠ a) :
    atStart? (.scalar '$' :: (a ++ .scalar '$' :: rest)) = none := by
  rw [atStart?_eq_none_iff]
  rintro m ⟨rest', h⟩
  rw [text_eq, List.cons_append, List.append_assoc, List.singleton_append] at h
  have heq := (List.cons.inj h).2
  have hfront : m.name <+: a := prefix_of_prefix_append ⟨_, heq⟩ m.dollar_notMem_name
  have hback : a <+: m.name := prefix_of_prefix_append ⟨_, heq.symm⟩ ha
  exact hname m (hfront.eq_of_length_le hback.length_le)

/-- **A part of a name** is a value with which a marker comes together. -/
theorem exists_holdsMarker_of_isPartOfName {m : Marker} (h : IsPartOfName (value m)) :
    ∃ template, HoldsMarker (customize value template) := by
  obtain ⟨m', a, b, hab, hname⟩ : ∃ (m' : Marker) (a b : Text), a ++ (value m ++ b) = m'.name ∧
      ∀ m'' : Marker, m''.name ≠ a := by
    obtain ⟨m', a, b, hab⟩ := h
    rw [List.append_assoc] at hab
    by_cases hempty : value m = []
    · exact ⟨m', [], m'.name, by simp [hempty], fun m'' => by cases m'' <;> decide⟩
    · refine ⟨m', a, b, hab, fun m'' hm'' => hempty ?_⟩
      obtain rfl : m'' = m' := Marker.eq_of_name_prefix ⟨value m ++ b, by rw [hm'', hab]⟩
      rw [← hm'', List.append_right_eq_self] at hab
      exact (List.append_eq_nil_iff.1 hab).1
  have hdollar : .scalar '$' ∉ a ++ (value m ++ b) := hab ▸ m'.dollar_notMem_name
  simp only [List.mem_append, not_or] at hdollar
  refine ⟨.scalar '$' :: (a ++ (m.text ++ (b ++ [.scalar '$']))), m', [], [], ?_⟩
  have hstart : Marker.atStart? (.scalar '$' :: (a ++ (m.text ++ (b ++ [.scalar '$'])))) = none := by
    rw [m.text_eq, List.cons_append]
    exact Marker.atStart?_eq_none_of_ne hdollar.1 hname
  have hlast : customize value [.scalar '$'] = [.scalar '$'] := rfl
  rw [customize_cons_of_atStart? hstart, customize_append value hdollar.1, customize_marker,
    customize_append value hdollar.2.2, hlast, m'.text_eq, ← hab]
  simp

/-! ## Values of a dashboard -/

section Values

variable {endpoint artifactId version : Text} {identity : Identity}

theorem dollar_notMem_markerValue (hendpoint : .scalar '$' ∉ endpoint)
    (hartifact : .scalar '$' ∉ artifactId) (hversion : .scalar '$' ∉ version)
    (huid : .scalar '$' ∉ identity.uid) (m : Marker) :
    .scalar '$' ∉ markerValue endpoint artifactId version identity m := by
  cases m with
  | handlerName => exact hendpoint
  | id => exact Text.notMem_ofInt rfl (by decide) identity.id
  | uid => exact huid
  | artifactId => exact hartifact
  | version => exact hversion

/-- The values are the names, the uid and a number. -/
theorem forall_not_isPartOfName_markerValue_iff :
    (∀ m, ¬ IsPartOfName (markerValue endpoint artifactId version identity m)) ↔
      ∀ x ∈ [endpoint, artifactId, version, identity.uid], ¬ IsPartOfName x := by
  simp only [List.forall_mem_cons]
  constructor
  · intro h
    exact ⟨h .handlerName, h .artifactId, h .version, h .uid, List.forall_mem_nil _⟩
  · rintro ⟨hendpoint, hartifact, hversion, huid, -⟩ m
    cases m with
    | handlerName => exact hendpoint
    | id => exact not_isPartOfName_ofInt identity.id
    | uid => exact huid
    | artifactId => exact hartifact
    | version => exact hversion

/-- **What is left of the markers.**  Where the names and the uid hold no dollar signs, a marker is left in a
customized template exactly if one has come together.  From every template all markers go exactly if none of
the names and the uid is a part of the name of a marker.  And where none is left, customizing again changes
nothing, whatever the values are. -/
theorem holdsMarker_customize_markerValue_iff (hendpoint : .scalar '$' ∉ endpoint)
    (hartifact : .scalar '$' ∉ artifactId) (hversion : .scalar '$' ∉ version)
    (huid : .scalar '$' ∉ identity.uid) :
    (∀ template, HoldsMarker (customize (markerValue endpoint artifactId version identity) template) ↔
      ∃ m between, Rejoins (markerValue endpoint artifactId version identity) template m between) ∧
    ((∀ template, ¬ HoldsMarker (customize (markerValue endpoint artifactId version identity) template)) ↔
      ∀ x ∈ [endpoint, artifactId, version, identity.uid], ¬ IsPartOfName x) ∧
    (∀ template, ¬ HoldsMarker (customize (markerValue endpoint artifactId version identity) template) →
      ∀ value, customize value (customize (markerValue endpoint artifactId version identity) template) =
        customize (markerValue endpoint artifactId version identity) template) := by
  have hvalue := dollar_notMem_markerValue hendpoint hartifact hversion huid
  refine ⟨fun _ => holdsMarker_customize_iff hvalue, ?_, fun _ hnone _ => customize_of_not_holdsMarker hnone⟩
  rw [← forall_not_isPartOfName_markerValue_iff]
  constructor
  · intro hnone m hpart
    obtain ⟨template, hleft⟩ := exists_holdsMarker_of_isPartOfName hpart
    exact hnone template hleft
  · intro hparts template hleft
    obtain ⟨m, between, hrejoins⟩ := (holdsMarker_customize_iff hvalue).1 hleft
    obtain ⟨m', hpart⟩ := hrejoins.exists_isPartOfName
    exact hparts m' hpart

end Values

/-- A dollar sign in front of a marker, and the end of another one behind it. -/
def brokenTemplate : Text := "$$handlerName$Version$ $id$"

theorem holdsMarker_customize_markerValue_iff_gav :
    .scalar '$' ∉ ("gav" : Text) ∧ .scalar '$' ∉ ("a" : Text) ∧ .scalar '$' ∉ ("1.0" : Text) ∧
      .scalar '$' ∉ ("u" : Text) ∧
      HoldsMarker (customize (markerValue "gav" "a" "1.0" ⟨7, "u"⟩) brokenTemplate) ∧
      (∃ m between, Rejoins (markerValue "gav" "a" "1.0" ⟨7, "u"⟩) brokenTemplate m between) ∧
      ¬ ∀ x ∈ (["gav", "a", "1.0", "u"] : List Text), ¬ IsPartOfName x := by
  have hleft : HoldsMarker (customize (markerValue "gav" "a" "1.0" ⟨7, "u"⟩) brokenTemplate) :=
    ⟨.version, [], " 7", by decide⟩
  obtain ⟨hrejoins, hparts, -⟩ := @holdsMarker_customize_markerValue_iff "gav" "a" "1.0" ⟨7, "u"⟩
    (by decide) (by decide) (by decide) (by decide)
  exact ⟨by decide, by decide, by decide, by decide, hleft, (hrejoins _).1 hleft,
    fun h => hparts.2 h _ hleft⟩

/-- **An empty value** brings no dollar sign, yet those around it come together: the marker that is left is
replaced the next time. -/
theorem holdsMarker_customize_emptyEndpoint :
    (∀ m, .scalar '$' ∉ markerValue "" "a" "1.0" ⟨7, "u"⟩ m) ∧
      HoldsMarker (customize (markerValue "" "a" "1.0" ⟨7, "u"⟩) "$$handlerName$id$") ∧
      customize (markerValue "" "a" "1.0" ⟨7, "u"⟩)
          (customize (markerValue "" "a" "1.0" ⟨7, "u"⟩) "$$handlerName$id$") ≠
        customize (markerValue "" "a" "1.0" ⟨7, "u"⟩) "$$handlerName$id$" :=
  ⟨fun m => by cases m <;> decide, ⟨.id, [], [], by decide⟩, by decide⟩

end DashboardSynthesis
