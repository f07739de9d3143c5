import DashboardSynthesis.Proofs.PromQL.Selector
import DashboardSynthesis.Proofs.Template.Layout

/-!
# The packaged domain template

`Library.domainMembers` is the packaged template for domain dashboards as a value, with an identity and
with the names of an endpoint and a build in their places.  If the names and the uid are plain, then
customizing the template gives a text that is read as exactly this value
(`read_customize_domainTemplate`): the names end up where they are meant, and nowhere else.
-/

namespace DashboardSynthesis
namespace Library

open Json (quote inQuotes arrText objText newLine)
open PromQL (matchersFor renderSelector)

/-! ## The template as a value -/

/-- The name of the metric in the template's own panel. -/
def ownMetric : Text := "api_http_response_code_total"

/-- The labels by which the template's own panel selects. -/
def ownLabels (endpoint artifactId version : Text) : List (Text × Text) :=
  [("handler", endpoint), ("artifactId", artifactId), ("version", version)]

/-- The query of the template's own panel, for names that are inserted as they are. -/
def ownQuery (endpoint artifactId version : Text) : Text :=
  ("sum(increase(" : Text) ++
    renderSelector ownMetric (matchersFor (ownLabels endpoint artifactId version)) ++ ("[1h]))" : Text)

/-- The title of the template's own panel. -/
def ownTitle (endpoint : Text) : Text := ("Evaluations in the last hour - " : Text) ++ endpoint

/-- The title that the dashboard has in the template. -/
def domainTitle (endpoint : Text) : Text := endpoint ++ (" - Domain Dashboard" : Text)

/-- The place of the template's own panel. -/
def ownPlace : Json := .obj [("h", .int 4), ("w", .int 24), ("x", .int 0), ("y", .int 0)]

/-- The template's own panel. -/
def ownPanel (endpoint artifactId version : Text) : Json :=
  .obj
    [("datasource", .str "Prometheus"),
     ("gridPos", ownPlace),
     ("id", .int 1),
     ("targets", .arr [.obj [("expr", .str (ownQuery endpoint artifactId version)),
       ("legendFormat", .str "evaluations"), ("refId", .str "A")]]),
     ("title", .str (ownTitle endpoint)),
     ("type", .str "stat")]

/-- The annotations of the dashboard. -/
def annotations : Json :=
  .obj [("list", .arr [.obj
    [("builtIn", .int 1), ("datasource", .str "-- Grafana --"), ("enable", .bool true),
     ("hide", .bool true), ("iconColor", .str "rgba(0, 211, 255, 1)"),
     ("name", .str "Annotations & Alerts"), ("type", .str "dashboard")]])]

/-- The time span that the dashboard shows. -/
def timeSpan : Json := .obj [("from", .str "now-1h"), ("to", .str "now")]

/-- The members of the dashboard. -/
def domainMembers (endpoint artifactId version : Text) (identity : Identity) : Json.Members :=
  [("annotations", annotations),
   ("editable", .bool true),
   ("graphTooltip", .int 0),
   ("id", .int identity.id),
   ("links", .arr []),
   ("panels", .arr [ownPanel endpoint artifactId version]),
   ("refresh", .str "10s"),
   ("schemaVersion", .int 38),
   ("tags", .arr [.str "decision-service", .str "domain", .str artifactId]),
   ("time", timeSpan),
   ("timezone", .str "browser"),
   ("title", .str (domainTitle endpoint)),
   ("uid", .str identity.uid),
   ("version", .int 1)]

/-! ## The template as a text -/

/-- The query of the template's own panel as it stands between the quotes of a string. -/
def ownQueryRaw (handler artifactId version : Text) : Text :=
  ("sum(increase(api_http_response_code_total\x7bhandler=\\\"" : Text) ++
    (handler ++ (("\\\",artifactId=\\\"" : Text) ++ (artifactId ++ (("\\\",version=\\\"" : Text) ++
      (version ++ ("\\\"\x7d[1h]))" : Text))))))

/-- The text of the template's own panel. -/
def ownText (handler artifactId version : Text) : Text :=
  objText 2
    [("datasource", quote "Prometheus"),
     ("gridPos", Json.print .compact 0 ownPlace),
     ("id", "1"),
     ("targets", arrText (newLine 4) (newLine 3) [objText 4
       [("expr", inQuotes (ownQueryRaw handler artifactId version)),
        ("legendFormat", quote "evaluations"), ("refId", quote "A")]]),
     ("title", inQuotes (ownTitle handler)),
     ("type", quote "stat")]

/-- The text of the tags. -/
def tagsText (artifactId : Text) : Text :=
  arrText [] [] [quote "decision-service", quote "domain", inQuotes artifactId]

/-- The text of the template, without the line feed at the end. -/
def domainText (handler id uid artifactId version : Text) : Text :=
  objText 0
    [("annotations", Json.print (.indented 2) 1 annotations),
     ("editable", "true"),
     ("graphTooltip", "0"),
     ("id", id),
     ("links", "[]"),
     ("panels", arrText (newLine 2) (newLine 1) [ownText handler artifactId version]),
     ("refresh", quote "10s"),
     ("schemaVersion", "38"),
     ("tags", tagsText artifactId),
     ("time", Json.print .compact 0 timeSpan),
     ("timezone", quote "browser"),
     ("title", inQuotes (domainTitle handler)),
     ("uid", inQuotes uid),
     ("version", "1")]

theorem domainTemplate_eq :
    domainTemplate = domainText Marker.handlerName.text Marker.id.text Marker.uid.text
      Marker.artifactId.text Marker.version.text ++ [.scalar '\n'] := by
  decide +kernel

/-! ## Customizing it -/

section Customizing

variable (value : Marker → Text)

theorem becomes_ownQueryRaw :
    Becomes value
      (ownQueryRaw Marker.handlerName.text Marker.artifactId.text Marker.version.text)
      (ownQueryRaw (value .handlerName) (value .artifactId) (value .version)) :=
  .append (.refl (by decide)) (.append (.marker .handlerName) (.append (.refl (by decide))
    (.append (.marker .artifactId) (.append (.refl (by decide)) (.append (.marker .version)
      (.refl (by decide)))))))

theorem becomes_ownTitle :
    Becomes value (ownTitle Marker.handlerName.text) (ownTitle (value .handlerName)) :=
  .append (.refl (by decide)) (.marker .handlerName)

theorem becomes_domainTitle :
    Becomes value (domainTitle Marker.handlerName.text) (domainTitle (value .handlerName)) :=
  .append (.marker .handlerName) (.refl (by decide))

theorem becomes_tagsText :
    Becomes value (tagsText Marker.artifactId.text) (tagsText (value .artifactId)) :=
  Json.becomes_arrText (by decide) (by decide) (.cons (.refl (by decide))
    (.cons (.refl (by decide)) (.cons (Json.becomes_inQuotes (.marker .artifactId)) .nil)))

theorem becomes_ownText :
    Becomes value (ownText Marker.handlerName.text Marker.artifactId.text Marker.version.text)
      (ownText (value .handlerName) (value .artifactId) (value .version)) := by
  have hquery := Json.becomes_inQuotes (becomes_ownQueryRaw value)
  have htitle := Json.becomes_inQuotes (becomes_ownTitle value)
  refine Json.becomes_objText 2 (.cons ⟨by decide, rfl, .refl (by decide)⟩
    (.cons ⟨by decide, rfl, .refl (by decide)⟩ (.cons ⟨by decide, rfl, .refl (by decide)⟩
    (.cons ⟨by decide, rfl, ?_⟩ (.cons ⟨by decide, rfl, htitle⟩
    (.cons ⟨by decide, rfl, .refl (by decide)⟩ .nil))))))
  refine Json.becomes_arrText (by decide) (by decide) (.cons ?_ .nil)
  exact Json.becomes_objText 4 (.cons ⟨by decide, rfl, hquery⟩
    (.cons ⟨by decide, rfl, .refl (by decide)⟩ (.cons ⟨by decide, rfl, .refl (by decide)⟩ .nil)))

/-- **The customized template.** -/
theorem customize_domainTemplate :
    customize value domainTemplate = domainText (value .handlerName) (value .id) (value .uid)
      (value .artifactId) (value .version) ++ [.scalar '\n'] := by
  have htitle := Json.becomes_inQuotes (becomes_domainTitle value)
  have huid : Becomes value (inQuotes Marker.uid.text) (inQuotes (value .uid)) :=
    Json.becomes_inQuotes (.marker .uid)
  rw [domainTemplate_eq]
  refine (Becomes.append (Json.becomes_objText 0 ?_) (.refl (by decide))).customize_eq
  refine .cons ⟨by decide, rfl, .refl (by decide +kernel)⟩
    (.cons ⟨by decide, rfl, .refl (by decide)⟩ (.cons ⟨by decide, rfl, .refl (by decide)⟩
    (.cons ⟨by decide, rfl, .marker .id⟩ (.cons ⟨by decide, rfl, .refl (by decide)⟩
    (.cons ⟨by decide, rfl, ?_⟩ (.cons ⟨by decide, rfl, .refl (by decide)⟩
    (.cons ⟨by decide, rfl, .refl (by decide)⟩ (.cons ⟨by decide, rfl, becomes_tagsText value⟩
    (.cons ⟨by decide, rfl, .refl (by decide)⟩ (.cons ⟨by decide, rfl, .refl (by decide)⟩
    (.cons ⟨by decide, rfl, htitle⟩ (.cons ⟨by decide, rfl, huid⟩
    (.cons ⟨by decide, rfl, .refl (by decide)⟩ .nil)))))))))))))
  exact Json.becomes_arrText (by decide) (by decide) (.cons (becomes_ownText value) .nil)

end Customizing

/-! ## Reading it -/

theorem quoted_of_isPlain {t : Text} (h : t.IsPlain) :
    PromQL.quoted t = .scalar '"' :: (t ++ [.scalar '"']) := by
  have hescape : t.flatMap PromQL.escape = t := by
    induction t with
    | nil => rfl
    | cons c t ih =>
      have hc : PromQL.escape c = [c] := by
        unfold PromQL.escape
        split
        case h_4 => rfl
        all_goals exact absurd (by decide) (h _ List.mem_cons_self)
      rw [List.flatMap_cons, hc, ih fun d hd => h d (List.mem_cons_of_mem c hd)]
      rfl
  rw [PromQL.quoted, hescape]
  rfl

section Reading

variable {endpoint artifactId version : Text} {identity : Identity}

theorem flatMap_escape_ownQuery (hendpoint : endpoint.IsPlain) (hartifact : artifactId.IsPlain)
    (hversion : version.IsPlain) :
    (ownQuery endpoint artifactId version).flatMap Json.escape =
      ownQueryRaw endpoint artifactId version := by
  have hquery : ownQuery endpoint artifactId version =
      ("sum(increase(api_http_response_code_total\x7bhandler=\"" : Text) ++
        (endpoint ++ (("\",artifactId=\"" : Text) ++ (artifactId ++ (("\",version=\"" : Text) ++
          (version ++ ("\"\x7d[1h]))" : Text)))))) := by
    simp only [ownQuery, ownLabels, renderSelector, matchersFor, List.map_cons, List.map_nil,
      PromQL.Matcher.render, Text.joinWith, quoted_of_isPlain hendpoint, quoted_of_isPlain hartifact,
      quoted_of_isPlain hversion, List.append_assoc, List.cons_append, List.nil_append]
    rfl
  rw [hquery]
  simp only [List.flatMap_append, Json.flatMap_escape_of_isPlain hendpoint,
    Json.flatMap_escape_of_isPlain hartifact, Json.flatMap_escape_of_isPlain hversion]
  rfl

theorem isNormal_annotations : annotations.IsNormal := by
  simp only [annotations, Json.IsNormal, Json.Each, Json.EachItem, Json.EachMember, Json.LocallyNormal,
    Json.Members.keys, List.map, and_true, true_and]
  decide

theorem spells_ownText (hendpoint : endpoint.IsPlain) (hartifact : artifactId.IsPlain)
    (hversion : version.IsPlain) :
    Json.Spells (ownText endpoint artifactId version) (ownPanel endpoint artifactId version) := by
  have hquery := Json.spells_inQuotes (flatMap_escape_ownQuery hendpoint hartifact hversion)
  have htitle : Json.Spells (inQuotes (ownTitle endpoint)) (.str (ownTitle endpoint)) := by
    refine Json.spells_inQuotes ?_
    rw [ownTitle, List.flatMap_append, Json.flatMap_escape_of_isPlain hendpoint]
    rfl
  have hplace : Json.Spells (Json.print .compact 0 ownPlace) ownPlace := by
    refine Json.spells_print .compact 0 ownPlace ⟨?_, trivial, trivial, trivial, trivial, trivial⟩ rfl
    simp only [Json.LocallyNormal, Json.Members.keys, List.map]
    decide
  have htarget : Json.Spells (objText 4 [("expr", inQuotes (ownQueryRaw endpoint artifactId version)),
      ("legendFormat", quote "evaluations"), ("refId", quote "A")])
      (.obj [("expr", .str (ownQuery endpoint artifactId version)),
        ("legendFormat", .str "evaluations"), ("refId", .str "A")]) := by
    refine Json.spells_objText 4 (.cons ⟨rfl, hquery⟩ (.cons ⟨rfl, Json.spells_str "evaluations"⟩
      (.cons ⟨rfl, Json.spells_str "A"⟩ .nil))) (List.cons_ne_nil _ _) ?_
    simp only [Json.Members.keys, List.map]
    decide
  refine Json.spells_objText 2 (.cons ⟨rfl, Json.spells_str "Prometheus"⟩ (.cons ⟨rfl, hplace⟩
    (.cons ⟨rfl, Json.spells_int (n := 1) (by decide)⟩ (.cons ⟨rfl, ?_⟩ (.cons ⟨rfl, htitle⟩
    (.cons ⟨rfl, Json.spells_str "stat"⟩ .nil)))))) (List.cons_ne_nil _ _)
    (by simp only [Json.Members.keys, List.map]; decide)
  exact Json.spells_arrText (Json.isBlanks_newLine 4) (Json.isBlanks_newLine 3)
    (.cons htarget .nil) (List.cons_ne_nil _ _)

theorem spells_domainText (hendpoint : endpoint.IsPlain) (hartifact : artifactId.IsPlain)
    (hversion : version.IsPlain) (hid : (Json.int identity.id).isPrintable = true)
    (huid : identity.uid.IsPlain) :
    Json.Spells (domainText endpoint (Text.ofInt identity.id) identity.uid artifactId version)
      (.obj (domainMembers endpoint artifactId version identity)) := by
  have hannotations : Json.Spells (Json.print (.indented 2) 1 annotations) annotations :=
    Json.spells_print (.indented 2) 1 annotations isNormal_annotations (by decide)
  have hpanels := Json.spells_arrText (Json.isBlanks_newLine 2) (Json.isBlanks_newLine 1)
    (.cons (spells_ownText hendpoint hartifact hversion) .nil) (List.cons_ne_nil _ _)
  have htags := Json.spells_arrText Json.isBlanks_nil Json.isBlanks_nil
    (.cons (Json.spells_str "decision-service") (.cons (Json.spells_str "domain")
      (.cons (Json.spells_inQuotes (Json.flatMap_escape_of_isPlain hartifact)) .nil)))
    (List.cons_ne_nil _ _)
  have htime : Json.Spells (Json.print .compact 0 timeSpan) timeSpan := by
    refine Json.spells_print .compact 0 timeSpan ⟨?_, trivial, trivial, trivial⟩ rfl
    simp only [Json.LocallyNormal, Json.Members.keys, List.map]
    decide
  have htitle : Json.Spells (inQuotes (domainTitle endpoint)) (.str (domainTitle endpoint)) := by
    refine Json.spells_inQuotes ?_
    rw [domainTitle, List.flatMap_append, Json.flatMap_escape_of_isPlain hendpoint]
    rfl
  have huid' := Json.spells_inQuotes (Json.flatMap_escape_of_isPlain huid)
  refine Json.spells_objText 0 (.cons ⟨rfl, hannotations⟩ (.cons ⟨rfl, Json.spells_bool true⟩
    (.cons ⟨rfl, Json.spells_int (n := 0) (by decide)⟩ (.cons ⟨rfl, Json.spells_int hid⟩
    (.cons ⟨rfl, Json.spells_arr_nil⟩ (.cons ⟨rfl, hpanels⟩ (.cons ⟨rfl, Json.spells_str "10s"⟩
    (.cons ⟨rfl, Json.spells_int (n := 38) (by decide)⟩ (.cons ⟨rfl, htags⟩ (.cons ⟨rfl, htime⟩
    (.cons ⟨rfl, Json.spells_str "browser"⟩ (.cons ⟨rfl, htitle⟩ (.cons ⟨rfl, huid'⟩
    (.cons ⟨rfl, Json.spells_int (n := 1) (by decide)⟩ .nil)))))))))))))) (List.cons_ne_nil _ _) ?_
  simp only [Json.Members.keys, domainMembers, List.map]
  decide

theorem depth_domainMembers :
    (Json.obj (domainMembers endpoint artifactId version identity)).depth = 5 := rfl

/-- **The packaged template, customized with plain names.** -/
theorem read_customize_domainTemplate (hendpoint : endpoint.IsPlain) (hartifact : artifactId.IsPlain)
    (hversion : version.IsPlain) (hid : (Json.int identity.id).isPrintable = true)
    (huid : identity.uid.IsPlain) :
    Json.read (customize (markerValue endpoint artifactId version identity) domainTemplate) =
      .ok (.obj (domainMembers endpoint artifactId version identity)) := by
  rw [customize_domainTemplate]
  refine Json.read_of_spells (spells_domainText hendpoint hartifact hversion hid huid) ?_ ?_
  · rw [depth_domainMembers]
    decide
  · intro c hc
    rw [List.mem_singleton.1 hc]
    rfl

end Reading

end Library
end DashboardSynthesis
