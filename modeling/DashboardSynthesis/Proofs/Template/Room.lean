import DashboardSynthesis.Proofs.Json.Reading
import DashboardSynthesis.Proofs.PromQL.Weight
import DashboardSynthesis.Proofs.Template.Domain

/-!
# The room in the packaged template

The names are inserted into the template as they are, and a string is read from a stretch of a single
line.  There is only one line that is long enough for a query with the metric, the labels and the names
that are meant, and in it there is just enough room for them between the quotes.  A name with a quote, a
backslash or a control character needs more, since these have to be escaped.  So if such a query is read
from the customized template at all, then the names are plain (`isPlain_of_readFrom`), wherever in the
text it was read from and whatever else the names brought along.
-/

namespace DashboardSynthesis

open Json (IsBody Encodes inQuotes arrText quote)

/-! ## Stretches between quotes -/

/-- A stretch from quote to quote starts behind the first quote of a text. -/
theorem prefix_or_infix_of_inQuotes {raw a b : Text} (ha : .scalar '"' ∉ a)
    (h : inQuotes raw <:+: a ++ .scalar '"' :: b) :
    raw ++ [.scalar '"'] <+: b ∨ inQuotes raw <:+: b := by
  induction a with
  | nil =>
    rcases List.infix_cons_iff.1 h with h | h
    · exact .inl (List.cons_prefix_cons.1 h).2
    · exact .inr h
  | cons c a ih =>
    rw [List.mem_cons, not_or] at ha
    rcases List.infix_cons_iff.1 h with h | h
    · exact absurd (List.cons_prefix_cons.1 h).1 ha.1
    · exact ih ha.2 h

/-- Without a backslash, a string ends at the first quote. -/
theorem eq_of_endsAtQuote {raw a b : Text} (hraw : IsBody raw) (hquote : .scalar '"' ∉ a)
    (hslash : .scalar '\\' ∉ a) (h : raw ++ [.scalar '"'] <+: a ++ .scalar '"' :: b) : raw = a := by
  obtain ⟨rest, h⟩ := h
  rw [List.append_assoc] at h
  rcases List.append_eq_append_iff.1 h with ⟨c, rfl, hc⟩ | ⟨c, rfl, hc⟩
  · cases c with
    | nil => rw [List.append_nil]
    | cons d c =>
      have hd : .scalar '"' = d := (List.cons.inj hc).1
      exact absurd (List.mem_append_right _ (hd ▸ List.mem_cons_self)) hquote
  · cases c with
    | nil => rw [List.append_nil]
    | cons d c =>
      have hd : .scalar '"' = d := (List.cons.inj hc).1
      have hlast := hraw.quotes a c (by rw [hd])
      exact absurd (List.mem_of_getLast? hlast) hslash

/-- A string of which something is escaped holds a backslash. -/
theorem Json.Encodes.backslash_mem {raw s : Text} (h : Encodes raw s) (hs : .scalar '"' ∈ s) :
    .scalar '\\' ∈ raw := by
  by_contra hslash
  rw [h.eq_of_plain hslash] at hs
  obtain ⟨p, q, hsplit⟩ := List.append_of_mem hs
  have hlast := h.isBody.quotes p q hsplit
  rw [hsplit] at hslash
  exact hslash (List.mem_append_left _ (List.mem_of_getLast? hlast))

namespace Library

/-! ## The lines with markers -/

/-- A line of the template: what stands in front of the value, the value, and the comma. -/
def lineText (before value : Text) : Text := before ++ (value ++ [.scalar ','])

theorem customize_lineText {value : Marker → Text} {before t t' : Text} (hbefore : .scalar '$' ∉ before)
    (h : Becomes value t t') : customize value (lineText before t) = lineText before t' :=
  (Becomes.append (.refl hbefore) (h.append (.refl (by decide)))).customize_eq

/-- The lines of the template: most have neither markers nor backslashes. -/
theorem domainLines_cases : ∀ line ∈ domainLines,
    (.scalar '$' ∉ Text.ofString line ∧ .scalar '\\' ∉ Text.ofString line) ∨
    Text.ofString line = lineText "  \"id\": " Marker.id.text ∨
    Text.ofString line = lineText "  \"uid\": " (inQuotes Marker.uid.text) ∨
    Text.ofString line = lineText "      \"title\": " (inQuotes (ownTitle Marker.handlerName.text)) ∨
    Text.ofString line = lineText "  \"tags\": " (tagsText Marker.artifactId.text) ∨
    Text.ofString line = lineText "  \"title\": " (inQuotes (domainTitle Marker.handlerName.text)) ∨
    Text.ofString line = lineText "          \"expr\": " (inQuotes (ownQueryRaw
      Marker.handlerName.text Marker.artifactId.text Marker.version.text)) := by
  decide +kernel

theorem backslash_not_mem_ofInt (n : ℤ) : CodePoint.scalar '\\' ∉ Text.ofInt n :=
  Text.notMem_ofInt rfl (by decide) n

theorem backslash_not_mem_of_isPlain {t : Text} (h : t.IsPlain) : CodePoint.scalar '\\' ∉ t :=
  fun hmem => h _ hmem (by decide)

theorem backslash_not_mem_lineText {before t : Text} (hbefore : .scalar '\\' ∉ before)
    (ht : .scalar '\\' ∉ t) : CodePoint.scalar '\\' ∉ lineText before t := by
  simp [lineText, hbefore, ht]

theorem length_lineText_inQuotes (before raw : Text) :
    (lineText before (inQuotes raw)).length = before.length + raw.length + 3 := by
  simp only [lineText, inQuotes, List.length_append, List.length_cons, List.length_nil]
  omega

section Names

variable {endpoint artifactId version : Text} {identity : Identity}

/-- A customized line has no backslash, or there is room for little more than a name in it, or it is the
line of the query. -/
theorem customizedLine_cases (huid : identity.uid.IsPlain) {line : String} (hline : line ∈ domainLines)
    {t : Text} (ht : customize (markerValue endpoint artifactId version identity) line = t) :
    .scalar '\\' ∉ t ∨ t.length ≤ 50 + endpoint.length ∨ t.length ≤ 50 + artifactId.length ∨
      t = lineText "          \"expr\": " (inQuotes (ownQueryRaw endpoint artifactId version)) := by
  set value := markerValue endpoint artifactId version identity with hvalue
  subst ht
  rcases domainLines_cases line hline with ⟨hdollar, hslash⟩ | h | h | h | h | h | h
  · rw [customize_of_not_mem value hdollar]
    exact .inl hslash
  · rw [h, customize_lineText (by decide) (.marker .id)]
    exact .inl (backslash_not_mem_lineText (by decide) (backslash_not_mem_ofInt _))
  · rw [h, customize_lineText (by decide) (Json.becomes_inQuotes (.marker .uid))]
    refine .inl (backslash_not_mem_lineText (by decide) ?_)
    have hraw : .scalar '\\' ∉ value .uid := backslash_not_mem_of_isPlain huid
    simpa [inQuotes] using hraw
  · rw [h, customize_lineText (by decide) (Json.becomes_inQuotes (becomes_ownTitle value)),
      length_lineText_inQuotes]
    have hbefore : ("      \"title\": " : Text).length = 15 := by decide
    have htitle : (ownTitle endpoint).length = 31 + endpoint.length := by
      rw [ownTitle, List.length_append]
      rfl
    refine .inr (.inl ?_)
    show _ + (ownTitle endpoint).length + 3 ≤ _
    omega
  · rw [h, customize_lineText (by decide) (becomes_tagsText value)]
    have hbefore : ("  \"tags\": " : Text).length = 10 := by decide
    have hservice : (quote "decision-service").length = 18 := by decide
    have hdomain : (quote "domain").length = 8 := by decide
    refine .inr (.inr (.inl ?_))
    show (lineText _ (tagsText artifactId)).length ≤ _
    simp only [lineText, tagsText, arrText, Json.itemsText, inQuotes, List.length_append,
      List.length_cons, List.length_nil, hbefore, hservice, hdomain]
    omega
  · rw [h, customize_lineText (by decide) (Json.becomes_inQuotes (becomes_domainTitle value)),
      length_lineText_inQuotes]
    have hbefore : ("  \"title\": " : Text).length = 11 := by decide
    have htitle : (domainTitle endpoint).length = endpoint.length + 19 := by
      rw [domainTitle, List.length_append]
      rfl
    refine .inr (.inl ?_)
    show _ + (domainTitle endpoint).length + 3 ≤ _
    omega
  · rw [h, customize_lineText (by decide) (Json.becomes_inQuotes (becomes_ownQueryRaw value))]
    exact .inr (.inr (.inr rfl))

/-- The query takes up all the room that there is between its quotes. -/
theorem length_ownQueryRaw : (ownQueryRaw endpoint artifactId version).length =
    90 + endpoint.length + artifactId.length + version.length := by
  have h1 : ("sum(increase(api_http_response_code_total\x7bhandler=\\\"" : Text).length = 52 := by decide
  have h2 : ("\\\",artifactId=\\\"" : Text).length = 16 := by decide
  have h3 : ("\\\",version=\\\"" : Text).length = 13 := by decide
  have h4 : ("\\\"\x7d[1h]))" : Text).length = 9 := by decide
  rw [ownQueryRaw]
  simp only [List.length_append, h1, h2, h3, h4]
  omega

/-- In the line of the query, no string is longer than the query. -/
theorem length_le_of_infix_queryLine {raw query : Text} (hraw : IsBody raw) (hlong : 4 < raw.length)
    (h : inQuotes raw <:+: lineText "          \"expr\": " (inQuotes query)) :
    raw.length ≤ query.length := by
  have hline : lineText "          \"expr\": " (inQuotes query) =
      ("          " : Text) ++ .scalar '"' :: (("expr" : Text) ++ .scalar '"' :: ((": " : Text) ++
        .scalar '"' :: (query ++ [.scalar '"'] ++ [.scalar ',']))) := by
    simp [lineText, inQuotes, Text.ofString]
  rw [hline] at h
  rcases prefix_or_infix_of_inQuotes (by decide) h with h | h
  · rw [eq_of_endsAtQuote hraw (by decide) (by decide) h] at hlong
    exact absurd hlong (by decide)
  rcases prefix_or_infix_of_inQuotes (by decide) h with h | h
  · rw [eq_of_endsAtQuote hraw (by decide) (by decide) h] at hlong
    exact absurd hlong (by decide)
  rcases prefix_or_infix_of_inQuotes (by decide) h with h | h
  · rcases List.prefix_concat_iff.1 h with h | h
    · exact absurd (List.append_inj_right' h rfl) (by decide)
    · simpa using h.length_le
  · simpa [inQuotes] using h.length_le

/-- The weight of a query that selects by the names that are meant. -/
theorem weight_of_ownLabels {selector : Text}
    (h : PromQL.readSelector? selector = some (ownMetric, ownLabels endpoint artifactId version)) :
    CodePoint.scalar '"' ∈ selector ∧
      71 + endpoint.weight + artifactId.weight + version.weight ≤ selector.weight := by
  obtain ⟨hmem, hweight⟩ := PromQL.weight_of_readSelector? (List.cons_ne_nil _ _) h
  have h1 : ownMetric.weight = 28 := by decide
  have h2 : ("handler" : Text).weight = 7 := by decide
  have h3 : ("artifactId" : Text).weight = 10 := by decide
  have h4 : ("version" : Text).weight = 7 := by decide
  simp only [PromQL.labelsWeight, h1, h2, h3, h4] at hweight
  exact ⟨hmem, by omega⟩

/-- **No room for escapes.**  If a query that selects by the names that are meant is read from the
customized template, then the names are plain. -/
theorem isPlain_of_readFrom (huid : identity.uid.IsPlain) {selector : Text}
    (h : Json.ReadFrom (customize (markerValue endpoint artifactId version identity) domainTemplate)
      (.str (("sum(increase(" : Text) ++ selector ++ ("[1h]))" : Text))))
    (hselector : PromQL.readSelector? selector =
      some (ownMetric, ownLabels endpoint artifactId version)) :
    endpoint.IsPlain ∧ artifactId.IsPlain ∧ version.IsPlain := by
  obtain ⟨p, raw, z, htext, hencodes⟩ := h
  obtain ⟨hmem, hweight⟩ := weight_of_ownLabels hselector
  have hbefore : ("sum(increase(" : Text).weight = 13 := by decide
  have hbehind : ("[1h]))" : Text).weight = 6 := by decide
  have hlong := hencodes.weight_le
  rw [Text.weight_append, Text.weight_append, hbefore, hbehind] at hlong
  have hendpoint := Text.length_le_weight endpoint
  have hartifact := Text.length_le_weight artifactId
  have hversion := Text.length_le_weight version
  have hwithin : inQuotes raw <:+:
      customize (markerValue endpoint artifactId version identity) (unlines domainLines) :=
    ⟨p, z, by rw [← domainTemplate, htext]; simp [inQuotes]⟩
  have hline : .scalar '\n' ∉ inQuotes raw := by
    intro hmem
    have hcontrol : CodePoint.scalar '\n' ∈ raw := by simpa [inQuotes] using hmem
    exact absurd (hencodes.isBody.controls _ hcontrol) (by decide)
  obtain ⟨line, hmemLine, hwithin⟩ := exists_line_of_infix _ (List.cons_ne_nil _ _) hline hwithin
  have hle : (inQuotes raw).length ≤ _ := hwithin.length_le
  have hraw : (inQuotes raw).length = raw.length + 2 := by simp [inQuotes]
  rcases customizedLine_cases huid hmemLine rfl with h | h | h | h
  · -- without a backslash there is no quote in the query
    have hslash := hencodes.backslash_mem (List.mem_append_left _ (List.mem_append_right _ hmem))
    exact absurd (hwithin.subset (List.mem_cons_of_mem _ (List.mem_append_left _ hslash))) h
  · omega
  · omega
  · rw [h] at hwithin
    have hroom := length_le_of_infix_queryLine hencodes.isBody (by omega) hwithin
    rw [length_ownQueryRaw] at hroom
    exact ⟨Text.isPlain_of_weight_le (by omega), Text.isPlain_of_weight_le (by omega),
      Text.isPlain_of_weight_le (by omega)⟩

end Names

end Library
end DashboardSynthesis
