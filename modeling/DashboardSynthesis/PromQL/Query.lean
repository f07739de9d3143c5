import DashboardSynthesis.PromQL.Literal
import DashboardSynthesis.Report

/-!
# Queries

A query takes a metric, restricted by label matchers, through a function: the value of a gauge, the
rate of a counter, or a quantile of a histogram.  The values of matchers are written as they are, so
the caller quotes them (`PromQL.quoted`).
-/

namespace DashboardSynthesis
namespace PromQL

/-- A label and the text it is compared with. -/
structure Matcher where
  label : Text
  value : Text
  deriving DecidableEq, Repr

/-- A matcher as text. -/
def Matcher.render (m : Matcher) : Text := m.label ++ (.scalar '=' :: m.value)

/-- A metric with its matchers, in order; without matchers there are no braces. -/
def renderSelector (metric : Text) : List Matcher → Text
  | [] => metric
  | matchers =>
    metric ++ (.scalar '{' :: Text.joinWith "," (matchers.map Matcher.render)) ++ ("\x7d" : Text)

/-- The shapes of queries; `other` is a name that is none of them. -/
inductive FunctionKind where
  | gaugeValue
  | counterRate
  | histogramQuantile
  | other (name : Text)
  deriving DecidableEq, Repr

namespace FunctionKind

/-- The name of a shape. -/
def name : FunctionKind → Text
  | gaugeValue => "gauge_value"
  | counterRate => "counter_rate"
  | histogramQuantile => "histogram_quantile"
  | other name => name

/-- The shape with a name. -/
def ofName (name : Text) : FunctionKind :=
  if name = gaugeValue.name then gaugeValue
  else if name = counterRate.name then counterRate
  else if name = histogramQuantile.name then histogramQuantile
  else other name

end FunctionKind

/-- A shape of query with what it needs: the window over which a rate is taken, the quantile of a
histogram and the label by which a counter is grouped. -/
structure QueryFunction where
  kind : FunctionKind
  window : Text := "1m"
  quantile : Option Binary64 := none
  groupBy : Option Text := none
  deriving DecidableEq, Repr

/-- Why a function cannot be rendered. -/
inductive QueryDefect where
  | noQuantile (metric : Text)
  | unknownKind (name : Text)
  deriving DecidableEq, Repr

/-- The report on a function that cannot be rendered. -/
def QueryDefect.report : QueryDefect → Report
  | noQuantile metric =>
    { kind := .registryInconsistency
      message := "Histogram quantile function defined without a quantile"
      details := [("metric", .str metric)] }
  | unknownKind name =>
    { kind := .registryInconsistency
      message := ("Unknown query function kind: " : Text) ++ Text.literal name }

/-- The rate of the selected series over a window. -/
def renderRate (selector window : Text) : Text :=
  ("rate(" : Text) ++ selector ++ (.scalar '[' :: window) ++ ("])" : Text)

/-- The query of a function over a metric. -/
def QueryFunction.render (f : QueryFunction) (metric : Text) (matchers : List Matcher) :
    Except QueryDefect Text :=
  match f.kind with
  | .gaugeValue => .ok (renderSelector metric matchers)
  | .counterRate =>
    let rate := renderRate (renderSelector (metric ++ ("_total" : Text)) matchers) f.window
    match f.groupBy with
    | none | some [] => .ok (("sum(" : Text) ++ rate ++ (")" : Text))
    | some label => .ok (("sum by (" : Text) ++ label ++ (") (" : Text) ++ rate ++ (")" : Text))
  | .histogramQuantile =>
    match f.quantile with
    | none => .error (.noQuantile metric)
    | some q =>
      let rate := renderRate (renderSelector (metric ++ ("_bucket" : Text)) matchers) f.window
      .ok (("histogram_quantile(" : Text) ++ Shortest.text messageFloatNames q ++
        (", sum by (le) (" : Text) ++ rate ++ ("))" : Text))
  | .other name => .error (.unknownKind name)

end PromQL
end DashboardSynthesis
