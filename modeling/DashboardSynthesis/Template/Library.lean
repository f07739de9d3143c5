import DashboardSynthesis.FileTree.Basic
import DashboardSynthesis.Template.Marker

/-!
# The library of templates

The program brings two templates along, one for operational dashboards and one for domain dashboards.
A template is named by a path: if that leads to a file, the file is the template, and otherwise the
path, without separators at its start, is looked up in the library.  So a file takes precedence over
a template of the library, unless the path starts with a separator and no such file is there.
-/

namespace DashboardSynthesis
namespace Library

/-- The name of the template for operational dashboards. -/
def operationalName : Text := "operational-dashboard-template.json"

/-- The name of the template for domain dashboards. -/
def domainName : Text := "domain-dashboard-template.json"

/-- Lines as text, each with a line feed behind it. -/
def unlines (lines : List String) : Text :=
  lines.flatMap fun line => Text.ofString line ++ [.scalar '\n']

/-- The lines of the template for operational dashboards. -/
def operationalLines : List String :=
  ["\x7b",
   "  \"annotations\": \x7b",
   "    \"list\": [",
   "      \x7b",
   "        \"builtIn\": 1,",
   "        \"datasource\": \"-- Grafana --\",",
   "        \"enable\": true,",
   "        \"hide\": true,",
   "        \"iconColor\": \"rgba(0, 211, 255, 1)\",",
   "        \"name\": \"Annotations & Alerts\",",
   "        \"type\": \"dashboard\"",
   "      \x7d",
   "    ]",
   "  \x7d,",
   "  \"editable\": true,",
   "  \"graphTooltip\": 0,",
   "  \"id\": $id$,",
   "  \"links\": [],",
   "  \"panels\": [",
   "    \x7b",
   "      \"datasource\": \"Prometheus\",",
   "      \"fieldConfig\": \x7b",
   "        \"defaults\": \x7b",
   "          \"custom\": \x7b",
   "            \"axisLabel\": \"requests/s\"",
   "          \x7d,",
   "          \"unit\": \"reqps\"",
   "        \x7d",
   "      \x7d,",
   "      \"gridPos\": \x7b\"h\": 8, \"w\": 12, \"x\": 0, \"y\": 0\x7d,",
   "      \"id\": 1,",
   "      \"targets\": [",
   "        \x7b",
   "          \"expr\": \"sum by (code) (rate(api_http_response_code_total\x7bhandler=\\\"$handlerName$\\\",artifactId=\\\"$gavArtifactId$\\\",version=\\\"$gavVersion$\\\"\x7d[1m]))\",",
   "          \"legendFormat\": \"\x7b\x7bcode\x7d\x7d\",",
   "          \"refId\": \"A\"",
   "        \x7d",
   "      ],",
   "      \"title\": \"Requests by response code - $handlerName$\",",
   "      \"type\": \"timeseries\"",
   "    \x7d,",
   "    \x7b",
   "      \"datasource\": \"Prometheus\",",
   "      \"fieldConfig\": \x7b",
   "        \"defaults\": \x7b",
   "          \"custom\": \x7b",
   "            \"axisLabel\": \"seconds\"",
   "          \x7d,",
   "          \"unit\": \"s\"",
   "        \x7d",
   "      \x7d,",
   "      \"gridPos\": \x7b\"h\": 8, \"w\": 12, \"x\": 12, \"y\": 0\x7d,",
   "      \"id\": 2,",
   "      \"targets\": [",
   "        \x7b",
   "          \"expr\": \"api_execution_elapsed_seconds\x7bhandler=\\\"$handlerName$\\\",artifactId=\\\"$gavArtifactId$\\\",version=\\\"$gavVersion$\\\",quantile=\\\"0.95\\\"\x7d\",",
   "          \"legendFormat\": \"p95\",",
   "          \"refId\": \"A\"",
   "        \x7d,",
   "        \x7b",
   "          \"expr\": \"api_execution_elapsed_seconds\x7bhandler=\\\"$handlerName$\\\",artifactId=\\\"$gavArtifactId$\\\",version=\\\"$gavVersion$\\\",quantile=\\\"0.5\\\"\x7d\",",
   "          \"legendFormat\": \"p50\",",
   "          \"refId\": \"B\"",
   "        \x7d",
   "      ],",
   "      \"title\": \"Execution time - $handlerName$\",",
   "      \"type\": \"timeseries\"",
   "    \x7d,",
   "    \x7b",
   "      \"datasource\": \"Prometheus\",",
   "      \"gridPos\": \x7b\"h\": 8, \"w\": 12, \"x\": 0, \"y\": 8\x7d,",
   "      \"id\": 3,",
   "      \"targets\": [",
   "        \x7b",
   "          \"expr\": \"sum(increase(api_http_stacktrace_exceptions_total\x7bhandler=\\\"$handlerName$\\\",artifactId=\\\"$gavArtifactId$\\\",version=\\\"$gavVersion$\\\"\x7d[5m]))\",",
   "          \"legendFormat\": \"exceptions\",",
   "          \"refId\": \"A\"",
   "        \x7d",
   "      ],",
   "      \"title\": \"Exceptions - $handlerName$\",",
   "      \"type\": \"stat\"",
   "    \x7d",
   "  ],",
   "  \"refresh\": \"10s\",",
   "  \"schemaVersion\": 38,",
   "  \"tags\": [\"decision-service\", \"$gavArtifactId$\"],",
   "  \"time\": \x7b\"from\": \"now-1h\", \"to\": \"now\"\x7d,",
   "  \"timezone\": \"browser\",",
   "  \"title\": \"$handlerName$ - Operational Dashboard\",",
   "  \"uid\": \"$uid$\",",
   "  \"version\": 1",
   "\x7d"]

/-- The lines of the template for domain dashboards. -/
def domainLines : List String :=
  ["\x7b",
   "  \"annotations\": \x7b",
   "    \"list\": [",
   "      \x7b",
   "        \"builtIn\": 1,",
   "        \"datasource\": \"-- Grafana --\",",
   "        \"enable\": true,",
   "        \"hide\": true,",
   "        \"iconColor\": \"rgba(0, 211, 255, 1)\",",
   "        \"name\": \"Annotations & Alerts\",",
   "        \"type\": \"dashboard\"",
   "      \x7d",
   "    ]",
   "  \x7d,",
   "  \"editable\": true,",
   "  \"graphTooltip\": 0,",
   "  \"id\": $id$,",
   "  \"links\": [],",
   "  \"panels\": [",
   "    \x7b",
   "      \"datasource\": \"Prometheus\",",
   "      \"gridPos\": \x7b\"h\": 4, \"w\": 24, \"x\": 0, \"y\": 0\x7d,",
   "      \"id\": 1,",
   "      \"targets\": [",
   "        \x7b",
   "          \"expr\": \"sum(increase(api_http_response_code_total\x7bhandler=\\\"$handlerName$\\\",artifactId=\\\"$gavArtifactId$\\\",version=\\\"$gavVersion$\\\"\x7d[1h]))\",",
   "          \"legendFormat\": \"evaluations\",",
   "          \"refId\": \"A\"",
   "        \x7d",
   "      ],",
   "      \"title\": \"Evaluations in the last hour - $handlerName$\",",
   "      \"type\": \"stat\"",
   "    \x7d",
   "  ],",
   "  \"refresh\": \"10s\",",
   "  \"schemaVersion\": 38,",
   "  \"tags\": [\"decision-service\", \"domain\", \"$gavArtifactId$\"],",
   "  \"time\": \x7b\"from\": \"now-1h\", \"to\": \"now\"\x7d,",
   "  \"timezone\": \"browser\",",
   "  \"title\": \"$handlerName$ - Domain Dashboard\",",
   "  \"uid\": \"$uid$\",",
   "  \"version\": 1",
   "\x7d"]

/-- The template for operational dashboards. -/
def operationalTemplate : Text := unlines operationalLines

/-- The template for domain dashboards. -/
def domainTemplate : Text := unlines domainLines

/-- The directory of the library, in a tree of its own. -/
def home : Location := ["templates"]

/-- The library as a tree of files. -/
def tree : FileTree :=
  (FileTree.empty.place (home ++ [operationalName]) (operationalTemplate.encode?.getD default)).place
    (home ++ [domainName]) (domainTemplate.encode?.getD default)

end Library

/-- Why there is no template under a path. -/
inductive TemplateFault where
  /-- Neither a file nor a template of the library. -/
  | notFound (path : Text)
  /-- A name in the path is too long to look it up. -/
  | nameTooLong (path : Text)
  /-- The file is not in UTF-8. -/
  | undecodable
  deriving DecidableEq, Repr

/-- The path without separators at its start. -/
def dropSeparators (path : Text) : Text := path.dropWhile (· = .scalar '/')

/-- The bytes of the template under a path, as seen from the directory `home`. -/
def templateBytes (files : FileTree) (home : Location) (path : Text) :
    Except TemplateFault ByteArray :=
  match files.probe home (.ofText path) with
  | .error _ => .error (.nameTooLong path)
  | .ok (some (.file contents)) => .ok contents
  | .ok _ =>
    match Library.tree.probe Library.home (.ofText (dropSeparators path)) with
    | .error _ => .error (.nameTooLong path)
    | .ok (some (.file contents)) => .ok contents
    | .ok _ => .error (.notFound path)

/-- The text of the template under a path, as seen from the directory `home`. -/
def loadTemplate (files : FileTree) (home : Location) (path : Text) : Except TemplateFault Text :=
  match templateBytes files home path with
  | .error fault => .error fault
  | .ok contents =>
    match Text.ofFile? contents with
    | some text => .ok text
    | none => .error .undecodable

end DashboardSynthesis
