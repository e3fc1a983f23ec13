import ImageVault.Metrics
import ImageVault.Number.Decimal
import ImageVault.Number.Shortest

/-!
# Showing the metrics

Every sample is a line: the name, labels in the order of the alphabet, and the value. The
lines are listed in the order of their characters. Series without labels are always shown.
-/
namespace ImageVault.Exposition

/-- Drops zeros and points from the end. -/
def trimMantissa (digits : List Char) : List Char :=
  (digits.reverse.dropWhile fun c => c = '0' || c = '.').reverse

/-- Positive values with seven or more digits in front of the point have an exponent. -/
def valueText (value : Float) : List Char :=
  let text := Number.floatText value
  let (whole, rest) := text.span (· ≠ '.')
  if 0 < value && 6 < whole.length && !rest.isEmpty then
    trimMantissa (whole.take 1 ++ '.' :: whole.drop 1 ++ rest.drop 1)
      ++ "e+0".toList ++ Number.natText (whole.length - 1)
  else text

def countText (count : Nat) : List Char :=
  valueText (Number.floatOfInt count)

def escapeLabel (value : List Char) : List Char :=
  value.flatMap fun c =>
    if c = '\\' then ['\\', '\\']
    else if c = '\n' then ['\\', 'n']
    else if c = '"' then ['\\', '"']
    else [c]

def label (name : String) (value : List Char) : List Char :=
  name.toList ++ '=' :: '"' :: escapeLabel value ++ ['"']

def commaSeparated : List (List Char) → List Char
  | [] => []
  | [label] => label
  | label :: rest => label ++ ',' :: commaSeparated rest

def sample (name : String) (labels : List (List Char)) (value : List Char) : String :=
  let braced := if labels.isEmpty then [] else '\x7b' :: commaSeparated labels ++ ['\x7d']
  String.ofList (name.toList ++ braced ++ ' ' :: value)

/-- The lines of a histogram, given how to write its values. -/
def histogramLines {α : Type} (name : String) (labels : List (List Char))
    (text : α → List Char) (histogram : Histogram α) : List String :=
  let bucket (bound : List Char) (count : Nat) :=
    sample (name ++ "_bucket") (label "le" bound :: labels) (countText count)
  histogram.cumulative.map (fun (bound, count) => bucket (text bound) count)
    ++ [bucket "+Inf".toList histogram.count,
      sample (name ++ "_count") labels (countText histogram.count),
      sample (name ++ "_sum") labels (text histogram.sum)]

def routeLabels (route : Route) : List (List Char) :=
  [label "method" route.method.toList, label "path" route.path.toList]

def requestLine (request : Answered) (count : Nat) : String :=
  sample "http_requests_total"
    (routeLabels request.route ++ [label "status" (Number.natText request.status)])
    (countText count)

def ErrorClass.text : ErrorClass → List Char
  | .statusClass hundreds => Number.natText hundreds ++ ['x', 'x']
  | .exception => "exception".toList

def tallyLines (name labelName : String) (tally : Tally String) : List String :=
  tally.entries.map fun (value, count) =>
    sample name [label labelName value.toList] (countText count)

/-- The lines before they are put in order. -/
def samples (metrics : Metrics) : List String :=
  (metrics.requests.entries.map fun (request, count) => requestLine request count)
    ++ (metrics.durations.flatMap fun (route, histogram) =>
      histogramLines "http_request_duration_seconds" (routeLabels route) valueText histogram)
    ++ (metrics.errors.entries.map fun (errorClass, count) =>
      sample "errors_total" [label "error_type" (ErrorClass.text errorClass)] (countText count))
    ++ tallyLines "images_uploaded_total" "mime" metrics.uploads
    ++ tallyLines "image_upload_failures_total" "reason" metrics.failures
    ++ histogramLines "image_upload_size_bytes" [] countText metrics.sizes
    ++ [sample "images_downloaded_total" [] (countText metrics.downloads)]

def lines (metrics : Metrics) : List String :=
  (samples metrics).mergeSort fun a b => a ≤ b

end ImageVault.Exposition
