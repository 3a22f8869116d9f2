import UserAccounts.Metrics.Registry

/-!
# The exposition of metrics

The text in which measurements are handed to a monitoring system: line by line, the families sorted
by name and the samples of a family by their label values. Families without samples are left out.
-/

namespace UserAccounts

namespace Exposition

/-- A label value between its quotes: backslash, quote and line feed are escaped. -/
def escapedValue (s : String) : String :=
  String.ofList <| s.toList.flatMap fun c =>
    if c == '\\' then ['\\', '\\']
    else if c == '"' then ['\\', '"']
    else if c == '\n' then ['\\', 'n']
    else [c]

/-- A help text: backslash and line feed are escaped. -/
def escapedHelp (s : String) : String :=
  String.ofList <| s.toList.flatMap fun c =>
    if c == '\\' then ['\\', '\\']
    else if c == '\n' then ['\\', 'n']
    else [c]

/-- The labels of a sample. -/
def labelText (labels : List (String × String)) : String :=
  if labels.isEmpty then ""
  else
    "\x7b" ++ ",".intercalate (labels.map fun (name, value) =>
      name ++ "=\"" ++ escapedValue value ++ "\"") ++ "\x7d"

/-- A sum of measurements without exponent, and without a point if it is whole. -/
def floatText (f : Float) : String :=
  match Binary64.ofBits? f.toBits with
  | some x => x.render Decimal.plain
  | none => "NaN"

/-- One line of a sample. -/
def sampleLine (name : String) (labels : List (String × String)) (value : String) : String :=
  name ++ labelText labels ++ " " ++ value

/-- Insert a label among labels sorted by name. -/
def insertLabel (label : String × String) : List (String × String) → List (String × String)
  | [] => [label]
  | other :: rest =>
    if label.1 < other.1 then label :: other :: rest else other :: insertLabel label rest

/-- The labels of a sample, constant and variable ones, sorted by name. -/
def sampleLabels (d : MetricName) (values : List String) : List (String × String) :=
  (d.variableLabels.zip values).foldl (fun labels label => insertLabel label labels)
    d.constantLabels

/-- The lines of a histogram. -/
def histogramLines (name : String) (labels : List (String × String)) (h : Histogram) :
    List String :=
  (durationBounds.zip h.buckets).map (fun (bound, n) =>
      sampleLine (name ++ "_bucket") (labels ++ [("le", Text.natural bound)]) (Text.natural n)) ++
    [sampleLine (name ++ "_bucket") (labels ++ [("le", "+Inf")]) (Text.natural h.count),
      sampleLine (name ++ "_sum") labels (floatText h.sum),
      sampleLine (name ++ "_count") labels (Text.natural h.count)]

/-- One sample of a family: its labels and its lines. -/
structure Sample where
  labels : List (String × String)
  lines : List String

/-- The samples of a collector. -/
def collectorSamples (c : Collector) : List Sample :=
  match c.samples with
  | .counters values => values.map fun (key, n) =>
    let labels := sampleLabels c.metric key
    ⟨labels, [sampleLine c.metric.name labels (Text.natural n)]⟩
  | .histograms values => values.map fun (key, h) =>
    let labels := sampleLabels c.metric key
    ⟨labels, histogramLines c.metric.name labels h⟩

/-- The name of a kind of samples. -/
def kindName : Samples → String
  | .counters _ => "counter"
  | .histograms _ => "histogram"

/-- Whether the values of the labels of one sample come before those of another. -/
def valuesBefore : List (String × String) → List (String × String) → Bool
  | (_, a) :: as, (_, b) :: bs => if a == b then valuesBefore as bs else decide (a < b)
  | _, _ => true

/-- The lines of the collectors of one name. -/
def familyLines (collectors : List Collector) : List String :=
  match collectors with
  | [] => []
  | first :: _ =>
    let samples := collectors.flatMap collectorSamples
    if samples.isEmpty then []
    else
      ["# HELP " ++ first.metric.name ++ " " ++ escapedHelp first.metric.help,
        "# TYPE " ++ first.metric.name ++ " " ++ kindName first.samples] ++
      (samples.mergeSort fun a b => valuesBefore a.labels b.labels).flatMap (·.lines)

end Exposition

/-- The names of the registered collectors, each once, in order. -/
def Registry.familyNames (r : Registry) : List String :=
  ((r.collectors.map (·.metric.name)).mergeSort fun a b => decide (a ≤ b)).eraseReps

/-- The lines of the exposition. -/
def Registry.exposition (r : Registry) : List String :=
  r.familyNames.flatMap fun name =>
    Exposition.familyLines (r.collectors.filter fun c => c.metric.name == name)

end UserAccounts
