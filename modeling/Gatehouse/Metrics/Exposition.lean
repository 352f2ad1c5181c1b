import Gatehouse.Metrics.Registry

/-!
The text that a monitoring system reads: families in alphabetical order, in each the series in the
order of their label values, and families without a series left out.
-/
namespace Gatehouse.Metrics

inductive FamilyKind where
  | counter
  | gauge
  | histogram
  deriving DecidableEq, Repr

def FamilyKind.label : FamilyKind → String
  | .counter => "counter"
  | .gauge => "gauge"
  | .histogram => "histogram"

/-- One line of a series: what follows the family's name, the labels, and the value. -/
structure Sample where
  suffix : String
  labels : List (String × String)
  value : String
  deriving DecidableEq, Repr

/-- A family of series, each a list of samples. -/
structure Family where
  name : String
  help : String
  kind : FamilyKind
  series : List (List Sample)
  deriving DecidableEq, Repr

/-- Whether the first of two lists of texts comes first, or both are equal. -/
def labelsLe : List String → List String → Bool
  | [], _ => true
  | _ :: _, [] => false
  | a :: as, b :: bs => if a = b then labelsLe as bs else decide (a < b)

/-- The entries of a table in the order of their labels. -/
def Table.sorted {α : Type} (table : Table α) : List (List String × α) :=
  table.entries.mergeSort fun a b => labelsLe a.1 b.1

/-- The series of a counter. -/
def counterSeries (names : List String) (table : Table Nat) : List (List Sample) :=
  table.sorted.map fun (labels, n) => [⟨"", names.zip labels, Numeral.decimal n⟩]

/-- The samples of one histogram: a count for each upper bound and for no bound at all, the sum, and
the count once more. -/
def histogramSamples (labels : List (String × String)) (bounds : List String) (within : List Nat)
    (sum : String) (count : Nat) : List Sample :=
  let bucket (bound : String) (n : Nat) : Sample :=
    ⟨"_bucket", labels ++ [("le", bound)], Numeral.decimal n⟩
  (bounds.zip within).map (fun (bound, n) => bucket bound n) ++
    [bucket "+Inf" count, ⟨"_sum", labels, sum⟩, ⟨"_count", labels, Numeral.decimal count⟩]

/-- The series of sizes. -/
def sizeSeries (names : List String) (table : Table Histogram) : List (List Sample) :=
  table.sorted.map fun (labels, h) =>
    histogramSamples (names.zip labels) (sizeBounds.map Numeral.decimal) h.within
      (Shortest.ofNat h.sum) h.count

/-- The series of durations, all of them zero. -/
def durationSeries (names : List String) (table : Table Nat) : List (List Sample) :=
  table.sorted.map fun (labels, n) =>
    histogramSamples (names.zip labels) durationBounds (durationBounds.map fun _ => n) "0" n

/-- All families in alphabetical order, also those without a series. -/
def allFamilies (m : Metrics) : List Family :=
  let http := ["method", "path", "status"]
  [⟨"auth_rejections_total", "Rejected authentication attempts by reason", .counter,
      counterSeries ["reason"] m.rejections⟩,
    ⟨"http_request_duration_seconds", "Duration of HTTP requests in seconds", .histogram,
      durationSeries http m.durations⟩,
    ⟨"http_request_size_bytes", "Size of HTTP requests in bytes", .histogram,
      sizeSeries ["method", "path"] m.requestSizes⟩,
    ⟨"http_requests_in_flight", "Number of HTTP requests currently being processed", .gauge,
      [[⟨"", [], Numeral.signed m.inFlight⟩]]⟩,
    ⟨"http_requests_total", "Total number of HTTP requests", .counter,
      counterSeries http m.requests⟩,
    ⟨"http_response_size_bytes", "Size of HTTP responses in bytes", .histogram,
      sizeSeries http m.responseSizes⟩,
    ⟨"rate_limit_decisions_total", "Rate limiter decisions by scope and outcome", .counter,
      counterSeries ["outcome", "scope"] m.decisions⟩]

/-- The families that have a series. -/
def families (m : Metrics) : List Family :=
  m.allFamilies.filter (!·.series.isEmpty)

/-- A label value between its quotes. -/
def escapeLabel (value : String) : String :=
  String.join <| value.toList.map fun c =>
    if c = '\\' then "\\\\" else if c = '"' then "\\\"" else if c = '\n' then "\\n" else c.toString

def Sample.line (name : String) (sample : Sample) : String :=
  let labels := sample.labels.map fun (label, value) =>
    label ++ "=\"" ++ escapeLabel value ++ "\""
  name ++ sample.suffix ++
    (if labels.isEmpty then "" else "\x7b" ++ ",".intercalate labels ++ "\x7d") ++
    " " ++ sample.value

def Family.lines (family : Family) : List String :=
  ["# HELP " ++ family.name ++ " " ++ family.help,
    "# TYPE " ++ family.name ++ " " ++ family.kind.label] ++
    family.series.flatten.map (·.line family.name)

/-- The whole text, line by line. -/
def lines (m : Metrics) : List String :=
  m.families.flatMap Family.lines

/-- The whole text; every line has its end. -/
def text (m : Metrics) : String :=
  String.join (m.lines.map (· ++ "\n"))

end Gatehouse.Metrics
