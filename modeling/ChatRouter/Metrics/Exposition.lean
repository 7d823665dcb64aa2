import ChatRouter.Metrics.Series

set_option autoImplicit false

namespace ChatRouter.Exposition

def bounds : List String :=
  ["0.0001", "0.0005", "0.001", "0.005", "0.01", "0.025", "0.05", "0.1", "0.25", "0.5", "1", "5", "+Inf"]

def isNameStart (c : Char) : Bool := c.isAlpha || c == '_'

def isNamePart (c : Char) : Bool := isNameStart c || c.isDigit

def labelName (name : String) : String :=
  match name.toList with
  | [] => ""
  | c :: rest =>
    String.ofList ((if isNameStart c then c else '_') :: rest.map fun c => if isNamePart c then c else '_')

/-- A value within its quotes. A backslash before a quote or another backslash is one that already
escapes. `held` is whether a backslash is still to be written. -/
def escaped (held : Bool) : List Char → List Char
  | [] => if held then ['\\', '\\'] else []
  | '\n' :: rest => '\\' :: 'n' :: escaped held rest
  | '"' :: rest => '\\' :: '"' :: escaped false rest
  | '\\' :: rest => if held then '\\' :: '\\' :: escaped false rest else escaped true rest
  | c :: rest => if held then '\\' :: '\\' :: c :: escaped false rest else c :: escaped false rest

def label (name value : String) : String :=
  labelName name ++ "=\"" ++ String.ofList (escaped false value.toList) ++ "\""

/-- The labels of a series after the shared ones; a label of the same name takes the shared one's
place. -/
def merge (shared : List (String × String)) : List (String × String) → List (String × String)
  | [] => shared
  | (name, value) :: rest =>
    if shared.any (·.1 == name) then
      merge (shared.map fun l => if l.1 = name then (name, value) else l) rest
    else merge (shared ++ [(name, value)]) rest

def sample (name : String) (labels : List String) (value : String) : String :=
  if labels.isEmpty then name ++ " " ++ value
  else name ++ "\x7b" ++ ",".intercalate labels ++ "\x7d " ++ value

def kindName : MetricKind → String
  | .counter => "counter"
  | .gauge => "gauge"
  | .histogram => "histogram"

def heading (m : Metric) : String := s!"# TYPE {m.name} {kindName m.kind}"

def samples (shared : List (String × String)) (s : Series) (n : Nat) : List String :=
  let labels := (merge shared (s.metric.labels.zip s.values)).map fun (name, value) => label name value
  match s.metric.kind with
  | .counter | .gauge => [sample s.metric.name labels (toString n)]
  | .histogram =>
    bounds.map (fun bound => sample (s.metric.name ++ "_bucket") (labels ++ [label "le" bound]) (toString n)) ++
      [sample (s.metric.name ++ "_sum") labels "0", sample (s.metric.name ++ "_count") labels (toString n)]

/-- The lines of series in order, with a heading where a metric begins and a blank line where it ends. -/
def lines (shared : List (String × String)) (last : Option Metric) : List (Series × Nat) → List String
  | [] => if last.isSome then [""] else []
  | (s, n) :: rest =>
    let begun := if last = some s.metric then []
      else (if last.isSome then [""] else []) ++ [heading s.metric]
    begun ++ samples shared s n ++ lines shared (some s.metric) rest

def render (shared : SortedMap String String) (t : Tally) : String :=
  String.join ((lines shared.entries none t.entries).map (· ++ "\n"))

end ChatRouter.Exposition
