import ChatRelay.Decimal.Shortest

/-! Metrics in the Prometheus text exposition format, as the default registry
gathers them and its text encoder writes them. -/
namespace ChatRelay.Metrics

inductive Kind where
  | counter
  | gauge
  | histogram
  deriving DecidableEq, Repr

def Kind.text : Kind → String
  | .counter => "counter"
  | .gauge => "gauge"
  | .histogram => "histogram"

/-- One line of a family: a suffix to the family's name, its labels and its
value. -/
structure Sample where
  suffix : String := ""
  labels : List (String × String) := []
  value : Float

structure Family where
  name : String
  help : String
  kind : Kind
  samples : List Sample

/-- A backslash and a line break are escaped, and in a label value a double
quote too. -/
def escape (quotes : Bool) (s : String) : String :=
  String.join (s.toList.map fun c =>
    if c = '\\' then "\\\\"
    else if c = '\n' then "\\n"
    else if quotes && c = '"' then "\\\""
    else c.toString)

def labelText : List (String × String) → String
  | [] => ""
  | labels => "\x7b" ++ ",".intercalate (labels.map fun (n, v) => n ++ "=\"" ++ escape true v ++ "\"") ++ "\x7d"

def Sample.render (name : String) (s : Sample) : String :=
  name ++ s.suffix ++ labelText s.labels ++ " " ++ Decimal.plainText s.value ++ "\n"

def Family.render (f : Family) : String :=
  (if f.help.isEmpty then "" else "# HELP " ++ f.name ++ " " ++ escape false f.help ++ "\n") ++
    "# TYPE " ++ f.name ++ " " ++ f.kind.text ++ "\n" ++ String.join (f.samples.map (Sample.render f.name))

/-- The registered families with a sample, by name. -/
def gather (families : List Family) : List Family :=
  (families.filter fun f => !f.samples.isEmpty).mergeSort fun a b => decide (a.name ≤ b.name)

def encode (families : List Family) : String := String.join ((gather families).map Family.render)

def counter (name help : String) (value : Nat) : Family :=
  ⟨name, help, .counter, [{ value := Float.ofNat value }]⟩

def gauge (name help : String) (value : Nat) : Family :=
  ⟨name, help, .gauge, [{ value := Float.ofNat value }]⟩

/-- A counter with one label: one sample for each value of the label that has
been used, in the order of those values. -/
def counterVec (name help label : String) (children : List (String × Nat)) : Family :=
  ⟨name, help, .counter, (children.mergeSort fun a b => decide (a.1 ≤ b.1)).map fun (v, n) =>
    { labels := [(label, v)], value := Float.ofNat n }⟩

/-- A histogram of the values observed over increasing bounds: how many fell
at or below each bound, all of them against `+Inf`, their sum in the order
observed, and their number. -/
def histogram (name help : String) (bounds observed : List Float) : Family :=
  let bucket (bound : String) (n : Nat) : Sample :=
    { suffix := "_bucket", labels := [("le", bound)], value := Float.ofNat n }
  ⟨name, help, .histogram,
    bounds.map (fun b => bucket (Decimal.plainText b) (observed.countP fun x => decide (x ≤ b))) ++
    [bucket "+Inf" observed.length, { suffix := "_sum", value := observed.foldl (· + ·) 0 },
      { suffix := "_count", value := Float.ofNat observed.length }]⟩

end ChatRelay.Metrics
