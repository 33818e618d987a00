import GossipIntake.Json.Number
import GossipIntake.Metrics.Tallies

namespace GossipIntake

universe u

/-- The values of all counters. A counter's cell is shared by everyone who holds the counter. -/
structure Cells where
  values : List UInt64 := []
deriving DecidableEq, Repr

namespace Cells

def value (cells : Cells) (cell : Nat) : UInt64 := cells.values.getD cell 0

def add (cells : Cells) (cell : Nat) (amount : UInt64) : Cells :=
  { values := cells.values.modify cell (· + amount) }

def allocate (cells : Cells) : Nat × Cells :=
  (cells.values.length, { values := cells.values ++ [0] })

end Cells

inductive MetricError where
  | emptyHelp
  | invalidName (name : String)
  | alreadyRegistered
deriving DecidableEq, Repr

def MetricError.message : MetricError → String
  | .emptyHelp => "Error: empty help string"
  | .invalidName name => "Error: '" ++ name ++ "' is not a valid metric name"
  | .alreadyRegistered => "Duplicate metrics collector registration attempted"

structure Counter where
  name : String
  help : String
  cell : Nat
deriving DecidableEq, Repr

namespace Counter

def isNameStart (c : Char) : Bool := c.isAlpha || c == '_' || c == ':'

/-- ASCII letters, digits, underscores and colons, with no digit in front. -/
def isName (name : String) : Bool :=
  match name.toList with
  | [] => false
  | first :: rest => isNameStart first && rest.all fun c => isNameStart c || c.isDigit

def new (name help : String) (cells : Cells) : Except MetricError (Counter × Cells) :=
  if help.isEmpty then .error .emptyHelp
  else if isName name then
    .ok ({ name, help, cell := cells.allocate.1 }, cells.allocate.2)
  else .error (.invalidName name)

def escapeHelp (c : Char) : List Char :=
  if c = '\\' then ['\\', '\\'] else if c = '\n' then ['\\', 'n'] else [c]

def exposition (counter : Counter) (value : UInt64) : String :=
  "# HELP " ++ counter.name ++ " " ++ String.ofList (counter.help.toList.flatMap escapeHelp) ++
    "\n# TYPE " ++ counter.name ++ " counter\n" ++ counter.name ++ " " ++ roundedText value ++ "\n"

end Counter

structure Registry where
  counters : List Counter := []
deriving DecidableEq, Repr

namespace Registry

def holds (registry : Registry) (name : String) : Bool :=
  registry.counters.any fun counter => counter.name == name

def register (registry : Registry) (counter : Counter) : Except MetricError Registry :=
  if registry.holds counter.name then .error .alreadyRegistered
  else .ok { counters := registry.counters ++ [counter] }

def offer (registry : Registry) (counter : Counter) : Except MetricError Unit × Registry :=
  match registry.register counter with
  | .ok next => (.ok (), next)
  | .error error => (.error error, registry)

def exposition (registry : Registry) (cells : Cells) : String :=
  let sorted := registry.counters.mergeSort fun a b => !(b.name < a.name)
  String.join (sorted.map fun counter => counter.exposition (cells.value counter.cell))

end Registry

/-- Register one counter after another, up to the first that is refused. Any kind of registry will do
    that says whether it takes a counter, and what it is like afterwards. -/
def registerAll {R : Type u} (register : R → Counter → Except MetricError Unit × R) (registry : R) :
    List Counter → Except MetricError Unit × R
  | [] => (.ok (), registry)
  | counter :: rest =>
    match register registry counter with
    | (.ok (), next) => registerAll register next rest
    | (.error error, next) => (.error error, next)

structure IntakeCounters where
  duplicate : Counter
  nonDuplicate : Counter
  disparateSignature : Counter
  ancient : Counter
deriving DecidableEq, Repr

namespace IntakeCounters

def new (cells : Cells) : Except MetricError (IntakeCounters × Cells) := do
  let (duplicate, cells) ← Counter.new "hg_intake_duplicate_events_total"
    "Events dropped because descriptor and signature were already seen" cells
  let (nonDuplicate, cells) ← Counter.new "hg_intake_non_duplicate_events_total"
    "Events forwarded by the deduplicator" cells
  let (disparateSignature, cells) ← Counter.new "hg_intake_disparate_signature_events_total"
    "Events whose descriptor was known but whose signature was new" cells
  let (ancient, cells) ← Counter.new "hg_intake_ancient_events_total"
    "Events dropped because their generation was ancient" cells
  return ({ duplicate, nonDuplicate, disparateSignature, ancient }, cells)

def counter (counters : IntakeCounters) : Tally → Counter
  | .duplicate => counters.duplicate
  | .nonDuplicate => counters.nonDuplicate
  | .disparateSignature => counters.disparateSignature
  | .ancient => counters.ancient

def all (counters : IntakeCounters) : List Counter :=
  [counters.duplicate, counters.nonDuplicate, counters.disparateSignature, counters.ancient]

/-- New counters, registered one after another. The registry keeps those that it took before it
    refused one. -/
def registerWith {R : Type u} (register : R → Counter → Except MetricError Unit × R) (registry : R)
    (cells : Cells) : Except MetricError IntakeCounters × R × Cells :=
  match new cells with
  | .error error => (.error error, registry, cells)
  | .ok (counters, cells) =>
    let registered := registerAll register registry counters.all
    (registered.1.map fun _ => counters, registered.2, cells)

def register (registry : Registry) (cells : Cells) :
    Except MetricError IntakeCounters × Registry × Cells :=
  registerWith Registry.offer registry cells

def bump (counters : IntakeCounters) (cells : Cells) (tally : Tally) : Cells :=
  cells.add (counters.counter tally).cell 1

end IntakeCounters

def Tallies.exposition (tallies : Tallies) : String :=
  let registered := IntakeCounters.register {} {}
  registered.2.1.exposition
    { values :=
        [tallies.duplicate, tallies.nonDuplicate, tallies.disparateSignature, tallies.ancient] }

inductive TelemetryError where
  | logging (reason : String)
  | metrics (reason : String)
deriving DecidableEq, Repr

def TelemetryError.message : TelemetryError → String
  | .logging reason => "failed to initialize logging: " ++ reason
  | .metrics reason => "prometheus metrics error: " ++ reason

def Registry.registerShared (registry : Registry) (counter : Counter) :
    Except TelemetryError Registry :=
  (registry.register counter).mapError fun error => .metrics error.message

end GossipIntake
