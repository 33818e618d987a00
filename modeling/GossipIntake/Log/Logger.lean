import GossipIntake.Json.Render
import GossipIntake.Log.Filter
import GossipIntake.Metrics.Registry
import GossipIntake.Settings.Telemetry
import GossipIntake.Text.Quoted

namespace GossipIntake

inductive LineForm where
  | text
  | json
deriving DecidableEq, Repr

inductive Line where
  | text (line : String)
  | json (line : Json)

namespace Level

def colour : Level → String
  | .error => "31"
  | .warn => "33"
  | .info => "32"
  | .debug => "34"
  | .trace => "35"

def column (level : Level) : String :=
  String.ofList (List.replicate (5 - level.name.length) ' ') ++ level.name

end Level

namespace Notice

def styled (style text : String) : String := "\x1b[" ++ style ++ "m" ++ text ++ "\x1b[0m"

def valueText : FieldValue → String
  | .label text => Text.quoted text
  | value => value.text

def fieldText (field : String × FieldValue) : String :=
  " " ++ styled "3" field.1 ++ styled "2" "=" ++ valueText field.2

def textLine (notice : Notice) : String :=
  styled notice.level.colour notice.level.column ++ " " ++ styled "2" notice.target ++
    styled "2" ":" ++ " " ++ notice.message ++ String.join (notice.fields.map fieldText)

def valueJson : FieldValue → Json
  | .label text => .ofText text
  | .display text => .ofText text
  | .number n => .ofNat n
  | .flag value => .bool value

/-- The line without its time stamp, thread and place in the source. -/
def jsonLine (notice : Notice) : Json :=
  .ofMembers
    [("level", .ofText notice.level.name),
     ("fields", .ofMembers
       (("message", .ofText notice.message) ::
         notice.fields.map fun field => (field.1, valueJson field.2))),
     ("target", .ofText notice.target)]

end Notice

structure Logger where
  filter : Filter
  form : Option LineForm
deriving DecidableEq, Repr

namespace Logger

def chooseFilter (env : Environment) (settings : TelemetrySettings) : Except FilterError Filter :=
  match (env.text? "RUST_LOG").map Filter.parse with
  | some (.ok filter) => .ok filter
  | _ => Filter.parse settings.logLevel

def formOf (settings : TelemetrySettings) : Option LineForm :=
  if settings.consoleOutput then some (if settings.jsonLogs then .json else .text) else none

def setUp (current : Option Logger) (env : Environment) (settings : TelemetrySettings) :
    Except TelemetryError Logger :=
  match chooseFilter env settings, current with
  | .error error, _ => .error (.logging error.message)
  | .ok _, some _ => .error (.logging "a global default trace dispatcher has already been set")
  | .ok filter, none => .ok { filter, form := formOf settings }

def startNotice (settings : TelemetrySettings) : Notice :=
  .loggingStarted settings.fullServiceName settings.jsonLogs

def line? (logger : Logger) (notice : Notice) : Option Line :=
  if logger.filter.passes notice then
    logger.form.map fun
      | .text => .text notice.textLine
      | .json => .json notice.jsonLine
  else none

def lines (logger : Logger) (notices : List Notice) : List Line := notices.filterMap logger.line?

end Logger

end GossipIntake
