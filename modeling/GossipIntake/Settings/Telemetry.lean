import GossipIntake.Settings.Environment

namespace GossipIntake

structure TelemetrySettings where
  serviceName : String := "hashgraph-node"
  nodeId : String := "0"
  logLevel : String := "info"
  consoleOutput : Bool := true
  jsonLogs : Bool := false
deriving DecidableEq, Repr

namespace TelemetrySettings

def inContainer (env : Environment) : Bool :=
  (env.text? "KUBERNETES_SERVICE_HOST").isSome || (env.text? "DOCKER_CONTAINER").isSome

/-- Equal to the lower-case ASCII `word` but for case. No character outside ASCII has an ASCII letter
    of `true` or `false` as its lower case. -/
def isWord (word text : String) : Bool := text.map Char.toLower == word

def ofEnvironment (env : Environment) : TelemetrySettings where
  serviceName := (env.text? "HG_SERVICE_NAME").getD "hashgraph-node"
  nodeId := (env.text? "HG_NODE_ID").getD "0"
  logLevel := ((env.text? "HG_LOG_LEVEL").or (env.text? "RUST_LOG")).getD "info"
  consoleOutput :=
    match env.text? "HG_CONSOLE_OUTPUT" with
    | some text => !isWord "false" text && text != "0"
    | none => true
  jsonLogs :=
    match env.text? "HG_JSON_LOGS" with
    | some text => isWord "true" text || text == "1"
    | none => inContainer env

def fullServiceName (settings : TelemetrySettings) : String :=
  settings.serviceName ++ "-" ++ settings.nodeId

end TelemetrySettings

end GossipIntake
