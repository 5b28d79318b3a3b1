import TextRules.CommandLine
import TextRules.Files
import TextRules.Net.Address
import TextRules.Yaml.Content

/-!
The configuration of a server: where it listens, where its rules come from, who may change them, and how long a
    message may be. A configuration file in YAML names what differs from the defaults, and the command line what
    differs from that.
-/

namespace TextRules

/-- The settings of a server, with their defaults. -/
structure Config where
  listen : String := "0.0.0.0"
  port : Nat := 8080
  /-- The file that fills the rule store. -/
  rulesPath : Option String := none
  /-- The token of those who may change the rules. -/
  adminToken : Option String := none
  /-- The greatest length of a message or request body in bytes. -/
  maxMessageBytes : Nat := 65536
  /-- Whether there is a collector of metrics. -/
  metricsEnabled : Bool := true
  deriving DecidableEq

namespace Config

/-- The record on metrics, which holds whether they are enabled. -/
def metricsEnabled? (doc : Yaml.Document) (node : Yaml.Node) : Option Bool := do
  (← node.fields? doc).get "enabled" (Yaml.Node.flag? doc) true

/-- The configuration that a file holds, with defaults for what it does not name. -/
def parse? (text : String) : Option Config := do
  let doc ← Yaml.Document.parse? text
  let fields ← doc.fields?
  let defaults : Config := {}
  return {
    listen := ← fields.get "listen" (Yaml.Node.text? doc) defaults.listen
    port := ← fields.get "port" (Yaml.Node.natural? (Nat.pow 2 16) doc) defaults.port
    rulesPath := ← fields.get "rules_path" (Yaml.Node.optionalText? doc) defaults.rulesPath
    adminToken := ← fields.get "admin_token" (Yaml.Node.optionalText? doc) defaults.adminToken
    maxMessageBytes := ← fields.get "max_message_bytes" (Yaml.Node.natural? (Nat.pow 2 64) doc) defaults.maxMessageBytes
    metricsEnabled := ← fields.get "metrics" (metricsEnabled? doc) defaults.metricsEnabled }

/-- A configuration with what the command line says. -/
def override (c : Config) (o : ServeOptions) : Config :=
  { c with
    listen := o.listen.getD c.listen
    port := o.port.getD c.port
    rulesPath := o.rules.or c.rulesPath
    adminToken := o.adminToken.or c.adminToken }

/-- The configuration of a file, or the defaults if there is none, with what the command line says. -/
def load (content : FileContent) (o : ServeOptions) : Option Config :=
  (if content.isFound then content.text?.bind parse? else some {}).map (·.override o)

/-- Where the server listens, if the configuration tells. -/
def address? (c : Config) : Option SocketAddress :=
  SocketAddress.parse? (c.listen ++ ":" ++ String.ofList (Text.decimalDigits c.port))

end Config
end TextRules
