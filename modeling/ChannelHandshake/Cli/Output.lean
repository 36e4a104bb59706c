import ChannelHandshake.Config.Load
import ChannelHandshake.Registry.Advertisement
import ChannelHandshake.Registry.Handshake

/-!
# What the program prints

Everything is printed in lines. Fields of a line are divided by tabs and written as they are.
-/

namespace ChannelHandshake.Cli

/-- Lines of text, each with its line end. -/
def lines (texts : List String) : String :=
  String.join (texts.map (· ++ "\n"))

/-- Fields of a line. -/
def fields (texts : List String) : String :=
  Text.joined "\t" texts

/-! ## Channels and payloads -/

/-- The lines of the channels `names`, after those in `done`, last first. -/
def channelLinesAfter : List ChannelName → List String → State → List String
  | [], done, _ => done.reverse
  | name :: rest, done, s =>
    let (version, s) := s.supply name
    channelLinesAfter rest (fields [name.text, version.getD absent] :: done) s

/-- The channels of a registry with the versions that they supply now. -/
def channelLines (s : State) : List String :=
  if s.registry.acceptsVanilla then ["vanilla (no channels registered)"]
  else channelLinesAfter s.registry.names [] s

/-- The manifest that the registry sends as `side`. -/
def manifestLine (s : State) (side : Side) : ManifestFormat → String
  | .frame => (s.frame side).1
  | .list => s.manifest.1.encodeList

/-- A gathered payload. -/
def payloadLine (p : LoginPayload) : String :=
  fields [p.channel.text, toString p.data.length ++ " bytes", p.context]

/-- The payloads that were gathered for a direction. -/
def payloadLines (direction : Direction) (payloads : List LoginPayload) : List String :=
  if payloads.isEmpty then ["no login payloads for " ++ direction.text]
  else payloads.map payloadLine

/-! ## Reports -/

/-- The outcome of one channel's test. -/
def verdictLine (v : Verdict) : String :=
  fields [if v.accepted then "ok" else "REJECTED", v.name.text, v.remote.getD "<absent>"]

/-- A channel that the peer lists more than once. -/
def duplicateLine (name : ChannelName) : String :=
  fields ["DUPLICATE", name.text]

/-- The outcome of a validation. -/
def summaryLine (r : Report) : String :=
  if r.isAccepted then "accepted " ++ r.origin.text ++ " channel list"
  else
    "rejected " ++ r.origin.text ++ " channel list: "
      ++ Text.joined ", " (r.rejected.map ChannelName.text)

/-- The lines of a report: the verdicts, the channels listed more than once and the outcome. -/
def reportLines (r : Report) : List String :=
  r.verdicts.map verdictLine ++ r.duplicates.map duplicateLine ++ [summaryLine r]

/-! ## Findings -/

/-- What makes a terminal go back to plain text. -/
def plainStyle : String :=
  "\x1b[0m"

/-- What makes a terminal write bold text in the colour of a severity. -/
def severityStyle : Severity → String
  | .error => "\x1b[1m\x1b[31m"
  | .warning => "\x1b[1m\x1b[33m"
  | .info => "\x1b[1m\x1b[36m"

/-- A finding, with its place if it has one. -/
def diagnosticText (d : Diagnostic) : String :=
  severityStyle d.severity ++ d.severity.text ++ plainStyle ++ " " ++
    (if d.path = "" then "" else "[" ++ d.category.text ++ "] " ++ d.path ++ ": ") ++ d.message

/-- The number of errors and warnings. -/
def countLine (diagnostics : List Diagnostic) : String :=
  let errors := countSeverity .error diagnostics
  let warnings := countSeverity .warning diagnostics
  if errors = 0 ∧ warnings = 0 then "No issues found."
  else toString errors ++ " error(s), " ++ toString warnings ++ " warning(s)"

/-- The lines about a configuration file; remarks are among them only if `verbose`. -/
def inspectionLines (i : Config.Inspection) (verbose : Bool) : List String :=
  let shown := i.diagnostics.filter fun d => verbose || d.severity != .info
  (match i.path with
    | some path => ["Checking " ++ path, ""]
    | none => ["No config file found; checking defaults.", ""]) ++
    shown.map ("  " ++ diagnosticText ·) ++ (if shown.isEmpty then [] else [""]) ++
    [countLine i.diagnostics]

end ChannelHandshake.Cli
