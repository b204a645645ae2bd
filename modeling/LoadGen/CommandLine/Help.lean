import LoadGen.CommandLine.Setting

namespace LoadGen.CommandLine

/-!
# Help and version

The texts that a command line can ask for.

* `helpText` — what the command can do;
* `versionText` — which command it is.
-/

/-- The name of the command. -/
def commandName : String := "eb"

/-- The name and version of the command. -/
def versionText : String := s!"{commandName} 0.1.0\n"

/-- What a setting is for. -/
def about? : Setting → Option String
  | .host => some "Target host. Interpretation depends on the engine"
  | .engine => some "Engine driving the target"
  | .rate => some "Aggregate operations per second across all threads"
  | .duration => some "Run length, in seconds or as a humantime string such as `30s` or `2m`"
  | .concurrency => some "Connections per thread"
  | .method => some "Operation method, e.g. an HTTP verb"
  | .complexity => some "Request complexity, e.g. the number of generated headers"
  | .dataSize => some "Payload size in bytes"
  | .body => some "Request body. Overrides `--datasize` for engines that send one"
  | .metricsAddress => some "Serve Prometheus metrics on this address while the run is in progress"
  | .threads | .password | .db | .sql | .keepalive | .topic => none

/-- The value that a setting has when it is not made. -/
def default? : Setting → Option String
  | .rate | .duration => some "0"
  | .threads | .concurrency | .complexity | .dataSize => some "1"
  | .keepalive => some "true"
  | .metricsAddress => none
  | .host | .engine | .password | .db | .method | .sql | .topic | .body => some "\"\""

/-- The only values that a setting can have. -/
def choices? : Setting → Option String
  | .keepalive => some "[possible values: true, false]"
  | _ => none

/-- The names of an option, as they are written on a line of their own. -/
def nameColumn (short? : Option Char) (long : String) : String :=
  match short? with
  | some c => s!"  -{c}, {long}"
  | none => s!"      {long}"

/-- The column in which the explanations begin. -/
def explanationColumn : Nat := 37

/-- A line of the list of options. -/
def optionLine (names explanation : String) : String :=
  names ++ String.ofList (List.replicate (explanationColumn - names.length) ' ') ++ explanation ++ "\n"

/-- The line of a setting. -/
def settingLine (s : Setting) : String :=
  let notes := (about? s).toList ++ ((default? s).map fun d => s!"[default: {d}]").toList ++
    (choices? s).toList
  optionLine (nameColumn s.short? s.shown) (" ".intercalate notes)

/-- Examples, one for each engine. -/
def templates : String :=
  "Engine templates:\n" ++
    "  http       eb -e http -H http://127.0.0.1:8080/ping --method GET -r 1000 -t 4 -d 30s\n" ++
    "  https      eb -e https -H https://127.0.0.1:8443/ping --method POST --body '\x7b\x7d' " ++
    "-r 500 -d 1m\n" ++
    "  h2c        eb -e h2c -H http://127.0.0.1:8080/ping -r 1000 -t 2 -c 2 -d 10\n" ++
    "  multicast  eb -e multicast -H 239.0.0.1:9000 --datasize 512 -r 2000 -d 10s\n"

/-- What the command can do. -/
def helpText : String :=
  s!"Protocol-agnostic load generator\n\nUsage: {commandName} [OPTIONS]\n\nOptions:\n" ++
    String.join (Setting.all.map settingLine) ++
    optionLine (nameColumn (some 'h') "--help") "Print help" ++
    optionLine (nameColumn (some 'V') "--version") "Print version" ++ "\n" ++ templates

end LoadGen.CommandLine
