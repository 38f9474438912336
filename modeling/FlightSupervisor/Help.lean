import FlightSupervisor.CommandLine
/-!
Texts on the program itself: its version and its help pages.
-/

set_option autoImplicit false

namespace FlightSupervisor

def programName : String := "filo"

def programVersion : String := "0.4.2"

def HelpTopic.summary : HelpTopic → String
  | .overview => "FILO - drone macro runner and manual control bridge"
  | .doctor => "Sanity-check the config file"
  | .check => "Parse and validate a macro program offline"
  | .run => "Open the FC link and serve operator requests (JSON lines on stdin)"
  | .help => "Print this message or the help of the given subcommand(s)"

def HelpTopic.usage : HelpTopic → String
  | .overview => s!"{programName} --config <CONFIG> <COMMAND>"
  | .doctor => s!"{programName} --config <CONFIG> doctor"
  | .check => s!"{programName} --config <CONFIG> check [OPTIONS] <FILE>"
  | .run => s!"{programName} --config <CONFIG> run"
  | .help => s!"{programName} help [COMMAND]"

def HelpTopic.lists : HelpTopic → List (String × List (String × String))
  | .overview =>
      [("Commands",
        [("doctor", HelpTopic.doctor.summary), ("check", HelpTopic.check.summary),
         ("run", HelpTopic.run.summary), ("help", HelpTopic.help.summary)]),
       ("Options",
        [("    --config <CONFIG>", ""), ("-h, --help", "Print help"),
         ("-V, --version", "Print version")])]
  | .check =>
      [("Arguments", [("<FILE>", "")]),
       ("Options",
        [("    --battery <BATTERY>", "Battery level to validate against, percent [default: 100]"),
         ("-h, --help", "Print help")])]
  | .help => []
  | _ => [("Options", [("-h, --help", "Print help")])]

def helpList (items : List (String × String)) : String :=
  let width := (items.map fun (name, _) => name.length).foldl max 0
  let padding (name : String) := String.ofList (List.replicate (width - name.length) ' ')
  String.join (items.map fun (name, note) => s!"  {name}{padding name}  {note}\n")

def HelpTopic.page (topic : HelpTopic) : String :=
  let lists := topic.lists.map fun (heading, items) => s!"\n{heading}:\n" ++ helpList items
  s!"{topic.summary}\n\nUsage: {topic.usage}\n" ++ String.join lists

def versionLine : String := s!"{programName} {programVersion}\n"

end FlightSupervisor
