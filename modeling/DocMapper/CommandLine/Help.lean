import DocMapper.CommandLine.Arguments
/-!
What the program says about itself when it is asked for help.
-/

namespace DocMapper.CommandLine

def programName : String := "kdm-cli"

def helpOption : String := "  -h, --help             Print help"

namespace Topic

def summary : Topic → String
  | .program => "🦆 Index routing, derived queries and rollover for document types"
  | .routes => "🧭 Where every document type reads from and writes to, right now"
  | .compile => "🔍 Compile a derived-query method name and print the search body it becomes"
  | .rollover => "🔄 Bootstrap every type and keep rollover triggers running until Ctrl-C"
  | .help => "Print this message or the help of the given subcommand(s)"

def usage : Topic → String
  | .program => s!"Usage: {programName} [OPTIONS] <COMMAND>"
  | .routes => s!"Usage: {programName} routes"
  | .compile => s!"Usage: {programName} compile <DOCUMENT_TYPE> <METHOD> [ARGUMENTS]..."
  | .rollover => s!"Usage: {programName} rollover [OPTIONS]"
  | .help => s!"Usage: {programName} help [COMMAND]..."

/-- A command under its name in the list of commands. -/
def entry (name : String) (topic : Topic) : String :=
  "  " ++ name ++ String.ofList (List.replicate (10 - name.length) ' ') ++ topic.summary

def details : Topic → List String
  | .program => [
      "Commands:", entry "routes" .routes, entry "compile" .compile, entry "rollover" .rollover,
      entry "help" .help, "", "Options:",
      "  -c, --config <CONFIG>  📋 Config file. Missing is fine, \x60KDM_*\x60 environment variables " ++
        s!"still apply [default: {defaultConfig}]",
      helpOption]
  | .routes => ["Options:", "  -h, --help  Print help"]
  | .compile => [
      "Arguments:", "  <DOCUMENT_TYPE>  ",
      "  <METHOD>         e.g. \x60findByQuestionIdAndScoreGreaterThanOrderByScoreDesc\x60",
      "  [ARGUMENTS]...   🎯 One argument per placeholder, in method order. Each is read as JSON, and " ++
        "taken as a plain string when it isn't (\x60q-1\x60 works as well as \x60\"q-1\"\x60)",
      "", "Options:", "  -h, --help  Print help"]
  | .rollover => [
      "Options:", "      --once  🔂 Check every rollover type once, print what happened, exit",
      "  -h, --help  Print help"]
  | .help => ["Arguments:", "  [COMMAND]...  Print help for the subcommand(s)"]

def text (topic : Topic) : List String :=
  [topic.summary, "", topic.usage, ""] ++ topic.details

end Topic

end DocMapper.CommandLine
