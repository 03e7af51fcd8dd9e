/-!
The arguments of a command line. Options of the program come before the command and those of
a command after it; two hyphens end the options, and what follows is taken as it is. A
request for help counts from where it stands: what is wrong before it is complained about,
what is wrong after it is not looked at.
-/

namespace DocMapper.CommandLine

inductive Command where
  /-- Lists where every type is read from and written to. -/
  | routes
  /-- Shows the search that a method name becomes. -/
  | compile (type method : String) (arguments : List String)
  /-- Keeps every series going, or looks at each of them once. -/
  | rollover (once : Bool)
deriving DecidableEq, Repr

structure Invocation where
  /-- The name of the file with the settings. -/
  config : String
  command : Command
deriving DecidableEq, Repr

/-- What help can be asked for about. -/
inductive Topic where
  | program
  | routes
  | compile
  | rollover
  | help
deriving DecidableEq, Repr

inductive Request where
  | invoke (invocation : Invocation)
  | help (topic : Topic)
deriving DecidableEq, Repr

inductive UsageError where
  | missingCommand
  | unknownCommand (word : String)
  | unexpected (argument : String)
  | missingValue (option : String)
  | repeated (option : String)
  | missingArgument (name : String)
deriving DecidableEq, Repr

def UsageError.message : UsageError → String
  | .missingCommand => "error: a command is required"
  | .unknownCommand word => s!"error: unrecognized subcommand '{word}'"
  | .unexpected argument => s!"error: unexpected argument '{argument}' found"
  | .missingValue option => s!"error: a value is required for '{option}' but none was supplied"
  | .repeated option => s!"error: the argument '{option}' cannot be used multiple times"
  | .missingArgument name => s!"error: the following required argument was not provided: {name}"

def isOption (argument : String) : Bool :=
  -- A lone hyphen is an argument like any other.
  match argument.toList with
  | '-' :: _ :: _ => true
  | _ => false

def asksForHelp (argument : String) : Bool :=
  -- Help may also be asked for at the head of a group of short options.
  argument = "--help" ||
    match argument.toList with
    | '-' :: 'h' :: _ => true
    | _ => false

/-- The complaint about an argument that a command has no use for, unless it asks for help. -/
def refuse (topic : Topic) (argument : String) : Except UsageError Request :=
  if asksForHelp argument then .ok (.help topic) else .error (.unexpected argument)

namespace Command

def readRoutes (config : String) : List String → Except UsageError Request
  | [] => .ok (.invoke ⟨config, .routes⟩)
  | ["--"] => .ok (.invoke ⟨config, .routes⟩)
  | "--" :: argument :: _ => .error (.unexpected argument)
  | argument :: _ => refuse .routes argument

def readRollover (config : String) (once : Bool) : List String → Except UsageError Request
  | [] => .ok (.invoke ⟨config, .rollover once⟩)
  | ["--"] => .ok (.invoke ⟨config, .rollover once⟩)
  | "--" :: argument :: _ => .error (.unexpected argument)
  | argument :: rest =>
      if argument = "--once" then
        if once then .error (.repeated argument) else readRollover config true rest
      else refuse .rollover argument

def ofPositions (config : String) : List String → Except UsageError Request
  | type :: method :: arguments => .ok (.invoke ⟨config, .compile type method arguments⟩)
  | [_] => .error (.missingArgument "<METHOD>")
  | [] => .error (.missingArgument "<DOCUMENT_TYPE>")

/-- The arguments after `compile`; `read` holds those before, last first. -/
def readCompile (config : String) (read : List String) : List String → Except UsageError Request
  | [] => ofPositions config read.reverse
  | "--" :: rest => ofPositions config (read.reverse ++ rest)
  | argument :: rest =>
      if isOption argument then refuse .compile argument
      else readCompile config (argument :: read) rest

def readHelp : List String → Except UsageError Request
  | [] => .ok (.help .program)
  | word :: rest =>
      let topic? : Option Topic := match word with
        | "routes" => some .routes
        | "compile" => some .compile
        | "rollover" => some .rollover
        | "help" => some .help
        | _ => none
      match topic?, rest with
      | some topic, [] => .ok (.help topic)
      | some _, word :: _ => .error (.unknownCommand word)
      | none, _ => .error (.unknownCommand word)

def read (config : String) (word : String) (rest : List String) : Except UsageError Request :=
  match word with
  | "routes" => readRoutes config rest
  | "compile" => readCompile config [] rest
  | "rollover" => readRollover config false rest
  | "help" => readHelp rest
  | _ => .error (.unknownCommand word)

end Command

def defaultConfig : String := "kdm.toml"

def configOption : String := "--config <CONFIG>"

/-- The value that an option has been given in its own argument: without one the option is
followed by its value. -/
inductive Attached where
  | value (text : String)
  | next

/-- How an argument gives the option for the settings, if it does. -/
def configGiven? (argument : String) : Option Attached :=
  match argument.toList with
  | '-' :: 'c' :: '=' :: value => some (.value (String.ofList value))
  | ['-', 'c'] => some .next
  | '-' :: 'c' :: value => some (.value (String.ofList value))
  | _ =>
      if argument = "--config" then some .next
      else if argument.startsWith "--config=" then some (.value (argument.drop 9).toString)
      else none

/-- Reads the arguments; `config` is what the option for the settings has been given already. -/
def readFrom (config : Option String) : List String → Except UsageError Request
  | [] => .error .missingCommand
  | argument :: rest =>
      if !isOption argument then Command.read (config.getD defaultConfig) argument rest
      else if argument = "--" then
        .error (match rest with
          | [] => .missingCommand
          | next :: _ => .unexpected next)
      else match configGiven? argument, rest with
        | some (.value value), rest => given value rest
        | some .next, value :: rest =>
            if isOption value then .error (.missingValue configOption) else given value rest
        | some .next, [] => .error (.missingValue configOption)
        | none, _ => refuse .program argument
where
  given (value : String) (rest : List String) : Except UsageError Request :=
    if value.isEmpty then .error (.missingValue configOption)
    else if config.isSome then .error (.repeated configOption)
    else readFrom (some value) rest

def read (arguments : List String) : Except UsageError Request :=
  readFrom none arguments

end DocMapper.CommandLine
