import Graft.Path

/-!
# Arguments

The words of a command line.  An option is written `--name value`, `--name=value`, `-xvalue`,
`-x=value` or `-x value`; switches of one letter can be written together; after `--` no word is an
option.  Options and the target may come in any order after the name of the command.
-/

namespace Graft

/-- Where the workspace and the rule files are. -/
structure RuleSource where
  workspace : Option Path := none
  rules     : List Path := []
  deriving DecidableEq, Repr

/-- What is asked for. -/
inductive Command where
  | apply (target : Option Path) (source : RuleSource) (dryRun showDiff : Bool)
  | status (target : Option Path) (source : RuleSource) (json : Bool)
  | list (source : RuleSource)
  deriving DecidableEq, Repr

namespace Command

/-- Why a command line asks for nothing. -/
inductive UsageError where
  | noCommand
  | unknownCommand (word : Text)
  | unknownOption (word : Text)
  | repeated (name : String)
  | noValue (name : String)
  | emptyValue (name : String)
  | unwantedValue (name : String)
  | unexpected (word : Text)
  deriving DecidableEq, Repr

def UsageError.message : UsageError → String
  | .noCommand        => "a command is required"
  | .unknownCommand w => s!"unrecognized subcommand '{String.ofList w}'"
  | .unknownOption w  => s!"unexpected argument '{String.ofList w}' found"
  | .repeated n       => s!"the argument '{n}' cannot be used multiple times"
  | .noValue n        => s!"a value is required for '{n}' but none was supplied"
  | .emptyValue n     => s!"a value is required for '{n}' but it is empty"
  | .unwantedValue n  => s!"unexpected value for '{n}' found; no more were expected"
  | .unexpected w     => s!"unexpected argument '{String.ofList w}' found"

/-- Why reading a command line ends early. -/
inductive Halt where
  | help
  | version
  | usage (why : UsageError)
  deriving DecidableEq, Repr

/-- The commands by name. -/
inductive Name where
  | apply
  | status
  | list
  deriving DecidableEq, Repr

def Name.ofWord? (w : Text) : Option Name :=
  match String.ofList w with
  | "apply"  => some .apply
  | "status" => some .status
  | "list"   => some .list
  | _        => none

/-- The options of the commands. -/
inductive Key where
  | verbose
  | help
  | workspace
  | rules
  | dryRun
  | diff
  | json
  deriving DecidableEq, Repr

namespace Key

def long : Key → String
  | .verbose   => "verbose"
  | .help      => "help"
  | .workspace => "workspace"
  | .rules     => "rules"
  | .dryRun    => "dry-run"
  | .diff      => "diff"
  | .json      => "json"

def short? : Key → Option Char
  | .verbose   => some 'v'
  | .help      => some 'h'
  | .workspace => some 'w'
  | .rules     => some 'r'
  | .dryRun    => some 'n'
  | .diff      => some 'd'
  | .json      => none

def takesValue : Key → Bool
  | .workspace | .rules => true
  | _                   => false

/-- How an option is named in a message. -/
def display (k : Key) : String := "--" ++ k.long

end Key

/-- The options that a command has. -/
def Name.keys : Name → List Key
  | .apply  => [.workspace, .rules, .dryRun, .diff, .verbose, .help]
  | .status => [.workspace, .rules, .json, .verbose, .help]
  | .list   => [.workspace, .rules, .verbose, .help]

/-- Whether a command takes a target. -/
def Name.takesTarget : Name → Bool
  | .list => false
  | _     => true

/-- What the words read so far say. -/
structure Options where
  source : RuleSource := {}
  target : Option Path := none
  dryRun : Bool := false
  diff   : Bool := false
  json   : Bool := false
  deriving DecidableEq, Repr

namespace Options

/-- Takes the value of an option. -/
def give (o : Options) (k : Key) (value : Text) : Except Halt Options :=
  if k == .workspace && o.source.workspace.isSome then .error (.usage (.repeated k.display))
  else if value.isEmpty then .error (.usage (.emptyValue k.display))
  else if k == .workspace then .ok { o with source := { o.source with workspace := some ⟨value⟩ } }
  else .ok { o with source := { o.source with rules := o.source.rules ++ [⟨value⟩] } }

/-- Turns a switch on; a switch other than the one for verbosity is given once. -/
def turnOn (o : Options) (k : Key) : Except Halt Options :=
  let again := .error (.usage (.repeated k.display))
  match k with
  | .help   => .error .help
  | .dryRun => if o.dryRun then again else .ok { o with dryRun := true }
  | .diff   => if o.diff then again else .ok { o with diff := true }
  | .json   => if o.json then again else .ok { o with json := true }
  | _       => .ok o

/-- Takes a word that is no option. -/
def takeTarget (o : Options) (name : Name) (w : Text) : Except Halt Options :=
  if !name.takesTarget || o.target.isSome then .error (.usage (.unexpected w))
  else if w.isEmpty then .error (.usage (.emptyValue "[TARGET]"))
  else .ok { o with target := some ⟨w⟩ }

def command (o : Options) : Name → Command
  | .apply  => .apply o.target o.source o.dryRun o.diff
  | .status => .status o.target o.source o.json
  | .list   => .list o.source

end Options

/-- A word cut at its first equals sign. -/
def cutValue (w : Text) : Text × Option Text :=
  match w.span (· != '=') with
  | (name, _ :: value) => (name, some value)
  | (name, [])         => (name, none)

/-- Reads the letters after a dash.  The answer names the option whose value is the next word. -/
def readShort (name : Name) (o : Options) : Text → Except Halt (Options × Option Key)
  | []      => .ok (o, none)
  | c :: cs =>
      match name.keys.find? (fun k => k.short? == some c) with
      | none   => .error (.usage (.unknownOption ['-', c]))
      | some k =>
          if k.takesValue then
            match cs with
            | []           => .ok (o, some k)
            | '=' :: value => (o.give k value).map (·, none)
            | value        => (o.give k value).map (·, none)
          else do readShort name (← o.turnOn k) cs

/-- Reads the name after two dashes. -/
def readLong (name : Name) (o : Options) (w : Text) : Except Halt (Options × Option Key) :=
  let (word, value?) := cutValue w
  match name.keys.find? (fun k => k.long.toList == word) with
  | none   => .error (.usage (.unknownOption ('-' :: '-' :: word)))
  | some k =>
      match k.takesValue, value? with
      | true, some value  => (o.give k value).map (·, none)
      | true, none        => .ok (o, some k)
      | false, some _     => .error (.usage (.unwantedValue k.display))
      | false, none       => (o.turnOn k).map (·, none)

/-- Whether a word is written like an option. -/
def isOption (w : Text) : Bool := w.head? == some '-' && w.length != 1

/-- Reads the words after the name of a command; `pending` is an option that waits for its value. -/
def readWords (name : Name) (o : Options) (pending : Option Key) :
    List Text → Except Halt Options
  | []      =>
      match pending with
      | some k => .error (.usage (.noValue k.display))
      | none   => .ok o
  | w :: ws =>
      match pending with
      | some k =>
          if isOption w then .error (.usage (.noValue k.display))
          else do readWords name (← o.give k w) none ws
      | none =>
          if w == ['-', '-'] then ws.foldlM (·.takeTarget name ·) o
          else if isOption w then do
            let (o, pending) ←
              match w with
              | '-' :: '-' :: rest => readLong name o rest
              | _ :: rest          => readShort name o rest
              | []                 => .ok (o, none)
            readWords name o pending ws
          else do readWords name (← o.takeTarget name w) none ws

/-- Reads the letters after a dash in front of the name of a command. -/
def readGlobal : Text → Except Halt Unit
  | []      => .ok ()
  | c :: cs =>
      if c == 'v' then readGlobal cs
      else if c == 'h' then .error .help
      else if c == 'V' then .error .version
      else .error (.usage (.unknownOption ['-', c]))

/-- What the words after `help` ask for: nothing, or one command. -/
def helpAbout : List Text → Halt
  | []  => .help
  | [w] => if (Name.ofWord? w).isSome || w == "help".toList then .help else .usage (.unknownCommand w)
  | w :: v :: _ =>
      .usage (.unknownCommand (if (Name.ofWord? w).isSome then v else w))

/-- The command that words ask for. -/
def ofWords : List Text → Except Halt Command
  | []      => .error (.usage .noCommand)
  | w :: ws =>
      if isOption w then
        match String.ofList w with
        | "--"        => .error (.usage .noCommand)
        | "--verbose" => ofWords ws
        | "--help"    => .error .help
        | "--version" => .error .version
        | _           =>
            if w.take 2 == ['-', '-'] then .error (.usage (.unknownOption w))
            else do
              readGlobal (w.drop 1)
              ofWords ws
      else
        match Name.ofWord? w with
        | some name => (readWords name {} none ws).map (·.command name)
        | none      =>
            .error (if w == "help".toList then helpAbout ws else .usage (.unknownCommand w))

end Command

end Graft
