import ScriptRegistrar.Disk
import ScriptRegistrar.DottedName
import ScriptRegistrar.Log

namespace ScriptRegistrar.CommandLine

inductive Flag where
  | help
  | version
  | logLevel
  | logFormat
  | config
  | output
  | projectRoot
  | sourceDir
  | library
  | scriptDir
  | cleanScripts
  | className
deriving DecidableEq, Repr, Inhabited

inductive Operand where
  | nothing
  | text
  /-- Any text but the empty one. -/
  | path
  | oneOf (names : List String)
deriving DecidableEq, Repr, Inhabited

namespace Operand

def accepts (operand : Operand) (value : String) : Bool :=
  match operand with
  | nothing => false
  | text => true
  | path => value ≠ ""
  | oneOf names => names.contains value

end Operand

namespace Flag

def longName : Flag → String
  | help => "help"
  | version => "version"
  | logLevel => "log-level"
  | logFormat => "log-format"
  | config => "config"
  | output => "output"
  | projectRoot => "project-root"
  | sourceDir => "src-dir"
  | library => "gdnlib"
  | scriptDir => "gdns-dir"
  | cleanScripts => "clean-gdns"
  | className => "class"

def letter? : Flag → Option Char
  | help => some 'h'
  | version => some 'V'
  | output => some 'o'
  | _ => none

def operand : Flag → Operand
  | help | version | cleanScripts => .nothing
  | logLevel => .oneOf (LogLevel.all.map LogLevel.name)
  | logFormat => .oneOf (LogFormat.all.map LogFormat.name)
  | config | output | projectRoot | scriptDir => .path
  | sourceDir | library | className => .text

def repeats : Flag → Bool
  | sourceDir | className => true
  | _ => false

/-- Known before the command. -/
def general : List Flag := [help, version, logLevel, logFormat]

/-- Known after every command. -/
def common : List Flag :=
  [help, logLevel, logFormat, config, output, projectRoot, sourceDir, library, scriptDir,
    cleanScripts]

end Flag

/-- Whether an argument stands for a flag. A single dash does not. -/
def looksLikeFlag (argument : String) : Bool :=
  match argument.toList with
  | '-' :: _ :: _ => true
  | _ => false

/-- A flag with the value in the same argument, if there is one. What follows the letter of a flag
without a value is not read. -/
def readFlag? (known : List Flag) (argument : String) : Option (Flag × Option String) :=
  match argument.toList with
  | '-' :: '-' :: text =>
    let name := text.takeWhile (· ≠ '=')
    let value := match text.dropWhile (· ≠ '=') with
      | _ :: value => some (String.ofList value)
      | [] => none
    (known.find? (·.longName.toList = name)).map (·, value)
  | '-' :: letter :: text => do
    let flag ← known.find? (·.letter? = some letter)
    let value := match text with
      | [] => none
      | '=' :: value => some (String.ofList value)
      | value => some (String.ofList value)
    return (flag, if flag.operand = .nothing then none else value)
  | _ => none

/-! ### Reading the arguments -/

inductive Command where
  | generate (input : Path)
  | refresh (classes : List DottedName)
deriving DecidableEq, Repr, Inhabited

structure ScriptTarget where
  libraryPath : String
  outputDir : Path
deriving DecidableEq, Repr, Inhabited

structure OutputOptions where
  config : Option Path := none
  outputDir : Option Path := none
  projectRoot : Option Path := none
  sourceDirs : List String := []
  scripts : Option ScriptTarget := none
  cleanScripts : Bool := false
deriving DecidableEq, Repr, Inhabited

structure Invocation where
  command : Command
  output : OutputOptions
  logFormat : Option LogFormat
  logLevel : Option LogLevel
deriving DecidableEq, Repr, Inhabited

inductive Stop where
  | misuse
  | helpAsked
  | versionAsked
deriving DecidableEq, Repr, Inhabited

inductive CommandName where
  | generate
  | refresh
  | help
deriving DecidableEq, Repr, Inhabited

namespace CommandName

def all : List CommandName := [generate, refresh, help]

def text : CommandName → String
  | generate => "generate"
  | refresh => "refresh"
  | help => "help"

def ofText? (text : String) : Option CommandName := all.find? fun name => name.text = text

def flags : CommandName → List Flag
  | generate => Flag.common
  | refresh => Flag.className :: Flag.common
  | help => []

def capacity : CommandName → Nat
  | generate | help => 1
  | refresh => 0

end CommandName

/-- A flag with its value. `late` if it stands after the command. -/
structure Setting where
  flag : Flag
  value : String
  late : Bool
deriving DecidableEq, Repr, Inhabited

structure Scan where
  command : Option CommandName := none
  settings : List Setting := []
  words : List String := []
  /-- The flag whose value comes next. -/
  pending : Option Flag := none
  /-- After a double dash nothing is a flag. -/
  onlyWords : Bool := false
deriving Repr, Inhabited

namespace Scan

def known (s : Scan) : List Flag := s.command.elim Flag.general CommandName.flags

/-- Adds a flag with its value. Most flags may only be given once on one side of the command. -/
def give (s : Scan) (flag : Flag) (value : String) : Except Stop Scan :=
  let late := s.command.isSome
  if !flag.repeats && s.settings.any (fun g => g.flag = flag && g.late = late) then .error .misuse
  else .ok { s with settings := s.settings ++ [⟨flag, value, late⟩], pending := none }

def giveValue (s : Scan) (flag : Flag) (value : String) : Except Stop Scan :=
  if flag.operand.accepts value then s.give flag value else .error .misuse

def giveSwitch (s : Scan) : Flag → Except Stop Scan
  | .help => .error .helpAsked
  | .version => .error .versionAsked
  | flag => s.give flag ""

def takeFlag (s : Scan) (argument : String) : Except Stop Scan :=
  match readFlag? s.known argument with
  | none => .error .misuse
  | some (flag, value) =>
    match flag.operand, value with
    | .nothing, none => s.giveSwitch flag
    | .nothing, some _ => .error .misuse
    | _, none => .ok { s with pending := some flag }
    | _, some value => s.giveValue flag value

/-- The first word names the command. -/
def takeWord (s : Scan) (word : String) : Except Stop Scan :=
  match s.command with
  | none =>
    match s.onlyWords, CommandName.ofText? word with
    | false, some name => .ok { s with command := some name }
    | _, _ => .error .misuse
  | some name =>
    if s.words.length < name.capacity then .ok { s with words := s.words ++ [word] }
    else .error .misuse

def step (s : Scan) (argument : String) : Except Stop Scan :=
  match s.pending with
  | some flag => if looksLikeFlag argument then .error .misuse else s.giveValue flag argument
  | none =>
    if s.onlyWords || !looksLikeFlag argument then s.takeWord argument
    else if argument = "--" then .ok { s with onlyWords := true }
    else s.takeFlag argument

def values (s : Scan) (flag : Flag) : List String :=
  (s.settings.filter (·.flag = flag)).map Setting.value

def value? (s : Scan) (flag : Flag) : Option String := (s.values flag).getLast?

def path? (s : Scan) (flag : Flag) : Option Path := (s.value? flag).map .ofText

/-- The library and the directory need each other. -/
def scripts? (s : Scan) : Except Stop (Option ScriptTarget) :=
  match s.value? .library, s.path? .scriptDir with
  | some libraryPath, some outputDir => .ok (some ⟨libraryPath, outputDir⟩)
  | none, none => .ok none
  | _, _ => .error .misuse

def outputOptions (s : Scan) : Except Stop OutputOptions := do
  return {
    config := s.path? .config
    outputDir := s.path? .output
    projectRoot := s.path? .projectRoot
    sourceDirs := s.values .sourceDir
    scripts := ← s.scripts?
    cleanScripts := (s.value? .cleanScripts).isSome }

/-- A command to get help for must be one. -/
def readCommand (s : Scan) : Except Stop Command :=
  match s.command, s.words with
  | some .generate, [input] =>
    if Operand.path.accepts input then .ok (.generate (.ofText input)) else .error .misuse
  | some .refresh, [] => .ok (.refresh ((s.values .className).map .parse))
  | some .help, words =>
    if words.all fun word => (CommandName.ofText? word).isSome then .error .helpAsked
    else .error .misuse
  | _, _ => .error .misuse

def finish (s : Scan) : Except Stop Invocation :=
  if s.pending.isSome then .error .misuse
  else do
    let command ← s.readCommand
    let output ← s.outputOptions
    return {
      command, output
      logFormat := (s.value? .logFormat).bind fun name => LogFormat.all.find? (·.name = name)
      logLevel := (s.value? .logLevel).bind fun name => LogLevel.all.find? (·.name = name) }

end Scan

namespace Invocation

def ofArguments (arguments : List String) : Except Stop Invocation := do
  let scan ← arguments.foldlM Scan.step {}
  scan.finish

end Invocation

end ScriptRegistrar.CommandLine
