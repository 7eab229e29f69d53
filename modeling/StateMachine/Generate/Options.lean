import StateMachine.Document.Bytes
import StateMachine.Document.Integer
import StateMachine.Document.Reader
import StateMachine.Generate.Target
import StateMachine.Log

/-!
# Options

The settings of code generation. They are given by an object whose members are
named after the settings, and are taken over as they are; only the two levels
are read as integers and must be one of the levels.

Not every target supports every setting. A setting that differs from its
default is *requested*; requesting what a target does not support is an error,
never ignored.
-/

namespace StateMachine

/-- How much the generated code traces. -/
inductive DebugLevel
  | none
  /-- States and transitions. -/
  | transitions
  /-- Entry and exit actions as well. -/
  | actions
  deriving DecidableEq

/-- The number of a level. -/
def DebugLevel.number : DebugLevel → Int
  | .none => -1
  | .transitions => 0
  | .actions => 1

/-- The level with a number. -/
def DebugLevel.ofNumber? (n : Int) : Option DebugLevel :=
  [DebugLevel.none, .transitions, .actions].find? fun l => l.number == n

/-- Are transitions traced? -/
def DebugLevel.tracesTransitions (l : DebugLevel) : Bool :=
  l != .none

/-- Are entry and exit actions traced? -/
def DebugLevel.tracesActions (l : DebugLevel) : Bool :=
  l == .actions

/-- How detailed a graph is. -/
inductive GraphLevel
  /-- The names of transitions. -/
  | names
  /-- Conditions, loopbacks, entry and exit actions as well. -/
  | guards
  /-- Parameters and actions as well. -/
  | detailed
  deriving DecidableEq

/-- The number of a level. -/
def GraphLevel.number : GraphLevel → Int
  | .names => 0
  | .guards => 1
  | .detailed => 2

/-- The level with a number. -/
def GraphLevel.ofNumber? (n : Int) : Option GraphLevel :=
  [GraphLevel.names, .guards, .detailed].find? fun l => l.number == n

/-- Are conditions shown? -/
def GraphLevel.showsGuards (l : GraphLevel) : Bool :=
  l != .names

/-- Are parameters and actions shown? -/
def GraphLevel.showsDetails (l : GraphLevel) : Bool :=
  l == .detailed

/-- The settings of code generation. -/
structure Options where
  /-- The file the machine was read from. -/
  sourceFileName : Value := .str ""
  /-- Where the generated file goes. -/
  targetDirectory : Value := .str ""
  /-- The suffix of the generated file, if not the usual one. -/
  suffix : Value := .str ""
  /-- How much the generated code traces. -/
  debugLevel : DebugLevel := .none
  /-- The next state is not committed when an action fails. -/
  noCatch : Value := .bool false
  /-- Support for saving and restoring the state. -/
  serial : Value := .bool false
  /-- Tables of the states and transitions. -/
  reflect : Value := .bool false
  /-- Transitions run one at a time. -/
  sync : Value := .bool false
  /-- Generic collections in the tables. -/
  generic : Value := .bool false
  /-- Generic collections with inferred types. -/
  generic7 : Value := .bool false
  /-- No exceptions are thrown. -/
  noExceptions : Value := .bool false
  /-- No streams are used for tracing. -/
  noStreams : Value := .bool false
  /-- The owner is a parameter of its base class. -/
  crtp : Value := .bool false
  /-- The owner is given by a protocol, not by a class. -/
  useProtocol : Value := .bool false
  /-- The greatest depth of the state stack; zero for any depth. -/
  stackSize : Value := .int 0
  /-- The access level of the generated classes. -/
  accessLevel : Value := .str ""
  /-- The cast operator of the generated code. -/
  castType : Value := .str "dynamic_cast"
  /-- Where the header file goes. -/
  headerDirectory : Value := .str ""
  /-- The suffix of the header file. -/
  headerSuffix : Value := .str "h"
  /-- How detailed a graph is. -/
  graphLevel : GraphLevel := .names
  /-- The name of this program in the generated file. -/
  appName : Value := .str "fsmc"
  /-- The version of this program in the generated file. -/
  appVersion : Value := .str "1.0.0"

/-- The settings by their names. -/
inductive Setting
  | sourceFileName
  | targetDirectory
  | suffix
  | debugLevel
  | noCatch
  | serial
  | reflect
  | sync
  | generic
  | generic7
  | noExceptions
  | noStreams
  | crtp
  | useProtocol
  | stackSize
  | accessLevel
  | castType
  | headerDirectory
  | headerSuffix
  | graphLevel
  | appName
  | appVersion
  deriving DecidableEq

namespace Setting

/-- All settings, in the order they are listed in. -/
def all : List Setting :=
  [.sourceFileName, .targetDirectory, .suffix, .debugLevel, .noCatch, .serial, .reflect, .sync,
    .generic, .generic7, .noExceptions, .noStreams, .crtp, .useProtocol, .stackSize,
    .accessLevel, .castType, .headerDirectory, .headerSuffix, .graphLevel, .appName,
    .appVersion]

/-- The name of a setting. -/
def name : Setting → String
  | .sourceFileName => "source_file_name"
  | .targetDirectory => "target_directory"
  | .suffix => "suffix"
  | .debugLevel => "debug_level"
  | .noCatch => "no_catch"
  | .serial => "serial"
  | .reflect => "reflect"
  | .sync => "sync"
  | .generic => "generic"
  | .generic7 => "generic7"
  | .noExceptions => "no_exceptions"
  | .noStreams => "no_streams"
  | .crtp => "crtp"
  | .useProtocol => "use_protocol"
  | .stackSize => "state_stack_size"
  | .accessLevel => "access_level"
  | .castType => "cast_type"
  | .headerDirectory => "header_directory"
  | .headerSuffix => "header_suffix"
  | .graphLevel => "graph_level"
  | .appName => "app_name"
  | .appVersion => "app_version"

/-- The setting of a name. -/
def ofName? (name : String) : Option Setting :=
  all.find? fun s => s.name == name

/-- The targets that support a setting; nothing for a setting every target
    supports. -/
def supporters? : Setting → Option (List Target)
  | .castType => some [.cPlusPlus]
  | .noExceptions => some [.cPlusPlus]
  | .noStreams => some [.cPlusPlus]
  | .crtp => some [.cPlusPlus]
  | .stackSize => some [.cPlusPlus]
  | .accessLevel => some [.java, .java7]
  | .headerDirectory => some [.c, .cPlusPlus, .objectiveC]
  | .headerSuffix => some [.c, .cPlusPlus, .objectiveC]
  | .sync => some [.cSharp, .java, .java7, .visualBasic, .groovy, .scala, .python]
  | .reflect => some [.cSharp, .java, .java7, .javaScript, .visualBasic, .tcl, .lua, .perl, .php,
      .python, .ruby, .groovy, .scala]
  | .serial => some [.cSharp, .java, .java7, .visualBasic, .tcl, .cPlusPlus, .groovy, .scala]
  | .graphLevel => some [.graph]
  | .generic => some [.cSharp, .java, .java7, .visualBasic]
  | .generic7 => some [.java, .java7]
  | .useProtocol => some [.objectiveC]
  | _ => none

/-- Does a target support the setting? -/
def supportedBy (s : Setting) (t : Target) : Bool :=
  match s.supporters? with
  | some targets => targets.contains t
  | none => true

end Setting

/-- Does a target support the setting of a name? What is no setting is no
    obstacle. -/
def Target.supports (t : Target) (name : String) : Bool :=
  match Setting.ofName? name with
  | some s => s.supportedBy t
  | none => true

/-- Why options are refused. -/
inductive OptionError
  /-- There are no settings of these names. -/
  | unknown (names : List String)
  /-- A level is no integer. -/
  | badInteger (fault : IntegerFault)
  /-- The integer is no debug level. -/
  | badDebugLevel (n : Int)
  /-- The value is no graph level. -/
  | badGraphLevel (v : Value)
  /-- The value given for the graph level is no level. -/
  | notGraphLevel (v : Value)
  /-- The target does not support them. -/
  | refused (problems : List String)
  /-- A stack size of this kind is no number. -/
  | badStackSize (kind : String)
  /-- The file holds no document. -/
  | badDocument (path : String) (error : ReadError)
  /-- The file holds no object. -/
  | notObject (path : String)
  /-- The values in the file are nested too deep. -/
  | tooDeep
  /-- The file holds no text. -/
  | badText (fault : Bytes.Malformed)

/-- The wording of an error. -/
def OptionError.message : OptionError → String
  | .unknown names => "Unknown option(s): " ++ Text.joined ", " names ++ "."
  | .badInteger fault => fault.message
  | .badDebugLevel n => toString n ++ " is not a valid DebugLevel"
  | .badGraphLevel v => "Graph level must be 0, 1 or 2, not " ++ v.literal ++ "."
  | .notGraphLevel v => v.literal ++ " is not a valid GraphLevel"
  | .refused problems => Text.joined "; " problems ++ "."
  | .badStackSize kind => "'<' not supported between instances of '" ++ kind ++ "' and 'int'"
  | .badDocument path error => path ++ ": invalid JSON: " ++ error.message
  | .notObject path => path ++ ": options must be a JSON object."
  | .tooDeep => NestingLimit.wording
  | .badText fault => fault.message

namespace Options

/-- The default settings. -/
def default : Options := {}

/-- The value of a setting; levels are given by their numbers. -/
def get (o : Options) : Setting → Value
  | .sourceFileName => o.sourceFileName
  | .targetDirectory => o.targetDirectory
  | .suffix => o.suffix
  | .debugLevel => .int o.debugLevel.number
  | .noCatch => o.noCatch
  | .serial => o.serial
  | .reflect => o.reflect
  | .sync => o.sync
  | .generic => o.generic
  | .generic7 => o.generic7
  | .noExceptions => o.noExceptions
  | .noStreams => o.noStreams
  | .crtp => o.crtp
  | .useProtocol => o.useProtocol
  | .stackSize => o.stackSize
  | .accessLevel => o.accessLevel
  | .castType => o.castType
  | .headerDirectory => o.headerDirectory
  | .headerSuffix => o.headerSuffix
  | .graphLevel => .int o.graphLevel.number
  | .appName => o.appName
  | .appVersion => o.appVersion

/-- The options with a new value for a setting; of the levels the number is
    given, and one that is no level changes nothing. -/
def put (o : Options) (s : Setting) (v : Value) : Options :=
  match s with
  | .sourceFileName => { o with sourceFileName := v }
  | .targetDirectory => { o with targetDirectory := v }
  | .suffix => { o with suffix := v }
  | .debugLevel =>
    match v.toInteger.toOption.bind DebugLevel.ofNumber? with
    | some l => { o with debugLevel := l }
    | none => o
  | .noCatch => { o with noCatch := v }
  | .serial => { o with serial := v }
  | .reflect => { o with reflect := v }
  | .sync => { o with sync := v }
  | .generic => { o with generic := v }
  | .generic7 => { o with generic7 := v }
  | .noExceptions => { o with noExceptions := v }
  | .noStreams => { o with noStreams := v }
  | .crtp => { o with crtp := v }
  | .useProtocol => { o with useProtocol := v }
  | .stackSize => { o with stackSize := v }
  | .accessLevel => { o with accessLevel := v }
  | .castType => { o with castType := v }
  | .headerDirectory => { o with headerDirectory := v }
  | .headerSuffix => { o with headerSuffix := v }
  | .graphLevel =>
    match v.toInteger.toOption.bind GraphLevel.ofNumber? with
    | some l => { o with graphLevel := l }
    | none => o
  | .appName => { o with appName := v }
  | .appVersion => { o with appVersion := v }

/-- Is the setting one that not every target supports, and not at its default? -/
def isRequested (o : Options) (s : Setting) : Bool :=
  s.supporters?.isSome && !(o.get s == default.get s)

/-- The settings that are requested, in the order they are listed in. -/
def requested (o : Options) : List Setting :=
  Setting.all.filter o.isRequested

/-! ## Reading -/

/-- The debug level a value stands for. -/
def debugLevelOf (v : Value) : Except OptionError DebugLevel :=
  match v.toInteger with
  | .error fault => .error (.badInteger fault)
  | .ok n =>
    match DebugLevel.ofNumber? n with
    | some l => .ok l
    | none => .error (.badDebugLevel n)

/-- The graph level a value stands for. -/
def graphLevelOf (v : Value) : Except OptionError GraphLevel :=
  match v.toInteger with
  | .error (.badText _) => .error (.badGraphLevel v)
  | .error (.tooLong _) => .error (.badGraphLevel v)
  | .error .notANumber => .error (.badGraphLevel v)
  | .error fault => .error (.badInteger fault)
  | .ok n =>
    match GraphLevel.ofNumber? n with
    | some l => .ok l
    | none => .error (.badGraphLevel v)

/-- The names of members that are no settings, in order. -/
def unknownNames (members : List (String × Value)) : List String :=
  ((members.map (·.1)).filter fun k => (Setting.ofName? k).isNone).mergeSort fun a b => a ≤ b

/-- Reads the options from the members of an object. -/
def ofMembers (members : List (String × Value)) : Except OptionError Options := do
  let unknown := unknownNames members
  if !unknown.isEmpty then throw (.unknown unknown)
  let debugLevel ←
    match Value.member? Setting.debugLevel.name members with
    | some v => debugLevelOf v
    | none => pure default.debugLevel
  let graphLevel ←
    match Value.member? Setting.graphLevel.name members with
    | some v => graphLevelOf v
    | none => pure default.graphLevel
  let plain := members.foldl (fun o (k, v) =>
    match Setting.ofName? k with
    | some s => o.put s v
    | none => o) default
  return { plain with debugLevel := debugLevel, graphLevel := graphLevel }

/-- Reads the options from the bytes of a file. -/
def ofFile (path : String) (bytes : List UInt8) : Except OptionError Options :=
  match Bytes.fileText bytes with
  | .error fault => .error (.badText fault)
  | .ok text =>
    match Value.read text with
    | .error (.complaint error) => .error (.badDocument path error)
    | .error (.tooLong digits) => .error (.badInteger (.tooLong digits))
    | .error .tooDeep => .error .tooDeep
    | .ok (.object members) => ofMembers members
    | .ok _ => .error (.notObject path)

/-! ## Checking -/

/-- The access levels. -/
def accessLevels : List String := ["public", "protected", "package", "private"]

/-- The cast operators. -/
def castTypes : List String := ["dynamic_cast", "static_cast", "reinterpret_cast"]

/-- Is the value one of the texts? -/
def isOneOf (v : Value) (texts : List String) : Bool :=
  texts.any fun t => v == .str t

/-- The requested settings a target does not support. -/
def unsupported (o : Options) (t : Target) : List Setting :=
  o.requested.filter fun s => !s.supportedBy t

/-- Is the stack size below zero, if it is a number? -/
def negativeStack? (o : Options) : Option Bool :=
  o.stackSize.lt? (.int 0)

/-- The complaints about the options for a target. -/
def problems (o : Options) (t : Target) : List String :=
  (o.unsupported t).map (fun s => s.name ++ " is not supported by " ++ t.displayName)
    ++ (if o.accessLevel.isSet && [Target.java, .java7].contains t
          && !isOneOf o.accessLevel accessLevels then
        ["access level '" ++ o.accessLevel.text ++ "' must be one of "
          ++ Text.joined ", " accessLevels]
      else [])
    ++ (if isOneOf o.castType castTypes then []
      else ["cast type '" ++ o.castType.text ++ "' must be one of " ++ Text.joined ", " castTypes])
    ++ (if o.negativeStack? == some true then ["state stack size must not be negative"] else [])

/-- Are the options fit for a target? -/
def check (o : Options) (t : Target) : Except OptionError Unit :=
  if o.negativeStack?.isNone then .error (.badStackSize o.stackSize.kindName)
  else if (o.problems t).isEmpty then .ok ()
  else .error (.refused (o.problems t))

/-- The report that the options are fit for a target. -/
def acceptedRecord (o : Options) (t : Target) : Record :=
  ⟨.debug, Topic.options, "Options accepted for " ++ t.displayName ++ ": "
    ++ Value.literal (.list (o.requested.map fun s => .str s.name))⟩

end Options
end StateMachine
