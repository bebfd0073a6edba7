import GpuPlugin.Settings
import GpuPlugin.Text.Numeral

/-!
# CommandLine — settings given by arguments and variables

Every option takes one value, after an equals sign or as the next argument, and is given at most
once. A variable of the same name stands in for an option that is not given.  A value is looked at
when the next option or the end of the arguments is reached, unless an unknown argument is met
first.
-/

namespace GpuPlugin

/-- **The options of a command line.** -/
structure CommandLine where
  configFile : Option String := none
  resourceName : Option String := none
  listStrategy : Option ListStrategy := none
  idStrategy : Option IdStrategy := none
  passDeviceSpecs : Option Bool := none
  driverRoot : Option String := none
  listVariable : Option String := none
  replicas : Option Nat := none
  autoReplicas : Option Bool := none
  policy : Option PolicyChoice := none
  failOnInitError : Option Bool := none
  pluginDirectory : String := Settings.defaultPluginDirectory
  socketName : String := Settings.defaultSocketName
  kubeletSocketName : String := Settings.defaultKubeletSocketName
  logFile : Option String := none
  deriving DecidableEq, Repr, Inhabited

/-- The values of the variables that are set. -/
abbrev Environment := String → Option String

namespace CommandLine

/-! ## Errors -/

/-- Why arguments give no command line.  An option is named together with its placeholder. -/
inductive Stop where
  /-- The arguments ask for help, or for the version. -/
  | help
  | version
  | unknownArgument (argument : String)
  /-- The value is none of those there are; a missing one counts as empty. -/
  | invalidValue (option value : String)
  /-- The value is no number of the right size. -/
  | unreadableValue (option value : String)
  | repeatedOption (option : String)
  /-- The flag takes no value. -/
  | unneededValue (flag value : String)
  deriving DecidableEq, Repr

/-! ## Options -/

/-- What is wrong with a value. -/
inductive Rejection where
  | invalid
  | unreadable
  deriving DecidableEq, Repr

/-- An option: its name, its variable, and how its value is taken in. -/
structure Opt where
  name : String
  /-- The variable that stands in for it, which is its placeholder as well. -/
  variableName : String
  take : String → CommandLine → Except Rejection CommandLine

namespace Opt

/-- The option as errors name it. -/
def title (o : Opt) : String := s!"--{o.name} <{o.variableName}>"

/-- How values of a kind are read. -/
abbrev Reader (α : Type) := String → Except Rejection α

def text : Reader String := .ok

/-- A path is never empty. -/
def path : Reader String := fun s => if s = "" then .error .invalid else .ok s

def choice {α : Type} (choices : List (String × α)) : Reader α := fun s =>
  match choices.lookup s with
  | some v => .ok v
  | none => .error .invalid

def truth : Reader Bool := choice [("true", true), ("false", false)]

/-- A count takes 32 bits; zero may have a minus sign. -/
def count : Reader Nat := fun s =>
  match Text.integer? s.toList with
  | some n => if 0 ≤ n ∧ n < Text.wordSize 32 then .ok n.toNat else .error .unreadable
  | none => .error .unreadable

/-- The option that takes a value in with a reader. -/
def of {α : Type} (name variableName : String) (read : Reader α)
    (set : CommandLine → α → CommandLine) : Opt :=
  ⟨name, variableName, fun s c => (read s).map (set c)⟩

end Opt

open Opt in
/-- **All options**, in the order in which their variables are looked at. -/
def options : List Opt :=
  [.of "config-file" "CONFIG_FILE" path fun c v => { c with configFile := v },
   .of "resource-name" "RESOURCE_NAME" text fun c v => { c with resourceName := v },
   .of "device-list-strategy" "DEVICE_LIST_STRATEGY" (choice ListStrategy.choices) fun c v =>
     { c with listStrategy := v },
   .of "device-id-strategy" "DEVICE_ID_STRATEGY" (choice IdStrategy.choices) fun c v =>
     { c with idStrategy := v },
   .of "pass-device-specs" "PASS_DEVICE_SPECS" truth fun c v => { c with passDeviceSpecs := v },
   .of "nvidia-driver-root" "NVIDIA_DRIVER_ROOT" text fun c v => { c with driverRoot := v },
   .of "device-list-envvar" "DEVICE_LIST_ENVVAR" text fun c v => { c with listVariable := v },
   .of "replicas" "REPLICAS" count fun c v => { c with replicas := v },
   .of "auto-replicas" "AUTO_REPLICAS" truth fun c v => { c with autoReplicas := v },
   .of "allocation-policy" "ALLOCATION_POLICY" (choice PolicyChoice.choices) fun c v =>
     { c with policy := v },
   .of "fail-on-init-error" "FAIL_ON_INIT_ERROR" truth fun c v => { c with failOnInitError := v },
   .of "device-plugin-path" "DEVICE_PLUGIN_PATH" path fun c v => { c with pluginDirectory := v },
   .of "socket-name" "SOCKET_NAME" text fun c v => { c with socketName := v },
   .of "kubelet-socket-name" "KUBELET_SOCKET_NAME" text fun c v =>
     { c with kubeletSocketName := v },
   .of "log-file" "LOG_FILE" path fun c v => { c with logFile := v }]

def option? (name : String) : Option Opt := options.find? (·.name == name)

/-! ## Texts -/

/-- What is printed when help is asked for. -/
def usage : String :=
  "\n".intercalate ("Usage: gpu-plugin [OPTIONS]" :: "" :: "Options:" ::
    options.map (fun o => s!"      {o.title}") ++ ["  -h, --help", "  -V, --version"])

/-- What is printed when arguments give no command line. -/
def Stop.message : Stop → String
  | .help => usage
  | .version => "gpu-plugin"
  | .unknownArgument argument => s!"error: unexpected argument '{argument}' found"
  | .invalidValue option value | .unreadableValue option value =>
    if value = "" then s!"error: a value is required for '{option}' but none was supplied"
    else s!"error: invalid value '{value}' for '{option}'"
  | .repeatedOption option => s!"error: the argument '{option}' cannot be used multiple times"
  | .unneededValue flag value => s!"error: unexpected value '{value}' for '{flag}' found"

/-! ## Reading arguments -/

/-- The options read so far, their names, and the one whose value is not looked at yet. -/
structure Partial where
  line : CommandLine := {}
  given : List String := []
  pending : Option (Opt × Option String) := none

namespace Partial

/-- Take an option's value in. -/
def take (p : Partial) (o : Opt) (value : String) : Except Stop Partial :=
  if p.given.contains o.name then .error (.repeatedOption o.title)
  else
    match o.take value p.line with
    | .ok line => .ok { p with line, given := o.name :: p.given }
    | .error .invalid => .error (.invalidValue o.title value)
    | .error .unreadable => .error (.unreadableValue o.title value)

/-- Take in the value that is not looked at yet. -/
def settle (p : Partial) : Except Stop Partial :=
  match p.pending with
  | none => .ok p
  | some (o, none) => .error (.invalidValue o.title "")
  | some (o, some value) => { p with pending := none }.take o value

end Partial

/-- An argument, by its form. -/
inductive Argument where
  /-- Two dashes: no options follow. -/
  | stop
  | long (name : String) (value : Option String)
  | short (letter : Char)
  | word (text : String)
  deriving DecidableEq, Repr

def Argument.ofText (s : String) : Argument :=
  match s.toList with
  | ['-', '-'] => .stop
  | '-' :: '-' :: cs =>
    let name := cs.takeWhile (· != '=')
    let value := match cs.dropWhile (· != '=') with
      | [] => none
      | _ :: v => some (String.ofList v)
    .long (String.ofList name) value
  | '-' :: c :: _ => .short c
  | _ => .word s

/-- What a flag without a value asks for. -/
def flag? (name : String) : Option Stop :=
  if name = "help" then some .help else if name = "version" then some .version else none

/-- Take in a long option or flag. -/
def readLong (p : Partial) (name : String) (value : Option String) : Except Stop Partial :=
  match option? name, flag? name with
  | some o, _ => do
    let p ← p.settle
    match value with
    | some v => p.take o v
    | none => return { p with pending := some (o, none) }
  | none, some flag =>
    match value with
    | some v => .error (.unneededValue s!"--{name}" v)
    | none => do let _ ← p.settle; throw flag
  | none, none => .error (.unknownArgument s!"--{name}")

/-- Take in the arguments in order. -/
def readAll : List String → Partial → Except Stop Partial
  | [], p => p.settle
  | s :: rest, p =>
    match Argument.ofText s with
    | .stop =>
      match rest with
      | [] => p.settle
      | word :: _ => .error (.unknownArgument word)
    | .long name value => do readAll rest (← readLong p name value)
    | .short c =>
      match if c = 'h' then some Stop.help else if c = 'V' then some .version else none with
      | some flag => do let _ ← p.settle; throw flag
      | none => .error (.unknownArgument s!"-{c}")
    | .word text =>
      match p.pending with
      | some (o, none) => readAll rest { p with pending := some (o, some text) }
      | _ => .error (.unknownArgument text)

/-- Take in the variables of the options that are not given. -/
def readVariables (env : Environment) : List Opt → Partial → Except Stop Partial
  | [], p => .ok p
  | o :: rest, p =>
    match if p.given.contains o.name then none else env o.variableName with
    | some value => do readVariables env rest (← p.take o value)
    | none => readVariables env rest p

/-- **The command line** of arguments and variables. -/
def read (args : List String) (env : Environment) : Except Stop CommandLine := do
  let p ← readAll args {}
  let p ← readVariables env options p
  return p.line

end CommandLine

end GpuPlugin
