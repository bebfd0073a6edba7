import GpuPlugin.Explanation
import GpuPlugin.Settings
import GpuPlugin.Yaml.Decode

/-!
# ConfigFile — settings kept in a file

A config file is a YAML document; whatever it leaves out is left to the other sources of settings.
It may name the version of its format, of which there is one.
-/

namespace GpuPlugin

/-- What a file says about the plugin's answers. -/
structure PluginFlags where
  passDeviceSpecs : Option Bool := none
  listStrategy : Option ListStrategy := none
  idStrategy : Option IdStrategy := none
  listVariable : Option String := none
  deriving DecidableEq, Repr, Inhabited

structure Flags where
  resourceName : Option String := none
  failOnInitError : Option Bool := none
  driverRoot : Option String := none
  replicas : Option Nat := none
  autoReplicas : Option Bool := none
  policy : Option PolicyChoice := none
  plugin : PluginFlags := {}
  deriving DecidableEq, Repr, Inhabited

/-- **The contents of a config file.** -/
structure ConfigFile where
  version : Option String := none
  flags : Flags := {}
  deriving DecidableEq, Repr, Inhabited

/-- Why a file holds no settings. -/
inductive ConfigFile.Error where
  | notYaml (e : Yaml.SyntaxError)
  /-- A value does not fit, and further on the text may not be YAML either. -/
  | misfit (e : Yaml.DataError) (fault : Option Yaml.SyntaxError)
  | unsupportedVersion (version : String)
  deriving DecidableEq, Repr

namespace ConfigFile

def Error.message : Error → String
  | .notYaml e => e.message
  | .misfit e _ => e.message ++ e.location
  | .unsupportedVersion v => s!"unsupported config version '{v}'"

/-! ## Fields -/

open Yaml Yaml.Decoder

def pluginFields : List (RecordField PluginFlags) :=
  [.of "passDeviceSpecs" (optional bool) fun r v => { r with passDeviceSpecs := v },
   .of "deviceListStrategy" (optional (choice ListStrategy.choices)) fun r v =>
     { r with listStrategy := v },
   .of "deviceIdStrategy" (optional (choice IdStrategy.choices))
     (fun r v => { r with idStrategy := v }) ["deviceIDStrategy"],
   .of "deviceListEnvvar" (optional text) fun r v => { r with listVariable := v }]

def flagsFields : List (RecordField Flags) :=
  [.of "resourceName" (optional text) fun r v => { r with resourceName := v },
   .of "failOnInitError" (optional bool) fun r v => { r with failOnInitError := v },
   .of "nvidiaDriverRoot" (optional text) fun r v => { r with driverRoot := v },
   .of "replicas" (optional word32) fun r v => { r with replicas := v },
   .of "autoReplicas" (optional bool) fun r v => { r with autoReplicas := v },
   .of "allocationPolicy" (optional (choice PolicyChoice.choices)) fun r v =>
     { r with policy := v },
   .of "plugin" (record "PluginFlags" pluginFields {}) fun r v => { r with plugin := v }]

def fields : List (RecordField ConfigFile) :=
  [.of "version" (optional text) fun r v => { r with version := v },
   .of "flags" (record "Flags" flagsFields {}) fun r v => { r with flags := v }]

def decode : Yaml.Document → Except DecodeError ConfigFile :=
  Decoder.document (record "ConfigFile" fields {}) {}

/-! ## Reading -/

/-- The version of the format that is understood. -/
def supportedVersion : String := "v1"

/-- The same file, if its version is understood. -/
def checked (file : ConfigFile) : Except Error ConfigFile :=
  match file.version with
  | none => .ok file
  | some v => if v = supportedVersion then .ok file else .error (.unsupportedVersion v)

/-- **The settings in a text.** -/
def read (text : String) : Except Error ConfigFile :=
  let document := Document.read text
  match decode document with
  | .ok file => file.checked
  | .error (.broken e) => .error (.notYaml e)
  | .error (.data e) => .error (.misfit e document.fault)

end ConfigFile

end GpuPlugin
