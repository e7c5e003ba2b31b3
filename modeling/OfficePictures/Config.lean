import OfficePictures.Json.Reader
import OfficePictures.Limits
import OfficePictures.Text.Segments
import OfficePictures.Text.Utf8

/-!
# Config — how pictures are extracted

A configuration is fixed before any document is looked at.  It is made from its parts or read from
JSON, and `Config.check` says what is wrong with it: directories are not empty, the directory
relative to the case stays inside it, and the limits are not zero.
-/

namespace OfficePictures

/-- A configuration. -/
structure Config where
  /-- The directory of the module on disk. -/
  directory : String
  /-- The directory of the module relative to the case. -/
  relativeDirectory : String
  maxPictureBytes : Nat
  maxStreamBytes : Nat
  toolName : String
  deriving DecidableEq, Repr

/-! ## Faults -/

/-- What is wrong with a configuration. -/
inductive ConfigDefect
  | emptyDirectory
  | emptyRelativeDirectory
  | leavesCase (relativeDirectory : String)
  | zeroPictureLimit
  | zeroStreamLimit
  deriving DecidableEq, Repr

/-- Why there is no configuration. -/
inductive ConfigFault
  /-- The file cannot be read as text. -/
  | unreadable
  /-- The text is not JSON of the right form. -/
  | malformed
  | invalid (defect : ConfigDefect)
  deriving DecidableEq, Repr

def ConfigDefect.message : ConfigDefect → String
  | emptyDirectory => "module_dir_absolute no puede estar vacío"
  | emptyRelativeDirectory => "module_dir_relative no puede estar vacío"
  | leavesCase relativeDirectory =>
      "module_dir_relative no puede salir del caso: " ++ relativeDirectory
  | zeroPictureLimit => "max_picture_bytes debe ser mayor que cero"
  | zeroStreamLimit => "max_stream_bytes debe ser mayor que cero"

def ConfigFault.message : ConfigFault → String
  | unreadable => "No se pudo leer la configuración:"
  | malformed => "Configuración JSON inválida:"
  | invalid defect => "Configuración inválida: " ++ defect.message

namespace Config

/-! ## Making a configuration -/

/-- The greatest length of a picture, if none is given: 256 MiB. -/
def defaultPictureBytes : Nat := 256 * 1024 * 1024

/-- The greatest length of a stream, if none is given: 1 GiB. -/
def defaultStreamBytes : Nat := 1024 * 1024 * 1024

/-- The name of the tool, if none is given. -/
def defaultToolName : String := "Embedded File Extractor"

def withSlashes (text : List Char) : List Char :=
  text.map fun c => if c = '\\' then '/' else c

/-- A directory with single slashes between its segments and none at its ends. -/
def normalize (directory : String) : String :=
  String.ofList
    (Text.join '/' ((Text.split '/' (withSlashes directory.toList)).filter (· ≠ [])))

/-- The configuration with the given directories; what is not given has its default. -/
def ofParts (directory relativeDirectory : String) (maxPictureBytes maxStreamBytes : Option Nat)
    (toolName : Option String) : Config where
  directory
  relativeDirectory := normalize relativeDirectory
  maxPictureBytes := maxPictureBytes.getD defaultPictureBytes
  maxStreamBytes := maxStreamBytes.getD defaultStreamBytes
  toolName := toolName.getD defaultToolName

def limits (config : Config) : Limits :=
  ⟨config.maxPictureBytes, config.maxStreamBytes⟩

/-! ## Checking -/

def defect? (config : Config) : Option ConfigDefect :=
  if config.directory = "" then
    some .emptyDirectory
  else if config.relativeDirectory = "" then
    some .emptyRelativeDirectory
  else if (Text.split '/' config.relativeDirectory.toList).contains ['.', '.'] then
    some (.leavesCase config.relativeDirectory)
  else if config.maxPictureBytes = 0 then
    some .zeroPictureLimit
  else if config.maxStreamBytes = 0 then
    some .zeroStreamLimit
  else
    none

/-- The configuration, if nothing is wrong with it. -/
def check (config : Config) : Except ConfigFault Config :=
  match config.defect? with
  | some defect => .error (.invalid defect)
  | none => .ok config

/-! ## Reading -/

/-- The names of the members, in the order of the array form. -/
def memberNames : List String :=
  ["module_dir_absolute", "module_dir_relative", "max_picture_bytes", "max_stream_bytes",
    "tool_name"]

/-- The values of the members of an object or of the items of an array, in the order of
`memberNames`.  Other members count for nothing; none of these may be repeated, and all names have
to be text. -/
def memberValues? : Json → Option (List (Option Json))
  | .array items => if memberNames.length < items.length then none else some (items.map some)
  | .object members => do
      let named ← members.mapM fun (name, value) => (Json.textOf? name).map (·, value)
      guard (memberNames.all fun name => named.countP (·.1 = name) ≤ 1)
      return memberNames.map fun name => named.lookup name
  | _ => none

def requiredText? (value : Option Json) : Option String :=
  value.bind Json.text?

/-- The text that a member is if it is given; the outer `none` stands for something else. -/
def optionalText? : Option Json → Option (Option String)
  | none => some none
  | some value => value.text?.map some

/-- The number below 2⁶⁴ that a member is if it is given; the outer `none` stands for something
else. -/
def optionalLimit? : Option Json → Option (Option Nat)
  | none => some none
  | some value =>
      match value.natural? with
      | some limit => if limit < UInt64.size then some (some limit) else none
      | none => none

def ofJson? (value : Json) : Option Config := do
  let values ← memberValues? value
  let member (index : Nat) := values[index]?.join
  let directory ← requiredText? (member 0)
  let relativeDirectory ← requiredText? (member 1)
  let maxPictureBytes ← optionalLimit? (member 2)
  let maxStreamBytes ← optionalLimit? (member 3)
  let toolName ← optionalText? (member 4)
  return ofParts directory relativeDirectory maxPictureBytes maxStreamBytes toolName

/-- The configuration that a text describes, checked. -/
def ofText (text : String) : Except ConfigFault Config :=
  match (Json.parse? text.toList).bind ofJson? with
  | none => .error .malformed
  | some config => config.check

/-- The configuration in a file with the given content, if there is such a file. -/
def ofFile (content : Option Bytes) : Except ConfigFault Config :=
  match content.bind Text.Utf8.decodeStrict? with
  | none => .error .unreadable
  | some text => ofText (String.ofList text)

end Config
end OfficePictures
