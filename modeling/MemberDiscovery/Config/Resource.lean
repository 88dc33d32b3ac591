import MemberDiscovery.Config.PropertyText
import MemberDiscovery.Config.YamlLeaves
import MemberDiscovery.Environment

/-! # The configuration resource

A process is configured by a file with a fixed base name and one of four extensions, which also tell
its format. It is looked for in a list of directories; the first file found is the one that is read,
even if it turns out to be unreadable. Two environment variables change the base name and the
directories.
-/

namespace MemberDiscovery

/-- Formats of configuration files. -/
inductive FileFormat where
  | lines
  | yaml
  | json
  deriving DecidableEq, Repr, Inhabited

namespace FileFormat

/-- What follows the last point in a file name, if something stands before the point. -/
def extension? (name : String) : Option String :=
  let after := name.toList.reverse.takeWhile (· ≠ '.')
  if after.length + 1 < name.length then some (String.ofList after.reverse) else none

def fileName? (path : String) : Option String :=
  (((FileTree.parts path).filter fun part => part ≠ "" && part ≠ ".").getLast?).filter (· ≠ "..")

/-- The format that an extension tells; lines of text unless another one is known. -/
def ofExtension : String → FileFormat
  | "yaml" | "yml" => .yaml
  | "json" => .json
  | _ => .lines

/-- The format of a file. One without an extension holds lines of text. -/
def ofPath (path : String) : FileFormat :=
  (((fileName? path).bind extension?).map ofExtension).getD .lines

def parse (format : FileFormat) (text : String) : Except ClientError PropertySet :=
  match format with
  | .lines => PropertyText.parse text
  | .yaml => PropertySet.parseYaml text
  | .json => PropertySet.parseJson text

end FileFormat

namespace PropertySet

def ofFile (files : FileSystem) (path : String) : Except ClientError PropertySet :=
  match files.text? path with
  | some text => (FileFormat.ofPath path).parse text
  | none => .error (.unreadable path)

def extensions : List String := ["properties", "yaml", "yml", "json"]

/-- A path below a directory, unless the path begins at the root. -/
def below (directory path : String) : String :=
  if path.toList.head? = some '/' ∨ directory = "" then path
  else if directory.toList.getLast? = some '/' then directory ++ path
  else directory ++ "/" ++ path

/-- The path of a resource in a directory, with an extension. -/
def candidate (directory name extension : String) : String :=
  below directory (name ++ "." ++ extension)

/-- The paths at which a resource may be, directory by directory. -/
def candidates (name : String) (directories : List String) : List String :=
  directories.flatMap fun directory => extensions.map (candidate directory name)

/-- The name of a resource with all its extensions, for messages. -/
def resourceName (name : String) : String :=
  name ++ ".\x7b" ++ String.intercalate "," extensions ++ "\x7d"

def locateIn (files : FileSystem) (name : String) (directories : List String) :
    Except ClientError PropertySet :=
  match (candidates name directories).find? files.isFile with
  | some path => ofFile files path
  | none => .error (.missingResource (resourceName name) directories)

/-- The variable with the base name of the resource. -/
def nameVariable : String := "EUREKA_CLIENT_PROPS"

/-- The variable with the directories of the resource. -/
def pathVariable : String := "EUREKA_CONFIG_PATH"

def defaultName : String := "eureka-client"

def locate (files : FileSystem) (environment : Environment) : Except ClientError PropertySet :=
  let name := (environment nameVariable).getD defaultName
  let directories := match environment pathVariable with
    | some value => Text.splitAtChar ':' value
    | none => ["."]
  locateIn files name directories

end PropertySet

end MemberDiscovery
