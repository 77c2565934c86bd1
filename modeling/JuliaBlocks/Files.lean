import JuliaBlocks.Settings.Path
import JuliaBlocks.Text.Quoted
import JuliaBlocks.Text.Utf8

/-!
The files that an evaluation and a session share: contents by absolute path, in directories that
exist.
-/

namespace JuliaBlocks

/-- Files with their contents, the directories that exist, each with those it lies in, and among
these the working directory and the one for temporary files. -/
structure Files where
  working : String := "/"
  temporary : String := "/tmp"
  directories : List String := []
  contents : List (String × List UInt8) := []
deriving Inhabited

/-- A change that a session makes to the files. -/
inductive Change
  | write (path : String) (content : List UInt8)
  | remove (path : String)
  | makeDirectory (path : String)
  | removeDirectory (path : String)
deriving DecidableEq

/-- Why no file can be created in a directory: its path is none, leads nowhere or through a file, or
is too long. -/
inductive PathFault
  | nullCharacter
  | missing
  | notDirectory
  | tooLong
deriving DecidableEq

def PathFault.message (path : String) : PathFault → String
  | nullCharacter => "embedded null byte"
  | missing => "[Errno 2] No such file or directory: " ++ Text.quoted path
  | notDirectory => "[Errno 20] Not a directory: " ++ Text.quoted path
  | tooLong => "[Errno 36] File name too long: " ++ Text.quoted path

namespace Files

/-- The names of devices, below which there is nothing. -/
def deviceNames : List String :=
  ["/dev/null", "/dev/zero", "/dev/full", "/dev/random", "/dev/urandom", "/dev/tty"]

/-- The directories of every system. -/
def systemDirectories : List String :=
  ["/bin", "/boot", "/dev", "/etc", "/home", "/lib", "/media", "/mnt", "/opt", "/root", "/run",
    "/sbin", "/srv", "/tmp", "/usr/bin", "/usr/lib", "/usr/local/bin", "/usr/sbin", "/usr/share",
    "/var/lib", "/var/log", "/var/tmp"]

def read? (files : Files) (path : String) : Option (List UInt8) :=
  files.contents.lookup path

/-- Whether a path lies in a directory, at any depth. -/
def within (directory path : String) : Bool :=
  (directory ++ "/").toList.isPrefixOf path.toList

def hasDirectory (files : Files) (path : String) : Bool :=
  path == "/" || files.directories.any fun d => d == path || within path d

/-- The most octets of a file name. -/
def nameLimit : Nat := 255

/-- The most octets of a path. -/
def pathLimit : Nat := 4095

/-- Follows the components of a path from a directory that exists. -/
def followFault? (files : Files) (reached : String) : List String → Option PathFault
  | [] => none
  | name :: rest =>
    let next := reached ++ "/" ++ name
    if nameLimit < name.utf8ByteSize then some .tooLong
    else if files.hasDirectory next then files.followFault? next rest
    else if (files.read? next).isSome || deviceNames.contains next then some .notDirectory
    else some .missing

/-- Why no file of a name can be created in a directory, if none can. -/
def creationFault? (files : Files) (directory name : String) : Option PathFault :=
  let path := Path.join directory name
  if path.toList.contains '\x00' then some .nullCharacter
  else if pathLimit < path.utf8ByteSize then some .tooLong
  else files.followFault? "" (Path.components directory)

/-- Replaces the content of a file, or creates it. -/
def write (files : Files) (path : String) (content : List UInt8) : Files :=
  { files with contents := (path, content) :: files.contents.filter (·.1 != path) }

def remove (files : Files) (path : String) : Files :=
  { files with contents := files.contents.filter (·.1 != path) }

def apply (files : Files) : Change → Files
  | .write path content => files.write path content
  | .remove path => files.remove path
  | .makeDirectory path => { files with directories := files.directories ++ [path] }
  | .removeDirectory path => { files with directories := files.directories.filter (· != path) }

def applyAll (files : Files) (changes : List Change) : Files :=
  changes.foldl apply files

def paths (files : Files) : List String :=
  files.contents.map (·.1)

end Files

end JuliaBlocks
