/-!
# A file system

The file system that screenshots are written to: a tree of folders with the usual ones at its root,
the usual files and devices, and a working folder that at first holds nothing but an empty folder.

## Main definitions

- `Simulation.Names` - the way from the root to a file or a folder
- `Simulation.FileSystem` - the files and their contents
- `Simulation.FileSystem.write` - writes a file, or says why it cannot
- `Simulation.FileSystem.listing` - the files in the working folder
-/

namespace PagePilot.Simulation

/-- The names on the way from the root to a file or a folder. -/
abbrev Names := List String

/-- The folder that relative paths start from. No path spells its name. -/
def workingFolder : Names := ["tmp", ""]

/-- The folders, the root among them. -/
def folders : List Names :=
  [[], ["bin"], ["boot"], ["dev"], ["dev", "pts"], ["dev", "shm"], ["etc"], ["home"], ["lib"],
   ["media"], ["mnt"], ["opt"], ["proc"], ["root"], ["run"], ["sbin"], ["srv"], ["sys"], ["tmp"],
   ["usr"], ["usr", "bin"], ["usr", "lib"], ["usr", "local"], ["usr", "sbin"], ["usr", "share"],
   ["var"], ["var", "cache"], ["var", "lib"], ["var", "log"], ["var", "tmp"],
   workingFolder, workingFolder ++ ["sub"]]

/-- The devices that take whatever is written to them. -/
def sinks : List Names :=
  [["dev", "null"], ["dev", "zero"], ["dev", "random"], ["dev", "urandom"]]

/-- The device that takes nothing. -/
def fullDevice : Names := ["dev", "full"]

/-- The folder in which no files are made. -/
def processFolder : Names := ["proc"]

/-- The files that are there from the start. -/
def usualFiles : List Names :=
  [["bin", "sh"], ["etc", "group"], ["etc", "hostname"], ["etc", "hosts"], ["etc", "passwd"],
   ["etc", "resolv.conf"], ["proc", "cpuinfo"], ["proc", "meminfo"], ["proc", "version"],
   ["usr", "bin", "env"]]

/-- The files, by the way to them. What the usual ones hold is never read. -/
structure FileSystem where
  files : List (Names × String) := usualFiles.map fun way => (way, "")

namespace FileSystem

def noSuchFile : String := "No such file or directory (os error 2)"

def notADirectory : String := "Not a directory (os error 20)"

def isADirectory : String := "Is a directory (os error 21)"

def noSpace : String := "No space left on device (os error 28)"

def nameTooLong : String := "File name too long (os error 36)"

/-- Whether there is a file or a device. -/
def hasFile (fs : FileSystem) (way : Names) : Bool :=
  sinks.contains way || way == fullDevice || fs.files.any fun (key, _) => key == way

/-- Replaces the content of a file. -/
def put (fs : FileSystem) (way : Names) (content : String) : FileSystem :=
  { fs with files := (way, content) :: fs.files.filter fun (key, _) => key != way }

/-- The folder that a name in a folder stands for. The root is in itself. -/
def enter (fs : FileSystem) (place : Names) (name : String) : Except String Names :=
  if name = "" ∨ name = "." then .ok place
  else if name = ".." then .ok place.dropLast
  else if 255 < name.utf8ByteSize then .error nameTooLong
  else
    let way := place ++ [name]
    if folders.contains way then .ok way
    else if fs.hasFile way then .error notADirectory
    else .error noSuchFile

/-- Writes the file of a name in a folder. -/
def writeIn (fs : FileSystem) (place : Names) (name content : String) : Except String FileSystem :=
  let way := place ++ [name]
  if name = "" ∨ name = "." ∨ name = ".." then .error isADirectory
  else if 255 < name.utf8ByteSize then .error nameTooLong
  else if folders.contains way then .error isADirectory
  else if sinks.contains way then .ok fs
  else if way = fullDevice then if content = "" then .ok fs else .error noSpace
  else if place = processFolder then .error noSuchFile
  else .ok (fs.put way content)

/-- Follows the names of a path from a folder and writes the last one. A path that ends in a slash
stands for a folder, so nothing can be written there. -/
def writeAt (fs : FileSystem) (place : Names) (content : String) : Names → Except String FileSystem
  | [] => .error noSuchFile
  | [name] => fs.writeIn place name content
  | name :: rest =>
    if rest.all String.isEmpty then .error isADirectory
    else
      match fs.enter place name with
      | .ok next => fs.writeAt next content rest
      | .error cause => .error cause

/-- Writes a file. A path that starts with a slash starts at the root; it is shorter than 4096
bytes. -/
def write (fs : FileSystem) (path content : String) : Except String FileSystem :=
  if path = "" then .error noSuchFile
  else if path.toList.contains '\x00' then
    .error "file name contained an unexpected NUL byte"
  else if 4095 < path.utf8ByteSize then .error nameTooLong
  else
    let start := if path.toList.head? = some '/' then [] else workingFolder
    fs.writeAt start content (path.splitOn "/")

/-- The files in the working folder, by their paths from there. -/
def listing (fs : FileSystem) : List (String × String) :=
  fs.files.filterMap fun (way, content) =>
    if workingFolder.isPrefixOf way then
      some ("/".intercalate (way.drop workingFolder.length), content)
    else none

end FileSystem

end PagePilot.Simulation
