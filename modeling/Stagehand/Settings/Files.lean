import Stagehand.Settings.Format
import Stagehand.Text.CodeTable
import Stagehand.Text.Utf8

/-!
# Configuration files
A configuration file is named with its extension or without it. An exact match counts first; then
the extensions are tried one after the other.
-/

namespace Stagehand.Settings

/-- A directory: its absolute path, and the contents of the files that can be reached from it. -/
structure Directory where
  path : String
  file? : String → Option (List UInt8)

/-! ### Paths -/

/-- The names in a path. Empty names and those of the directory itself are left out. -/
def pathNames (path : String) : List String :=
  ((cutAt '/' path.toList).map String.ofList).filter fun n => n ≠ "" ∧ n ≠ "."

/-- Whether a path starts at the root. -/
def isAbsolute (path : String) : Bool := path.toList.head? = some '/'

/-- Names with slashes between them. -/
def joinNames (names : List String) : String := "/".intercalate names

/-- A path from a directory to another place. -/
def relativeNames : (base names : List String) → List String
  | b :: base, n :: names =>
    if b = n then relativeNames base names
    else (b :: base).map (fun _ => "..") ++ n :: names
  | base, names => base.map (fun _ => "..") ++ names

/-- The part of a file's name after its last point, unless the name begins with that point. -/
def extensionOf (name : String) : Option String :=
  let cs := name.toList.reverse
  let extension := cs.takeWhile (· != '.')
  match cs.drop extension.length with
  | _ :: _ :: _ => some (String.ofList extension.reverse)
  | _ => none

/-- What a path's last name becomes with an extension; nothing where there is no such name. -/
def withExtension? (path extension : String) : Option String :=
  match (pathNames path).reverse with
  | [] => none
  | name :: before =>
    if name = ".." then none
    else
      let names := before.reverse ++ [name ++ "." ++ extension]
      some ((if isAbsolute path then "/" else "") ++ joinNames names)

/-! ### Looking up -/

namespace Directory

/-- The absolute path of a path from the directory. -/
def absolute (d : Directory) (path : String) : String :=
  if isAbsolute path then path else d.path ++ "/" ++ path

/-- How a file is called in messages: by its path from the directory. -/
def placeOf (d : Directory) (path : String) : String :=
  joinNames (relativeNames (pathNames d.path) (pathNames (d.absolute path)))

end Directory

/-- Why a configuration file cannot be had. -/
inductive FileFault
  | missing (name : String)
  | unsupported (path : String)
deriving DecidableEq

/-- The words for why a configuration file cannot be had. -/
def FileFault.message : FileFault → String
  | missing name => "configuration file \"" ++ name ++ "\" not found"
  | unsupported path => "configuration file \"" ++ path ++ "\" is not of a supported file format"

/-- A configuration file that was found. -/
structure Found where
  place : String
  format : Format
  text : String

/-- The contents of a file as text, without the mark of the byte order at its beginning. -/
def textOf : List UInt8 → String
  | 0xef :: 0xbb :: 0xbf :: bytes => Utf8.shown bytes
  | bytes => Utf8.shown bytes

namespace Directory

/-- The file with a name that lacks its extension. -/
def findExtended? (d : Directory) (name : String) : Option Found :=
  Format.extensions.findSome? fun (extension, format) =>
    match withExtension? name extension with
    | none => none
    | some path => (d.file? path).map fun bytes => ⟨d.placeOf path, format, textOf bytes⟩

/-- The configuration file of a name. -/
def find (d : Directory) (name : String) : Except FileFault Found :=
  match d.file? name with
  | some bytes =>
    match (((pathNames name).getLast?.bind extensionOf).bind Format.ofExtension?) with
    | some format => .ok ⟨d.placeOf name, format, textOf bytes⟩
    | none => .error (.unsupported (d.absolute name))
  | none =>
    match d.findExtended? name with
    | some found => .ok found
    | none => .error (.missing name)

end Directory

/-- All paths that are looked at for a configuration file of a name. -/
def candidates (name : String) : List String :=
  name :: Format.extensions.filterMap fun (extension, _) => withExtension? name extension

/-! ### Directories of known files -/

/-- A directory with everything in it: the name it has in the directory above, and its files by
their paths. -/
structure FileTree where
  name : String
  files : List (String × List UInt8)

namespace FileTree

/-- The names that lead to each file from the directory above. -/
def entries (t : FileTree) : List (List String × List UInt8) :=
  t.files.map fun (path, bytes) => (t.name :: pathNames path, bytes)

/-- Whether names lead to a directory. -/
def isDirectory (t : FileTree) (names : List String) : Bool :=
  names = [] || names = [t.name] ||
    t.entries.any fun (file, _) => names.isPrefixOf file && names != file

/-- Where some more names lead from a directory that other names, backwards, lead to. -/
def walk (t : FileTree) : (names : List String) → (here : List String) → Option (List String)
  | [], here => some here.reverse
  | n :: names, here =>
    if !t.isDirectory here.reverse then none
    else if n = "" ∨ n = "." then
      if names = [] then none else walk t names here
    else if n = ".." then
      match here with
      | [] => none
      | _ :: above => walk t names above
    else walk t names (n :: here)

/-- The contents of the file at a path. -/
def file? (t : FileTree) (path : String) : Option (List UInt8) :=
  if isAbsolute path then none
  else
    match t.walk ((cutAt '/' path.toList).map String.ofList) [t.name] with
    | none => none
    | some names => t.entries.lookup names

/-- The directory of the files; it is at `path`. -/
def directory (t : FileTree) (path : String) : Directory := ⟨path, t.file?⟩

end FileTree

end Stagehand.Settings
