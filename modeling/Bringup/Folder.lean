import Bringup.Text.Quoted

/-!
# Paths and folders

* `normalPath` : a path without empty parts and parts that stay where they are;
* `Folder` : the files of a folder by name, those of folders in it included;
* `Folder.read` : the bytes of the file at a path, or why there are none.
-/

namespace Bringup

/-- The parts of a path between slashes. -/
def pathParts (path : List Char) : List (List Char) :=
  (path.splitOn '/').filter fun part => !(part.isEmpty || part == ['.'])

/-- The slashes that a path begins with: none, one, or exactly two. -/
def pathRoot (path : List Char) : List Char :=
  match (path.takeWhile (· == '/')).length with
  | 0 => []
  | 2 => ['/', '/']
  | _ => ['/']

/-- A path without empty parts and parts that stay where they are. -/
def normalPath (path : String) : String :=
  let root := pathRoot path.toList
  let rest := List.intercalate ['/'] (pathParts path.toList)
  if root.isEmpty && rest.isEmpty then "." else String.ofList (root ++ rest)

/-- Why there are no bytes at a path. -/
inductive FileFault where
  | missing
  | isFolder
  | notAFolder
  deriving DecidableEq, Repr

/-- The number of a fault and what is said of it. -/
def FileFault.message (path : String) : FileFault → String
  | .missing => "[Errno 2] No such file or directory: " ++ quote path
  | .isFolder => "[Errno 21] Is a directory: " ++ quote path
  | .notAFolder => "[Errno 20] Not a directory: " ++ quote path

/-- The files of a folder, by their paths from it. -/
abbrev Folder := List (String × List UInt8)

namespace Folder

/-- The file whose path has these parts. -/
def file? (f : Folder) (parts : List (List Char)) : Option (List UInt8) :=
  (f.find? fun (name, _) => pathParts name.toList == parts).map Prod.snd

/-- Whether some file lies below the path of these parts. -/
def hasFolder (f : Folder) (parts : List (List Char)) : Bool :=
  parts.isEmpty || f.any fun (name, _) =>
    parts.isPrefixOf (pathParts name.toList) && parts.length < (pathParts name.toList).length

/-- Follows the parts of a path from the folder at `here`; `none` is any place outside. -/
def follow (f : Folder) : Option (List (List Char)) → List (List Char) → Except FileFault (List UInt8)
  | _, [] => .error .isFolder
  | none, part :: rest =>
    if part == ['.', '.'] then f.follow none rest else .error .missing
  | some here, part :: rest =>
    if part == ['.', '.'] then
      f.follow (if here.isEmpty then none else some here.dropLast) rest
    else
      let there := here ++ [part]
      match f.file? there with
      | some bytes => if rest.isEmpty then .ok bytes else .error .notAFolder
      | none => if f.hasFolder there then f.follow (some there) rest else .error .missing

/-- The bytes of the file at a path.  Nothing is known outside of the folder, except that there are
folders above it. -/
def read (f : Folder) (path : String) : Except FileFault (List UInt8) :=
  let here := if (pathRoot path.toList).isEmpty then some [] else none
  f.follow here (pathParts path.toList)

end Folder

end Bringup
