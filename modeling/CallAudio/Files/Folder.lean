/-
  Files in memory, by name.

  A name leads from folder to folder, each followed by a slash; a point stays where it is and
  two points go back.  A name that begins with a slash starts at the topmost folder, any
  other in the folder that holds the files.  Beyond that folder nothing is known but that
  there are folders.

  * `Folder.read`: what is found under a name.
-/
import CallAudio.Files.Content

namespace CallAudio

/-- Files by name; the names of those beyond the folder begin with a slash. -/
structure Folder where
  files : List (String × String) := []
deriving DecidableEq, Inhabited

/-- Where a name has led so far. -/
inductive Place where
  /-- To a folder; the folders on the way to it, the last one first. -/
  | inside (way : List String)
  /-- Out of the folder that holds the files. -/
  | beyond
deriving DecidableEq, Inhabited

namespace Folder

/-- The way to an entry of a folder, as a name. -/
def nameOf (way : List String) (entry : String) : String :=
  "/".intercalate (way.reverse ++ [entry])

/-- Whether there is a folder of a given name. -/
def hasFolder (folder : Folder) (name : String) : Bool :=
  folder.files.any fun (file, _) => file.startsWith (name ++ "/")

/-- What a name leads to from a place, given its parts between slashes.  The topmost folder
    is the entry with the empty name. -/
def follow (folder : Folder) : Place → List String → FileContent
  | _, [] => .unreadable
  | place, part :: rest =>
    if part = "" ∨ part = "." then follow folder place rest
    else if part = ".." then
      match place with
      | .inside [""] => follow folder (.inside [""]) rest
      | .inside (_ :: way) => follow folder (.inside way) rest
      | .inside [] | .beyond => follow folder .beyond rest
    else
      match place with
      | .beyond => .missing
      | .inside way =>
        match folder.files.lookup (nameOf way part) with
        | some text => if rest.isEmpty then .text text else .missing
        | none =>
          if folder.hasFolder (nameOf way part) then follow folder (.inside (part :: way)) rest
          else .missing

/-- What is found under a name. -/
def read (folder : Folder) (name : String) : FileContent :=
  match name.splitOn "/" with
  | [""] => .missing
  | "" :: parts => folder.follow (.inside [""]) parts
  | parts => folder.follow (.inside []) parts

end Folder

end CallAudio
