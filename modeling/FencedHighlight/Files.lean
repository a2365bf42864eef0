import FencedHighlight.Error

namespace FencedHighlight

/-!
Reading files and directories.

What reads files takes the means to do so as an argument, with effects of any
kind.  So it can run on the files of the system, and just as well on a tree of
files that is a plain value.
-/

/-- The means to read files, with effects in `m`. -/
structure Files (m : Type -> Type) where
  /-- The text of the file at a path. -/
  read : String -> m (Except FileFault String)
  /-- The names in the directory at a path, in any order. -/
  list : String -> m (Except FileFault (List String))

namespace Files

def join (directory name : String) : String :=
  match directory.toList.getLast? with
  | none | some '/' => directory ++ name
  | some _ => directory ++ "/" ++ name

/-- Whether a name ends in an extension.  What stands before its dot must not
be empty. -/
def hasExtension (extension name : String) : Bool :=
  let ending := '.' :: extension.toList
  ending.isSuffixOf name.toList && ending.length < name.length

def sortNames (names : List String) : List String :=
  names.mergeSort fun first second => decide (first ≤ second)

end Files

/-- A tree of files. -/
inductive FileTree where
  | file (bytes : ByteArray)
  | directory (entries : List (String × FileTree))

namespace FileTree

def empty : FileTree :=
  directory []

/-- Follow the parts of a path.  `above` holds the directories that lead here,
the nearest first; there is nothing above the root. -/
def follow : (above : List FileTree) -> FileTree -> (path : List String) ->
    Except FileFault FileTree
  | _, place, [] => .ok place
  | _, file _, _ :: _ => .error .notADirectory
  | above, directory entries, part :: path =>
      if part = "" || part = "." then
        follow above (directory entries) path
      else if part = ".." then
        match above with
        | [] => follow [] (directory entries) path
        | parent :: above => follow above parent path
      else
        match entries.lookup part with
        | some place => follow (directory entries :: above) place path
        | none => .error .notFound

/-- What a path leads to.  It starts from the working directory, or from the
root if it begins with a slash. -/
def resolve (root : FileTree) (workingDirectory : List String) (path : String) :
    Except FileFault FileTree :=
  match path.toList with
  | [] => .error .notFound
  | '/' :: _ => root.follow [] (path.splitOn "/")
  | _ => root.follow [] (workingDirectory ++ path.splitOn "/")

/-- The means to read the files of a tree, from a working directory. -/
def files (root : FileTree) (workingDirectory : List String) : Files Id where
  read path :=
    match root.resolve workingDirectory path with
    | .ok (file bytes) =>
        match String.fromUTF8? bytes with
        | some text => .ok text
        | none => .error .notUtf8
    | .ok (directory _) => .error .isADirectory
    | .error fault => .error fault
  list path :=
    match root.resolve workingDirectory path with
    | .ok (directory entries) => .ok (entries.map Prod.fst)
    | .ok (file _) => .error .notADirectory
    | .error fault => .error fault

/-- The entries of a directory; a file has none. -/
def entries : FileTree -> List (String × FileTree)
  | file _ => []
  | directory entries => entries

/-- Put a tree at a path, given by its parts.  Directories that are missing are
made on the way, and what is there already is replaced. -/
def insert : FileTree -> (path : List String) -> (added : FileTree) -> FileTree
  | _, [], added => added
  | tree, part :: path, added =>
      let inner := (tree.entries.lookup part).getD empty
      let others := tree.entries.filter fun entry => entry.1 != part
      directory (others ++ [(part, inner.insert path added)])
termination_by _ path => path.length

end FileTree

end FencedHighlight
