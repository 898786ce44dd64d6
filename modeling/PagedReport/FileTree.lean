/-! Files and directories, and what a path leads to. Names are followed one after the other, each
within a directory, so that a path through a file leads nowhere even if it only stays there. -/
namespace PagedReport

inductive FileTree where
  | regular
  /-- A device or another file without content of its own. -/
  | special
  | directory (entries : List (String × FileTree))

namespace FileTree

def greatestPath : Nat := 4095

/-- Follows names from a place; `above` holds the directories over it, the nearest one first. The
root is over itself. -/
def follow? : List FileTree → FileTree → List String → Option FileTree
  | _, place, [] => some place
  | above, .directory entries, name :: names =>
    if name = "" ∨ name = "." then follow? above (.directory entries) names
    else if name = ".." then
      match above with
      | [] => follow? [] (.directory entries) names
      | parent :: above => follow? above parent names
    else
      match entries.lookup name with
      | some place => follow? (.directory entries :: above) place names
      | none => none
  | _, _, _ :: _ => none

/-- The names that a path is made of. One that does not begin at the root begins where the program
works. -/
def namesOf (working : List String) (path : String) : List String :=
  let names := path.splitOn "/"
  if path.startsWith "/" then names else working ++ names

/-- What a path leads to from the root of the tree. The empty path leads nowhere. -/
def find? (root : FileTree) (working : List String) (path : String) : Option FileTree :=
  if path.isEmpty ∨ greatestPath < path.utf8ByteSize then none
  else follow? [] root (namesOf working path)

def isRegular (root : FileTree) (working : List String) (path : String) : Bool :=
  match root.find? working path with
  | some .regular => true
  | _ => false

/-- A place stays where it is by the name of a dot, if it is a directory. -/
theorem follow?_dot (above : List FileTree) (entries : List (String × FileTree))
    (names : List String) :
    follow? above (.directory entries) ("." :: names) =
      follow? above (.directory entries) names := by
  simp [follow?]

/-- Nothing is within a file, not even the file itself. -/
theorem follow?_regular_cons (above : List FileTree) (name : String) (names : List String) :
    follow? above .regular (name :: names) = none := by
  simp [follow?]

end FileTree

end PagedReport
