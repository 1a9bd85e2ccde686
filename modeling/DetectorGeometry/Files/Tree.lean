import DetectorGeometry.Files.System

/-!
File systems held in memory. A tree lists its files by their absolute location; it has no links, and
its directories are those on the way to a file and those made on their own. Relative paths lead
nowhere.
-/
namespace DetectorGeometry

abbrev Location := List String

structure FileTree where
  files : List (Location × ByteArray)
  directories : List Location

namespace FileTree

def empty : FileTree := ⟨[], [[]]⟩

def chain : Location → List Location
  | [] => [[]]
  | name :: rest => [] :: (chain rest).map (name :: ·)

def content? (t : FileTree) (l : Location) : Option ByteArray :=
  (t.files.find? (·.1 == l)).map (·.2)

def hasDirectory (t : FileTree) (l : Location) : Bool := t.directories.contains l

def addDirectory (t : FileTree) (l : Location) : FileTree :=
  { t with directories := (t.directories ++ chain l).eraseDups }

def addFile (t : FileTree) (l : Location) (content : ByteArray) : FileTree :=
  { t.addDirectory l.dropLast with files := t.files.filter (·.1 != l) ++ [(l, content)] }

/-- Follows the segments of a path from a location; only directories can be left towards a
segment. -/
def walk (t : FileTree) (l : Location) : List (List Char) → Option Location
  | [] => some l
  | segment :: rest =>
    if !t.hasDirectory l then none
    else if segment.isEmpty || segment == ['.'] then walk t l rest
    else if segment == ['.', '.'] then walk t l.dropLast rest
    else
      let next := l ++ [String.ofList segment]
      if t.hasDirectory next || (t.content? next).isSome then walk t next rest else none

def locate (t : FileTree) (p : Path) : Option Location :=
  if p.isAbsolute then t.walk [] p.segments else none

def nameBelow? (directory l : Location) : Option EntryName :=
  if l.dropLast == directory then l.getLast?.bind EntryName.ofText? else none

def names (t : FileTree) (directory : Location) : List EntryName :=
  (t.directories ++ t.files.map (·.1)).filterMap (nameBelow? directory)

def pathOf (l : Location) : Path := ⟨"/" ++ "/".intercalate l⟩

def system (t : FileTree) : FileSystem where
  isDirectory p := (t.locate p).any t.hasDirectory
  isFile p := (t.locate p).any fun l => (t.content? l).isSome
  list p := (t.locate p).bind fun l => if t.hasDirectory l then some (t.names l) else none
  read p := (t.locate p).bind t.content?
  canonical p := (t.locate p).map pathOf

end FileTree

end DetectorGeometry
