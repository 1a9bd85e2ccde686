import DetectorGeometry.Text.Split

/-!
Paths of files and directories. A path is a text that slashes cut into segments. Empty segments and
later segments `.` name nothing, so they do not count when the last part of a path is looked for;
the text itself is never normalised.
-/
namespace DetectorGeometry

structure Path where
  text : String
deriving DecidableEq

namespace Path

def segments (p : Path) : List (List Char) := Text.split '/' p.text.toList

def ofSegments (segments : List (List Char)) : Path :=
  ⟨String.ofList (['/'].intercalate segments)⟩

def isAbsolute (p : Path) : Bool := p.text.toList.head? == some '/'

/-- Whether a segment names something; a dot does so only at the start of a path. -/
def counts (atStart : Bool) (segment : List Char) : Bool :=
  !segment.isEmpty && (atStart || segment != ['.'])

def parts (p : Path) : List (List Char) :=
  match p.segments with
  | [] => []
  | first :: rest => [first].filter (counts true) ++ rest.filter (counts false)

def sameParts (p q : Path) : Bool := p.isAbsolute == q.isAbsolute && p.parts == q.parts

def dropIdle (atStart : Bool) : List (List Char) → List (List Char)
  | [] => []
  | segment :: rest =>
    match dropIdle false rest with
    | [] => if counts atStart segment then [segment] else []
    | kept => segment :: kept

def namingSegments (p : Path) : List (List Char) := dropIdle true p.segments

def parent? (p : Path) : Option Path :=
  match p.namingSegments with
  | [] => none
  | named =>
    match dropIdle true named.dropLast with
    | [] => some ⟨if p.isAbsolute then "/" else ""⟩
    | kept => some (ofSegments kept)

def fileName? (p : Path) : Option String :=
  match p.namingSegments.getLast? with
  | none => none
  | some name => if name = ['.'] ∨ name = ['.', '.'] then none else some (String.ofList name)

/-- Splits a file name at its last dot into stem and extension. A name without a dot, or with its
only dot in front, is all stem. -/
def splitExtension (name : String) : String × Option String :=
  let reversed := name.toList.reverse
  match reversed.dropWhile (· != '.') with
  | [] => (name, none)
  | _ :: stem =>
    if stem.isEmpty then (name, none)
    else (String.ofList stem.reverse, some (String.ofList (reversed.takeWhile (· != '.')).reverse))

def stem? (p : Path) : Option String := p.fileName?.map fun name => (splitExtension name).1

def extension? (p : Path) : Option String := p.fileName?.bind fun name => (splitExtension name).2

/-- `other` as seen from the directory `p`; an absolute path stays what it is. -/
def join (p other : Path) : Path :=
  if other.isAbsolute then other
  else if p.text.isEmpty || p.text.toList.getLast? == some '/' then ⟨p.text ++ other.text⟩
  else ⟨p.text ++ "/" ++ other.text⟩

end Path

/-- A name that an entry of a directory can have: one segment that names something and does not lead
upwards. -/
structure EntryName where
  text : String
  named : text ≠ "" ∧ text ≠ "." ∧ text ≠ ".."
  undivided : '/' ∉ text.toList
deriving DecidableEq

def EntryName.ofText? (text : String) : Option EntryName :=
  if proper : (text ≠ "" ∧ text ≠ "." ∧ text ≠ "..") ∧ '/' ∉ text.toList then
    some ⟨text, proper.1, proper.2⟩
  else none

def Path.entry (p : Path) (name : EntryName) : Path := p.join ⟨name.text⟩

end DetectorGeometry
