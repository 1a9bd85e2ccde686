import DetectorGeometry.Settings.Section
import DetectorGeometry.Text.Lowercase
import DetectorGeometry.Text.Split

/-!
Documents: sections of settings in order. The text of a document is read line by line; settings in
front of the first header belong to an anonymous section, which is left out when it has none.
-/
namespace DetectorGeometry

structure Document where
  sections : List Section
deriving DecidableEq

namespace Document

def readLines (source : Option Path) (number : Nat) :
    List (List Char) → Except SettingsError (List Line)
  | [] => .ok []
  | line :: rest =>
    match Line.read line with
    | .error fault => .error (.malformed source number fault)
    | .ok line => do
      let others ← readLines source (number + 1) rest
      return line :: others

/-- A section that ends, unless it is anonymous and empty. -/
def finish (s : Section) : List Section :=
  if s.isAnonymous && s.isEmpty then [] else [s]

def sectionsFrom (source : Option Path) (current : Section) : List Line → List Section
  | [] => finish current
  | .empty :: rest => sectionsFrom source current rest
  | .header name :: rest => finish current ++ sectionsFrom source (.new name source) rest
  | .setting key value :: rest => sectionsFrom source (current.set key value) rest

def parse (text : String) (source : Option Path) : Except SettingsError Document := do
  let lines ← readLines source 1 (Text.split '\n' text.toList)
  return ⟨sectionsFrom source (.new "" source) lines⟩

def load (files : FileSystem) (path : Path) : Except SettingsError Document :=
  match files.read path with
  | none => .error (.unreadable path .refused)
  | some bytes =>
    match String.fromUTF8? bytes with
    | none => .error (.unreadable path .notText)
    | some text => parse text (some path)

def add (d : Document) (s : Section) : Document := ⟨d.sections ++ [s]⟩

def anonymous (d : Document) : List Section := d.sections.filter (·.isAnonymous)

def named (d : Document) : List Section := d.sections.filter fun s => !s.isAnonymous

def withName (d : Document) (name : String) : List Section :=
  d.sections.filter fun s => Text.sameIgnoringCase s.name name

/-- The anonymous sections merged into one, in which the first definition of a key counts. -/
def header (d : Document) : Section :=
  match d.anonymous with
  | [] => .new "" none
  | first :: others => others.foldl .merge first

end Document

end DetectorGeometry
