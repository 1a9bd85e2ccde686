import DetectorGeometry.Text.Blank

/-!
Lines of a settings document. Each line is read on its own: `[name]` opens a section, `key = value`
makes a setting, and a number sign or a semicolon outside double quotes starts a comment.
-/
namespace DetectorGeometry

inductive Line where
  | empty
  | header (name : String)
  | setting (key value : String)
deriving DecidableEq

inductive LineFault where
  | headerNotClosed
  | headerWithoutName
  | noEqualsSign
  | badKey
deriving DecidableEq

def LineFault.message : LineFault → String
  | headerNotClosed => "section header is missing ']'"
  | headerWithoutName => "section name is empty"
  | noEqualsSign => "expected 'key = value'"
  | badKey => "key is empty or contains whitespace"

namespace Line

def startsComment (c : Char) : Bool := c == '#' || c == ';'

/-- The text up to the comment; `quoted` says whether the text starts inside quotes. -/
def beforeComment (quoted : Bool) : List Char → List Char
  | [] => []
  | c :: rest =>
    if !quoted && startsComment c then []
    else c :: beforeComment (if c = '"' then !quoted else quoted) rest

def readHeader (cs : List Char) : Except LineFault Line :=
  if cs.getLast? = some ']' then
    let name := Text.trim cs.dropLast
    if name.isEmpty then .error .headerWithoutName else .ok (.header (String.ofList name))
  else .error .headerNotClosed

def readSetting (cs : List Char) : Except LineFault Line :=
  match cs.dropWhile (· != '=') with
  | [] => .error .noEqualsSign
  | _ :: value =>
    let key := Text.trim (cs.takeWhile (· != '='))
    if key.isEmpty || key.any Text.isBlank then .error .badKey
    else .ok (.setting (String.ofList key) (String.ofList (Text.trim value)))

def read (cs : List Char) : Except LineFault Line :=
  match Text.trim (beforeComment false cs) with
  | [] => .ok .empty
  | '[' :: rest => readHeader rest
  | content => readSetting content

end Line

end DetectorGeometry
