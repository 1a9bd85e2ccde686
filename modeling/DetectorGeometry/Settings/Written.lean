import DetectorGeometry.Settings.Document

namespace DetectorGeometry

def Section.headerLines (s : Section) : List String :=
  if s.isAnonymous then [] else ["[" ++ s.name ++ "]"]

def Section.settingLines (s : Section) : List String :=
  s.settings.entries.map fun (key, value) => key ++ " = " ++ value

def Section.writtenLines (s : Section) : List String := s.headerLines ++ s.settingLines

def Document.written (d : Document) : String :=
  String.join ((d.sections.flatMap Section.writtenLines).map (· ++ "\n"))

end DetectorGeometry
