import DetectorGeometry.Model.Basic

/-!
The search for model files along a list of paths. A directory stands for the model files in it, in
ascending order of their names; any other path stands for a model file itself.
-/
namespace DetectorGeometry

/-- A model file that has been found, and the type name that it gives to its model. -/
structure ModelFile where
  name : String
  path : Path
deriving DecidableEq

namespace ModelFile

def extension : String := "conf"

def ofPath (path : Path) : Except SettingsError ModelFile := do
  return ⟨← Model.nameOfFile path, path⟩

def isListed (files : FileSystem) (path : Path) : Bool :=
  files.isFile path && path.extension? == some extension

def found (files : FileSystem) (path : Path) : Except SettingsError (List ModelFile) :=
  if files.isDirectory path then
    match files.list path with
    | none => .error (.unreadable path .refused)
    | some names =>
      let listed := names.filter fun name => isListed files (path.entry name)
      let sorted := listed.mergeSort fun a b => decide (a.text ≤ b.text)
      sorted.mapM fun name => ofPath (path.entry name)
  else do
    return [← ofPath path]

def search (files : FileSystem) (paths : List Path) : Except SettingsError (List ModelFile) := do
  let groups ← paths.mapM (found files)
  return groups.flatten

end ModelFile

namespace Environment

def standardDataDirectories : String := "/usr/local/share/:/usr/share/"

def dataPaths (env : Environment) : List Path :=
  let set := env.dataDirectories.getD ""
  let list := if set.isEmpty then standardDataDirectories else set
  ((Text.split ':' list.toList).filter (!·.isEmpty)).map fun directory => ⟨String.ofList directory⟩

/-- The standard model directories that exist: that of the library, then those below the data
directories. -/
def modelPaths (env : Environment) : List Path :=
  (env.builtinModels :: env.dataPaths.map fun p => (p.join ⟨"allpix"⟩).join ⟨"models"⟩).filter
    env.files.isDirectory

end Environment

end DetectorGeometry
