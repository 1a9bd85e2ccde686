import DetectorGeometry.Files.Path

namespace DetectorGeometry

structure FileSystem where
  isDirectory : Path → Bool
  isFile : Path → Bool
  /-- The names of the entries of a directory, in whatever order the system gives them, if it can be
  listed. -/
  list : Path → Option (List EntryName)
  read : Path → Option ByteArray
  /-- The absolute path, without dots and links, of what a path leads to, if there is anything. -/
  canonical : Path → Option Path

structure Environment where
  files : FileSystem
  builtinModels : Path
  /-- The colon-separated list of data directories, if it is set. -/
  dataDirectories : Option String

end DetectorGeometry
