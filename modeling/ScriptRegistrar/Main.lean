import ScriptRegistrar.CommandLine.Basic

namespace ScriptRegistrar.CommandLine

/-- The files below an open directory, in no order. -/
partial def filesIn (entries : Array IO.FS.DirEntry) (location : Location) :
    IO (List Location) := do
  let mut found := []
  for entry in entries do
    let here := location ++ [entry.fileName]
    match (← entry.path.symlinkMetadata).type with
    | .file => found := here :: found
    | .dir => found := (← filesIn (← entry.path.readDir) here) ++ found
    | _ => continue
  return found

/-- The text of a directory's path. The empty path is where the program runs. -/
def directoryText (directory : Path) : String :=
  if directory.text = "" then "." else directory.text

/-- A directory that cannot be read is not there. The texts of the files are left out. -/
def surveyDirectory (directory : Path) : IO Disk := do
  try
    let opened ← IO.FS.realPath directory.text
    let found ← filesIn (← opened.readDir) directory.location
    let (disk, _) := Disk.empty.makeDirectories directory
    return found.foldl (fun disk location => disk.set location (.file "")) disk
  catch _ => return .empty

def attempt (path : Path) (work : IO Unit) : ExceptT GenerationError IO Unit := do
  try work catch _ => throw (.blocked path)

def writeBelow (base : Path) (file : Source.RenderedFile) : ExceptT GenerationError IO Report := do
  let path := base.join file.path
  let directory := path.parent.trimmed
  attempt directory (IO.FS.createDirAll (directoryText directory))
  attempt path (IO.FS.writeFile path.text file.contents)
  return { written := [path] }

def deleteAll (paths : List Path) : ExceptT GenerationError IO Report := do
  for path in paths do
    attempt path (IO.FS.removeFile path.text)
  return { deleted := paths }

def machineWorkplace : Workplace IO where
  read? path := do
    try return some (← IO.FS.readFile path.text) catch _ => return none
  survey := surveyDirectory
  change
    | .deleteStale file => (deleteAll [file.path]).run
    | .write base file => (writeBelow base file).run
    | .cleanScripts directory => do
      let disk ← surveyDirectory directory
      (deleteAll (ScriptResource.existing disk directory)).run

def readEnvironment : IO Environment := do
  let format ← IO.getEnv LogOptions.formatVariable
  let level ← IO.getEnv LogOptions.levelVariable
  return fun name =>
    if name = LogOptions.formatVariable then format
    else if name = LogOptions.levelVariable then level
    else none

end ScriptRegistrar.CommandLine

open ScriptRegistrar.CommandLine in
def main (arguments : List String) : IO UInt32 := do
  let reply ← answer machineWorkplace (← readEnvironment) arguments
  for line in reply.logLines do
    IO.eprintln line
  IO.print reply.output
  IO.eprint (reply.error.getD "")
  return reply.code
