import Potfile.CommandLine

/-! # The program

The command line on the files of the machine.
-/

open Potfile

/-- A path below the working directory, in the form that the operations on files take. -/
def onDisk (path : String) := (do return (← IO.currentDir) / path : IO _)

def reasonOf (e : IO.Error) : String :=
  match e with
  | .noFileOrDirectory .. => FileError.notFound.message
  | .alreadyExists .. => FileError.alreadyExists.message
  | .inappropriateType .. => FileError.notDirectory.message
  | e => toString e

/-- An operation on files, with the reason if it fails. -/
def attempt (act : IO α) : IO (Except String α) := do
  try return .ok (← act) catch e => return .error (reasonOf e)

def diskSystem : FileSystem IO :=
  .ofReasons (fun path => attempt do IO.FS.readBinFile (← onDisk path))
    (fun path bytes => attempt do IO.FS.writeBinFile (← onDisk path) bytes)
    (fun path => attempt do IO.FS.createDirAll (← onDisk path))

def diskDirectory : Directory IO where
  «exists» path := do return path ≠ "" && (← (← onDisk path).pathExists)
  isFile path := do
    let path ← onDisk path
    return (← path.pathExists) && !(← path.isDir)
  isDirectory path := do return path ≠ "" && (← (← onDisk path).isDir)
  names path := do
    try
      return some ((← (← onDisk path).readDir).toList.map (·.fileName))
    catch _ => return none

def main (args : List String) : IO UInt32 := do
  let out ← CommandLine.run diskSystem diskDirectory args
  IO.print out.stdout
  IO.eprint out.stderr
  return out.exitCode.toUInt32
