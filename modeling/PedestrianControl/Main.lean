import PedestrianControl.CommandLine.ClientProgram
import PedestrianControl.CommandLine.ServerProgram
import PedestrianControl.Toml.Document

/-!
# The command line

`server` with arguments runs the server program. It serves one connection, whose bytes come on standard input
and leave on standard output; the log goes to standard error. `client` with arguments runs the client
program against a server of its own, with an empty world.

Both work on the files below the working directory. They are read at the start; what the programs
write is stored before their replies are sent.
-/

namespace PedestrianControl.CommandLine

/-- How deep below the working directory files are read. -/
def treeDepth : Nat := 16

/-- The store with what a directory holds, and the directories in it so many levels down. -/
def withEntries : Nat → Location → Array IO.FS.DirEntry → FileStore → IO FileStore
  | 0, _, _, store => return store
  | levels + 1, location, entries, store =>
    entries.foldlM
      (fun store e => do
        let inside := location ++ [e.fileName]
        match (← e.path.metadata).type with
        | .dir =>
          withEntries levels inside (← e.path.readDir) (store.set inside .directory)
        | .file =>
          return store.set inside (.file (← IO.FS.readBinFile e.path).toList)
        | _ => return store)
      store

/-- The files below the working directory. -/
def readStore : IO FileStore := do
  let directory ← IO.currentDir
  let location := Path.pieces (toString directory)
  withEntries treeDepth location (← directory.readDir) (.inDirectory location)

/-- Stores what is in the second store and was not in the first. -/
def writeStore (before after : FileStore) : IO Unit :=
  after.entries.forM fun (location, entry) => do
    if before.at? location ≠ some entry then
      let path := Path.ofComponents true location
      match entry with
      | .directory => IO.FS.createDirAll path
      | .file content => IO.FS.writeBinFile path ⟨content.toArray⟩

/-- Serves a connection until one of the two sides ends it. -/
partial def serve (input output : IO.FS.Stream) (connection : Nat) (server : Server World) :
    IO Unit := do
  let received ← input.read 65536
  unless received.isEmpty do
    let (replies, isOpen, after) := server.arrive connection received.toList
    writeStore server.shared.files after.shared.files
    output.write ⟨replies.toArray⟩
    output.flush
    if isOpen then serve input output connection after

/-- Writes the lines of a log to standard error. -/
def writeLog (log : List LogLine) : IO Unit :=
  log.forM fun l => IO.eprintln s!"{l.level.name} {l.text}"

/-- The server program. -/
def runServer (args : List String) : IO UInt32 := do
  match ServerProgram.run Toml.read (← readStore) args with
  | .stopped .usage => return 2
  | .stopped _ => return 0
  | .failed log =>
    writeLog log
    return 1
  | .listening log server =>
    writeLog log
    serve (← IO.getStdin) (← IO.getStdout) 0 (server.accept 0)
    return 0

/-- The client program, with a server of its own. -/
def runClient (args : List String) : IO UInt32 := do
  let files ← readStore
  match ServerProgram.run Toml.read files [] with
  | .listening _ server =>
    let (outcome, after) := ClientProgram.run .connected files 0 args server
    writeStore files after.shared.files
    IO.print outcome.output
    IO.eprint outcome.errors
    return outcome.code.toUInt32
  | _ => return 1

end PedestrianControl.CommandLine

open PedestrianControl.CommandLine in
/-- Runs the program that the first argument names. -/
def main (args : List String) : IO UInt32 := do
  match args with
  | "server" :: args => runServer args
  | "client" :: args => runClient args
  | _ => return 2
