import RemoteSigner.Command.Execution
import RemoteSigner.Protection.Document

/-!
# The program

All that touches the outside: arguments, variables, the files below the current
directory, the clock, random bytes and the streams. A command acts on a picture
of the files; what it changed is written back. A protection database is kept as
a document. A signer that serves answers requests, one document a line.
-/

namespace RemoteSigner.Program

/-- The path of a place. -/
def pathOf (place : Place) : String :=
  "/" ++ String.intercalate "/" place

/-- Add what is in a directory to a picture, and what is below it. -/
partial def lookInto (place : Place) (disk : Disk) : IO Disk := do
  let mut disk := { disk with directories := disk.directories ++ [place] }
  let here ← IO.currentDir
  for entry in ← (here / pathOf place).readDir do
    let inner := place ++ [entry.fileName]
    let facts ← entry.path.metadata
    match facts.type with
    | .dir => disk ← lookInto inner disk
    | .file =>
        let content ← IO.FS.readBinFile entry.path
        let modified := facts.modified.sec.toNat * 1000000000 + facts.modified.nsec.toNat
        disk := { disk with files := disk.files ++ [(inner, ⟨content.toList, modified⟩)] }
    | _ => pure ()
  pure disk

/-- The directories above a place, outermost first. -/
def above (place : Place) : List Place :=
  (List.range place.length).tail.map place.take

/-- The files below the current directory, with the databases among them. -/
def look : IO Site := do
  let here := (← IO.currentDir).components.filter fun name => name ≠ "/" ∧ name ≠ ""
  let disk ← lookInto here ⟨[], above here, here, 0⟩
  let databases := disk.files.filterMap fun (place, file) =>
    (Database.decode.ofBytes file.content).toOption.map (place, ·)
  pure ⟨disk, databases, []⟩

/-- Write a file. -/
def write (place : Place) (content : Bytes) : IO Unit :=
  IO.FS.writeBinFile (pathOf place) ⟨content.toArray⟩

/-- Write back what changed between two sites. -/
def save (old new : Site) : IO Unit := do
  for place in new.disk.directories do
    unless old.disk.hasDirectoryAt place do
      IO.FS.createDirAll (pathOf place)
  for (place, _) in old.disk.files do
    if (new.disk.fileAt? place).isNone then
      IO.FS.removeFile (pathOf place)
  for (place, file) in new.disk.files do
    if (old.disk.fileAt? place).map (·.content) ≠ some file.content then
      write place file.content
  for (place, database) in new.databases do
    if old.databases.lookup place ≠ some database then
      write place (Utf8.encode database.toJson.pretty)

/-- The variables that are set. -/
def environment : IO (List (String × String)) := do
  let names := Settings.variableTable.map fun v => Settings.variableMark ++ v.1
  names.filterMapM fun name => do
    pure ((← IO.getEnv name).map (name, ·))

/-- Random bytes. -/
def randomBytes (count : Nat) : IO Bytes := do
  pure (← IO.getRandomBytes (USize.ofNat count)).toList

/-- Random bytes for a proxy. -/
def entropy : IO ProxyEntropy := do
  let draws ← (List.range 8).mapM fun _ => return FixedBytes.fit 32 (← randomBytes 32)
  pure ⟨draws, ⟨.fit 32 (← randomBytes 32), .fit 16 (← randomBytes 16),
    .fit 16 (← randomBytes 16)⟩⟩

/-- A header of a request. -/
def header : Json.Decoder (String × String) :=
  .record "a header" ["name", "value"] fun fs =>
    Prod.mk <$> fs.required "name" .text <*> fs.required "value" .text

/-- A request as a document. -/
def request : Json.Decoder Http.Request :=
  .record "a request" ["method", "target", "headers", "body"] fun fs =>
    (fun method target headers body => Http.Request.of method target headers (Utf8.encode body))
      <$> fs.required "method" .text
      <*> fs.required "target" .text
      <*> fs.withDefault "headers" (.list header) []
      <*> fs.withDefault "body" .text ""

/-- A response as a document. -/
def response (r : Http.Response) : Json :=
  .record [("status", .count r.status),
    ("content_type", (r.contentType.map Json.text).getD .null), ("body", .text r.body)]

/-- The site of a signer. -/
def siteOf (s : Site) (place : Option Place) (d : Daemon) : Site :=
  let s := { s with disk := d.disk }
  place.elim s fun place => s.putDatabase place d.engine.database

/-- Answer requests until there are no more. What a request changed is written
back before its response. -/
partial def serve (s : Site) (place : Option Place) (d : Daemon) (since : Nat) : IO Unit := do
  let line ← (← IO.getStdin).getLine
  unless line.isEmpty do
    let now ← IO.monoMsNow
    let before := { s with disk := (← look).disk }
    let d := { d with disk := before.disk }.pass (now - since)
    let (answer, d) ← match request.ofText line.trimAscii.toString with
      | .error e => pure (Http.Response.plain 400 e.message, d)
      | .ok r => do pure (d.respond (← entropy) r)
    let d := d.pass 1
    let after := siteOf before place d
    save before after
    IO.println (response answer).compact
    (← IO.getStdout).flush
    serve after place d (now + 1)

/-- The usage. -/
def usage : String :=
  "Usage: vigil [--config FILE] [--log-level FILTER] COMMAND\n\n" ++
    "Commands:\n" ++
    "  run               serve the signer\n" ++
    "  export            write signing history to a file: --to FILE [--pubkeys KEY,...]\n" ++
    "  import            take signing history in from a file: --from FILE\n" ++
    "  watermark-repair  --slot N, --epoch N, --set-high-watermark, --remove-high-watermark\n"

/-- Run the program. -/
def run (arguments : List String) : IO UInt32 := do
  match Invocation.ofArguments arguments with
  | .error .help => IO.print usage; pure 0
  | .error .fault => IO.eprint usage; pure 2
  | .ok invocation => do
      let before ← look
      let (ending, after) := before.execute .standard (← environment) invocation
      save before after
      match ending with
      | .done => pure 0
      | .failed report => IO.eprint report.text; pure 1
      | .serving place daemon => do
          serve after place daemon (← IO.monoMsNow)
          pure 0

end RemoteSigner.Program

/-- Run the program. -/
def main (arguments : List String) : IO UInt32 :=
  RemoteSigner.Program.run arguments
