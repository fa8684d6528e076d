import PocketShell.CommandLine.Program
import Std.Time.Zoned

/-!
The program itself: it takes arguments and variables from the host, keeps the state file in step
with the disk of the shell, and passes lines, keys and frames between terminal and console.
-/

namespace PocketShell.Program

/-- A running program: its console, the level of its log, and the state file as last written. -/
structure Running where
  console : Console FileStore
  level : Nat
  file : DiskPath
  onDisk : Option ByteArray

def hostClock : IO Moment := do
  let now ← Std.Time.PlainDateTime.now
  return ⟨now.date.year.toInt.toNat, now.date.month.val.toNat, now.date.day.val.toNat,
    now.time.hour.val.toNat, now.time.minute.val.toNat, now.time.second.val.toNat⟩

def hostFile (path : DiskPath) : String := Text.shown path.text

/-- The part of the host disk that holds the state file: what is no file that can be read counts
as a directory there, what is missing as missing. -/
def readHostDisk (path : DiskPath) : IO Disk := do
  let above := path.directories
  try
    let bytes ← IO.FS.readBinFile (hostFile path)
    return { files := .ofList [(path.place, bytes)], directories := above }
  catch
    | .noFileOrDirectory .. => return { directories := above }
    | _ => return { directories := path.place :: above }

def stateBytes (r : Running) : Option ByteArray :=
  r.console.shell.machine.store.disk.files.get? r.file.place

def writeHostDisk (r : Running) : IO Running := do
  match stateBytes r with
  | none => return r
  | some bytes =>
      if r.onDisk.map ByteArray.data = some bytes.data then return r
      let parent : DiskPath := ⟨r.file.root, r.file.segments.dropLast⟩
      try
        IO.FS.createDirAll (hostFile parent)
        IO.FS.writeBinFile (hostFile r.file) bytes
      catch e => IO.eprintln s!"{e}"
      return { r with onDisk := some bytes }

def write (t : Text) : IO Unit := do
  let out ← IO.getStdout
  out.putStr (Text.shown t)
  out.flush

/-- Hands out what the console has written and logged since the last time. -/
def settle (r : Running) : IO Running := do
  write r.console.output
  let now ← hostClock
  let stamp := now.isoDate ++ " " ++ Moment.twoDigits now.hour ++ ":" ++ Moment.twoDigits now.minute
    ++ ":" ++ Moment.twoDigits now.second
  let log := logText stamp r.level r.console.shell.machine.log
  (← IO.getStderr).putStr (Text.shown log)
  let shell := r.console.shell.onMachine fun m => { m with log := [], clock := now }
  writeHostDisk { r with console := { r.console with shell := shell, output := [] } }

def drawSpan (s : Span) : Text :=
  let place := "\x1b[" ++ Text.ofNat (s.row + 1) ++ ";" ++ Text.ofNat (s.col + 1) ++ "H"
  if s.isReverse then place ++ "\x1b[7m" ++ s.text ++ "\x1b[0m" else place ++ s.text

/-- Draws and reads keys until every editor is closed or the input ends. -/
partial def edit (r : Running) : IO Running := do
  let surface := r.console.shell.desk.surfaceD
  if !surface.isActive then return r
  let spans := FullScreen.layout r.console.size surface.screen
  write (Console.clearSequence ++ spans.flatMap drawSpan)
  let bytes ← (← IO.getStdin).read 1
  match bytes.toList with
  | [] => return r
  | code :: _ =>
      let shell := match FullScreen.keyOfCode false code.toNat with
        | some k => r.console.shell.send k
        | none => r.console.shell
      edit (← settle { r with console := { r.console with shell := shell } })

def execute (r : Running) (line : Text) : IO Running := do
  let (output, shell) := r.console.shell.execute line
  let r := { r with console := { r.console with shell := shell } }
  match Console.display output with
  | .editors => edit (← settle r)
  | .clear => settle { r with console := r.console.print Console.clearSequence }
  | .silent => settle r
  | .text t => settle { r with console := r.console.print t }

partial def converse (r : Running) : IO Unit := do
  write (Console.prompt r.console.shell)
  let line ← (← IO.getStdin).getLine
  if line.isEmpty then write ['\n']
  else
    let line : Text := line
    converse (← execute r (if line.getLast? = some (.char '\n') then line.dropLast else line))

def screenSize : IO ScreenSize := do
  let read (name : String) (fallback : Nat) : IO Int := do
    return ((← IO.getEnv name).bind String.toNat?).getD fallback
  return ⟨← read "LINES" 24, ← read "COLUMNS" 80⟩

def usage : Text :=
  "usage: unixshell [-h] [--user USER] [--state PATH] [--prefix PREFIX] [--examples]\n" ++
  "                 [--log-level LOG_LEVEL] ...\n"

end PocketShell.Program

open PocketShell Program in
def main (args : List String) : IO UInt32 := do
  let user ← IO.getEnv "UNIXSHELL_USER"
  let state ← IO.getEnv "UNIXSHELL_STATE"
  let stem ← IO.getEnv "UNIXSHELL_PREFIX"
  let setting (name : Text) : Option Text :=
    (if name = "UNIXSHELL_USER" then user
     else if name = "UNIXSHELL_STATE" then state
     else stem).map fun (value : String) => ↑value
  let args : List Text := args.map fun (arg : String) => ↑arg
  let file := match CommandLine.read (CommandLine.defaults setting) args with
    | .options o => DiskPath.ofText o.state
    | _ => DiskPath.ofText []
  let world : World :=
    { disk := ← readHostDisk file, clock := ← hostClock, size := ← screenSize }
  match launch world setting args with
  | .exit code =>
      if code = 0 then write usage else (← IO.getStderr).putStr usage.shown
      return code.toUInt32
  | .fault f =>
      IO.eprintln f.message.shown
      return 1
  | .console console command level =>
      let start ← settle { console, level, file, onDisk := world.disk.files.get? file.place }
      if command.isEmpty then converse start
      else discard (execute start (Text.join [' '] command))
      return 0
