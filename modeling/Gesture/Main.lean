import Gesture.CommandLine
import Gesture.Feed
import Gesture.Shell

namespace Gesture.Main

open CommandLine

def stack : Stack :=
  .ofFrames 980

def usage : String :=
  "usage: gesture check|run|events SETTINGS\n       gesture run -v SETTINGS\n"

/-- The cause of a file's failure, by its number, which may come negated in two's complement. -/
def fileError (code : UInt32) (reason : String) : FileError :=
  match if code.toNat < 0x80000000 then code.toNat else 0x100000000 - code.toNat with
  | 2 => .missing
  | 20 => .notADirectory
  | 21 => .isADirectory
  | 36 => .nameTooLong
  | number => .other number reason

def readFile (path : Path) : IO (Path × Except FileError (List UInt8)) := do
  try
    let bytes ← IO.FS.readBinFile path.shown
    return (path, .ok bytes.toList)
  catch
    | .noFileOrDirectory _ code reason => return (path, .error (fileError code reason))
    | .inappropriateType _ code reason => return (path, .error (fileError code reason))
    | .invalidArgument _ code reason => return (path, .error (fileError code reason))
    | .permissionDenied _ code reason => return (path, .error (fileError code reason))
    | .otherError code reason => return (path, .error (fileError code reason))
    | e => return (path, .error (.other 5 (toString e)))

def readerOf (known : List (Path × Except FileError (List UInt8))) : FileReader :=
  fun path => (known.lookup path).getD (.error .missing)

def readFiles (settings : Path) : IO FileReader := do
  let first ← readFile settings
  match loadSettings stack (readerOf [first]) settings with
  | .error _ => return readerOf [first]
  | .ok s => return readerOf [first, ← readFile (s.resolve s.actionsPath)]

def readPipe (reader : FileReader) (settings : Path) : IO (List Raw) := do
  match loadSettings stack reader settings with
  | .error _ => return []
  | .ok s =>
    match s.virtualButtonPipe with
    | none => return []
    | some pipe =>
      match ← readFile (s.resolve pipe) with
      | (_, .error _) => return []
      | (_, .ok bytes) =>
        let time := Binary64.ofRatio false (← IO.monoMsNow) 1000
        return (Feed.reports (Feed.pump [bytes])).map fun r => ⟨r.1, r.2, time⟩

def levelText : LogLevel → String
  | .debug => "DEBUG"
  | .info => "INFO"
  | .warning => "WARNING"
  | .error => "ERROR"

def print (verbose : Bool) : Except Failure Report → IO UInt32
  | .error _ => do
    IO.eprintln "gesture: the settings or the table cannot be used"
    return 2
  | .ok report => do
    for l in report.logs do
      if verbose || l.level != .debug then
        IO.eprintln (levelText l.level ++ ": " ++ l.message)
    IO.print report.output
    IO.eprint report.errors
    return UInt32.ofNat report.code

def settleMillis : Int := 5000

def arrivalsOf (raws : List Raw) : List Recognizer.Arrival :=
  raws.map fun raw => ⟨0, raw⟩

def runProgram (program : Program) (verbose : Bool) (settings : String) : IO UInt32 := do
  let settings := Path.ofText settings
  let reader ← readFiles settings
  match program with
  | .check => print verbose (check stack reader settings)
  | .run =>
    let raws ← readPipe reader settings
    let endTime := if raws.isEmpty then 0 else settleMillis
    print verbose (run stack Shell.start reader settings (arrivalsOf raws) endTime)
  | .events => print verbose (events stack reader settings (← readPipe reader settings))

end Gesture.Main

def main (arguments : List String) : IO UInt32 := do
  match arguments with
  | ["check", settings] => Gesture.Main.runProgram .check false settings
  | ["run", "-v", settings] => Gesture.Main.runProgram .run true settings
  | ["run", settings] => Gesture.Main.runProgram .run false settings
  | ["events", settings] => Gesture.Main.runProgram .events false settings
  | _ =>
    IO.eprint Gesture.Main.usage
    return 2
