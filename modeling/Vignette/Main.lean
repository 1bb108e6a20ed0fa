import Vignette.Command.World

/-!
# The program

Reads the command line, carries the command out on the real files, and prints what it shows. No
browser is connected to it, so what has to be captured is answered as a browser that cannot be
started; everything that is in the store is there to be had.
-/

namespace Vignette

/-- The system's reason for a refusal. -/
def systemError : IO.Error → SystemError
  | .noFileOrDirectory .. => .notFound
  | .permissionDenied .. => .denied
  | .alreadyExists .. => .alreadyThere
  | .inappropriateType .. => .notDirectory
  | .resourceExhausted .. => .other "No space left on device (os error 28)"
  | e => .other (toString e)

/-- The answer of an action that may be refused. -/
def tried {α : Type} (x : IO α) : IO (Except SystemError α) := do
  match ← x.toBaseIO with
  | .ok a => return .ok a
  | .error e => return .error (systemError e)

/-- A step on files, done. -/
def fileStep : (step : FileStep) → IO step.Answer
  | .read path => tried (IO.FS.readBinFile path.text)
  | .makeFolders path => tried (if path.names.isEmpty then pure () else IO.FS.createDirAll path.text)
  | .create path => tried (IO.FS.writeBinFile path.text ByteArray.empty)
  | .append path data => tried do
    let file ← IO.FS.Handle.mk path.text .append
    file.write data
  | .rename source target => tried (IO.FS.rename source.text target.text)
  | .remove path => tried (IO.FS.removeFile path.text)
  | .token => return Text.hexOfBytes (← IO.getRandomBytes 16)

/-- An action of a command, done; the counters so far are kept in `tally`. -/
def commandAction (verbose : Bool) (tally : IO.Ref Tally) : (x : CommandAction) → IO x.Answer
  | .file step => fileStep step
  | .capture _ _ => return .error (.launch "no browser is connected")
  | .note n => if n.level = .debug && !verbose then pure () else IO.println n.line
  | .count kind counter => tally.modify fun t => t ++ [(kind, counter)]
  | .say line => IO.println line
  | .complain line => IO.eprintln line
  | .report => do
    for (name, n) in (← tally.get).report do
      IO.println (name ++ " " ++ Text.decimalText n)
  | .clock => IO.monoNanosNow

/-- A refusal, printed; its exit code. -/
def printRefusal (r : Command.Refusal) : IO UInt32 := do
  for line in r.lines do
    if r.isAnswer then IO.println line else IO.eprintln line
  return if r.isAnswer then 0 else 2

end Vignette

open Vignette in
def main (words : List String) : IO UInt32 := do
  match Invocation.parse words with
  | .error r => printRefusal r
  | .ok i =>
    let answer := commandAction i.options.verbose (← IO.mkRef [])
    let conclusion ← Program.runIn answer (i.carryOut Decoder.builtIn)
    return UInt32.ofNat (← Program.runIn answer (i.close (some conclusion)))
