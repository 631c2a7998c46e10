import BrokerTrial.Command

/-!
# The program

The command line over the files, the random bytes and the clock of this machine, which reaches no
network.
-/

namespace BrokerTrial

/-- How many draws a source is given for some messages: short draws repeat often. -/
def drawsFor (count length : Nat) : Nat := if 8 ≤ length then count + 8 else 32 * count + 4096

/-- The contents of a file, or why there are none. -/
def readFile (path : String) : IO (Except String ByteArray) := do
  try
    return .ok (← IO.FS.readBinFile path)
  catch
    | .noFileOrDirectory .. => return .error Tuning.missingFile
    | e => return .error (toString e)

/-- Plain texts for what the readers of documents and the runtime word. -/
def plainly : Wording where
  malformed record _ := "no JSON with a " ++ record
  place _ _ _ := ""
  toml _ := "no TOML"
  task := "the task panicked"

/-- A port that nobody listens at, most likely. -/
def freePort : IO Nat := IO.rand 49152 65535

/-- Carry out a command, and give the status to exit with. -/
def program (args : List String) : IO UInt32 := do
  let port ← freePort
  let invocation := Command.Invocation.ofArgs args
  let config := match invocation with
    | .ok (.send _ a) => a.config
    | .ok (.wait a _) => a.config
    | .error _ => none
  let file ← match config with
    | some path => readFile path
    | none => pure (.error Tuning.missingFile)
  let entropy ← match invocation with
    | .ok (.send mode a) =>
      match a.prepare mode fun _ => file with
      | .ok (t, _) =>
        let length := t.tuning.messageLength
        let bytes ← IO.getRandomBytes (USize.ofNat (length * drawsFor t.messageCount length))
        pure (Entropy.ofScript bytes.toList length "no random bytes left")
      | .error _ => pure ⟨[], ""⟩
    | _ => pure ⟨[], ""⟩
  let world : Command.World Unit :=
    { wording := plainly, contents := fun _ => file, entropy := fun _ _ => entropy, bind := Address.bind port
      link := Http.Link.down, traffic := fun _ _ => [] }
  let ending := world.command args ()
  IO.sleep (UInt32.ofNat (min ending.time (Nat.pow 2 32 - 1)))
  IO.print ending.output
  IO.eprint ending.errors
  return UInt32.ofNat ending.status

end BrokerTrial

def main (args : List String) : IO UInt32 := BrokerTrial.program args
