import ServiceBeacon.CommandLine.Setting
import ServiceBeacon.Crypto.Prime
import ServiceBeacon.Program
import Std.Time.DateTime.Timestamp

/-!
# The command line

What the program prints, the status it exits with and what it does to files are
a function of its surroundings.  This module looks at the surroundings and
carries out what the function says.

No sockets are opened.  The run is one in which the listener can be bound, the
registry agent is out of reach, nobody asks for anything, and the program is
told to terminate as soon as it serves.
-/

namespace ServiceBeacon
namespace Main

def readEnvironment : IO CommandLine.Environment := do
  let names := Logger.environmentName ::
    CommandLine.Setting.all.filterMap CommandLine.Setting.environmentName?
  let values ← names.mapM fun name => return (← IO.getEnv name).map fun value => (name, value)
  return values.filterMap id

def readFile (path : String) : IO FileContent := do
  try
    return .bytes (← IO.FS.readBinFile path).toList
  catch
    | .inappropriateType .. => return .directory
    | _ => return .missing

/-- The files that the command line names. -/
def readFiles (arguments : List String) (environment : CommandLine.Environment) :
    IO (String → FileContent) := do
  match CommandLine.parse arguments environment with
  | .ok { config := some path, .. } =>
    let content ← readFile path
    return fun asked => if asked = path then content else .missing
  | _ => return fun _ => .missing

/-- A random odd number of so many bits, the highest two of which are set. -/
def randomOdd (bits : Nat) : IO Nat := do
  let bytes ← IO.getRandomBytes (USize.ofNat (bits / 8))
  return Der.number bytes.toList ||| 3 <<< (bits - 2) ||| 1

/-- A random prime of so many bits. -/
partial def randomPrime (bits : Nat) : IO Nat := do
  let candidate ← randomOdd bits
  if Prime.isLikely candidate then return candidate else randomPrime bits

/-- A key of so many bits, if one is going to be used. -/
def drawKey (config : Config) : IO Rsa := do
  if config.tls.enabled && Config.supportedKeyBits.contains config.tls.keyBits then
    let half := config.tls.keyBits.toNat / 2
    return Rsa.ofPrimes (← randomPrime half) (← randomPrime half)
  else return Rsa.ofPrimes 3 5

/-- Sixteen bytes, which are zero as far as there are not enough. -/
def sixteenOf (bytes : List UInt8) : List UInt8 :=
  (List.range 16).map fun position => bytes[position]?.getD 0

/-- A draw for an issuance. -/
def drawFor (config : Config) : IO Issuer.Draw := do
  let random ← IO.getRandomBytes 16
  let now ← Std.Time.Timestamp.now
  return {
    key := ← drawKey config
    random := sixteenOf random.toList
    sixteen := by simp [sixteenOf]
    clock := now.toNanosecondsSinceUnixEpoch.val.toNat }

/-- The middle of the name of a temporary file. -/
def randomMiddle : IO String := do
  let bytes ← IO.getRandomBytes 6
  return String.ofList (bytes.toList.map fun byte => Char.ofNat (97 + byte.toNat % 26))

/-- What happens during a run: nobody comes, and it is ended when it serves. -/
def circumstancesOf (draw : Issuer.Draw) (certificatePath keyPath : String) (config : Config) :
    Fixture.Circumstances :=
  { draw
    disk := ⟨certificatePath, .complete, keyPath, .complete⟩
    reread := fun _ bytes => .bytes bytes
    socket := .own (.ok ())
    localAddress :=
      .ok
        ((SocketAddress.parse? config.listener.bindAddress.toList).getD
          ⟨.v4 Ipv4.loopback, 0, config.listener.port⟩)
    agent := .absent
    arrivals := []
    serving := .ok ()
    requested := fun phase => phase = .serving }

/-- Carries out a change of the temporary directory. -/
def carryOut : FileChange → IO Unit
  | .created path mode => do
    IO.FS.writeFile path ""
    IO.setAccessRights path
      ⟨⟨mode / 256 % 2 = 1, mode / 128 % 2 = 1, false⟩, ⟨false, false, false⟩,
        ⟨false, false, false⟩⟩
  | .appended path bytes =>
    IO.FS.withFile path .append fun handle => handle.write ⟨bytes.toArray⟩
  | .removed path => IO.FS.removeFile path

/-- Carries out something that happens, in the shape that a logger gives it. -/
def perform (logger : Logger) : Happening → IO Unit
  | .noticed notice =>
    for event in logger.written [notice] do IO.println (logger.line event)
  | .changed change => carryOut change
  | _ => return ()

end Main
end ServiceBeacon

open ServiceBeacon in
/-- Runs the program. -/
def main (arguments : List String) : IO UInt32 := do
  let environment ← Main.readEnvironment
  let files ← Main.readFiles arguments environment
  let config :=
    match CommandLine.parse arguments environment with
    | .ok overrides => (overrides.resolve files).toOption.getD Config.default
    | .error _ => Config.default
  let draw ← Main.drawFor config
  let certificatePath := Issuer.Part.path .certificate "/tmp" (← Main.randomMiddle)
  let keyPath := Issuer.Part.path .privateKey "/tmp" (← Main.randomMiddle)
  let world : Program.World :=
    { arguments
      environment
      files
      exposing := fun _ => .ok ()
      circumstances := Main.circumstancesOf draw certificatePath keyPath
      first := .terminate
      second := .terminate }
  let report := Program.run world
  IO.print report.printed
  IO.eprint report.complaints
  match report.logger with
  | some logger => report.history.forM (Main.perform logger)
  | none => pure ()
  return UInt32.ofNat (report.exitCode.getD 0)
