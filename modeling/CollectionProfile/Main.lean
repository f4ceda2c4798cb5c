import CollectionProfile.Command.Run
import Std.Time.DateTime

/-!
# The program

The command line on a real machine.
-/

namespace CollectionProfile.Command

/-- What is wrong with a file, as the system reports it. -/
def faultOf : IO.Error → FileFault
  | .noFileOrDirectory .. => .notFound
  | .alreadyExists _ code details => ofCode code details
  | .inappropriateType _ code details => ofCode code details
  | .invalidArgument _ code details => ofCode code details
  | .permissionDenied _ code details => ofCode code details
  | .resourceExhausted _ code details => ofCode code details
  | .otherError code details => ofCode code details
  | error => .other (toString error)
where
  /-- The fault with a number, which some calls report as a negative one. -/
  ofCode (code : UInt32) (details : String) : FileFault :=
    match min code (-code) with
    | 2 => .notFound
    | 17 => .alreadyExists
    | 20 => .notDirectory
    | 21 => .isDirectory
    | 36 => .nameTooLong
    | number => .other (details ++ " (os error " ++ toString number ++ ")")

/-- An action on files, with its fault as a value. -/
def attempt {α : Type} (action : IO α) : IO (Except FileFault α) := do
  match ← action.toBaseIO with
  | .ok result => return .ok result
  | .error error => return .error (faultOf error)

/-- Makes a directory and those around it as far as they are missing. The parts of its path are
given with the last one first. -/
def makeDirectoriesAt : List String → IO (Except FileFault Unit)
  | [] => return .ok ()
  | part :: outer => do
    let path := "/".intercalate (part :: outer).reverse
    match ← attempt (IO.FS.createDir path) with
    | .ok () => return .ok ()
    | .error .notFound =>
      have := Disk.length_around_le part outer
      match ← makeDirectoriesAt (Disk.around (part :: outer)) with
      | .ok () => settle path (← attempt (IO.FS.createDir path))
      | .error fault => return .error fault
    | result => settle path result
termination_by reversed => reversed.length
where
  /-- A directory that is there already is as good as a new one. -/
  settle (path : String) (result : Except FileFault Unit) : IO (Except FileFault Unit) := do
    match result with
    | .ok () => return .ok ()
    | .error fault =>
      match ← attempt (IO.FS.realPath path) with
      | .ok found => return if ← found.isDir then .ok () else .error fault
      | .error _ => return .error fault

/-- A number in decimal digits, with zeros in front as far as it has fewer than `width`. -/
def zeroPadded (width value : Nat) : String :=
  let digits := toString value
  String.ofList (List.replicate (width - digits.length) '0') ++ digits

/-- The present time in the universal time zone, down to microseconds. -/
def presentTime : IO String := do
  let now := Std.Time.PlainDateTime.ofWallTime ((← Std.Time.Timestamp.now).toWallTime .zero)
  let date := [zeroPadded 4 (now.year.toNat?.getD 0), zeroPadded 2 now.month.toNat,
    zeroPadded 2 now.day.toNat]
  let time := [zeroPadded 2 now.hour.toNat, zeroPadded 2 now.minute.toNat,
    zeroPadded 2 now.second.toNat]
  let fraction := zeroPadded 6 (now.nanosecond.toNat / 1000)
  return "-".intercalate date ++ "T" ++ ":".intercalate time ++ "." ++ fraction ++ "Z"

instance : Host IO where
  readFile path := attempt (IO.FS.readBinFile path)
  makeDirectories path :=
    let parts := Disk.parts path
    makeDirectoriesAt ((parts.take 1) ++ (parts.drop 1).filter (· ≠ "")).reverse
  writeFile path contents := attempt (IO.FS.writeBinFile path contents)
  appendFile path text := attempt do
    let file ← IO.FS.Handle.mk path .append
    file.putStr text
  printOut text := do
    let out ← IO.getStdout
    out.putStr text
    out.flush
  printError text := do
    let err ← IO.getStderr
    err.putStr text
    err.flush
  time := presentTime
  startTimer := do
    let before ← IO.monoMsNow
    return return toString ((← IO.monoMsNow) - before)

end CollectionProfile.Command

/-- Runs the command line. -/
def main (arguments : List String) : IO UInt32 := do
  CollectionProfile.Command.start arguments (← IO.getEnv "RUST_LOG")
