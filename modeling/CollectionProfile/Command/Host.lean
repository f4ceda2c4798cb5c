import CollectionProfile.Command.Disk

/-!
# Hosts

What a command needs of the machine it runs on: files, two streams to print to, and a clock. A
`Machine` is a host held in memory.
-/

namespace CollectionProfile

/-- A monad in which commands can run. -/
class Host (m : Type → Type) where
  readFile : String → m (Except FileFault ByteArray)
  /-- Makes a directory and those around it, as far as they are missing. -/
  makeDirectories : String → m (Except FileFault Unit)
  writeFile : String → ByteArray → m (Except FileFault Unit)
  /-- Adds to the end of a file, which is made where it is missing. -/
  appendFile : String → String → m (Except FileFault Unit)
  printOut : String → m Unit
  printError : String → m Unit
  /-- The present time. -/
  time : m String
  /-- Starts to measure, and gives how to tell the milliseconds since. -/
  startTimer : m (m String)

/-- A machine in memory. -/
structure Machine where
  disk : Disk
  /-- What was printed to standard output. -/
  out : String := ""
  /-- What was printed to standard error. -/
  err : String := ""
  /-- What the clock shows, and every measurement. -/
  clock : String := "0"
deriving Inhabited

namespace Machine

/-- Changes the disk of a machine, unless that fails. -/
def onDisk (change : Disk → Except FileFault Disk) : StateM Machine (Except FileFault Unit) :=
  fun machine =>
    match change machine.disk with
    | .ok disk => (.ok (), { machine with disk })
    | .error fault => (.error fault, machine)

instance : Host (StateM Machine) where
  readFile path := fun machine => (machine.disk.read path, machine)
  makeDirectories path := onDisk (·.makeDirectories path)
  writeFile path contents := onDisk (·.write path contents)
  appendFile path text := onDisk (·.append path text)
  printOut text := modify fun machine => { machine with out := machine.out ++ text }
  printError text := modify fun machine => { machine with err := machine.err ++ text }
  time := return (← get).clock
  startTimer := return (return (← get).clock)

end Machine

end CollectionProfile
