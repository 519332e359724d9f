import KernelJob.Run.Config
import KernelJob.Settings.Checked

/-! # Servers and their registry

A server entry names a kernel and the limits that jobs on it run under. A registry lists entries;
looking up a kernel gives the first entry for it.
-/

namespace KernelJob

/-- An entry of the registry. -/
structure Server where
  /-- The display name. -/
  serverName : Text := "Python"
  /-- The kernel. -/
  kernel : Text := "python3"
  launchTimeout : Float := 30.0
  maxResults : Int := 1000
  executionTimeout : Option Float := none
  /-- The connection file of a kernel that is running already. -/
  connectionFile : Text := []

namespace Server

/-- A number above zero. -/
def readPositive (v : Json) : Except Problem Float :=
  match v.readFloat with
  | .ok x => if 0.0 < x then .ok x else .error .notPositive
  | .error p => .error p

/-- A number above zero, or null. -/
def readOptionalPositive : Json → Except Problem (Option Float)
  | .null => .ok none
  | v => (readPositive v).map some

/-- A whole number that is not negative. -/
def readLimit (v : Json) : Except Problem Int :=
  match v.readInt with
  | .ok n => if 0 ≤ n then .ok n else .error .negative
  | .error p => .error p

/-- A name that is not blank, without the blanks around it. -/
def readKernel (v : Json) : Except Problem Text :=
  match v.readText with
  | .ok t => if t.trim = [] then .error (.custom "Kernel name must not be empty") else .ok t.trim
  | .error p => .error p

/-- The entry that fields describe. -/
def ofFields (fields : Fields) : Checked Server :=
  (((Checked.fieldOr fields "server_name" ("Python" : Text) fun v => .ofReading v.readText).both
    (Checked.fieldOr fields "kernel" ("python3" : Text) fun v => .ofReading (readKernel v))).both
  (((Checked.fieldOr fields "launch_timeout" 30.0 fun v => .ofReading (readPositive v)).both
    (Checked.fieldOr fields "max_results" 1000 fun v => .ofReading (readLimit v))).both
  ((Checked.fieldOr fields "execution_timeout" none
      fun v => .ofReading (readOptionalPositive v)).both
    (Checked.fieldOr fields "connection_file" [] fun v => .ofReading v.readText)))).map
  fun ((serverName, kernel), (launch, limit), execution, file) =>
    ⟨serverName, kernel, launch, limit, execution, file⟩

/-- The name of the model in complaints. -/
def model : Text := "ServerConfig"

/-- The entry that a value describes. -/
def read (v : Json) : Checked Server :=
  match v.readFields model with
  | .ok fields => ofFields fields
  | .error p => .error [⟨[], p⟩]

end Server

/-- A list of entries and the kernel that is used where none is named. -/
structure Registry where
  servers : List Server
  defaultKernel : Text := []

namespace Registry

/-- The kernels of the entries, in order. -/
def kernelNames (r : Registry) : List Text := r.servers.map Server.kernel

/-- The name that is looked up for a kernel: its own, or the default. -/
def nameFor (r : Registry) (kernel : Option Text) : Text :=
  match kernel with
  | some (c :: cs) => c :: cs
  | _ => r.defaultKernel

/-- The entry for a kernel. Without a name, and without a default, it is the first entry. -/
def find? (r : Registry) (kernel : Option Text) : Option Server :=
  if r.nameFor kernel = [] then r.servers.head?
  else r.servers.find? (·.kernel == r.nameFor kernel)

/-- The entry for a kernel, which has to be there. -/
def get (r : Registry) (kernel : Option Text) : Except ConfigFault Server :=
  match r.find? kernel with
  | some s => .ok s
  | none =>
    if r.servers.isEmpty then .error .noKernels else .error (.unknownKernel (r.nameFor kernel))

end Registry

end KernelJob
