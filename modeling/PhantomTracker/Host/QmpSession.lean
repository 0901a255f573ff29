import PhantomTracker.Host.QmpParser
import PhantomTracker.Host.ToolExecutions

/-!
Contract: the registration tool and the QMP server it talks to.

Owns: `main` of `register_vm` with `qmp_read_line` and `qmp_send_recv`, byte by byte,
with its failing calls; the server, with the event lines that the protocol allows after
capability negotiation; and the conditions on a session.

Does not own: the retries of `qmp_connect`, the check of the argument count, or sessions
that the server ends before it has sent both replies.
-/

namespace PhantomTracker.Host

open PhantomTracker.Foundation

/-! ## The server -/

/-- A line that the server sends, without the newline that ends it. JSON text holds
neither a newline nor a NUL. -/
structure QmpLine where
  bytes : List UInt8
  oneLine : 10 ∉ bytes
  nulFree : CharArray.NulFree bytes

/-- The bytes of a line as they are received. -/
def QmpLine.received (line : QmpLine) : List UInt8 := line.bytes ++ [10]

/-- A reply to `query-cpus-fast`: one in the layout that `extract_vcpu_info` reads, or any
other line that lists the given vCPUs. -/
inductive CpusReply where
  | printed (layout : CpusLayout) (line : QmpLine) (same : line.bytes = layout.text)
  | other (vcpus : List QmpVcpu) (line : QmpLine)

namespace CpusReply

def line : CpusReply → QmpLine
  | printed _ line _ => line
  | other _ line => line

/-- The vCPUs that the reply lists. -/
def vcpus : CpusReply → List QmpVcpu
  | printed layout _ _ => layout.vcpus
  | other vcpus _ => vcpus

def Printed : CpusReply → Prop
  | printed _ _ _ => True
  | other _ _ => False

instance : (reply : CpusReply) → Decidable reply.Printed
  | printed _ _ _ => inferInstanceAs (Decidable True)
  | other _ _ => inferInstanceAs (Decidable False)

end CpusReply

/-- How far the server is: the greeting, the reply to `qmp_capabilities` and the reply to
`query-cpus-fast`, after which it may end the session. -/
inductive ServerPhase where
  | silent
  | greeted
  | negotiated
  | answered
  | closed
deriving DecidableEq, Repr

/-- The least number of lines that the server has sent in a phase. -/
def ServerPhase.least : ServerPhase → Nat
  | silent => 0
  | greeted => 1
  | negotiated => 2
  | answered => 3
  | closed => 3

/-! ## The tool -/

/-- The arguments of `main`. With a negative `nb_vcpus` it fails to allocate its buffer. -/
structure MainArgs where
  unixSocket : CString
  vmName : CString
  nbVcpus : Nat

namespace MainArgs

/-- `QMP_VCPU_SIZE`. -/
def qmpVcpuSize : Nat := 4096

/-- The size of the reply buffer. -/
def bufsz (args : MainArgs) : Nat := args.nbVcpus * qmpVcpuSize

/-- The call `register_vm(vcpus, vm_name, unix_socket, nb_vcpus)`. -/
def registerArgs (args : MainArgs) (vcpus : List QmpVcpu) : RegisterArgs :=
  ⟨vcpus, args.vmName, args.unixSocket, args.nbVcpus⟩

end MainArgs

inductive QmpCommand where
  | qmpCapabilities
  | queryCpus
deriving DecidableEq, Repr

/-- The line that `main` reads. -/
inductive Awaited where
  | greeting
  | reply (command : QmpCommand)
deriving DecidableEq, Repr

/-- Where `main` stands. While it reads, `buf` holds what it has read of the line. -/
inductive MainTask where
  | connecting
  | reading (awaited : Awaited) (buf : List UInt8)
  | writing (command : QmpCommand)
  | parsing (buf : List UInt8)
  | exited (status : Int)
deriving DecidableEq, Repr

/-- What `main` does once it has read a line. -/
def Awaited.next (buf : List UInt8) : Awaited → MainTask
  | greeting => .writing .qmpCapabilities
  | reply .qmpCapabilities => .writing .queryCpus
  | reply .queryCpus => .parsing buf

/-- One iteration of `qmp_read_line`. The bound `bufsz - 1` would wrap for an empty buffer,
which no line fits. -/
def qmpReadChar (bufsz : Nat) (awaited : Awaited) (buf : List UInt8) (char : UInt8) : MainTask :=
  if char = 10 ∨ bufsz ≤ buf.length + 2 then awaited.next (buf ++ [char])
  else .reading awaited (buf ++ [char])

/-- How the calls that `main` makes after the last reply end: the allocations of
`extract_vcpu_info`, the failing calls of `register_vm` and `setup_vm_maps`, and the maps
that the latter creates. -/
structure FinishCalls where
  head : Bool
  allocs : List EntryAllocs
  registering : Option RegisterCall
  swept : Bool
  settingUp : Option SetupCall
  collection : MapId
  processing : MapId

/-- `main` from `extract_vcpu_info` on. -/
def finish (args : MainArgs) (calls : FinishCalls) (buf : List UInt8) (host : HostState) :
    HostState × Int :=
  if calls.head then
    let vcpus := extractVcpuInfo calls.allocs (buf.takeWhile (· ≠ 0))
    let registered := registerVm calls.registering calls.swept (args.registerArgs vcpus) host
    if registered.2 < 0 then (registered.1, 1)
    else
      let setUp := setupVmMaps calls.settingUp calls.collection calls.processing args.vmName
        registered.1
      if setUp.2 < 0 then (setUp.1, 1) else (setUp.1, 0)
  else (host, 1)

/-! ## The session -/

/-- The server, the lines it has sent and its reply to `query-cpus-fast`; the number of
commands it has received; the bytes that `main` has not read; `main`; and the maps. -/
structure QmpSession where
  phase : ServerPhase
  lines : List QmpLine
  reply : Option CpusReply
  commands : Nat
  incoming : List UInt8
  task : MainTask
  host : HostState

/-- `advance` is the next call of `main`, `fail` its failure, and `finish` everything
after the last reply. -/
inductive QmpAction where
  | greet (line : QmpLine)
  | replyCapabilities (line : QmpLine)
  | replyCpus (reply : CpusReply)
  | event (line : QmpLine)
  | close
  | advance
  | endOfFile
  | fail
  | finish (calls : FinishCalls)

namespace QmpSession

/-- The session before `main` has connected. -/
def start (host : HostState) : QmpSession :=
  ⟨.silent, [], none, 0, [], .connecting, host⟩

/-- The server sends a line. -/
def send (state : QmpSession) (phase : ServerPhase) (reply : Option CpusReply)
    (line : QmpLine) : QmpSession :=
  { state with
    phase := phase
    lines := state.lines ++ [line]
    reply := reply
    incoming := state.incoming ++ line.received }

/-- The next call of `main`, while it talks to the server. A `read` blocks when there is
nothing to read. -/
def advance (args : MainArgs) (state : QmpSession) : Option QmpSession :=
  match state.task with
  | .connecting => some { state with task := .reading .greeting [] }
  | .reading awaited buf =>
      match state.incoming with
      | [] => none
      | char :: incoming =>
          some { state with
            incoming := incoming
            task := qmpReadChar args.bufsz awaited buf char }
  | .writing command =>
      some { state with commands := state.commands + 1, task := .reading (.reply command) [] }
  | _ => none

def step (args : MainArgs) (state : QmpSession) : QmpAction → Option QmpSession
  | .greet line =>
      if state.phase = .silent then some (state.send .greeted state.reply line) else none
  | .replyCapabilities line =>
      if state.phase = .greeted ∧ 1 ≤ state.commands then
        some (state.send .negotiated state.reply line)
      else none
  | .replyCpus reply =>
      if state.phase = .negotiated ∧ 2 ≤ state.commands then
        some (state.send .answered (some reply) reply.line)
      else none
  | .event line =>
      if state.phase = .negotiated ∨ state.phase = .answered then
        some (state.send state.phase state.reply line)
      else none
  | .close => if state.phase = .answered then some { state with phase := .closed } else none
  | .advance => state.advance args
  | .endOfFile =>
      match state.task with
      | .reading awaited buf =>
          if state.phase = .closed ∧ state.incoming = [] then
            some { state with task := awaited.next buf }
          else none
      | _ => none
  | .fail =>
      match state.task with
      | .parsing _ => none
      | .exited _ => none
      | _ => some { state with task := .exited 1 }
  | .finish calls =>
      match state.task with
      | .parsing buf =>
          let finished := Host.finish args calls buf state.host
          some { state with host := finished.1, task := .exited finished.2 }
      | _ => none

/-- When `main` has succeeded, the `vcpus` map is the one it found without the stale
entries of the VM, and with exactly the vCPUs of the reply written to it. -/
def VcpusAsListed (args : MainArgs) (before : HostState) (state : QmpSession) : Prop :=
  state.task = .exited 0 → ∃ reply swept, state.reply = some reply ∧
    state.host.vcpus = insertVcpus (args.registerArgs reply.vcpus) reply.vcpus
      (cleanupStaleVcpus swept args.vmName before.vcpus)

/-- Every line fits the reply buffer, with its newline and the terminator. -/
def LinesFit (args : MainArgs) : QmpAction → Prop
  | .greet line => line.received.length < args.bufsz
  | .replyCapabilities line => line.received.length < args.bufsz
  | .replyCpus reply => reply.line.received.length < args.bufsz
  | .event line => line.received.length < args.bufsz
  | _ => True

instance (args : MainArgs) : (action : QmpAction) → Decidable (LinesFit args action)
  | .greet line => inferInstanceAs (Decidable (line.received.length < args.bufsz))
  | .replyCapabilities line => inferInstanceAs (Decidable (line.received.length < args.bufsz))
  | .replyCpus reply => inferInstanceAs (Decidable (reply.line.received.length < args.bufsz))
  | .event line => inferInstanceAs (Decidable (line.received.length < args.bufsz))
  | .close => inferInstanceAs (Decidable True)
  | .advance => inferInstanceAs (Decidable True)
  | .endOfFile => inferInstanceAs (Decidable True)
  | .fail => inferInstanceAs (Decidable True)
  | .finish _ => inferInstanceAs (Decidable True)

/-- No event line comes between the two replies, the reply to `query-cpus-fast` has the
layout that `extract_vcpu_info` reads, and no allocation of `extract_vcpu_info` fails. -/
def InOrder (state : QmpSession) : QmpAction → Prop
  | .event _ => state.phase ≠ .negotiated
  | .replyCpus reply => reply.Printed
  | .finish calls => ∀ alloc ∈ calls.allocs, alloc = .working
  | _ => True

instance (state : QmpSession) : (action : QmpAction) → Decidable (state.InOrder action)
  | .greet _ => inferInstanceAs (Decidable True)
  | .replyCapabilities _ => inferInstanceAs (Decidable True)
  | .replyCpus reply => inferInstanceAs (Decidable reply.Printed)
  | .event _ => inferInstanceAs (Decidable (state.phase ≠ .negotiated))
  | .close => inferInstanceAs (Decidable True)
  | .advance => inferInstanceAs (Decidable True)
  | .endOfFile => inferInstanceAs (Decidable True)
  | .fail => inferInstanceAs (Decidable True)
  | .finish calls => inferInstanceAs (Decidable (∀ alloc ∈ calls.allocs, alloc = .working))

end QmpSession

end PhantomTracker.Host
