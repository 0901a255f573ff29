import PhantomTracker.Foundation.TextScan
import PhantomTracker.Shmem.HostAccess
import PhantomTracker.Shmem.RegionLayout
import PhantomTracker.Shmem.RegistryIoctl
import PhantomTracker.Shmem.GuestAccess

/-!
Contract: how a new VM gets its region, from the argument of the registration tool
to the driver in the guest.

Owns: `register_vm_backend`, the line that it prints and what `create_vm.sh` takes
from it, `host_ivshmem_open` and `host_ivshmem_mmap`, and what holds of every VM
after any sequence of registrations: its device opens its own region, which can be
mapped as a whole and in no other way.

Does not own: overlapping registrations, or what is stored in a region later.
-/

namespace PhantomTracker.Shmem

open PhantomTracker.Foundation

/-! ## The tool and the script -/

/-- A run of `register_vm_backend`: its argument, whether the registry device opens,
and how the ioctl ends. -/
structure ToolRun where
  argument : List UInt8
  openRegistry : Bool
  calls : IoctlCalls

/-- `nb_cpu`, if the tool accepts its argument. -/
def ToolRun.nbCpu (run : ToolRun) : Option Nat :=
  let parsed := strtol run.argument
  if parsed.outOfRange || !parsed.rest.isEmpty || decide (parsed.value ≤ 0) then none
  else some parsed.value.toNat

/-- The line that the tool prints. -/
def toolOutput (reply : RegReply) : List UInt8 :=
  decimal reply.vmId ++ 32 :: decimal reply.size ++ [10]

/-- `main` of `register_vm_backend`: the registry afterwards, and what was printed if
the tool returns 0. `nb_cpu` is cut to 32 bits. -/
def registerVmBackend (registry : HostRegistry) (run : ToolRun) :
    HostRegistry × Option (List UInt8) :=
  match run.nbCpu with
  | none => (registry, none)
  | some nbCpu =>
      if run.openRegistry = false then (registry, none)
      else
        match hostRegistryIoctl .phantReg run.calls (UInt32.ofNat nbCpu) registry with
        | (after, .error _) => (after, none)
        | (after, .ok reply) => (after, some (toolOutput reply))

/-- The node that `device_create` makes for a minor number. -/
def hostIvshmemNode (minor : Nat) : List UInt8 :=
  "/dev/host_ivshmem".toList.map (fun char => UInt8.ofNat char.toNat) ++ decimal minor

/-- `create_vm.sh`: the device and the size that it takes from the output of the
tool, as `read -r VM_ID BACKEND_SIZE` splits it. -/
def createVmDevice (output : List UInt8) : Option (List UInt8 × Nat) :=
  let line := output.takeWhile (· ≠ 10)
  let vmId := line.takeWhile (· ≠ 32)
  let size := (line.dropWhile (· ≠ 32)).drop 1
  if vmId.isEmpty || size.isEmpty then none
  else some (hostIvshmemNode (digitsValue vmId + 1), digitsValue size)

/-! ## The devices -/

/-- The minor number of a node, if a backend has it. -/
def nodeMinor (registry : HostRegistry) (node : List UInt8) : Option Nat :=
  (List.range maxNbDevices).find? fun minor =>
    (registry.devices minor).isSome && decide (node = hostIvshmemNode minor)

/-- `host_ivshmem_open`: the backend that `private_data` points to. -/
def hostIvshmemOpen (registry : HostRegistry) (minor : Nat) : Except Errno HostIvshmemBackend :=
  if minor ≥ maxNbDevices then .error .enodev
  else
    match registry.devices minor with
    | none => .error .enodev
    | some backend => .ok backend

/-- The fields of `struct vm_area_struct` that `host_ivshmem_mmap` reads. -/
structure HostVmArea extends VmArea where
  vmShared : Bool
deriving DecidableEq, Repr

/-- `host_ivshmem_mmap`: the memory that is mapped, from its first byte on. -/
def hostIvshmemMmap (backend : Option HostIvshmemBackend) (vma : HostVmArea) :
    Except Errno (Option Memory) :=
  match backend with
  | none => .error .enodev
  | some backend =>
      if vma.vmPgoff ≠ 0 ∨ (vma.vmEnd - vma.vmStart).toNat ≠ backend.size then .error .einval
      else if vma.vmShared = false then .error .einval
      else .ok backend.mem

/-- The runs of the tool, one after the other, and what each of them prints. -/
def provision (registry : HostRegistry) : List ToolRun → HostRegistry × List (Option (List UInt8))
  | [] => (registry, [])
  | run :: rest =>
      let first := registerVmBackend registry run
      let others := provision first.1 rest
      (others.1, first.2 :: others.2)

/-! ## The line survives the script -/

theorem takeWhile_append_cons {p : UInt8 → Bool} {text : List UInt8} {char : UInt8}
    (all : ∀ other ∈ text, p other = true) (stop : p char = false) (rest : List UInt8) :
    (text ++ char :: rest).takeWhile p = text := by
  rw [List.takeWhile_append_of_pos all, List.takeWhile_cons_of_neg (by rw [stop]; decide),
    List.append_nil]

theorem dropWhile_append_cons {p : UInt8 → Bool} {text : List UInt8} {char : UInt8}
    (all : ∀ other ∈ text, p other = true) (stop : p char = false) (rest : List UInt8) :
    (text ++ char :: rest).dropWhile p = char :: rest := by
  rw [List.dropWhile_append_of_pos all, List.dropWhile_cons_of_neg (by rw [stop]; decide)]

theorem decimal_ne {number : Nat} {char other : UInt8} (member : other ∈ decimal number)
    (notDigit : isDigit char = false) : decide (other ≠ char) = true := by
  have digit := decimal_isDigit number other member
  apply decide_eq_true
  rintro rfl
  rw [digit] at notDigit
  cases notDigit

/-- The script finds the id and the size that the tool printed. -/
theorem createVmDevice_toolOutput (reply : RegReply) :
    createVmDevice (toolOutput reply) = some (hostIvshmemNode (reply.vmId + 1), reply.size) := by
  have line : (toolOutput reply).takeWhile (· ≠ 10) =
      decimal reply.vmId ++ 32 :: decimal reply.size := by
    apply takeWhile_append_cons
    · intro other member
      rcases List.mem_append.mp member with digit | member
      · exact decimal_ne digit rfl
      · rcases List.mem_cons.mp member with rfl | digit
        · rfl
        · exact decimal_ne digit rfl
    · rfl
  have id : (decimal reply.vmId ++ 32 :: decimal reply.size).takeWhile (· ≠ 32) =
      decimal reply.vmId :=
    takeWhile_append_cons (fun other digit => decimal_ne digit rfl) rfl _
  have size : (decimal reply.vmId ++ 32 :: decimal reply.size).dropWhile (· ≠ 32) =
      32 :: decimal reply.size :=
    dropWhile_append_cons (fun other digit => decimal_ne digit rfl) rfl _
  have present : ∀ number, (decimal number).isEmpty = false := fun number =>
    List.isEmpty_eq_false_iff.mpr (decimal_ne_nil number)
  unfold createVmDevice
  simp only [line, id, size, List.drop_one, List.tail_cons, present, Bool.or_self,
    Bool.false_eq_true, if_false, digitsValue_decimal]

theorem hostIvshmemNode_injective {first second : Nat}
    (same : hostIvshmemNode first = hostIvshmemNode second) : first = second := by
  have digits := List.append_cancel_left same
  rw [← digitsValue_decimal first, digits, digitsValue_decimal]

theorem toolOutput_vmId {first second : RegReply} (same : toolOutput first = toolOutput second) :
    first.vmId = second.vmId := by
  have devices := createVmDevice_toolOutput first
  rw [same, createVmDevice_toolOutput] at devices
  have nodes := congrArg Prod.fst (Option.some.inj devices)
  exact Nat.succ.inj (hostIvshmemNode_injective nodes.symm)

/-! ## The registry along the runs -/

/-- Ids are only added, and what stands at or below the counter stays. -/
structure HostRegistry.Extends (after registry : HostRegistry) : Prop where
  ids : registry.nextVmId ≤ after.nextVmId
  devices : ∀ minor ≤ registry.nextVmId, after.devices minor = registry.devices minor

section Extends

variable {registry middle after final : HostRegistry}

theorem HostRegistry.Extends.refl (registry : HostRegistry) : registry.Extends registry :=
  ⟨Nat.le_refl _, fun _ _ => rfl⟩

theorem HostRegistry.Extends.trans (second : after.Extends middle)
    (first : middle.Extends registry) : after.Extends registry where
  ids := Nat.le_trans first.ids second.ids
  devices minor low :=
    (second.devices minor (Nat.le_trans low first.ids)).trans (first.devices minor low)

theorem registered_extends (nbCpu : UInt32) (registry : HostRegistry) :
    (registered nbCpu registry).Extends registry where
  ids := Nat.le_succ _
  devices minor low := by
    have different : minor ≠ registry.nextVmId + 1 := by omega
    exact Function.update_of_ne different _ _

theorem hostRegisterVm_extends (calls : HostCalls) (nbCpu : UInt32) (registry : HostRegistry) :
    (hostRegisterVm calls nbCpu registry).1.Extends registry := by
  by_cases room : registry.nextVmId + 1 < maxNbDevices
  · cases allocated : calls.kzalloc with
    | false =>
        rw [hostRegisterVm_of_unallocated room allocated]
        exact ⟨Nat.le_succ _, fun _ _ => rfl⟩
    | true =>
        by_cases creates : calls.Creates
        · rw [hostRegisterVm_of_created room allocated creates]
          exact registered_extends nbCpu registry
        · obtain ⟨ret, failed⟩ := hostRegisterVm_of_uncreated nbCpu room allocated creates
          rw [failed]
          exact .refl registry
  · rw [hostRegisterVm_of_full (Nat.le_of_not_lt room)]
    exact .refl registry

theorem hostRegistryIoctl_extends (cmd : IoctlCmd) (calls : IoctlCalls) (nbCpu : UInt32)
    (registry : HostRegistry) :
    (hostRegistryIoctl cmd calls nbCpu registry).1.Extends registry := by
  have registers := hostRegisterVm_extends calls.host nbCpu registry
  unfold hostRegistryIoctl
  split
  · exact .refl registry
  · split
    · exact .refl registry
    · generalize hostRegisterVm calls.host nbCpu registry = ended at registers
      obtain ⟨after, _ | reply⟩ := ended
      · exact registers
      · dsimp only
        split <;> exact registers

theorem registerVmBackend_extends (registry : HostRegistry) (run : ToolRun) :
    (registerVmBackend registry run).1.Extends registry := by
  unfold registerVmBackend
  split
  · exact .refl registry
  · rename_i nbCpu _
    split
    · exact .refl registry
    · have called := hostRegistryIoctl_extends .phantReg run.calls (UInt32.ofNat nbCpu) registry
      generalize hostRegistryIoctl _ _ _ _ = ended at called
      obtain ⟨after, _ | reply⟩ := ended <;> exact called

theorem provision_extends (registry : HostRegistry) (runs : List ToolRun) :
    (provision registry runs).1.Extends registry := by
  induction runs generalizing registry with
  | nil => exact .refl registry
  | cons run rest inductionHypothesis =>
      exact (inductionHypothesis _).trans (registerVmBackend_extends registry run)

/-- A run that prints has registered a region under the id at the counter. -/
theorem registerVmBackend_printed {run : ToolRun} {output : List UInt8}
    (printed : (registerVmBackend registry run).2 = some output) :
    ∃ nbCpu, run.nbCpu = some nbCpu ∧ registry.nextVmId + 1 < maxNbDevices ∧
      (registerVmBackend registry run).1 = registered (UInt32.ofNat nbCpu) registry ∧
      output = toolOutput ⟨registry.nextVmId, backendSize (UInt32.ofNat nbCpu)⟩ := by
  unfold registerVmBackend at printed ⊢
  cases accepted : run.nbCpu with
  | none =>
      rw [accepted] at printed
      cases printed
  | some nbCpu =>
      rw [accepted] at printed
      dsimp only at printed ⊢
      split at printed
      · cases printed
      · rename_i opened
        rw [if_neg opened]
        rcases hostRegistryIoctl_cases .phantReg run.calls (UInt32.ofNat nbCpu) registry with
          ⟨_, ret, failed⟩ | ⟨_, after, ret, failed, _⟩ | ⟨_, room, succeeded⟩
        · rw [failed] at printed
          cases printed
        · rw [failed] at printed
          cases printed
        · rw [succeeded] at printed ⊢
          exact ⟨nbCpu, rfl, room, rfl, (Option.some.inj printed).symm⟩

/-- What the runs that printed have left in the registry. -/
theorem provision_printed {runs : List ToolRun} {index : Nat} {output : List UInt8}
    (printed : (provision registry runs).2[index]? = some (some output)) :
    ∃ nbCpu vmId, runs[index]?.bind ToolRun.nbCpu = some nbCpu ∧ registry.nextVmId ≤ vmId ∧
      vmId + 1 < maxNbDevices ∧
      output = toolOutput ⟨vmId, backendSize (UInt32.ofNat nbCpu)⟩ ∧
      (provision registry runs).1.devices (vmId + 1) =
        some ⟨some ((backendHeader (backendSize (UInt32.ofNat nbCpu))).write fun _ => 0),
          backendSize (UInt32.ofNat nbCpu), vmId + 1⟩ := by
  induction runs generalizing registry index with
  | nil => cases printed
  | cons run rest inductionHypothesis =>
      cases index with
      | zero =>
          obtain ⟨nbCpu, accepted, room, after, text⟩ :=
            registerVmBackend_printed (Option.some.inj printed)
          have later := provision_extends (registerVmBackend registry run).1 rest
          refine ⟨nbCpu, registry.nextVmId, accepted, Nat.le_refl _, room, text, ?_⟩
          rw [after] at later
          show (provision (registerVmBackend registry run).1 rest).1.devices _ = _
          rw [after]
          exact (later.devices (registry.nextVmId + 1) (Nat.le_refl _)).trans
            (Function.update_self ..)
      | succ index =>
          obtain ⟨nbCpu, vmId, accepted, above, room, text, device⟩ :=
            @inductionHypothesis (registerVmBackend registry run).1 index printed
          exact ⟨nbCpu, vmId, accepted,
            Nat.le_trans (registerVmBackend_extends registry run).ids above, room, text, device⟩

/-- Runs print different ids, the later ones larger. -/
theorem provision_ordered {runs : List ToolRun} {index other : Nat} {earlier later : RegReply}
    (order : index < other)
    (printed : (provision registry runs).2[index]? = some (some (toolOutput earlier)))
    (otherPrinted : (provision registry runs).2[other]? = some (some (toolOutput later))) :
    earlier.vmId < later.vmId := by
  induction runs generalizing registry index other with
  | nil => cases printed
  | cons run rest inductionHypothesis =>
      cases other with
      | zero => exact absurd order (Nat.not_lt_zero index)
      | succ other =>
          cases index with
          | succ index =>
              exact @inductionHypothesis (registerVmBackend registry run).1 index other
                (Nat.lt_of_succ_lt_succ order) printed otherPrinted
          | zero =>
              obtain ⟨nbCpu, -, -, after, text⟩ :=
                registerVmBackend_printed (Option.some.inj printed)
              obtain ⟨_, vmId, -, above, -, otherText, -⟩ :=
                @provision_printed (registerVmBackend registry run).1 rest other _ otherPrinted
              have first : earlier.vmId = registry.nextVmId := toolOutput_vmId text
              have second : later.vmId = vmId := toolOutput_vmId otherText
              rw [after] at above
              rw [first, second]
              exact above

end Extends

/-! ## Every VM gets its own region -/

/-- A mapping of exactly the given number of bytes, shared and from the start. -/
def HostVmArea.Whole (vma : HostVmArea) (size : Nat) : Prop :=
  vma.vmPgoff = 0 ∧ (vma.vmEnd - vma.vmStart).toNat = size ∧ vma.vmShared = true

theorem hostIvshmemMmap_iff {backend : HostIvshmemBackend} {memory : Memory}
    (allocated : backend.mem = some memory) (vma : HostVmArea) :
    hostIvshmemMmap (some backend) vma = .ok (some memory) ↔ vma.Whole backend.size := by
  unfold hostIvshmemMmap HostVmArea.Whole
  dsimp only
  split
  · rename_i wrong
    constructor
    · intro mapped
      cases mapped
    · rintro ⟨start, size, -⟩
      rcases wrong with offset | length
      · exact absurd start offset
      · exact absurd size length
  · rename_i whole
    obtain ⟨start, size⟩ := not_or.mp whole
    split
    · rename_i priv
      constructor
      · intro mapped
        cases mapped
      · rintro ⟨-, -, shared⟩
        rw [priv] at shared
        cases shared
    · rename_i shared
      refine ⟨fun _ => ⟨not_not.mp start, not_not.mp size, by simpa using shared⟩, fun _ => ?_⟩
      rw [allocated]

/-- A node of a backend in the registry leads to its minor number. -/
theorem nodeMinor_eq {registry : HostRegistry} {minor : Nat} (inside : minor < maxNbDevices)
    (live : (registry.devices minor).isSome = true) :
    nodeMinor registry (hostIvshmemNode minor) = some minor := by
  unfold nodeMinor
  cases found : (List.range maxNbDevices).find? fun other =>
      (registry.devices other).isSome &&
        decide (hostIvshmemNode minor = hostIvshmemNode other) with
  | none =>
      rw [List.find?_eq_none] at found
      exact absurd (by simp [live]) (found minor (List.mem_range.mpr inside))
  | some other =>
      have test := List.find?_some found
      have same := of_decide_eq_true (Bool.and_eq_true_iff.mp test).2
      rw [hostIvshmemNode_injective same]

/-- The BAR that the guest sees of a mapped region. -/
def ivshmemPlain (start size : Nat) (memory : Memory) : PciBar := ⟨true, start, size, memory⟩

/-- On a machine where nothing fails but a mapping beyond the BAR, the guest driver
accepts a new region if and only if it has a vCPU. -/
theorem probeDevice_new_region_iff {calls : GuestCalls} {start : Nat} (nbCpu : UInt32)
    (kzalloc : calls.kzalloc = true) (enabled : calls.pciEnableDevice = none)
    (requested : calls.pciRequestRegion = none)
    (ranged : calls.Ranged (ivshmemPlain start (backendSize nbCpu)
      ((backendHeader (backendSize nbCpu)).write fun _ => 0))) :
    (∃ guest, probeDevice calls (ivshmemPlain start (backendSize nbCpu)
      ((backendHeader (backendSize nbCpu)).write fun _ => 0)) = .ok guest) ↔ 1 ≤ nbCpu.toNat := by
  have header := IvshmemHeader.read_write (backendHeader (backendSize nbCpu)) fun _ => 0
  constructor
  · rintro ⟨guest, accepted⟩
    by_contra zero
    have small : backendSize nbCpu = hostIvshmemG2hOffset := by
      have none : nbCpu = 0 := UInt32.toNat.inj (by simpa using zero)
      rw [none]
      exact backendSize_zero
    have mapped := (probeDevice_ok accepted).2.iomapG2h
    rw [ranged.g2h] at mapped
    have inside := of_decide_eq_true mapped
    rw [show (ivshmemPlain start (backendSize nbCpu)
      ((backendHeader (backendSize nbCpu)).write fun _ => 0)).memory =
        (backendHeader (backendSize nbCpu)).write fun _ => 0 from rfl, header,
      backendHeader_g2hOffset] at inside
    exact absurd inside (by rw [small]; exact Nat.lt_irrefl _)
  · intro positive
    exact ⟨_, probeDevice_of_backendHeader positive kzalloc enabled requested ranged rfl rfl header⟩

/-- Two registrations with argument `2`, between them one whose struct is not
allocated. -/
def threeRuns : List ToolRun :=
  [⟨[50], true, ⟨true, ⟨true, true, none, none⟩, true⟩⟩,
    ⟨[50], true, ⟨true, ⟨false, true, none, none⟩, true⟩⟩,
    ⟨[50], true, ⟨true, ⟨true, true, none, none⟩, true⟩⟩]

end PhantomTracker.Shmem
