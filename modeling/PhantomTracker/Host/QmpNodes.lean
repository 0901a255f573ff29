import PhantomTracker.Foundation.LinkedList
import PhantomTracker.Host.QmpParser
import PhantomTracker.Host.ToolExecutions

/-!
Contract: the linked list that `extract_vcpu_info` builds and `register_vm` walks.

Owns: both functions on the heap, with the dummy head, the walk of `push_back` to the last
node and the walk of `print_nodes`; that on every text and with every failing allocation the
list behind the dummy head is the one of the parser; and that a reply made of one object per
vCPU is registered vCPU by vCPU.

Does not own: the search in the text, how the reply reaches the tool, the failing calls of
`register_vm`, or the memory that the tool never frees.
-/

namespace PhantomTracker.Host

open PhantomTracker.Foundation

/-! ## The functions on the heap -/

/-- The list nodes of the tool. The data pointer of the dummy head is `NULL`. -/
abbrev VcpuHeap := NodeHeap (Option QmpVcpu)

namespace VcpuHeap

/-- `print_vcpu`, which passes over the dummy head. -/
def printVcpu (printed : List QmpVcpu) (data : Option QmpVcpu) : Option (List QmpVcpu) :=
  some (printed ++ data.toList)

/-- `print_nodes(head, print_vcpu)`. -/
def printNodes (heap : VcpuHeap) (head : Option Nat) : Option (List QmpVcpu) :=
  heap.forEach printVcpu heap.length head []

/-- The loop of `extract_vcpu_info`, with a bound on its rounds, and the walk that prints
the finished list. There is no result while a loop has not ended. -/
def extractLoop : Nat → List EntryAllocs → VcpuHeap → Option Nat → List UInt8 →
    Option (VcpuHeap × Option Nat)
  | 0, _, _, _, _ => none
  | fuel + 1, allocs, heap, head, str =>
      match strstr entryKey str with
      | none => (printNodes heap head).map fun _ => (heap, head)
      | some found =>
          let str := found.drop entryKey.length
          let alloc := allocs.headD .working
          if alloc.vcpu then
            match heap.pushBack alloc.node (some (readEntry str)) head with
            | none => none
            | some pushed => extractLoop fuel allocs.tail pushed.1 pushed.2 str
          else some (heap, head)

/-- `extract_vcpu_info`, with a bound on its rounds. Without a dummy head it returns
`NULL`. -/
def extractVcpuInfo (fuel : Nat) (dummy : Bool) (allocs : List EntryAllocs) (heap : VcpuHeap)
    (queryResult : List UInt8) : Option (VcpuHeap × Option Nat) :=
  let created := heap.createNode dummy none
  match created.2 with
  | none => some (created.1, none)
  | some head => extractLoop fuel allocs created.1 (some head) queryResult

/-- The body of the vCPU loop of `register_vm`. There is no result when the node holds no
vCPU, which the code would read through a `NULL` pointer. -/
def registerVcpu (args : RegisterArgs) (stored : FiniteMap Tid VcpuT) (data : Option QmpVcpu) :
    Option (FiniteMap Tid VcpuT) :=
  data.map fun qmpDetail => stored.insert qmpDetail.threadId (args.vcpu qmpDetail)

/-- The vCPU loop of `register_vm`, from the node behind the dummy head on. -/
def registerVcpus (args : RegisterArgs) (heap : VcpuHeap) (vcpus : Nat)
    (stored : FiniteMap Tid VcpuT) : Option (FiniteMap Tid VcpuT) :=
  match heap[vcpus]? with
  | none => none
  | some head => heap.forEach (registerVcpu args) heap.length head.next stored

/-! ## The list behind the dummy head -/

/-- The heap holds a dummy head at `head` and the given vCPUs behind it. -/
def Lists (heap : VcpuHeap) (head : Nat) (vcpus : List QmpVcpu) : Prop :=
  NodeHeap.Holds heap head (none :: vcpus.map some)

variable {heap : VcpuHeap} {head : Nat} {vcpus : List QmpVcpu}

theorem Lists.pushBack (lists : heap.Lists head vcpus) (node : Bool) (vcpu : QmpVcpu) :
    ∃ after : VcpuHeap, heap.pushBack node (some vcpu) (some head) = some (after, some head) ∧
      after.Lists head (Host.pushBack node vcpus vcpu) := by
  rcases NodeHeap.Holds.pushBack lists node (some vcpu) with ⟨after, pushed, holds⟩
  refine ⟨after, pushed, ?_⟩
  cases node with
  | false => exact holds
  | true =>
      unfold Lists Host.pushBack
      rw [if_pos rfl, List.map_append]
      exact holds

theorem foldlM_printVcpu (vcpus printed : List QmpVcpu) :
    (vcpus.map some).foldlM printVcpu printed = some (printed ++ vcpus) := by
  induction vcpus generalizing printed with
  | nil => exact congrArg some (List.append_nil printed).symm
  | cons vcpu vcpus inductionHypothesis =>
      have later := inductionHypothesis (printed ++ [vcpu])
      rw [List.append_assoc] at later
      exact later

/-- The finished list is printed, vCPU by vCPU. -/
theorem Lists.printNodes (lists : heap.Lists head vcpus) :
    heap.printNodes (some head) = some vcpus := by
  unfold VcpuHeap.printNodes
  rw [NodeHeap.Chain.forEach lists.chain lists.length_le]
  exact foldlM_printVcpu vcpus []

/-- On every text, and whichever allocations fail, the loop ends, and the list on the heap is
the one that the parser reads. -/
theorem Lists.extractLoop {fuel : Nat} {str : List UInt8} (lists : heap.Lists head vcpus)
    (enough : str.length < fuel) (allocs : List EntryAllocs) :
    ∃ after : VcpuHeap, extractLoop fuel allocs heap (some head) str = some (after, some head) ∧
      after.Lists head (Host.extractLoop fuel allocs vcpus str) := by
  induction fuel generalizing allocs heap vcpus str with
  | zero => exact absurd enough (Nat.not_lt_zero _)
  | succ fuel inductionHypothesis =>
      rw [VcpuHeap.extractLoop, Host.extractLoop]
      cases search : strstr entryKey str with
      | none =>
          refine ⟨heap, ?_, lists⟩
          dsimp only
          rw [lists.printNodes, Option.map_some]
      | some found =>
          have shorter := strstr_entryKey_shorter search
          dsimp only
          split
          · rcases lists.pushBack (allocs.headD .working).node
              (readEntry (found.drop entryKey.length)) with ⟨after, pushed, grown⟩
            rw [pushed]
            exact inductionHypothesis grown (by omega) allocs.tail
          · exact ⟨heap, rfl, lists⟩

theorem foldlM_registerVcpu (args : RegisterArgs) (temp : List QmpVcpu)
    (stored : FiniteMap Tid VcpuT) :
    (temp.map some).foldlM (registerVcpu args) stored = some (insertVcpus args temp stored) := by
  induction temp generalizing stored with
  | nil => rfl
  | cons qmpDetail temp inductionHypothesis =>
      exact inductionHypothesis (stored.insert qmpDetail.threadId (args.vcpu qmpDetail))

/-- `register_vm` walks the vCPUs behind the dummy head in their order. -/
theorem Lists.registerVcpus (lists : heap.Lists head vcpus) (args : RegisterArgs)
    (stored : FiniteMap Tid VcpuT) :
    heap.registerVcpus args head stored = some (insertVcpus args vcpus stored) := by
  have room : vcpus.length ≤ heap.length := by
    have whole := lists.length_le
    rw [List.length_cons, List.length_map] at whole
    exact Nat.le_of_succ_le whole
  rcases lists.chain.head with ⟨dummy, found, _, behind⟩
  unfold VcpuHeap.registerVcpus
  rw [found]
  dsimp only
  rw [behind.forEach (by rw [List.length_map]; exact room)]
  exact foldlM_registerVcpu args vcpus stored

/-! ## A reply is registered vCPU by vCPU -/

/-- A reply made of one object per vCPU, with text around them that holds no key: the list
on the heap is the dummy head and the vCPUs in their order, and `register_vm` walks exactly
these. Every number of rounds above the length of the text is enough. -/
theorem reply_registered_exactly {before : List UInt8} (absent : ¬ entryKey <:+: before)
    {cpus : List CpuText} (readable : ∀ cpu ∈ cpus, cpu.Readable) {allocs : List EntryAllocs}
    (working : ∀ alloc ∈ allocs, alloc = .working) (heap : VcpuHeap) {rounds : Nat}
    (enough : (before ++ cpus.flatMap CpuText.text).length < rounds) :
    ∃ (after : VcpuHeap) (head : Nat),
      extractVcpuInfo rounds true allocs heap (before ++ cpus.flatMap CpuText.text) =
        some (after, some head) ∧
      NodeHeap.Chain after (some head) (none :: cpus.map fun cpu => some cpu.vcpu) ∧
      ∀ (args : RegisterArgs) (swept : Bool) (host : HostState),
        args.vcpus = cpus.map CpuText.vcpu →
        after.registerVcpus args head (registeredVm swept args host).vcpus =
          some (registerVm none swept args host).1.vcpus := by
  have dummy : VcpuHeap.Lists (heap ++ [⟨none, none⟩]) heap.length [] :=
    NodeHeap.Holds.singleton none
  rcases dummy.extractLoop enough allocs with ⟨after, extracted, lists⟩
  have parsed : Host.extractLoop rounds allocs [] (before ++ cpus.flatMap CpuText.text) =
      cpus.map CpuText.vcpu := by
    have closes : ∀ text, ¬ entryKey <:+: text → ¬ entryKey <:+: text ++ [] := by
      intro text free
      rw [List.append_nil]
      exact free
    have read := extractFrom_cpus readable working absent closes []
    rw [List.append_nil, List.nil_append] at read
    rw [← read]
    exact extractLoop_of_lt enough (Nat.lt_succ_self _)
  rw [parsed] at lists
  refine ⟨after, heap.length, extracted, ?_, ?_⟩
  · have chain := lists.chain
    rw [List.map_map] at chain
    exact chain
  · intro args swept host same
    rw [lists.registerVcpus, ← same, registerVm_none]

/-- The first object of a reply. -/
def firstCpu : CpuText :=
  ⟨25627, asciiBytes ", \"props\": \x7b\"core-id\": 0\x7d, ", 0, asciiBytes "\x7d, "⟩

/-- The second one, with nothing between its thread id and the key of its CPU index. -/
def secondCpu : CpuText := ⟨0, [], 2147483647, asciiBytes "\x7d]\x7d"⟩

theorem firstCpu_readable : firstCpu.Readable :=
  ⟨by decide, by decide, by decide, by decide, by decide +kernel, by decide +kernel⟩

theorem secondCpu_readable : secondCpu.Readable :=
  ⟨by decide, by decide, by decide, by decide, by decide +kernel, by decide +kernel⟩

def twoVcpusArgs : RegisterArgs := ⟨[⟨0, 25627⟩, ⟨2147483647, 0⟩], loneName, loneName, 2⟩

theorem two_vcpus_registered_exactly :
    ∃ (after : VcpuHeap) (head : Nat),
      extractVcpuInfo 200 true [] [] (asciiBytes "\x7b\"return\": [" ++
          [firstCpu, secondCpu].flatMap CpuText.text) = some (after, some head) ∧
      NodeHeap.Chain after (some head) [none, some ⟨0, 25627⟩, some ⟨2147483647, 0⟩] ∧
      after.registerVcpus twoVcpusArgs head (registeredVm true twoVcpusArgs emptyHost).vcpus =
        some (registerVm none true twoVcpusArgs emptyHost).1.vcpus := by
  have absent : ¬ entryKey <:+: asciiBytes "\x7b\"return\": [" := by decide +kernel
  have readable : ∀ cpu ∈ [firstCpu, secondCpu], cpu.Readable := by
    intro cpu member
    rcases List.mem_cons.mp member with rfl | other
    · exact firstCpu_readable
    · rw [List.mem_singleton.mp other]
      exact secondCpu_readable
  have enough : (asciiBytes "\x7b\"return\": [" ++
      [firstCpu, secondCpu].flatMap CpuText.text).length < 200 := by
    decide +kernel
  rcases reply_registered_exactly absent readable
    (fun alloc member => absurd member List.not_mem_nil) [] enough with
    ⟨after, head, extracted, chain, registered⟩
  exact ⟨after, head, extracted, chain, registered twoVcpusArgs true emptyHost rfl⟩

end VcpuHeap

end PhantomTracker.Host
