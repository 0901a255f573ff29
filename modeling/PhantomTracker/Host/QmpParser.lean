import PhantomTracker.Foundation.TextScan
import PhantomTracker.Host.Registration

/-!
Contract: the vCPU list that the registration tool reads from a QMP reply.

Owns: `extract_vcpu_info` with its allocations, the layout in which QEMU prints the
reply to `query-cpus-fast`, and that the vCPUs of a reply in this layout are read back
when no allocation fails.

Does not own: how the reply reaches the tool, or the JSON of the parts that the tool
does not read.
-/

namespace PhantomTracker.Host

open PhantomTracker.Foundation

/-! ## `extract_vcpu_info` -/

/-- The bytes of an ASCII text. -/
def asciiBytes (text : String) : List UInt8 :=
  text.toList.map fun char => UInt8.ofNat char.toNat

/-- `entry_key`. -/
def entryKey : List UInt8 := asciiBytes "\x7b\"thread-id\": "

/-- `cpu_key`. -/
def cpuKey : List UInt8 := asciiBytes "\"cpu-index\": "

/-- Whether the allocations for one entry succeed: its `struct qmp_vpcu`, and its list
node. -/
structure EntryAllocs where
  vcpu : Bool
  node : Bool
deriving DecidableEq, Repr

def EntryAllocs.working : EntryAllocs := ⟨true, true⟩

/-- `push_back` on the list behind the dummy head. Without a node the element is
dropped. -/
def pushBack (node : Bool) (head : List QmpVcpu) (vcpu : QmpVcpu) : List QmpVcpu :=
  if node then head ++ [vcpu] else head

/-- `thread_id` and `cpu_index` of the entry whose key stands right before `str`, cast
as `register_vm` casts them. -/
def readEntry (str : List UInt8) : QmpVcpu :=
  let threadId := (scanInt str).getD (-1)
  let cpuIndex :=
    match strstr cpuKey str with
    | some cpuPtr => (scanInt (cpuPtr.drop cpuKey.length)).getD (-1)
    | none => -1
  ⟨(cpuIndex % 2 ^ 32).toNat, (threadId % 2 ^ 32).toNat⟩

/-- The loop of `extract_vcpu_info`. The outcomes of the allocations are consumed entry
by entry, and succeed once the list has run out. -/
def extractLoop : Nat → List EntryAllocs → List QmpVcpu → List UInt8 → List QmpVcpu
  | 0, _, head, _ => head
  | fuel + 1, allocs, head, str =>
      match strstr entryKey str with
      | none => head
      | some found =>
          let str := found.drop entryKey.length
          let alloc := allocs.headD .working
          if alloc.vcpu then
            extractLoop fuel allocs.tail (pushBack alloc.node head (readEntry str)) str
          else head

/-- The loop run to its end. -/
def extractFrom (allocs : List EntryAllocs) (head : List QmpVcpu) (str : List UInt8) :
    List QmpVcpu :=
  extractLoop (str.length + 1) allocs head str

/-- `extract_vcpu_info`, once its dummy head is allocated. -/
def extractVcpuInfo (allocs : List EntryAllocs) (queryResult : List UInt8) : List QmpVcpu :=
  extractFrom allocs [] queryResult

theorem entryKey_unbordered : Unbordered entryKey := by decide +kernel

theorem cpuKey_unbordered : Unbordered cpuKey := by decide +kernel

section Loop

variable {allocs : List EntryAllocs} {head : List QmpVcpu} {str : List UInt8}

/-- Every iteration leaves less text, so the loop ends. -/
theorem strstr_entryKey_shorter {found : List UInt8} (search : strstr entryKey str = some found) :
    (found.drop entryKey.length).length < str.length := by
  have spec := strstr_some search
  have positive : 0 < entryKey.length := by decide
  have room := spec.1.length_le
  rw [List.length_drop]
  omega

/-- More iterations than the text has bytes change nothing. The induction is on the
iterations, over every text that is shorter. -/
theorem extractLoop_of_lt {first second : Nat} (enough : str.length < first)
    (alsoEnough : str.length < second) :
    extractLoop first allocs head str = extractLoop second allocs head str := by
  induction first generalizing second allocs head str with
  | zero => exact absurd enough (Nat.not_lt_zero _)
  | succ first inductionHypothesis =>
      cases second with
      | zero => exact absurd alsoEnough (Nat.not_lt_zero _)
      | succ second =>
          rw [extractLoop, extractLoop]
          cases search : strstr entryKey str with
          | none => rfl
          | some found =>
              have shorter := strstr_entryKey_shorter search
              dsimp only
              split
              · exact inductionHypothesis (by omega) (by omega)
              · rfl

theorem extractFrom_absent (absent : ¬ entryKey <:+: str) : extractFrom allocs head str = head := by
  unfold extractFrom
  rw [extractLoop, strstr_of_absent absent]

theorem extractFrom_found {before rest : List UInt8} (absent : ¬ entryKey <:+: before)
    (working : ∀ alloc ∈ allocs, alloc = .working) :
    extractFrom allocs head (before ++ (entryKey ++ rest)) =
      extractFrom allocs.tail (head ++ [readEntry rest]) rest := by
  have works : allocs.headD .working = .working := by
    cases allocs with
    | nil => rfl
    | cons alloc others => exact working alloc List.mem_cons_self
  unfold extractFrom
  rw [extractLoop, strstr_append entryKey_unbordered absent]
  dsimp only
  rw [works, List.drop_left]
  apply extractLoop_of_lt
  · rw [List.length_append, List.length_append]
    have positive : 0 < entryKey.length := by decide
    omega
  · exact Nat.lt_succ_self rest.length

end Loop

/-! ## The layout of a reply -/

/-- One object of the reply, from its thread id on: the text between the thread id and
the key of the CPU index, and the text behind the CPU index. -/
structure CpuText where
  threadId : Nat
  between : List UInt8
  cpuIndex : Nat
  after : List UInt8
deriving DecidableEq, Repr

/-- The text of the object behind its first key. -/
def CpuText.body (cpu : CpuText) : List UInt8 :=
  decimal cpu.threadId ++ (cpu.between ++ (cpuKey ++ (decimal cpu.cpuIndex ++ cpu.after)))

/-- The vCPU that the object describes. -/
def CpuText.vcpu (cpu : CpuText) : QmpVcpu := ⟨cpu.cpuIndex, cpu.threadId⟩

def CpuText.text (cpu : CpuText) : List UInt8 := entryKey ++ cpu.body

/-- What `extract_vcpu_info` needs of an object: the numbers are those of a `pid_t` and an
`int` and end where their digits end, the key of the CPU index stands there once, and
nothing in the object looks like the start of another one. -/
structure CpuText.Readable (cpu : CpuText) : Prop where
  threadId_lt : cpu.threadId < 2 ^ 31
  cpuIndex_lt : cpu.cpuIndex < 2 ^ 31
  threadId_ends : StopsNumber (cpu.between ++ cpuKey)
  cpuIndex_ends : StopsNumber cpu.after
  cpuKey_absent : ¬ cpuKey <:+: decimal cpu.threadId ++ cpu.between
  entryKey_absent : ¬ entryKey <:+: cpu.body

/-- One object as QEMU prints it, with its thread id first. -/
structure CpuEntry extends CpuText where
  readable : toCpuText.Readable

/-- The reply as QEMU prints it: text in front of the first object, and the objects. -/
structure CpusLayout where
  before : List UInt8
  entries : List CpuEntry
  before_absent : ¬ entryKey <:+: before

def CpusLayout.text (layout : CpusLayout) : List UInt8 :=
  layout.before ++ layout.entries.flatMap fun entry => entry.text

def CpusLayout.vcpus (layout : CpusLayout) : List QmpVcpu :=
  layout.entries.map fun entry => entry.vcpu

/-! ## Reading a reply back -/

theorem cast_of_lt {number : Nat} (inRange : number < 2 ^ 31) :
    ((number : Int) % 2 ^ 32).toNat = number := by
  omega

theorem CpuText.Readable.readEntry_body {cpu : CpuText} (readable : cpu.Readable)
    (rest : List UInt8) : readEntry (cpu.body ++ rest) = cpu.vcpu := by
  have whole : cpu.body ++ rest = (decimal cpu.threadId ++ cpu.between) ++
      (cpuKey ++ (decimal cpu.cpuIndex ++ (cpu.after ++ rest))) := by
    unfold CpuText.body
    simp only [List.append_assoc]
  have threadId : scanInt (cpu.body ++ rest) = some (cpu.threadId : Int) := by
    rw [whole, List.append_assoc, ← List.append_assoc cpu.between]
    exact scanInt_decimal readable.threadId_lt (readable.threadId_ends.append _)
  have cpuIndex : scanInt (decimal cpu.cpuIndex ++ (cpu.after ++ rest)) =
      some (cpu.cpuIndex : Int) :=
    scanInt_decimal readable.cpuIndex_lt (readable.cpuIndex_ends.append rest)
  have cpuPtr : strstr cpuKey ((decimal cpu.threadId ++ cpu.between) ++
        (cpuKey ++ (decimal cpu.cpuIndex ++ (cpu.after ++ rest)))) =
      some (cpuKey ++ (decimal cpu.cpuIndex ++ (cpu.after ++ rest))) :=
    strstr_append cpuKey_unbordered readable.cpuKey_absent
  unfold readEntry
  rw [threadId, whole, cpuPtr]
  dsimp only
  rw [List.drop_left, cpuIndex, Option.getD_some, Option.getD_some,
    cast_of_lt readable.threadId_lt, cast_of_lt readable.cpuIndex_lt]
  rfl

/-- The loop reads the objects one after the other, up to an end of the text that completes
no key. The text before the first of them is the body of the object read last. -/
theorem extractFrom_cpus {cpus : List CpuText} (readable : ∀ cpu ∈ cpus, cpu.Readable)
    {allocs : List EntryAllocs} (working : ∀ alloc ∈ allocs, alloc = .working)
    {before : List UInt8} (absent : ¬ entryKey <:+: before) {closing : List UInt8}
    (closes : ∀ text, ¬ entryKey <:+: text → ¬ entryKey <:+: text ++ closing)
    (head : List QmpVcpu) :
    extractFrom allocs head (before ++ cpus.flatMap CpuText.text ++ closing) =
      head ++ cpus.map CpuText.vcpu := by
  induction cpus generalizing allocs before head with
  | nil =>
      rw [List.flatMap_nil, List.append_nil, List.map_nil, List.append_nil]
      exact extractFrom_absent (closes before absent)
  | cons cpu cpus inductionHypothesis =>
      have first := readable cpu List.mem_cons_self
      have others : ∀ other ∈ cpus, other.Readable := fun other member =>
        readable other (List.mem_cons_of_mem cpu member)
      have othersWorking : ∀ alloc ∈ allocs.tail, alloc = .working := fun alloc member =>
        working alloc (List.mem_of_mem_tail member)
      have split : before ++ (cpu :: cpus).flatMap CpuText.text ++ closing =
          before ++ (entryKey ++ (cpu.body ++ cpus.flatMap CpuText.text ++ closing)) := by
        rw [List.flatMap_cons, CpuText.text]
        simp only [List.append_assoc]
      rw [split, extractFrom_found absent working, List.append_assoc cpu.body,
        first.readEntry_body, ← List.append_assoc cpu.body,
        inductionHypothesis others othersWorking first.entryKey_absent, List.map_cons,
        List.append_assoc]
      rfl

/-- A reply in QEMU's layout is read back, with the newline that ends it. -/
theorem CpusLayout.extractVcpuInfo_text (layout : CpusLayout) {allocs : List EntryAllocs}
    (working : ∀ alloc ∈ allocs, alloc = .working) :
    extractVcpuInfo allocs (layout.text ++ [10]) = layout.vcpus := by
  have readable : ∀ cpu ∈ layout.entries.map CpuEntry.toCpuText, cpu.Readable := by
    intro cpu member
    rcases List.mem_map.mp member with ⟨entry, _, rfl⟩
    exact entry.readable
  have read := extractFrom_cpus readable working layout.before_absent
    (fun _ => absent_append_singleton (by decide : entryKey ≠ []) (by decide : 10 ∉ entryKey)) []
  rw [List.flatMap_map, List.map_map] at read
  exact read

end PhantomTracker.Host
