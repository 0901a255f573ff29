import PhantomTracker.Foundation.Runs
import PhantomTracker.Host.QmpSession

/-!
Contract: what a QMP session registers.

Owns: that `main` and the server stay in step line by line, that the third line is what
`main` parses, and that the vCPUs registered are those of the reply to `query-cpus-fast`
in every run in which no event line comes before that reply.

Does not own: the session itself, or the text of a reply.
-/

namespace PhantomTracker.Host

open PhantomTracker.Foundation

/-! ## Lines and bytes -/

/-- `main` has read `index` lines and then `buf`, of the lines sent; `incoming` is what it
has not read. -/
structure Waiting (lines : List QmpLine) (incoming : List UInt8) (index : Nat)
    (buf : List UInt8) : Prop where
  sent : index ≤ lines.length
  unfinished : 10 ∉ buf
  aligned : (lines.drop index).flatMap QmpLine.received = buf ++ incoming

namespace Waiting

variable {lines : List QmpLine} {incoming : List UInt8} {index : Nat} {buf : List UInt8}

theorem send (waiting : Waiting lines incoming index buf) (line : QmpLine) :
    Waiting (lines ++ [line]) (incoming ++ line.received) index buf where
  sent := by
    rw [List.length_append]
    exact Nat.le_add_right_of_le waiting.sent
  unfinished := waiting.unfinished
  aligned := by
    rw [List.drop_append_of_le_length waiting.sent, List.flatMap_append, waiting.aligned,
      List.flatMap_singleton, List.append_assoc]

/-- What has been read or is still to be read starts with the line at `index`. -/
theorem current (waiting : Waiting lines incoming index buf) (nonempty : incoming ≠ []) :
    ∃ line, lines[index]? = some line ∧
      line.bytes ++ 10 :: (lines.drop (index + 1)).flatMap QmpLine.received = buf ++ incoming := by
  have aligned := waiting.aligned
  cases unread : lines.drop index with
  | nil =>
      rw [unread, List.flatMap_nil] at aligned
      exact absurd (List.append_eq_nil_iff.mp aligned.symm).2 nonempty
  | cons line others =>
      have later : lines.drop (index + 1) = others := by
        rw [← List.drop_drop, unread, List.drop_one, List.tail_cons]
      have first : lines[index]? = some line := by
        have head := congrArg (fun suffix => suffix[0]?) unread
        rwa [List.getElem?_drop, Nat.add_zero] at head
      rw [unread, List.flatMap_cons, QmpLine.received, List.append_assoc] at aligned
      exact ⟨line, first, by rw [later]; exact aligned⟩

/-- A newline ends the line at `index`. -/
theorem line_end (waiting : Waiting lines (10 :: incoming) index buf) :
    ∃ line, lines[index]? = some line ∧ line.received = buf ++ [10] ∧
      Waiting lines incoming (index + 1) [] := by
  rcases waiting.current (List.cons_ne_nil 10 incoming) with ⟨line, present, whole⟩
  rcases first_line_eq line.oneLine waiting.unfinished whole with ⟨same, rest⟩
  have below : index < lines.length := (List.getElem?_eq_some_iff.mp present).1
  exact ⟨line, present, by rw [QmpLine.received, same], below, List.not_mem_nil, rest⟩

/-- Any other byte belongs to the line. -/
theorem char {char : UInt8} (waiting : Waiting lines (char :: incoming) index buf)
    (notNewline : char ≠ 10) : Waiting lines incoming index (buf ++ [char]) where
  sent := waiting.sent
  unfinished := by
    rw [List.mem_append, List.mem_singleton]
    rintro (earlier | last)
    · exact waiting.unfinished earlier
    · exact notNewline last.symm
  aligned := by
    rw [waiting.aligned, List.append_assoc]
    rfl

/-- The buffer has room for the rest of the line. -/
theorem room {char : UInt8} {bufsz : Nat} (waiting : Waiting lines (char :: incoming) index buf)
    (notNewline : char ≠ 10) (fits : ∀ line ∈ lines, line.received.length < bufsz) :
    buf.length + 2 < bufsz := by
  rcases waiting.current (List.cons_ne_nil char incoming) with ⟨line, present, whole⟩
  rcases first_line_extends waiting.unfinished whole with ⟨extra, lineEq, tail⟩
  have long := fits line (List.mem_of_getElem? present)
  rw [QmpLine.received, List.length_append, lineEq, List.length_append,
    List.length_singleton] at long
  cases extra with
  | nil => exact absurd (List.cons.inj tail).1 notNewline
  | cons _ extra =>
      rw [List.length_cons] at long
      omega

/-- A line that has been sent is not at its end before its newline. -/
theorem incoming_ne_nil (waiting : Waiting lines incoming index buf)
    (below : index < lines.length) : incoming ≠ [] := by
  rintro rfl
  have aligned := waiting.aligned
  rw [List.drop_eq_getElem_cons below, List.flatMap_cons, List.append_nil] at aligned
  apply waiting.unfinished
  rw [← aligned, QmpLine.received]
  simp

end Waiting

/-! ## The end of `main` -/

/-- A reply in the expected layout is read back from the buffer. -/
theorem CpusReply.extractVcpuInfo_received {reply : CpusReply} (printed : reply.Printed)
    {allocs : List EntryAllocs} (working : ∀ alloc ∈ allocs, alloc = .working) :
    extractVcpuInfo allocs (reply.line.received.takeWhile (· ≠ 0)) = reply.vcpus := by
  cases reply with
  | other vcpus line => cases printed
  | printed layout line same =>
      have noNul : ∀ byte ∈ line.received, decide (byte ≠ 0) = true := by
        intro byte member
        rw [decide_eq_true_iff]
        rcases List.mem_append.mp member with inside | last
        · exact line.nulFree byte inside
        · rw [List.mem_singleton.mp last]
          decide
      change extractVcpuInfo allocs (line.received.takeWhile (· ≠ 0)) = layout.vcpus
      rw [List.takeWhile_eq_self_iff.mpr noNul, QmpLine.received, same]
      exact layout.extractVcpuInfo_text working

theorem registerVm_status {failing : Option RegisterCall} {swept : Bool} {args : RegisterArgs}
    {host : HostState} (succeeds : ¬ (registerVm failing swept args host).2 < 0) :
    (registerVm failing swept args host).1.vcpus =
      insertVcpus args args.vcpus (cleanupStaleVcpus swept args.vmName host.vcpus) := by
  cases failing with
  | none => rw [registerVm_none]; rfl
  | some call =>
      have failed : (registerVm (some call) swept args host).2 = -1 := by
        cases call <;> rfl
      rw [failed] at succeeds
      exact absurd (by decide) succeeds

theorem setupVmMaps_vcpus (failing : Option SetupCall) (collection processing : MapId)
    (vmName : CString) (host : HostState) :
    (setupVmMaps failing collection processing vmName host).1.vcpus = host.vcpus := by
  cases failing with
  | none => rfl
  | some call => cases call <;> rfl

/-- A successful end of `main` has written the vCPUs that it parsed. -/
theorem finish_vcpus {args : MainArgs} {calls : FinishCalls} {buf : List UInt8}
    {host : HostState} (succeeds : (finish args calls buf host).2 = 0) :
    (finish args calls buf host).1.vcpus =
      insertVcpus (args.registerArgs (extractVcpuInfo calls.allocs (buf.takeWhile (· ≠ 0))))
        (extractVcpuInfo calls.allocs (buf.takeWhile (· ≠ 0)))
        (cleanupStaleVcpus calls.swept args.vmName host.vcpus) := by
  unfold finish at succeeds ⊢
  dsimp only at succeeds ⊢
  split at succeeds
  · split at succeeds
    · cases succeeds
    next registered =>
        rw [if_pos ‹_›, if_neg registered]
        split at succeeds
        · cases succeeds
        next setUp =>
            rw [if_neg setUp]
            rw [setupVmMaps_vcpus, registerVm_status registered]
            rfl
  · cases succeeds

/-! ## The invariant -/

/-- The number of lines read before the reply to a command. -/
def QmpCommand.index : QmpCommand → Nat
  | qmpCapabilities => 1
  | queryCpus => 2

def Awaited.index : Awaited → Nat
  | greeting => 0
  | reply command => command.index

/-- While `main` talks to the server: the lines it has read, and what it has read of the
next one. -/
def MainTask.position : MainTask → Option (Nat × List UInt8)
  | connecting => some (0, [])
  | reading awaited buf => some (awaited.index, buf)
  | writing command => some (command.index, [])
  | parsing _ => none
  | exited _ => none

/-- `main` has not exited while it talks to the server. -/
theorem MainTask.not_exited {task : MainTask} {position : Nat × List UInt8}
    (talking : task.position = some position) (status : Int) : task ≠ .exited status := by
  rintro rfl
  cases talking

namespace QmpSession

/-- The server has sent the lines of its phase and no event line among them, the third line
is the reply to `query-cpus-fast`, `main` is in step with the lines, and what it parses is
the third one. -/
structure Sound (args : MainArgs) (before : HostState) (state : QmpSession) : Prop where
  announced : state.phase.least ≤ state.lines.length
  early : state.phase.least < 3 → state.lines.length = state.phase.least ∧ state.reply = none
  fits : ∀ line ∈ state.lines, line.received.length < args.bufsz
  third : ∀ line, state.lines[2]? = some line →
    ∃ reply, state.reply = some reply ∧ reply.Printed ∧ reply.line = line
  waiting : ∀ index buf, state.task.position = some (index, buf) →
    Waiting state.lines state.incoming index buf
  parsed : ∀ buf, state.task = .parsing buf →
    ∃ line, state.lines[2]? = some line ∧ line.received = buf
  untouched : (∀ status, state.task ≠ .exited status) → state.host = before
  registered : state.VcpusAsListed args before

namespace Sound

variable {args : MainArgs} {before : HostState} {state : QmpSession}

theorem start (args : MainArgs) (host : HostState) : Sound args host (start host) where
  announced := le_rfl
  early _ := ⟨rfl, rfl⟩
  fits line member := absurd member List.not_mem_nil
  third line present := by cases present
  waiting index buf position := by
    cases position
    exact ⟨le_rfl, List.not_mem_nil, rfl⟩
  parsed buf parsing := by cases parsing
  untouched _ := rfl
  registered exited := by cases exited

/-- The server sends a line. -/
theorem send (sound : Sound args before state) {phase : ServerPhase} {reply : Option CpusReply}
    {line : QmpLine} (fits : line.received.length < args.bufsz)
    (announced : phase.least ≤ state.lines.length + 1)
    (early : phase.least < 3 → state.lines.length + 1 = phase.least ∧ reply = none)
    (third : ∀ other, (state.lines ++ [line])[2]? = some other →
      ∃ sent, reply = some sent ∧ sent.Printed ∧ sent.line = other)
    (kept : ∀ earlier, state.reply = some earlier → reply = some earlier) :
    Sound args before (state.send phase reply line) where
  announced := by
    change phase.least ≤ (state.lines ++ [line]).length
    rw [List.length_append]
    exact announced
  early small := by
    change (state.lines ++ [line]).length = phase.least ∧ _
    rw [List.length_append]
    exact early small
  fits other member := by
    rcases List.mem_append.mp member with earlier | last
    · exact sound.fits other earlier
    · rw [List.mem_singleton.mp last]
      exact fits
  third := third
  waiting index buf position := (sound.waiting index buf position).send line
  parsed buf parsing := by
    rcases sound.parsed buf parsing with ⟨other, present, same⟩
    have below := (List.getElem?_eq_some_iff.mp present).1
    exact ⟨other, (List.getElem?_append_left below).trans present, same⟩
  untouched running := sound.untouched running
  registered exited := by
    rcases sound.registered exited with ⟨sent, swept, present, stored⟩
    exact ⟨sent, swept, kept sent present, stored⟩

/-- `main` goes on without touching the maps. -/
theorem move (sound : Sound args before state) (running : ∀ status, state.task ≠ .exited status)
    {commands : Nat} {incoming : List UInt8} {task : MainTask}
    (waiting : ∀ index buf, task.position = some (index, buf) →
      Waiting state.lines incoming index buf)
    (parsed : ∀ buf, task = .parsing buf →
      ∃ line, state.lines[2]? = some line ∧ line.received = buf)
    (unsuccessful : task ≠ .exited 0) :
    Sound args before
      { state with commands := commands, incoming := incoming, task := task } where
  announced := sound.announced
  early := sound.early
  fits := sound.fits
  third := sound.third
  waiting := waiting
  parsed := parsed
  untouched _ := sound.untouched running
  registered exited := absurd exited unsuccessful

/-- `main` goes on talking to the server. -/
theorem goOn (sound : Sound args before state) (running : ∀ status, state.task ≠ .exited status)
    {commands : Nat} {incoming : List UInt8} {task : MainTask} {index : Nat} {buf : List UInt8}
    (position : task.position = some (index, buf))
    (waiting : Waiting state.lines incoming index buf) :
    Sound args before
      { state with commands := commands, incoming := incoming, task := task } := by
  apply sound.move running
  · intro other otherBuf same
    cases position.symm.trans same
    exact waiting
  · rintro other rfl
    cases position
  · rintro rfl
    cases position

/-- The greeting and the reply to `qmp_capabilities` are the first two lines. -/
theorem sendEarly (sound : Sound args before state) (small : state.phase.least < 2)
    {phase : ServerPhase} (next : phase.least = state.phase.least + 1) {line : QmpLine}
    (fits : line.received.length < args.bufsz) :
    Sound args before (state.send phase state.reply line) := by
  have early := sound.early (by omega)
  apply sound.send fits
  · rw [next, early.1]
  · intro _
    exact ⟨by rw [next, early.1], early.2⟩
  · intro other present
    have below := (List.getElem?_eq_some_iff.mp present).1
    rw [List.length_append, List.length_singleton, early.1] at below
    omega
  · exact fun _ kept => kept

theorem replyCpus (sound : Sound args before state) (phase : state.phase = .negotiated)
    {reply : CpusReply} (fits : reply.line.received.length < args.bufsz)
    (printed : reply.Printed) :
    Sound args before (state.send .answered (some reply) reply.line) := by
  have early := sound.early (by rw [phase]; decide)
  rw [phase] at early
  have two : state.lines.length = 2 := early.1
  apply sound.send fits
  · rw [two]
    exact le_rfl
  · intro small
    exact absurd small (by decide)
  · intro other present
    rw [List.getElem?_append_right (by rw [two]), two] at present
    exact ⟨reply, rfl, printed, Option.some.inj present⟩
  · intro earlier kept
    rw [early.2] at kept
    cases kept

theorem event (sound : Sound args before state) (phase : state.phase = .answered)
    {line : QmpLine} (fits : line.received.length < args.bufsz) :
    Sound args before (state.send state.phase state.reply line) := by
  have announced := sound.announced
  rw [phase] at announced ⊢
  have three : 3 ≤ state.lines.length := announced
  apply sound.send fits
  · exact Nat.le_add_right_of_le three
  · intro small
    exact absurd small (by decide)
  · intro other present
    rw [List.getElem?_append_left (by omega)] at present
    exact sound.third other present
  · exact fun _ kept => kept

/-- A newline: `main` goes on to the next command, or parses the third line. -/
theorem lineRead (sound : Sound args before state) {awaited : Awaited} {buf incoming : List UInt8}
    (task : state.task = .reading awaited buf) (unread : state.incoming = 10 :: incoming) :
    Sound args before
      { state with incoming := incoming, task := awaited.next (buf ++ [10]) } := by
  have talking : state.task.position = some (awaited.index, buf) := by
    rw [task]
    rfl
  have running := MainTask.not_exited talking
  have waiting := sound.waiting _ _ talking
  rw [unread] at waiting
  rcases waiting.line_end with ⟨line, present, received, next⟩
  cases awaited with
  | greeting => exact sound.goOn running rfl next
  | reply command =>
      cases command with
      | qmpCapabilities => exact sound.goOn running rfl next
      | queryCpus =>
          apply sound.move running
          · intro index other position
            cases position
          · intro other parsing
            cases parsing
            exact ⟨line, present, received⟩
          · intro exited
            cases exited

/-- One byte: the buffer is full only when the line has ended. -/
theorem readChar (sound : Sound args before state) {awaited : Awaited} {buf incoming : List UInt8}
    {char : UInt8} (task : state.task = .reading awaited buf)
    (unread : state.incoming = char :: incoming) :
    Sound args before { state with
      incoming := incoming
      task := qmpReadChar args.bufsz awaited buf char } := by
  unfold qmpReadChar
  by_cases newline : char = 10
  · subst newline
    rw [if_pos (Or.inl rfl)]
    exact sound.lineRead task unread
  · have talking : state.task.position = some (awaited.index, buf) := by
      rw [task]
      rfl
    have waiting := sound.waiting _ _ talking
    rw [unread] at waiting
    have room := waiting.room newline sound.fits
    rw [if_neg (not_or.mpr ⟨newline, Nat.not_le.mpr room⟩)]
    exact sound.goOn (MainTask.not_exited talking) rfl (waiting.char newline)

/-- The next call of `main`. -/
theorem advance (sound : Sound args before state) {next : QmpSession}
    (taken : state.advance args = some next) : Sound args before next := by
  unfold QmpSession.advance at taken
  cases task : state.task with
  | connecting =>
      rw [task] at taken
      obtain rfl := Option.some.inj taken
      have talking : state.task.position = some (0, []) := by
        rw [task]
        rfl
      exact sound.goOn (MainTask.not_exited talking) rfl (sound.waiting _ _ talking)
  | writing command =>
      rw [task] at taken
      obtain rfl := Option.some.inj taken
      have talking : state.task.position = some (command.index, []) := by
        rw [task]
        rfl
      exact sound.goOn (MainTask.not_exited talking) rfl (sound.waiting _ _ talking)
  | reading awaited buf =>
      rw [task] at taken
      cases unread : state.incoming with
      | nil =>
          rw [unread] at taken
          cases taken
      | cons char incoming =>
          rw [unread] at taken
          obtain rfl := Option.some.inj taken
          exact sound.readChar task unread
  | parsing buf =>
      rw [task] at taken
      cases taken
  | exited status =>
      rw [task] at taken
      cases taken

/-- `main` never meets the end of the session: the server ends it only after its replies,
and one of them is then still to be read. -/
theorem no_endOfFile (sound : Sound args before state) {awaited : Awaited} {buf : List UInt8}
    (task : state.task = .reading awaited buf) (closed : state.phase = .closed) :
    state.incoming ≠ [] := by
  have talking : state.task.position = some (awaited.index, buf) := by
    rw [task]
    rfl
  have announced := sound.announced
  rw [closed] at announced
  have small : awaited.index < 3 := by
    cases awaited with
    | greeting => decide
    | reply command => cases command <;> decide
  exact (sound.waiting _ _ talking).incoming_ne_nil (small.trans_le announced)

/-- A failing call ends `main` without success. -/
theorem fail (sound : Sound args before state) (running : ∀ status, state.task ≠ .exited status) :
    Sound args before { state with task := .exited 1 } := by
  apply sound.move running
  · intro index buf position
    cases position
  · intro buf parsing
    cases parsing
  · decide

/-- `main` registers the vCPUs of the third line, which is the reply. -/
theorem finish (sound : Sound args before state) {buf : List UInt8}
    (task : state.task = .parsing buf) {calls : FinishCalls}
    (working : ∀ alloc ∈ calls.allocs, alloc = .working) :
    Sound args before { state with
      host := (Host.finish args calls buf state.host).1
      task := .exited (Host.finish args calls buf state.host).2 } where
  announced := sound.announced
  early := sound.early
  fits := sound.fits
  third := sound.third
  waiting index other position := by cases position
  parsed other parsing := by cases parsing
  untouched running := absurd rfl (running _)
  registered exited := by
    have succeeds : (Host.finish args calls buf state.host).2 = 0 := MainTask.exited.inj exited
    have unchanged : state.host = before := sound.untouched fun status done => by
      rw [task] at done
      cases done
    rcases sound.parsed buf task with ⟨line, present, rfl⟩
    rcases sound.third line present with ⟨reply, sent, printed, rfl⟩
    refine ⟨reply, calls.swept, sent, ?_⟩
    have written := finish_vcpus succeeds
    rw [CpusReply.extractVcpuInfo_received printed working] at written
    rw [← unchanged]
    exact written

/-- Every step of a session in order keeps the invariant. -/
theorem step (sound : Sound args before state) {action : QmpAction} {next : QmpSession}
    (fits : LinesFit args action) (inOrder : state.InOrder action)
    (taken : state.step args action = some next) : Sound args before next := by
  cases action with
  | greet line =>
      rcases Option.ite_none_right_eq_some.mp taken with ⟨phase, sent⟩
      obtain rfl := Option.some.inj sent
      exact sound.sendEarly (by rw [phase]; decide) (by rw [phase]; rfl) fits
  | replyCapabilities line =>
      rcases Option.ite_none_right_eq_some.mp taken with ⟨⟨phase, _⟩, sent⟩
      obtain rfl := Option.some.inj sent
      exact sound.sendEarly (by rw [phase]; decide) (by rw [phase]; rfl) fits
  | replyCpus reply =>
      rcases Option.ite_none_right_eq_some.mp taken with ⟨⟨phase, _⟩, sent⟩
      obtain rfl := Option.some.inj sent
      exact sound.replyCpus phase fits inOrder
  | event line =>
      rcases Option.ite_none_right_eq_some.mp taken with ⟨phase, sent⟩
      obtain rfl := Option.some.inj sent
      exact sound.event (phase.resolve_left inOrder) fits
  | close =>
      rcases Option.ite_none_right_eq_some.mp taken with ⟨phase, sent⟩
      obtain rfl := Option.some.inj sent
      have announced := sound.announced
      rw [phase] at announced
      exact { sound with
        announced := announced
        early := fun small => absurd small (Nat.lt_irrefl 3) }
  | advance => exact sound.advance taken
  | endOfFile =>
      unfold QmpSession.step at taken
      dsimp only at taken
      split at taken
      next task =>
          rcases Option.ite_none_right_eq_some.mp taken with ⟨⟨closed, drained⟩, _⟩
          exact absurd drained (sound.no_endOfFile task closed)
      · cases taken
  | fail =>
      unfold QmpSession.step at taken
      dsimp only at taken
      split at taken
      · cases taken
      · cases taken
      next notExited =>
          obtain rfl := Option.some.inj taken
          exact sound.fail notExited
  | finish calls =>
      unfold QmpSession.step at taken
      dsimp only at taken
      split at taken
      next task =>
          obtain rfl := Option.some.inj taken
          exact sound.finish task inOrder
      · cases taken

end Sound

/-- However the server and `main` take turns: when no event line comes before the reply to
`query-cpus-fast`, a successful `main` has registered exactly the vCPUs of that reply. -/
theorem vcpus_as_listed_in_order (args : MainArgs) (host : HostState) {actions : List QmpAction}
    {final : QmpSession}
    (run : GuardedRun (step args)
      (fun state action => LinesFit args action ∧ state.InOrder action) (start host) actions
      final) :
    final.VcpusAsListed args host := by
  have sound : Sound args host final := run.invariant (Sound args host)
    (fun _ _ _ sound allowed taken => sound.step allowed.1 allowed.2 taken)
    (Sound.start args host)
  exact sound.registered

end QmpSession

/-! ## One session -/

/-- A text without its newlines and NULs. -/
def QmpLine.ofText (text : String) : QmpLine where
  bytes := (asciiBytes text).filter fun byte => byte ≠ 10 && byte ≠ 0
  oneLine member := absurd (List.mem_filter.mp member).2 Bool.false_ne_true
  nulFree byte member := by
    rintro rfl
    exact absurd (List.mem_filter.mp member).2 Bool.false_ne_true

def greetingLine : QmpLine := .ofText "\x7b\"QMP\": \x7b\x7d\x7d"

def capabilitiesLine : QmpLine := .ofText "\x7b\"return\": \x7b\x7d\x7d"

def resumeLine : QmpLine :=
  .ofText "\x7b\"timestamp\": \x7b\"seconds\": 1\x7d, \"event\": \"RESUME\"\x7d"

/-- The object of a VM whose only vCPU is thread 7. -/
def loneCpu : CpuText :=
  ⟨7, asciiBytes ", \"props\": \x7b\"core-id\": 0\x7d, ", 0, asciiBytes "\x7d]\x7d"⟩

theorem loneCpu_readable : loneCpu.Readable :=
  ⟨by decide, by decide, by decide, by decide, by decide +kernel, by decide +kernel⟩

theorem loneBefore_absent : ¬ entryKey <:+: asciiBytes "\x7b\"return\": [" := by decide +kernel

def loneLayout : CpusLayout :=
  ⟨asciiBytes "\x7b\"return\": [", [⟨loneCpu, loneCpu_readable⟩], loneBefore_absent⟩

def cpusLine : QmpLine :=
  .ofText ("\x7b\"return\": [\x7b\"thread-id\": 7, \"props\": \x7b\"core-id\": 0\x7d, " ++
    "\"cpu-index\": 0\x7d]\x7d")

theorem cpusLine_printed : cpusLine.bytes = loneLayout.text := by decide +kernel

def loneReply : CpusReply := .printed loneLayout cpusLine cpusLine_printed

def loneMain : MainArgs := ⟨loneName, loneName, 1⟩

def workingCalls : FinishCalls := ⟨true, [], none, true, none, 1, 2⟩

/-- The reads of one line. -/
def readsOf (line : QmpLine) : List QmpAction :=
  List.replicate line.received.length .advance

/-- The session up to the reply to `qmp_capabilities`. -/
def negotiation : List QmpAction :=
  [.advance, .greet greetingLine] ++ readsOf greetingLine ++
    [.advance, .replyCapabilities capabilitiesLine] ++ readsOf capabilitiesLine

/-- An event line behind the reply to `query-cpus-fast`. -/
def lateEvent : List QmpAction :=
  negotiation ++ [.advance, .replyCpus loneReply, .event resumeLine] ++ readsOf cpusLine ++
    [.finish workingCalls]

/-- An event line between the two replies. -/
def earlyEvent : List QmpAction :=
  negotiation ++ [.event resumeLine, .advance, .replyCpus loneReply] ++ readsOf resumeLine ++
    [.finish workingCalls]

namespace QmpSession

theorem late_event_vcpus_as_listed :
    ∃ final, GuardedRun (step loneMain)
        (fun state action => LinesFit loneMain action ∧ state.InOrder action) (start emptyHost)
        lateEvent final ∧
      final.task = .exited 0 ∧ final.VcpusAsListed loneMain emptyHost := by
  have executed : (exec (step loneMain)
      (fun state action => LinesFit loneMain action ∧ state.InOrder action) (start emptyHost)
      lateEvent).any (fun final => decide (final.task = .exited 0)) = true := by
    decide +kernel
  rcases (Option.any_eq_true _ _).mp executed with ⟨final, reached, exited⟩
  have run := guardedRun_of_exec reached
  exact ⟨final, run, of_decide_eq_true exited, vcpus_as_listed_in_order loneMain emptyHost run⟩

/-- `main` takes an early event line for the reply, registers a VM without vCPUs and
succeeds. -/
theorem early_event_taken_for_reply :
    ∃ final, GuardedRun (step loneMain) (fun _ action => LinesFit loneMain action)
        (start emptyHost) earlyEvent final ∧
      final.task = .exited 0 ∧ final.host.vcpus.lookup 7 = none ∧
      ¬ final.VcpusAsListed loneMain emptyHost := by
  have executed : (exec (step loneMain) (fun _ action => LinesFit loneMain action)
      (start emptyHost) earlyEvent).any
      (fun final => decide (final.task = .exited 0 ∧ final.host.vcpus.lookup 7 = none ∧
        final.reply.map CpusReply.vcpus = some [⟨0, 7⟩])) = true := by
    decide +kernel
  rcases (Option.any_eq_true _ _).mp executed with ⟨final, reached, inspected⟩
  rcases of_decide_eq_true inspected with ⟨exited, missing, listed⟩
  refine ⟨final, guardedRun_of_exec reached, exited, missing, fun asListed => ?_⟩
  rcases asListed exited with ⟨reply, swept, sent, stored⟩
  rw [sent] at listed
  have lone : reply.vcpus = [⟨0, 7⟩] := Option.some.inj listed
  rw [lone] at stored
  rw [stored] at missing
  rcases insertVcpus_lookup [⟨0, 7⟩] 7 with ⟨_, _, _, found⟩ | ⟨elsewhere, _⟩
  · rw [found] at missing
    cases missing
  · exact elsewhere ⟨0, 7⟩ List.mem_cons_self rfl

end QmpSession

end PhantomTracker.Host
