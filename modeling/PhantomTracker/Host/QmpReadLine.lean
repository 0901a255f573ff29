import PhantomTracker.Foundation.Runs
import PhantomTracker.Host.QmpSession

/-!
Contract: `qmp_read_line` and the reply buffer that `main` of `register_vm` allocates.

Owns: the size of the buffer as `main` computes it from its argument, `qmp_read_line` with
the unsigned bound of its loop and every store it makes, when it keeps to its buffer and
returns the line of the stream, and that the session reads the same line byte by byte.

Does not own: what `main` does with a line, or the memory behind the buffer.
-/

namespace PhantomTracker.Host

open PhantomTracker.Foundation

/-! ## The buffer -/

/-- `(size_t)nb_vcpus * QMP_VCPU_SIZE`, for the argument that `main` gives to `atoi`. -/
def replyBufsz (argument : List UInt8) : Nat :=
  (atoi argument % 2 ^ 64 * MainArgs.qmpVcpuSize % 2 ^ 64).toNat

/-- `main` goes on with this argument when its buffer is allocated. -/
def Accepts (malloc : Nat → Bool) (argument : List UInt8) : Prop :=
  malloc (replyBufsz argument) = true

/-- No allocation succeeds from 2^63 bytes on. -/
def RefusesAbsurd (malloc : Nat → Bool) : Prop := ∀ size, 2 ^ 63 ≤ size → malloc size = false

section Buffer

variable {malloc : Nat → Bool} {argument : List UInt8}

/-- A negative number becomes a size that no allocation succeeds for. -/
theorem Accepts.atoi_nonneg (accepts : Accepts malloc argument) (refuses : RefusesAbsurd malloc) :
    0 ≤ atoi argument := by
  by_contra negative
  have bounds := atoi_bounds argument
  have absurdSize : 2 ^ 63 ≤ replyBufsz argument := by
    unfold replyBufsz MainArgs.qmpVcpuSize
    omega
  unfold Accepts at accepts
  rw [refuses _ absurdSize] at accepts
  cases accepts

theorem replyBufsz_of_nonneg (nonneg : 0 ≤ atoi argument) :
    replyBufsz argument = (atoi argument).toNat * MainArgs.qmpVcpuSize := by
  have bounds := atoi_bounds argument
  unfold replyBufsz MainArgs.qmpVcpuSize
  omega

end Buffer

/-! ## `qmp_read_line` -/

/-- What `read` of one byte returns. -/
inductive ReadResult where
  | char (c : UInt8)
  | endOfFile
  | error
deriving DecidableEq, Repr

/-- The bytes that `qmp_read_line` stores, with their positions in the buffer and in the
order of the stores, and what it returns. -/
structure LineRead where
  stores : List (UInt8 × Nat)
  result : Int
deriving DecidableEq, Repr

/-- The loop of `qmp_read_line`, by the rounds that are left before `total` reaches the bound.
The total at its end is missing when a `read` fails. -/
def qmpReadLoop (socket : Nat → ReadResult) : Nat → Nat → List (UInt8 × Nat) × Option Nat
  | 0, total => ([], some total)
  | left + 1, total =>
      match socket total with
      | .error => ([], none)
      | .endOfFile => ([], some total)
      | .char c =>
          if c = 10 then ([(c, total)], some (total + 1))
          else
            let rest := qmpReadLoop socket left (total + 1)
            ((c, total) :: rest.1, rest.2)

/-- `bufsz - 1`, computed in `size_t`. It is irreducible, or the unifier would count the loop
down from it. -/
@[irreducible]
def loopBound (bufsz : Nat) : Nat := (bufsz + (2 ^ 64 - 1)) % 2 ^ 64

/-- A `size_t` returned as an `ssize_t`. -/
def asSsize (total : Nat) : Int := Int.bmod total (2 ^ 64)

/-- What `qmp_read_line` does behind its loop. -/
def endLine (stores : List (UInt8 × Nat)) : Option Nat → LineRead
  | none => ⟨stores, -1⟩
  | some total => ⟨stores ++ [(0, total)], asSsize total⟩

def qmpReadLine (bufsz : Nat) (socket : Nat → ReadResult) : LineRead :=
  let loop := qmpReadLoop socket (loopBound bufsz) 0
  endLine loop.1 loop.2

/-- A socket that delivers a stream, to its end if it has one. -/
def delivers (stream : Nat → Option UInt8) (index : Nat) : ReadResult :=
  match stream index with
  | some c => .char c
  | none => .endOfFile

/-- `qmp_read_line` stores below `bufsz` only. What it stores is the stream up to and
including its first newline, cut at `bufsz - 1` bytes, and a NUL behind it, and it returns
the length of this line. -/
structure ReadsLine (bufsz : Nat) (stream : Nat → Option UInt8) (read : LineRead) : Prop where
  inside : ∀ store ∈ read.stores, store.2 < bufsz
  line : ∃ line, IsCutLine 10 (bufsz - 1) stream line ∧
    read.stores = (line ++ [0]).zipIdx ∧ read.result = line.length

/-! ## The loop -/

theorem delivers_some {stream : Nat → Option UInt8} {index : Nat} {c : UInt8}
    (present : stream index = some c) : delivers stream index = .char c := by
  unfold delivers
  rw [present]

theorem delivers_none {stream : Nat → Option UInt8} {index : Nat}
    (ended : stream index = none) : delivers stream index = .endOfFile := by
  unfold delivers
  rw [ended]

/-- The loop stores the cut line of what is left of the stream, from `total` on. -/
theorem qmpReadLoop_delivers (stream : Nat → Option UInt8) (left total : Nat) :
    ∃ line, IsCutLine 10 left (fun index => stream (total + index)) line ∧
      qmpReadLoop (delivers stream) left total =
        (line.zipIdx total, some (total + line.length)) := by
  induction left generalizing total with
  | zero => exact ⟨[], .nil_of_limit, rfl⟩
  | succ left inductionHypothesis =>
      rw [qmpReadLoop]
      cases next : stream total with
      | none =>
          rw [delivers_none next]
          exact ⟨[], .nil_of_end next, rfl⟩
      | some c =>
          rw [delivers_some next]
          dsimp only
          split
          next newline =>
              subst newline
              exact ⟨[10], .singleton next, rfl⟩
          next other =>
              rcases inductionHypothesis (total + 1) with ⟨line, cut, loop⟩
              refine ⟨c :: line, .cons next other ?_, ?_⟩
              · simpa only [Nat.add_assoc, Nat.add_comm 1] using cut
              · rw [loop, List.zipIdx_cons, List.length_cons, Nat.add_assoc, Nat.add_comm 1]

/-- The loop stores below its bound and ends there at the latest, whatever the socket
delivers. -/
theorem qmpReadLoop_inside (socket : Nat → ReadResult) (left total : Nat) :
    (∀ store ∈ (qmpReadLoop socket left total).1, store.2 < total + left) ∧
      ∀ last, (qmpReadLoop socket left total).2 = some last → last ≤ total + left := by
  induction left generalizing total with
  | zero =>
      refine ⟨fun store member => absurd member List.not_mem_nil, fun last ended => ?_⟩
      exact (Option.some.inj ended).symm.le
  | succ left inductionHypothesis =>
      rcases inductionHypothesis (total + 1) with ⟨stored, ended⟩
      rw [qmpReadLoop]
      split
      · exact ⟨fun store member => absurd member List.not_mem_nil, fun last none => by cases none⟩
      · refine ⟨fun store member => absurd member List.not_mem_nil, fun last same => ?_⟩
        cases same
        omega
      · dsimp only
        split
        · refine ⟨fun store member => ?_, fun last same => ?_⟩
          · rw [List.mem_singleton.mp member]
            omega
          · cases same
            omega
        · refine ⟨fun store member => ?_, fun last same => ?_⟩
          · rcases List.mem_cons.mp member with rfl | later
            · omega
            · have below := stored store later
              omega
          · have below := ended last same
            omega

/-! ## The reader -/

section Reader

variable {bufsz : Nat}

/-- For a buffer that holds a byte, the bound of the loop is what it seems to be. -/
theorem loopBound_of_pos (positive : 0 < bufsz) (small : bufsz < 2 ^ 64) :
    loopBound bufsz = bufsz - 1 := by
  unfold loopBound
  omega

theorem asSsize_of_lt {total : Nat} (small : total < 2 ^ 63) : asSsize total = total :=
  Int.bmod_eq_of_le (by omega) (by omega)

theorem endLine_inside {stores : List (UInt8 × Nat)} {ended : Option Nat}
    (stored : ∀ store ∈ stores, store.2 < bufsz) (room : ∀ last, ended = some last → last < bufsz) :
    ∀ store ∈ (endLine stores ended).stores, store.2 < bufsz := by
  intro store member
  cases ended with
  | none => exact stored store member
  | some last =>
      rcases List.mem_append.mp member with before | terminator
      · exact stored store before
      · rw [List.mem_singleton.mp terminator]
        exact room last rfl

/-- With such a buffer `qmp_read_line` stores in it only, also when a `read` fails. -/
theorem qmpReadLine_inside (positive : 0 < bufsz) (small : bufsz < 2 ^ 64)
    (socket : Nat → ReadResult) :
    ∀ store ∈ (qmpReadLine bufsz socket).stores, store.2 < bufsz := by
  rcases qmpReadLoop_inside socket (loopBound bufsz) 0 with ⟨stored, ended⟩
  have bound := loopBound_of_pos positive small
  unfold qmpReadLine
  apply endLine_inside
  · intro store member
    have below := stored store member
    omega
  · intro last same
    have below := ended last same
    omega

/-- What a stream puts into a buffer of any size. -/
theorem qmpReadLine_delivers (bufsz : Nat) (stream : Nat → Option UInt8) :
    ∃ line, IsCutLine 10 (loopBound bufsz) stream line ∧
      (qmpReadLine bufsz (delivers stream)).stores = (line ++ [0]).zipIdx ∧
      (qmpReadLine bufsz (delivers stream)).result = asSsize line.length := by
  rcases qmpReadLoop_delivers stream (loopBound bufsz) 0 with ⟨line, cut, loop⟩
  simp only [Nat.zero_add] at cut loop
  have whole : qmpReadLine bufsz (delivers stream) = endLine line.zipIdx (some line.length) := by
    unfold qmpReadLine
    rw [loop]
  refine ⟨line, cut, ?_, ?_⟩
  · rw [whole, List.zipIdx_append, Nat.zero_add, List.zipIdx_singleton, endLine]
  · rw [whole, endLine]

theorem qmpReadLine_readsLine (positive : 0 < bufsz) (small : bufsz < 2 ^ 63)
    (stream : Nat → Option UInt8) :
    ReadsLine bufsz stream (qmpReadLine bufsz (delivers stream)) where
  inside := qmpReadLine_inside positive (by omega) (delivers stream)
  line := by
    rcases qmpReadLine_delivers bufsz stream with ⟨line, cut, stores, result⟩
    rw [loopBound_of_pos positive (by omega)] at cut
    have short := cut.length_le
    exact ⟨line, cut, stores, result.trans (asSsize_of_lt (by omega))⟩

/-- What a finite stream puts into the buffer. -/
theorem qmpReadLine_text (bufsz : Nat) (text : List UInt8) :
    (qmpReadLine bufsz (delivers fun index => text[index]?)).stores =
      ((firstLine 10 text).take (loopBound bufsz) ++ [0]).zipIdx := by
  rcases qmpReadLine_delivers bufsz fun index => text[index]? with ⟨line, cut, stores, _⟩
  rw [stores, cut.unique (isCutLine_firstLine 10 _ text)]

/-- Without a buffer the terminator is stored outside it at the latest. -/
theorem not_readsLine_zero (stream : Nat → Option UInt8) :
    ¬ ReadsLine 0 stream (qmpReadLine 0 (delivers stream)) := by
  intro reads
  rcases reads.line with ⟨line, _, stores, _⟩
  have terminator : ((0 : UInt8), line.length) ∈ (qmpReadLine 0 (delivers stream)).stores := by
    rw [stores, List.zipIdx_append, Nat.zero_add]
    exact List.mem_append_right _ List.mem_cons_self
  exact absurd (reads.inside _ terminator) (Nat.not_lt_zero _)

end Reader

/-- With every argument that `main` accepts and every stream, `qmp_read_line` keeps to its
buffer and returns the line exactly when the argument is not read as 0. -/
theorem qmp_read_line_stays_iff {malloc : Nat → Bool} (refuses : RefusesAbsurd malloc)
    {argument : List UInt8} (accepts : Accepts malloc argument) (stream : Nat → Option UInt8) :
    ReadsLine (replyBufsz argument) stream
        (qmpReadLine (replyBufsz argument) (delivers stream)) ↔
      atoi argument ≠ 0 := by
  have nonneg := accepts.atoi_nonneg refuses
  have bounds := atoi_bounds argument
  have size := replyBufsz_of_nonneg nonneg
  unfold MainArgs.qmpVcpuSize at size
  constructor
  · intro reads zero
    have empty : replyBufsz argument = 0 := by omega
    rw [empty] at reads
    exact not_readsLine_zero stream reads
  · intro nonzero
    exact qmpReadLine_readsLine (by omega) (by omega) stream

/-- Allocations below 2^63 bytes succeed. -/
def smallMalloc (size : Nat) : Bool := decide (size < 2 ^ 63)

theorem smallMalloc_refusesAbsurd : RefusesAbsurd smallMalloc := by
  intro size absurdSize
  exact decide_eq_false (Nat.not_lt_of_le absurdSize)

theorem one_vcpu_reads_line :
    Accepts smallMalloc (asciiBytes "1") ∧
      ReadsLine (replyBufsz (asciiBytes "1")) (fun index => (asciiBytes "QMP\nrest")[index]?)
        (qmpReadLine (replyBufsz (asciiBytes "1"))
          (delivers fun index => (asciiBytes "QMP\nrest")[index]?)) := by
  have accepts : Accepts smallMalloc (asciiBytes "1") := by
    unfold Accepts
    decide +kernel
  exact ⟨accepts, (qmp_read_line_stays_iff smallMalloc_refusesAbsurd accepts _).mpr
    (by decide +kernel)⟩

/-- With the argument 0 the buffer is empty and the bound wraps around, so that the first
byte of the stream already lies outside. -/
theorem zero_vcpus_stored_outside :
    Accepts smallMalloc (asciiBytes "0") ∧ replyBufsz (asciiBytes "0") = 0 ∧
      (qmpReadLine 0 (delivers fun index => (asciiBytes "QMP\n")[index]?)).stores =
        [(81, 0), (77, 1), (80, 2), (10, 3), (0, 4)] ∧
      ¬ ReadsLine 0 (fun index => (asciiBytes "QMP\n")[index]?)
        (qmpReadLine 0 (delivers fun index => (asciiBytes "QMP\n")[index]?)) := by
  refine ⟨?_, ?_, ?_, not_readsLine_zero _⟩
  · unfold Accepts
    decide +kernel
  · decide +kernel
  · rw [qmpReadLine_text]
    decide +kernel

/-! ## The session reads the same line -/

section Session

open QmpSession

variable {args : MainArgs} {stream : Nat → Option UInt8} {line : List UInt8}

/-- Inside a line, `main` goes on reading. -/
theorem qmpReadChar_inside (cut : IsCutLine 10 (args.bufsz - 1) stream line) (awaited : Awaited)
    {buf left : List UInt8} {char following : UInt8}
    (whole : line = buf ++ char :: following :: left) :
    qmpReadChar args.bufsz awaited buf char = .reading awaited (buf ++ [char]) := by
  have long : buf.length + 2 ≤ line.length := by
    rw [whole, List.length_append, List.length_cons, List.length_cons]
    omega
  have here : stream buf.length = some char := by
    rw [cut.taken buf.length (by omega), whole, List.getElem?_append_right le_rfl, Nat.sub_self]
    rfl
  have notNewline : char ≠ 10 := by
    rintro rfl
    exact cut.only_last buf.length (by omega) here
  have short := cut.length_le
  unfold qmpReadChar
  rw [if_neg]
  rintro (newline | full)
  · exact notNewline newline
  · omega

/-- The last byte of a line ends it, unless the stream has ended there. -/
theorem qmpReadChar_last (cut : IsCutLine 10 (args.bufsz - 1) stream line) (awaited : Awaited)
    {buf : List UInt8} {char : UInt8} (whole : line = buf ++ [char]) :
    qmpReadChar args.bufsz awaited buf char =
      if line.getLast? = some 10 ∨ line.length = args.bufsz - 1 then awaited.next line
      else .reading awaited line := by
  have short := cut.length_le
  have last : line.getLast? = some char := by rw [whole, List.getLast?_concat]
  have length : line.length = buf.length + 1 := by rw [whole, List.length_append]; rfl
  have same : (char = 10 ∨ args.bufsz ≤ buf.length + 2) ↔
      (line.getLast? = some 10 ∨ line.length = args.bufsz - 1) := by
    rw [last, Option.some.injEq, length]
    constructor
    · rintro (newline | full)
      · exact .inl newline
      · right
        omega
    · rintro (newline | full)
      · exact .inl newline
      · right
        omega
  unfold qmpReadChar
  rw [← whole]
  exact if_congr same rfl rfl

/-- The session takes the bytes of the line one by one. The induction is on those that it has
not read. -/
theorem run_line (cut : IsCutLine 10 (args.bufsz - 1) stream line) (awaited : Awaited)
    (rest : List UInt8) {buf left : List UInt8} (whole : line = buf ++ left) (more : left ≠ [])
    {state : QmpSession} (reading : state.task = .reading awaited buf)
    (incoming : state.incoming = left ++ rest) :
    GuardedRun (step args) (fun _ _ => True) state (List.replicate left.length .advance)
      { state with
        incoming := rest
        task := if line.getLast? = some 10 ∨ line.length = args.bufsz - 1 then awaited.next line
          else .reading awaited line } := by
  induction left generalizing buf state with
  | nil => exact absurd rfl more
  | cons char left inductionHypothesis =>
      have taken : step args state .advance = some { state with
          incoming := left ++ rest
          task := qmpReadChar args.bufsz awaited buf char } := by
        change state.advance args = _
        unfold QmpSession.advance
        rw [reading, incoming]
        rfl
      cases left with
      | nil =>
          rw [qmpReadChar_last cut awaited whole] at taken
          exact .cons trivial taken (.nil _)
      | cons following left =>
          rw [qmpReadChar_inside cut awaited whole] at taken
          have wholeNext : line = (buf ++ [char]) ++ following :: left := by
            rw [whole, List.append_assoc]
            rfl
          exact .cons trivial taken
            (inductionHypothesis wholeNext (List.cons_ne_nil _ _) rfl rfl)

/-- The session gives `main` the bytes that `qmp_read_line` stores before its NUL. At the end
of the stream it waits for the end of file. -/
theorem session_reads_line (positive : 0 < args.bufsz) (small : args.bufsz < 2 ^ 63)
    (stream : Nat → Option UInt8) :
    ∃ line, (qmpReadLine args.bufsz (delivers stream)).stores = (line ++ [0]).zipIdx ∧
      ∀ (awaited : Awaited) (rest : List UInt8) (state : QmpSession), line ≠ [] →
        state.task = .reading awaited [] → state.incoming = line ++ rest →
        GuardedRun (step args) (fun _ _ => True) state (List.replicate line.length .advance)
          { state with
            incoming := rest
            task := if line.getLast? = some 10 ∨ line.length = args.bufsz - 1
              then awaited.next line else .reading awaited line } := by
  rcases (qmpReadLine_readsLine positive small stream).line with ⟨line, cut, stores, _⟩
  refine ⟨line, stores, ?_⟩
  intro awaited rest state more reading incoming
  exact run_line cut awaited rest rfl more reading incoming

end Session

end PhantomTracker.Host
