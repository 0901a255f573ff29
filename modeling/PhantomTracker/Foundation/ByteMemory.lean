import Mathlib.Algebra.Group.Nat.Defs
import Mathlib.Order.Interval.Set.Defs
import Mathlib.Order.Nat

/-!
Contract: byte-addressed memory with little-endian words of any width.

Owns: storing and loading a word of `width` bytes; that a load returns the
stored word cut to its width; that a store touches only its own bytes; and that
a load depends only on the bytes it covers. Owns the 32-bit and 64-bit words as
the two widths that C code uses, and the accesses to words that a piece of code
makes in order.

Does not own: the size of a region or the layout of what is kept in it.
-/

namespace PhantomTracker.Foundation

/-- Memory as a function from byte addresses. -/
abbrev Memory := Nat → UInt8

namespace Memory

/-- Store the low `width` bytes of `value` at `addr`, least significant first. -/
def store (memory : Memory) (width addr value : Nat) : Memory := fun target =>
  if addr ≤ target ∧ target < addr + width then UInt8.ofNat (value / 256 ^ (target - addr))
  else memory target

/-- Load `width` bytes from `addr`, least significant first. -/
def load (memory : Memory) : Nat → Nat → Nat
  | 0, _ => 0
  | width + 1, addr => (memory addr).toNat + 256 * load memory width (addr + 1)

variable {memory : Memory}

theorem store_outside {width addr target : Nat} (outside : target < addr ∨ addr + width ≤ target)
    (value : Nat) : memory.store width addr value target = memory target := by
  apply if_neg
  omega

/-- A load reads nothing but the bytes it covers. -/
theorem load_congr {left right : Memory} {width addr : Nat}
    (agree : ∀ target, addr ≤ target → target < addr + width → left target = right target) :
    left.load width addr = right.load width addr := by
  induction width generalizing addr with
  | zero => rfl
  | succ width inductionHypothesis =>
      have head : left addr = right addr := agree addr (by omega) (by omega)
      have tail : left.load width (addr + 1) = right.load width (addr + 1) :=
        inductionHypothesis fun target above below => agree target (by omega) (by omega)
      rw [load, load, head, tail]

/-- A store leaves every load from disjoint bytes alone. -/
theorem load_store_disjoint {width addr other otherAddr : Nat}
    (disjoint : otherAddr + other ≤ addr ∨ addr + width ≤ otherAddr) (value : Nat) :
    (memory.store width addr value).load other otherAddr = memory.load other otherAddr := by
  apply load_congr
  intro target above below
  exact store_outside (by omega) value

/-- Above its first byte, a store is the store of the remaining bytes. -/
private theorem store_tail {width addr target : Nat} (above : addr + 1 ≤ target) (value : Nat) :
    memory.store (width + 1) addr value target =
      memory.store width (addr + 1) (value / 256) target := by
  unfold store
  by_cases inside : target < addr + 1 + width
  · have power : 256 ^ (target - addr) = 256 * 256 ^ (target - (addr + 1)) := by
      rw [← Nat.pow_succ', show (target - (addr + 1)).succ = target - addr by omega]
    rw [if_pos (by omega), if_pos (by omega), power, Nat.div_div_eq_div_mul]
  · rw [if_neg (by omega), if_neg (by omega)]

/-- **Round trip.** A load returns what was stored, cut to the width. -/
theorem load_store (memory : Memory) (width addr value : Nat) :
    (memory.store width addr value).load width addr = value % 256 ^ width := by
  induction width generalizing addr value with
  | zero => rw [load, Nat.pow_zero, Nat.mod_one]
  | succ width inductionHypothesis =>
      have head : (memory.store (width + 1) addr value addr).toNat = value % 256 := by
        have first : memory.store (width + 1) addr value addr = UInt8.ofNat value := by
          unfold store
          rw [if_pos (by omega), Nat.sub_self, Nat.pow_zero, Nat.div_one]
        rw [first, UInt8.toNat_ofNat']
      have tail : (memory.store (width + 1) addr value).load width (addr + 1) =
          (memory.store width (addr + 1) (value / 256)).load width (addr + 1) :=
        load_congr fun target above _ => store_tail above value
      rw [load, head, tail, inductionHypothesis, Nat.pow_succ', Nat.mod_mul]

theorem load_zero (width addr : Nat) : load (fun _ => 0) width addr = 0 := by
  induction width generalizing addr with
  | zero => rfl
  | succ width inductionHypothesis => rw [load, inductionHypothesis, UInt8.toNat_zero, Nat.mul_zero]

/-! ## Machine words -/

def store32 (memory : Memory) (addr : Nat) (value : UInt32) : Memory :=
  memory.store 4 addr value.toNat

def load32 (memory : Memory) (addr : Nat) : UInt32 :=
  UInt32.ofNat (memory.load 4 addr)

def store64 (memory : Memory) (addr : Nat) (value : UInt64) : Memory :=
  memory.store 8 addr value.toNat

def load64 (memory : Memory) (addr : Nat) : UInt64 :=
  UInt64.ofNat (memory.load 8 addr)

@[simp] theorem load32_store32 (memory : Memory) (addr : Nat) (value : UInt32) :
    (memory.store32 addr value).load32 addr = value := by
  have fits : value.toNat < 256 ^ 4 := value.toNat_lt
  unfold load32 store32
  rw [load_store, Nat.mod_eq_of_lt fits, UInt32.ofNat_toNat]

@[simp] theorem load64_store64 (memory : Memory) (addr : Nat) (value : UInt64) :
    (memory.store64 addr value).load64 addr = value := by
  have fits : value.toNat < 256 ^ 8 := value.toNat_lt
  unfold load64 store64
  rw [load_store, Nat.mod_eq_of_lt fits, UInt64.ofNat_toNat]

theorem load64_zero (addr : Nat) : load64 (fun _ => 0) addr = 0 :=
  congrArg UInt64.ofNat (load_zero 8 addr)

theorem load64_store64_disjoint {addr other : Nat} (disjoint : other + 8 ≤ addr ∨ addr + 8 ≤ other)
    (value : UInt64) : (memory.store64 addr value).load64 other = memory.load64 other :=
  congrArg UInt64.ofNat (load_store_disjoint disjoint value.toNat)

theorem load32_store32_disjoint {addr other : Nat} (disjoint : other + 4 ≤ addr ∨ addr + 4 ≤ other)
    (value : UInt32) : (memory.store32 addr value).load32 other = memory.load32 other :=
  congrArg UInt32.ofNat (load_store_disjoint disjoint value.toNat)

theorem load32_store64_disjoint {addr other : Nat} (disjoint : other + 4 ≤ addr ∨ addr + 8 ≤ other)
    (value : UInt64) : (memory.store64 addr value).load32 other = memory.load32 other :=
  congrArg UInt32.ofNat (load_store_disjoint disjoint value.toNat)

theorem store64_outside {addr target : Nat} (outside : target < addr ∨ addr + 8 ≤ target)
    (value : UInt64) : memory.store64 addr value target = memory target :=
  store_outside outside value.toNat

end Memory

/-! ## Traces of accesses -/

/-- One access to a 64-bit word. -/
inductive Access where
  | load (addr : Nat)
  | store (addr : Nat) (value : UInt64)
deriving DecidableEq, Repr

namespace Access

def addr : Access → Nat
  | load addr => addr
  | store addr _ => addr

/-- The bytes that an access touches. -/
def bytes (access : Access) : Set Nat := Set.Ico access.addr (access.addr + 8)

/-- The memory after an access. -/
def apply (memory : Memory) : Access → Memory
  | load _ => memory
  | store addr value => memory.store64 addr value

/-- The word that an access brings back. -/
def observe (memory : Memory) : Access → Option UInt64
  | load addr => some (memory.load64 addr)
  | store _ _ => none

/-- The memory after the accesses of a trace, in order. -/
def replay (memory : Memory) (trace : List Access) : Memory := trace.foldl apply memory

end Access

end PhantomTracker.Foundation
