import Mathlib.Algebra.Order.Ring.Nat
import Mathlib.Data.List.Perm.Basic
import Mathlib.Data.List.FinRange
import Mathlib.Data.List.Nodup
import Mathlib.Data.Nat.Bitwise
import Mathlib.Logic.Function.Basic
import Mathlib.Tactic.Common

/-!
# Descriptor words, ring indices and driver effects

The buffer descriptors of the EMACPS scatter-gather DMA are pairs of 32-bit words in uncached
memory.  This file fixes the bit masks the driver applies to them, the ring arithmetic
`if( ++index == N ) index = 0;` shared by the TX and the RX ring, and the effects a driver routine
has outside its own state: buffer releases, cache maintenance, barriers and log lines.
-/

namespace EmacPsDma

/-! ## Descriptor bits -/

/-- Modelled from the spec: `XEMACPS_TXBUF_USED_MASK`, bit 31 of a TX flags word. -/
def xemacpsTxbufUsedMask : Nat := 0x80000000

/-- Modelled from the spec: `XEMACPS_TXBUF_WRAP_MASK`, bit 30 of a TX flags word. -/
def xemacpsTxbufWrapMask : Nat := 0x40000000

/-- Modelled from the spec: `XEMACPS_TXBUF_LAST_MASK`, bit 15 of a TX flags word. -/
def xemacpsTxbufLastMask : Nat := 0x00008000

/-- Modelled from the spec: `XEMACPS_TXBUF_LEN_MASK`, bits 13:0 of a TX flags word. -/
def xemacpsTxbufLenMask : Nat := 0x00003FFF

/-- Modelled from the spec: `XEMACPS_RXBUF_NEW_MASK`, bit 0 of an RX address word. -/
def xemacpsRxbufNewMask : Nat := 0x00000001

/-- Modelled from the spec: `XEMACPS_RXBUF_WRAP_MASK`, bit 1 of an RX address word. -/
def xemacpsRxbufWrapMask : Nat := 0x00000002

/-- Modelled from the spec: `XEMACPS_RXBUF_ADD_MASK`, bits 31:2 of an RX address word. -/
def xemacpsRxbufAddMask : Nat := 0xFFFFFFFC

/-- Modelled from the spec: `XEMACPS_RXBUF_LEN_MASK`, bits 12:0 of an RX flags word. -/
def xemacpsRxbufLenMask : Nat := 0x00001FFF

/-- Modelled from the spec: `XEMACPS_RXBUF_LEN_JUMBO_MASK`, bits 13:0 of an RX flags word. -/
def xemacpsRxbufLenJumboMask : Nat := 0x00003FFF

/-- A buffer descriptor, `struct xBD_TYPE`: the address word and the flags word. -/
structure Bd where
  /-- The buffer address, with `NEW` and `WRAP` in its low bits on the RX ring. -/
  address : Nat
  /-- Length and status bits, with `USED` and `WRAP` on the TX ring. -/
  flags : Nat
  deriving DecidableEq, Repr

/-- The C test `( word & mask ) != 0`. -/
def isSet (word mask : Nat) : Bool := word &&& mask != 0

theorem isSet_two_pow (word k : Nat) : isSet word (2 ^ k) = word.testBit k := by
  rw [isSet, Nat.and_two_pow]
  cases word.testBit k <;> simp

@[simp] theorem testBit_txbufUsedMask (i : Nat) :
    xemacpsTxbufUsedMask.testBit i = decide (i = 31) := by
  rw [show xemacpsTxbufUsedMask = 2 ^ 31 from rfl, Nat.testBit_two_pow]
  exact decide_eq_decide.mpr eq_comm

@[simp] theorem testBit_txbufWrapMask (i : Nat) :
    xemacpsTxbufWrapMask.testBit i = decide (i = 30) := by
  rw [show xemacpsTxbufWrapMask = 2 ^ 30 from rfl, Nat.testBit_two_pow]
  exact decide_eq_decide.mpr eq_comm

@[simp] theorem testBit_txbufLastMask (i : Nat) :
    xemacpsTxbufLastMask.testBit i = decide (i = 15) := by
  rw [show xemacpsTxbufLastMask = 2 ^ 15 from rfl, Nat.testBit_two_pow]
  exact decide_eq_decide.mpr eq_comm

@[simp] theorem testBit_txbufLenMask (i : Nat) :
    xemacpsTxbufLenMask.testBit i = decide (i < 14) := by
  rw [show xemacpsTxbufLenMask = 2 ^ 14 - 1 from rfl, Nat.testBit_two_pow_sub_one]

@[simp] theorem testBit_rxbufNewMask (i : Nat) :
    xemacpsRxbufNewMask.testBit i = decide (i = 0) := by
  rw [show xemacpsRxbufNewMask = 2 ^ 0 from rfl, Nat.testBit_two_pow]
  exact decide_eq_decide.mpr eq_comm

@[simp] theorem testBit_rxbufWrapMask (i : Nat) :
    xemacpsRxbufWrapMask.testBit i = decide (i = 1) := by
  rw [show xemacpsRxbufWrapMask = 2 ^ 1 from rfl, Nat.testBit_two_pow]
  exact decide_eq_decide.mpr eq_comm

@[simp] theorem testBit_rxbufAddMask (i : Nat) :
    xemacpsRxbufAddMask.testBit i = decide (2 ≤ i ∧ i < 32) := by
  rcases Nat.lt_or_ge i 32 with small | large
  · have low_bits : ∀ j < 32, xemacpsRxbufAddMask.testBit j = decide (2 ≤ j ∧ j < 32) := by
      decide
    exact low_bits i small
  · have beyond : xemacpsRxbufAddMask < 2 ^ i :=
      lt_of_lt_of_le (by decide) (Nat.pow_le_pow_right (by decide) large)
    rw [Nat.testBit_lt_two_pow beyond]
    simp only [false_eq_decide_iff, not_and, not_lt]
    exact fun _ => large

/-- The `USED` bit of a TX flags word: clear while the DMA owns the slot. -/
def txUsed (flags : Nat) : Bool := isSet flags xemacpsTxbufUsedMask

/-- The `WRAP` bit of a TX flags word: set on the last slot of the ring. -/
def txWrap (flags : Nat) : Bool := isSet flags xemacpsTxbufWrapMask

/-- The `NEW` bit of an RX address word: set once the DMA has stored a frame. -/
def rxNew (address : Nat) : Bool := isSet address xemacpsRxbufNewMask

/-- The `WRAP` bit of an RX address word: set on the last slot of the ring. -/
def rxWrap (address : Nat) : Bool := isSet address xemacpsRxbufWrapMask

theorem txUsed_eq (flags : Nat) : txUsed flags = flags.testBit 31 :=
  isSet_two_pow flags 31

theorem txWrap_eq (flags : Nat) : txWrap flags = flags.testBit 30 :=
  isSet_two_pow flags 30

theorem rxNew_eq (address : Nat) : rxNew address = address.testBit 0 :=
  isSet_two_pow address 0

theorem rxWrap_eq (address : Nat) : rxWrap address = address.testBit 1 :=
  isSet_two_pow address 1

/-! ## Ring indices -/

section Ring

variable {n : Nat}

/-- Slot 0 of a ring with at least one slot. -/
def firstSlot (n : Nat) [NeZero n] : Fin n :=
  ⟨0, Nat.pos_of_ne_zero (NeZero.ne n)⟩

/-- The step to the next slot, `if( ++index == N ) index = 0;`. -/
def advance (index : Fin n) : Fin n :=
  if last : index.val + 1 = n then ⟨0, by have := index.isLt; omega⟩
  else ⟨index.val + 1, by have := index.isLt; omega⟩

/-- The slot `offset` places after `base` in ring order. -/
def slotAt (base : Fin n) (offset : Nat) : Fin n :=
  ⟨(base.val + offset) % n, Nat.mod_lt _ (Nat.zero_lt_of_lt base.isLt)⟩

/-- How many places `index` lies after `base` in ring order. -/
def offsetFrom (base index : Fin n) : Nat :=
  (index.val + n - base.val) % n

/-- `index` is one of the `count` slots that start at `base`. -/
def InWindow (base : Fin n) (count : Nat) (index : Fin n) : Prop :=
  offsetFrom base index < count

instance (base : Fin n) (count : Nat) (index : Fin n) : Decidable (InWindow base count index) :=
  inferInstanceAs (Decidable (_ < _))

/-- The entries of `ring` at the `count` slots from `base`, in ring order. -/
def readRing {α : Type} (ring : Fin n → α) (base : Fin n) (count : Nat) : List α :=
  (List.range count).map fun offset => ring (slotAt base offset)

@[simp] theorem slotAt_val (base : Fin n) (offset : Nat) :
    (slotAt base offset).val = (base.val + offset) % n := rfl

@[simp] theorem slotAt_zero (base : Fin n) : slotAt base 0 = base :=
  Fin.ext (Nat.mod_eq_of_lt base.isLt)

@[simp] theorem slotAt_full (base : Fin n) : slotAt base n = base :=
  Fin.ext (by simp [Nat.mod_eq_of_lt base.isLt])

theorem slotAt_slotAt (base : Fin n) (first second : Nat) :
    slotAt (slotAt base first) second = slotAt base (first + second) :=
  Fin.ext (by simp [Nat.mod_add_mod, Nat.add_assoc])

theorem advance_eq_slotAt (index : Fin n) : advance index = slotAt index 1 := by
  apply Fin.ext
  have := index.isLt
  unfold advance
  split
  · next last => simp [last]
  · next notLast => simp [Nat.mod_eq_of_lt (show index.val + 1 < n by omega)]

theorem advance_slotAt (base : Fin n) (offset : Nat) :
    advance (slotAt base offset) = slotAt base (offset + 1) := by
  rw [advance_eq_slotAt, slotAt_slotAt]

theorem offsetFrom_lt (base index : Fin n) : offsetFrom base index < n :=
  Nat.mod_lt _ (Nat.zero_lt_of_lt base.isLt)

theorem slotAt_offsetFrom (base index : Fin n) : slotAt base (offsetFrom base index) = index := by
  apply Fin.ext
  have := base.isLt
  simp only [slotAt_val, offsetFrom, Nat.add_mod_mod]
  rw [show base.val + (index.val + n - base.val) = index.val + n by omega, Nat.add_mod_right,
    Nat.mod_eq_of_lt index.isLt]

theorem offsetFrom_slotAt (base : Fin n) {offset : Nat} (small : offset < n) :
    offsetFrom base (slotAt base offset) = offset := by
  have := base.isLt
  simp only [offsetFrom, slotAt_val]
  rcases Nat.lt_or_ge (base.val + offset) n with inside | wrapped
  · rw [Nat.mod_eq_of_lt inside, show base.val + offset + n - base.val = offset + n by omega,
      Nat.add_mod_right, Nat.mod_eq_of_lt small]
  · have reduced : (base.val + offset) % n = base.val + offset - n := by
      rw [Nat.mod_eq_sub_mod wrapped, Nat.mod_eq_of_lt (by omega)]
    rw [reduced, show base.val + offset - n + n - base.val = offset by omega,
      Nat.mod_eq_of_lt small]

theorem slotAt_inj (base : Fin n) {first second : Nat} (first_small : first < n)
    (second_small : second < n) : slotAt base first = slotAt base second ↔ first = second :=
  ⟨fun same => by
    rw [← offsetFrom_slotAt base first_small, same, offsetFrom_slotAt base second_small],
   fun same => same ▸ rfl⟩

theorem offsetFrom_eq_iff (base index : Fin n) {offset : Nat} (small : offset < n) :
    offsetFrom base index = offset ↔ index = slotAt base offset := by
  constructor
  · rintro rfl
    exact (slotAt_offsetFrom base index).symm
  · rintro rfl
    exact offsetFrom_slotAt base small

theorem slotAt_eq_base_iff (base : Fin n) {offset : Nat} (small : offset < n) :
    slotAt base offset = base ↔ offset = 0 := by
  rw [eq_comm, ← offsetFrom_eq_iff base base small]
  constructor
  · intro zero
    rw [← zero]
    simp [offsetFrom, Nat.mod_eq_of_lt base.isLt]
  · rintro rfl
    simp [offsetFrom]

@[simp] theorem offsetFrom_self (base : Fin n) : offsetFrom base base = 0 := by
  rw [offsetFrom_eq_iff base base (Nat.zero_lt_of_lt base.isLt), slotAt_zero]

theorem offsetFrom_advance_self (base : Fin n) : offsetFrom (advance base) base = n - 1 := by
  have := base.isLt
  rw [offsetFrom_eq_iff _ _ (by omega), advance_eq_slotAt, slotAt_slotAt]
  exact Fin.ext (by simp [show base.val + (1 + (n - 1)) = base.val + n by omega,
    Nat.mod_eq_of_lt base.isLt])

theorem offsetFrom_advance {base index : Fin n} (other : index ≠ base) :
    offsetFrom (advance base) index = offsetFrom base index - 1 := by
  have positive : 0 < offsetFrom base index := by
    refine Nat.pos_of_ne_zero fun zero => other ?_
    rw [← slotAt_offsetFrom base index, zero, slotAt_zero]
  have := offsetFrom_lt base index
  rw [offsetFrom_eq_iff _ _ (by omega), advance_eq_slotAt, slotAt_slotAt,
    show 1 + (offsetFrom base index - 1) = offsetFrom base index by omega, slotAt_offsetFrom]

theorem not_inWindow_zero (base index : Fin n) : ¬InWindow base 0 index :=
  Nat.not_lt_zero _

/-- Retiring the first slot of a window moves its start one place on. -/
theorem inWindow_advance {base index : Fin n} {count : Nat} (full : count ≤ n) :
    InWindow (advance base) (count - 1) index ↔ InWindow base count index ∧ index ≠ base := by
  unfold InWindow
  by_cases at_base : index = base
  · subst at_base
    rw [offsetFrom_advance_self]
    simp only [offsetFrom_self, ne_eq, not_true_eq_false, and_false, iff_false, not_lt]
    omega
  · rw [offsetFrom_advance at_base]
    have positive : 0 < offsetFrom base index := by
      refine Nat.pos_of_ne_zero fun zero => at_base ?_
      rw [← slotAt_offsetFrom base index, zero, slotAt_zero]
    simp only [ne_eq, at_base, not_false_eq_true, and_true]
    omega

/-- Growing a window by one slot adds the slot just after its end. -/
theorem inWindow_succ {base index : Fin n} {count : Nat} (room : count < n) :
    InWindow base (count + 1) index ↔ InWindow base count index ∨ index = slotAt base count := by
  unfold InWindow
  rw [← offsetFrom_eq_iff base index room]
  omega

@[simp] theorem length_readRing {α : Type} (ring : Fin n → α) (base : Fin n) (count : Nat) :
    (readRing ring base count).length = count := by
  simp [readRing]

@[simp] theorem readRing_zero {α : Type} (ring : Fin n → α) (base : Fin n) :
    readRing ring base 0 = [] := rfl

theorem readRing_succ {α : Type} (ring : Fin n → α) (base : Fin n) (count : Nat) :
    readRing ring base (count + 1) = readRing ring base count ++ [ring (slotAt base count)] := by
  simp [readRing, List.range_succ]

theorem readRing_succ_left {α : Type} (ring : Fin n → α) (base : Fin n) (count : Nat) :
    readRing ring base (count + 1) = ring base :: readRing ring (advance base) count := by
  simp [readRing, List.range_succ_eq_map, advance_eq_slotAt, slotAt_slotAt, Nat.add_comm]

theorem readRing_add {α : Type} (ring : Fin n → α) (base : Fin n) (first second : Nat) :
    readRing ring base (first + second) =
      readRing ring base first ++ readRing ring (slotAt base first) second := by
  induction second with
  | zero => simp [readRing]
  | succ second ih =>
    rw [← Nat.add_assoc, readRing_succ, ih, readRing_succ, slotAt_slotAt, List.append_assoc]

theorem map_readRing {α β : Type} (ring : Fin n → α) (base : Fin n) (count : Nat) (f : α → β) :
    (readRing ring base count).map f = readRing (f ∘ ring) base count := by
  simp [readRing]

/-- A window that starts where another ends, and fits beside it, shares no slot with it. -/
theorem not_inWindow_of_inWindow_slotAt {base index : Fin n} {first second : Nat}
    (later : InWindow (slotAt base first) second index) (fits : first + second ≤ n) :
    ¬InWindow base first index := by
  have small := later
  unfold InWindow at small ⊢
  rw [← slotAt_offsetFrom (slotAt base first) index, slotAt_slotAt,
    offsetFrom_slotAt base (by omega)]
  omega

/-- Entries outside a window do not show in its reading. -/
theorem readRing_congr {α : Type} {ring other : Fin n → α} {base : Fin n} {count : Nat}
    (agree : ∀ index, InWindow base count index → ring index = other index) (room : count ≤ n) :
    readRing ring base count = readRing other base count := by
  refine List.map_congr_left fun offset member => agree _ ?_
  have small : offset < count := List.mem_range.mp member
  rw [InWindow, offsetFrom_slotAt base (by omega)]
  exact small

/-- The slot the DMA moves to from `index`: slot 0 after a descriptor with `WRAP`, else the next
one; `none` when the ring ends without a `WRAP` bit. -/
def nextByWrap (index : Fin n) (wrap : Bool) : Option (Fin n) :=
  if wrap then some ⟨0, Nat.zero_lt_of_lt index.isLt⟩
  else if inside : index.val + 1 < n then some ⟨index.val + 1, inside⟩ else none

/-- With `WRAP` exactly on the last slot, the DMA walks the ring as `advance` does. -/
theorem nextByWrap_last (index : Fin n) :
    nextByWrap index (index.val = n - 1) = some (advance index) := by
  have := index.isLt
  unfold nextByWrap advance
  by_cases last : index.val = n - 1
  · rw [if_pos (by simp [last]), dif_pos (by omega)]
  · rw [if_neg (by simp [last]), dif_pos (by omega), dif_neg (by omega)]

end Ring

/-! ## Configuration and effects -/

/-- Build options and platform hooks that the driver reads. -/
structure Config where
  /-- `ipBUFFER_PADDING` of the buffer manager. -/
  bufferPadding : Nat
  /-- `USE_JUMBO_FRAMES`, defined when `ipconfigNETWORK_MTU > 1526`. -/
  useJumboFrames : Bool
  /-- `sizeof( struct xARP_PACKET )`, the shortest frame the driver sends. -/
  arpPacketSize : Nat
  /-- `ucIsCachedMemory`: whether an address lies in cached memory. -/
  ucIsCachedMemory : Nat → Bool

/-- `dmaRX_TX_BUFFER_SIZE`, the payload size of every DMA buffer. -/
def Config.dmaRxTxBufferSize (config : Config) : Nat :=
  if config.useJumboFrames then 10240 - config.bufferPadding else 1536 - config.bufferPadding

/-- What a driver routine does outside the state of the driver, in program order. -/
inductive Effect
  /-- `vReleaseNetworkBufferAndDescriptor`: a network buffer returns to the pool. -/
  | release (buffer : Nat)
  /-- `Xil_DCacheFlushRange( start, length )`. -/
  | flushRange (start length : Nat)
  /-- `Xil_DCacheInvalidateRange( start, length )`. -/
  | invalidateRange (start length : Nat)
  /-- The driver reads `length` payload bytes from `start`. -/
  | readPayload (start length : Nat)
  /-- `dsb()`, the data synchronisation barrier. -/
  | dsb
  /-- `NWCTRL |= XEMACPS_NWCTRL_STARTTX_MASK`, followed by its read-back. -/
  | startTx
  /-- `xSendEventStructToIPTask` of an `eNetworkRxEvent` for the chain that starts at `first`,
  with the outcome of the bounded wait. -/
  | sendRxEvent (first : Nat) (delivered : Bool)
  /-- `FreeRTOS_printf`. -/
  | log (text : String)
  deriving DecidableEq, Repr

/-- The buffers an effect list releases, in order. -/
def releasedBuffers (effects : List Effect) : List Nat :=
  effects.filterMap fun
    | .release buffer => some buffer
    | _ => none

@[simp] theorem releasedBuffers_append (first second : List Effect) :
    releasedBuffers (first ++ second) = releasedBuffers first ++ releasedBuffers second :=
  List.filterMap_append _ _ _

@[simp] theorem releasedBuffers_cons (effect : Effect) (rest : List Effect) :
    releasedBuffers (effect :: rest) =
      (match effect with
        | .release buffer => [buffer]
        | _ => []) ++ releasedBuffers rest := by
  cases effect <;> rfl

@[simp] theorem releasedBuffers_map_release (buffers : List Nat) :
    releasedBuffers (buffers.map Effect.release) = buffers := by
  induction buffers with
  | nil => rfl
  | cons buffer rest ih => exact congrArg (buffer :: ·) ih

end EmacPsDma
