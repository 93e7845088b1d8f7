import EmacPsDma.Rx.Driver

/-!
# The receive ring invariant

A pool buffer's payload is 4-byte aligned plus 2, so an RX address word is the payload minus 2 with
`WRAP` (bit 1) on the last slot and `NEW` (bit 0) once a frame is stored (`rxAddressWord`).  Every
buffer has one owner among the pool, `pxDMA_rx_buffers`, the IP task and the chain of a running
`emacps_check_rx` (`ownedBuffers`, `BufferOwnership`); `RxDmaAt` says the `stored` slots from
`rxHead` hold frames and every other slot is free.
-/

namespace EmacPsDma

variable {n : Nat}

/-! ## Address words -/

/-- A payload the MAC can address: below 4 GiB, and 4-byte aligned plus the 2-byte filler. -/
def ValidPayload (payload : Nat) : Prop := payload % 4 = 2 ∧ payload < 2 ^ 32

instance : DecidablePred ValidPayload := fun _ => inferInstanceAs (Decidable (_ ∧ _))

/-- The address word of an RX descriptor that holds the buffer at `payload`: the buffer bits,
`WRAP` on the last slot, and `NEW` once the MAC has stored a frame. -/
def rxAddressWord (payload : Nat) (lastSlot newFrame : Bool) : Nat :=
  payload - 2 + (if lastSlot then 2 else 0) + (if newFrame then 1 else 0)

theorem land_rxbufAddMask {word : Nat} (small : word < 2 ^ 32) :
    word &&& xemacpsRxbufAddMask = word - word % 4 := by
  have quarter : word - word % 4 = 2 ^ 2 * (word >>> 2) := by
    rw [Nat.shiftRight_eq_div_pow]
    omega
  rw [quarter]
  apply Nat.eq_of_testBit_eq
  intro i
  rw [Nat.testBit_and, testBit_rxbufAddMask, Nat.testBit_mul_pow_two, Nat.testBit_shiftRight]
  by_cases low : 2 ≤ i
  · rw [Nat.add_sub_cancel' low]
    by_cases high : i < 32
    · simp [low, high]
    · have beyond : word < 2 ^ i :=
        lt_of_lt_of_le small (Nat.pow_le_pow_right (by decide) (by omega))
      simp [Nat.testBit_lt_two_pow beyond, low]
  · simp [low]

theorem rxNew_eq_mod (word : Nat) : rxNew word = decide (word % 2 = 1) := by
  rw [rxNew_eq, Nat.testBit_to_div_mod]
  simp

theorem rxWrap_eq_mod (word : Nat) : rxWrap word = decide (word / 2 % 2 = 1) := by
  rw [rxWrap_eq, Nat.testBit_to_div_mod]

section Word

variable {payload : Nat} (valid : ValidPayload payload)
include valid

theorem rxNew_rxAddressWord (lastSlot newFrame : Bool) :
    rxNew (rxAddressWord payload lastSlot newFrame) = newFrame := by
  rw [rxNew_eq_mod, rxAddressWord]
  have aligned := valid.1
  cases lastSlot <;> cases newFrame <;>
    simp only [if_true, if_false, Bool.false_eq_true, decide_eq_true_eq,
      decide_eq_false_iff_not] <;>
    omega

theorem rxWrap_rxAddressWord (lastSlot newFrame : Bool) :
    rxWrap (rxAddressWord payload lastSlot newFrame) = lastSlot := by
  rw [rxWrap_eq_mod, rxAddressWord]
  have aligned := valid.1
  cases lastSlot <;> cases newFrame <;>
    simp only [if_true, if_false, Bool.false_eq_true, decide_eq_true_eq,
      decide_eq_false_iff_not] <;>
    omega

/-- The MAC finds the payload at the buffer bits of the word plus the 2-byte RX offset. -/
theorem rxAddressWord_land_add_two (lastSlot newFrame : Bool) :
    (rxAddressWord payload lastSlot newFrame &&& xemacpsRxbufAddMask) + 2 = payload := by
  obtain ⟨aligned, small⟩ := valid
  have bounded : rxAddressWord payload lastSlot newFrame < 2 ^ 32 := by
    unfold rxAddressWord
    split <;> split <;> omega
  rw [land_rxbufAddMask bounded, rxAddressWord]
  cases lastSlot <;> cases newFrame <;> simp only [if_true, if_false, Bool.false_eq_true] <;> omega

/-- The buffer bits of the word are those of the payload. -/
theorem rxAddressWord_land (lastSlot newFrame : Bool) :
    rxAddressWord payload lastSlot newFrame &&& xemacpsRxbufAddMask =
      payload &&& xemacpsRxbufAddMask := by
  have := rxAddressWord_land_add_two valid lastSlot newFrame
  rw [land_rxbufAddMask valid.2, valid.1]
  omega

/-- Setting `NEW`, as the MAC does after storing a frame. -/
theorem rxAddressWord_or_new (lastSlot : Bool) :
    rxAddressWord payload lastSlot false ||| xemacpsRxbufNewMask =
      rxAddressWord payload lastSlot true := by
  have aligned := valid.1
  have even : rxAddressWord payload lastSlot false =
      2 ^ 1 * (rxAddressWord payload lastSlot false / 2) := by
    unfold rxAddressWord
    cases lastSlot <;> simp only [if_true, if_false, Bool.false_eq_true] <;> omega
  rw [show xemacpsRxbufNewMask = 1 from rfl, even, ← Nat.mul_add_lt_is_or (by decide)]
  unfold rxAddressWord
  cases lastSlot <;> simp only [if_true, if_false, Bool.false_eq_true] <;> omega

/-- The word `emacps_check_rx` and `init_dma` write for a buffer: its buffer bits, with `WRAP` on
the last slot. -/
theorem rxAddressWord_repost (last : Prop) [Decidable last] :
    (if last then payload &&& xemacpsRxbufAddMask ||| xemacpsRxbufWrapMask
      else payload &&& xemacpsRxbufAddMask) = rxAddressWord payload (decide last) false := by
  have := valid.1
  rw [land_rxbufAddMask valid.2]
  by_cases at_last : last
  · have quarter : payload - payload % 4 = 2 ^ 2 * (payload / 4) := by omega
    rw [if_pos at_last, quarter, show xemacpsRxbufWrapMask = 2 from rfl,
      ← Nat.mul_add_lt_is_or (by decide)]
    simp [rxAddressWord, at_last]
    omega
  · simp [rxAddressWord, at_last]
    omega

end Word

/-! ## Reading the whole ring -/

section WholeRing

theorem mem_readRing {α : Type} (ring : Fin n → α) (base index : Fin n) :
    ring index ∈ readRing ring base n :=
  List.mem_map.mpr ⟨offsetFrom base index, List.mem_range.mpr (offsetFrom_lt base index),
    by rw [slotAt_offsetFrom]⟩

/-- A ring read in full without a repeat holds no entry twice. -/
theorem eq_of_nodup_readRing {α : Type} {ring : Fin n → α} {base : Fin n}
    (nodup : (readRing ring base n).Nodup) {first second : Fin n}
    (same : ring first = ring second) : first = second := by
  have offsets := List.inj_on_of_nodup_map nodup
    (List.mem_range.mpr (offsetFrom_lt base first)) (List.mem_range.mpr (offsetFrom_lt base second))
  simp only [slotAt_offsetFrom] at offsets
  rw [← slotAt_offsetFrom base first, offsets same, slotAt_offsetFrom]

/-- Read from slot 0, the ring is the table in index order. -/
theorem readRing_firstSlot {α : Type} [NeZero n] (ring : Fin n → α) :
    readRing ring (firstSlot n) n = (List.finRange n).map ring :=
  List.ext_getElem (by simp) fun offset inside _ => by
    simp only [readRing, List.getElem_map, List.getElem_range, List.getElem_finRange]
    congr 1
    exact Fin.ext (by simp [firstSlot, Nat.mod_eq_of_lt (by simpa using inside)])

/-- Moving the start of a full reading one slot on rotates it. -/
theorem readRing_advance {α : Type} (ring : Fin n → α) (base : Fin n) :
    readRing ring (advance base) n = readRing ring (advance base) (n - 1) ++ [ring base] := by
  obtain ⟨m, rfl⟩ : ∃ m, n = m + 1 := ⟨n - 1, by have := base.isLt; omega⟩
  rw [readRing_succ, Nat.add_sub_cancel, advance_eq_slotAt, slotAt_slotAt, Nat.add_comm 1 m,
    slotAt_full]

theorem readRing_base {α : Type} (ring : Fin n → α) (base : Fin n) :
    readRing ring base n = ring base :: readRing ring (advance base) (n - 1) := by
  obtain ⟨m, rfl⟩ : ∃ m, n = m + 1 := ⟨n - 1, by have := base.isLt; omega⟩
  rw [readRing_succ_left, Nat.add_sub_cancel]

end WholeRing

/-! ## Ownership -/

/-- The payload of the buffer in slot `i`. -/
def RxState.slotPayload (s : RxState n) (i : Fin n) : Nat :=
  (s.descriptors (s.rxBuffers i)).pucEthernetBuffer

/-- Every buffer the receive side has handed out or holds, each once: the pool, the table in ring
order from `rxHead`, the IP task, and the chain `linked` of a running `emacps_check_rx`. -/
def ownedBuffers (s : RxState n) (linked : List Nat) : List Nat :=
  s.pool ++ readRing s.rxBuffers s.rxHead n ++ s.stack ++ linked

/-- Buffers under `payload` that no two owners share, none `NULL`, each with its own valid
payload. -/
structure BufferOwnership (payload : Nat → Nat) (owned : List Nat) : Prop where
  /-- No buffer has two owners. -/
  nodup : owned.Nodup
  /-- No owner holds `NULL`. -/
  nonzero : ∀ d ∈ owned, d ≠ 0
  /-- Every payload is one the MAC can address. -/
  valid : ∀ d ∈ owned, ValidPayload (payload d)
  /-- Two buffers never share a payload. -/
  separate : ∀ d ∈ owned, ∀ d' ∈ owned, payload d = payload d' → d = d'

/-- Handing buffers from one owner to another, and writing fields other than the payload, keep
the ownership. -/
theorem BufferOwnership.of_perm {payload payload' : Nat → Nat} {owned owned' : List Nat}
    (ownership : BufferOwnership payload owned) (perm : owned'.Perm owned)
    (same : ∀ d ∈ owned, payload' d = payload d) : BufferOwnership payload' owned' where
  nodup := perm.nodup_iff.mpr ownership.nodup
  nonzero d member := ownership.nonzero d (perm.subset member)
  valid d member := by
    rw [same d (perm.subset member)]
    exact ownership.valid d (perm.subset member)
  separate d member d' member' equal := by
    rw [same d (perm.subset member), same d' (perm.subset member')] at equal
    exact ownership.separate d (perm.subset member) d' (perm.subset member') equal

/-! ## The invariant -/

/-- The receive DMA stands `stored` slots after `rxHead`: those slots hold frames, with `NEW` set
and the length of the frame in `flags`, every other slot is free with `flags` clear, and every
address word holds the buffer of its slot, with `WRAP` exactly on the last one. -/
structure RxDmaAt (config : Config) (s : RxState n) (stored : Nat) : Prop where
  /-- The MAC never stores more frames than there are slots. -/
  stored_le : stored ≤ n
  /-- The slot the DMA writes next. -/
  dma_index : s.rxDmaIndex = slotAt s.rxHead stored
  /-- Every address word. -/
  address : ∀ i, (s.rxSegments i).address =
    rxAddressWord (s.slotPayload i) (decide (i.val = n - 1)) (decide (InWindow s.rxHead stored i))
  /-- Every flags word. -/
  flags : ∀ i, (s.rxSegments i).flags =
    if InWindow s.rxHead stored i then (s.memory (s.slotPayload i)).length else 0
  /-- Stored frames fit their buffer. -/
  fits : ∀ i, InWindow s.rxHead stored i →
    (s.memory (s.slotPayload i)).length ≤ config.dmaRxTxBufferSize

/-- The receive side between two steps, with `linked` the chain of a running `emacps_check_rx`. -/
structure RxInvariant (config : Config) (s : RxState n) (linked : List Nat) : Prop where
  /-- Each buffer has exactly one owner. -/
  owned : BufferOwnership (fun d => (s.descriptors d).pucEthernetBuffer) (ownedBuffers s linked)
  /-- Where the DMA stands. -/
  dma : ∃ stored, RxDmaAt config s stored

theorem RxInvariant.buffer_nonzero {config : Config} {s : RxState n} {linked : List Nat}
    (invariant : RxInvariant config s linked) (i : Fin n) : s.rxBuffers i ≠ 0 :=
  invariant.owned.nonzero _ (by simp [ownedBuffers, mem_readRing])

theorem RxInvariant.buffer_valid {config : Config} {s : RxState n} {linked : List Nat}
    (invariant : RxInvariant config s linked) (i : Fin n) : ValidPayload (s.slotPayload i) :=
  invariant.owned.valid _ (by simp [ownedBuffers, mem_readRing])

/-- Two slots never hold the same buffer. -/
theorem RxInvariant.buffer_injective {config : Config} {s : RxState n} {linked : List Nat}
    (invariant : RxInvariant config s linked) : Function.Injective s.rxBuffers := fun _ _ same => by
  have nodup : (readRing s.rxBuffers s.rxHead n).Nodup := invariant.owned.nodup.sublist
    (((List.sublist_append_right _ _).trans (List.sublist_append_left _ _)).trans
      (List.sublist_append_left _ _))
  exact eq_of_nodup_readRing nodup same

/-- Two slots never hold the same payload. -/
theorem RxInvariant.payload_injective {config : Config} {s : RxState n} {linked : List Nat}
    (invariant : RxInvariant config s linked) {i j : Fin n}
    (same : s.slotPayload i = s.slotPayload j) : i = j :=
  invariant.buffer_injective (invariant.owned.separate _ (by simp [ownedBuffers, mem_readRing]) _
    (by simp [ownedBuffers, mem_readRing]) same)

/-- `emacps_check_rx` stops where `NEW` is clear: the slots with `NEW` set from `rxHead` are
`count` in a row. -/
def MaximalNewRun (s : RxState n) (count : Nat) : Prop :=
  count ≤ n ∧ (∀ offset < count, rxNew (s.rxSegments (slotAt s.rxHead offset)).address = true) ∧
    (count < n → rxNew (s.rxSegments (slotAt s.rxHead count)).address = false)

/-- The slots with `NEW` set are those from `rxHead` to where the DMA stands. -/
theorem RxDmaAt.rxNew_address {config : Config} {s : RxState n} {stored : Nat}
    (dma : RxDmaAt config s stored) (valid : ∀ i, ValidPayload (s.slotPayload i)) (i : Fin n) :
    rxNew (s.rxSegments i).address = decide (InWindow s.rxHead stored i) := by
  rw [dma.address i, rxNew_rxAddressWord (valid i)]

theorem RxDmaAt.maximalNewRun {config : Config} {s : RxState n} {stored : Nat}
    (dma : RxDmaAt config s stored) (valid : ∀ i, ValidPayload (s.slotPayload i)) :
    MaximalNewRun s stored := by
  refine ⟨dma.stored_le, fun offset inside => ?_, fun room => ?_⟩
  · rw [dma.rxNew_address valid, decide_eq_true_eq, InWindow,
      offsetFrom_slotAt _ (by have := dma.stored_le; omega)]
    exact inside
  · rw [dma.rxNew_address valid, decide_eq_false_iff_not, InWindow, offsetFrom_slotAt _ room]
    exact Nat.lt_irrefl stored

/-- The pool and the buffers the IP task holds are no part of where the DMA stands. -/
theorem RxDmaAt.with_owners {config : Config} {s : RxState n} {stored : Nat}
    (dma : RxDmaAt config s stored) (pool stack : List Nat) :
    RxDmaAt config { s with pool := pool, stack := stack } stored :=
  ⟨dma.stored_le, dma.dma_index, dma.address, dma.flags, dma.fits⟩

/-! ## `init_dma` -/

/-- The RX loop of `init_dma` over distinct empty slots hands them the first buffers of the pool in
order, each with its buffer bits in the address word and `flags` clear, and touches nothing else. -/
theorem rxInitLoop_spec (config : Config) :
    ∀ (indices : List (Fin n)) (s s' : RxState n) (effects : List Effect),
      rxInitLoop config indices s = some (s', effects) → indices.Nodup →
      (∀ i ∈ indices, s.rxBuffers i = 0) →
      indices.map s'.rxBuffers ++ s'.pool = s.pool ∧
      (∀ i ∈ indices, s'.rxSegments i =
        ⟨(s'.descriptors (s'.rxBuffers i)).pucEthernetBuffer &&& xemacpsRxbufAddMask, 0⟩) ∧
      (∀ i ∉ indices, s'.rxBuffers i = s.rxBuffers i ∧ s'.rxSegments i = s.rxSegments i) ∧
      s'.descriptors = s.descriptors ∧ s'.memory = s.memory ∧ s'.stack = s.stack ∧
      s'.rxHead = s.rxHead
  | [], s, s', effects, run, _, _ => by
    cases run
    simp
  | iIndex :: rest, s, s', effects, run, nodup, empty => by
    obtain ⟨fresh, rest_nodup⟩ := List.nodup_cons.mp nodup
    simp only [rxInitLoop, rxInitSlot, empty iIndex (List.mem_cons_self _ _), if_true,
      pxGetNetworkBufferWithDescriptor] at run
    split at run
    · next pxBuffer pool taken =>
      simp only [if_true, Option.map_some', Option.some_bind, Option.map_eq_some',
        Prod.mk.injEq] at run
      obtain ⟨final, tail_run, rfl, rfl⟩ := run
      obtain ⟨pool_eq, segments, others, descriptors, memory, stack, head⟩ :=
        rxInitLoop_spec config rest _ _ _ tail_run rest_nodup fun i member => by
          simp [Function.update_noteq (show i ≠ iIndex by rintro rfl; exact fresh member),
            empty i (List.mem_cons_of_mem _ member)]
      have slot := others iIndex fresh
      simp only [Function.update_same] at slot
      refine ⟨?_, ?_, ?_, descriptors, memory, stack, head⟩
      · simp [slot.1, pool_eq, taken]
      · simp only [List.mem_cons, forall_eq_or_imp]
        exact ⟨by rw [slot.2, slot.1, descriptors], segments⟩
      · intro i outside
        simp only [List.mem_cons, not_or] at outside
        simpa [Function.update_noteq outside.1] using others i outside.2
    · simp at run

/-- A successful `init_dma` on a zeroed interface gives every slot a buffer of the pool, in
index order, and leaves the DMA at slot 0 with nothing stored. -/
theorem rxInitDma_invariant [NeZero n] {config : Config} {descriptors : Nat → RxDescriptor}
    {memory : Nat → List UInt8} {pool : List Nat} {init : RxState n} {effects : List Effect}
    (pool_owned : BufferOwnership (fun d => (descriptors d).pucEthernetBuffer) pool)
    (initialised : rxInitDma config (rxZero n descriptors memory pool) = some (init, effects)) :
    RxInvariant config init [] ∧ RxDmaAt config init 0 ∧ (ownedBuffers init []).Perm pool := by
  simp only [rxInitDma, Option.map_eq_some', Prod.mk.injEq] at initialised
  obtain ⟨⟨loaded, loadedEffects⟩, loop, rfl, -⟩ := initialised
  obtain ⟨pool_eq, segments, -, same_descriptors, -, stack, head⟩ :=
    rxInitLoop_spec config _ _ _ _ loop (List.nodup_finRange n) fun _ _ => rfl
  simp only [rxZero] at pool_eq same_descriptors stack head
  have valid : ∀ i, ValidPayload (loaded.slotPayload i) := fun i => by
    have member : loaded.rxBuffers i ∈ pool := by
      rw [← pool_eq]
      exact List.mem_append_left _ (List.mem_map_of_mem _ (List.mem_finRange i))
    simpa [RxState.slotPayload, same_descriptors] using pool_owned.valid _ member
  refine ⟨⟨pool_owned.of_perm ?perm fun d _ => by simp [same_descriptors], 0, ?dma⟩, ?dma, ?perm⟩
  case perm =>
    rw [← pool_eq]
    simp only [ownedBuffers, head, stack, readRing_firstSlot, List.append_nil]
    exact List.perm_append_comm
  case dma =>
    refine ⟨Nat.zero_le n, by simp [head], fun i => ?_, fun i => ?_,
      fun i inside => absurd inside (not_inWindow_zero _ i)⟩
    · dsimp only
      rw [decide_eq_false (not_inWindow_zero _ _)]
      show _ = rxAddressWord (loaded.slotPayload i) _ false
      rw [← rxAddressWord_repost (valid i)]
      by_cases at_last : i = lastSlot n
      · subst at_last
        simp [segments _ (List.mem_finRange _), lastSlot, RxState.slotPayload]
      · have other : i.val ≠ n - 1 := fun equal => at_last (Fin.ext equal)
        simp [Function.update_noteq at_last, segments _ (List.mem_finRange _), other,
          RxState.slotPayload]
    · by_cases at_last : i = lastSlot n
      · subst at_last
        simp [segments _ (List.mem_finRange _), not_inWindow_zero]
      · simp [Function.update_noteq at_last, segments _ (List.mem_finRange _), not_inWindow_zero]

/-! ## The MAC -/

/-- With the DMA standing at a free slot, the MAC stores the frame in that slot's buffer, marks
the slot `NEW` with the frame's length, and moves on. -/
theorem rxDmaReceive_eq {config : Config} {s : RxState n} {linked : List Nat} {stored : Nat}
    (invariant : RxInvariant config s linked) (dma : RxDmaAt config s stored) (room : stored < n)
    (frame : List UInt8) :
    rxDmaReceive frame s = some { s with
      memory := Function.update s.memory (s.slotPayload (slotAt s.rxHead stored)) frame
      rxSegments := Function.update s.rxSegments (slotAt s.rxHead stored)
        ⟨rxAddressWord (s.slotPayload (slotAt s.rxHead stored))
          (decide ((slotAt s.rxHead stored).val = n - 1)) true, frame.length⟩
      rxDmaIndex := slotAt s.rxHead (stored + 1) } := by
  have free : ¬InWindow s.rxHead stored (slotAt s.rxHead stored) := by
    rw [InWindow, offsetFrom_slotAt _ room]
    exact Nat.lt_irrefl stored
  have valid := invariant.buffer_valid (slotAt s.rxHead stored)
  simp only [rxDmaReceive, dma.dma_index, dma.address, free, decide_False,
    rxNew_rxAddressWord valid, rxWrap_rxAddressWord valid, rxAddressWord_land_add_two valid,
    rxAddressWord_or_new valid, nextByWrap_last, advance_slotAt, Bool.false_eq_true, if_false,
    Option.map_some']

/-- The MAC drops every frame while all slots hold one. -/
theorem rxDmaReceive_full {config : Config} {s : RxState n} {linked : List Nat}
    (invariant : RxInvariant config s linked) (dma : RxDmaAt config s n) (frame : List UInt8) :
    rxDmaReceive frame s = none := by
  have stored : InWindow s.rxHead n (slotAt s.rxHead n) := offsetFrom_lt _ _
  simp only [rxDmaReceive, dma.dma_index, dma.address, stored, decide_True,
    rxNew_rxAddressWord (invariant.buffer_valid _), if_true]

/-- A stored frame joins the run of stored frames, and every other buffer keeps its bytes. -/
theorem rxDmaReceive_invariant {config : Config} {s : RxState n} {linked : List Nat}
    {stored : Nat} (invariant : RxInvariant config s linked) (dma : RxDmaAt config s stored)
    (room : stored < n) {frame : List UInt8} (fits : frame.length ≤ config.dmaRxTxBufferSize) :
    RxInvariant config { s with
      memory := Function.update s.memory (s.slotPayload (slotAt s.rxHead stored)) frame
      rxSegments := Function.update s.rxSegments (slotAt s.rxHead stored)
        ⟨rxAddressWord (s.slotPayload (slotAt s.rxHead stored))
          (decide ((slotAt s.rxHead stored).val = n - 1)) true, frame.length⟩
      rxDmaIndex := slotAt s.rxHead (stored + 1) } linked ∧
    RxDmaAt config { s with
      memory := Function.update s.memory (s.slotPayload (slotAt s.rxHead stored)) frame
      rxSegments := Function.update s.rxSegments (slotAt s.rxHead stored)
        ⟨rxAddressWord (s.slotPayload (slotAt s.rxHead stored))
          (decide ((slotAt s.rxHead stored).val = n - 1)) true, frame.length⟩
      rxDmaIndex := slotAt s.rxHead (stored + 1) } (stored + 1) := by
  have window : ∀ i, InWindow s.rxHead (stored + 1) i ↔
      InWindow s.rxHead stored i ∨ i = slotAt s.rxHead stored := fun i => inWindow_succ room
  have kept : ∀ i, i ≠ slotAt s.rxHead stored →
      Function.update s.memory (s.slotPayload (slotAt s.rxHead stored)) frame (s.slotPayload i) =
        s.memory (s.slotPayload i) := fun i other =>
    Function.update_noteq (fun same => other (invariant.payload_injective same)) _ _
  have dma' : RxDmaAt config { s with
      memory := Function.update s.memory (s.slotPayload (slotAt s.rxHead stored)) frame
      rxSegments := Function.update s.rxSegments (slotAt s.rxHead stored)
        ⟨rxAddressWord (s.slotPayload (slotAt s.rxHead stored))
          (decide ((slotAt s.rxHead stored).val = n - 1)) true, frame.length⟩
      rxDmaIndex := slotAt s.rxHead (stored + 1) } (stored + 1) := by
    refine ⟨room, rfl, fun i => ?_, fun i => ?_, fun i inside => ?_⟩
    · by_cases at_slot : i = slotAt s.rxHead stored
      · subst at_slot
        simp [window, RxState.slotPayload]
      · simp [Function.update_noteq at_slot, dma.address, window, at_slot, RxState.slotPayload]
    · by_cases at_slot : i = slotAt s.rxHead stored
      · subst at_slot
        simp [window, RxState.slotPayload]
      · have := kept i at_slot
        simp only [RxState.slotPayload] at this
        simp [Function.update_noteq at_slot, dma.flags, window, at_slot, RxState.slotPayload, this]
    · by_cases at_slot : i = slotAt s.rxHead stored
      · subst at_slot
        simpa [RxState.slotPayload] using fits
      · have := kept i at_slot
        simp only [RxState.slotPayload] at this
        simp only [window, at_slot, or_false] at inside
        simpa [RxState.slotPayload, this] using dma.fits i inside
  exact ⟨⟨invariant.owned, _, dma'⟩, dma'⟩

/-! ## The IP task -/

/-- The IP task releasing a buffer it holds hands it back to the pool. -/
theorem stackRelease_invariant {config : Config} {s : RxState n} {linked : List Nat}
    {pxDescriptor : Nat} (invariant : RxInvariant config s linked) (held : pxDescriptor ∈ s.stack) :
    RxInvariant config (vReleaseNetworkBufferAndDescriptor pxDescriptor
      { s with stack := s.stack.erase pxDescriptor }) linked ∧
    (ownedBuffers (vReleaseNetworkBufferAndDescriptor pxDescriptor
      { s with stack := s.stack.erase pxDescriptor }) linked).Perm (ownedBuffers s linked) := by
  have perm : (ownedBuffers (vReleaseNetworkBufferAndDescriptor pxDescriptor
      { s with stack := s.stack.erase pxDescriptor }) linked).Perm (ownedBuffers s linked) := by
    simp only [ownedBuffers, vReleaseNetworkBufferAndDescriptor, List.append_assoc,
      List.singleton_append]
    refine List.Perm.append_left _ (List.perm_middle.symm.trans (List.Perm.append_left _ ?_))
    exact ((List.perm_cons_erase held).symm.append_right linked)
  obtain ⟨stored, dma⟩ := invariant.dma
  exact ⟨⟨invariant.owned.of_perm perm fun _ _ => rfl, stored, dma.with_owners _ _⟩, perm⟩

/-- A chain handed to the IP task joins its buffers. -/
theorem RxInvariant.handOff {config : Config} {s : RxState n} {linked : List Nat}
    (invariant : RxInvariant config s linked) :
    RxInvariant config { s with stack := s.stack ++ linked } [] ∧
      ownedBuffers { s with stack := s.stack ++ linked } [] = ownedBuffers s linked := by
  have same : ownedBuffers { s with stack := s.stack ++ linked } [] = ownedBuffers s linked := by
    simp [ownedBuffers]
  obtain ⟨stored, dma⟩ := invariant.dma
  exact ⟨⟨same ▸ invariant.owned, stored, dma.with_owners _ _⟩, same⟩

/-- A chain released to the pool joins the pool. -/
theorem RxInvariant.release {config : Config} {s : RxState n} {linked : List Nat}
    (invariant : RxInvariant config s linked) :
    RxInvariant config { s with pool := s.pool ++ linked } [] ∧
      (ownedBuffers { s with pool := s.pool ++ linked } []).Perm (ownedBuffers s linked) := by
  have perm : (ownedBuffers { s with pool := s.pool ++ linked } []).Perm (ownedBuffers s linked) :=
    List.perm_iff_count.mpr fun a => by
      simp only [ownedBuffers, List.count_append, List.count_nil]
      omega
  obtain ⟨stored, dma⟩ := invariant.dma
  exact ⟨⟨invariant.owned.of_perm perm fun _ _ => rfl, stored, dma.with_owners _ _⟩, perm⟩

end EmacPsDma
