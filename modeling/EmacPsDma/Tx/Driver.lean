import EmacPsDma.Basic

/-!
# The transmit path

`emacps_send_message` publishes one frame at `txHead` and `emacps_check_tx` reclaims the slots the
MAC has finished, the counting semaphore `xTXDescriptorSemaphore` bounding the frames in flight.
The transmit DMA sends the frame of its slot when `USED` is clear, sets `USED` and moves on.  On
this path a network buffer is named by its payload address.
-/

namespace EmacPsDma

/-- The fields of a `NetworkBufferDescriptor_t` that the transmit path reads. -/
structure NetworkBufferDescriptor where
  /-- `pucEthernetBuffer`, the payload. -/
  pucEthernetBuffer : Nat
  /-- `xDataLength`, a `size_t`. -/
  xDataLength : Nat
  /-- A buffer of the pool always has a payload. -/
  payload_ne_null : pucEthernetBuffer ≠ 0

/-- The transmit half of `xemacpsif_s`, the semaphore and the buffer table of one MAC, and the
slot its transmit DMA looks at next. -/
@[ext] structure TxState (n : Nat) where
  /-- `txHead`, the next slot `emacps_send_message` fills. -/
  txHead : Fin n
  /-- `txTail`, the next slot `emacps_check_tx` reclaims. -/
  txTail : Fin n
  /-- `xTXDescriptorSemaphore`: `none` while it is `NULL`, else its count. -/
  txSemaphore : Option Nat
  /-- `txSegments`, the TX descriptor ring. -/
  txSegments : Fin n → Bd
  /-- `pxDMA_tx_buffers`, payload pointers with `0` for `NULL`. -/
  txBuffers : Fin n → Nat
  /-- `txBusy`. -/
  txBusy : Bool
  /-- The slot the transmit DMA of the MAC reads next. -/
  txDmaIndex : Fin n

variable {n : Nat}

/-! ## The semaphore and the length check -/

/-- `xSemaphoreTake` when no other task runs during the wait: a credit or a time-out. -/
def semaphoreTake (count : Nat) : Option Nat :=
  if 0 < count then some (count - 1) else none

/-- `xSemaphoreGive` on a counting semaphore created with maximum count `n`. -/
def semaphoreGive (n count : Nat) : Nat :=
  if count < n then count + 1 else count

/-- A `size_t` converted to the 64-bit `BaseType_t` of the `__aarch64__` build. -/
def toBaseType (value : Nat) : Int :=
  if value % 2 ^ 64 < 2 ^ 63 then (value % 2 ^ 64 : Nat)
  else ((value % 2 ^ 64 : Nat) : Int) - ((2 ^ 64 : Nat) : Int)

/-- The cast `( uint32_t ) xLength` of a `BaseType_t`. -/
def toUint32 (value : Int) : Nat :=
  (value % ((2 ^ 32 : Nat) : Int)).toNat

/-- `xValidLength`. -/
def xValidLength (config : Config) (xLength : Int) : Bool :=
  decide ((config.arpPacketSize : Int) ≤ xLength) &&
    decide (toUint32 xLength ≤ config.dmaRxTxBufferSize)

/-- `is_tx_space_available`: the number of TX descriptors in use. -/
def isTxSpaceAvailable (s : TxState n) : Nat :=
  match s.txSemaphore with
  | some count => n - count
  | none => 0

/-! ## Descriptor flags -/

/-- The flags word `emacps_send_message` writes for a frame of `length` bytes. -/
def txPublishFlags (length : Nat) (lastSlot : Bool) : Nat :=
  let ulFlags := xemacpsTxbufLastMask ||| (length &&& xemacpsTxbufLenMask)
  if lastSlot then ulFlags ||| xemacpsTxbufWrapMask else ulFlags

/-- The flags word of a slot the driver owns: `USED`, with `WRAP` on the last slot. -/
def txIdleFlags (lastSlot : Bool) : Nat :=
  if lastSlot then xemacpsTxbufUsedMask ||| xemacpsTxbufWrapMask else xemacpsTxbufUsedMask

@[simp] theorem txUsed_txPublishFlags (length : Nat) (lastSlot : Bool) :
    txUsed (txPublishFlags length lastSlot) = false := by
  cases lastSlot <;> simp [txPublishFlags, txUsed_eq, txWrap_eq]

@[simp] theorem txWrap_txPublishFlags (length : Nat) (lastSlot : Bool) :
    txWrap (txPublishFlags length lastSlot) = lastSlot := by
  cases lastSlot <;> simp [txPublishFlags, txUsed_eq, txWrap_eq]

@[simp] theorem txUsed_txIdleFlags (lastSlot : Bool) : txUsed (txIdleFlags lastSlot) = true := by
  cases lastSlot <;> simp [txIdleFlags, txUsed_eq, txWrap_eq]

@[simp] theorem txWrap_txIdleFlags (lastSlot : Bool) :
    txWrap (txIdleFlags lastSlot) = lastSlot := by
  cases lastSlot <;> simp [txIdleFlags, txUsed_eq, txWrap_eq]

@[simp] theorem txUsed_or_used (flags : Nat) : txUsed (flags ||| xemacpsTxbufUsedMask) = true := by
  simp [txUsed_eq]

@[simp] theorem txWrap_or_used (flags : Nat) :
    txWrap (flags ||| xemacpsTxbufUsedMask) = txWrap flags := by
  simp [txWrap_eq]

/-! ## The driver functions -/

/-- `clean_dma_txdescs`: every descriptor gets a `NULL` address and `USED`, the last one also
`WRAP`, and every entry of `pxDMA_tx_buffers` becomes `NULL`. -/
def cleanDmaTxdescs (s : TxState n) : TxState n :=
  { s with
    txSegments := fun index =>
      { address := 0
        flags := if index.val = n - 1 then xemacpsTxbufUsedMask ||| xemacpsTxbufWrapMask
          else xemacpsTxbufUsedMask }
    txBuffers := fun _ => 0 }

@[simp] theorem cleanDmaTxdescs_txSegments (s : TxState n) (index : Fin n) :
    (cleanDmaTxdescs s).txSegments index =
      { address := 0, flags := txIdleFlags (index.val = n - 1) } := by
  by_cases last : index.val = n - 1 <;> simp [cleanDmaTxdescs, txIdleFlags, last]

@[simp] theorem cleanDmaTxdescs_txBuffers (s : TxState n) :
    (cleanDmaTxdescs s).txBuffers = fun _ => 0 := rfl

/-- The TX part of `init_dma`: create the semaphore with count `n` if it is `NULL`, clean the
ring, and point the transmit queue of the MAC at slot 0. -/
def txInitDma [NeZero n] (s : TxState n) : TxState n :=
  { cleanDmaTxdescs s with
    txSemaphore := some (s.txSemaphore.getD n)
    txDmaIndex := firstSlot n }

/-- The state `init_dma` leaves on the first start, from a zeroed `xemacpsif_s`. -/
def txStart (n : Nat) [NeZero n] : TxState n :=
  txInitDma
    { txHead := firstSlot n, txTail := firstSlot n, txSemaphore := none
      txSegments := fun _ => ⟨0, 0⟩, txBuffers := fun _ => 0, txBusy := false
      txDmaIndex := firstSlot n }

/-- The ring after `emacps_send_message` has taken a credit, leaving `taken`, and published
`pxBuffer` at `txHead`: the payload pointer goes to `pxDMA_tx_buffers[ head ]`, its low 32 bits
from there to the 32-bit address word, the flags clear `USED`, and `txHead` moves on. -/
def publishSlot (s : TxState n) (pxBuffer : NetworkBufferDescriptor) (taken : Nat) : TxState n :=
  let head := s.txHead
  let buffers := Function.update s.txBuffers head pxBuffer.pucEthernetBuffer
  { s with
    txSemaphore := some taken
    txBuffers := buffers
    txSegments := Function.update s.txSegments head
      { address := buffers head % 2 ^ 32
        flags := txPublishFlags pxBuffer.xDataLength (head.val = n - 1) }
    txHead := advance head }

@[simp] theorem publishSlot_txHead (s : TxState n) (pxBuffer : NetworkBufferDescriptor)
    (taken : Nat) : (publishSlot s pxBuffer taken).txHead = advance s.txHead := rfl

@[simp] theorem publishSlot_txTail (s : TxState n) (pxBuffer : NetworkBufferDescriptor)
    (taken : Nat) : (publishSlot s pxBuffer taken).txTail = s.txTail := rfl

@[simp] theorem publishSlot_txSemaphore (s : TxState n) (pxBuffer : NetworkBufferDescriptor)
    (taken : Nat) : (publishSlot s pxBuffer taken).txSemaphore = some taken := rfl

@[simp] theorem publishSlot_txDmaIndex (s : TxState n) (pxBuffer : NetworkBufferDescriptor)
    (taken : Nat) : (publishSlot s pxBuffer taken).txDmaIndex = s.txDmaIndex := rfl

@[simp] theorem publishSlot_txBuffers (s : TxState n) (pxBuffer : NetworkBufferDescriptor)
    (taken : Nat) : (publishSlot s pxBuffer taken).txBuffers =
      Function.update s.txBuffers s.txHead pxBuffer.pucEthernetBuffer := rfl

@[simp] theorem publishSlot_txSegments (s : TxState n) (pxBuffer : NetworkBufferDescriptor)
    (taken : Nat) : (publishSlot s pxBuffer taken).txSegments =
      Function.update s.txSegments s.txHead
        { address := pxBuffer.pucEthernetBuffer % 2 ^ 32
          flags := txPublishFlags pxBuffer.xDataLength (s.txHead.val = n - 1) } := by
  simp [publishSlot]

/-- The `do { ... } while( pdFALSE );` block of `emacps_send_message`: either a `break` before a
slot is taken, with what was logged, or the published ring with the cache maintenance done. -/
def sendBlock (config : Config) (s : TxState n) (pxBuffer : NetworkBufferDescriptor) :
    Except (List Effect) (TxState n × List Effect) :=
  if xValidLength config (toBaseType pxBuffer.xDataLength) = false then .error []
  else
    match s.txSemaphore with
    | none => .error []
    | some count =>
      match semaphoreTake count with
      | none => .error [.log "emacps_send_message: Time-out waiting for TX buffer\n"]
      | some taken =>
        .ok (publishSlot s pxBuffer taken,
          if config.ucIsCachedMemory pxBuffer.pucEthernetBuffer then
            [.flushRange pxBuffer.pucEthernetBuffer pxBuffer.xDataLength] else [])

/-- `emacps_send_message` under its asserted contract `iReleaseAfterSend != pdFALSE`.  It
returns 0 on every path; a frame that is not published is released. -/
def emacpsSendMessage (config : Config) (s : TxState n) (pxBuffer : NetworkBufferDescriptor) :
    TxState n × List Effect :=
  match sendBlock config s pxBuffer with
  | .error logged => (s, logged ++ [.release pxBuffer.pucEthernetBuffer, .dsb, .dsb])
  | .ok (published, flush) => ({ published with txBusy := true }, flush ++ [.dsb, .startTx, .dsb])

/-- One pass of the loop of `emacps_check_tx` that reclaims slot `tail`: release its buffer,
reset its flags, give one credit back and move `txTail` on. -/
def reclaimSlot (s : TxState n) (tail : Fin n) : TxState n × List Effect :=
  let pvBuffer := s.txBuffers tail
  let flags := if tail.val < n - 1 then xemacpsTxbufUsedMask
    else xemacpsTxbufUsedMask ||| xemacpsTxbufWrapMask
  ({ s with
      txBuffers := if pvBuffer ≠ 0 then Function.update s.txBuffers tail 0 else s.txBuffers
      txSegments := Function.update s.txSegments tail { s.txSegments tail with flags := flags }
      txSemaphore := s.txSemaphore.map (semaphoreGive n)
      txTail := advance tail },
    if pvBuffer ≠ 0 then [.release pvBuffer] else [])

theorem reclaimFlags_eq (tail : Fin n) :
    (if tail.val < n - 1 then xemacpsTxbufUsedMask
      else xemacpsTxbufUsedMask ||| xemacpsTxbufWrapMask) = txIdleFlags (tail.val = n - 1) := by
  have := tail.isLt
  by_cases last : tail.val = n - 1
  · simp [txIdleFlags, last]
  · simp [txIdleFlags, last, show tail.val < n - 1 by omega]

@[simp] theorem reclaimSlot_txBuffers (s : TxState n) (tail : Fin n) :
    (reclaimSlot s tail).1.txBuffers = Function.update s.txBuffers tail 0 := by
  by_cases null : s.txBuffers tail = 0
  · simp only [reclaimSlot, null, ne_eq, not_true_eq_false, if_false]
    exact (Function.update_eq_self_iff.mpr null.symm).symm
  · simp [reclaimSlot, null]

@[simp] theorem reclaimSlot_txSegments (s : TxState n) (tail : Fin n) :
    (reclaimSlot s tail).1.txSegments = Function.update s.txSegments tail
      { address := (s.txSegments tail).address, flags := txIdleFlags (tail.val = n - 1) } := by
  simp only [reclaimSlot, reclaimFlags_eq]

@[simp] theorem reclaimSlot_txSemaphore (s : TxState n) (tail : Fin n) :
    (reclaimSlot s tail).1.txSemaphore = s.txSemaphore.map (semaphoreGive n) := rfl

@[simp] theorem reclaimSlot_txTail (s : TxState n) (tail : Fin n) :
    (reclaimSlot s tail).1.txTail = advance tail := rfl

@[simp] theorem reclaimSlot_txHead (s : TxState n) (tail : Fin n) :
    (reclaimSlot s tail).1.txHead = s.txHead := rfl

@[simp] theorem reclaimSlot_txDmaIndex (s : TxState n) (tail : Fin n) :
    (reclaimSlot s tail).1.txDmaIndex = s.txDmaIndex := rfl

@[simp] theorem reclaimSlot_effects (s : TxState n) (tail : Fin n) :
    (reclaimSlot s tail).2 = if s.txBuffers tail ≠ 0 then [.release (s.txBuffers tail)] else [] :=
  rfl

/-- The `while` loop of `emacps_check_tx`, with `uxCount` descriptors still counted as in use
and `head` the value of `txHead` read on entry. -/
def checkTxLoop (head : Fin n) : Nat → Fin n → TxState n → TxState n × List Effect
  | 0, _, s => (s, [])
  | uxCount + 1, tail, s =>
    if txUsed (s.txSegments tail).flags then
      if tail = head ∧ uxCount + 1 ≠ n then (s, [])
      else
        let reclaimed := reclaimSlot s tail
        let rest := checkTxLoop head uxCount (advance tail) reclaimed.1
        (rest.1, reclaimed.2 ++ rest.2)
    else (s, [])

/-- `emacps_check_tx`; `none` when the semaphore is `NULL`, where `uxSemaphoreGetCount` fails its
assertion. -/
def emacpsCheckTx (s : TxState n) : Option (TxState n × List Effect) :=
  s.txSemaphore.map fun count => checkTxLoop s.txHead (n - count) s.txTail s

/-! ## The MAC -/

/-- The descriptors after the MAC has set `USED` on slot `index`, keeping the other bits. -/
def markUsed (segments : Fin n → Bd) (index : Fin n) : Fin n → Bd :=
  Function.update segments index
    { segments index with flags := (segments index).flags ||| xemacpsTxbufUsedMask }

@[simp] theorem markUsed_same (segments : Fin n → Bd) (index : Fin n) :
    markUsed segments index index =
      { segments index with flags := (segments index).flags ||| xemacpsTxbufUsedMask } :=
  Function.update_same _ _ _

@[simp] theorem markUsed_other (segments : Fin n → Bd) {index other : Fin n}
    (different : other ≠ index) : markUsed segments index other = segments other :=
  Function.update_noteq different _ _

/-- The transmit DMA finishes the frame of the slot it stands at: it sets `USED`, keeps the other
bits and moves on.  `none` when that slot has `USED` set, where the transmitter stops. -/
def txDmaComplete (s : TxState n) : Option (TxState n) :=
  if txUsed (s.txSegments s.txDmaIndex).flags then none
  else (nextByWrap s.txDmaIndex (txWrap (s.txSegments s.txDmaIndex).flags)).map fun next =>
    { s with txSegments := markUsed s.txSegments s.txDmaIndex, txDmaIndex := next }

/-! ## Runs -/

/-- The three atomic steps of the transmit side. -/
inductive TxAction
  /-- A call of `emacps_send_message`. -/
  | send (pxBuffer : NetworkBufferDescriptor)
  /-- The MAC completes one frame. -/
  | complete
  /-- A call of `emacps_check_tx`. -/
  | checkTx

/-- One step, with its effects; `none` when the step cannot happen. -/
def txStep (config : Config) (s : TxState n) : TxAction → Option (TxState n × List Effect)
  | .send pxBuffer => some (emacpsSendMessage config s pxBuffer)
  | .complete => (txDmaComplete s).map fun next => (next, [])
  | .checkTx => emacpsCheckTx s

/-- The states reached by finitely many steps from `init`, with the effects of each step. -/
inductive TxReachable (config : Config) (init : TxState n) :
    TxState n → List (TxAction × List Effect) → Prop
  | init : TxReachable config init init []
  | step {s s' : TxState n} {trace : List (TxAction × List Effect)} {action : TxAction}
      {effects : List Effect} :
      TxReachable config init s trace → txStep config s action = some (s', effects) →
      TxReachable config init s' (trace ++ [(action, effects)])

end EmacPsDma
