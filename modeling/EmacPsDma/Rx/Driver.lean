import EmacPsDma.Rx.Filter

/-!
# The receive path

The MAC stores a frame in the buffer of the slot its DMA stands at when `NEW` is clear, then sets
`NEW` and moves on.  `emacps_check_rx` walks the slots with `NEW` set from `rxHead`, replaces each
accepted buffer by a fresh one linked to a chain, and gives the slot back to the MAC;
`prvPassEthMessages` hands the chain to the IP task or releases it.  Buffers are named by
descriptor: `pxDMA_rx_buffers` holds pointers into the heap `descriptors`.
-/

namespace EmacPsDma

variable {n : Nat}

/-- The fields of a `NetworkBufferDescriptor_t` that the receive path reads or writes. -/
structure RxDescriptor where
  /-- `pucEthernetBuffer`, the payload. -/
  pucEthernetBuffer : Nat
  /-- `xDataLength`. -/
  xDataLength : Nat
  /-- `pxInterface`. -/
  pxInterface : Nat
  /-- `pxEndPoint`. -/
  pxEndPoint : Nat
  /-- `pxNextBuffer`, `0` for `NULL`. -/
  pxNextBuffer : Nat
  deriving DecidableEq, Repr

/-- The receive half of `xemacpsif_s` and `pxDMA_rx_buffers` of one MAC, the network buffers with
their payload memory, the pool, the buffers the IP task holds, and the slot the receive DMA writes
next. -/
@[ext] structure RxState (n : Nat) where
  /-- `rxHead`, the next slot `emacps_check_rx` looks at. -/
  rxHead : Fin n
  /-- `rxSegments`, the RX descriptor ring. -/
  rxSegments : Fin n → Bd
  /-- `pxDMA_rx_buffers`, descriptor pointers with `0` for `NULL`. -/
  rxBuffers : Fin n → Nat
  /-- The network buffer descriptors, by pointer. -/
  descriptors : Nat → RxDescriptor
  /-- The bytes stored at each payload address. -/
  memory : Nat → List UInt8
  /-- The free buffers of the buffer manager, first to be handed out first. -/
  pool : List Nat
  /-- The buffers the IP task has received and not released. -/
  stack : List Nat
  /-- The slot the receive DMA of the MAC writes next. -/
  rxDmaIndex : Fin n

/-- Build options, platform hooks and the stack functions the receive path calls. -/
structure RxConfig extends Config where
  /-- The options and the bound ports `xMayAcceptPacket` reads. -/
  filter : FilterConfig
  /-- `FreeRTOS_MatchingEndpoint( pxInterface, pucEthernetBuffer )`. -/
  freeRtosMatchingEndpoint : Nat → List UInt8 → Nat

/-! ## The buffer manager -/

/-- Modelled from the spec: `pxGetNetworkBufferWithDescriptor( dmaRX_TX_BUFFER_SIZE, 0 )`, the first
buffer of the pool, which no one else owns, or `NULL` when the pool is empty or the call fails
(`succeeds` false). -/
def pxGetNetworkBufferWithDescriptor (succeeds : Bool) (s : RxState n) : Option (Nat × RxState n) :=
  match s.pool with
  | pxBuffer :: rest => if succeeds then some (pxBuffer, { s with pool := rest }) else none
  | [] => none

/-- Modelled from the spec: `vReleaseNetworkBufferAndDescriptor`, the buffer goes back to the end of
the pool. -/
def vReleaseNetworkBufferAndDescriptor (pxDescriptor : Nat) (s : RxState n) : RxState n :=
  { s with pool := s.pool ++ [pxDescriptor] }

/-! ## `emacps_check_rx` -/

/-- The locals of `emacps_check_rx` carried from one pass of its loop to the next, with the number
of allocations tried so far and the buffers linked so far, in order. -/
structure RxLoop where
  /-- `msgCount`. -/
  msgCount : Nat
  /-- `pxFirstDescriptor`, `0` for `NULL`. -/
  pxFirstDescriptor : Nat
  /-- `pxLastDescriptor`, `0` for `NULL`. -/
  pxLastDescriptor : Nat
  /-- The calls of `pxGetNetworkBufferWithDescriptor` so far. -/
  attempts : Nat
  /-- The buffers linked so far, oldest first. -/
  received : List Nat

/-- `rx_bytes`: the frame length in a flags word, under the mask of the build. -/
def rxBytes (config : Config) (flags : Nat) : Nat :=
  flags &&& if config.useJumboFrames then xemacpsRxbufLenJumboMask else xemacpsRxbufLenMask

/-- The end of a pass of the loop at slot `head`: the payload of `pxNewBuffer` is invalidated when
cached, the descriptor gets its address with `NEW` clear and `WRAP` on the last slot, `flags` is
cleared, and `rxHead` moves on. -/
def rxRepost (config : Config) (head : Fin n) (pxNewBuffer : Nat) (s : RxState n) :
    RxState n × List Effect :=
  let payload := (s.descriptors pxNewBuffer).pucEthernetBuffer
  let addr := payload &&& xemacpsRxbufAddMask
  ({ s with
      rxSegments := Function.update s.rxSegments head
        { address := if head.val = n - 1 then addr ||| xemacpsRxbufWrapMask else addr, flags := 0 }
      rxHead := advance head },
    if config.ucIsCachedMemory payload then
      [.invalidateRange (payload - 2) config.dmaRxTxBufferSize] else [])

/-- An accepted frame in `pxBuffer` with the replacement `pxNewBuffer`: the buffer records the
interface, its endpoint and the length the MAC stored, the table takes `pxNewBuffer`, the payload
is invalidated when cached, and the buffer joins the end of the chain. -/
def rxDeliver (config : RxConfig) (pxInterface : Nat) (head : Fin n) (pxBuffer pxNewBuffer : Nat)
    (loop : RxLoop) (s : RxState n) : RxState n × RxLoop × List Effect :=
  let buffer := s.descriptors pxBuffer
  let rx_bytes := rxBytes config.toConfig (s.rxSegments head).flags
  let descriptors := Function.update s.descriptors pxBuffer
    { buffer with
      pxInterface := pxInterface
      pxEndPoint := config.freeRtosMatchingEndpoint pxInterface (s.memory buffer.pucEthernetBuffer)
      xDataLength := rx_bytes
      pxNextBuffer := 0 }
  let linked := if loop.pxFirstDescriptor ≠ 0 ∧ loop.pxLastDescriptor ≠ 0 then
      Function.update descriptors loop.pxLastDescriptor
        { descriptors loop.pxLastDescriptor with pxNextBuffer := pxBuffer }
    else descriptors
  ({ s with descriptors := linked, rxBuffers := Function.update s.rxBuffers head pxNewBuffer },
    { loop with
      msgCount := loop.msgCount + 1
      pxFirstDescriptor := if loop.pxFirstDescriptor = 0 then pxBuffer else loop.pxFirstDescriptor
      pxLastDescriptor := pxBuffer
      received := loop.received ++ [pxBuffer] },
    if config.ucIsCachedMemory buffer.pucEthernetBuffer then
      [.invalidateRange (buffer.pucEthernetBuffer - 2) rx_bytes] else [])

/-- One pass of the loop of `emacps_check_rx` at slot `head`, whose `NEW` bit is set: the filter
reads the headers of the frame (within the 38 bytes of `ProtocolPacket_t` it looks at); an accepted
frame is delivered when the pool gives a replacement (`allocates` tells whether the allocation of
that number succeeds), and otherwise its buffer stays in the slot. -/
def checkRxPass (config : RxConfig) (pxInterface : Nat) (allocates : Nat → Bool) (head : Fin n)
    (loop : RxLoop) (s : RxState n) : RxState n × RxLoop × List Effect :=
  let pxBuffer := s.rxBuffers head
  let payload := (s.descriptors pxBuffer).pucEthernetBuffer
  let filtered := Effect.readPayload payload 38
  if xMayAcceptPacket config.filter (s.memory payload) then
    match pxGetNetworkBufferWithDescriptor (allocates loop.attempts) s with
    | some (pxNewBuffer, allocated) =>
      let delivered := rxDeliver config pxInterface head pxBuffer pxNewBuffer
        { loop with attempts := loop.attempts + 1 } allocated
      let reposted := rxRepost config.toConfig head pxNewBuffer delivered.1
      (reposted.1, delivered.2.1, filtered :: delivered.2.2 ++ reposted.2)
    | none =>
      let reposted := rxRepost config.toConfig head pxBuffer s
      (reposted.1, { loop with attempts := loop.attempts + 1 },
        filtered :: .log "emacps_check_rx: unable to allocate a Network Buffer\n" :: reposted.2)
  else
    let reposted := rxRepost config.toConfig head pxBuffer s
    (reposted.1, loop, filtered :: reposted.2)

/-- The `for( ; ; )` loop of `emacps_check_rx` from slot `head`; `none` when `fuel` passes run out
before the `break`. -/
def checkRxLoop (config : RxConfig) (pxInterface : Nat) (allocates : Nat → Bool) :
    Nat → Fin n → RxLoop → RxState n → Option (RxState n × RxLoop × List Effect)
  | 0, _, _, _ => none
  | fuel + 1, head, loop, s =>
    if rxNew (s.rxSegments head).address = false ∨ s.rxBuffers head = 0 then some (s, loop, [])
    else
      let pass := checkRxPass config pxInterface allocates head loop s
      (checkRxLoop config pxInterface allocates fuel (advance head) pass.2.1 pass.1).map
        fun rest => (rest.1, rest.2.1, pass.2.2 ++ rest.2.2)

/-- The `do { ... } while( pxDescriptor != NULL )` loop of `prvPassEthMessages`: each buffer of the
chain from `pxDescriptor` is released, following `pxNextBuffer`; `none` when `fuel` runs out. -/
def releaseChain : Nat → Nat → RxState n → Option (RxState n × List Effect)
  | 0, _, _ => none
  | fuel + 1, pxDescriptor, s =>
    let pxNext := (s.descriptors pxDescriptor).pxNextBuffer
    let released := vReleaseNetworkBufferAndDescriptor pxDescriptor s
    if pxNext = 0 then some (released, [.release pxDescriptor])
    else (releaseChain fuel pxNext released).map fun rest => (rest.1, .release pxDescriptor :: rest.2)

/-- `prvPassEthMessages` with `ipconfigUSE_LINKED_RX_MESSAGES`: the chain from `pxDescriptor` goes to
the IP task in one `eNetworkRxEvent`, or, when `xSendEventStructToIPTask` fails (`enqueued`
false), each of its buffers is released. -/
def prvPassEthMessages (enqueued : Bool) (fuel pxDescriptor : Nat) (s : RxState n) :
    Option (RxState n × List Effect) :=
  if enqueued then some (s, [.sendRxEvent pxDescriptor true])
  else (releaseChain fuel pxDescriptor s).map fun released =>
    (released.1, .sendRxEvent pxDescriptor false :: released.2 ++
      [.log "prvPassEthMessages: Can not queue return packet!\n"])

/-- `emacps_check_rx` with `ipconfigUSE_LINKED_RX_MESSAGES`: the loop from `rxHead`, then the chain
handed on when there is one; with the locals at the end of the loop, `msgCount` among them. -/
def emacpsCheckRx (config : RxConfig) (pxInterface : Nat) (allocates : Nat → Bool)
    (enqueued : Bool) (fuel : Nat) (s : RxState n) : Option (RxState n × List Effect × RxLoop) :=
  (checkRxLoop config pxInterface allocates fuel s.rxHead ⟨0, 0, 0, 0, []⟩ s).bind fun drained =>
    if drained.2.1.pxFirstDescriptor = 0 then some (drained.1, drained.2.2, drained.2.1)
    else (prvPassEthMessages enqueued fuel drained.2.1.pxFirstDescriptor drained.1).map
      fun passed => (passed.1, drained.2.2 ++ passed.2, drained.2.1)

/-! ## The MAC -/

/-- The receive DMA stores `frame` in the buffer of the slot it stands at: at the buffer bits of
the address word plus the 2-byte offset of `NWCFG`, with its length in the flags; it sets `NEW` and
moves on, to slot 0 after a descriptor with `WRAP`.  `none` when the slot has `NEW` set, where the
MAC drops the frame, or when the ring ends without `WRAP`. -/
def rxDmaReceive (frame : List UInt8) (s : RxState n) : Option (RxState n) :=
  let segment := s.rxSegments s.rxDmaIndex
  if rxNew segment.address then none
  else (nextByWrap s.rxDmaIndex (rxWrap segment.address)).map fun next =>
    { s with
      memory := Function.update s.memory ((segment.address &&& xemacpsRxbufAddMask) + 2) frame
      rxSegments := Function.update s.rxSegments s.rxDmaIndex
        { address := segment.address ||| xemacpsRxbufNewMask, flags := frame.length }
      rxDmaIndex := next }

/-! ## `init_dma` -/

/-- The last slot of a ring of `n`. -/
def lastSlot (n : Nat) [NeZero n] : Fin n :=
  ⟨n - 1, Nat.sub_lt (Nat.pos_of_ne_zero (NeZero.ne n)) Nat.one_pos⟩

/-- One pass of the RX loop of `init_dma` at slot `iIndex`: a slot without a buffer takes one from
the pool, the descriptor gets its address with `flags` clear, and the payload is invalidated when
cached; `none` when the pool has no buffer, where `init_dma` returns -1. -/
def rxInitSlot (config : Config) (s : RxState n) (iIndex : Fin n) :
    Option (RxState n × List Effect) :=
  let allocated := if s.rxBuffers iIndex = 0 then pxGetNetworkBufferWithDescriptor true s
    else some (s.rxBuffers iIndex, s)
  allocated.map fun taken =>
    let payload := (taken.2.descriptors taken.1).pucEthernetBuffer
    ({ taken.2 with
        rxSegments := Function.update taken.2.rxSegments iIndex
          { address := payload &&& xemacpsRxbufAddMask, flags := 0 }
        rxBuffers := Function.update taken.2.rxBuffers iIndex taken.1 },
      if config.ucIsCachedMemory payload then
        [.invalidateRange (payload - 2) config.dmaRxTxBufferSize] else [])

/-- The RX loop of `init_dma` over the slots in `indices`. -/
def rxInitLoop (config : Config) : List (Fin n) → RxState n → Option (RxState n × List Effect)
  | [], s => some (s, [])
  | iIndex :: rest, s => (rxInitSlot config s iIndex).bind fun slot =>
      (rxInitLoop config rest slot.1).map fun final => (final.1, slot.2 ++ final.2)

/-- The RX part of `init_dma`: a buffer for every slot, `WRAP` on the last descriptor, and the
receive queue of the MAC pointed at slot 0. -/
def rxInitDma [NeZero n] (config : Config) (s : RxState n) : Option (RxState n × List Effect) :=
  (rxInitLoop config (List.finRange n) s).map fun initialised =>
    ({ initialised.1 with
        rxSegments := Function.update initialised.1.rxSegments (lastSlot n)
          { initialised.1.rxSegments (lastSlot n) with
            address := (initialised.1.rxSegments (lastSlot n)).address ||| xemacpsRxbufWrapMask }
        rxDmaIndex := firstSlot n },
      initialised.2)

/-- The receive side of a zeroed `xemacpsif_s` and an empty table, with the buffers of the pool
described by `descriptors` and `memory`. -/
def rxZero (n : Nat) [NeZero n] (descriptors : Nat → RxDescriptor) (memory : Nat → List UInt8)
    (pool : List Nat) : RxState n :=
  { rxHead := firstSlot n, rxSegments := fun _ => ⟨0, 0⟩, rxBuffers := fun _ => 0
    descriptors := descriptors, memory := memory, pool := pool, stack := []
    rxDmaIndex := firstSlot n }

/-! ## Runs -/

/-- The steps of the receive side. -/
inductive RxAction
  /-- The MAC receives `frame`. -/
  | receive (frame : List UInt8)
  /-- A call of `emacps_check_rx` for `pxInterface`, with the outcome of each allocation and of the
  enqueue. -/
  | checkRx (pxInterface : Nat) (allocates : Nat → Bool) (enqueued : Bool)
  /-- The IP task releases a buffer it holds. -/
  | stackRelease (pxDescriptor : Nat)

/-- One step, with its effects; `none` when it cannot happen.  The MAC takes frames that fit a
buffer; a call of `emacps_check_rx` is run with `n + 1` passes of its loop, and the chain it hands
on joins the buffers of the IP task. -/
def rxStep (config : RxConfig) (s : RxState n) : RxAction → Option (RxState n × List Effect)
  | .receive frame =>
    if frame.length ≤ config.dmaRxTxBufferSize then (rxDmaReceive frame s).map fun s' => (s', [])
    else none
  | .checkRx pxInterface allocates enqueued =>
    (emacpsCheckRx config pxInterface allocates enqueued (n + 1) s).map fun result =>
      ({ result.1 with stack := if enqueued then result.1.stack ++ result.2.2.received
          else result.1.stack }, result.2.1)
  | .stackRelease pxDescriptor =>
    if pxDescriptor ∈ s.stack then
      some (vReleaseNetworkBufferAndDescriptor pxDescriptor
        { s with stack := s.stack.erase pxDescriptor }, [.release pxDescriptor])
    else none

/-- The states reached by finitely many steps from `init`, with the effects of each step. -/
inductive RxReachable (config : RxConfig) (init : RxState n) :
    RxState n → List (RxAction × List Effect) → Prop
  | init : RxReachable config init init []
  | step {s s' : RxState n} {trace : List (RxAction × List Effect)} {action : RxAction}
      {effects : List Effect} :
      RxReachable config init s trace → rxStep config s action = some (s', effects) →
      RxReachable config init s' (trace ++ [(action, effects)])

end EmacPsDma
