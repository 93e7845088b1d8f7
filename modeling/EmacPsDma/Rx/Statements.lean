import EmacPsDma.Rx.CheckRx

/-!
# The receive path statement by statement

A call of `emacps_check_rx` is the sequence of its statements that touch what it shares with the
MAC (descriptors, payloads) or the IP task (the pool), interleaved with the frames the MAC stores
and the buffers the IP task releases.  History variables record the frames stored, the frames taken
with their outcome, and the buffers handed to `prvPassEthMessages`.  A pass or a loop run without
interruption does what `checkRxPass` or `checkRxLoop` does.
-/

namespace EmacPsDma

variable {n : Nat}

/-- What became of a frame the loop of `emacps_check_rx` took from the ring. -/
inductive RxOutcome
  /-- `xMayAcceptPacket` refused it; its buffer stays in the slot. -/
  | refused
  /-- `pxGetNetworkBufferWithDescriptor` returned `NULL`; its buffer stays in the slot. -/
  | noBuffer
  /-- Its buffer was replaced and linked to the chain. -/
  | delivered
  deriving DecidableEq, Repr

/-- The outcome of a pass, from the answer of `xMayAcceptPacket` and the buffer
`pxGetNetworkBufferWithDescriptor` returned. -/
def rxOutcome {α : Type} (xAccepted : Bool) (pxNewBuffer : Option α) : RxOutcome :=
  if xAccepted then if pxNewBuffer.isSome then .delivered else .noBuffer else .refused

/-- A buffer of a chain handed to `prvPassEthMessages`, as it stood then. -/
structure HandedBuffer where
  /-- The bytes at its payload. -/
  frame : List UInt8
  /-- `xDataLength`. -/
  xDataLength : Nat
  /-- `pxInterface`. -/
  pxInterface : Nat
  /-- The `pxInterface` argument of the call that handed it on. -/
  callInterface : Nat
  deriving DecidableEq, Repr

/-- A call of `emacps_check_rx`: its `pxInterface` argument, whether the allocation of each number
succeeds, and whether the enqueue to the IP task does. -/
structure RxCall where
  /-- `pxInterface`. -/
  pxInterface : Nat
  /-- Whether the allocation of each number succeeds. -/
  allocates : Nat → Bool
  /-- Whether `xSendEventStructToIPTask` succeeds. -/
  enqueued : Bool

/-- The bytes at the payload of buffer `pxDescriptor`. -/
def RxState.frameOf (s : RxState n) (pxDescriptor : Nat) : List UInt8 :=
  s.memory (s.descriptors pxDescriptor).pucEthernetBuffer

/-! ## The statements of `emacps_check_rx` -/

/-- How far the pass of the loop at a slot has got, with the locals it holds there. -/
inductive PassStage
  /-- `pxBuffer` is read from the table, and `xMayAcceptPacket` reads its frame. -/
  | filter
  /-- `pxGetNetworkBufferWithDescriptor` is called when the frame was accepted. -/
  | allocate (pxBuffer : Nat) (xAccepted : Bool)
  /-- `pxBuffer` takes the interface and the endpoint `FreeRTOS_MatchingEndpoint` finds from its
  frame. -/
  | endpoint (pxBuffer pxNewBuffer : Nat)
  /-- The table takes `pxNewBuffer`; `rx_bytes` is read from the flags of the slot, and `pxBuffer`
  takes it as `xDataLength`, is invalidated and joins the chain. -/
  | readLength (pxBuffer pxNewBuffer : Nat)
  /-- The payload of `pxNewBuffer` is invalidated and the flags of the slot are cleared. -/
  | clearFlags (pxNewBuffer : Nat)
  /-- The address word of the slot takes `addr`, which gives the slot back to the MAC. -/
  | writeAddress (addr : Nat)
  /-- The address word is read back, and `head` moves on and is written to `rxHead`. -/
  | readBack

/-- Where a call of `emacps_check_rx` stands, with the locals it holds there: `head`, and the
locals of the loop. -/
inductive CheckRxPc (n : Nat)
  /-- No call in progress. -/
  | idle
  /-- The loop test comes next: `NEW` of slot `head`, then `pxDMA_rx_buffers[ head ]`. -/
  | test (head : Fin n) (loop : RxLoop)
  /-- Within the pass at slot `head`. -/
  | pass (head : Fin n) (loop : RxLoop) (stage : PassStage)
  /-- The loop has ended; `prvPassEthMessages` is called when there is a chain. -/
  | handOff (loop : RxLoop)

/-- The next statement of `emacps_check_rx` in `call`, with its effects; `none` when no call runs.
The release loop of `prvPassEthMessages` is given one pass per buffer of the chain, which has
`msgCount` of them. -/
def rxCheckerStep (config : RxConfig) (call : RxCall) (s : RxState n) :
    CheckRxPc n → Option (RxState n × CheckRxPc n × List Effect)
  | .idle => none
  | .test head loop =>
    if rxNew (s.rxSegments head).address = false ∨ s.rxBuffers head = 0 then
      some (s, .handOff loop, [])
    else some (s, .pass head loop .filter, [])
  | .pass head loop .filter =>
    let pxBuffer := s.rxBuffers head
    let payload := (s.descriptors pxBuffer).pucEthernetBuffer
    some (s,
      .pass head loop (.allocate pxBuffer (xMayAcceptPacket config.filter (s.memory payload))),
      [.readPayload payload 38])
  | .pass head loop (.allocate pxBuffer xAccepted) =>
    if xAccepted then
      match pxGetNetworkBufferWithDescriptor (call.allocates loop.attempts) s with
      | some (pxNewBuffer, allocated) =>
        some (allocated,
          .pass head { loop with attempts := loop.attempts + 1 } (.endpoint pxBuffer pxNewBuffer),
          [])
      | none =>
        some (s,
          .pass head { loop with attempts := loop.attempts + 1 } (.clearFlags (s.rxBuffers head)),
          [.log "emacps_check_rx: unable to allocate a Network Buffer\n"])
    else some (s, .pass head loop (.clearFlags (s.rxBuffers head)), [])
  | .pass head loop (.endpoint pxBuffer pxNewBuffer) =>
    let buffer := s.descriptors pxBuffer
    some ({ s with
        descriptors := Function.update s.descriptors pxBuffer
          { buffer with
            pxInterface := call.pxInterface
            pxEndPoint :=
              config.freeRtosMatchingEndpoint call.pxInterface (s.memory buffer.pucEthernetBuffer) } },
      .pass head loop (.readLength pxBuffer pxNewBuffer), [])
  | .pass head loop (.readLength pxBuffer pxNewBuffer) =>
    let buffer := s.descriptors pxBuffer
    let rx_bytes := rxBytes config.toConfig (s.rxSegments head).flags
    let descriptors := Function.update s.descriptors pxBuffer
      { buffer with xDataLength := rx_bytes, pxNextBuffer := 0 }
    let linked := if loop.pxFirstDescriptor ≠ 0 ∧ loop.pxLastDescriptor ≠ 0 then
        Function.update descriptors loop.pxLastDescriptor
          { descriptors loop.pxLastDescriptor with pxNextBuffer := pxBuffer }
      else descriptors
    some ({ s with descriptors := linked, rxBuffers := Function.update s.rxBuffers head pxNewBuffer },
      .pass head
        { loop with
          msgCount := loop.msgCount + 1
          pxFirstDescriptor := if loop.pxFirstDescriptor = 0 then pxBuffer else loop.pxFirstDescriptor
          pxLastDescriptor := pxBuffer
          received := loop.received ++ [pxBuffer] } (.clearFlags pxNewBuffer),
      if config.ucIsCachedMemory buffer.pucEthernetBuffer then
        [.invalidateRange (buffer.pucEthernetBuffer - 2) rx_bytes] else [])
  | .pass head loop (.clearFlags pxNewBuffer) =>
    let payload := (s.descriptors pxNewBuffer).pucEthernetBuffer
    let addr := payload &&& xemacpsRxbufAddMask
    some ({ s with
        rxSegments := Function.update s.rxSegments head { s.rxSegments head with flags := 0 } },
      .pass head loop
        (.writeAddress (if head.val = n - 1 then addr ||| xemacpsRxbufWrapMask else addr)),
      if config.ucIsCachedMemory payload then
        [.invalidateRange (payload - 2) config.dmaRxTxBufferSize] else [])
  | .pass head loop (.writeAddress addr) =>
    some ({ s with
        rxSegments := Function.update s.rxSegments head { s.rxSegments head with address := addr } },
      .pass head loop .readBack, [])
  | .pass head loop .readBack =>
    some ({ s with rxHead := advance head }, .test (advance head) loop, [])
  | .handOff loop =>
    if loop.pxFirstDescriptor = 0 then some (s, .idle, [])
    else (prvPassEthMessages call.enqueued (loop.msgCount + 1) loop.pxFirstDescriptor s).map
      fun passed => ({ passed.1 with
          stack := if call.enqueued then passed.1.stack ++ loop.received else passed.1.stack },
        .idle, passed.2)

/-- The statements of a pass still to run once it has taken its frame; `0` before. -/
def PassStage.remaining : PassStage → Nat
  | .endpoint .. => 5
  | .readLength .. => 4
  | .clearFlags _ => 3
  | .writeAddress _ => 2
  | .readBack => 1
  | _ => 0

/-! ## History -/

/-- The buffers of the chain from `pxDescriptor`, following `pxNextBuffer` up to `NULL` as the IP
task walks it; at most `fuel` of them. -/
def rxChainBuffers (descriptors : Nat → RxDescriptor) : Nat → Nat → List Nat
  | 0, _ => []
  | fuel + 1, pxDescriptor =>
    if pxDescriptor = 0 then []
    else pxDescriptor :: rxChainBuffers descriptors fuel (descriptors pxDescriptor).pxNextBuffer

/-- The frame a statement takes from the ring, with what becomes of it: the call of
`pxGetNetworkBufferWithDescriptor`, or the decision not to make it, settles the frame of the
pass. -/
def rxTaken (call : RxCall) (s : RxState n) : CheckRxPc n → List (List UInt8 × RxOutcome)
  | .pass _ loop (.allocate pxBuffer xAccepted) =>
    [(s.frameOf pxBuffer,
      rxOutcome xAccepted (pxGetNetworkBufferWithDescriptor (call.allocates loop.attempts) s))]
  | _ => []

/-- The buffers a statement hands to `prvPassEthMessages`, as they stand. -/
def rxHanded (call : RxCall) (s : RxState n) : CheckRxPc n → List HandedBuffer
  | .handOff loop =>
    (rxChainBuffers s.descriptors (loop.msgCount + 1) loop.pxFirstDescriptor).map fun d =>
      ⟨s.frameOf d, (s.descriptors d).xDataLength, (s.descriptors d).pxInterface,
        call.pxInterface⟩
  | _ => []

/-! ## Runs -/

/-- The receive side with the call of `emacps_check_rx` in the driver task and the history of the
run. -/
structure RxSystem (n : Nat) where
  /-- The ring, the table, the buffers and the pool. -/
  ring : RxState n
  /-- The call of `emacps_check_rx` under way, or the last one. -/
  call : RxCall
  /-- Where the driver task stands. -/
  checker : CheckRxPc n
  /-- The frames the MAC stored, oldest first. -/
  arrivals : List (List UInt8)
  /-- The frames the loop took from the ring, oldest first, with what became of each. -/
  taken : List (List UInt8 × RxOutcome)
  /-- The buffers of the chains handed to `prvPassEthMessages`, in order, as they stood then. -/
  handed : List HandedBuffer

/-- The system once `init_dma` has set up `ring`: no call under way and no history. -/
def RxSystem.start (ring : RxState n) : RxSystem n :=
  ⟨ring, ⟨0, fun _ => false, false⟩, .idle, [], [], []⟩

/-- What the scheduler runs next. -/
inductive RxEvent
  /-- The MAC receives `frame`. -/
  | receive (frame : List UInt8)
  /-- The IP task releases a buffer it holds. -/
  | stackRelease (pxDescriptor : Nat)
  /-- The driver task calls `emacps_check_rx`; the call of `resetrx_on_no_rxdata` it starts with
  touches only the registers of the MAC. -/
  | checkRx (call : RxCall)
  /-- The driver task runs its next statement. -/
  | checker

/-- One event of a schedule, with its effects; `none` when it cannot happen.  The MAC and the IP
task step as in the atomic model. -/
def rxSystemStep (config : RxConfig) (sys : RxSystem n) :
    RxEvent → Option (RxSystem n × List Effect)
  | .receive frame => (rxStep config sys.ring (.receive frame)).map fun next =>
      ({ sys with ring := next.1, arrivals := sys.arrivals ++ [frame] }, next.2)
  | .stackRelease pxDescriptor => (rxStep config sys.ring (.stackRelease pxDescriptor)).map
      fun next => ({ sys with ring := next.1 }, next.2)
  | .checkRx call =>
    match sys.checker with
    | .idle => some ({ sys with call, checker := .test sys.ring.rxHead ⟨0, 0, 0, 0, []⟩ }, [])
    | _ => none
  | .checker => (rxCheckerStep config sys.call sys.ring sys.checker).map fun next =>
      ({ sys with
          ring := next.1, checker := next.2.1
          taken := sys.taken ++ rxTaken sys.call sys.ring sys.checker
          handed := sys.handed ++ rxHanded sys.call sys.ring sys.checker }, next.2.2)

/-- The systems reached by finitely many events from `init`. -/
inductive RxSystemReachable (config : RxConfig) (init : RxSystem n) : RxSystem n → Prop
  | init : RxSystemReachable config init init
  | step {sys sys' : RxSystem n} {event : RxEvent} {effects : List Effect} :
      RxSystemReachable config init sys → rxSystemStep config sys event = some (sys', effects) →
      RxSystemReachable config init sys'

/-- `count` statements of the driver task with nothing in between, with their effects; fewer when
one cannot run. -/
def RxSystem.runChecker (config : RxConfig) : Nat → RxSystem n → RxSystem n × List Effect
  | 0, sys => (sys, [])
  | count + 1, sys =>
    match rxSystemStep config sys .checker with
    | some next =>
      ((RxSystem.runChecker config count next.1).1,
        next.2 ++ (RxSystem.runChecker config count next.1).2)
    | none => (sys, [])

theorem RxSystem.runChecker_succ {config : RxConfig} {sys sys' : RxSystem n}
    {effects : List Effect} (count : Nat)
    (step : rxSystemStep config sys .checker = some (sys', effects)) :
    sys.runChecker config (count + 1) =
      ((sys'.runChecker config count).1, effects ++ (sys'.runChecker config count).2) := by
  simp only [RxSystem.runChecker, step]

theorem rxSystemStep_checker (config : RxConfig) (sys : RxSystem n) :
    rxSystemStep config sys .checker =
      (rxCheckerStep config sys.call sys.ring sys.checker).map fun next =>
        ({ sys with
            ring := next.1, checker := next.2.1
            taken := sys.taken ++ rxTaken sys.call sys.ring sys.checker
            handed := sys.handed ++ rxHanded sys.call sys.ring sys.checker }, next.2.2) := rfl

/-- Statements that cannot run stay unrun, so two stretches of statements run one after the
other. -/
theorem RxSystem.runChecker_add (config : RxConfig) (first second : Nat) (sys : RxSystem n) :
    sys.runChecker config (first + second) =
      (((sys.runChecker config first).1.runChecker config second).1,
        (sys.runChecker config first).2 ++
          ((sys.runChecker config first).1.runChecker config second).2) := by
  induction first generalizing sys with
  | zero => simp [RxSystem.runChecker]
  | succ first ih =>
    rw [Nat.add_right_comm]
    cases step : rxSystemStep config sys .checker with
    | some next => simp only [RxSystem.runChecker, step, ih, List.append_assoc]
    | none => cases second <;> simp [RxSystem.runChecker, step]

/-- The statements the driver task runs alone are steps of the run. -/
theorem RxSystemReachable.runChecker {config : RxConfig} {init sys : RxSystem n}
    (reachable : RxSystemReachable config init sys) (count : Nat) :
    RxSystemReachable config init (sys.runChecker config count).1 := by
  induction count generalizing sys with
  | zero => exact reachable
  | succ count ih =>
    rcases step : rxSystemStep config sys .checker with _ | ⟨next, effects⟩
    · simpa only [RxSystem.runChecker, step] using reachable
    · rw [RxSystem.runChecker_succ count step]
      exact ih (reachable.step step)

/-- A schedule of events run from `sys`; `none` when one of them cannot happen. -/
def RxSystem.runSchedule (config : RxConfig) : RxSystem n → List RxEvent → Option (RxSystem n)
  | sys, [] => some sys
  | sys, event :: rest =>
    (rxSystemStep config sys event).bind fun next => next.1.runSchedule config rest

theorem RxSystemReachable.runSchedule {config : RxConfig} {init sys sys' : RxSystem n}
    (reachable : RxSystemReachable config init sys) {events : List RxEvent}
    (run : sys.runSchedule config events = some sys') : RxSystemReachable config init sys' := by
  induction events generalizing sys with
  | nil => exact Option.some.inj run ▸ reachable
  | cons event rest ih =>
    obtain ⟨⟨next, effects⟩, step, rest_run⟩ := Option.bind_eq_some.mp run
    exact ih (reachable.step step) rest_run

/-! ## A pass run alone -/

section Alone

variable (config : RxConfig) (s : RxState n) (call : RxCall) (head : Fin n) (loop : RxLoop)
  (arrivals : List (List UInt8)) (taken : List (List UInt8 × RxOutcome))
  (handed : List HandedBuffer)

/-- The statements from `clearFlags` to the read-back post the slot as `rxRepost` does. -/
theorem runChecker_clearFlags (pxNewBuffer : Nat) :
    (⟨s, call, .pass head loop (.clearFlags pxNewBuffer), arrivals, taken, handed⟩ :
        RxSystem n).runChecker config 3 =
      (⟨(rxRepost config.toConfig head pxNewBuffer s).1, call, .test (advance head) loop, arrivals,
          taken, handed⟩, (rxRepost config.toConfig head pxNewBuffer s).2) := by
  simp only [RxSystem.runChecker, rxSystemStep_checker, rxCheckerStep, Option.map_some', rxTaken,
    rxHanded, List.append_nil, Function.update_same, Function.update_idem, rxRepost]

/-- The statements `endpoint` and `readLength` deliver the frame as `rxDeliver` does. -/
theorem runChecker_endpoint (pxBuffer pxNewBuffer : Nat) :
    (⟨s, call, .pass head loop (.endpoint pxBuffer pxNewBuffer), arrivals, taken, handed⟩ :
        RxSystem n).runChecker config 2 =
      (⟨(rxDeliver config call.pxInterface head pxBuffer pxNewBuffer loop s).1, call,
          .pass head (rxDeliver config call.pxInterface head pxBuffer pxNewBuffer loop s).2.1
            (.clearFlags pxNewBuffer), arrivals, taken, handed⟩,
        (rxDeliver config call.pxInterface head pxBuffer pxNewBuffer loop s).2.2) := by
  simp only [RxSystem.runChecker, rxSystemStep_checker, rxCheckerStep, Option.map_some', rxTaken,
    rxHanded, List.append_nil, Function.update_same, Function.update_idem, rxDeliver]
  rfl

end Alone

/-- A whole pass of the loop at slot `head` at once, as `checkRxPass` runs it, with the frame it
takes. -/
def RxSystem.pass (config : RxConfig) (sys : RxSystem n) (head : Fin n) (loop : RxLoop) :
    RxSystem n :=
  { sys with
    ring := (checkRxPass config sys.call.pxInterface sys.call.allocates head loop sys.ring).1
    checker := .test (advance head)
      (checkRxPass config sys.call.pxInterface sys.call.allocates head loop sys.ring).2.1
    taken := sys.taken ++ [(sys.ring.frameOf (sys.ring.rxBuffers head),
      rxOutcome (xMayAcceptPacket config.filter (sys.ring.frameOf (sys.ring.rxBuffers head)))
        (pxGetNetworkBufferWithDescriptor (sys.call.allocates loop.attempts) sys.ring))] }

/-- Once the filter has read the frame at `head`, the rest of the pass run without interruption is
the pass of the atomic model, with the same effects. -/
theorem rxSystemStep_allocate (config : RxConfig) {sys : RxSystem n} {head : Fin n}
    {loop : RxLoop}
    (at_allocate : sys.checker = .pass head loop (.allocate (sys.ring.rxBuffers head)
      (xMayAcceptPacket config.filter (sys.ring.frameOf (sys.ring.rxBuffers head))))) :
    ∃ sys' effects loop' stage, rxSystemStep config sys .checker = some (sys', effects) ∧
      sys'.checker = .pass head loop' stage ∧ 0 < stage.remaining ∧
      (sys'.runChecker config stage.remaining).1 = sys.pass config head loop ∧
      .readPayload (sys.ring.slotPayload head) 38 ::
          (effects ++ (sys'.runChecker config stage.remaining).2) =
        (checkRxPass config sys.call.pxInterface sys.call.allocates head loop sys.ring).2.2 := by
  obtain ⟨s, call, checker, arrivals, taken, handed⟩ := sys
  dsimp only at at_allocate
  subst at_allocate
  by_cases accept : xMayAcceptPacket config.filter (s.frameOf (s.rxBuffers head)) = true
  · have accept' := accept
    simp only [RxState.frameOf] at accept'
    cases allocated : pxGetNetworkBufferWithDescriptor (call.allocates loop.attempts) s with
    | none =>
      refine ⟨_, _, _, _, by simp only [rxSystemStep_checker, rxCheckerStep, accept, allocated,
        if_true, Option.map_some']; rfl, rfl, ?_, ?_⟩
      · exact Nat.succ_pos _
      simp only [PassStage.remaining, runChecker_clearFlags, RxSystem.pass, checkRxPass, accept',
        allocated, rxTaken, rxHanded, rxOutcome, accept, if_true, Option.isSome_none,
        Bool.false_eq_true, if_false, List.append_nil, RxState.slotPayload, List.singleton_append,
        and_self]
    | some result =>
      obtain ⟨pxNewBuffer, rest⟩ := result
      refine ⟨_, _, _, _, by simp only [rxSystemStep_checker, rxCheckerStep, accept, allocated,
        if_true, Option.map_some']; rfl, rfl, ?_, ?_⟩
      · exact Nat.succ_pos _
      simp only [PassStage.remaining, show 5 = 2 + 3 from rfl, RxSystem.runChecker_add,
        runChecker_endpoint, runChecker_clearFlags, RxSystem.pass, checkRxPass, accept', allocated,
        rxTaken, rxHanded, rxOutcome, accept, if_true, Option.isSome_some, List.append_nil,
        RxState.slotPayload, List.nil_append, List.cons_append, and_self]
  · have refused : xMayAcceptPacket config.filter (s.frameOf (s.rxBuffers head)) = false := by
      simpa using accept
    have refused' := refused
    simp only [RxState.frameOf] at refused'
    refine ⟨_, _, _, _, by simp only [rxSystemStep_checker, rxCheckerStep, refused,
      Bool.false_eq_true, if_false, Option.map_some']; rfl, rfl, ?_, ?_⟩
    · exact Nat.succ_pos _
    simp only [PassStage.remaining, runChecker_clearFlags, RxSystem.pass, checkRxPass, refused',
      rxTaken, rxHanded, rxOutcome, refused, Bool.false_eq_true, if_false, List.append_nil,
      RxState.slotPayload, List.nil_append, List.cons_append, and_self]

/-- What keeps the statements left in a pass apart from the MAC: the slot keeps `NEW` set until its
address word is written, and no other slot's address word names the payload that
`FreeRTOS_MatchingEndpoint` is still to read. -/
def PassStage.Apart (s : RxState n) (head : Fin n) : PassStage → Prop
  | .endpoint pxBuffer _ => rxNew (s.rxSegments head).address = true ∧
      ∀ i, i ≠ head → ((s.rxSegments i).address &&& xemacpsRxbufAddMask) + 2 ≠
        (s.descriptors pxBuffer).pucEthernetBuffer
  | .readLength .. | .clearFlags _ => rxNew (s.rxSegments head).address = true
  | .writeAddress addr => rxNew (s.rxSegments head).address = true ∧ rxNew addr = false
  | _ => True

/-- The address word a pass writes back has `NEW` clear. -/
theorem rxNew_repost (payload : Nat) (last : Prop) [Decidable last] :
    rxNew (if last then payload &&& xemacpsRxbufAddMask ||| xemacpsRxbufWrapMask
      else payload &&& xemacpsRxbufAddMask) = false := by
  split <;>
    simp only [rxNew_eq, Nat.testBit_or, Nat.testBit_and, testBit_rxbufAddMask,
      testBit_rxbufWrapMask] <;>
    simp

/-- Setting `NEW` leaves the buffer bits of an address word alone. -/
theorem or_rxbufNewMask_land (address : Nat) :
    (address ||| xemacpsRxbufNewMask) &&& xemacpsRxbufAddMask = address &&& xemacpsRxbufAddMask :=
  Nat.eq_of_testBit_eq fun i => by
    simp only [Nat.testBit_and, Nat.testBit_or, testBit_rxbufNewMask, testBit_rxbufAddMask]
    rcases Nat.eq_zero_or_pos i with rfl | positive
    · simp
    · simp [Nat.pos_iff_ne_zero.mp positive]

theorem rxStep_receive_eq_some {config : RxConfig} {s s₁ : RxState n} {frame : List UInt8}
    {effects : List Effect} :
    rxStep config s (.receive frame) = some (s₁, effects) ↔
      frame.length ≤ config.dmaRxTxBufferSize ∧ rxNew (s.rxSegments s.rxDmaIndex).address = false ∧
      ∃ next, nextByWrap s.rxDmaIndex (rxWrap (s.rxSegments s.rxDmaIndex).address) = some next ∧
        s₁ = { s with
          memory := Function.update s.memory
            (((s.rxSegments s.rxDmaIndex).address &&& xemacpsRxbufAddMask) + 2) frame
          rxSegments := Function.update s.rxSegments s.rxDmaIndex
            { address := (s.rxSegments s.rxDmaIndex).address ||| xemacpsRxbufNewMask
              flags := frame.length }
          rxDmaIndex := next } ∧ effects = [] := by
  simp only [rxStep, rxDmaReceive]
  by_cases fits : frame.length ≤ config.dmaRxTxBufferSize
  · by_cases stored : rxNew (s.rxSegments s.rxDmaIndex).address = true
    · simp [fits, stored]
    · cases wrap : nextByWrap s.rxDmaIndex (rxWrap (s.rxSegments s.rxDmaIndex).address) with
      | none => simp [fits, stored, wrap]
      | some next =>
        rw [Bool.not_eq_true] at stored
        simp only [fits, stored, wrap, if_true, Bool.false_eq_true, if_false, Option.map_some',
          Option.some.injEq, Prod.mk.injEq, true_and, exists_eq_left']
        exact ⟨fun same => ⟨same.1.symm, same.2.symm⟩, fun same => ⟨same.1.symm, same.2.symm⟩⟩
  · simp [fits]

/-- A frame the MAC stores while a pass is past its allocation could as well be stored after the
statement that comes next: the two touch different slots and different bytes. -/
theorem rxCheckerStep_receive {config : RxConfig} {call : RxCall} {s s₁ : RxState n}
    {head : Fin n} {loop : RxLoop} {stage : PassStage} {frame : List UInt8}
    {effects : List Effect} (later : 0 < stage.remaining) (apart : stage.Apart s head)
    (received : rxStep config s (.receive frame) = some (s₁, effects))
    {next : RxState n × CheckRxPc n × List Effect}
    (step : rxCheckerStep config call s (.pass head loop stage) = some next) :
    ∃ s₃, rxStep config next.1 (.receive frame) = some (s₃, effects) ∧
      rxCheckerStep config call s₁ (.pass head loop stage) = some (s₃, next.2) := by
  obtain ⟨fits, free, index, wrap, rfl, rfl⟩ := rxStep_receive_eq_some.mp received
  have elsewhere : rxNew (s.rxSegments head).address = true → s.rxDmaIndex ≠ head :=
    fun stored same => by rw [same, stored] at free; exact Bool.noConfusion free
  cases stage with
  | filter | allocate _ _ => exact absurd later (Nat.lt_irrefl 0)
  | endpoint pxBuffer pxNewBuffer =>
    simp only [rxCheckerStep, Option.some.injEq] at step
    subst step
    refine ⟨_, rxStep_receive_eq_some.mpr ⟨fits, free, index, wrap, rfl, rfl⟩, ?_⟩
    simp only [rxCheckerStep, Function.update_noteq (apart.2 _ (elsewhere apart.1)).symm]
  | readLength pxBuffer pxNewBuffer =>
    simp only [rxCheckerStep, Option.some.injEq] at step
    subst step
    refine ⟨_, rxStep_receive_eq_some.mpr ⟨fits, free, index, wrap, rfl, rfl⟩, ?_⟩
    simp only [rxCheckerStep, Function.update_noteq (elsewhere apart).symm]
  | clearFlags pxNewBuffer =>
    simp only [rxCheckerStep, Option.some.injEq] at step
    subst step
    refine ⟨_, rxStep_receive_eq_some.mpr
      ⟨fits, by simpa only [Function.update_noteq (elsewhere apart)] using free, index,
        by simpa only [Function.update_noteq (elsewhere apart)] using wrap, rfl, rfl⟩, ?_⟩
    simp only [rxCheckerStep, Function.update_noteq (elsewhere apart),
      Function.update_noteq (elsewhere apart).symm, Function.update_comm (elsewhere apart)]
  | writeAddress addr =>
    simp only [rxCheckerStep, Option.some.injEq] at step
    subst step
    refine ⟨_, rxStep_receive_eq_some.mpr
      ⟨fits, by simpa only [Function.update_noteq (elsewhere apart.1)] using free, index,
        by simpa only [Function.update_noteq (elsewhere apart.1)] using wrap, rfl, rfl⟩, ?_⟩
    simp only [rxCheckerStep, Function.update_noteq (elsewhere apart.1),
      Function.update_noteq (elsewhere apart.1).symm, Function.update_comm (elsewhere apart.1)]
  | readBack =>
    simp only [rxCheckerStep, Option.some.injEq] at step
    subst step
    exact ⟨_, rxStep_receive_eq_some.mpr ⟨fits, free, index, wrap, rfl, rfl⟩, rfl⟩

/-- A buffer the IP task releases during a pass past its allocation could as well be released
after the next statement. -/
theorem rxCheckerStep_stackRelease {config : RxConfig} {call : RxCall} {s s₁ : RxState n}
    {head : Fin n} {loop : RxLoop} {stage : PassStage} {pxDescriptor : Nat}
    {effects : List Effect} (later : 0 < stage.remaining)
    (released : rxStep config s (.stackRelease pxDescriptor) = some (s₁, effects))
    {next : RxState n × CheckRxPc n × List Effect}
    (step : rxCheckerStep config call s (.pass head loop stage) = some next) :
    ∃ s₃, rxStep config next.1 (.stackRelease pxDescriptor) = some (s₃, effects) ∧
      rxCheckerStep config call s₁ (.pass head loop stage) = some (s₃, next.2) := by
  simp only [rxStep] at released
  split_ifs at released with held
  obtain ⟨rfl, rfl⟩ := Prod.mk.inj (Option.some.inj released)
  cases stage with
  | filter | allocate _ _ => exact absurd later (Nat.lt_irrefl 0)
  | endpoint | readLength | clearFlags | writeAddress | readBack =>
    simp only [rxCheckerStep, Option.some.injEq] at step
    subst step
    exact ⟨_, by simp only [rxStep, held, if_true]; rfl, rfl⟩

/-- Each statement after the allocation runs, writes only slot `head` and the pass's buffers, and
stays apart from the MAC; the read-back finds `NEW` clear. -/
theorem rxCheckerStep_later (config : RxConfig) (call : RxCall) {s : RxState n} {head : Fin n}
    (loop : RxLoop) {stage : PassStage} (later : 0 < stage.remaining) (apart : stage.Apart s head) :
    ∃ s' next effects,
      rxCheckerStep config call s (.pass head loop stage) = some (s', next, effects) ∧
      s'.memory = s.memory ∧
      (∀ d, (s'.descriptors d).pucEthernetBuffer = (s.descriptors d).pucEthernetBuffer) ∧
      s'.rxDmaIndex = s.rxDmaIndex ∧ s'.pool = s.pool ∧ s'.stack = s.stack ∧
      (∀ i, i ≠ head → s'.rxSegments i = s.rxSegments i ∧ s'.rxBuffers i = s.rxBuffers i) ∧
      ((stage = .readBack ∧ next = .test (advance head) loop ∧
          s' = { s with rxHead := advance head }) ∨
        ∃ loop' stage', next = .pass head loop' stage' ∧ 0 < stage'.remaining ∧
          stage'.remaining + 1 = stage.remaining ∧ s'.rxHead = s.rxHead ∧ stage'.Apart s' head ∧
          (stage' = .readBack → rxNew (s'.rxSegments head).address = false)) := by
  cases stage with
  | filter | allocate _ _ => exact absurd later (Nat.lt_irrefl 0)
  | endpoint pxBuffer pxNewBuffer =>
    refine ⟨_, _, _, rfl, rfl, fun d => ?_, rfl, rfl, rfl, fun _ _ => ⟨rfl, rfl⟩,
      .inr ⟨_, _, rfl, Nat.succ_pos _, rfl, rfl, apart.1, fun same => by cases same⟩⟩
    by_cases same : d = pxBuffer
    · subst same
      simp
    · simp [Function.update_noteq same]
  | readLength pxBuffer pxNewBuffer =>
    refine ⟨_, _, _, rfl, rfl, fun d => ?_, rfl, rfl, rfl,
      fun _ other => ⟨rfl, Function.update_noteq other _ _⟩,
      .inr ⟨_, _, rfl, Nat.succ_pos _, rfl, rfl, apart, fun same => by cases same⟩⟩
    dsimp only
    split <;> simp only [Function.update_apply] <;> split_ifs <;> simp_all
  | clearFlags pxNewBuffer =>
    refine ⟨_, _, _, rfl, rfl, fun _ => rfl, rfl, rfl, rfl,
      fun _ other => ⟨Function.update_noteq other _ _, rfl⟩,
      .inr ⟨_, _, rfl, Nat.succ_pos _, rfl, rfl, ⟨by simpa using apart, rxNew_repost _ _⟩,
        fun same => by cases same⟩⟩
  | writeAddress addr =>
    exact ⟨_, _, _, rfl, rfl, fun _ => rfl, rfl, rfl, rfl,
      fun _ other => ⟨Function.update_noteq other _ _, rfl⟩,
      .inr ⟨_, _, rfl, Nat.succ_pos _, rfl, rfl, trivial, fun _ => by simpa using apart.2⟩⟩
  | readBack =>
    exact ⟨_, _, _, rfl, rfl, fun _ => rfl, rfl, rfl, rfl, fun _ _ => ⟨rfl, rfl⟩,
      .inl ⟨rfl, rfl, rfl⟩⟩

end EmacPsDma
