import EmacPsDma.Rx.Statements

/-!
# Delivery, one pass at a time

Each pass of the loop of `emacps_check_rx` is one step here, interleaved with the MAC, the IP task
and the test and hand-off of the call.  Every run accounts for every frame: each one stored has
been taken in order or waits in its slot, those delivered are those handed on or in the chain under
way, and no buffer is lost.  The statement model refines this one (`EmacPsDma.Rx.Interleaving`).
-/

namespace EmacPsDma

variable {n : Nat}

/-- The frames of `taken` the loop delivered, in order. -/
def deliveredFrames (taken : List (List UInt8 × RxOutcome)) : List (List UInt8) :=
  taken.filterMap fun entry => if entry.2 = .delivered then some entry.1 else none

@[simp] theorem deliveredFrames_append (first second : List (List UInt8 × RxOutcome)) :
    deliveredFrames (first ++ second) = deliveredFrames first ++ deliveredFrames second :=
  List.filterMap_append _ _ _

@[simp] theorem deliveredFrames_singleton (frame : List UInt8) (outcome : RxOutcome) :
    deliveredFrames [(frame, outcome)] = if outcome = .delivered then [frame] else [] := by
  by_cases delivered : outcome = .delivered <;> simp [deliveredFrames, delivered]

/-- The buffers the call under way has linked. -/
def CheckRxPc.received : CheckRxPc n → List Nat
  | .idle => []
  | .test _ loop | .pass _ loop _ | .handOff loop => loop.received

/-- The chain a call holds in `pxFirstDescriptor`, followed through `pxNextBuffer` for at most
`msgCount + 1` buffers, as `prvPassEthMessages` would walk it. -/
def CheckRxPc.chain (descriptors : Nat → RxDescriptor) : CheckRxPc n → List Nat
  | .idle => []
  | .test _ loop | .pass _ loop _ | .handOff loop =>
    rxChainBuffers descriptors (loop.msgCount + 1) loop.pxFirstDescriptor

/-- The points of a call between two passes. -/
def CheckRxPc.Boundary : CheckRxPc n → Prop
  | .pass .. => False
  | _ => True

/-- The chain of a call between two passes: linked from `pxFirstDescriptor`, each buffer with the
length of its frame and the interface of the call. -/
structure ChainFacts (s : RxState n) (pxInterface : Nat) (loop : RxLoop) : Prop where
  /-- The locals describe the chain. -/
  chain : ChainLoop s.descriptors loop
  /-- Each buffer's `xDataLength` is the length of its frame. -/
  length : ∀ d ∈ loop.received, (s.descriptors d).xDataLength = (s.frameOf d).length
  /-- Each buffer's `pxInterface` is the argument of the call. -/
  interface : ∀ d ∈ loop.received, (s.descriptors d).pxInterface = pxInterface

/-- What holds of the call at a pass boundary. -/
def CallFacts (sys : RxSystem n) : CheckRxPc n → Prop
  | .idle => True
  | .test head loop => head = sys.ring.rxHead ∧ ChainFacts sys.ring sys.call.pxInterface loop
  | .pass .. => False
  | .handOff loop => ChainFacts sys.ring sys.call.pxInterface loop

/-- The system at a pass boundary, with its history. -/
structure Delivery (config : RxConfig) (sys : RxSystem n) : Prop where
  /-- The ring, with the chain of the call counted among the owners. -/
  ring : RxInvariant config.toConfig sys.ring sys.checker.received
  /-- Each frame the MAC stored has been taken, in order, or waits in the stored run. -/
  arrivals : ∃ stored, RxDmaAt config.toConfig sys.ring stored ∧
    sys.arrivals = sys.taken.map Prod.fst ++
      (readRing sys.ring.rxBuffers sys.ring.rxHead stored).map sys.ring.frameOf
  /-- The frames delivered are those handed on, then those of the chain under way. -/
  delivered : sys.handed.map HandedBuffer.frame ++ sys.checker.received.map sys.ring.frameOf =
    deliveredFrames sys.taken
  /-- A frame was refused exactly when the filter refuses it. -/
  refused : ∀ entry ∈ sys.taken,
    entry.2 = .refused ↔ xMayAcceptPacket config.filter entry.1 = false
  /-- Every buffer handed on carries the length of its frame and the interface of its call. -/
  handed : ∀ buffer ∈ sys.handed,
    buffer.xDataLength = buffer.frame.length ∧ buffer.pxInterface = buffer.callInterface
  /-- The call. -/
  call : CallFacts sys sys.checker

/-- The steps of the model in which each pass of the loop is one step. -/
inductive RxPassStep (config : RxConfig) (sys : RxSystem n) : RxSystem n → Prop
  /-- An event of the statement model from a pass boundary to a pass boundary. -/
  | event {event : RxEvent} {sys' : RxSystem n} {effects : List Effect} :
      sys.checker.Boundary → sys'.checker.Boundary →
      rxSystemStep config sys event = some (sys', effects) → RxPassStep config sys sys'
  /-- The pass at a slot with `NEW` set and a buffer, at once. -/
  | pass {head : Fin n} {loop : RxLoop} : sys.checker = .test head loop →
      rxNew (sys.ring.rxSegments head).address = true → sys.ring.rxBuffers head ≠ 0 →
      RxPassStep config sys (sys.pass config head loop)

/-- The buffers of the pool, the ring, the IP task and the chain of the call under way. -/
def RxSystem.owned (sys : RxSystem n) : List Nat := ownedBuffers sys.ring sys.checker.received

/-! ## Buffers and their frames -/

/-- A buffer of the chain never shares its payload with a slot. -/
theorem RxInvariant.linked_payload_ne {config : Config} {s : RxState n} {linked : List Nat}
    (invariant : RxInvariant config s linked) {d : Nat} (member : d ∈ linked) (i : Fin n) :
    (s.descriptors d).pucEthernetBuffer ≠ s.slotPayload i := fun same => by
  have in_ring : s.rxBuffers i ∈ s.pool ++ readRing s.rxBuffers s.rxHead n ++ s.stack := by
    simp [mem_readRing]
  refine List.disjoint_of_nodup_append invariant.owned.nodup in_ring ?_
  rwa [← invariant.owned.separate d (by simp [ownedBuffers, member]) _
    (by simp [ownedBuffers, mem_readRing]) same]

/-- `rx_bytes` is the length the MAC stored for a frame that fits a buffer. -/
theorem rxBytes_of_le {config : Config} {length : Nat} (fits : length ≤ config.dmaRxTxBufferSize) :
    rxBytes config length = length := by
  unfold rxBytes Config.dmaRxTxBufferSize at *
  split at fits
  · rw [if_pos ‹_›, show xemacpsRxbufLenJumboMask = 2 ^ 14 - 1 from rfl]
    exact Nat.and_pow_two_sub_one_of_lt_two_pow (by omega)
  · rw [if_neg ‹_›, show xemacpsRxbufLenMask = 2 ^ 13 - 1 from rfl]
    exact Nat.and_pow_two_sub_one_of_lt_two_pow (by omega)

/-- Following the links of a chain with a pass to spare visits its buffers. -/
theorem rxChainBuffers_eq {descriptors : Nat → RxDescriptor} {first : Nat} {chain : List Nat}
    (linked : RxChain descriptors first chain) {fuel : Nat} (enough : chain.length < fuel) :
    rxChainBuffers descriptors fuel first = chain := by
  induction linked generalizing fuel with
  | nil => cases fuel <;> rfl
  | @cons d rest nonzero _ ih =>
    obtain ⟨fuel, rfl⟩ : ∃ fuel', fuel = fuel' + 1 := ⟨fuel - 1, by simp at enough; omega⟩
    simp only [rxChainBuffers, nonzero, if_false, ih (by simpa using enough)]

/-- The locals count the chain, so the walks of `prvPassEthMessages` have a pass to spare. -/
theorem ChainLoop.length_lt {descriptors : Nat → RxDescriptor} {loop : RxLoop}
    (chained : ChainLoop descriptors loop) : loop.received.length < loop.msgCount + 1 := by
  rw [chained.count]
  exact Nat.lt_succ_self _

/-- Walking from `pxFirstDescriptor` for `msgCount + 1` buffers visits the chain the locals describe. -/
theorem ChainLoop.rxChainBuffers_received {descriptors : Nat → RxDescriptor} {loop : RxLoop}
    (chained : ChainLoop descriptors loop) :
    rxChainBuffers descriptors (loop.msgCount + 1) loop.pxFirstDescriptor = loop.received :=
  rxChainBuffers_eq chained.chain chained.length_lt

/-- The facts about a call carry over to a system with the same `rxHead`, descriptors and call, in
which the frames of the chain are unchanged. -/
theorem CallFacts.transfer {sys sys' : RxSystem n} {pc : CheckRxPc n} (facts : CallFacts sys pc)
    (head : sys'.ring.rxHead = sys.ring.rxHead)
    (descriptors : sys'.ring.descriptors = sys.ring.descriptors) (call : sys'.call = sys.call)
    (frames : ∀ d ∈ pc.received, sys'.ring.frameOf d = sys.ring.frameOf d) : CallFacts sys' pc := by
  have chain : ∀ loop, pc.received = loop.received → ChainFacts sys.ring sys.call.pxInterface loop →
      ChainFacts sys'.ring sys'.call.pxInterface loop :=
    fun loop same facts =>
      ⟨descriptors ▸ facts.chain,
        fun d member => by rw [descriptors, frames d (same ▸ member)]; exact facts.length d member,
        fun d member => by rw [descriptors, call]; exact facts.interface d member⟩
  cases pc with
  | idle => trivial
  | test _ loop => exact ⟨facts.1.trans head.symm, chain loop rfl facts.2⟩
  | pass => exact facts.elim
  | handOff loop => exact chain loop rfl facts

/-- Between two passes the chain in `pxFirstDescriptor` is the one the call has linked. -/
theorem Delivery.chain_eq {config : RxConfig} {sys : RxSystem n} (delivery : Delivery config sys)
    (between : sys.checker.Boundary) : sys.checker.chain sys.ring.descriptors = sys.checker.received := by
  have call := delivery.call
  cases at_pc : sys.checker with
  | idle => rfl
  | test _ loop => rw [at_pc] at call; exact call.2.chain.rxChainBuffers_received
  | pass => rw [at_pc] at between; exact between.elim
  | handOff loop => rw [at_pc] at call; exact call.chain.rxChainBuffers_received

/-! ## A pass -/

/-- Delivering writes the length the MAC stored and the interface of the call into the received
buffer, and leaves those fields of every other buffer alone. -/
theorem rxDeliver_fields (config : RxConfig) (pxInterface : Nat) (head : Fin n)
    (pxBuffer pxNewBuffer : Nat) (loop : RxLoop) (s : RxState n) (d : Nat) :
    ((rxDeliver config pxInterface head pxBuffer pxNewBuffer loop s).1.descriptors d).xDataLength =
      (if d = pxBuffer then rxBytes config.toConfig (s.rxSegments head).flags
        else (s.descriptors d).xDataLength) ∧
    ((rxDeliver config pxInterface head pxBuffer pxNewBuffer loop s).1.descriptors d).pxInterface =
      (if d = pxBuffer then pxInterface else (s.descriptors d).pxInterface) := by
  unfold rxDeliver
  dsimp only
  split
  · -- linking the buffer after the last one of the chain changes only its pxNextBuffer
    by_cases last : d = loop.pxLastDescriptor
    · subst last
      simp only [Function.update_same, Function.update_apply]
      split <;> exact ⟨rfl, rfl⟩
    · simp only [Function.update_noteq last, Function.update_apply]
      split <;> exact ⟨rfl, rfl⟩
  · simp only [Function.update_apply]
    split <;> exact ⟨rfl, rfl⟩

/-- A pass replaces the buffer of its slot exactly when it delivers the frame. -/
theorem checkRxPass_replaces_iff {config : RxConfig} {pxInterface : Nat} {allocates : Nat → Bool}
    {head : Fin n} {loop : RxLoop} {s : RxState n}
    (fresh : ∀ pxNewBuffer rest, s.pool = pxNewBuffer :: rest → pxNewBuffer ≠ s.rxBuffers head) :
    (checkRxPass config pxInterface allocates head loop s).1.rxBuffers head ≠ s.rxBuffers head ↔
      rxOutcome (xMayAcceptPacket config.filter (s.frameOf (s.rxBuffers head)))
        (pxGetNetworkBufferWithDescriptor (allocates loop.attempts) s) = .delivered := by
  cases accept : xMayAcceptPacket config.filter (s.frameOf (s.rxBuffers head)) with
  | false =>
    simp only [RxState.frameOf] at accept
    simp [checkRxPass, rxOutcome, accept]
  | true =>
    have accept' := accept
    simp only [RxState.frameOf] at accept'
    cases allocated : pxGetNetworkBufferWithDescriptor (allocates loop.attempts) s with
    | none => simp [checkRxPass, rxOutcome, accept', allocated]
    | some result =>
      obtain ⟨pxNewBuffer, rest⟩ := result
      obtain ⟨-, rest', pool, rfl⟩ := pxGetNetworkBufferWithDescriptor_eq_some.mp allocated
      simp [checkRxPass, rxOutcome, accept', allocated, fresh pxNewBuffer rest' pool]

/-- A pass keeps the facts about the chain: a buffer it links carries the length the MAC stored
for its frame and the interface of the call. -/
theorem checkRxPass_chainFacts {config : RxConfig} {pxInterface : Nat} {allocates : Nat → Bool}
    {s : RxState n} {loop : RxLoop} {stored : Nat}
    (invariant : RxInvariant config.toConfig s loop.received)
    (dma : RxDmaAt config.toConfig s (stored + 1)) (facts : ChainFacts s pxInterface loop) :
    ChainFacts (checkRxPass config pxInterface allocates s.rxHead loop s).1 pxInterface
      (checkRxPass config pxInterface allocates s.rxHead loop s).2.1 := by
  obtain ⟨-, -, -, chained, -, -, memory, -, payload, -, -⟩ := checkRxPass_spec invariant dma
    facts.chain (rfl : checkRxPass config pxInterface allocates s.rxHead loop s = _)
  have frames : ∀ d, (checkRxPass config pxInterface allocates s.rxHead loop s).1.frameOf d =
      s.frameOf d := fun d => by simp only [RxState.frameOf, memory, payload]
  have fields : ∀ d ∈ (checkRxPass config pxInterface allocates s.rxHead loop s).2.1.received,
      ((checkRxPass config pxInterface allocates s.rxHead loop s).1.descriptors d).xDataLength =
        (s.frameOf d).length ∧
      ((checkRxPass config pxInterface allocates s.rxHead loop s).1.descriptors d).pxInterface =
        pxInterface := by
    rcases checkRxPass_cases (rfl : checkRxPass config pxInterface allocates s.rxHead loop s = _)
      with ⟨state, attempts, locals⟩ | ⟨pxNewBuffer, rest, pool, accept, state, locals⟩
    · rw [state, locals]
      exact fun d member => ⟨facts.length d member, facts.interface d member⟩
    · rw [state, locals]
      intro d member
      simp only [rxRepost_descriptors, rxDeliver_received, List.mem_append,
        List.mem_singleton] at member ⊢
      rw [(rxDeliver_fields _ _ _ _ _ _ _ d).1, (rxDeliver_fields _ _ _ _ _ _ _ d).2]
      rcases member with old | rfl
      · have other : d ≠ s.rxBuffers s.rxHead := fun same =>
          invariant.linked_payload_ne old s.rxHead (by rw [same]; rfl)
        rw [if_neg other, if_neg other]
        exact ⟨facts.length d old, facts.interface d old⟩
      · have inside : InWindow s.rxHead (stored + 1) s.rxHead := by
          rw [InWindow, offsetFrom_self]
          exact Nat.succ_pos _
        rw [if_pos rfl, if_pos rfl]
        refine ⟨?_, rfl⟩
        show rxBytes config.toConfig (s.rxSegments s.rxHead).flags = _
        rw [dma.flags, if_pos inside]
        exact rxBytes_of_le (dma.fits _ inside)
  exact ⟨chained, fun d member => (frames d).symm ▸ (fields d member).1,
    fun d member => (fields d member).2⟩

/-! ## The MAC, the IP task and the ends of a call

Each step keeps the history accounted for and moves buffers between owners, losing none. -/

section Steps

variable {config : RxConfig} {sys sys' : RxSystem n} {effects : List Effect}

/-- A frame the MAC stores joins the end of the stored run and leaves every other frame alone. -/
theorem Delivery.receive {frame : List UInt8} (delivery : Delivery config sys)
    (step : rxSystemStep config sys (.receive frame) = some (sys', effects)) :
    Delivery config sys' ∧ sys'.owned.Perm sys.owned := by
  obtain ⟨⟨ring, effects'⟩, received, same⟩ := Option.map_eq_some'.mp step
  obtain ⟨rfl, rfl⟩ := Prod.mk.inj same
  have fits := (rxStep_receive_eq_some.mp received).1
  have stored_frame : rxDmaReceive frame sys.ring = some ring := by
    simp only [rxStep, fits, if_true, Option.map_eq_some', Prod.mk.injEq] at received
    obtain ⟨_, stored_frame, rfl, -⟩ := received
    exact stored_frame
  obtain ⟨stored, dma, arrivals⟩ := delivery.arrivals
  have room : stored < n := Nat.lt_of_le_of_ne dma.stored_le fun full => by
    rw [rxDmaReceive_full delivery.ring (full ▸ dma)] at stored_frame
    exact Option.noConfusion stored_frame
  rw [rxDmaReceive_eq delivery.ring dma room, Option.some.injEq] at stored_frame
  subst stored_frame
  obtain ⟨invariant, dma'⟩ := rxDmaReceive_invariant delivery.ring dma room fits
  have kept : ∀ d, (sys.ring.descriptors d).pucEthernetBuffer ≠
      sys.ring.slotPayload (slotAt sys.ring.rxHead stored) →
      Function.update sys.ring.memory (sys.ring.slotPayload (slotAt sys.ring.rxHead stored)) frame
        (sys.ring.descriptors d).pucEthernetBuffer = sys.ring.frameOf d :=
    fun d other => Function.update_noteq other _ _
  have chain_kept : ∀ d ∈ sys.checker.received,
      Function.update sys.ring.memory (sys.ring.slotPayload (slotAt sys.ring.rxHead stored)) frame
        (sys.ring.descriptors d).pucEthernetBuffer = sys.ring.frameOf d :=
    fun d member => kept d (delivery.ring.linked_payload_ne member _)
  have chain_frames : sys.checker.received.map (fun d =>
      Function.update sys.ring.memory (sys.ring.slotPayload (slotAt sys.ring.rxHead stored)) frame
        (sys.ring.descriptors d).pucEthernetBuffer) = sys.checker.received.map sys.ring.frameOf :=
    List.map_congr_left chain_kept
  refine ⟨⟨invariant, ⟨stored + 1, dma', ?_⟩, ?_, delivery.refused, delivery.handed, ?_⟩,
    List.Perm.refl _⟩
  · have window : ∀ i, InWindow sys.ring.rxHead stored i →
        Function.update sys.ring.memory (sys.ring.slotPayload (slotAt sys.ring.rxHead stored)) frame
          (sys.ring.slotPayload i) = sys.ring.frameOf (sys.ring.rxBuffers i) := fun i inside =>
      kept _ fun same => by
        rw [delivery.ring.payload_injective same, InWindow, offsetFrom_slotAt _ room] at inside
        exact Nat.lt_irrefl _ inside
    show sys.arrivals ++ [frame] = _
    rw [arrivals, readRing_succ, List.map_append, List.map_singleton, List.append_assoc]
    congr 2
    · rw [map_readRing, map_readRing]
      exact readRing_congr (fun i inside => (window i inside).symm) dma.stored_le
    · simp [RxState.frameOf, RxState.slotPayload]
  · rw [← delivery.delivered]
    exact congrArg _ chain_frames
  · exact delivery.call.transfer rfl rfl rfl chain_kept

/-- A buffer the IP task releases goes back to the pool; no frame moves. -/
theorem Delivery.stackRelease {pxDescriptor : Nat} (delivery : Delivery config sys)
    (step : rxSystemStep config sys (.stackRelease pxDescriptor) = some (sys', effects)) :
    Delivery config sys' ∧ sys'.owned.Perm sys.owned := by
  obtain ⟨⟨ring, effects'⟩, released, same⟩ := Option.map_eq_some'.mp step
  obtain ⟨rfl, rfl⟩ := Prod.mk.inj same
  simp only [rxStep] at released
  split_ifs at released with held
  obtain ⟨rfl, rfl⟩ := Prod.mk.inj (Option.some.inj released)
  obtain ⟨stored, dma, arrivals⟩ := delivery.arrivals
  exact ⟨⟨(stackRelease_invariant delivery.ring held).1,
    ⟨stored, dma.with_owners _ _, arrivals⟩, delivery.delivered, delivery.refused,
    delivery.handed, delivery.call.transfer rfl rfl rfl fun _ _ => rfl⟩,
    (stackRelease_invariant delivery.ring held).2⟩

/-- A call starts at `rxHead` with an empty chain. -/
theorem Delivery.checkRx {call : RxCall} (delivery : Delivery config sys)
    (step : rxSystemStep config sys (.checkRx call) = some (sys', effects)) :
    Delivery config sys' ∧ sys'.owned.Perm sys.owned := by
  obtain ⟨s, call₀, checker, arrivals, taken, handed⟩ := sys
  cases checker with
  | idle =>
    simp only [rxSystemStep, Option.some.injEq, Prod.mk.injEq] at step
    obtain ⟨rfl, rfl⟩ := step
    exact ⟨⟨delivery.ring, delivery.arrivals, delivery.delivered, delivery.refused,
      delivery.handed, rfl, ⟨.nil, rfl, rfl⟩, fun _ member => absurd member (List.not_mem_nil _),
      fun _ member => absurd member (List.not_mem_nil _)⟩, List.Perm.refl _⟩
  | test | pass | handOff => simp [rxSystemStep] at step

/-- The hand-off passes the chain to the IP task, or back to the pool when the enqueue fails, and
records its buffers as they stand. -/
theorem Delivery.handOff {loop : RxLoop} (delivery : Delivery config sys)
    (at_handOff : sys.checker = .handOff loop)
    (step : rxSystemStep config sys .checker = some (sys', effects)) :
    Delivery config sys' ∧ sys'.owned.Perm sys.owned := by
  obtain ⟨s, call, checker, arrivals, taken, handed⟩ := sys
  dsimp only at at_handOff
  subst at_handOff
  have facts : ChainFacts s call.pxInterface loop := delivery.call
  obtain ⟨stored, dma, arrived⟩ := delivery.arrivals
  by_cases empty : loop.pxFirstDescriptor = 0
  · have none_linked : loop.received = [] := facts.chain.chain.eq_zero_iff.mp empty
    have unlinked : rxHanded call s (.handOff loop) = [] := by
      simp [rxHanded, rxChainBuffers, empty]
    simp only [rxSystemStep_checker, rxCheckerStep, empty, if_true, Option.map_some',
      Option.some.injEq, Prod.mk.injEq, rxTaken, unlinked, List.append_nil] at step
    obtain ⟨rfl, rfl⟩ := step
    refine ⟨⟨?_, ⟨stored, dma, arrived⟩, ?_, delivery.refused, delivery.handed, trivial⟩, ?_⟩
    · simpa only [CheckRxPc.received, none_linked] using delivery.ring
    · simpa [CheckRxPc.received, none_linked] using delivery.delivered
    · simp only [RxSystem.owned, CheckRxPc.received, none_linked, List.Perm.refl]
  · have nonempty := mt facts.chain.chain.eq_zero_iff.mpr empty
    have chain := facts.chain.rxChainBuffers_received
    have recorded : ∀ buffer ∈ rxHanded call s (.handOff loop),
        buffer.xDataLength = buffer.frame.length ∧ buffer.pxInterface = buffer.callInterface := by
      simp only [rxHanded, chain, List.mem_map]
      rintro _ ⟨d, member, rfl⟩
      exact ⟨facts.length d member, facts.interface d member⟩
    have frames : (rxHanded call s (.handOff loop)).map HandedBuffer.frame =
        loop.received.map s.frameOf := by
      simp only [rxHanded, chain, List.map_map]
      rfl
    have untaken : rxTaken call s (.handOff loop) = [] := rfl
    have delivered : (handed ++ rxHanded call s (.handOff loop)).map HandedBuffer.frame ++ [] =
        deliveredFrames taken := by
      have before := delivery.delivered
      simp only [CheckRxPc.received] at before
      rw [List.map_append, frames, List.append_nil, before]
    have handed' : ∀ buffer ∈ handed ++ rxHanded call s (.handOff loop),
        buffer.xDataLength = buffer.frame.length ∧ buffer.pxInterface = buffer.callInterface :=
      List.forall_mem_append.mpr ⟨delivery.handed, recorded⟩
    cases enqueued : call.enqueued
    · have released := releaseChain_eq facts.chain.chain nonempty s rfl facts.chain.length_lt.le
      simp only [rxSystemStep_checker, rxCheckerStep, empty, if_false, prvPassEthMessages,
        enqueued, released, Bool.false_eq_true, Option.map_some', Option.some.injEq,
        Prod.mk.injEq, untaken, List.append_nil] at step
      obtain ⟨rfl, rfl⟩ := step
      exact ⟨⟨delivery.ring.release.1, ⟨stored, dma.with_owners _ _, arrived⟩, delivered,
        delivery.refused, handed', trivial⟩, delivery.ring.release.2⟩
    · simp only [rxSystemStep_checker, rxCheckerStep, empty, if_false, prvPassEthMessages,
        enqueued, if_true, Option.map_some', Option.some.injEq, Prod.mk.injEq, untaken,
        List.append_nil] at step
      obtain ⟨rfl, rfl⟩ := step
      exact ⟨⟨delivery.ring.handOff.1, ⟨stored, dma.with_owners _ _, arrived⟩, delivered,
        delivery.refused, handed', trivial⟩, .of_eq delivery.ring.handOff.2⟩

/-- A pass takes the frame at `rxHead`: the stored run loses its first frame, which joins the
frames taken with what became of it, and joins the chain when it was delivered. -/
theorem Delivery.pass {head : Fin n} {loop : RxLoop} (delivery : Delivery config sys)
    (at_test : sys.checker = .test head loop)
    (stored_frame : rxNew (sys.ring.rxSegments head).address = true) :
    Delivery config (sys.pass config head loop) ∧ (sys.pass config head loop).owned.Perm sys.owned := by
  obtain ⟨s, call, checker, arrivals, taken, handed⟩ := sys
  dsimp only at at_test stored_frame
  subst at_test
  obtain ⟨rfl, facts⟩ : head = s.rxHead ∧ ChainFacts s call.pxInterface loop := delivery.call
  obtain ⟨stored, dma, arrived⟩ := delivery.arrivals
  dsimp only at arrived
  have inside : InWindow s.rxHead stored s.rxHead := by
    simpa [dma.rxNew_address delivery.ring.buffer_valid] using stored_frame
  obtain ⟨stored, rfl⟩ : ∃ rest, stored = rest + 1 :=
    ⟨stored - 1, by rw [InWindow, offsetFrom_self] at inside; omega⟩
  have run : checkRxPass config call.pxInterface call.allocates s.rxHead loop s = _ := rfl
  obtain ⟨perm, invariant, dma', -, head', -, memory, others, payload, received, -⟩ :=
    checkRxPass_spec delivery.ring dma facts.chain run
  have frames : ∀ d,
      (checkRxPass config call.pxInterface call.allocates s.rxHead loop s).1.frameOf d =
        s.frameOf d := fun d => by simp only [RxState.frameOf, memory, payload]
  have fresh : ∀ pxNewBuffer rest, s.pool = pxNewBuffer :: rest →
      pxNewBuffer ≠ s.rxBuffers s.rxHead := fun pxNewBuffer rest pool same => by
    have disjoint := List.disjoint_of_nodup_append
      ((List.nodup_append.mp (List.nodup_append.mp delivery.ring.owned.nodup).1).1)
    exact disjoint (by simp [pool] : pxNewBuffer ∈ s.pool) (by rw [same]; exact mem_readRing _ _ _)
  have replaced : (checkRxPass config call.pxInterface call.allocates s.rxHead loop s).1.rxBuffers
      s.rxHead ≠ s.rxBuffers s.rxHead ↔
      rxOutcome (xMayAcceptPacket config.filter (s.frameOf (s.rxBuffers s.rxHead)))
        (pxGetNetworkBufferWithDescriptor (call.allocates loop.attempts) s) = .delivered :=
    checkRxPass_replaces_iff fresh
  unfold RxSystem.pass
  dsimp only
  refine ⟨⟨invariant, ⟨stored, dma', ?_⟩, ?_, ?_, delivery.handed, head'.symm,
    checkRxPass_chainFacts delivery.ring dma facts⟩, perm⟩
  · have window : ∀ i, InWindow (advance s.rxHead) stored i → i ≠ s.rxHead := fun i later =>
      ((inWindow_advance dma.stored_le).mp (by simpa using later)).2
    dsimp only
    rw [arrived, readRing_succ_left, head', List.map_cons, List.map_append, List.map_singleton,
      List.append_assoc, List.singleton_append, map_readRing, map_readRing]
    congr 2
    exact readRing_congr (fun i later => by
      simp only [Function.comp_apply, (others i (window i later)), frames])
      (Nat.le_of_succ_le dma.stored_le)
  · have before := delivery.delivered
    dsimp only [CheckRxPc.received] at before ⊢
    rw [received, List.map_append, ← List.append_assoc, List.map_congr_left fun d _ => frames d,
      before, deliveredFrames_append, deliveredFrames_singleton, List.append_cancel_left_eq]
    by_cases kept : (checkRxPass config call.pxInterface call.allocates s.rxHead loop s).1.rxBuffers
      s.rxHead = s.rxBuffers s.rxHead
    · rw [if_pos kept, if_neg (mt replaced.mpr (not_not.mpr kept)), List.map_nil]
    · rw [if_neg kept, if_pos (replaced.mp kept), List.map_singleton, frames]
  · refine List.forall_mem_append.mpr ⟨delivery.refused, List.forall_mem_singleton.mpr ?_⟩
    unfold rxOutcome
    cases xMayAcceptPacket config.filter (s.frameOf (s.rxBuffers s.rxHead))
    · simp
    · rw [if_pos rfl]
      split <;> simp

/-- A test that finds no frame or no buffer at its slot ends the loop; nothing moves. -/
theorem Delivery.test {head : Fin n} {loop : RxLoop} (delivery : Delivery config sys)
    (at_test : sys.checker = .test head loop)
    (step : rxSystemStep config sys .checker = some (sys', effects))
    (boundary : sys'.checker.Boundary) : Delivery config sys' ∧ sys'.owned.Perm sys.owned := by
  obtain ⟨s, call, checker, arrivals, taken, handed⟩ := sys
  dsimp only at at_test
  subst at_test
  have untouched : rxTaken call s (.test head loop) = [] ∧ rxHanded call s (.test head loop) = [] :=
    ⟨rfl, rfl⟩
  simp only [rxSystemStep_checker, rxCheckerStep, untouched, List.append_nil] at step
  split_ifs at step
  · obtain ⟨rfl, rfl⟩ := Prod.mk.inj (Option.some.inj step)
    exact ⟨⟨delivery.ring, delivery.arrivals, delivery.delivered, delivery.refused,
      delivery.handed, delivery.call.2⟩, List.Perm.refl _⟩
  · obtain ⟨rfl, rfl⟩ := Prod.mk.inj (Option.some.inj step)
    exact boundary.elim

/-- Every step of the model keeps the history accounted for and loses no buffer. -/
theorem RxPassStep.delivery (delivery : Delivery config sys) (step : RxPassStep config sys sys') :
    Delivery config sys' ∧ sys'.owned.Perm sys.owned := by
  cases step with
  | @event event _ _ before after step =>
    cases event with
    | receive => exact delivery.receive step
    | stackRelease => exact delivery.stackRelease step
    | checkRx => exact delivery.checkRx step
    | checker =>
      cases at_pc : sys.checker with
      | idle => simp [rxSystemStep_checker, rxCheckerStep, at_pc] at step
      | test => exact delivery.test at_pc step after
      | pass => exact absurd before (by rw [at_pc]; exact id)
      | handOff => exact delivery.handOff at_pc step
  | pass at_test stored_frame => exact delivery.pass at_test stored_frame

end Steps

/-- The system `init_dma` leaves, with no history, is accounted for. -/
theorem Delivery.start {config : RxConfig} {init : RxState n}
    (invariant : RxInvariant config.toConfig init []) (dma : RxDmaAt config.toConfig init 0) :
    Delivery config (RxSystem.start init) :=
  ⟨invariant, ⟨0, dma, rfl⟩, rfl, fun _ member => absurd member (List.not_mem_nil _),
    fun _ member => absurd member (List.not_mem_nil _), trivial⟩

/-- The systems reached by finitely many steps of the model from `init`. -/
inductive RxPassReachable (config : RxConfig) (init : RxSystem n) : RxSystem n → Prop
  | init : RxPassReachable config init init
  | step {sys sys' : RxSystem n} : RxPassReachable config init sys → RxPassStep config sys sys' →
      RxPassReachable config init sys'

/-- Every system the model reaches from a successful `init_dma` is accounted for, and its owners
hold the buffers `init` started with. -/
theorem RxPassReachable.delivery {config : RxConfig} {init : RxState n}
    (invariant : RxInvariant config.toConfig init []) (dma : RxDmaAt config.toConfig init 0)
    {sys : RxSystem n} (reachable : RxPassReachable config (RxSystem.start init) sys) :
    Delivery config sys ∧ sys.owned.Perm (ownedBuffers init []) := by
  induction reachable with
  | init => exact ⟨Delivery.start invariant dma, List.Perm.refl _⟩
  | step _ step ih =>
    obtain ⟨delivery, moved⟩ := step.delivery ih.1
    exact ⟨delivery, moved.trans ih.2⟩

end EmacPsDma
