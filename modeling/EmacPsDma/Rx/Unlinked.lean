import EmacPsDma.Rx.Run

/-!
# `emacps_check_rx` without `ipconfigUSE_LINKED_RX_MESSAGES`

Without linked messages each accepted buffer goes to the IP task in its own event, and is released
alone when the queue is full.  When every enqueue succeeds the two builds agree up to the links and
the shape of the hand-off, over single calls and whole runs; whatever the enqueues do, an unlinked
pass is a linked pass from an empty chain plus its hand-off, so the ring invariant carries over.
-/

namespace EmacPsDma

variable {n : Nat}

/-! ## The build -/

/-- The locals of `emacps_check_rx` without `ipconfigUSE_LINKED_RX_MESSAGES` carried from one pass
of its loop to the next, with the number of allocations tried so far. -/
structure RxLoopUnlinked where
  /-- `msgCount`, which is also the number of buffers passed to the IP task so far. -/
  msgCount : Nat
  /-- The calls of `pxGetNetworkBufferWithDescriptor` so far. -/
  attempts : Nat

/-- An accepted frame in `pxBuffer` with the replacement `pxNewBuffer`: the buffer records the
interface, its endpoint and the length the MAC stored, the table takes `pxNewBuffer`, and the
payload is invalidated when cached. -/
def rxDeliverUnlinked (config : RxConfig) (pxInterface : Nat) (head : Fin n)
    (pxBuffer pxNewBuffer : Nat) (s : RxState n) : RxState n × List Effect :=
  let buffer := s.descriptors pxBuffer
  let rx_bytes := rxBytes config.toConfig (s.rxSegments head).flags
  ({ s with
      descriptors := Function.update s.descriptors pxBuffer
        { buffer with
          pxInterface := pxInterface
          pxEndPoint := config.freeRtosMatchingEndpoint pxInterface (s.memory buffer.pucEthernetBuffer)
          xDataLength := rx_bytes }
      rxBuffers := Function.update s.rxBuffers head pxNewBuffer },
    if config.ucIsCachedMemory buffer.pucEthernetBuffer then
      [.invalidateRange (buffer.pucEthernetBuffer - 2) rx_bytes] else [])

section DeliverUnlinked

variable (config : RxConfig) (pxInterface : Nat) (head : Fin n) (pxBuffer pxNewBuffer : Nat)
  (s : RxState n)

@[simp] theorem rxDeliverUnlinked_rxSegments :
    (rxDeliverUnlinked config pxInterface head pxBuffer pxNewBuffer s).1.rxSegments =
      s.rxSegments := rfl

@[simp] theorem rxDeliverUnlinked_rxBuffers :
    (rxDeliverUnlinked config pxInterface head pxBuffer pxNewBuffer s).1.rxBuffers =
      Function.update s.rxBuffers head pxNewBuffer := rfl

@[simp] theorem rxDeliverUnlinked_pool :
    (rxDeliverUnlinked config pxInterface head pxBuffer pxNewBuffer s).1.pool = s.pool := rfl

@[simp] theorem rxDeliverUnlinked_stack :
    (rxDeliverUnlinked config pxInterface head pxBuffer pxNewBuffer s).1.stack = s.stack := rfl

@[simp] theorem rxDeliverUnlinked_payload (d : Nat) :
    ((rxDeliverUnlinked config pxInterface head pxBuffer pxNewBuffer s).1.descriptors
      d).pucEthernetBuffer = (s.descriptors d).pucEthernetBuffer := by
  by_cases at_buffer : d = pxBuffer
  · subst at_buffer
    simp [rxDeliverUnlinked]
  · simp [rxDeliverUnlinked, Function.update_noteq at_buffer]

end DeliverUnlinked

/-- `prvPassEthMessages` without `ipconfigUSE_LINKED_RX_MESSAGES`: the buffer goes to the IP task,
which holds it from then on, or, when `xSendEventStructToIPTask` fails (`enqueued` false), it is
released. -/
def prvPassEthMessagesUnlinked (enqueued : Bool) (pxDescriptor : Nat) (s : RxState n) :
    RxState n × List Effect :=
  if enqueued then ({ s with stack := s.stack ++ [pxDescriptor] }, [.sendRxEvent pxDescriptor true])
  else (vReleaseNetworkBufferAndDescriptor pxDescriptor s,
    [.sendRxEvent pxDescriptor false, .release pxDescriptor,
      .log "prvPassEthMessages: Can not queue return packet!\n"])

/-- One pass of the loop at slot `head`, whose `NEW` bit is set; `allocates` and `enqueued` tell
whether the allocation and the enqueue of each number succeed. -/
def checkRxPassUnlinked (config : RxConfig) (pxInterface : Nat) (allocates enqueued : Nat → Bool)
    (head : Fin n) (loop : RxLoopUnlinked) (s : RxState n) :
    RxState n × RxLoopUnlinked × List Effect :=
  let pxBuffer := s.rxBuffers head
  let payload := (s.descriptors pxBuffer).pucEthernetBuffer
  let filtered := Effect.readPayload payload 38
  if xMayAcceptPacket config.filter (s.memory payload) then
    match pxGetNetworkBufferWithDescriptor (allocates loop.attempts) s with
    | some (pxNewBuffer, allocated) =>
      let delivered := rxDeliverUnlinked config pxInterface head pxBuffer pxNewBuffer allocated
      let passed := prvPassEthMessagesUnlinked (enqueued loop.msgCount) pxBuffer delivered.1
      let reposted := rxRepost config.toConfig head pxNewBuffer passed.1
      (reposted.1, ⟨loop.msgCount + 1, loop.attempts + 1⟩,
        filtered :: delivered.2 ++ passed.2 ++ reposted.2)
    | none =>
      let reposted := rxRepost config.toConfig head pxBuffer s
      (reposted.1, { loop with attempts := loop.attempts + 1 },
        filtered :: .log "emacps_check_rx: unable to allocate a Network Buffer\n" :: reposted.2)
  else
    let reposted := rxRepost config.toConfig head pxBuffer s
    (reposted.1, loop, filtered :: reposted.2)

/-- The `for( ; ; )` loop from slot `head`; `none` when `fuel` passes run out before the
`break`. -/
def checkRxLoopUnlinked (config : RxConfig) (pxInterface : Nat) (allocates enqueued : Nat → Bool) :
    Nat → Fin n → RxLoopUnlinked → RxState n → Option (RxState n × RxLoopUnlinked × List Effect)
  | 0, _, _, _ => none
  | fuel + 1, head, loop, s =>
    if rxNew (s.rxSegments head).address = false ∨ s.rxBuffers head = 0 then some (s, loop, [])
    else
      let pass := checkRxPassUnlinked config pxInterface allocates enqueued head loop s
      (checkRxLoopUnlinked config pxInterface allocates enqueued fuel (advance head) pass.2.1
        pass.1).map fun rest => (rest.1, rest.2.1, pass.2.2 ++ rest.2.2)

/-- `emacps_check_rx` without `ipconfigUSE_LINKED_RX_MESSAGES`: the loop from `rxHead`, with the
locals at its end. -/
def emacpsCheckRxUnlinked (config : RxConfig) (pxInterface : Nat) (allocates enqueued : Nat → Bool)
    (fuel : Nat) (s : RxState n) : Option (RxState n × List Effect × RxLoopUnlinked) :=
  (checkRxLoopUnlinked config pxInterface allocates enqueued fuel s.rxHead ⟨0, 0⟩ s).map
    fun drained => (drained.1, drained.2.2, drained.2.1)

/-! ## Reading a state without its links -/

/-- A buffer with its link cleared. -/
def RxDescriptor.unlink (buffer : RxDescriptor) : RxDescriptor := { buffer with pxNextBuffer := 0 }

/-- The state with every link cleared. -/
def RxState.withoutLinks (s : RxState n) : RxState n :=
  { s with descriptors := fun d => (s.descriptors d).unlink }

/-- The effects other than the hand-offs to the IP task, in order. -/
def dropEvents (effects : List Effect) : List Effect :=
  effects.filter fun effect => (rxEventOf effect).isNone

/-- Writing a link is invisible once links are cleared. -/
theorem unlink_update_link (descriptors : Nat → RxDescriptor) (last pxNext d : Nat) :
    (Function.update descriptors last { descriptors last with pxNextBuffer := pxNext } d).unlink =
      (descriptors d).unlink := by
  by_cases at_last : d = last
  · subst at_last
    rw [Function.update_same]
    rfl
  · rw [Function.update_noteq at_last]

/-- Delivering a buffer in the linked build differs from the other build only in the links. -/
theorem rxDeliver_unlink (config : RxConfig) (pxInterface : Nat) (head : Fin n)
    (pxBuffer pxNewBuffer : Nat) (loop : RxLoop) (s : RxState n) (d : Nat) :
    ((rxDeliver config pxInterface head pxBuffer pxNewBuffer loop s).1.descriptors d).unlink =
      ((rxDeliverUnlinked config pxInterface head pxBuffer pxNewBuffer s).1.descriptors d).unlink := by
  unfold rxDeliver rxDeliverUnlinked
  dsimp only
  split
  · rw [unlink_update_link]
    by_cases at_buffer : d = pxBuffer
    · subst at_buffer
      simp only [Function.update_same]
      rfl
    · simp only [Function.update_noteq at_buffer]
  · by_cases at_buffer : d = pxBuffer
    · subst at_buffer
      simp only [Function.update_same]
      rfl
    · simp only [Function.update_noteq at_buffer]

/-! ## The two builds side by side -/

/-- The two builds after the same passes: the same ring, table, memory, pool and DMA, the same
fields in every buffer but `pxNextBuffer`, the linked build's chain already with the IP task in
the other build, and the same counters. -/
structure BuildsAgree (sU : RxState n) (loopU : RxLoopUnlinked) (sL : RxState n) (loopL : RxLoop) :
    Prop where
  rxHead : sU.rxHead = sL.rxHead
  rxSegments : sU.rxSegments = sL.rxSegments
  rxBuffers : sU.rxBuffers = sL.rxBuffers
  descriptors : ∀ d, (sU.descriptors d).unlink = (sL.descriptors d).unlink
  memory : sU.memory = sL.memory
  pool : sU.pool = sL.pool
  stack : sU.stack = sL.stack ++ loopL.received
  rxDmaIndex : sU.rxDmaIndex = sL.rxDmaIndex
  msgCount : loopU.msgCount = loopL.msgCount
  attempts : loopU.attempts = loopL.attempts

theorem BuildsAgree.withoutLinks {sU sL : RxState n} {loopU : RxLoopUnlinked} {loopL : RxLoop}
    (agree : BuildsAgree sU loopU sL loopL) :
    sU.withoutLinks = { sL with stack := sL.stack ++ loopL.received }.withoutLinks :=
  RxState.ext agree.rxHead agree.rxSegments agree.rxBuffers (funext agree.descriptors)
    agree.memory agree.pool agree.stack agree.rxDmaIndex

section Agree

variable {sU sL : RxState n} {loopU : RxLoopUnlinked} {loopL : RxLoop}

theorem BuildsAgree.payload (agree : BuildsAgree sU loopU sL loopL) (d : Nat) :
    (sU.descriptors d).pucEthernetBuffer = (sL.descriptors d).pucEthernetBuffer := by
  have same := congrArg RxDescriptor.pucEthernetBuffer (agree.descriptors d)
  exact same

theorem BuildsAgree.take (agree : BuildsAgree sU loopU sL loopL) (rest : List Nat) :
    BuildsAgree { sU with pool := rest } loopU { sL with pool := rest } loopL :=
  { agree with pool := rfl }

/-- Posting a slot keeps the builds side by side, with the same cache maintenance. -/
theorem BuildsAgree.repost (agree : BuildsAgree sU loopU sL loopL) (config : Config) (head : Fin n)
    (pxNewBuffer : Nat) :
    BuildsAgree (rxRepost config head pxNewBuffer sU).1 loopU
        (rxRepost config head pxNewBuffer sL).1 loopL ∧
      (rxRepost config head pxNewBuffer sU).2 = (rxRepost config head pxNewBuffer sL).2 := by
  refine ⟨{ agree with rxHead := rfl, rxSegments := ?_ }, ?_⟩ <;>
    simp only [rxRepost, agree.payload, agree.rxSegments]

/-- Delivering a buffer keeps the builds side by side: the unlinked build hands it to the IP task
where the linked build adds it to its chain. -/
theorem BuildsAgree.deliver (agree : BuildsAgree sU loopU sL loopL) (config : RxConfig)
    (pxInterface : Nat) (head : Fin n) (pxBuffer pxNewBuffer : Nat) :
    BuildsAgree (prvPassEthMessagesUnlinked true pxBuffer
        (rxDeliverUnlinked config pxInterface head pxBuffer pxNewBuffer sU).1).1
      ⟨loopU.msgCount + 1, loopU.attempts + 1⟩
      (rxDeliver config pxInterface head pxBuffer pxNewBuffer
        { loopL with attempts := loopL.attempts + 1 } sL).1
      (rxDeliver config pxInterface head pxBuffer pxNewBuffer
        { loopL with attempts := loopL.attempts + 1 } sL).2.1 ∧
    (rxDeliverUnlinked config pxInterface head pxBuffer pxNewBuffer sU).2 =
      (rxDeliver config pxInterface head pxBuffer pxNewBuffer
        { loopL with attempts := loopL.attempts + 1 } sL).2.2 := by
  refine ⟨⟨agree.rxHead, agree.rxSegments, by
      simp [prvPassEthMessagesUnlinked, rxDeliverUnlinked, agree.rxBuffers], fun d => ?_,
    agree.memory, agree.pool, by simp [prvPassEthMessagesUnlinked, rxDeliverUnlinked, agree.stack],
    agree.rxDmaIndex, by simp [rxDeliver, agree.msgCount], by simp [rxDeliver, agree.attempts]⟩, ?_⟩
  · rw [rxDeliver_unlink]
    by_cases at_buffer : d = pxBuffer
    · subst at_buffer
      simp [prvPassEthMessagesUnlinked, rxDeliverUnlinked, RxDescriptor.unlink, agree.payload,
        agree.memory, agree.rxSegments]
    · simp only [prvPassEthMessagesUnlinked, rxDeliverUnlinked, if_true,
        Function.update_noteq at_buffer, agree.descriptors d]
  · simp [rxDeliverUnlinked, rxDeliver, agree.payload, agree.rxSegments]

/-- The pool alone decides what `pxGetNetworkBufferWithDescriptor` hands out. -/
theorem pxGetNetworkBufferWithDescriptor_congr {succeeds : Bool} {s s' : RxState n}
    (pool : s.pool = s'.pool) :
    pxGetNetworkBufferWithDescriptor succeeds s =
      (pxGetNetworkBufferWithDescriptor succeeds s').map
        fun taken => (taken.1, { s with pool := taken.2.pool }) := by
  unfold pxGetNetworkBufferWithDescriptor
  rw [pool]
  cases s'.pool <;> cases succeeds <;> rfl

theorem optionRel_map {α β γ δ : Type} {r : α → β → Prop} {r' : γ → δ → Prop} {f : α → γ}
    {g : β → δ} {a : Option α} {b : Option β} (related : Option.Rel r a b)
    (map : ∀ x y, r x y → r' (f x) (g y)) : Option.Rel r' (a.map f) (b.map g) := by
  cases related with
  | none => exact .none
  | some holds => exact .some (map _ _ holds)

theorem dropEvents_append (first second : List Effect) :
    dropEvents (first ++ second) = dropEvents first ++ dropEvents second :=
  List.filter_append _ _

theorem dropEvents_cons (effect : Effect) (rest : List Effect) :
    dropEvents (effect :: rest) =
      (if (rxEventOf effect).isNone then [effect] else []) ++ dropEvents rest := by
  unfold dropEvents
  rw [List.filter_cons]
  split <;> simp_all

@[simp] theorem dropEvents_dropEvents (effects : List Effect) :
    dropEvents (dropEvents effects) = dropEvents effects := by
  simp [dropEvents, List.filter_filter]

/-- Effects with no hand-off to the IP task are kept whole. -/
theorem dropEvents_of_quiet {effects : List Effect} (quiet : effects.filterMap rxEventOf = []) :
    dropEvents effects = effects :=
  List.filter_eq_self.mpr fun effect member => by
    simp [List.filterMap_eq_nil_iff.mp quiet effect member]

variable (config : RxConfig) (pxInterface : Nat) (allocates : Nat → Bool)

/-- With every enqueue succeeding, a pass of each build keeps them side by side; the unlinked pass
hands to the IP task exactly the buffer the linked pass adds to its chain. -/
theorem checkRxPassUnlinked_agrees (agree : BuildsAgree sU loopU sL loopL) (head : Fin n) :
    let passU := checkRxPassUnlinked config pxInterface allocates (fun _ => true) head loopU sU
    let passL := checkRxPass config pxInterface allocates head loopL sL
    BuildsAgree passU.1 passU.2.1 passL.1 passL.2.1 ∧ dropEvents passU.2.2 = passL.2.2 ∧
      ∃ newly, passL.2.1.received = loopL.received ++ newly ∧
        passU.2.2.filterMap rxEventOf = newly.map (·, true) := by
  dsimp only
  unfold checkRxPassUnlinked checkRxPass
  dsimp only
  simp only [agree.payload, agree.rxBuffers, agree.memory, agree.attempts]
  split
  · rw [pxGetNetworkBufferWithDescriptor_congr agree.pool]
    cases taken : pxGetNetworkBufferWithDescriptor (allocates loopL.attempts) sL with
    | none =>
      dsimp only [Option.map_none']
      obtain ⟨reposted, same⟩ := agree.repost config.toConfig head (sL.rxBuffers head)
      have quiet := (rxRepost_quiet config.toConfig head (sL.rxBuffers head) sU).2
      refine ⟨{ reposted with attempts := by simp [agree.attempts] }, ?_, [], by simp,
        by simp [rxEventOf, quiet]⟩
      rw [dropEvents_of_quiet (by simp [rxEventOf, quiet]), same]
    | some result =>
      obtain ⟨pxNewBuffer, allocated⟩ := result
      obtain ⟨-, rest, -, rfl⟩ := pxGetNetworkBufferWithDescriptor_eq_some.mp taken
      dsimp only [Option.map_some']
      obtain ⟨delivered, same⟩ := (agree.take rest).deliver config pxInterface head
        (sL.rxBuffers head) pxNewBuffer
      obtain ⟨reposted, same'⟩ := delivered.repost config.toConfig head pxNewBuffer
      have quiet := (rxDeliver_quiet config pxInterface head (sL.rxBuffers head) pxNewBuffer
        { loopL with attempts := loopL.attempts + 1 } { sL with pool := rest }).2
      have quiet' := (rxRepost_quiet config.toConfig head pxNewBuffer
        (rxDeliver config pxInterface head (sL.rxBuffers head) pxNewBuffer
          { loopL with attempts := loopL.attempts + 1 } { sL with pool := rest }).1).2
      rw [same, same']
      refine ⟨{ reposted with attempts := by simp [rxDeliver, agree.attempts] }, ?_,
        [sL.rxBuffers head], by simp [rxDeliver], ?_⟩
      · simp [dropEvents_append, dropEvents_cons, dropEvents_of_quiet quiet,
          dropEvents_of_quiet quiet', prvPassEthMessagesUnlinked, rxEventOf]
      · simp [List.filterMap_append, quiet, quiet', prvPassEthMessagesUnlinked, rxEventOf]
  · obtain ⟨reposted, same⟩ := agree.repost config.toConfig head (sL.rxBuffers head)
    have quiet := (rxRepost_quiet config.toConfig head (sL.rxBuffers head) sU).2
    refine ⟨reposted, ?_, [], by simp, by simp [rxEventOf, quiet]⟩
    rw [dropEvents_of_quiet (by simp [rxEventOf, quiet]), same]

/-- With every enqueue succeeding, the loops of the two builds run out of fuel together or stop
together, the unlinked one having handed on one by one what the linked one chained. -/
theorem checkRxLoopUnlinked_agrees : ∀ (fuel : Nat) (head : Fin n) (loopU : RxLoopUnlinked)
    (loopL : RxLoop) (sU sL : RxState n), BuildsAgree sU loopU sL loopL →
    Option.Rel (fun (u : RxState n × RxLoopUnlinked × List Effect)
        (l : RxState n × RxLoop × List Effect) =>
        BuildsAgree u.1 u.2.1 l.1 l.2.1 ∧ dropEvents u.2.2 = l.2.2 ∧
          ∃ newly, l.2.1.received = loopL.received ++ newly ∧
            u.2.2.filterMap rxEventOf = newly.map (·, true))
      (checkRxLoopUnlinked config pxInterface allocates (fun _ => true) fuel head loopU sU)
      (checkRxLoop config pxInterface allocates fuel head loopL sL)
  | 0, _, _, _, _, _, _ => .none
  | fuel + 1, head, loopU, loopL, sU, sL, agree => by
    simp only [checkRxLoopUnlinked, checkRxLoop, agree.rxSegments, agree.rxBuffers]
    split
    · exact .some ⟨agree, rfl, [], by simp, rfl⟩
    · obtain ⟨passed, effects, newly, received, events⟩ :=
        checkRxPassUnlinked_agrees config pxInterface allocates agree head
      refine optionRel_map (checkRxLoopUnlinked_agrees fuel (advance head) _ _ _ _ passed)
        fun u l ⟨agree', effects', newly', received', events'⟩ =>
          ⟨agree', by rw [dropEvents_append, effects, effects'], newly ++ newly', ?_, ?_⟩
      · rw [received', received, List.append_assoc]
      · rw [List.filterMap_append, events, events', List.map_append]

/-- With every enqueue succeeding, calls of the two builds on states that agree once links are
cleared both run out of fuel, or both return and then agree as the builds do after one call. -/
theorem emacpsCheckRx_agrees_of_buildsAgree (fuel : Nat)
    (agree : BuildsAgree sU ⟨0, 0⟩ sL ⟨0, 0, 0, 0, []⟩) :
    (emacpsCheckRxUnlinked config pxInterface allocates (fun _ => true) fuel sU).map
        (fun result => (result.1.withoutLinks, dropEvents result.2.1,
          result.2.1.filterMap rxEventOf, result.2.2.msgCount)) =
      (emacpsCheckRx config pxInterface allocates true fuel sL).map
        (fun result => ({ result.1 with stack := result.1.stack ++ result.2.2.received }.withoutLinks,
          dropEvents result.2.1, result.2.2.received.map (·, true), result.2.2.msgCount)) := by
  have related :=
    checkRxLoopUnlinked_agrees config pxInterface allocates fuel sL.rxHead _ _ _ _ agree
  unfold emacpsCheckRxUnlinked emacpsCheckRx
  rw [agree.rxHead]
  revert related
  generalize checkRxLoopUnlinked config pxInterface allocates (fun _ => true) fuel sL.rxHead
    ⟨0, 0⟩ sU = runU
  generalize checkRxLoop config pxInterface allocates fuel sL.rxHead ⟨0, 0, 0, 0, []⟩ sL = runL
  intro related
  cases related with
  | none => rfl
  | @some u l related =>
    obtain ⟨agree, effects, newly, received, events⟩ := related
    rw [List.nil_append] at received
    have kept : dropEvents l.2.2 = l.2.2 := by rw [← effects, dropEvents_dropEvents]
    simp only [Option.map_some', Option.some_bind]
    split
    · rw [Option.map_some', agree.withoutLinks, effects, kept, events, received, agree.msgCount]
    · simp only [prvPassEthMessages, if_true, Option.map_some', dropEvents_append, kept]
      rw [agree.withoutLinks, effects, events, received, agree.msgCount]
      simp [dropEvents, rxEventOf]

/-- With every enqueue succeeding, the two builds of `emacps_check_rx` leave the same state up to
the links, with the same effects but for the shape of the hand-off, and the same `msgCount`. -/
theorem emacps_check_rx_unlinked_agrees (fuel : Nat) (s : RxState n) :
    (emacpsCheckRxUnlinked config pxInterface allocates (fun _ => true) fuel s).map
        (fun result => (result.1.withoutLinks, dropEvents result.2.1,
          result.2.1.filterMap rxEventOf, result.2.2.msgCount)) =
      (emacpsCheckRx config pxInterface allocates true fuel s).map
        (fun result => ({ result.1 with stack := result.1.stack ++ result.2.2.received }.withoutLinks,
          dropEvents result.2.1, result.2.2.received.map (·, true), result.2.2.msgCount)) :=
  emacpsCheckRx_agrees_of_buildsAgree config pxInterface allocates fuel
    ⟨rfl, rfl, rfl, fun _ => rfl, rfl, rfl, (List.append_nil _).symm, rfl, rfl, rfl⟩

end Agree

/-! ## Any enqueue outcome -/

/-- What `prvPassEthMessages` does with the buffers `chain`: the IP task takes them, or, when the
enqueue fails, they go back to the pool. -/
def handOn (enqueued : Bool) (s : RxState n) (chain : List Nat) : RxState n :=
  if enqueued then { s with stack := s.stack ++ chain } else { s with pool := s.pool ++ chain }

section Outcomes

variable (config : RxConfig) (pxInterface : Nat) (allocates : Nat → Bool)

/-- A pass of the unlinked build is, links cleared, a pass of the linked build from an empty chain
whose buffer, if any, is then handed on at once. -/
theorem checkRxPassUnlinked_eq_linked (enqueued : Nat → Bool) (head : Fin n)
    (loop : RxLoopUnlinked) (s : RxState n) :
    (checkRxPassUnlinked config pxInterface allocates enqueued head loop s).1.withoutLinks =
      (handOn (enqueued loop.msgCount)
        (checkRxPass config pxInterface allocates head ⟨0, 0, 0, loop.attempts, []⟩ s).1
        (checkRxPass config pxInterface allocates head ⟨0, 0, 0, loop.attempts, []⟩
          s).2.1.received).withoutLinks := by
  unfold checkRxPassUnlinked checkRxPass
  dsimp only
  split
  · cases taken : pxGetNetworkBufferWithDescriptor (allocates loop.attempts) s with
    | none => cases enqueued loop.msgCount <;> simp [handOn] <;> rfl
    | some result =>
      obtain ⟨pxNewBuffer, allocated⟩ := result
      obtain ⟨-, rest, -, rfl⟩ := pxGetNetworkBufferWithDescriptor_eq_some.mp taken
      have segments := congrArg (fun payload => Function.update s.rxSegments head
        { address := if head.val = n - 1 then payload &&& xemacpsRxbufAddMask |||
            xemacpsRxbufWrapMask else payload &&& xemacpsRxbufAddMask, flags := 0 })
        ((rxDeliverUnlinked_payload config pxInterface head (s.rxBuffers head) pxNewBuffer
          { s with pool := rest } pxNewBuffer).trans (rxDeliver_payload config pxInterface head
            (s.rxBuffers head) pxNewBuffer ⟨0, 0, 0, loop.attempts + 1, []⟩
            { s with pool := rest } pxNewBuffer).symm)
      have descriptors := funext fun d => (rxDeliver_unlink config pxInterface head
        (s.rxBuffers head) pxNewBuffer ⟨0, 0, 0, loop.attempts + 1, []⟩ { s with pool := rest }
          d).symm
      cases enqueued loop.msgCount <;>
        exact RxState.ext rfl segments rfl descriptors rfl rfl rfl rfl
  · cases enqueued loop.msgCount <;> simp [handOn] <;> rfl

theorem RxDmaAt.withoutLinks_iff {config : Config} {s : RxState n} {stored : Nat} :
    RxDmaAt config s.withoutLinks stored ↔ RxDmaAt config s stored :=
  ⟨fun dma => ⟨dma.stored_le, dma.dma_index, dma.address, dma.flags, dma.fits⟩,
    fun dma => ⟨dma.stored_le, dma.dma_index, dma.address, dma.flags, dma.fits⟩⟩

/-- The invariant reads no link. -/
theorem RxInvariant.withoutLinks_iff {config : Config} {s : RxState n} {linked : List Nat} :
    RxInvariant config s.withoutLinks linked ↔ RxInvariant config s linked :=
  ⟨fun invariant => ⟨invariant.owned, invariant.dma.imp fun _ => RxDmaAt.withoutLinks_iff.mp⟩,
    fun invariant => ⟨invariant.owned, invariant.dma.imp fun _ => RxDmaAt.withoutLinks_iff.mpr⟩⟩

/-- Each pass of the unlinked build at `rxHead`, whatever the outcome of its enqueue, keeps the
invariant and only moves buffers between owners, one slot of the stored run further on. -/
theorem checkRxPassUnlinked_spec (enqueued : Nat → Bool) {s : RxState n} {loop : RxLoopUnlinked}
    {stored : Nat} (invariant : RxInvariant config.toConfig s [])
    (dma : RxDmaAt config.toConfig s (stored + 1)) :
    RxInvariant config.toConfig
        (checkRxPassUnlinked config pxInterface allocates enqueued s.rxHead loop s).1 [] ∧
      RxDmaAt config.toConfig
        (checkRxPassUnlinked config pxInterface allocates enqueued s.rxHead loop s).1 stored ∧
      (ownedBuffers (checkRxPassUnlinked config pxInterface allocates enqueued s.rxHead loop s).1
        []).Perm (ownedBuffers s []) ∧
      (checkRxPassUnlinked config pxInterface allocates enqueued s.rxHead loop s).1.rxHead =
        advance s.rxHead := by
  have same := checkRxPassUnlinked_eq_linked config pxInterface allocates enqueued s.rxHead loop s
  obtain ⟨perm, invariant', dma', -, head', -⟩ := @checkRxPass_spec n config pxInterface allocates
    s ⟨0, 0, 0, loop.attempts, []⟩ stored _ invariant dma ⟨.nil, rfl, rfl⟩ rfl
  generalize checkRxPassUnlinked config pxInterface allocates enqueued s.rxHead loop s = passU
    at same ⊢
  generalize checkRxPass config pxInterface allocates s.rxHead ⟨0, 0, 0, loop.attempts, []⟩ s =
    passL at same perm invariant' dma' head'
  have handed : RxInvariant config.toConfig
      (handOn (enqueued loop.msgCount) passL.1 passL.2.1.received) [] ∧
      RxDmaAt config.toConfig (handOn (enqueued loop.msgCount) passL.1 passL.2.1.received) stored ∧
      (ownedBuffers (handOn (enqueued loop.msgCount) passL.1 passL.2.1.received) []).Perm
        (ownedBuffers passL.1 passL.2.1.received) ∧
      (handOn (enqueued loop.msgCount) passL.1 passL.2.1.received).rxHead = passL.1.rxHead := by
    unfold handOn
    split
    · obtain ⟨handed, equal⟩ := invariant'.handOff
      exact ⟨handed, dma'.with_owners _ _, equal ▸ List.Perm.refl _, rfl⟩
    · obtain ⟨released, perm⟩ := invariant'.release
      exact ⟨released, dma'.with_owners _ _, perm, rfl⟩
  have invariant_u : RxInvariant config.toConfig passU.1.withoutLinks [] := by
    rw [same]
    exact RxInvariant.withoutLinks_iff.mpr handed.1
  have dma_u : RxDmaAt config.toConfig passU.1.withoutLinks stored := by
    rw [same]
    exact RxDmaAt.withoutLinks_iff.mpr handed.2.1
  have owners := congrArg (fun t : RxState n => ownedBuffers t []) same
  refine ⟨RxInvariant.withoutLinks_iff.mp invariant_u, RxDmaAt.withoutLinks_iff.mp dma_u,
    (List.Perm.of_eq owners).trans (handed.2.2.1.trans perm), ?_⟩
  have heads := congrArg RxState.rxHead same
  exact heads.trans (handed.2.2.2.trans head')

/-- The unlinked loop, whatever each allocation and enqueue does, keeps the invariant, frees every
slot and only moves buffers between owners. -/
theorem checkRxLoopUnlinked_spec (enqueued : Nat → Bool) :
    ∀ (stored : Nat) (s : RxState n) (loop : RxLoopUnlinked) (fuel : Nat),
      RxInvariant config.toConfig s [] → RxDmaAt config.toConfig s stored → stored < fuel →
      ∃ result, checkRxLoopUnlinked config pxInterface allocates enqueued fuel s.rxHead loop s =
          some result ∧
        RxInvariant config.toConfig result.1 [] ∧ RxDmaAt config.toConfig result.1 0 ∧
        (ownedBuffers result.1 []).Perm (ownedBuffers s [])
  | _, _, _, 0, _, _, enough => absurd enough (Nat.not_lt_zero _)
  | 0, s, loop, fuel + 1, invariant, dma, _ => by
    have idle : rxNew (s.rxSegments s.rxHead).address = false := by
      rw [dma.rxNew_address invariant.buffer_valid]
      exact decide_eq_false (not_inWindow_zero _ _)
    exact ⟨(s, loop, []), by simp [checkRxLoopUnlinked, idle], invariant, dma, List.Perm.refl _⟩
  | stored + 1, s, loop, fuel + 1, invariant, dma, enough => by
    obtain ⟨invariant₁, dma₁, perm₁, head₁⟩ := @checkRxPassUnlinked_spec n config pxInterface
      allocates enqueued s loop stored invariant dma
    obtain ⟨result, run, invariant', dma', perm'⟩ := checkRxLoopUnlinked_spec enqueued stored _
      (checkRxPassUnlinked config pxInterface allocates enqueued s.rxHead loop s).2.1 fuel
      invariant₁ dma₁ (Nat.lt_of_succ_lt_succ enough)
    have stored_head : rxNew (s.rxSegments s.rxHead).address = true := by
      rw [dma.rxNew_address invariant.buffer_valid, decide_eq_true_eq, InWindow, offsetFrom_self]
      exact Nat.succ_pos stored
    refine ⟨(result.1, result.2.1,
      (checkRxPassUnlinked config pxInterface allocates enqueued s.rxHead loop s).2.2 ++
        result.2.2), ?_, invariant', dma', perm'.trans perm₁⟩
    simp only [checkRxLoopUnlinked, stored_head, invariant.buffer_nonzero, Bool.true_eq_false,
      or_self, if_false, ← head₁, run, Option.map_some']

end Outcomes

/-! ## Runs of the unlinked build -/

/-- The steps of the receive side built without `ipconfigUSE_LINKED_RX_MESSAGES`: the MAC and the
IP task as in `rxStep`, and calls of `emacps_check_rx` with the outcome of each enqueue. -/
inductive RxActionUnlinked
  /-- The MAC receives `frame`. -/
  | receive (frame : List UInt8)
  /-- A call of `emacps_check_rx` for `pxInterface`, with the outcome of each allocation and of
  each enqueue. -/
  | checkRx (pxInterface : Nat) (allocates enqueued : Nat → Bool)
  /-- The IP task releases a buffer it holds. -/
  | stackRelease (pxDescriptor : Nat)

/-- One step of the unlinked build, with its effects; `none` when it cannot happen. -/
def rxStepUnlinked (config : RxConfig) (s : RxState n) :
    RxActionUnlinked → Option (RxState n × List Effect)
  | .receive frame => rxStep config s (.receive frame)
  | .checkRx pxInterface allocates enqueued =>
    (emacpsCheckRxUnlinked config pxInterface allocates enqueued (n + 1) s).map fun result =>
      (result.1, result.2.1)
  | .stackRelease pxDescriptor => rxStep config s (.stackRelease pxDescriptor)

/-- The states the unlinked build reaches by finitely many steps from `init`. -/
inductive RxReachableUnlinked (config : RxConfig) (init : RxState n) :
    RxState n → List (RxActionUnlinked × List Effect) → Prop
  | init : RxReachableUnlinked config init init []
  | step {s s' : RxState n} {trace : List (RxActionUnlinked × List Effect)}
      {action : RxActionUnlinked} {effects : List Effect} :
      RxReachableUnlinked config init s trace → rxStepUnlinked config s action = some (s', effects) →
      RxReachableUnlinked config init s' (trace ++ [(action, effects)])

/-- Each step of the unlinked build keeps the invariant and only moves buffers between owners. -/
theorem rxStepUnlinked_invariant {config : RxConfig} {s s' : RxState n}
    {action : RxActionUnlinked} {effects : List Effect}
    (invariant : RxInvariant config.toConfig s [])
    (step : rxStepUnlinked config s action = some (s', effects)) :
    RxInvariant config.toConfig s' [] ∧ (ownedBuffers s' []).Perm (ownedBuffers s []) := by
  cases action with
  | receive frame => exact @rxStep_invariant n config s s' (.receive frame) effects invariant step
  | checkRx pxInterface allocates enqueued =>
    obtain ⟨stored, dma⟩ := invariant.dma
    obtain ⟨result, run, invariant', -, perm⟩ :=
      checkRxLoopUnlinked_spec config pxInterface allocates enqueued stored s ⟨0, 0⟩ (n + 1)
        invariant dma (Nat.lt_succ_of_le dma.stored_le)
    simp only [rxStepUnlinked, emacpsCheckRxUnlinked, run, Option.map_some', Option.some.injEq,
      Prod.mk.injEq] at step
    obtain ⟨rfl, -⟩ := step
    exact ⟨invariant', perm⟩
  | stackRelease pxDescriptor =>
    exact @rxStep_invariant n config s s' (.stackRelease pxDescriptor) effects invariant step

/-- Built without `ipconfigUSE_LINKED_RX_MESSAGES`, every run from a successful `init_dma` keeps the
ring invariant and each buffer of the starting pool with exactly one owner. -/
theorem rx_unlinked_ring_invariant [NeZero n] {config : RxConfig}
    {descriptors : Nat → RxDescriptor} {memory : Nat → List UInt8} {pool : List Nat}
    {init : RxState n} {effects : List Effect}
    (pool_owned : BufferOwnership (fun d => (descriptors d).pucEthernetBuffer) pool)
    (initialised :
      rxInitDma config.toConfig (rxZero n descriptors memory pool) = some (init, effects))
    {s : RxState n} {trace : List (RxActionUnlinked × List Effect)}
    (reachable : RxReachableUnlinked config init s trace) :
    RxInvariant config.toConfig s [] ∧
      (s.pool ++ readRing s.rxBuffers s.rxHead n ++ s.stack).Perm pool := by
  suffices RxInvariant config.toConfig s [] ∧ (ownedBuffers s []).Perm pool by
    simpa [ownedBuffers] using this
  induction reachable with
  | init =>
    obtain ⟨invariant, -, perm⟩ := rxInitDma_invariant pool_owned initialised
    exact ⟨invariant, perm⟩
  | step _ step ih =>
    obtain ⟨invariant, perm⟩ := rxStepUnlinked_invariant ih.1 step
    exact ⟨invariant, perm.trans ih.2⟩

theorem rx_unlinked_ring_invariant_after_failed_enqueue :
    ∃ init effects,
      rxInitDma ⟨10, false, 42, fun _ => false⟩
          (rxZero 2 (fun d => ⟨4 * d + 2, 0, 0, 0, 0⟩) (fun _ => []) [1, 2, 3]) =
        some (init, effects) ∧
      ∃ s trace, RxReachableUnlinked ⟨⟨10, false, 42, fun _ => false⟩,
          ⟨true, false, false, false, fun _ => false⟩, fun _ _ => 0⟩ init s trace ∧
        trace.map Prod.fst = [.receive (List.replicate 12 0 ++ [8, 6] ++ List.replicate 46 0),
          .checkRx 5 (fun _ => true) (fun _ => false)] ∧ s.rxBuffers 0 = 3 ∧ s.pool = [1] ∧
        RxInvariant ⟨10, false, 42, fun _ => false⟩ s [] ∧
        (s.pool ++ readRing s.rxBuffers s.rxHead 2 ++ s.stack).Perm [1, 2, 3] := by
  obtain ⟨init, effects, initialised, s, trace, run, actions, replaced, released⟩ : ∃ init effects,
      rxInitDma ⟨10, false, 42, fun _ => false⟩
          (rxZero 2 (fun d => ⟨4 * d + 2, 0, 0, 0, 0⟩) (fun _ => []) [1, 2, 3]) =
        some (init, effects) ∧
      ∃ s trace, RxReachableUnlinked ⟨⟨10, false, 42, fun _ => false⟩,
          ⟨true, false, false, false, fun _ => false⟩, fun _ _ => 0⟩ init s trace ∧
        trace.map Prod.fst = [.receive (List.replicate 12 0 ++ [8, 6] ++ List.replicate 46 0),
          .checkRx 5 (fun _ => true) (fun _ => false)] ∧ s.rxBuffers 0 = 3 ∧ s.pool = [1] :=
    ⟨_, _, rfl, _, _, (RxReachableUnlinked.init.step (show rxStepUnlinked _ _
      (.receive (List.replicate 12 0 ++ [8, 6] ++ List.replicate 46 0)) = some (_, _) by exact rfl)).step
      (show rxStepUnlinked _ _ (.checkRx 5 (fun _ => true) (fun _ => false)) = some (_, _)
        by exact rfl), by exact rfl, by exact rfl, by exact rfl⟩
  exact ⟨init, effects, initialised, s, trace, run, actions, replaced, released,
    rx_unlinked_ring_invariant ⟨by decide, by decide, by decide, by decide⟩ initialised run⟩

/-! ## The two builds along runs -/

/-- Whether every enqueue of a step of the linked build succeeds. -/
def RxAction.enqueues : RxAction → Bool
  | .checkRx _ _ enqueued => enqueued
  | _ => true

/-- The same step in the unlinked build, each of its enqueues with the outcome of the step's. -/
def RxAction.unlinked : RxAction → RxActionUnlinked
  | .receive frame => .receive frame
  | .checkRx pxInterface allocates enqueued => .checkRx pxInterface allocates fun _ => enqueued
  | .stackRelease pxDescriptor => .stackRelease pxDescriptor

theorem BuildsAgree.of_withoutLinks {sU sL : RxState n} (same : sU.withoutLinks = sL.withoutLinks) :
    BuildsAgree sU ⟨0, 0⟩ sL ⟨0, 0, 0, 0, []⟩ := by
  obtain ⟨head, segments, buffers, descriptors, memory, pool, stack, index⟩ :=
    RxState.mk.inj same
  exact ⟨head, segments, buffers, congrFun descriptors, memory, pool,
    stack.trans (List.append_nil _).symm, index, rfl, rfl⟩

/-- The MAC reads no link. -/
theorem rxDmaReceive_withoutLinks (frame : List UInt8) (s : RxState n) :
    rxDmaReceive frame s.withoutLinks = (rxDmaReceive frame s).map RxState.withoutLinks := by
  unfold rxDmaReceive
  dsimp only [RxState.withoutLinks]
  split
  · rfl
  · cases nextByWrap s.rxDmaIndex (rxWrap (s.rxSegments s.rxDmaIndex).address) <;> rfl

/-- The steps of the MAC and of the IP task read no link. -/
theorem rxStep_withoutLinks (config : RxConfig) (s : RxState n) {action : RxAction}
    (quiet : ∀ pxInterface allocates enqueued,
      action ≠ .checkRx pxInterface allocates enqueued) :
    (rxStep config s.withoutLinks action).map
        (fun result => (result.1.withoutLinks, dropEvents result.2)) =
      (rxStep config s action).map
        (fun result => (result.1.withoutLinks, dropEvents result.2)) := by
  cases action with
  | receive frame =>
    simp only [rxStep]
    split
    · rw [Option.map_map, Option.map_map, rxDmaReceive_withoutLinks, Option.map_map]
      rfl
    · rfl
  | checkRx pxInterface allocates enqueued => exact absurd rfl (quiet _ _ _)
  | stackRelease pxDescriptor =>
    by_cases held : pxDescriptor ∈ s.stack
    · simp only [rxStep, RxState.withoutLinks, held, if_true, Option.map_some']
      rfl
    · simp only [rxStep, RxState.withoutLinks, held, if_false, Option.map_none']

/-- With every enqueue succeeding, a step of the linked build is matched by the same step of the
unlinked build between states that agree once links are cleared. -/
theorem rxStepUnlinked_agrees (config : RxConfig) {sU sL : RxState n}
    (same : sU.withoutLinks = sL.withoutLinks) {action : RxAction}
    (enqueues : action.enqueues = true) :
    (rxStepUnlinked config sU action.unlinked).map
        (fun result => (result.1.withoutLinks, dropEvents result.2)) =
      (rxStep config sL action).map
        (fun result => (result.1.withoutLinks, dropEvents result.2)) := by
  cases action with
  | checkRx pxInterface allocates enqueued =>
    cases enqueues
    have agree := emacpsCheckRx_agrees_of_buildsAgree config pxInterface allocates (n + 1)
      (BuildsAgree.of_withoutLinks same)
    have pairs := congrArg (Option.map fun result => (result.1, result.2.1)) agree
    simp only [Option.map_map] at pairs
    simpa [RxAction.unlinked, rxStepUnlinked, rxStep, Option.map_map] using pairs
  | receive frame =>
    show (rxStep config sU (.receive frame)).map _ = _
    rw [← rxStep_withoutLinks config sU (by simp), same, rxStep_withoutLinks config sL (by simp)]
  | stackRelease pxDescriptor =>
    show (rxStep config sU (.stackRelease pxDescriptor)).map _ = _
    rw [← rxStep_withoutLinks config sU (by simp), same, rxStep_withoutLinks config sL (by simp)]

/-- With every enqueue succeeding, every run of the linked build is matched by a run of the unlinked
build through states that agree once links are cleared, with the same effects but the hand-offs. -/
theorem rx_builds_agree_along_runs {config : RxConfig} {init s : RxState n}
    {trace : List (RxAction × List Effect)} (reachable : RxReachable config init s trace)
    (enqueues : ∀ step ∈ trace, step.1.enqueues = true) :
    ∃ sU traceU, RxReachableUnlinked config init sU traceU ∧ sU.withoutLinks = s.withoutLinks ∧
      traceU.map (fun step => (step.1, dropEvents step.2)) =
        trace.map (fun step => (step.1.unlinked, dropEvents step.2)) := by
  induction reachable with
  | init => exact ⟨init, [], .init, rfl, rfl⟩
  | @step s s' trace action effects _ step ih =>
    obtain ⟨sU, traceU, reachableU, same, traces⟩ :=
      ih fun entry member => enqueues entry (List.mem_append_left _ member)
    have agree := rxStepUnlinked_agrees config same
      (enqueues (action, effects) (List.mem_append_right _ (List.mem_singleton_self _)))
    rw [step, Option.map_some'] at agree
    obtain ⟨⟨sU', effectsU⟩, stepU, images⟩ := Option.map_eq_some'.mp agree
    obtain ⟨same', effects'⟩ := Prod.mk.inj images
    exact ⟨sU', traceU ++ [(action.unlinked, effectsU)], .step reachableU stepU, same',
      by simp [traces, effects']⟩

theorem rx_builds_agree_along_runs_after_release :
    ∃ init effects,
      rxInitDma ⟨10, false, 42, fun _ => false⟩
          (rxZero 2 (fun d => ⟨4 * d + 2, 0, 0, 0, 0⟩) (fun _ => []) [1, 2, 3]) =
        some (init, effects) ∧
      ∃ s trace, RxReachable ⟨⟨10, false, 42, fun _ => false⟩,
          ⟨true, false, false, false, fun _ => false⟩, fun _ _ => 0⟩ init s trace ∧
        trace.map Prod.fst = [.receive (List.replicate 12 0 ++ [8, 6] ++ List.replicate 46 0),
          .checkRx 5 (fun _ => true) true, .stackRelease 1] ∧
        (∀ step ∈ trace, step.1.enqueues = true) ∧
        ∃ sU traceU, RxReachableUnlinked ⟨⟨10, false, 42, fun _ => false⟩,
            ⟨true, false, false, false, fun _ => false⟩, fun _ _ => 0⟩ init sU traceU ∧
          sU.withoutLinks = s.withoutLinks ∧
          traceU.map (fun step => (step.1, dropEvents step.2)) =
            trace.map (fun step => (step.1.unlinked, dropEvents step.2)) := by
  obtain ⟨init, effects, initialised, s, trace, run, actions, enqueues⟩ : ∃ init effects,
      rxInitDma ⟨10, false, 42, fun _ => false⟩
          (rxZero 2 (fun d => ⟨4 * d + 2, 0, 0, 0, 0⟩) (fun _ => []) [1, 2, 3]) =
        some (init, effects) ∧
      ∃ s trace, RxReachable ⟨⟨10, false, 42, fun _ => false⟩,
          ⟨true, false, false, false, fun _ => false⟩, fun _ _ => 0⟩ init s trace ∧
        trace.map Prod.fst = [.receive (List.replicate 12 0 ++ [8, 6] ++ List.replicate 46 0),
          .checkRx 5 (fun _ => true) true, .stackRelease 1] ∧
        (∀ step ∈ trace, step.1.enqueues = true) :=
    ⟨_, _, rfl, _, _, ((RxReachable.init.step (show rxStep _ _
      (.receive (List.replicate 12 0 ++ [8, 6] ++ List.replicate 46 0)) = some (_, _) by exact rfl)).step
      (show rxStep _ _ (.checkRx 5 (fun _ => true) true) = some (_, _) by exact rfl)).step
      (show rxStep _ _ (.stackRelease 1) = some (_, _) by exact rfl), by exact rfl, by decide⟩
  exact ⟨init, effects, initialised, s, trace, run, actions, enqueues,
    rx_builds_agree_along_runs run enqueues⟩

end EmacPsDma
