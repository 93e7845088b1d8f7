import EmacPsDma.Rx.Run
import EmacPsDma.Tx.Queue

/-!
# The driver, the MAC and the IP task over one buffer manager

The two paths share the network buffers of one pool: the IP task allocates, sends and releases,
`emacps_check_rx` takes replacements and hands buffers on, and `emacps_check_tx` maps reclaimed
payloads back with `pxPacketBuffer_to_NetworkBuffer`.  Along every run from `init_dma` each buffer
has one owner, no payload pointer changes, and that lookup always succeeds.
-/

namespace EmacPsDma

variable {nr nt : Nat}

/-- The build options of both paths, the hooks of the receive path, and every network buffer of the
buffer manager. -/
structure NetConfig extends RxConfig where
  /-- The network buffers of the buffer manager, by descriptor. -/
  buffers : List Nat

/-- One MAC with `nr` RX and `nt` TX descriptors.  The pool, the descriptors and the buffers the IP
task holds are those of the receive side. -/
structure NetState (nr nt : Nat) where
  /-- The receive side, with the buffer manager and the IP task. -/
  rx : RxState nr
  /-- The transmit side. -/
  tx : TxState nt

/-! ## The buffer manager seen from `emacps_check_tx` -/

/-- Modelled from the buffer manager: `pxPacketBuffer_to_NetworkBuffer( pvBuffer )` returns the
network buffer whose `pucEthernetBuffer` is `pvBuffer`, and `NULL` when there is none. -/
def pxPacketBufferToNetworkBuffer (buffers : List Nat) (descriptors : Nat → RxDescriptor)
    (pvBuffer : Nat) : Option Nat :=
  buffers.find? fun pxBuffer => (descriptors pxBuffer).pucEthernetBuffer == pvBuffer

/-- What `emacps_check_tx` does with a payload it takes from `pxDMA_tx_buffers`: it releases the
network buffer of that payload, or logs that it cannot find one. -/
def releaseTxPayload (buffers : List Nat) (descriptors : Nat → RxDescriptor) :
    Effect → List Effect
  | .release pvBuffer =>
    match pxPacketBufferToNetworkBuffer buffers descriptors pvBuffer with
    | some pxBuffer => [.release pxBuffer]
    | none => [.log "emacps_check_tx: Can not find network buffer\n"]
  | effect => [effect]

/-- `emacps_send_message` releases the network buffer `pxBuffer` it was given when it does not
publish it. -/
def releaseDescriptor (pxBuffer : Nat) : Effect → Effect
  | .release _ => .release pxBuffer
  | effect => effect

/-! ## Runs -/

/-- The steps of the whole system. -/
inductive NetAction
  /-- A step of the receive side: a frame, a call of `emacps_check_rx`, or the IP task releasing a
  buffer it holds. -/
  | rx (action : RxAction)
  /-- The IP task takes a buffer from the pool to build a frame. -/
  | allocate
  /-- The IP task hands a buffer it holds, with a frame of `xDataLength` bytes, to
  `emacps_send_message`. -/
  | send (pxDescriptor xDataLength : Nat)
  /-- The MAC completes one frame. -/
  | complete
  /-- A call of `emacps_check_tx`. -/
  | checkTx

/-- One step, with its effects; `none` when it cannot happen.  Each buffer released goes back to
the end of the pool, in the order of the effects, as `vReleaseNetworkBufferAndDescriptor` does. -/
def netStep (config : NetConfig) (s : NetState nr nt) :
    NetAction → Option (NetState nr nt × List Effect)
  | .rx action => (rxStep config.toRxConfig s.rx action).map fun next => (⟨next.1, s.tx⟩, next.2)
  | .allocate => (pxGetNetworkBufferWithDescriptor true s.rx).map fun taken =>
      (⟨{ taken.2 with stack := taken.2.stack ++ [taken.1] }, s.tx⟩, [])
  | .send pxDescriptor xDataLength =>
    if held : pxDescriptor ∈ s.rx.stack ∧ (s.rx.descriptors pxDescriptor).pucEthernetBuffer ≠ 0 then
      let sent := emacpsSendMessage config.toConfig s.tx
        ⟨(s.rx.descriptors pxDescriptor).pucEthernetBuffer, xDataLength, held.2⟩
      let effects := sent.2.map (releaseDescriptor pxDescriptor)
      some (⟨{ s.rx with
          stack := s.rx.stack.erase pxDescriptor
          pool := s.rx.pool ++ releasedBuffers effects }, sent.1⟩, effects)
    else none
  | .complete => (txDmaComplete s.tx).map fun next => (⟨s.rx, next⟩, [])
  | .checkTx => (emacpsCheckTx s.tx).map fun checked =>
      let effects := checked.2.flatMap (releaseTxPayload config.buffers s.rx.descriptors)
      (⟨{ s.rx with pool := s.rx.pool ++ releasedBuffers effects }, checked.1⟩, effects)

/-- The states reached by finitely many steps from `init`, with the effects of each step. -/
inductive NetReachable (config : NetConfig) (init : NetState nr nt) :
    NetState nr nt → List (NetAction × List Effect) → Prop
  | init : NetReachable config init init []
  | step {s s' : NetState nr nt} {trace : List (NetAction × List Effect)} {action : NetAction}
      {effects : List Effect} :
      NetReachable config init s trace → netStep config s action = some (s', effects) →
      NetReachable config init s' (trace ++ [(action, effects)])

/-! ## Ownership -/

/-- The owners of the network buffers: the pool, the RX table from `rxHead`, the IP task, and the
frames in flight on the TX ring, whose buffers `txOwners` names, oldest first. -/
def netOwners (s : NetState nr nt) (txOwners : List Nat) : List Nat :=
  ownedBuffers s.rx [] ++ txOwners

/-- The whole system between two steps, with `txOwners` the buffers of the frames in flight. -/
structure NetInvariant (config : NetConfig) (s : NetState nr nt) (txOwners : List Nat) :
    Prop where
  /-- The TX ring keeps its invariant. -/
  tx : TxInvariant s.tx
  /-- Where the receive DMA stands. -/
  dma : ∃ stored, RxDmaAt config.toConfig s.rx stored
  /-- The frames in flight carry the payloads of `txOwners`, in order. -/
  payloads : (txView s.tx).map Prod.fst =
    txOwners.map fun d => (s.rx.descriptors d).pucEthernetBuffer
  /-- No buffer has two owners, and no two share a payload. -/
  owned : BufferOwnership (fun d => (s.rx.descriptors d).pucEthernetBuffer) (netOwners s txOwners)
  /-- The owners hold the network buffers of the buffer manager. -/
  conserved : (netOwners s txOwners).Perm config.buffers

theorem BufferOwnership.sublist {payload : Nat → Nat} {owned owned' : List Nat}
    (ownership : BufferOwnership payload owned) (sub : owned'.Sublist owned) :
    BufferOwnership payload owned' where
  nodup := ownership.nodup.sublist sub
  nonzero d member := ownership.nonzero d (sub.subset member)
  valid d member := ownership.valid d (sub.subset member)
  separate d member d' member' := ownership.separate d (sub.subset member) d' (sub.subset member')

theorem NetInvariant.rx {config : NetConfig} {s : NetState nr nt} {txOwners : List Nat}
    (invariant : NetInvariant config s txOwners) : RxInvariant config.toConfig s.rx [] :=
  ⟨invariant.owned.sublist (List.sublist_append_left _ _), invariant.dma⟩

/-- `pxPacketBuffer_to_NetworkBuffer` finds every network buffer by its payload when no two share
one. -/
theorem pxPacketBufferToNetworkBuffer_of_mem {buffers : List Nat}
    {descriptors : Nat → RxDescriptor}
    (ownership : BufferOwnership (fun d => (descriptors d).pucEthernetBuffer) buffers)
    {pxBuffer : Nat} (member : pxBuffer ∈ buffers) :
    pxPacketBufferToNetworkBuffer buffers descriptors (descriptors pxBuffer).pucEthernetBuffer =
      some pxBuffer := by
  unfold pxPacketBufferToNetworkBuffer
  cases found : buffers.find?
      fun d => (descriptors d).pucEthernetBuffer == (descriptors pxBuffer).pucEthernetBuffer with
  | none => simpa using List.find?_eq_none.mp found pxBuffer member
  | some other =>
    rw [ownership.separate other (List.mem_of_find?_eq_some found) pxBuffer member
      (by simpa using List.find?_some found)]

/-- Reclaimed payloads of network buffers are released as those buffers. -/
theorem flatMap_releaseTxPayload {buffers : List Nat} {descriptors : Nat → RxDescriptor}
    (ownership : BufferOwnership (fun d => (descriptors d).pucEthernetBuffer) buffers)
    {released : List Nat} (members : ∀ d ∈ released, d ∈ buffers) :
    ((released.map fun d => (descriptors d).pucEthernetBuffer).map Effect.release).flatMap
        (releaseTxPayload buffers descriptors) = released.map Effect.release := by
  induction released with
  | nil => rfl
  | cons d rest ih =>
    simp only [List.map_cons, List.flatMap_cons, releaseTxPayload,
      pxPacketBufferToNetworkBuffer_of_mem ownership (members d (List.mem_cons_self _ _)),
      ih fun d' member => members d' (List.mem_cons_of_mem _ member), List.singleton_append]

theorem releasedBuffers_map_releaseDescriptor (pxBuffer : Nat) (effects : List Effect) :
    releasedBuffers (effects.map (releaseDescriptor pxBuffer)) =
      (releasedBuffers effects).map fun _ => pxBuffer := by
  induction effects with
  | nil => rfl
  | cons effect rest ih => cases effect <;> simp [releaseDescriptor, ih]

/-! ## One step of each kind -/

section Steps

variable {config : NetConfig} {s : NetState nr nt} {txOwners : List Nat}

/-- The TX ring is framed by the owners it does not touch. -/
theorem NetInvariant.of_tx (invariant : NetInvariant config s txOwners) {tx : TxState nt}
    {pool stack txOwners' : List Nat} (tx_invariant : TxInvariant tx)
    (payloads : (txView tx).map Prod.fst =
      txOwners'.map fun d => (s.rx.descriptors d).pucEthernetBuffer)
    (perm : (netOwners ⟨{ s.rx with pool := pool, stack := stack }, tx⟩ txOwners').Perm
      (netOwners s txOwners)) :
    NetInvariant config ⟨{ s.rx with pool := pool, stack := stack }, tx⟩ txOwners' := by
  obtain ⟨stored, dma⟩ := invariant.dma
  exact ⟨tx_invariant, ⟨stored, dma.with_owners pool stack⟩, payloads,
    invariant.owned.of_perm perm fun _ _ => rfl, perm.trans invariant.conserved⟩

theorem netStep_rx_invariant (invariant : NetInvariant config s txOwners) {action : RxAction}
    {s' : NetState nr nt} {effects : List Effect}
    (step : netStep config s (.rx action) = some (s', effects)) :
    NetInvariant config s' txOwners := by
  obtain ⟨⟨rx', effects'⟩, rx_step, same⟩ := Option.map_eq_some'.mp step
  cases same
  obtain ⟨rx_invariant, perm⟩ := rxStep_invariant invariant.rx rx_step
  have same := funext (rxStep_payload rx_step)
  have perm' : (netOwners ⟨rx', s.tx⟩ txOwners).Perm (netOwners s txOwners) :=
    perm.append_right txOwners
  exact ⟨invariant.tx, rx_invariant.dma, by rw [invariant.payloads]; simp only [same],
    invariant.owned.of_perm perm' fun d _ => congrFun same d, perm'.trans invariant.conserved⟩

theorem netStep_allocate_invariant (invariant : NetInvariant config s txOwners)
    {s' : NetState nr nt} {effects : List Effect}
    (step : netStep config s .allocate = some (s', effects)) :
    NetInvariant config s' txOwners := by
  obtain ⟨⟨pxBuffer, taken⟩, allocated, same⟩ := Option.map_eq_some'.mp step
  cases same
  obtain ⟨-, rest, pool, rfl⟩ := pxGetNetworkBufferWithDescriptor_eq_some.mp allocated
  refine invariant.of_tx invariant.tx invariant.payloads
    (List.perm_iff_count.mpr fun a => ?_)
  simp only [netOwners, ownedBuffers, pool, List.count_append, List.count_cons, List.count_nil]
  omega

theorem netStep_send_invariant (invariant : NetInvariant config s txOwners)
    {pxDescriptor xDataLength : Nat} {s' : NetState nr nt} {effects : List Effect}
    (step : netStep config s (.send pxDescriptor xDataLength) = some (s', effects)) :
    ∃ txOwners', NetInvariant config s' txOwners' := by
  simp only [netStep] at step
  split at step
  · next held =>
    obtain ⟨rfl, rfl⟩ := Prod.mk.inj (Option.some.inj step)
    set pxBuffer : NetworkBufferDescriptor :=
      ⟨(s.rx.descriptors pxDescriptor).pucEthernetBuffer, xDataLength, held.2⟩
    have refines := txStep_refines config.toConfig invariant.tx
      (show txStep config.toConfig s.tx (.send pxBuffer) = some
        ((emacpsSendMessage config.toConfig s.tx pxBuffer).1,
          (emacpsSendMessage config.toConfig s.tx pxBuffer).2) from rfl)
    have tx_invariant := emacpsSendMessage_invariant config.toConfig invariant.tx pxBuffer
    have moved (a : Nat) : s.rx.stack.count a =
        [pxDescriptor].count a + (s.rx.stack.erase pxDescriptor).count a := by
      rw [← List.count_append]
      exact (List.perm_cons_erase held.1).count_eq a
    generalize emacpsSendMessage config.toConfig s.tx pxBuffer = sent at refines tx_invariant ⊢
    rw [queueStep, queueSend, Option.some.injEq] at refines
    split at refines
    · obtain ⟨published, quiet⟩ := Prod.mk.inj refines
      refine ⟨txOwners ++ [pxDescriptor], invariant.of_tx tx_invariant
        (by rw [← published, List.map_append, List.map_append, invariant.payloads]; rfl)
        (List.perm_iff_count.mpr fun a => ?_)⟩
      simp only [netOwners, ownedBuffers, releasedBuffers_map_releaseDescriptor, ← quiet,
        List.map_nil, List.count_append, List.count_nil, moved a]
      omega
    · obtain ⟨same, released⟩ := Prod.mk.inj refines
      refine ⟨txOwners, invariant.of_tx tx_invariant (by rw [← same, invariant.payloads])
        (List.perm_iff_count.mpr fun a => ?_)⟩
      simp only [netOwners, ownedBuffers, releasedBuffers_map_releaseDescriptor, ← released,
        List.map_cons, List.map_nil, List.count_append, List.count_nil, moved a]
      omega
  · cases step

theorem netStep_complete_invariant (invariant : NetInvariant config s txOwners)
    {s' : NetState nr nt} {effects : List Effect}
    (step : netStep config s .complete = some (s', effects)) :
    NetInvariant config s' txOwners := by
  obtain ⟨tx', complete, same⟩ := Option.map_eq_some'.mp step
  cases same
  have tx_invariant := (txDmaComplete_invariant invariant.tx complete).1
  exact ⟨tx_invariant, invariant.dma,
    (queueComplete_payloads (txView_complete invariant.tx complete)).trans invariant.payloads,
    invariant.owned, invariant.conserved⟩

/-- A call of `emacps_check_tx` releases the network buffers of the sent frames at the front of
the queue, found by their payloads, and only those. -/
theorem netStep_checkTx_spec (invariant : NetInvariant config s txOwners)
    {s' : NetState nr nt} {effects : List Effect}
    (step : netStep config s .checkTx = some (s', effects)) :
    ∃ front rest, txOwners = front ++ rest ∧
      ((txView s.tx).takeWhile (·.2)).length = front.length ∧
      effects = front.map Effect.release ∧ NetInvariant config s' rest := by
  obtain ⟨sent, dma⟩ := invariant.tx.dma
  rw [netStep, emacpsCheckTx_of_invariant invariant.tx, checkTxLoop_eq_reclaimRun invariant.tx dma,
    Option.map_some', Option.some.injEq] at step
  dsimp only at step
  obtain ⟨rfl, rfl⟩ := Prod.mk.inj step
  obtain ⟨reclaimed, given⟩ := Prod.mk.inj (queueReclaim_txView invariant.tx dma)
  have split := congrArg (List.map Prod.fst)
    (List.takeWhile_append_dropWhile (fun entry : Nat × Bool => entry.2) (txView s.tx))
  rw [List.map_append, invariant.payloads] at split
  obtain ⟨front, rest, rfl, front_eq, rest_eq⟩ := List.append_eq_map_iff.mp split
  have given_eq : readRing s.tx.txBuffers s.tx.txTail sent =
      front.map fun d => (s.rx.descriptors d).pucEthernetBuffer := by
    rw [← given]
    exact front_eq.symm
  have buffers_owned := invariant.owned.of_perm invariant.conserved.symm fun _ _ => rfl
  have released : ((readRing s.tx.txBuffers s.tx.txTail sent).map Effect.release).flatMap
      (releaseTxPayload config.buffers s.rx.descriptors) = front.map Effect.release := by
    rw [given_eq]
    exact flatMap_releaseTxPayload buffers_owned fun d member => invariant.conserved.subset
      (List.mem_append_right _ (List.mem_append_left _ member))
  have tx_invariant : TxInvariant (reclaimRun s.tx sent) := by
    simpa only [checkTxLoop_eq_reclaimRun invariant.tx dma] using
      (checkTxLoop_spec sent s.tx invariant.tx dma).1
  refine ⟨front, rest, rfl, by rw [← List.length_map _ Prod.fst, ← front_eq, List.length_map],
    released, invariant.of_tx tx_invariant (by rw [← reclaimed]; exact rest_eq.symm)
    (List.perm_iff_count.mpr fun a => ?_)⟩
  simp only [netOwners, ownedBuffers, released, releasedBuffers_map_release, List.count_append,
    List.count_nil]
  omega

theorem netStep_invariant (invariant : NetInvariant config s txOwners) {action : NetAction}
    {s' : NetState nr nt} {effects : List Effect}
    (step : netStep config s action = some (s', effects)) :
    ∃ txOwners', NetInvariant config s' txOwners' := by
  cases action with
  | rx action => exact ⟨txOwners, netStep_rx_invariant invariant step⟩
  | allocate => exact ⟨txOwners, netStep_allocate_invariant invariant step⟩
  | send pxDescriptor xDataLength => exact netStep_send_invariant invariant step
  | complete => exact ⟨txOwners, netStep_complete_invariant invariant step⟩
  | checkTx =>
    obtain ⟨-, rest, -, -, -, invariant'⟩ := netStep_checkTx_spec invariant step
    exact ⟨rest, invariant'⟩

/-- No step moves a payload pointer. -/
theorem netStep_payload {s' : NetState nr nt} {action : NetAction} {effects : List Effect}
    (step : netStep config s action = some (s', effects)) (d : Nat) :
    (s'.rx.descriptors d).pucEthernetBuffer = (s.rx.descriptors d).pucEthernetBuffer := by
  cases action with
  | rx action =>
    obtain ⟨⟨rx', effects'⟩, rx_step, same⟩ := Option.map_eq_some'.mp step
    cases same
    exact rxStep_payload rx_step d
  | allocate =>
    obtain ⟨⟨pxBuffer, taken⟩, allocated, same⟩ := Option.map_eq_some'.mp step
    cases same
    obtain ⟨-, rest, -, rfl⟩ := pxGetNetworkBufferWithDescriptor_eq_some.mp allocated
    rfl
  | send pxDescriptor xDataLength =>
    simp only [netStep] at step
    split at step
    · obtain ⟨rfl, rfl⟩ := Prod.mk.inj (Option.some.inj step)
      rfl
    · cases step
  | complete =>
    obtain ⟨tx', -, same⟩ := Option.map_eq_some'.mp step
    cases same
    rfl
  | checkTx =>
    obtain ⟨checked, -, same⟩ := Option.map_eq_some'.mp step
    cases same
    rfl

end Steps

/-! ## Whole runs -/

/-- Every state reached from a successful `init_dma` with every network buffer in the pool keeps
the invariant of the whole system. -/
theorem netReachable_invariant [NeZero nr] [NeZero nt] {config : NetConfig}
    {descriptors : Nat → RxDescriptor} {memory : Nat → List UInt8} {init : RxState nr}
    {effects : List Effect}
    (buffers_owned : BufferOwnership (fun d => (descriptors d).pucEthernetBuffer) config.buffers)
    (initialised :
      rxInitDma config.toConfig (rxZero nr descriptors memory config.buffers) = some (init, effects))
    {s : NetState nr nt} {trace : List (NetAction × List Effect)}
    (reachable : NetReachable config ⟨init, txStart nt⟩ s trace) :
    ∃ txOwners, NetInvariant config s txOwners := by
  induction reachable with
  | init =>
    obtain ⟨rx_invariant, dma, perm⟩ := rxInitDma_invariant buffers_owned initialised
    have empty : txView (txStart nt) = [] := by
      rw [txView, show inFlight (txStart nt) = 0 by simp [inFlight, txStart, txInitDma]]
      rfl
    refine ⟨[], txStart_invariant nt, ⟨0, dma⟩, by rw [empty]; rfl, ?_, ?_⟩
    · simpa [netOwners] using rx_invariant.owned
    · simpa [netOwners] using perm
  | step _ step ih =>
    obtain ⟨txOwners, invariant⟩ := ih
    exact netStep_invariant invariant step

theorem netReachable_payload {config : NetConfig} {init s : NetState nr nt}
    {trace : List (NetAction × List Effect)} (reachable : NetReachable config init s trace)
    (d : Nat) : (s.rx.descriptors d).pucEthernetBuffer = (init.rx.descriptors d).pucEthernetBuffer := by
  induction reachable with
  | init => rfl
  | step _ step ih => rw [netStep_payload step, ih]

/-- Along every run of the MAC, the driver and the IP task from a successful `init_dma`, both rings
keep their invariants and every network buffer has exactly one owner. -/
theorem net_buffer_ownership [NeZero nr] [NeZero nt] {config : NetConfig}
    {descriptors : Nat → RxDescriptor} {memory : Nat → List UInt8} {init : RxState nr}
    {effects : List Effect}
    (buffers_owned : BufferOwnership (fun d => (descriptors d).pucEthernetBuffer) config.buffers)
    (initialised :
      rxInitDma config.toConfig (rxZero nr descriptors memory config.buffers) = some (init, effects))
    {s : NetState nr nt} {trace : List (NetAction × List Effect)}
    (reachable : NetReachable config ⟨init, txStart nt⟩ s trace) :
    RxInvariant config.toConfig s.rx [] ∧ TxInvariant s.tx ∧
      (∀ d, (s.rx.descriptors d).pucEthernetBuffer = (init.descriptors d).pucEthernetBuffer) ∧
      ∃ txOwners : List Nat, (txView s.tx).map Prod.fst =
          txOwners.map (fun d => (s.rx.descriptors d).pucEthernetBuffer) ∧
        (s.rx.pool ++ readRing s.rx.rxBuffers s.rx.rxHead nr ++ s.rx.stack ++ txOwners).Perm
          config.buffers := by
  obtain ⟨txOwners, invariant⟩ := netReachable_invariant buffers_owned initialised reachable
  refine ⟨invariant.rx, invariant.tx, netReachable_payload reachable, txOwners, invariant.payloads,
    ?_⟩
  simpa [netOwners, ownedBuffers] using invariant.conserved

theorem net_buffer_ownership_after_reuse :
    ∃ init effects,
      rxInitDma ⟨10, false, 42, fun _ => false⟩
          (rxZero 2 (fun d => ⟨4 * d + 2, 0, 0, 0, 0⟩) (fun _ => []) [1, 2, 3]) =
        some (init, effects) ∧
      ∃ s trace, NetReachable ⟨⟨⟨10, false, 42, fun _ => false⟩,
          ⟨true, false, false, false, fun _ => false⟩, fun _ _ => 0⟩, [1, 2, 3]⟩ ⟨init, txStart 2⟩
          s trace ∧
        trace.map Prod.fst = [.allocate, .send 3 60,
          .rx (.receive (List.replicate 12 0 ++ [8, 6] ++ List.replicate 46 0)), .complete, .checkTx,
          .rx (.checkRx 5 (fun _ => true) true)] ∧ s.rx.stack = [1] ∧ s.rx.rxBuffers 0 = 3 ∧
        RxInvariant ⟨10, false, 42, fun _ => false⟩ s.rx [] ∧ TxInvariant s.tx ∧
        (∀ d, (s.rx.descriptors d).pucEthernetBuffer = (init.descriptors d).pucEthernetBuffer) ∧
        ∃ txOwners : List Nat, (txView s.tx).map Prod.fst =
            txOwners.map (fun d => (s.rx.descriptors d).pucEthernetBuffer) ∧
          (s.rx.pool ++ readRing s.rx.rxBuffers s.rx.rxHead 2 ++ s.rx.stack ++ txOwners).Perm
            [1, 2, 3] := by
  obtain ⟨init, effects, initialised, s, trace, run, actions, stack, reused⟩ : ∃ init effects,
      rxInitDma ⟨10, false, 42, fun _ => false⟩
          (rxZero 2 (fun d => ⟨4 * d + 2, 0, 0, 0, 0⟩) (fun _ => []) [1, 2, 3]) =
        some (init, effects) ∧
      ∃ s trace, NetReachable ⟨⟨⟨10, false, 42, fun _ => false⟩,
          ⟨true, false, false, false, fun _ => false⟩, fun _ _ => 0⟩, [1, 2, 3]⟩ ⟨init, txStart 2⟩
          s trace ∧
        trace.map Prod.fst = [.allocate, .send 3 60,
          .rx (.receive (List.replicate 12 0 ++ [8, 6] ++ List.replicate 46 0)), .complete, .checkTx,
          .rx (.checkRx 5 (fun _ => true) true)] ∧ s.rx.stack = [1] ∧ s.rx.rxBuffers 0 = 3 :=
    ⟨_, _, rfl, _, _, (((((NetReachable.init.step
      (show netStep _ _ .allocate = some (_, _) by exact rfl)).step
      (show netStep _ _ (.send 3 60) = some (_, _) by exact rfl)).step
      (show netStep _ _ (.rx (.receive (List.replicate 12 0 ++ [8, 6] ++ List.replicate 46 0))) =
        some (_, _) by exact rfl)).step
      (show netStep _ _ .complete = some (_, _) by exact rfl)).step
      (show netStep _ _ .checkTx = some (_, _) by exact rfl)).step
      (show netStep _ _ (.rx (.checkRx 5 (fun _ => true) true)) = some (_, _) by exact rfl),
      by exact rfl, by exact rfl, by exact rfl⟩
  exact ⟨init, effects, initialised, s, trace, run, actions, stack, reused,
    net_buffer_ownership ⟨by decide, by decide, by decide, by decide⟩ initialised run⟩

/-- Along every such run, `emacps_check_tx` never takes its "Can not find network buffer" branch: it
releases the network buffers of the sent frames at the front of the ring, oldest first. -/
theorem emacps_check_tx_finds_network_buffers [NeZero nr] [NeZero nt] {config : NetConfig}
    {descriptors : Nat → RxDescriptor} {memory : Nat → List UInt8} {init : RxState nr}
    {initEffects : List Effect}
    (buffers_owned : BufferOwnership (fun d => (descriptors d).pucEthernetBuffer) config.buffers)
    (initialised : rxInitDma config.toConfig (rxZero nr descriptors memory config.buffers) =
      some (init, initEffects))
    {s s' : NetState nr nt} {trace : List (NetAction × List Effect)} {effects : List Effect}
    (reachable : NetReachable config ⟨init, txStart nt⟩ s trace)
    (step : netStep config s .checkTx = some (s', effects)) :
    ∃ txOwners : List Nat, (txView s.tx).map Prod.fst =
        txOwners.map (fun d => (s.rx.descriptors d).pucEthernetBuffer) ∧
      effects = (txOwners.take ((txView s.tx).takeWhile (·.2)).length).map Effect.release := by
  obtain ⟨txOwners, invariant⟩ := netReachable_invariant buffers_owned initialised reachable
  obtain ⟨front, rest, rfl, length_eq, released, -⟩ := netStep_checkTx_spec invariant step
  refine ⟨front ++ rest, invariant.payloads, ?_⟩
  rw [length_eq, List.take_left, released]

theorem emacps_check_tx_finds_network_buffers_after_send :
    ∃ init initEffects s trace s' effects,
      rxInitDma ⟨10, false, 42, fun _ => false⟩
          (rxZero 2 (fun d => ⟨4 * d + 2, 0, 0, 0, 0⟩) (fun _ => []) [1, 2, 3]) =
        some (init, initEffects) ∧
      NetReachable (⟨⟨⟨10, false, 42, fun _ => false⟩, ⟨true, false, false, false, fun _ => false⟩,
          fun _ _ => 0⟩, [1, 2, 3]⟩ : NetConfig) ⟨init, txStart 2⟩ s trace ∧
      netStep ⟨⟨⟨10, false, 42, fun _ => false⟩, ⟨true, false, false, false, fun _ => false⟩,
          fun _ _ => 0⟩, [1, 2, 3]⟩ s .checkTx = some (s', effects) ∧ effects = [.release 3] ∧
      ∃ txOwners : List Nat, (txView s.tx).map Prod.fst =
          txOwners.map (fun d => (s.rx.descriptors d).pucEthernetBuffer) ∧
        effects = (txOwners.take ((txView s.tx).takeWhile (·.2)).length).map Effect.release := by
  refine ⟨_, _, _, _, _, _, rfl, NetReachable.step (NetReachable.step (NetReachable.step .init
    (show netStep _ _ .allocate = some (_, _) by exact rfl))
    (show netStep _ _ (.send 3 60) = some (_, _) by exact rfl))
    (show netStep _ _ .complete = some (_, _) by exact rfl), by exact rfl, by exact rfl, ?_⟩
  exact @emacps_check_tx_finds_network_buffers 2 2 _ _
    ⟨⟨⟨10, false, 42, fun _ => false⟩, ⟨true, false, false, false, fun _ => false⟩, fun _ _ => 0⟩,
      [1, 2, 3]⟩ (fun d => ⟨4 * d + 2, 0, 0, 0, 0⟩) (fun _ => []) _ _
    ⟨by decide, by decide, by decide, by decide⟩ rfl _ _ _ _
    (.step (.step (.step .init (show netStep _ _ .allocate = some (_, _) by exact rfl))
      (show netStep _ _ (.send 3 60) = some (_, _) by exact rfl))
      (show netStep _ _ .complete = some (_, _) by exact rfl)) (by exact rfl)

end EmacPsDma
