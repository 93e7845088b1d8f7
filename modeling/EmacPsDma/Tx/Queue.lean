import EmacPsDma.Tx.Invariant

/-!
# The TX ring as a queue of frames

What the TX ring is for: a queue of the frames handed to the MAC and not yet given back, oldest
first, each marked once the MAC has sent it.  A send appends its frame, or returns its buffer at
once when it is refused; the MAC marks the oldest frame it has not sent; a reclaim gives back the
frames at the front that are marked.  The ring of the driver, read from `txTail`, is this queue at
every point of every run, and the driver releases exactly the buffers the queue gives back.
-/

namespace EmacPsDma

/-- The frames in flight, oldest first: the payload and whether the MAC has sent it. -/
abbrev TxQueue := List (Nat × Bool)

/-- A send joins the queue when the frame is accepted and there is room; otherwise its buffer goes
straight back. -/
def queueSend (capacity : Nat) (accepted : Bool) (payload : Nat) (queue : TxQueue) :
    TxQueue × List Nat :=
  if accepted ∧ queue.length < capacity then (queue ++ [(payload, false)], []) else (queue, [payload])

/-- The MAC sends the oldest frame it has not sent yet; `none` when it has sent them all. -/
def queueComplete : TxQueue → Option TxQueue
  | [] => none
  | (payload, true) :: rest => (queueComplete rest).map ((payload, true) :: ·)
  | (payload, false) :: rest => some ((payload, true) :: rest)

/-- A reclaim gives back the frames at the front that the MAC has sent. -/
def queueReclaim (queue : TxQueue) : TxQueue × List Nat :=
  (queue.dropWhile (·.2), (queue.takeWhile (·.2)).map (·.1))

/-- One step of the queue, with the buffers it gives back. -/
def queueStep (config : Config) (capacity : Nat) (queue : TxQueue) :
    TxAction → Option (TxQueue × List Nat)
  | .send pxBuffer => some (queueSend capacity (xValidLength config (toBaseType pxBuffer.xDataLength))
      pxBuffer.pucEthernetBuffer queue)
  | .complete => (queueComplete queue).map fun next => (next, [])
  | .checkTx => some (queueReclaim queue)

/-- The queues reached by finitely many steps from the empty one, with what each step gave back. -/
inductive QueueReachable (config : Config) (capacity : Nat) :
    TxQueue → List (TxAction × List Nat) → Prop
  | init : QueueReachable config capacity [] []
  | step {queue queue' : TxQueue} {trace : List (TxAction × List Nat)} {action : TxAction}
      {released : List Nat} :
      QueueReachable config capacity queue trace →
      queueStep config capacity queue action = some (queue', released) →
      QueueReachable config capacity queue' (trace ++ [(action, released)])

/-- The buffers of the sends that joined the queue, in order. -/
def publishedBuffers (trace : List (TxAction × List Nat)) : List Nat :=
  trace.flatMap fun step => match step.1 with
    | .send pxBuffer => if step.2 = [] then [pxBuffer.pucEthernetBuffer] else []
    | _ => []

/-- The buffers the reclaims gave back, in order. -/
def reclaimedBuffers (trace : List (TxAction × List Nat)) : List Nat :=
  trace.flatMap fun step => match step.1 with
    | .checkTx => step.2
    | _ => []

theorem queueComplete_payloads {queue queue' : TxQueue}
    (complete : queueComplete queue = some queue') :
    queue'.map Prod.fst = queue.map Prod.fst := by
  induction queue generalizing queue' with
  | nil => cases complete
  | cons head rest ih =>
    obtain ⟨payload, sent⟩ := head
    cases sent with
    | false =>
      cases complete
      rfl
    | true =>
      obtain ⟨marked, marked_eq, rfl⟩ := Option.map_eq_some'.mp complete
      simp [ih marked_eq]

/-- The MAC marks the first frame after the ones it has sent. -/
theorem queueComplete_after_sent (sent rest : TxQueue) (payload : Nat)
    (all_sent : ∀ entry ∈ sent, entry.2 = true) :
    queueComplete (sent ++ (payload, false) :: rest) = some (sent ++ (payload, true) :: rest) := by
  induction sent with
  | nil => rfl
  | cons head tail ih =>
    obtain ⟨first, first_sent⟩ := head
    have first_true : first_sent = true := all_sent _ (List.mem_cons_self _ _)
    subst first_true
    simp [queueComplete, ih fun entry member => all_sent entry (List.mem_cons_of_mem _ member)]

/-- Every buffer that joined the queue has been given back by a reclaim, in the order it joined,
or is still in the queue, in that order too. -/
theorem queue_conservation {config : Config} {capacity : Nat} {queue : TxQueue}
    {trace : List (TxAction × List Nat)} (reachable : QueueReachable config capacity queue trace) :
    reclaimedBuffers trace ++ queue.map Prod.fst = publishedBuffers trace := by
  induction reachable with
  | init => rfl
  | @step queue queue' trace action released _ step ih =>
    simp only [reclaimedBuffers, publishedBuffers, List.flatMap_append] at ih ⊢
    cases action with
    | send pxBuffer =>
      simp only [queueStep, queueSend, Option.some.injEq] at step
      split at step <;> cases step <;> simp [← ih]
    | complete =>
      obtain ⟨marked, marked_eq, same⟩ := Option.map_eq_some'.mp step
      cases same
      simp [← ih, queueComplete_payloads marked_eq]
    | checkTx =>
      simp only [queueStep, queueReclaim, Option.some.injEq] at step
      cases step
      simp only [List.flatMap_cons, List.flatMap_nil, List.append_nil, List.append_assoc, ← ih,
        ← List.map_append, List.takeWhile_append_dropWhile]

/-! ## The ring read as a queue -/

variable {n : Nat}

/-- A slot of the ring as a queue entry: its buffer and its `USED` bit. -/
def txEntry (s : TxState n) (index : Fin n) : Nat × Bool :=
  (s.txBuffers index, txUsed (s.txSegments index).flags)

/-- The in-flight window of the ring from `txTail`, read as a queue. -/
def txView (s : TxState n) : TxQueue :=
  readRing (txEntry s) s.txTail (inFlight s)

@[simp] theorem length_txView (s : TxState n) : (txView s).length = inFlight s := by
  simp [txView]

theorem sent_entries_used {s : TxState n} {sent : Nat} (dma : TxDmaAt s sent) :
    ∀ entry ∈ readRing (txEntry s) s.txTail sent, entry.2 = true := by
  intro entry member
  obtain ⟨offset, small, rfl⟩ := List.mem_map.mp member
  rw [List.mem_range] at small
  simp only [txEntry]
  rw [dma.2.2 offset (by have := dma.1; omega), decide_eq_true small]

/-- With the MAC after the first `sent` frames, the window is the sent frames followed by the
pending ones. -/
theorem txView_split {s : TxState n} {sent : Nat} (dma : TxDmaAt s sent) :
    txView s = readRing (txEntry s) s.txTail sent ++
      readRing (txEntry s) (slotAt s.txTail sent) (inFlight s - sent) := by
  rw [txView, ← readRing_add, Nat.add_sub_cancel' dma.1]

theorem sendBlock_eq_error {config : Config} {s : TxState n} {pxBuffer : NetworkBufferDescriptor}
    {logged : List Effect} (block : sendBlock config s pxBuffer = .error logged) :
    releasedBuffers logged = [] ∧ (xValidLength config (toBaseType pxBuffer.xDataLength) = true →
      s.txSemaphore = none ∨ s.txSemaphore = some 0) := by
  unfold sendBlock at block
  split at block
  · cases block
    exact ⟨rfl, fun valid => by simp_all⟩
  split at block
  · cases block
    exact ⟨rfl, fun _ => Or.inl ‹_›⟩
  rename_i count semaphore
  split at block
  · rename_i timeout
    cases block
    unfold semaphoreTake at timeout
    split at timeout
    · cases timeout
    · exact ⟨rfl, fun _ => Or.inr (by rw [semaphore]; congr; omega)⟩
  · cases block

/-- `emacps_send_message` either refuses the frame, changing nothing and releasing it once, or
publishes it at `txHead` with `USED` clear and releases nothing. -/
theorem emacpsSendMessage_spec (config : Config) (s : TxState n)
    (pxBuffer : NetworkBufferDescriptor) :
    ((xValidLength config (toBaseType pxBuffer.xDataLength) = false ∨ s.txSemaphore = none ∨
        s.txSemaphore = some 0) →
      (emacpsSendMessage config s pxBuffer).1 = s ∧
        releasedBuffers (emacpsSendMessage config s pxBuffer).2 = [pxBuffer.pucEthernetBuffer]) ∧
    (xValidLength config (toBaseType pxBuffer.xDataLength) = true → ∀ count,
      s.txSemaphore = some count → 0 < count →
        (emacpsSendMessage config s pxBuffer).1 =
          { publishSlot s pxBuffer (count - 1) with txBusy := true } ∧
        releasedBuffers (emacpsSendMessage config s pxBuffer).2 = []) := by
  unfold emacpsSendMessage
  split
  · next logged block =>
    have refused := sendBlock_eq_error block
    refine ⟨fun _ => ⟨rfl, by rw [releasedBuffers_append, refused.1]; rfl⟩,
      fun valid count semaphore positive => ?_⟩
    rcases refused.2 valid with missing | empty
    · simp_all
    · rw [semaphore, Option.some.injEq] at empty
      omega
  · next published flush block =>
    obtain ⟨count, semaphore, positive, rfl, flushed⟩ := sendBlock_eq_ok block
    have quiet : releasedBuffers flush = [] := by
      simp only at flushed
      rw [flushed]
      split <;> rfl
    refine ⟨fun refused => ?_, fun _ other other_eq _ => ?_⟩
    · exfalso
      unfold sendBlock at block
      rcases refused with invalid | missing | empty
      · simp [invalid] at block
      · simp [missing] at block
      · rw [semaphore, Option.some.injEq] at empty
        omega
    · rw [semaphore, Option.some.injEq] at other_eq
      subst other_eq
      exact ⟨rfl, by rw [releasedBuffers_append, quiet]; rfl⟩

/-! ## Each step of the driver is a step of the queue -/

/-- Publishing a frame at `txHead` appends it, unsent, to the queue. -/
theorem txView_publish {s : TxState n} {count : Nat} (invariant : TxInvariant s)
    (semaphore : s.txSemaphore = some count) (positive : 0 < count)
    (pxBuffer : NetworkBufferDescriptor) :
    txView (publishSlot s pxBuffer (count - 1)) =
      txView s ++ [(pxBuffer.pucEthernetBuffer, false)] := by
  obtain ⟨counted, counted_eq, bounded⟩ := invariant.semaphore
  rw [semaphore, Option.some.injEq] at counted_eq
  subst counted_eq
  have room : inFlight s < n := by rw [inFlight_of_semaphore semaphore]; omega
  have grown : inFlight (publishSlot s pxBuffer (count - 1)) = inFlight s + 1 := by
    rw [inFlight_of_semaphore (publishSlot_txSemaphore s pxBuffer _),
      inFlight_of_semaphore semaphore]
    omega
  have head_out : ¬InWindow s.txTail (inFlight s) s.txHead := by
    rw [invariant.head, InWindow, offsetFrom_slotAt _ room]
    exact lt_irrefl _
  rw [txView, grown, publishSlot_txTail, readRing_succ, ← invariant.head]
  congr 1
  · refine readRing_congr (fun index inside => ?_) room.le
    have other : index ≠ s.txHead := fun same => head_out (same ▸ inside)
    simp [txEntry, Function.update_noteq other]
  · simp [txEntry]

/-- A completion marks the oldest unsent frame of the queue as sent. -/
theorem txView_complete {s s' : TxState n} (invariant : TxInvariant s)
    (complete : txDmaComplete s = some s') : queueComplete (txView s) = some (txView s') := by
  obtain ⟨sent, dma⟩ := invariant.dma
  have behind := ((txDmaComplete_invariant invariant complete).2 sent dma).1
  obtain ⟨pending, s'_eq⟩ := txDmaComplete_eq_some invariant complete
  obtain ⟨rest, rest_eq⟩ : ∃ rest, inFlight s - sent = rest + 1 := ⟨inFlight s - sent - 1, by omega⟩
  have bound := inFlight_le s
  have split (ring : Fin n → Nat × Bool) : readRing ring s.txTail (inFlight s) =
      readRing ring s.txTail sent ++
        ring s.txDmaIndex :: readRing ring (advance s.txDmaIndex) rest := by
    rw [← Nat.add_sub_cancel' dma.1, readRing_add, rest_eq, readRing_succ_left, dma.2.1]
  have unchanged (index : Fin n) (other : index ≠ s.txDmaIndex) :
      txEntry s' index = txEntry s index := by
    rw [s'_eq]
    simp [txEntry, markUsed_other _ other]
  have before : readRing (txEntry s') s.txTail sent = readRing (txEntry s) s.txTail sent := by
    refine readRing_congr (fun index inside => unchanged index ?_) (by omega)
    rintro rfl
    rw [InWindow, dma.2.1, offsetFrom_slotAt _ (by omega)] at inside
    exact lt_irrefl _ inside
  have after : readRing (txEntry s') (advance s.txDmaIndex) rest =
      readRing (txEntry s) (advance s.txDmaIndex) rest := by
    refine readRing_congr (fun index inside => unchanged index ?_) (by omega)
    rintro rfl
    rw [InWindow, offsetFrom_advance_self] at inside
    omega
  have marked : txEntry s' s.txDmaIndex = (s.txBuffers s.txDmaIndex, true) := by
    rw [s'_eq]
    simp [txEntry, txUsed_or_used]
  have unsent : txEntry s s.txDmaIndex = (s.txBuffers s.txDmaIndex, false) := by
    rw [txEntry, pending]
  have tail' : s'.txTail = s.txTail := by rw [s'_eq]
  have inflight' : inFlight s' = inFlight s := by rw [s'_eq]; rfl
  rw [txView, txView, tail', inflight', split, split, before, after, marked, unsent]
  exact queueComplete_after_sent _ _ _ (sent_entries_used dma)

/-- Reclaiming the first `sent` slots gives back the sent frames at the front of the queue. -/
theorem queueReclaim_txView {s : TxState n} {sent : Nat} (invariant : TxInvariant s)
    (dma : TxDmaAt s sent) :
    queueReclaim (txView s) = (txView (reclaimRun s sent), readRing s.txBuffers s.txTail sent) := by
  obtain ⟨count, semaphore, _⟩ := invariant.semaphore
  have bound := inFlight_le s
  have given : (reclaimRun s sent).txSemaphore = some (count + sent) := by
    simp [reclaimRun, semaphore]
  have shrunk : inFlight (reclaimRun s sent) = inFlight s - sent := by
    rw [inFlight_of_semaphore given, inFlight_of_semaphore semaphore]
    omega
  have rest : txView (reclaimRun s sent) =
      readRing (txEntry s) (slotAt s.txTail sent) (inFlight s - sent) := by
    rw [txView, shrunk]
    refine readRing_congr (fun index inside => ?_) (by omega)
    have outside := not_inWindow_of_inWindow_slotAt inside (by have := dma.1; omega)
    simp [txEntry, reclaimRun, outside]
  rw [queueReclaim, txView_split dma, rest, List.takeWhile_append_of_pos (sent_entries_used dma),
    List.dropWhile_append_of_pos (sent_entries_used dma), List.map_append, map_readRing]
  cases remaining : inFlight s - sent with
  | zero =>
    simp only [readRing_zero, List.dropWhile_nil, List.takeWhile_nil, List.map_nil, List.append_nil]
    rfl
  | succ more =>
    have unsent := dma.2.2 sent (by omega)
    rw [readRing_succ_left, List.takeWhile_cons_of_neg, List.dropWhile_cons_of_neg] <;>
      simp [txEntry, unsent]
    rfl

/-- From a state with the invariant, every step of the driver is the step of the queue read from its
ring, and releases exactly the buffers the queue gives back. -/
theorem txStep_refines (config : Config) {s s' : TxState n} {action : TxAction}
    {effects : List Effect} (invariant : TxInvariant s)
    (step : txStep config s action = some (s', effects)) :
    queueStep config n (txView s) action = some (txView s', releasedBuffers effects) := by
  cases action with
  | send pxBuffer =>
    rw [txStep, Option.some.injEq] at step
    obtain ⟨count, semaphore, _⟩ := invariant.semaphore
    have spec := emacpsSendMessage_spec config s pxBuffer
    rw [step] at spec
    dsimp only at spec
    rw [queueStep, queueSend, length_txView, inFlight_of_semaphore semaphore]
    by_cases accepted : xValidLength config (toBaseType pxBuffer.xDataLength) = true ∧ 0 < count
    · obtain ⟨published, quiet⟩ := spec.2 accepted.1 count semaphore accepted.2
      rw [if_pos ⟨accepted.1, by omega⟩, published, quiet]
      exact congrArg (some <| Prod.mk · [])
        (txView_publish invariant semaphore accepted.2 pxBuffer).symm
    · have refused : xValidLength config (toBaseType pxBuffer.xDataLength) = false ∨
          s.txSemaphore = none ∨ s.txSemaphore = some 0 := by
        by_cases valid : xValidLength config (toBaseType pxBuffer.xDataLength) = true
        · exact Or.inr (Or.inr (by rw [semaphore, Nat.eq_zero_of_not_pos (accepted ⟨valid, ·⟩)]))
        · exact Or.inl (Bool.of_not_eq_true valid)
      obtain ⟨same, released⟩ := spec.1 refused
      rw [if_neg fun both => accepted ⟨both.1, by omega⟩, same, released]
  | complete =>
    obtain ⟨done, complete, same⟩ := Option.map_eq_some'.mp step
    cases same
    rw [queueStep, txView_complete invariant complete]
    rfl
  | checkTx =>
    obtain ⟨sent, dma⟩ := invariant.dma
    rw [txStep, emacpsCheckTx_of_invariant invariant, checkTxLoop_eq_reclaimRun invariant dma,
      Option.some.injEq] at step
    cases step
    rw [queueStep, queueReclaim_txView invariant dma, releasedBuffers_map_release]

/-- Every run of the driver from the state `init_dma` leaves is a run of the queue, with the same
buffers given back at each step. -/
theorem txReachable_refines [NeZero n] {config : Config} {s : TxState n}
    {trace : List (TxAction × List Effect)} (reachable : TxReachable config (txStart n) s trace) :
    QueueReachable config n (txView s)
      (trace.map fun step => (step.1, releasedBuffers step.2)) := by
  induction reachable with
  | init =>
    have empty : inFlight (txStart n) = 0 := by simp [inFlight, txStart, txInitDma]
    rw [txView, empty, readRing_zero]
    exact .init
  | step reachable step ih =>
    rw [List.map_append]
    exact .step ih (txStep_refines config (txReachable_invariant reachable) step)

/-! ## Buffer ownership -/

/-- Along every TX run the ring is the queue of frames handed to the MAC, each buffer is released
once, in publication order, after its `USED` bit is set, and the next calls act on the queue. -/
theorem tx_buffer_ownership [NeZero n] {config : Config} {s : TxState n}
    {trace : List (TxAction × List Effect)} (reachable : TxReachable config (txStart n) s trace) :
    QueueReachable config n (txView s) (trace.map fun step => (step.1, releasedBuffers step.2)) ∧
    reclaimedBuffers (trace.map fun step => (step.1, releasedBuffers step.2)) ++
        (txView s).map Prod.fst =
      publishedBuffers (trace.map fun step => (step.1, releasedBuffers step.2)) ∧
    (∀ pxBuffer s' effects, emacpsSendMessage config s pxBuffer = (s', effects) →
      ((xValidLength config (toBaseType pxBuffer.xDataLength) = false ∨ s.txSemaphore = none ∨
          s.txSemaphore = some 0) →
        s' = s ∧ releasedBuffers effects = [pxBuffer.pucEthernetBuffer]) ∧
      (xValidLength config (toBaseType pxBuffer.xDataLength) = true → s.txSemaphore ≠ some 0 →
        s'.txBuffers s.txHead = pxBuffer.pucEthernetBuffer ∧
        (s'.txSegments s.txHead).address = pxBuffer.pucEthernetBuffer % 2 ^ 32 ∧
        txUsed (s'.txSegments s.txHead).flags = false ∧ releasedBuffers effects = [] ∧
        txView s' = txView s ++ [(pxBuffer.pucEthernetBuffer, false)])) ∧
    ∀ s' effects, emacpsCheckTx s = some (s', effects) →
      releasedBuffers effects = ((txView s).takeWhile (·.2)).map Prod.fst ∧
        txView s' = (txView s).dropWhile (·.2) := by
  have invariant := txReachable_invariant reachable
  have refines := txReachable_refines reachable
  refine ⟨refines, queue_conservation refines, fun pxBuffer s' effects call => ?_,
    fun s' effects check => ?_⟩
  · have spec := emacpsSendMessage_spec config s pxBuffer
    rw [call] at spec
    dsimp only at spec
    refine ⟨spec.1, fun valid nonzero => ?_⟩
    obtain ⟨count, semaphore, _⟩ := invariant.semaphore
    have positive : 0 < count := Nat.pos_of_ne_zero fun zero => nonzero (zero ▸ semaphore)
    obtain ⟨rfl, quiet⟩ := spec.2 valid count semaphore positive
    exact ⟨by simp, by simp, by simp, quiet, txView_publish invariant semaphore positive pxBuffer⟩
  · have step := txStep_refines config invariant
      (show txStep config s .checkTx = some (s', effects) from check)
    rw [queueStep, queueReclaim, Option.some.injEq, Prod.mk.injEq] at step
    exact ⟨step.2.symm, step.1.symm⟩

theorem tx_buffer_ownership_after_completion :
    ∃ s trace, TxReachable ⟨10, false, 42, fun _ => false⟩ (txStart 2) s trace ∧
      trace.map Prod.fst = [.send ⟨0x1000, 60, by decide⟩, .send ⟨0x2000, 60, by decide⟩, .complete] ∧
      txView s = [(0x1000, true), (0x2000, false)] ∧
      QueueReachable ⟨10, false, 42, fun _ => false⟩ 2 (txView s)
        (trace.map fun step => (step.1, releasedBuffers step.2)) ∧
      reclaimedBuffers (trace.map fun step => (step.1, releasedBuffers step.2)) ++
          (txView s).map Prod.fst =
        publishedBuffers (trace.map fun step => (step.1, releasedBuffers step.2)) ∧
      (∀ pxBuffer s' effects,
        emacpsSendMessage ⟨10, false, 42, fun _ => false⟩ s pxBuffer = (s', effects) →
        ((xValidLength ⟨10, false, 42, fun _ => false⟩ (toBaseType pxBuffer.xDataLength) = false ∨
            s.txSemaphore = none ∨ s.txSemaphore = some 0) →
          s' = s ∧ releasedBuffers effects = [pxBuffer.pucEthernetBuffer]) ∧
        (xValidLength ⟨10, false, 42, fun _ => false⟩ (toBaseType pxBuffer.xDataLength) = true →
          s.txSemaphore ≠ some 0 →
          s'.txBuffers s.txHead = pxBuffer.pucEthernetBuffer ∧
          (s'.txSegments s.txHead).address = pxBuffer.pucEthernetBuffer % 2 ^ 32 ∧
          txUsed (s'.txSegments s.txHead).flags = false ∧ releasedBuffers effects = [] ∧
          txView s' = txView s ++ [(pxBuffer.pucEthernetBuffer, false)])) ∧
      ∀ s' effects, emacpsCheckTx s = some (s', effects) →
        releasedBuffers effects = ((txView s).takeWhile (·.2)).map Prod.fst ∧
          txView s' = (txView s).dropWhile (·.2) := by
  obtain ⟨s, trace, run, actions, queued⟩ : ∃ s trace,
      TxReachable ⟨10, false, 42, fun _ => false⟩ (txStart 2) s trace ∧
      trace.map Prod.fst = [.send ⟨0x1000, 60, by decide⟩, .send ⟨0x2000, 60, by decide⟩, .complete] ∧
      txView s = [(0x1000, true), (0x2000, false)] :=
    ⟨_, _, ((TxReachable.init.step (show txStep _ _ (.send ⟨0x1000, 60, by decide⟩) = some (_, _)
      by exact rfl)).step (show txStep _ _ (.send ⟨0x2000, 60, by decide⟩) = some (_, _)
      by exact rfl)).step (show txStep _ _ .complete = some (_, _) by exact rfl), by exact rfl,
      by exact rfl⟩
  exact ⟨s, trace, run, actions, queued, tx_buffer_ownership run⟩

end EmacPsDma
