import EmacPsDma.Tx.Driver

/-!
# The TX ring accounting invariant

The semaphore counts the slots the driver may still fill; the others form the in-flight window,
which starts at `txTail`, ends just before `txHead`, and is exactly where `pxDMA_tx_buffers` is not
`NULL`.  Outside the window every descriptor is idle (`USED`, with `WRAP` on the last slot).  The
MAC stands inside the window, after the frames it has sent, so the `USED` bits of the window are a
run of set bits followed by a run of clear ones.  Each of the three steps keeps this, and so does
every run from the state `init_dma` leaves.
-/

namespace EmacPsDma

variable {n : Nat}

/-- The number of descriptors the semaphore counts as in use. -/
def inFlight (s : TxState n) : Nat := n - s.txSemaphore.getD n

/-- The MAC has sent the first `sent` in-flight frames and stands at the slot after them. -/
def TxDmaAt (s : TxState n) (sent : Nat) : Prop :=
  sent ≤ inFlight s ∧ s.txDmaIndex = slotAt s.txTail sent ∧
    ∀ offset < inFlight s,
      txUsed (s.txSegments (slotAt s.txTail offset)).flags = decide (offset < sent)

/-- The representation invariant of the TX ring. -/
structure TxInvariant (s : TxState n) : Prop where
  semaphore : ∃ count, s.txSemaphore = some count ∧ count ≤ n
  head : s.txHead = slotAt s.txTail (inFlight s)
  buffers : ∀ index, s.txBuffers index ≠ 0 ↔ InWindow s.txTail (inFlight s) index
  idle : ∀ index, ¬InWindow s.txTail (inFlight s) index →
    (s.txSegments index).flags = txIdleFlags (index.val = n - 1)
  wrap : ∀ index, txWrap (s.txSegments index).flags = decide (index.val = n - 1)
  dma : ∃ sent, TxDmaAt s sent

theorem inFlight_of_semaphore {s : TxState n} {count : Nat}
    (semaphore : s.txSemaphore = some count) :
    inFlight s = n - count := by
  simp [inFlight, semaphore]

theorem inFlight_le (s : TxState n) : inFlight s ≤ n := Nat.sub_le _ _

/-! ## The start state -/

theorem txStart_invariant (n : Nat) [NeZero n] : TxInvariant (txStart n) := by
  have start : inFlight (txStart n) = 0 := by simp [inFlight, txStart, txInitDma]
  refine ⟨⟨n, rfl, le_rfl⟩, ?_, ?_, ?_, ?_, ⟨0, ?_, ?_, ?_⟩⟩
  · rw [start, slotAt_zero]
    rfl
  · intro index
    rw [start]
    simp [txStart, txInitDma, not_inWindow_zero]
  · intro index _
    simp [txStart, txInitDma]
  · intro index
    simp [txStart, txInitDma]
  · rw [start]
  · rw [slotAt_zero]
    rfl
  · intro offset small
    rw [start] at small
    exact absurd small (Nat.not_lt_zero _)

/-! ## One step of each kind -/

theorem TxInvariant.txBusy {s : TxState n} (invariant : TxInvariant s) (busy : Bool) :
    TxInvariant { s with txBusy := busy } :=
  ⟨invariant.semaphore, invariant.head, invariant.buffers, invariant.idle, invariant.wrap,
    invariant.dma⟩

theorem sendBlock_eq_ok {config : Config} {s : TxState n} {pxBuffer : NetworkBufferDescriptor}
    {result : TxState n × List Effect} (block : sendBlock config s pxBuffer = .ok result) :
    ∃ count, s.txSemaphore = some count ∧ 0 < count ∧
      result.1 = publishSlot s pxBuffer (count - 1) ∧
      result.2 = if config.ucIsCachedMemory pxBuffer.pucEthernetBuffer then
        [.flushRange pxBuffer.pucEthernetBuffer pxBuffer.xDataLength] else [] := by
  unfold sendBlock at block
  split at block
  · cases block
  split at block
  · cases block
  rename_i count semaphore
  split at block
  · cases block
  rename_i taken take
  unfold semaphoreTake at take
  split at take
  · cases take
    cases block
    exact ⟨count, semaphore, by omega, rfl, rfl⟩
  · cases take

theorem publishSlot_invariant {s : TxState n} {count : Nat} (invariant : TxInvariant s)
    (semaphore : s.txSemaphore = some count) (positive : 0 < count)
    (pxBuffer : NetworkBufferDescriptor) : TxInvariant (publishSlot s pxBuffer (count - 1)) := by
  obtain ⟨counted, counted_eq, bounded⟩ := invariant.semaphore
  rw [semaphore, Option.some.injEq] at counted_eq
  subst counted_eq
  have room : inFlight s < n := by rw [inFlight_of_semaphore semaphore]; omega
  have grown : inFlight (publishSlot s pxBuffer (count - 1)) = inFlight s + 1 := by
    rw [inFlight_of_semaphore rfl, inFlight_of_semaphore semaphore]
    omega
  have head_out : ¬InWindow s.txTail (inFlight s) s.txHead := by
    rw [invariant.head, InWindow, offsetFrom_slotAt _ room]
    exact lt_irrefl _
  have window (index : Fin n) : InWindow s.txTail (inFlight s + 1) index ↔
      InWindow s.txTail (inFlight s) index ∨ index = s.txHead := by
    rw [invariant.head]
    exact inWindow_succ room
  refine ⟨⟨count - 1, rfl, by omega⟩, ?_, ?_, ?_, ?_, ?_⟩
  · rw [publishSlot_txHead, grown, invariant.head, advance_slotAt]
    rfl
  · intro index
    simp only [grown, publishSlot_txTail, publishSlot_txBuffers, window]
    by_cases at_head : index = s.txHead
    · subst at_head
      simp [pxBuffer.payload_ne_null]
    · simp [Function.update_noteq at_head, invariant.buffers, at_head]
  · intro index outside
    simp only [grown, publishSlot_txTail, window, not_or] at outside
    simp [Function.update_noteq outside.2, invariant.idle index outside.1]
  · intro index
    by_cases at_head : index = s.txHead
    · subst at_head
      simp
    · simp [Function.update_noteq at_head, invariant.wrap]
  · obtain ⟨sent, bound, dma, used⟩ := invariant.dma
    refine ⟨sent, by omega, dma, fun offset small => ?_⟩
    rw [grown] at small
    by_cases last : offset = inFlight s
    · subst last
      rw [publishSlot_txTail, ← invariant.head, publishSlot_txSegments, Function.update_same,
        txUsed_txPublishFlags]
      exact (decide_eq_false (by omega)).symm
    · have other : slotAt s.txTail offset ≠ s.txHead := by
        rw [invariant.head, Ne, slotAt_inj _ (by omega) room]
        exact last
      simp [Function.update_noteq other, used offset (by omega)]

theorem emacpsSendMessage_invariant (config : Config) {s : TxState n} (invariant : TxInvariant s)
    (pxBuffer : NetworkBufferDescriptor) : TxInvariant (emacpsSendMessage config s pxBuffer).1 := by
  unfold emacpsSendMessage
  split
  · exact invariant
  · next _ published _ block =>
    obtain ⟨count, semaphore, positive, published_eq, -⟩ := sendBlock_eq_ok block
    subst published_eq
    exact (publishSlot_invariant invariant semaphore positive pxBuffer).txBusy true

/-- The MAC never completes a slot outside the window: there `USED` is already set. -/
theorem txDmaAt_lt {s : TxState n} {sent : Nat} (invariant : TxInvariant s)
    (dma : TxDmaAt s sent) (pending : txUsed (s.txSegments s.txDmaIndex).flags = false) :
    sent < inFlight s := by
  obtain ⟨bound, at_slot, used⟩ := dma
  refine lt_of_le_of_ne bound fun all_sent => ?_
  rw [at_slot, all_sent, ← invariant.head] at pending
  by_cases full : inFlight s = n
  · have positive : 0 < n := Nat.zero_lt_of_lt s.txTail.isLt
    have first := used 0 (by omega)
    rw [slotAt_zero] at first
    rw [invariant.head, full, slotAt_full, first] at pending
    simp at pending
    omega
  · have outside : ¬InWindow s.txTail (inFlight s) s.txHead := by
      rw [invariant.head, InWindow, offsetFrom_slotAt _ (by have := inFlight_le s; omega)]
      exact lt_irrefl _
    rw [invariant.idle _ outside] at pending
    simp at pending

/-- What a completion does on a ring with `WRAP` on its last slot only. -/
theorem txDmaComplete_eq_some {s s' : TxState n} (invariant : TxInvariant s)
    (complete : txDmaComplete s = some s') :
    txUsed (s.txSegments s.txDmaIndex).flags = false ∧
      s' = { s with
        txSegments := markUsed s.txSegments s.txDmaIndex
        txDmaIndex := advance s.txDmaIndex } := by
  unfold txDmaComplete at complete
  split at complete
  · cases complete
  next pending =>
  rw [invariant.wrap, nextByWrap_last, Option.map_some', Option.some.injEq] at complete
  exact ⟨Bool.not_eq_true _ ▸ pending, complete.symm⟩

theorem txDmaComplete_invariant {s s' : TxState n} (invariant : TxInvariant s)
    (complete : txDmaComplete s = some s') : TxInvariant s' ∧
      ∀ sent, TxDmaAt s sent → sent < inFlight s ∧ TxDmaAt s' (sent + 1) := by
  obtain ⟨pending, rfl⟩ := txDmaComplete_eq_some invariant complete
  have bound := inFlight_le s
  have progress (sent : Nat) (dma : TxDmaAt s sent) : sent < inFlight s ∧
      TxDmaAt { s with
        txSegments := markUsed s.txSegments s.txDmaIndex
        txDmaIndex := advance s.txDmaIndex } (sent + 1) := by
    have behind := txDmaAt_lt invariant dma pending
    obtain ⟨_, at_slot, used⟩ := dma
    refine ⟨behind, behind, by rw [at_slot, advance_slotAt], fun offset small => ?_⟩
    have small : offset < inFlight s := small
    dsimp only
    by_cases here : offset = sent
    · rw [here, ← at_slot, markUsed_same, txUsed_or_used]
      simp
    · have other : slotAt s.txTail offset ≠ s.txDmaIndex := by
        rw [at_slot, Ne, slotAt_inj _ (by omega) (by omega)]
        exact here
      rw [markUsed_other _ other, used offset small]
      exact decide_eq_decide.mpr ⟨fun lt => by omega, fun lt => by omega⟩
  obtain ⟨sent, dma⟩ := invariant.dma
  have inside : InWindow s.txTail (inFlight s) s.txDmaIndex := by
    rw [dma.2.1, InWindow, offsetFrom_slotAt _ (by have := (progress sent dma).1; omega)]
    exact (progress sent dma).1
  refine ⟨⟨invariant.semaphore, invariant.head, invariant.buffers, fun index outside => ?_,
    fun index => ?_, ⟨sent + 1, (progress sent dma).2⟩⟩, progress⟩
  · have other : index ≠ s.txDmaIndex := fun same => outside (same ▸ inside)
    dsimp only
    rw [markUsed_other _ other]
    exact invariant.idle index outside
  · dsimp only
    by_cases here : index = s.txDmaIndex
    · rw [here, markUsed_same, txWrap_or_used]
      exact invariant.wrap s.txDmaIndex
    · rw [markUsed_other _ here]
      exact invariant.wrap index

theorem reclaimSlot_invariant {s : TxState n} {sent : Nat} (invariant : TxInvariant s)
    (dma : TxDmaAt s (sent + 1)) :
    TxInvariant (reclaimSlot s s.txTail).1 ∧ TxDmaAt (reclaimSlot s s.txTail).1 sent ∧
      inFlight (reclaimSlot s s.txTail).1 = inFlight s - 1 := by
  obtain ⟨count, semaphore, bounded⟩ := invariant.semaphore
  obtain ⟨behind, at_slot, used⟩ := dma
  have inflight := inFlight_of_semaphore semaphore
  have given : (reclaimSlot s s.txTail).1.txSemaphore = some (count + 1) := by
    simp [semaphore, semaphoreGive, show count < n by omega]
  have shrunk : inFlight (reclaimSlot s s.txTail).1 = inFlight s - 1 := by
    rw [inFlight_of_semaphore given, inflight]
    omega
  have window (index : Fin n) : InWindow (advance s.txTail) (inFlight s - 1) index ↔
      InWindow s.txTail (inFlight s) index ∧ index ≠ s.txTail :=
    inWindow_advance (inFlight_le s)
  have later (offset : Nat) (small : offset < inFlight s - 1) :
      slotAt (advance s.txTail) offset ≠ s.txTail := by
    rw [advance_eq_slotAt, slotAt_slotAt, Ne,
      slotAt_eq_base_iff _ (by have := inFlight_le s; omega)]
    omega
  refine ⟨⟨⟨count + 1, given, by omega⟩, ?_, fun index => ?_, fun index outside => ?_,
    fun index => ?_, ⟨sent, ?_⟩⟩, ?_, shrunk⟩
  · rw [reclaimSlot_txHead, invariant.head, shrunk, reclaimSlot_txTail, advance_eq_slotAt,
      slotAt_slotAt]
    congr 1
    omega
  · rw [shrunk, reclaimSlot_txTail, window, reclaimSlot_txBuffers]
    by_cases at_tail : index = s.txTail
    · subst at_tail
      simp
    · simp [Function.update_noteq at_tail, invariant.buffers, at_tail]
  · rw [shrunk, reclaimSlot_txTail, window] at outside
    rw [reclaimSlot_txSegments]
    by_cases at_tail : index = s.txTail
    · subst at_tail
      simp
    · rw [Function.update_noteq at_tail]
      exact invariant.idle index fun inside => outside ⟨inside, at_tail⟩
  · rw [reclaimSlot_txSegments]
    by_cases at_tail : index = s.txTail
    · subst at_tail
      simp
    · rw [Function.update_noteq at_tail]
      exact invariant.wrap index
  all_goals
    refine ⟨by rw [shrunk]; omega, by rw [reclaimSlot_txDmaIndex, at_slot, reclaimSlot_txTail,
      advance_eq_slotAt, slotAt_slotAt, Nat.add_comm], fun offset small => ?_⟩
    rw [shrunk] at small
    rw [reclaimSlot_txSegments, reclaimSlot_txTail, Function.update_noteq (later offset small),
      advance_eq_slotAt, slotAt_slotAt, used (1 + offset) (by omega)]
    exact decide_eq_decide.mpr ⟨fun lt => by omega, fun lt => by omega⟩

/-- With nothing sent, the reclaim loop stops at once. -/
theorem checkTxLoop_of_none_sent {s : TxState n} (dma : TxDmaAt s 0) :
    checkTxLoop s.txHead (inFlight s) s.txTail s = (s, []) := by
  obtain ⟨_, _, used⟩ := dma
  cases inflight : inFlight s with
  | zero => rfl
  | succ uxCount =>
    have pending := used 0 (by omega)
    rw [slotAt_zero] at pending
    simp [checkTxLoop, pending]

/-- The reclaim loop releases the first `sent` in-flight buffers, oldest first, resets their
slots to idle and moves `txTail` past them; it touches nothing else. -/
theorem checkTxLoop_spec (sent : Nat) : ∀ (s : TxState n), TxInvariant s → TxDmaAt s sent →
    let result := checkTxLoop s.txHead (inFlight s) s.txTail s
    TxInvariant result.1 ∧ TxDmaAt result.1 0 ∧ result.1.txTail = slotAt s.txTail sent ∧
      inFlight result.1 = inFlight s - sent ∧
      result.2 = (readRing s.txBuffers s.txTail sent).map Effect.release ∧
      (∀ index, result.1.txSegments index = if InWindow s.txTail sent index then
        { s.txSegments index with flags := txIdleFlags (index.val = n - 1) }
        else s.txSegments index) ∧
      (∀ index, result.1.txBuffers index =
        if InWindow s.txTail sent index then 0 else s.txBuffers index) ∧
      result.1.txHead = s.txHead ∧ result.1.txDmaIndex = s.txDmaIndex ∧
      result.1.txBusy = s.txBusy := by
  induction sent with
  | zero =>
    intro s invariant dma
    dsimp only
    rw [checkTxLoop_of_none_sent dma]
    exact ⟨invariant, dma, (slotAt_zero _).symm, (Nat.sub_zero _).symm, rfl,
      fun index => by simp [not_inWindow_zero], fun index => by simp [not_inWindow_zero], rfl, rfl,
      rfl⟩
  | succ sent ih =>
    intro s invariant dma
    dsimp only
    obtain ⟨reclaimed_invariant, reclaimed_dma, shrunk⟩ := reclaimSlot_invariant invariant dma
    obtain ⟨behind, _, used⟩ := dma
    have bound := inFlight_le s
    have tail_used : txUsed (s.txSegments s.txTail).flags = true := by
      have first := used 0 (by omega)
      rwa [slotAt_zero, decide_eq_true (Nat.succ_pos sent)] at first
    have tail_inside : InWindow s.txTail (inFlight s) s.txTail := by
      rw [InWindow, offsetFrom_self]
      omega
    have not_stuck : ¬(s.txTail = s.txHead ∧ inFlight s ≠ n) := by
      rintro ⟨same, not_full⟩
      rw [invariant.head, eq_comm, slotAt_eq_base_iff _ (by omega)] at same
      omega
    obtain ⟨uxCount, inflight⟩ : ∃ uxCount, inFlight s = uxCount + 1 := ⟨inFlight s - 1, by omega⟩
    have step : checkTxLoop s.txHead (inFlight s) s.txTail s =
        ((checkTxLoop (reclaimSlot s s.txTail).1.txHead (inFlight (reclaimSlot s s.txTail).1)
          (reclaimSlot s s.txTail).1.txTail (reclaimSlot s s.txTail).1).1,
          (reclaimSlot s s.txTail).2 ++ (checkTxLoop (reclaimSlot s s.txTail).1.txHead
            (inFlight (reclaimSlot s s.txTail).1) (reclaimSlot s s.txTail).1.txTail
            (reclaimSlot s s.txTail).1).2) := by
      rw [shrunk, inflight, Nat.add_sub_cancel, checkTxLoop, if_pos tail_used,
        if_neg (by rwa [← inflight])]
      rfl
    obtain ⟨final_invariant, final_dma, final_tail, final_inflight, final_effects, final_segments,
      final_buffers, final_head, final_dma_index, final_busy⟩ :=
      ih _ reclaimed_invariant reclaimed_dma
    have window (index : Fin n) : InWindow s.txTail (sent + 1) index ↔
        InWindow (advance s.txTail) sent index ∨ index = s.txTail := by
      have shifted : InWindow (advance s.txTail) (sent + 1 - 1) index ↔
          InWindow s.txTail (sent + 1) index ∧ index ≠ s.txTail := inWindow_advance (by omega)
      by_cases at_tail : index = s.txTail
      · subst at_tail
        simp only [or_true, iff_true, InWindow, offsetFrom_self]
        omega
      · simp only [Nat.add_sub_cancel] at shifted
        simp [shifted, at_tail]
    have tail_out : ¬InWindow (advance s.txTail) sent s.txTail := by
      rw [InWindow, offsetFrom_advance_self]
      omega
    rw [step]
    refine ⟨final_invariant, final_dma, ?_, ?_, ?_, fun index => ?_, fun index => ?_, final_head,
      final_dma_index, final_busy⟩
    · rw [final_tail, reclaimSlot_txTail, advance_eq_slotAt, slotAt_slotAt, Nat.add_comm]
    · rw [final_inflight, shrunk]
      omega
    · have nonnull : s.txBuffers s.txTail ≠ 0 := (invariant.buffers _).mpr tail_inside
      have rest : readRing (reclaimSlot s s.txTail).1.txBuffers (reclaimSlot s s.txTail).1.txTail
          sent = readRing s.txBuffers (advance s.txTail) sent := by
        rw [reclaimSlot_txBuffers, reclaimSlot_txTail]
        exact readRing_congr (fun index inside => Function.update_noteq
          (by rintro rfl; exact tail_out inside) _ _) (by omega)
      rw [final_effects, rest, reclaimSlot_effects, if_pos nonnull, readRing_succ_left]
      rfl
    · rw [final_segments, reclaimSlot_txTail, reclaimSlot_txSegments]
      by_cases at_tail : index = s.txTail
      · subst at_tail
        simp [tail_out, (window s.txTail).mpr (Or.inr rfl)]
      · have same := window index
        simp only [at_tail, or_false] at same
        simp [Function.update_noteq at_tail, same]
    · rw [final_buffers, reclaimSlot_txTail, reclaimSlot_txBuffers]
      by_cases at_tail : index = s.txTail
      · subst at_tail
        simp [tail_out, (window s.txTail).mpr (Or.inr rfl)]
      · have same := window index
        simp only [at_tail, or_false] at same
        simp [Function.update_noteq at_tail, same]

/-! ## Whole runs -/

theorem emacpsCheckTx_of_invariant {s : TxState n} (invariant : TxInvariant s) :
    emacpsCheckTx s = some (checkTxLoop s.txHead (inFlight s) s.txTail s) := by
  obtain ⟨count, semaphore, _⟩ := invariant.semaphore
  simp [emacpsCheckTx, semaphore, inFlight_of_semaphore semaphore]

theorem txStep_invariant (config : Config) {s s' : TxState n} {action : TxAction}
    {effects : List Effect} (invariant : TxInvariant s)
    (step : txStep config s action = some (s', effects)) : TxInvariant s' := by
  cases action with
  | send pxBuffer =>
    rw [txStep, Option.some.injEq] at step
    rw [show s' = (emacpsSendMessage config s pxBuffer).1 by rw [step]]
    exact emacpsSendMessage_invariant config invariant pxBuffer
  | complete =>
    obtain ⟨done, complete, same⟩ := Option.map_eq_some'.mp step
    cases same
    exact (txDmaComplete_invariant invariant complete).1
  | checkTx =>
    rw [txStep, emacpsCheckTx_of_invariant invariant, Option.some.injEq] at step
    obtain ⟨sent, dma⟩ := invariant.dma
    rw [show s' = (checkTxLoop s.txHead (inFlight s) s.txTail s).1 by rw [step]]
    exact (checkTxLoop_spec sent s invariant dma).1

theorem txReachable_invariant [NeZero n] {config : Config} {s : TxState n}
    {trace : List (TxAction × List Effect)} (reachable : TxReachable config (txStart n) s trace) :
    TxInvariant s := by
  induction reachable with
  | init => exact txStart_invariant n
  | step _ step invariant => exact txStep_invariant config invariant step

/-- Every reachable TX state counts as in use exactly the slots from `txTail` to `txHead`, records a
buffer exactly for those, and leaves every other descriptor idle. -/
theorem tx_ring_accounting [NeZero n] {config : Config} {s : TxState n}
    {trace : List (TxAction × List Effect)} (reachable : TxReachable config (txStart n) s trace) :
    ∃ count, s.txSemaphore = some count ∧ count ≤ n ∧
      n - count = (if s.txHead = s.txTail ∧ count = 0 then n else offsetFrom s.txTail s.txHead) ∧
      (∀ index, s.txBuffers index ≠ 0 ↔ InWindow s.txTail (n - count) index) ∧
      (∀ index, ¬InWindow s.txTail (n - count) index →
        (s.txSegments index).flags = txIdleFlags (index.val = n - 1)) := by
  have invariant := txReachable_invariant reachable
  obtain ⟨count, semaphore, bounded⟩ := invariant.semaphore
  have inflight := inFlight_of_semaphore semaphore
  have head := invariant.head
  rw [inflight] at head
  refine ⟨count, semaphore, bounded, ?_, inflight ▸ invariant.buffers, inflight ▸ invariant.idle⟩
  by_cases empty : count = 0
  · subst empty
    rw [Nat.sub_zero, slotAt_full] at head
    simp [head]
  · rw [if_neg (fun both => empty both.2), head, offsetFrom_slotAt _ (by omega)]

theorem tx_ring_accounting_after_reclaim :
    ∃ s trace, TxReachable ⟨10, false, 42, fun _ => false⟩ (txStart 2) s trace ∧
      trace.map Prod.fst = [.send ⟨0x1000, 60, by decide⟩, .send ⟨0x2000, 60, by decide⟩, .complete,
        .checkTx] ∧ s.txTail = 1 ∧ s.txHead = 0 ∧
      ∃ count, s.txSemaphore = some count ∧ count ≤ 2 ∧
        2 - count = (if s.txHead = s.txTail ∧ count = 0 then 2 else offsetFrom s.txTail s.txHead) ∧
        (∀ index, s.txBuffers index ≠ 0 ↔ InWindow s.txTail (2 - count) index) ∧
        (∀ index, ¬InWindow s.txTail (2 - count) index →
          (s.txSegments index).flags = txIdleFlags (index.val = 2 - 1)) := by
  obtain ⟨s, trace, run, actions, tail, head⟩ : ∃ s trace,
      TxReachable ⟨10, false, 42, fun _ => false⟩ (txStart 2) s trace ∧
      trace.map Prod.fst = [.send ⟨0x1000, 60, by decide⟩, .send ⟨0x2000, 60, by decide⟩, .complete,
        .checkTx] ∧ s.txTail = 1 ∧ s.txHead = 0 :=
    ⟨_, _, (((TxReachable.init.step (show txStep _ _ (.send ⟨0x1000, 60, by decide⟩) = some (_, _)
      by exact rfl)).step (show txStep _ _ (.send ⟨0x2000, 60, by decide⟩) = some (_, _)
      by exact rfl)).step (show txStep _ _ .complete = some (_, _) by exact rfl)).step
      (show txStep _ _ .checkTx = some (_, _) by exact rfl), by exact rfl, by exact rfl,
      by exact rfl⟩
  exact ⟨s, trace, run, actions, tail, head, tx_ring_accounting run⟩

/-! ## One call of `emacps_check_tx` -/

/-- The in-flight slots from `txTail` on whose `USED` bit is set form a run of length `run` that
cannot be extended. -/
def MaximalUsedRun (s : TxState n) (run : Nat) : Prop :=
  run ≤ inFlight s ∧ (∀ offset < run, txUsed (s.txSegments (slotAt s.txTail offset)).flags) ∧
    (run < inFlight s → txUsed (s.txSegments (slotAt s.txTail run)).flags = false)

/-- The ring after its first `run` in-flight slots are handed back: each buffer entry cleared,
each descriptor reset to `USED` (with `WRAP` on the last slot), one credit per slot, and `txTail`
moved past them. -/
def reclaimRun (s : TxState n) (run : Nat) : TxState n :=
  { s with
    txTail := slotAt s.txTail run
    txSemaphore := s.txSemaphore.map (· + run)
    txSegments := fun index => if InWindow s.txTail run index then
      { s.txSegments index with flags := txIdleFlags (index.val = n - 1) } else s.txSegments index
    txBuffers := fun index => if InWindow s.txTail run index then 0 else s.txBuffers index }

theorem checkTxLoop_eq_reclaimRun {s : TxState n} {sent : Nat} (invariant : TxInvariant s)
    (dma : TxDmaAt s sent) : checkTxLoop s.txHead (inFlight s) s.txTail s =
      (reclaimRun s sent, (readRing s.txBuffers s.txTail sent).map Effect.release) := by
  obtain ⟨final_invariant, -, final_tail, final_inflight, final_effects, final_segments,
    final_buffers, final_head, final_dma_index, final_busy⟩ := checkTxLoop_spec sent s invariant dma
  obtain ⟨count, semaphore, _⟩ := invariant.semaphore
  obtain ⟨final_count, final_semaphore, final_bounded⟩ := final_invariant.semaphore
  rw [inFlight_of_semaphore final_semaphore, inFlight_of_semaphore semaphore] at final_inflight
  have behind := dma.1
  rw [inFlight_of_semaphore semaphore] at behind
  refine Prod.ext (TxState.ext final_head final_tail ?_ (funext final_segments)
    (funext final_buffers) final_busy final_dma_index) final_effects
  rw [final_semaphore, reclaimRun, semaphore, Option.map_some', Option.some.injEq]
  omega

/-- One call of `emacps_check_tx` reclaims exactly the maximal run of `USED` slots from `txTail`;
a second call with no completion in between does nothing. -/
theorem emacps_check_tx_reclaims_used_run [NeZero n] {config : Config} {s : TxState n}
    {trace : List (TxAction × List Effect)} (reachable : TxReachable config (txStart n) s trace) :
    ∃ run, MaximalUsedRun s run ∧
      emacpsCheckTx s = some (reclaimRun s run, (readRing s.txBuffers s.txTail run).map .release) ∧
      (run = inFlight s ∨
        txUsed ((reclaimRun s run).txSegments (reclaimRun s run).txTail).flags = false) ∧
      emacpsCheckTx (reclaimRun s run) = some (reclaimRun s run, []) := by
  have invariant := txReachable_invariant reachable
  obtain ⟨sent, dma⟩ := invariant.dma
  obtain ⟨final_invariant, final_dma, -⟩ := checkTxLoop_spec sent s invariant dma
  rw [checkTxLoop_eq_reclaimRun invariant dma] at final_invariant final_dma
  have behind := dma.1
  have used := dma.2.2
  refine ⟨sent, ⟨behind, fun offset small => ?_, fun more => ?_⟩, by
    rw [emacpsCheckTx_of_invariant invariant, checkTxLoop_eq_reclaimRun invariant dma], ?_, ?_⟩
  · rw [used offset (by omega), decide_eq_true small]
  · rw [used sent more, decide_eq_false (lt_irrefl sent)]
  · refine (Nat.eq_or_lt_of_le behind).imp id fun more => ?_
    have outside : ¬InWindow s.txTail sent (slotAt s.txTail sent) := by
      rw [InWindow, offsetFrom_slotAt _ (by have := inFlight_le s; omega)]
      exact lt_irrefl _
    simp only [reclaimRun, outside, if_false]
    rw [used sent more, decide_eq_false (lt_irrefl sent)]
  · rw [emacpsCheckTx_of_invariant final_invariant, checkTxLoop_of_none_sent final_dma]

theorem emacps_check_tx_reclaims_used_run_after_completion :
    ∃ s trace, TxReachable ⟨10, false, 42, fun _ => false⟩ (txStart 2) s trace ∧
      trace.map Prod.fst = [.send ⟨0x1000, 60, by decide⟩, .send ⟨0x2000, 60, by decide⟩, .complete] ∧
      (emacpsCheckTx s).map Prod.snd = some [.release 0x1000] ∧
      ∃ run, MaximalUsedRun s run ∧
        emacpsCheckTx s = some (reclaimRun s run, (readRing s.txBuffers s.txTail run).map .release) ∧
        (run = inFlight s ∨
          txUsed ((reclaimRun s run).txSegments (reclaimRun s run).txTail).flags = false) ∧
        emacpsCheckTx (reclaimRun s run) = some (reclaimRun s run, []) := by
  obtain ⟨s, trace, run, actions, released⟩ : ∃ s trace,
      TxReachable ⟨10, false, 42, fun _ => false⟩ (txStart 2) s trace ∧
      trace.map Prod.fst = [.send ⟨0x1000, 60, by decide⟩, .send ⟨0x2000, 60, by decide⟩, .complete] ∧
      (emacpsCheckTx s).map Prod.snd = some [.release 0x1000] :=
    ⟨_, _, ((TxReachable.init.step (show txStep _ _ (.send ⟨0x1000, 60, by decide⟩) = some (_, _)
      by exact rfl)).step (show txStep _ _ (.send ⟨0x2000, 60, by decide⟩) = some (_, _)
      by exact rfl)).step (show txStep _ _ .complete = some (_, _) by exact rfl), by exact rfl,
      by exact rfl⟩
  exact ⟨s, trace, run, actions, released, emacps_check_tx_reclaims_used_run run⟩

end EmacPsDma
