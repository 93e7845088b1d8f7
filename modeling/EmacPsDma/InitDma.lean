import EmacPsDma.Rx.Run
import EmacPsDma.Tx.Invariant

/-!
# `init_dma` on an interface that has run

Run again, `init_dma` asks the pool for a buffer only where `pxDMA_rx_buffers` holds `NULL`, points
both queues of the MAC at slot 0 and leaves `rxHead`, `txHead` and `txTail` alone.  It succeeds
exactly when the pool has a buffer for every empty RX slot; each ring is in step with its DMA
afterwards exactly when its head was at slot 0; and the buffers in flight on the TX ring are never
released.
-/

namespace EmacPsDma

variable {n : Nat}

/-- The slots of `indices` whose entry of `pxDMA_rx_buffers` is `NULL`. -/
def emptySlots (s : RxState n) (indices : List (Fin n)) : List (Fin n) :=
  indices.filter fun i => s.rxBuffers i = 0

theorem emptySlots_cons (s : RxState n) (iIndex : Fin n) (rest : List (Fin n)) :
    emptySlots s (iIndex :: rest) =
      if s.rxBuffers iIndex = 0 then iIndex :: emptySlots s rest else emptySlots s rest := by
  by_cases empty : s.rxBuffers iIndex = 0 <;> simp [emptySlots, List.filter_cons, empty]

theorem emptySlots_congr {s t : RxState n} {indices : List (Fin n)}
    (same : ∀ i ∈ indices, t.rxBuffers i = s.rxBuffers i) :
    emptySlots t indices = emptySlots s indices :=
  List.filter_congr fun i member => by rw [same i member]

/-! ## One slot -/

section Slot

variable {config : Config} {s s' : RxState n} {iIndex : Fin n} {effects : List Effect}

/-- A pass of the loop fails only on an empty slot with the pool empty. -/
theorem rxInitSlot_eq_none :
    rxInitSlot config s iIndex = none ↔ s.rxBuffers iIndex = 0 ∧ s.pool = [] := by
  by_cases empty : s.rxBuffers iIndex = 0 <;> cases pool : s.pool <;>
    simp [rxInitSlot, pxGetNetworkBufferWithDescriptor, empty, pool]

/-- A pass of the loop keeps the buffer of a full slot and gives an empty one the first buffer of
the pool; either way the slot's address word gets the buffer bits with `flags` clear. -/
theorem rxInitSlot_spec (slot : rxInitSlot config s iIndex = some (s', effects)) :
    (if s.rxBuffers iIndex = 0 then s.pool = s'.rxBuffers iIndex :: s'.pool
      else s'.rxBuffers iIndex = s.rxBuffers iIndex ∧ s'.pool = s.pool) ∧
    s'.rxSegments iIndex =
      ⟨(s'.descriptors (s'.rxBuffers iIndex)).pucEthernetBuffer &&& xemacpsRxbufAddMask, 0⟩ ∧
    (∀ i ≠ iIndex, s'.rxBuffers i = s.rxBuffers i ∧ s'.rxSegments i = s.rxSegments i) ∧
    s'.descriptors = s.descriptors ∧ s'.memory = s.memory ∧ s'.stack = s.stack ∧
    s'.rxHead = s.rxHead := by
  by_cases empty : s.rxBuffers iIndex = 0 <;> cases pool : s.pool <;>
    simp only [rxInitSlot, pxGetNetworkBufferWithDescriptor, empty, pool, if_true, if_false,
      Option.map_some', Option.some.injEq, Prod.mk.injEq, reduceCtorEq] at slot <;>
    obtain ⟨rfl, -⟩ := slot <;>
    exact ⟨by simp [empty, pool], by simp, fun i other => by simp [Function.update_noteq other],
      rfl, rfl, rfl, rfl⟩

end Slot

/-! ## The loop -/

/-- Over distinct slots the loop runs to the end exactly when the pool has a buffer for every
empty slot. -/
theorem rxInitLoop_isSome (config : Config) :
    ∀ (indices : List (Fin n)) (s : RxState n), indices.Nodup →
      ((rxInitLoop config indices s).isSome ↔ (emptySlots s indices).length ≤ s.pool.length)
  | [], s, _ => by simp [rxInitLoop, emptySlots]
  | iIndex :: rest, s, nodup => by
    obtain ⟨fresh, rest_nodup⟩ := List.nodup_cons.mp nodup
    cases slot : rxInitSlot config s iIndex with
    | none =>
      obtain ⟨empty, pool⟩ := rxInitSlot_eq_none.mp slot
      simp [rxInitLoop, slot, emptySlots_cons, empty, pool]
    | some loaded =>
      obtain ⟨taken, -, others, -⟩ := rxInitSlot_spec slot
      have empties : emptySlots loaded.1 rest = emptySlots s rest :=
        emptySlots_congr fun i member => (others i fun same => fresh (same ▸ member)).1
      simp only [rxInitLoop, slot, Option.some_bind, Option.isSome_map',
        rxInitLoop_isSome config rest _ rest_nodup, empties, emptySlots_cons]
      split_ifs at taken ⊢
      · simp [taken]
      · rw [taken.2]

/-- Over distinct slots the loop keeps every full slot's buffer, fills the empty ones from the
front of the pool in the order of `indices`, and rewrites each address word it passes. -/
theorem rxInitLoop_reinit (config : Config) :
    ∀ (indices : List (Fin n)) (s s' : RxState n) (effects : List Effect),
      rxInitLoop config indices s = some (s', effects) → indices.Nodup →
      (emptySlots s indices).map s'.rxBuffers ++ s'.pool = s.pool ∧
      (∀ i ∈ indices, s.rxBuffers i ≠ 0 → s'.rxBuffers i = s.rxBuffers i) ∧
      (∀ i ∈ indices, s'.rxSegments i =
        ⟨(s'.descriptors (s'.rxBuffers i)).pucEthernetBuffer &&& xemacpsRxbufAddMask, 0⟩) ∧
      (∀ i ∉ indices, s'.rxBuffers i = s.rxBuffers i ∧ s'.rxSegments i = s.rxSegments i) ∧
      s'.descriptors = s.descriptors ∧ s'.memory = s.memory ∧ s'.stack = s.stack ∧
      s'.rxHead = s.rxHead
  | [], s, s', effects, run, _ => by
    cases run
    simp [emptySlots]
  | iIndex :: rest, s, s', effects, run, nodup => by
    obtain ⟨fresh, rest_nodup⟩ := List.nodup_cons.mp nodup
    simp only [rxInitLoop, Option.bind_eq_some, Option.map_eq_some'] at run
    obtain ⟨⟨loaded, slotEffects⟩, slot, ⟨final, loopEffects⟩, tail_run, same⟩ := run
    cases same
    obtain ⟨taken, segment, others, descriptors1, memory1, stack1, head1⟩ :=
      rxInitSlot_spec slot
    obtain ⟨pool_eq, kept, segments, outside, descriptors, memory, stack, head⟩ :=
      rxInitLoop_reinit config rest loaded _ _ tail_run rest_nodup
    have away : ∀ i ∈ rest, i ≠ iIndex := fun i member same => fresh (same ▸ member)
    have last := outside iIndex fresh
    have empties : emptySlots loaded rest = emptySlots s rest :=
      emptySlots_congr fun i member => (others i (away i member)).1
    refine ⟨?_, ?_, ?_, fun i outside' => ?_, descriptors.trans descriptors1,
      memory.trans memory1, stack.trans stack1, head.trans head1⟩
    · rw [emptySlots_cons]
      split_ifs at taken ⊢
      · simp [taken, last.1, ← empties, pool_eq]
      · rw [← empties, pool_eq, taken.2]
    · simp only [List.mem_cons, forall_eq_or_imp]
      refine ⟨fun held => ?_, fun i member held => ?_⟩
      · rw [last.1]
        exact (if_neg held ▸ taken).1
      · rw [← (others i (away i member)).1] at held ⊢
        exact kept i member held
    · simp only [List.mem_cons, forall_eq_or_imp]
      exact ⟨by rw [last.2, last.1, descriptors, segment], segments⟩
    · simp only [List.mem_cons, not_or] at outside'
      rw [(outside i outside'.2).1, (outside i outside'.2).2]
      exact others i outside'.1

/-! ## The whole ring -/

/-- Read in full from any slot, the ring holds the entries of the table. -/
theorem readRing_perm {α : Type} (ring : Fin n → α) (base : Fin n) :
    (readRing ring base n).Perm ((List.finRange n).map ring) := by
  have slots : ((List.range n).map (slotAt base)).Perm (List.finRange n) :=
    (List.perm_ext_iff_of_nodup
      ((List.nodup_range n).map_on fun first first_small second second_small =>
        (slotAt_inj base (List.mem_range.mp first_small) (List.mem_range.mp second_small)).mp)
      (List.nodup_finRange n)).mpr fun index =>
        ⟨fun _ => List.mem_finRange index, fun _ => List.mem_map.mpr ⟨offsetFrom base index,
          List.mem_range.mpr (offsetFrom_lt base index), slotAt_offsetFrom base index⟩⟩
  simpa [readRing, List.map_map] using slots.map ring

/-- The table splits into its empty slots and the buffers it holds. -/
theorem map_finRange_perm_emptySlots (s : RxState n) (rxBuffers : Fin n → Nat)
    (kept : ∀ i, s.rxBuffers i ≠ 0 → rxBuffers i = s.rxBuffers i) :
    ((List.finRange n).map rxBuffers).Perm ((emptySlots s (List.finRange n)).map rxBuffers ++
      ((List.finRange n).map s.rxBuffers).filter (· ≠ 0)) := by
  have held : ((List.finRange n).map s.rxBuffers).filter (· ≠ 0) =
      ((List.finRange n).filter fun i => !decide (s.rxBuffers i = 0)).map rxBuffers := by
    have full : ((List.finRange n).filter ((· ≠ 0) ∘ s.rxBuffers)) =
        (List.finRange n).filter fun i => !decide (s.rxBuffers i = 0) :=
      List.filter_congr fun i _ => by simp
    rw [List.filter_map, full]
    refine List.map_congr_left fun i member => (kept i ?_).symm
    simpa using member
  rw [held, ← List.map_append]
  exact ((List.filter_append_perm _ _).map rxBuffers).symm

/-- A successful `init_dma` keeps every full slot's buffer, fills the empty ones from the front of
the pool, rewrites every address word with `NEW` clear and leaves `rxHead` where it was. -/
theorem rxInitDma_reinit [NeZero n] {config : Config} {s s' : RxState n} {effects : List Effect}
    (initialised : rxInitDma config s = some (s', effects)) :
    (emptySlots s (List.finRange n)).map s'.rxBuffers ++ s'.pool = s.pool ∧
    (∀ i, s.rxBuffers i ≠ 0 → s'.rxBuffers i = s.rxBuffers i) ∧
    (∀ i, ValidPayload (s'.slotPayload i) →
      s'.rxSegments i = ⟨rxAddressWord (s'.slotPayload i) (decide (i.val = n - 1)) false, 0⟩) ∧
    s'.descriptors = s.descriptors ∧ s'.memory = s.memory ∧ s'.stack = s.stack ∧
    s'.rxHead = s.rxHead ∧ s'.rxDmaIndex = firstSlot n := by
  simp only [rxInitDma, Option.map_eq_some', Prod.mk.injEq] at initialised
  obtain ⟨⟨loaded, loadedEffects⟩, loop, rfl, -⟩ := initialised
  obtain ⟨pool_eq, kept, segments, -, descriptors, memory, stack, head⟩ :=
    rxInitLoop_reinit config _ _ _ _ loop (List.nodup_finRange n)
  refine ⟨pool_eq, fun i held => kept i (List.mem_finRange i) held, fun i valid => ?_,
    descriptors, memory, stack, head, rfl⟩
  rw [← rxAddressWord_repost valid]
  by_cases at_last : i = lastSlot n
  · subst at_last
    simp [segments _ (List.mem_finRange _), lastSlot, RxState.slotPayload]
  · have other : i.val ≠ n - 1 := fun equal => at_last (Fin.ext equal)
    simp [Function.update_noteq at_last, segments _ (List.mem_finRange _), other,
      RxState.slotPayload]

/-- `init_dma` succeeds exactly when the pool has a buffer for every `NULL` entry of
`pxDMA_rx_buffers`, keeps the buffers in the table and fills the empty slots from the pool. -/
theorem init_dma_allocates_only_empty_slots [NeZero n] (config : Config) (s : RxState n) :
    ((rxInitDma config s).isSome ↔ (emptySlots s (List.finRange n)).length ≤ s.pool.length) ∧
    ∀ s' effects, rxInitDma config s = some (s', effects) →
      (∀ i, s.rxBuffers i ≠ 0 → s'.rxBuffers i = s.rxBuffers i) ∧
      (emptySlots s (List.finRange n)).map s'.rxBuffers ++ s'.pool = s.pool := by
  refine ⟨?_, fun s' effects initialised => ?_⟩
  · rw [rxInitDma, Option.isSome_map']
    exact rxInitLoop_isSome config _ s (List.nodup_finRange n)
  · obtain ⟨pool_eq, kept, -⟩ := rxInitDma_reinit initialised
    exact ⟨kept, pool_eq⟩

theorem init_dma_allocates_only_empty_slots_half_full :
    ((rxInitDma ⟨10, false, 42, fun _ => false⟩ { rxZero 2 (fun d => ⟨4 * d + 2, 0, 0, 0, 0⟩)
        (fun _ => []) [1] with rxBuffers := fun i => if i.val = 0 then 0 else 3 }).isSome ↔
      (emptySlots { rxZero 2 (fun d => ⟨4 * d + 2, 0, 0, 0, 0⟩) (fun _ => []) [1] with
        rxBuffers := fun i => if i.val = 0 then 0 else 3 } (List.finRange 2)).length ≤ [1].length) ∧
    ∀ s' effects, rxInitDma ⟨10, false, 42, fun _ => false⟩ { rxZero 2
        (fun d => ⟨4 * d + 2, 0, 0, 0, 0⟩) (fun _ => []) [1] with
          rxBuffers := fun i => if i.val = 0 then 0 else 3 } = some (s', effects) →
      (∀ i : Fin 2, (if i.val = 0 then 0 else 3) ≠ 0 → s'.rxBuffers i = if i.val = 0 then 0 else 3) ∧
      (emptySlots { rxZero 2 (fun d => ⟨4 * d + 2, 0, 0, 0, 0⟩) (fun _ => []) [1] with
        rxBuffers := fun i => if i.val = 0 then 0 else 3 } (List.finRange 2)).map s'.rxBuffers ++
          s'.pool = [1] :=
  init_dma_allocates_only_empty_slots _ _

/-- Re-run on distinct owned buffers, `init_dma` keeps one owner per buffer, and the ring is in step
with the DMA exactly when `rxHead` is at slot 0. -/
theorem rxInitDma_reinit_invariant [NeZero n] {config : Config} {s s' : RxState n}
    {effects : List Effect}
    (owned : BufferOwnership (fun d => (s.descriptors d).pucEthernetBuffer)
      (s.pool ++ ((List.finRange n).map s.rxBuffers).filter (· ≠ 0) ++ s.stack))
    (initialised : rxInitDma config s = some (s', effects)) :
    (ownedBuffers s' []).Perm
        (s.pool ++ ((List.finRange n).map s.rxBuffers).filter (· ≠ 0) ++ s.stack) ∧
      BufferOwnership (fun d => (s'.descriptors d).pucEthernetBuffer) (ownedBuffers s' []) ∧
      ∀ stored, RxDmaAt config s' stored ↔ stored = 0 ∧ s.rxHead = firstSlot n := by
  obtain ⟨pool_eq, kept, segments, descriptors, -, stack, head, dma_index⟩ :=
    rxInitDma_reinit initialised
  have perm : (ownedBuffers s' []).Perm
      (s.pool ++ ((List.finRange n).map s.rxBuffers).filter (· ≠ 0) ++ s.stack) := by
    have ring := (readRing_perm s'.rxBuffers s'.rxHead).trans
      (map_finRange_perm_emptySlots s s'.rxBuffers kept)
    rw [← pool_eq, ownedBuffers, stack]
    refine List.perm_iff_count.mpr fun a => ?_
    have counted := ring.count_eq a
    simp only [List.count_append, List.count_nil] at counted ⊢
    omega
  have owned' : BufferOwnership (fun d => (s'.descriptors d).pucEthernetBuffer)
      (ownedBuffers s' []) :=
    owned.of_perm perm fun d _ => by rw [descriptors]
  have valid : ∀ i, ValidPayload (s'.slotPayload i) := fun i =>
    owned'.valid _ (by simp [ownedBuffers, mem_readRing])
  refine ⟨perm, owned', fun stored => ⟨fun dma => ?_, ?_⟩⟩
  · have clear := dma.rxNew_address valid s'.rxHead
    rw [segments _ (valid _), rxNew_rxAddressWord (valid _)] at clear
    have nothing : stored = 0 := by
      simpa [InWindow] using (decide_eq_false_iff_not.mp clear.symm)
    subst nothing
    refine ⟨rfl, ?_⟩
    rw [← head, ← slotAt_zero s'.rxHead, ← dma.dma_index, dma_index]
  · rintro ⟨rfl, at_first⟩
    refine ⟨Nat.zero_le n, by rw [dma_index, slotAt_zero, head, at_first], fun i => ?_,
      fun i => ?_, fun i inside => absurd inside (not_inWindow_zero _ i)⟩ <;>
      simp [segments i (valid i), not_inWindow_zero]

/-! ## Calling `init_dma` again -/

/-- From every state of a receive-side run, `init_dma` succeeds without taking from the pool,
drops the stored frames, and restores the invariant exactly when `rxHead` is at slot 0. -/
theorem init_dma_after_rx_run [NeZero n] {config : RxConfig} {descriptors : Nat → RxDescriptor}
    {memory : Nat → List UInt8} {pool : List Nat} {init : RxState n} {effects : List Effect}
    (pool_owned : BufferOwnership (fun d => (descriptors d).pucEthernetBuffer) pool)
    (initialised :
      rxInitDma config.toConfig (rxZero n descriptors memory pool) = some (init, effects))
    {s : RxState n} {trace : List (RxAction × List Effect)}
    (reachable : RxReachable config init s trace) :
    ∃ s' effects', rxInitDma config.toConfig s = some (s', effects') ∧
      s'.rxBuffers = s.rxBuffers ∧ s'.pool = s.pool ∧ s'.stack = s.stack ∧
      (∀ i, rxNew (s'.rxSegments i).address = false) ∧
      (RxInvariant config.toConfig s' [] ↔ s.rxHead = firstSlot n) := by
  obtain ⟨invariant, -⟩ := rxReachable_invariant pool_owned initialised reachable
  have full : emptySlots s (List.finRange n) = [] :=
    List.filter_eq_nil_iff.mpr fun i _ => by simpa using invariant.buffer_nonzero i
  have succeeds : (rxInitDma config.toConfig s).isSome := by
    rw [rxInitDma, Option.isSome_map', rxInitLoop_isSome _ _ s (List.nodup_finRange n), full]
    exact Nat.zero_le _
  obtain ⟨⟨s', effects'⟩, reinitialised⟩ := Option.isSome_iff_exists.mp succeeds
  obtain ⟨pool_eq, kept, segments, -, -, stack, -⟩ := rxInitDma_reinit reinitialised
  have held :
      ((List.finRange n).map s.rxBuffers).filter (· ≠ 0) = (List.finRange n).map s.rxBuffers :=
    List.filter_eq_self.mpr fun d member => by
      obtain ⟨i, -, rfl⟩ := List.mem_map.mp member
      simpa using invariant.buffer_nonzero i
  have owned : BufferOwnership (fun d => (s.descriptors d).pucEthernetBuffer)
      (s.pool ++ ((List.finRange n).map s.rxBuffers).filter (· ≠ 0) ++ s.stack) :=
    invariant.owned.of_perm (by
      rw [held, ownedBuffers, List.append_nil]
      exact ((readRing_perm _ _).symm.append_left _).append_right _) fun _ _ => rfl
  obtain ⟨-, owned', dma⟩ := rxInitDma_reinit_invariant owned reinitialised
  have valid : ∀ i, ValidPayload (s'.slotPayload i) := fun i =>
    owned'.valid _ (by simp [ownedBuffers, mem_readRing])
  refine ⟨s', effects', reinitialised, funext fun i => kept i (invariant.buffer_nonzero i),
    by simpa [full] using pool_eq, stack, fun i => ?_,
    ⟨fun again => ?_, fun at_first => ⟨owned', 0, (dma 0).mpr ⟨rfl, at_first⟩⟩⟩⟩
  · rw [segments i (valid i), rxNew_rxAddressWord (valid i)]
  · obtain ⟨stored, at_stored⟩ := again.dma
    exact ((dma stored).mp at_stored).2

theorem init_dma_after_rx_run_after_delivery :
    ∃ init effects,
      rxInitDma ⟨10, false, 42, fun _ => false⟩
          (rxZero 2 (fun d => ⟨4 * d + 2, 0, 0, 0, 0⟩) (fun _ => []) [1, 2, 3]) =
        some (init, effects) ∧
      ∃ s trace, RxReachable ⟨⟨10, false, 42, fun _ => false⟩,
          ⟨true, false, false, false, fun _ => false⟩, fun _ _ => 0⟩ init s trace ∧
        trace.map Prod.fst = [.receive (List.replicate 12 0 ++ [8, 6] ++ List.replicate 46 0),
          .checkRx 5 (fun _ => true) true] ∧ s.rxHead = 1 ∧ s.stack = [1] ∧
        ∃ s' effects', rxInitDma ⟨10, false, 42, fun _ => false⟩ s = some (s', effects') ∧
          s'.rxBuffers = s.rxBuffers ∧ s'.pool = s.pool ∧ s'.stack = s.stack ∧
          (∀ i, rxNew (s'.rxSegments i).address = false) ∧
          (RxInvariant ⟨10, false, 42, fun _ => false⟩ s' [] ↔ s.rxHead = firstSlot 2) := by
  obtain ⟨init, effects, initialised, s, trace, run, actions, head, stack⟩ : ∃ init effects,
      rxInitDma ⟨10, false, 42, fun _ => false⟩
          (rxZero 2 (fun d => ⟨4 * d + 2, 0, 0, 0, 0⟩) (fun _ => []) [1, 2, 3]) =
        some (init, effects) ∧
      ∃ s trace, RxReachable ⟨⟨10, false, 42, fun _ => false⟩,
          ⟨true, false, false, false, fun _ => false⟩, fun _ _ => 0⟩ init s trace ∧
        trace.map Prod.fst = [.receive (List.replicate 12 0 ++ [8, 6] ++ List.replicate 46 0),
          .checkRx 5 (fun _ => true) true] ∧ s.rxHead = 1 ∧ s.stack = [1] :=
    ⟨_, _, rfl, _, _, (RxReachable.init.step (show rxStep _ _
      (.receive (List.replicate 12 0 ++ [8, 6] ++ List.replicate 46 0)) = some (_, _) by exact rfl)).step
      (show rxStep _ _ (.checkRx 5 (fun _ => true) true) = some (_, _) by exact rfl),
      by exact rfl, by exact rfl, by exact rfl⟩
  exact ⟨init, effects, initialised, s, trace, run, actions, head, stack,
    init_dma_after_rx_run ⟨by decide, by decide, by decide, by decide⟩ initialised run⟩

/-! ## The transmit side -/

/-- On a ring `clean_dma_txdescs` has emptied, the loop of `emacps_check_tx` gives back a credit per
pass up to `txHead` and releases nothing. -/
theorem checkTxLoop_cleaned (head : Fin n) :
    ∀ (uxCount : Nat) (tail : Fin n) (s : TxState n),
      (∀ i, s.txBuffers i = 0) → (∀ i, (s.txSegments i).flags = txIdleFlags (i.val = n - 1)) →
      s.txTail = tail → head = slotAt tail uxCount → uxCount ≤ n →
      s.txSemaphore = some (n - uxCount) →
      checkTxLoop head uxCount tail s = ({ s with txSemaphore := some n, txTail := head }, [])
  | 0, tail, s, _, _, at_tail, at_head, _, semaphore => by
    rw [Nat.sub_zero] at semaphore
    rw [at_head, slotAt_zero, ← at_tail, ← semaphore]
    rfl
  | uxCount + 1, tail, s, empty, idle, at_tail, at_head, bounded, semaphore => by
    have apart : ¬(tail = head ∧ uxCount + 1 ≠ n) := by
      rintro ⟨same, short⟩
      rw [at_head, eq_comm, slotAt_eq_base_iff tail (by omega)] at same
      omega
    have segments : Function.update s.txSegments tail
        { address := (s.txSegments tail).address, flags := txIdleFlags (tail.val = n - 1) } =
          s.txSegments :=
      Function.update_eq_self_iff.mpr (by rw [← idle tail])
    have reclaimed : reclaimSlot s tail =
        ({ s with txSemaphore := some (n - uxCount), txTail := advance tail }, []) := by
      refine Prod.ext (TxState.ext rfl rfl ?_ (by rw [reclaimSlot_txSegments, segments])
        (by rw [reclaimSlot_txBuffers, Function.update_eq_self_iff, empty tail]) rfl rfl)
        (by simp [empty tail])
      simp only [reclaimSlot_txSemaphore, semaphore, Option.map_some', semaphoreGive]
      split_ifs <;> (congr 1; omega)
    rw [checkTxLoop, if_pos (by rw [idle]; exact txUsed_txIdleFlags _), if_neg apart, reclaimed]
    dsimp only
    rw [checkTxLoop_cleaned head uxCount (advance tail)
      { s with txSemaphore := some (n - uxCount), txTail := advance tail } empty idle rfl
      (by rw [at_head, advance_eq_slotAt, slotAt_slotAt, Nat.add_comm]) (by omega) rfl]
    rfl

/-- `init_dma` forgets the network buffers of the frames in flight on the TX ring without releasing
them, and the ring is in step with the DMA again exactly when `txHead` is at slot 0. -/
theorem init_dma_drops_tx_in_flight [NeZero n] {s : TxState n} (invariant : TxInvariant s) :
    emacpsCheckTx (txInitDma s) =
        some ({ txInitDma s with txSemaphore := some n, txTail := s.txHead }, []) ∧
      (TxInvariant { txInitDma s with txSemaphore := some n, txTail := s.txHead } ↔
        s.txHead = firstSlot n) := by
  obtain ⟨count, semaphore, bounded⟩ := invariant.semaphore
  have kept : (txInitDma s).txSemaphore = some count := by simp [txInitDma, semaphore]
  have cleaned := checkTxLoop_cleaned s.txHead (n - count) s.txTail (txInitDma s) (fun _ => rfl)
    (fun i => by simp [txInitDma]) rfl (by rw [invariant.head, inFlight_of_semaphore semaphore])
    (Nat.sub_le _ _) (by rw [kept, Nat.sub_sub_self bounded])
  have drained : inFlight { txInitDma s with txSemaphore := some n, txTail := s.txHead } = 0 := by
    simp [inFlight]
  refine ⟨by rw [emacpsCheckTx, kept, Option.map_some']; exact congrArg some cleaned,
    fun again => ?_,
    fun at_first => ⟨⟨n, rfl, le_rfl⟩, ?_, fun i => ?_, fun i _ => ?_, fun i => ?_, 0, ?_⟩⟩
  · obtain ⟨sent, sent_le, dma_index, -⟩ := again.dma
    rw [drained, Nat.le_zero] at sent_le
    subst sent_le
    rw [← slotAt_zero s.txHead]
    exact dma_index.symm
  · rw [drained, slotAt_zero]
    rfl
  · rw [drained]
    simp [txInitDma, not_inWindow_zero]
  · simp [txInitDma]
  · simp [txInitDma]
  · rw [TxDmaAt, drained, slotAt_zero]
    exact ⟨le_rfl, at_first.symm, fun offset small => absurd small (Nat.not_lt_zero _)⟩

theorem init_dma_drops_tx_in_flight_after_send :
    emacpsCheckTx (txInitDma (emacpsSendMessage ⟨10, false, 42, fun _ => false⟩ (txStart 2)
        ⟨6, 60, by decide⟩).1) =
      some ({ txInitDma (emacpsSendMessage ⟨10, false, 42, fun _ => false⟩ (txStart 2)
        ⟨6, 60, by decide⟩).1 with
          txSemaphore := some 2,
          txTail := (emacpsSendMessage ⟨10, false, 42, fun _ => false⟩ (txStart 2)
            ⟨6, 60, by decide⟩).1.txHead }, []) ∧
    (TxInvariant { txInitDma (emacpsSendMessage ⟨10, false, 42, fun _ => false⟩ (txStart 2)
        ⟨6, 60, by decide⟩).1 with
          txSemaphore := some 2,
          txTail := (emacpsSendMessage ⟨10, false, 42, fun _ => false⟩ (txStart 2)
            ⟨6, 60, by decide⟩).1.txHead } ↔
      (emacpsSendMessage ⟨10, false, 42, fun _ => false⟩ (txStart 2) ⟨6, 60, by decide⟩).1.txHead =
        firstSlot 2) :=
  init_dma_drops_tx_in_flight (emacpsSendMessage_invariant _ (txStart_invariant 2) _)

end EmacPsDma
