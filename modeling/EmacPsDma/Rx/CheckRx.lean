import EmacPsDma.Rx.Invariant

/-!
# One call of `emacps_check_rx`

The received buffers of one call are linked through `pxNextBuffer` into a `NULL`-terminated
chain: `RxChain descriptors first chain` says that following the links from `first` visits the
buffers of `chain` and then `NULL`.  A pass of the loop keeps the invariant of
`EmacPsDma.Rx.Invariant` with the chain built so far counted among the owners, and moves the start
of the stored run one slot on; the loop therefore makes exactly one pass per stored frame, and the
chain it hands to `prvPassEthMessages` lists the buffers it replaced, in ring order.
-/

namespace EmacPsDma

variable {n : Nat}

/-! ## The chain of received buffers -/

/-- Following `pxNextBuffer` from `first` visits the buffers of `chain`, in order, and then
`NULL`. -/
inductive RxChain (descriptors : Nat → RxDescriptor) : Nat → List Nat → Prop
  /-- The empty chain, `NULL`. -/
  | nil : RxChain descriptors 0 []
  /-- A buffer followed by the chain of its `pxNextBuffer`. -/
  | cons {pxDescriptor : Nat} {rest : List Nat} : pxDescriptor ≠ 0 →
      RxChain descriptors (descriptors pxDescriptor).pxNextBuffer rest →
      RxChain descriptors pxDescriptor (pxDescriptor :: rest)

section Chain

variable {descriptors descriptors' : Nat → RxDescriptor}

theorem RxChain.eq_zero_iff {first : Nat} {chain : List Nat}
    (linked : RxChain descriptors first chain) : first = 0 ↔ chain = [] := by
  cases linked with
  | nil => simp
  | cons nonzero _ => simp [nonzero]

theorem RxChain.nonzero {first : Nat} {chain : List Nat}
    (linked : RxChain descriptors first chain) : ∀ d ∈ chain, d ≠ 0 := by
  induction linked with
  | nil => simp
  | cons nonzero _ ih => exact List.forall_mem_cons.mpr ⟨nonzero, ih⟩

/-- Writes to buffers outside the chain, or to fields other than the link, leave it in place. -/
theorem RxChain.frame {first : Nat} {chain : List Nat} (linked : RxChain descriptors first chain)
    (kept : ∀ d ∈ chain, (descriptors' d).pxNextBuffer = (descriptors d).pxNextBuffer) :
    RxChain descriptors' first chain := by
  induction linked with
  | nil => exact .nil
  | cons nonzero _ ih =>
    refine .cons nonzero ?_
    rw [kept _ (List.mem_cons_self _ _)]
    exact ih fun d member => kept d (List.mem_cons_of_mem _ member)

/-- Linking a fresh buffer behind the last one appends it to the chain, or starts the chain. -/
theorem RxChain.snoc {first pxBuffer : Nat} {chain : List Nat}
    (linked : RxChain descriptors first chain) (fresh : (chain ++ [pxBuffer]).Nodup)
    (nonzero : pxBuffer ≠ 0)
    (kept : ∀ d ∈ chain, d ≠ chain.getLastD 0 →
      (descriptors' d).pxNextBuffer = (descriptors d).pxNextBuffer)
    (tail : chain ≠ [] → (descriptors' (chain.getLastD 0)).pxNextBuffer = pxBuffer)
    (ends : (descriptors' pxBuffer).pxNextBuffer = 0) :
    RxChain descriptors' (if first = 0 then pxBuffer else first) (chain ++ [pxBuffer]) := by
  have single : RxChain descriptors' pxBuffer [pxBuffer] := .cons nonzero (ends ▸ .nil)
  induction linked with
  | nil => simpa using single
  | @cons d rest d_nonzero rest_linked ih =>
    rw [if_neg d_nonzero, List.cons_append]
    refine .cons d_nonzero ?_
    cases rest with
    | nil =>
      have link : (descriptors' d).pxNextBuffer = pxBuffer := by
        simpa using tail (List.cons_ne_nil _ _)
      rw [link]
      exact single
    | cons next rest =>
      have next_nonzero : (descriptors d).pxNextBuffer ≠ 0 := by
        simp [rest_linked.eq_zero_iff]
      have d_fresh : d ∉ next :: rest := (List.nodup_cons.mp fresh).1 ∘ List.mem_append_left _
      have last_mem : (d :: next :: rest).getLastD 0 ∈ next :: rest := by
        rw [List.getLastD_cons, List.getLastD_cons]
        exact List.getLastD_mem_cons _ _
      rw [kept d (List.mem_cons_self _ _) fun last => d_fresh (last ▸ last_mem)]
      have := ih (List.nodup_cons.mp fresh).2
        (fun e member other => kept e (List.mem_cons_of_mem _ member) (by simpa using other))
        (fun _ => by simpa using tail (List.cons_ne_nil _ _))
      rwa [if_neg next_nonzero] at this

/-- The release loop of `prvPassEthMessages` releases each buffer of the chain once, in order,
given one pass per buffer. -/
theorem releaseChain_eq {first : Nat} {chain : List Nat} (linked : RxChain descriptors first chain)
    (nonempty : chain ≠ []) (s : RxState n) (same : s.descriptors = descriptors) {fuel : Nat}
    (enough : chain.length ≤ fuel) :
    releaseChain fuel first s = some ({ s with pool := s.pool ++ chain }, chain.map .release) := by
  induction linked generalizing s fuel with
  | nil => exact absurd rfl nonempty
  | @cons d rest nonzero rest_linked ih =>
    obtain ⟨fuel, rfl⟩ : ∃ fuel', fuel = fuel' + 1 := ⟨fuel - 1, by simp at enough; omega⟩
    by_cases last : rest = []
    · subst last
      simp [releaseChain, same, (rest_linked.eq_zero_iff).mpr rfl,
        vReleaseNetworkBufferAndDescriptor]
    · have next_nonzero := mt rest_linked.eq_zero_iff.mp last
      simp only [releaseChain, same, next_nonzero, if_false]
      rw [ih last (vReleaseNetworkBufferAndDescriptor d s) same (by simpa using enough)]
      simp [vReleaseNetworkBufferAndDescriptor, same]

end Chain

/-! ## The routines of a pass -/

theorem pxGetNetworkBufferWithDescriptor_eq_some {succeeds : Bool} {s s' : RxState n}
    {pxBuffer : Nat} :
    pxGetNetworkBufferWithDescriptor succeeds s = some (pxBuffer, s') ↔
      succeeds = true ∧ ∃ rest, s.pool = pxBuffer :: rest ∧ s' = { s with pool := rest } := by
  unfold pxGetNetworkBufferWithDescriptor
  cases pool : s.pool with
  | nil => simp
  | cons first rest =>
    cases succeeds
    · simp
    · constructor
      · intro taken
        obtain ⟨rfl, rfl⟩ := Prod.mk.inj (Option.some.inj taken)
        exact ⟨rfl, rest, rfl, rfl⟩
      · rintro ⟨-, rest', same, rfl⟩
        obtain ⟨rfl, rfl⟩ := List.cons.inj same
        rfl

section Repost

variable (config : Config) (head : Fin n) (pxNewBuffer : Nat) (s : RxState n)

@[simp] theorem rxRepost_rxHead : (rxRepost config head pxNewBuffer s).1.rxHead = advance head :=
  rfl

@[simp] theorem rxRepost_rxBuffers :
    (rxRepost config head pxNewBuffer s).1.rxBuffers = s.rxBuffers := rfl

@[simp] theorem rxRepost_descriptors :
    (rxRepost config head pxNewBuffer s).1.descriptors = s.descriptors := rfl

@[simp] theorem rxRepost_memory : (rxRepost config head pxNewBuffer s).1.memory = s.memory := rfl

@[simp] theorem rxRepost_pool : (rxRepost config head pxNewBuffer s).1.pool = s.pool := rfl

@[simp] theorem rxRepost_stack : (rxRepost config head pxNewBuffer s).1.stack = s.stack := rfl

@[simp] theorem rxRepost_rxDmaIndex :
    (rxRepost config head pxNewBuffer s).1.rxDmaIndex = s.rxDmaIndex := rfl

end Repost

section Deliver

variable (config : RxConfig) (pxInterface : Nat) (head : Fin n) (pxBuffer pxNewBuffer : Nat)
  (loop : RxLoop) (s : RxState n)

@[simp] theorem rxDeliver_rxBuffers :
    (rxDeliver config pxInterface head pxBuffer pxNewBuffer loop s).1.rxBuffers =
      Function.update s.rxBuffers head pxNewBuffer := rfl

@[simp] theorem rxDeliver_rxSegments :
    (rxDeliver config pxInterface head pxBuffer pxNewBuffer loop s).1.rxSegments = s.rxSegments :=
  rfl

@[simp] theorem rxDeliver_rxHead :
    (rxDeliver config pxInterface head pxBuffer pxNewBuffer loop s).1.rxHead = s.rxHead := rfl

@[simp] theorem rxDeliver_memory :
    (rxDeliver config pxInterface head pxBuffer pxNewBuffer loop s).1.memory = s.memory := rfl

@[simp] theorem rxDeliver_pool :
    (rxDeliver config pxInterface head pxBuffer pxNewBuffer loop s).1.pool = s.pool := rfl

@[simp] theorem rxDeliver_stack :
    (rxDeliver config pxInterface head pxBuffer pxNewBuffer loop s).1.stack = s.stack := rfl

@[simp] theorem rxDeliver_rxDmaIndex :
    (rxDeliver config pxInterface head pxBuffer pxNewBuffer loop s).1.rxDmaIndex = s.rxDmaIndex :=
  rfl

@[simp] theorem rxDeliver_received :
    (rxDeliver config pxInterface head pxBuffer pxNewBuffer loop s).2.1.received =
      loop.received ++ [pxBuffer] := rfl

/-- Delivering writes the fields of the received buffer and the link of the last one, never a
payload pointer. -/
@[simp] theorem rxDeliver_payload (d : Nat) :
    ((rxDeliver config pxInterface head pxBuffer pxNewBuffer loop s).1.descriptors
      d).pucEthernetBuffer = (s.descriptors d).pucEthernetBuffer := by
  unfold rxDeliver
  dsimp only
  split
  · -- linking the buffer after the last one of the chain changes only its pxNextBuffer
    by_cases last : d = loop.pxLastDescriptor
    · subst last
      simp only [Function.update_same, Function.update_apply]
      split <;> (subst_vars; rfl)
    · simp only [Function.update_noteq last, Function.update_apply]
      split <;> (subst_vars; rfl)
  · simp only [Function.update_apply]
    split <;> (subst_vars; rfl)

end Deliver

/-! ## One pass -/

/-- The chain an effect hands to the IP task, with the outcome of the enqueue. -/
def rxEventOf : Effect → Option (Nat × Bool)
  | .sendRxEvent first delivered => some (first, delivered)
  | _ => none

/-- Posting a slot only maintains the cache. -/
theorem rxRepost_quiet (config : Config) (head : Fin n) (pxNewBuffer : Nat) (s : RxState n) :
    releasedBuffers (rxRepost config head pxNewBuffer s).2 = [] ∧
      (rxRepost config head pxNewBuffer s).2.filterMap rxEventOf = [] := by
  simp only [rxRepost]
  split_ifs <;> exact ⟨rfl, rfl⟩

/-- Delivering a buffer only maintains the cache. -/
theorem rxDeliver_quiet (config : RxConfig) (pxInterface : Nat) (head : Fin n)
    (pxBuffer pxNewBuffer : Nat) (loop : RxLoop) (s : RxState n) :
    releasedBuffers (rxDeliver config pxInterface head pxBuffer pxNewBuffer loop s).2.2 = [] ∧
      (rxDeliver config pxInterface head pxBuffer pxNewBuffer loop s).2.2.filterMap rxEventOf =
        [] := by
  simp only [rxDeliver]
  split_ifs <;> exact ⟨rfl, rfl⟩

/-- A pass of the loop releases nothing and hands nothing to the IP task. -/
theorem checkRxPass_quiet (config : RxConfig) (pxInterface : Nat) (allocates : Nat → Bool)
    (head : Fin n) (loop : RxLoop) (s : RxState n) :
    releasedBuffers (checkRxPass config pxInterface allocates head loop s).2.2 = [] ∧
      (checkRxPass config pxInterface allocates head loop s).2.2.filterMap rxEventOf = [] := by
  unfold checkRxPass
  dsimp only
  split
  · split <;> simp [rxEventOf, rxRepost_quiet, rxDeliver_quiet]
  · simp [rxEventOf, rxRepost_quiet]

/-- The locals of the loop describe the chain built so far. -/
structure ChainLoop (descriptors : Nat → RxDescriptor) (loop : RxLoop) : Prop where
  /-- `pxFirstDescriptor` starts the chain of the buffers linked so far. -/
  chain : RxChain descriptors loop.pxFirstDescriptor loop.received
  /-- `pxLastDescriptor` is its last buffer, `NULL` while there is none. -/
  last : loop.pxLastDescriptor = loop.received.getLastD 0
  /-- `msgCount` counts it. -/
  count : loop.msgCount = loop.received.length

/-- Linking a received buffer that is not yet in the chain appends it. -/
theorem rxDeliver_chainLoop {config : RxConfig} {pxInterface : Nat} {head : Fin n}
    {pxBuffer pxNewBuffer : Nat} {loop : RxLoop} {s : RxState n}
    (chained : ChainLoop s.descriptors loop) (fresh : (loop.received ++ [pxBuffer]).Nodup)
    (nonzero : pxBuffer ≠ 0) :
    ChainLoop (rxDeliver config pxInterface head pxBuffer pxNewBuffer loop s).1.descriptors
      (rxDeliver config pxInterface head pxBuffer pxNewBuffer loop s).2.1 := by
  have outside : pxBuffer ∉ loop.received := fun member =>
    (List.nodup_append.mp fresh).2.2 member (List.mem_singleton_self _)
  have last_ne : loop.pxLastDescriptor ≠ pxBuffer := by
    rw [chained.last]
    cases received : loop.received using List.reverseRecOn with
    | nil => exact Ne.symm nonzero
    | append_singleton rest last =>
      rw [List.getLastD_eq_getLast?, List.getLast?_append, List.getLast?_singleton]
      exact fun same => outside (by rw [received]; simp [← same])
  refine ⟨?_, by simp [rxDeliver], by simp [rxDeliver, chained.count]⟩
  apply chained.chain.snoc fresh nonzero
  · intro d member other
    have not_buffer : d ≠ pxBuffer := fun same => outside (same ▸ member)
    rw [← chained.last] at other
    unfold rxDeliver
    dsimp only
    split <;> simp only [Function.update_noteq other, Function.update_noteq not_buffer]
  · intro nonempty
    have first : loop.pxFirstDescriptor ≠ 0 := mt chained.chain.eq_zero_iff.mp nonempty
    have last : loop.pxLastDescriptor ≠ 0 := by
      rw [chained.last, List.getLastD_eq_getLast?, List.getLast?_eq_getLast _ nonempty]
      exact chained.chain.nonzero _ (List.getLast_mem nonempty)
    rw [← chained.last]
    simp [rxDeliver, first, last]
  · unfold rxDeliver
    dsimp only
    split <;> simp [Function.update_noteq last_ne.symm]

/-- A pass gives its slot back with the same buffer (frame refused, or no replacement), or delivers
the frame and gives the slot back with a buffer from the pool. -/
theorem checkRxPass_cases {config : RxConfig} {pxInterface : Nat} {allocates : Nat → Bool}
    {head : Fin n} {loop : RxLoop} {s : RxState n} {pass : RxState n × RxLoop × List Effect}
    (run : checkRxPass config pxInterface allocates head loop s = pass) :
    (pass.1 = (rxRepost config.toConfig head (s.rxBuffers head) s).1 ∧
      ∃ attempts, pass.2.1 = { loop with attempts := attempts }) ∨
    (∃ pxNewBuffer rest, s.pool = pxNewBuffer :: rest ∧
      xMayAcceptPacket config.filter (s.memory (s.slotPayload head)) = true ∧
      pass.1 = (rxRepost config.toConfig head pxNewBuffer
        (rxDeliver config pxInterface head (s.rxBuffers head) pxNewBuffer
          { loop with attempts := loop.attempts + 1 } { s with pool := rest }).1).1 ∧
      pass.2.1 = (rxDeliver config pxInterface head (s.rxBuffers head) pxNewBuffer
          { loop with attempts := loop.attempts + 1 } { s with pool := rest }).2.1) := by
  subst run
  by_cases accept : xMayAcceptPacket config.filter (s.memory (s.slotPayload head)) = true
  · have accept' := accept
    simp only [RxState.slotPayload] at accept'
    cases taken : pxGetNetworkBufferWithDescriptor (allocates loop.attempts) s with
    | none =>
      simp only [checkRxPass, accept', taken, if_true]
      exact .inl ⟨trivial, _, rfl⟩
    | some result =>
      obtain ⟨pxNewBuffer, allocated⟩ := result
      obtain ⟨-, rest, pool, rfl⟩ := pxGetNetworkBufferWithDescriptor_eq_some.mp taken
      simp only [checkRxPass, accept', taken, if_true]
      exact .inr ⟨pxNewBuffer, rest, pool, accept, rfl, rfl⟩
  · simp only [RxState.slotPayload, Bool.not_eq_true] at accept
    simp only [checkRxPass, accept, Bool.false_eq_true, if_false]
    exact .inl ⟨trivial, _, rfl⟩

/-- Giving slot `rxHead` back to the MAC, with `NEW` clear and the buffer `mid` holds there, moves
the start of the stored run one slot on. -/
theorem rxRepost_dmaAt {config : Config} {s mid : RxState n} {stored : Nat}
    (dma : RxDmaAt config s (stored + 1)) (valid : ValidPayload (mid.slotPayload s.rxHead))
    (segments : mid.rxSegments = s.rxSegments) (memory : mid.memory = s.memory)
    (index : mid.rxDmaIndex = s.rxDmaIndex)
    (others : ∀ i, i ≠ s.rxHead → mid.slotPayload i = s.slotPayload i) :
    RxDmaAt config (rxRepost config s.rxHead (mid.rxBuffers s.rxHead) mid).1 stored := by
  have window : ∀ i, InWindow (advance s.rxHead) stored i ↔
      InWindow s.rxHead (stored + 1) i ∧ i ≠ s.rxHead := fun i => by
    simpa using @inWindow_advance n s.rxHead i (stored + 1) dma.stored_le
  refine ⟨Nat.le_of_succ_le dma.stored_le, ?_, fun i => ?_, fun i => ?_, fun i inside => ?_⟩
  · simp [index, dma.dma_index, advance_eq_slotAt, slotAt_slotAt, Nat.add_comm]
  · by_cases at_head : i = s.rxHead
    · subst at_head
      simp only [RxState.slotPayload] at valid
      simp only [rxRepost, Function.update_same, RxState.slotPayload]
      rw [rxAddressWord_repost valid]
      simp [window]
    · have other := others i at_head
      simp only [RxState.slotPayload] at other
      simp only [rxRepost, Function.update_noteq at_head, segments, dma.address i]
      simp [window, at_head, RxState.slotPayload, other]
  · by_cases at_head : i = s.rxHead
    · subst at_head
      simp [rxRepost, window]
    · have other := others i at_head
      simp only [RxState.slotPayload] at other
      simp only [rxRepost, Function.update_noteq at_head, segments, dma.flags i]
      simp [window, at_head, RxState.slotPayload, memory, other]
  · have ⟨stored_slot, at_head⟩ := (window i).mp inside
    have other := others i at_head
    simp only [RxState.slotPayload] at other
    simpa [RxState.slotPayload, memory, other] using dma.fits i stored_slot

/-- One pass over a stored frame at `rxHead` keeps the invariant with one frame less stored, and
replaces and links the buffer exactly when the frame was accepted and the pool gave one. -/
theorem checkRxPass_spec {config : RxConfig} {pxInterface : Nat} {allocates : Nat → Bool}
    {s : RxState n} {loop : RxLoop} {stored : Nat} {pass : RxState n × RxLoop × List Effect}
    (invariant : RxInvariant config.toConfig s loop.received)
    (dma : RxDmaAt config.toConfig s (stored + 1)) (chained : ChainLoop s.descriptors loop)
    (run : checkRxPass config pxInterface allocates s.rxHead loop s = pass) :
    (ownedBuffers pass.1 pass.2.1.received).Perm (ownedBuffers s loop.received) ∧
    RxInvariant config.toConfig pass.1 pass.2.1.received ∧ RxDmaAt config.toConfig pass.1 stored ∧
    ChainLoop pass.1.descriptors pass.2.1 ∧ pass.1.rxHead = advance s.rxHead ∧
    pass.1.stack = s.stack ∧ pass.1.memory = s.memory ∧
    (∀ i, i ≠ s.rxHead → pass.1.rxBuffers i = s.rxBuffers i) ∧
    (∀ d, (pass.1.descriptors d).pucEthernetBuffer = (s.descriptors d).pucEthernetBuffer) ∧
    pass.2.1.received = loop.received ++
      (if pass.1.rxBuffers s.rxHead = s.rxBuffers s.rxHead then [] else [s.rxBuffers s.rxHead]) ∧
    (pass.1.rxBuffers s.rxHead ≠ s.rxBuffers s.rxHead →
      xMayAcceptPacket config.filter (s.memory (s.slotPayload s.rxHead)) = true) := by
  have in_ring : s.rxBuffers s.rxHead ∈ readRing s.rxBuffers s.rxHead n :=
    mem_readRing _ _ _
  rcases checkRxPass_cases run with ⟨state, attempts, locals⟩ |
    ⟨pxNewBuffer, rest, pool, accept, state, locals⟩
  · rw [state, locals]
    have perm : (ownedBuffers (rxRepost config.toConfig s.rxHead (s.rxBuffers s.rxHead) s).1
        loop.received).Perm (ownedBuffers s loop.received) := by
      simp only [ownedBuffers, rxRepost_pool, rxRepost_rxBuffers, rxRepost_rxHead, rxRepost_stack,
        readRing_advance, readRing_base s.rxBuffers s.rxHead]
      exact (((List.perm_append_singleton _ _).append_left _).append_right _).append_right _
    have dma' := rxRepost_dmaAt dma (invariant.buffer_valid _) rfl rfl rfl fun _ _ => rfl
    exact ⟨perm, ⟨invariant.owned.of_perm perm fun _ _ => rfl, stored, dma'⟩, dma',
      ⟨chained.chain, chained.last, chained.count⟩, rfl, rfl, rfl, fun _ _ => rfl, fun _ => rfl,
      by simp, fun changed => absurd rfl changed⟩
  · rw [state, locals]
    have owned_nodup := invariant.owned.nodup
    rw [ownedBuffers, pool] at owned_nodup
    have distinct : pxNewBuffer ≠ s.rxBuffers s.rxHead := by
      have pair : [pxNewBuffer, s.rxBuffers s.rxHead].Nodup := owned_nodup.sublist
        ((((List.singleton_sublist.mpr (List.mem_cons_self _ _)).append
          (List.singleton_sublist.mpr in_ring)).trans (List.sublist_append_left _ _)).trans
          (List.sublist_append_left _ _))
      simpa using pair
    have fresh : (loop.received ++ [s.rxBuffers s.rxHead]).Nodup :=
      List.perm_append_comm.nodup_iff.mp (owned_nodup.sublist
        (((List.singleton_sublist.mpr (List.mem_append_right _ in_ring)).trans
          (List.sublist_append_left _ _)).append (List.Sublist.refl _)))
    have new_valid : ValidPayload (s.descriptors pxNewBuffer).pucEthernetBuffer :=
      invariant.owned.valid _ (by simp [ownedBuffers, pool])
    have dma' := @rxRepost_dmaAt n config.toConfig s
      (rxDeliver config pxInterface s.rxHead (s.rxBuffers s.rxHead) pxNewBuffer
        { loop with attempts := loop.attempts + 1 } { s with pool := rest }).1 stored dma
      (by simpa [RxState.slotPayload] using new_valid) rfl rfl rfl
      fun i other => by simp [RxState.slotPayload, Function.update_noteq other]
    simp only [rxDeliver_rxBuffers, Function.update_same] at dma'
    have perm : (ownedBuffers (rxRepost config.toConfig s.rxHead pxNewBuffer
        (rxDeliver config pxInterface s.rxHead (s.rxBuffers s.rxHead) pxNewBuffer
          { loop with attempts := loop.attempts + 1 } { s with pool := rest }).1).1
        (loop.received ++ [s.rxBuffers s.rxHead])).Perm (ownedBuffers s loop.received) := by
      have outside : readRing (Function.update s.rxBuffers s.rxHead pxNewBuffer)
          (advance s.rxHead) (n - 1) = readRing s.rxBuffers (advance s.rxHead) (n - 1) :=
        readRing_congr (fun i inside => Function.update_noteq
          (((inWindow_advance (Nat.le_refl n)).mp inside).2) _ _) (Nat.sub_le n 1)
      simp only [ownedBuffers, rxRepost_pool, rxRepost_rxBuffers, rxRepost_rxHead,
        rxRepost_stack, rxDeliver_pool, rxDeliver_rxBuffers, rxDeliver_stack, readRing_advance,
        Function.update_same, outside, readRing_base s.rxBuffers s.rxHead, pool]
      exact List.perm_iff_count.mpr fun a => by
        simp only [List.count_append, List.count_cons, List.count_singleton', List.count_nil]
        omega
    have chain' := @rxDeliver_chainLoop n config pxInterface s.rxHead (s.rxBuffers s.rxHead)
      pxNewBuffer { loop with attempts := loop.attempts + 1 } { s with pool := rest }
      ⟨chained.chain, chained.last, chained.count⟩ fresh (invariant.buffer_nonzero _)
    refine ⟨perm, ⟨invariant.owned.of_perm perm fun d _ => by simp, stored, dma'⟩, dma', chain',
      rfl, rfl, rfl,
      fun i other => by simp [Function.update_noteq other], fun d => by simp, ?_,
      fun _ => accept⟩
    simp [distinct]

/-! ## The loop -/

/-- The buffers of the `count` slots from `base` that `after` no longer holds, in ring order. -/
def replacedBuffers (before after : Fin n → Nat) (base : Fin n) (count : Nat) : List Nat :=
  (readRing (fun i => (before i, after i)) base count).filterMap fun slot =>
    if slot.2 = slot.1 then none else some slot.1

theorem replacedBuffers_succ (before after : Fin n → Nat) (base : Fin n) (count : Nat) :
    replacedBuffers before after base (count + 1) =
      (if after base = before base then [] else [before base]) ++
        replacedBuffers before after (advance base) count := by
  simp only [replacedBuffers, readRing_succ_left, List.filterMap_cons]
  split_ifs <;> rfl

theorem length_replacedBuffers_le (before after : Fin n → Nat) (base : Fin n) (count : Nat) :
    (replacedBuffers before after base count).length ≤ count :=
  (List.length_filterMap_le _ _).trans (length_readRing _ _ _).le

/-- The loop from `rxHead` over `stored` frames passes each once and stops at the first free slot,
its chain holding, in ring order, the replaced buffers of the run. -/
theorem checkRxLoop_spec (config : RxConfig) (pxInterface : Nat) (allocates : Nat → Bool) :
    ∀ (stored : Nat) (s : RxState n) (loop : RxLoop) (fuel : Nat),
      RxInvariant config.toConfig s loop.received → RxDmaAt config.toConfig s stored →
      ChainLoop s.descriptors loop → stored < fuel →
      ∃ s' loop' effects,
        checkRxLoop config pxInterface allocates fuel s.rxHead loop s = some (s', loop', effects) ∧
        (ownedBuffers s' loop'.received).Perm (ownedBuffers s loop.received) ∧
        RxInvariant config.toConfig s' loop'.received ∧ RxDmaAt config.toConfig s' 0 ∧
        ChainLoop s'.descriptors loop' ∧ s'.rxHead = slotAt s.rxHead stored ∧
        s'.stack = s.stack ∧ s'.memory = s.memory ∧
        (∀ d, (s'.descriptors d).pucEthernetBuffer = (s.descriptors d).pucEthernetBuffer) ∧
        (∀ i, ¬InWindow s.rxHead stored i → s'.rxBuffers i = s.rxBuffers i) ∧
        loop'.received = loop.received ++ replacedBuffers s.rxBuffers s'.rxBuffers s.rxHead stored ∧
        (∀ i, InWindow s.rxHead stored i → s'.rxBuffers i ≠ s.rxBuffers i →
          xMayAcceptPacket config.filter (s.memory (s.slotPayload i)) = true) ∧
        releasedBuffers effects = [] ∧ effects.filterMap rxEventOf = []
  | _, _, _, 0, _, _, _, enough => absurd enough (Nat.not_lt_zero _)
  | 0, s, loop, fuel + 1, invariant, dma, chained, _ => by
    have idle : rxNew (s.rxSegments s.rxHead).address = false := by
      rw [dma.rxNew_address invariant.buffer_valid]
      exact decide_eq_false (not_inWindow_zero _ _)
    refine ⟨s, loop, [], by simp [checkRxLoop, idle], List.Perm.refl _, invariant, dma, chained,
      (slotAt_zero _).symm, rfl, rfl, fun _ => rfl, fun _ _ => rfl, by simp [replacedBuffers],
      fun i inside => absurd inside (not_inWindow_zero _ i), rfl, rfl⟩
  | stored + 1, s, loop, fuel + 1, invariant, dma, chained, enough => by
    obtain ⟨perm₁, invariant₁, dma₁, chained₁, head₁, stack₁, memory₁, others₁, payload₁,
      received₁, accepted₁⟩ := checkRxPass_spec invariant dma chained rfl
    obtain ⟨released₁, events₁⟩ := checkRxPass_quiet config pxInterface allocates s.rxHead loop s
    obtain ⟨s', loop', effects, run, perm, invariant', dma', chained', head', stack', memory',
      payload', others', received', accepted', released', events'⟩ :=
      checkRxLoop_spec config pxInterface allocates stored _ _ fuel invariant₁ dma₁ chained₁
        (Nat.lt_of_succ_lt_succ enough)
    have window : ∀ i, InWindow (advance s.rxHead) stored i ↔
        InWindow s.rxHead (stored + 1) i ∧ i ≠ s.rxHead := fun i => by
      simpa using @inWindow_advance n s.rxHead i (stored + 1) dma.stored_le
    have at_head : s'.rxBuffers s.rxHead =
        (checkRxPass config pxInterface allocates s.rxHead loop s).1.rxBuffers s.rxHead :=
      others' _ (by simp [head₁, window])
    have stored_head : rxNew (s.rxSegments s.rxHead).address = true := by
      rw [dma.rxNew_address invariant.buffer_valid, decide_eq_true_eq, InWindow, offsetFrom_self]
      exact Nat.succ_pos stored
    refine ⟨s', loop', (checkRxPass config pxInterface allocates s.rxHead loop s).2.2 ++ effects,
      ?_, perm.trans perm₁, invariant', dma', chained', ?_,
      stack'.trans stack₁, memory'.trans memory₁, fun d => (payload' d).trans (payload₁ d),
      fun i outside => ?_, ?_, fun i inside changed => ?_, by simp [released₁, released'],
      by simp [events₁, events']⟩
    · simp only [checkRxLoop, stored_head, invariant.buffer_nonzero, Bool.true_eq_false,
        or_self, if_false, ← head₁, run, Option.map_some']
    · rw [head', head₁, advance_eq_slotAt, slotAt_slotAt, Nat.add_comm 1]
    · have other : i ≠ s.rxHead := fun same => outside (by
        rw [same, InWindow, offsetFrom_self]; exact Nat.succ_pos stored)
      rw [others' i (by simp [head₁, window, outside]), others₁ i other]
    · have kept : replacedBuffers
          (checkRxPass config pxInterface allocates s.rxHead loop s).1.rxBuffers s'.rxBuffers
          (advance s.rxHead) stored =
          replacedBuffers s.rxBuffers s'.rxBuffers (advance s.rxHead) stored := by
        unfold replacedBuffers
        rw [readRing_congr (fun i inside => by rw [others₁ i ((window i).mp inside).2])
          (Nat.le_of_succ_le dma.stored_le)]
      rw [received', received₁, head₁, kept, replacedBuffers_succ, at_head, List.append_assoc]
    · by_cases on_head : i = s.rxHead
      · subst on_head
        exact accepted₁ (at_head ▸ changed)
      · have := accepted' i (by rw [head₁, window]; exact ⟨inside, on_head⟩)
          (by rwa [others₁ i on_head])
        simpa [memory₁, RxState.slotPayload, others₁ i on_head, payload₁] using this

/-! ## The call -/

theorem filterMap_rxEventOf_release (buffers : List Nat) :
    (buffers.map Effect.release).filterMap rxEventOf = [] := by
  induction buffers with
  | nil => rfl
  | cons _ _ ih => exact ih

/-- `emacps_check_rx` with no frame arriving drains the stored run and hands its chain to the IP
task, or back to the pool when the enqueue fails, keeping the invariant. -/
theorem emacpsCheckRx_spec {config : RxConfig} {s : RxState n} {stored : Nat}
    (invariant : RxInvariant config.toConfig s []) (dma : RxDmaAt config.toConfig s stored)
    (pxInterface : Nat) (allocates : Nat → Bool) (enqueued : Bool) {fuel : Nat}
    (enough : stored < fuel) :
    ∃ s' effects loop,
      emacpsCheckRx config pxInterface allocates enqueued fuel s = some (s', effects, loop) ∧
      (ownedBuffers s' (if enqueued then loop.received else [])).Perm (ownedBuffers s []) ∧
      RxInvariant config.toConfig s' (if enqueued then loop.received else []) ∧
      RxDmaAt config.toConfig s' 0 ∧ s'.rxHead = slotAt s.rxHead stored ∧ s'.stack = s.stack ∧
      s'.memory = s.memory ∧ (∀ i, ¬InWindow s.rxHead stored i → s'.rxBuffers i = s.rxBuffers i) ∧
      RxChain s'.descriptors loop.pxFirstDescriptor loop.received ∧ loop.received.Nodup ∧
      loop.received = replacedBuffers s.rxBuffers s'.rxBuffers s.rxHead stored ∧
      (∀ i, InWindow s.rxHead stored i → s'.rxBuffers i ≠ s.rxBuffers i →
        xMayAcceptPacket config.filter (s.memory (s.slotPayload i)) = true) ∧
      loop.msgCount = loop.received.length ∧
      effects.filterMap rxEventOf =
        (if loop.received = [] then [] else [(loop.pxFirstDescriptor, enqueued)]) ∧
      releasedBuffers effects = (if enqueued then [] else loop.received) := by
  obtain ⟨s₁, loop₁, effects₁, run, perm, invariant₁, dma₁, chained₁, head₁, stack₁, memory₁, -,
    others₁, received₁, accepted₁, released₁, events₁⟩ :=
    checkRxLoop_spec config pxInterface allocates stored s ⟨0, 0, 0, 0, []⟩ fuel invariant dma
      ⟨.nil, rfl, rfl⟩ enough
  rw [List.nil_append] at received₁
  have nodup : loop₁.received.Nodup :=
    invariant₁.owned.nodup.sublist (List.sublist_append_right _ _)
  have short : loop₁.received.length ≤ fuel :=
    (received₁ ▸ length_replacedBuffers_le _ _ _ _).trans (Nat.le_of_lt enough)
  by_cases empty : loop₁.received = []
  · refine ⟨s₁, effects₁, loop₁, by simp [emacpsCheckRx, run, chained₁.chain.eq_zero_iff.mpr empty],
      ?_⟩
    have linked : (if enqueued then loop₁.received else []) = [] := by simp [empty]
    rw [linked]
    rw [empty] at perm invariant₁
    exact ⟨perm, invariant₁, dma₁, head₁, stack₁, memory₁, others₁, chained₁.chain, nodup,
      received₁, accepted₁, chained₁.count, by simp [events₁, empty], by simp [released₁, empty]⟩
  · have first : loop₁.pxFirstDescriptor ≠ 0 := mt chained₁.chain.eq_zero_iff.mp empty
    simp only [emacpsCheckRx, run, Option.some_bind, first, if_false, prvPassEthMessages]
    cases enqueued
    · obtain ⟨released, perm₂⟩ := invariant₁.release
      simp only [releaseChain_eq chained₁.chain empty s₁ rfl short, Bool.false_eq_true, if_false,
        Option.map_some']
      refine ⟨_, _, loop₁, rfl, perm₂.trans perm, released, dma₁.with_owners _ _, head₁, stack₁,
        memory₁, others₁, chained₁.chain, nodup, received₁, accepted₁, chained₁.count, ?_, ?_⟩
      · simp [events₁, empty, rxEventOf, filterMap_rxEventOf_release]
      · rw [releasedBuffers_append, released₁, ← List.singleton_append, releasedBuffers_append,
          releasedBuffers_append, releasedBuffers_map_release]
        simp [releasedBuffers]
    · simp only [if_true, Option.map_some']
      refine ⟨_, _, loop₁, rfl, perm, invariant₁, dma₁, head₁, stack₁, memory₁, others₁,
        chained₁.chain, nodup, received₁, accepted₁, chained₁.count,
        by simp [events₁, empty, rxEventOf], ?_⟩
      rw [releasedBuffers_append, released₁]
      rfl

/-- Every pass starts with the filter's read of the headers of the frame in its slot. -/
theorem checkRxPass_reads_header (config : RxConfig) (pxInterface : Nat) (allocates : Nat → Bool)
    (head : Fin n) (loop : RxLoop) (s : RxState n) :
    ∃ rest, (checkRxPass config pxInterface allocates head loop s).2.2 =
      .readPayload (s.slotPayload head) 38 :: rest := by
  unfold checkRxPass
  dsimp only
  split
  · split <;> exact ⟨_, rfl⟩
  · exact ⟨_, rfl⟩

/-- A call that finds a frame at `rxHead` reads that frame's headers before anything else it does
outside the driver's state, cache maintenance included. -/
theorem emacpsCheckRx_reads_header_first {config : RxConfig} {s : RxState n} {stored : Nat}
    (invariant : RxInvariant config.toConfig s []) (dma : RxDmaAt config.toConfig s (stored + 1))
    {pxInterface : Nat} {allocates : Nat → Bool} {enqueued : Bool} {fuel : Nat}
    {s' : RxState n} {effects : List Effect} {loop : RxLoop}
    (run : emacpsCheckRx config pxInterface allocates enqueued fuel s = some (s', effects, loop)) :
    ∃ rest, effects = .readPayload (s.slotPayload s.rxHead) 38 :: rest := by
  have stored_head : rxNew (s.rxSegments s.rxHead).address = true := by
    rw [dma.rxNew_address invariant.buffer_valid, decide_eq_true_eq, InWindow, offsetFrom_self]
    exact Nat.succ_pos stored
  obtain ⟨tail, first⟩ :=
    checkRxPass_reads_header config pxInterface allocates s.rxHead ⟨0, 0, 0, 0, []⟩ s
  cases fuel with
  | zero => simp [emacpsCheckRx, checkRxLoop] at run
  | succ fuel =>
    simp only [emacpsCheckRx, checkRxLoop, stored_head, invariant.buffer_nonzero,
      Bool.true_eq_false, or_self, if_false] at run
    obtain ⟨drained, loop_run, rest⟩ := Option.bind_eq_some.mp run
    obtain ⟨inner, -, rfl⟩ := Option.map_eq_some'.mp loop_run
    split at rest
    · cases rest
      exact ⟨tail ++ inner.2.2, by simp [first]⟩
    · obtain ⟨passed, -, handed⟩ := Option.map_eq_some'.mp rest
      cases handed
      exact ⟨tail ++ inner.2.2 ++ passed.2, by simp [first]⟩

/-- From any state of the invariant, a call of `emacps_check_rx` with no arrival drains exactly the
run of `NEW` slots from `rxHead` and hands on one well-formed chain of the replaced buffers. -/
theorem emacps_check_rx_drains_new_run {config : RxConfig} {s : RxState n}
    (invariant : RxInvariant config.toConfig s []) (pxInterface : Nat) (allocates : Nat → Bool)
    (enqueued : Bool) :
    ∃ stored, MaximalNewRun s stored ∧ ∀ fuel, stored < fuel →
      ∃ s' effects loop,
        emacpsCheckRx config pxInterface allocates enqueued fuel s = some (s', effects, loop) ∧
        s'.rxHead = slotAt s.rxHead stored ∧
        (∀ i, rxNew (s'.rxSegments i).address = false ∧
          rxWrap (s'.rxSegments i).address = decide (i.val = n - 1) ∧ s'.rxBuffers i ≠ 0 ∧
          (s'.rxSegments i).address &&& xemacpsRxbufAddMask =
            (s'.descriptors (s'.rxBuffers i)).pucEthernetBuffer &&& xemacpsRxbufAddMask) ∧
        RxChain s'.descriptors loop.pxFirstDescriptor loop.received ∧ loop.received.Nodup ∧
        loop.received = replacedBuffers s.rxBuffers s'.rxBuffers s.rxHead stored ∧
        (∀ i, InWindow s.rxHead stored i → s'.rxBuffers i ≠ s.rxBuffers i →
          xMayAcceptPacket config.filter (s.memory (s.slotPayload i)) = true) ∧
        loop.msgCount = loop.received.length ∧
        effects.filterMap rxEventOf =
          (if loop.received = [] then [] else [(loop.pxFirstDescriptor, enqueued)]) ∧
        releasedBuffers effects = (if enqueued then [] else loop.received) := by
  obtain ⟨stored, dma⟩ := invariant.dma
  refine ⟨stored, dma.maximalNewRun invariant.buffer_valid, fun fuel enough => ?_⟩
  obtain ⟨s', effects, loop, run, -, invariant', dma', head', -, -, -, chain, nodup, received,
    accepted, count, events, released⟩ :=
    emacpsCheckRx_spec invariant dma pxInterface allocates enqueued enough
  refine ⟨s', effects, loop, run, head', fun i => ⟨?_, ?_, invariant'.buffer_nonzero i, ?_⟩, chain,
    nodup, received, accepted, count, events, released⟩
  · rw [dma'.rxNew_address invariant'.buffer_valid]
    exact decide_eq_false (not_inWindow_zero _ _)
  · rw [dma'.address i, rxWrap_rxAddressWord (invariant'.buffer_valid i)]
  · rw [dma'.address i, rxAddressWord_land (invariant'.buffer_valid i)]
    rfl

theorem emacps_check_rx_drains_new_run_after_arrival :
    ∃ init effects s,
      rxInitDma ⟨10, false, 42, fun _ => false⟩
          (rxZero 2 (fun d => ⟨4 * d + 2, 0, 0, 0, 0⟩) (fun _ => []) [1, 2, 3]) =
        some (init, effects) ∧
      rxStep ⟨⟨10, false, 42, fun _ => false⟩, ⟨true, false, false, false, fun _ => false⟩,
          fun _ _ => 0⟩ init (.receive (List.replicate 12 0 ++ [8, 6] ++ List.replicate 46 0)) =
        some (s, []) ∧
      rxNew (s.rxSegments 0).address = true ∧ RxInvariant ⟨10, false, 42, fun _ => false⟩ s [] ∧
      ∃ stored, MaximalNewRun s stored ∧ ∀ fuel, stored < fuel →
        ∃ s' effects loop,
          emacpsCheckRx ⟨⟨10, false, 42, fun _ => false⟩, ⟨true, false, false, false, fun _ => false⟩,
            fun _ _ => 0⟩ 5 (fun _ => true) true fuel s = some (s', effects, loop) ∧
          s'.rxHead = slotAt s.rxHead stored ∧
          (∀ i, rxNew (s'.rxSegments i).address = false ∧
            rxWrap (s'.rxSegments i).address = decide (i.val = 2 - 1) ∧ s'.rxBuffers i ≠ 0 ∧
            (s'.rxSegments i).address &&& xemacpsRxbufAddMask =
              (s'.descriptors (s'.rxBuffers i)).pucEthernetBuffer &&& xemacpsRxbufAddMask) ∧
          RxChain s'.descriptors loop.pxFirstDescriptor loop.received ∧ loop.received.Nodup ∧
          loop.received = replacedBuffers s.rxBuffers s'.rxBuffers s.rxHead stored ∧
          (∀ i, InWindow s.rxHead stored i → s'.rxBuffers i ≠ s.rxBuffers i →
            xMayAcceptPacket ⟨true, false, false, false, fun _ => false⟩
              (s.memory (s.slotPayload i)) = true) ∧
          loop.msgCount = loop.received.length ∧
          effects.filterMap rxEventOf =
            (if loop.received = [] then [] else [(loop.pxFirstDescriptor, true)]) ∧
          releasedBuffers effects = (if true then [] else loop.received) := by
  obtain ⟨init, effects, s, initialised, received, stored⟩ : ∃ init effects s,
      rxInitDma ⟨10, false, 42, fun _ => false⟩
          (rxZero 2 (fun d => ⟨4 * d + 2, 0, 0, 0, 0⟩) (fun _ => []) [1, 2, 3]) =
        some (init, effects) ∧
      rxStep ⟨⟨10, false, 42, fun _ => false⟩, ⟨true, false, false, false, fun _ => false⟩,
          fun _ _ => 0⟩ init (.receive (List.replicate 12 0 ++ [8, 6] ++ List.replicate 46 0)) =
        some (s, []) ∧
      rxNew (s.rxSegments 0).address = true :=
    ⟨_, _, _, rfl, by exact rfl, by exact rfl⟩
  obtain ⟨invariant, dma, -⟩ := rxInitDma_invariant ⟨by decide, by decide, by decide, by decide⟩
    initialised
  have fits : (List.replicate 12 (0 : UInt8) ++ [8, 6] ++ List.replicate 46 0).length ≤
      (⟨10, false, 42, fun _ => false⟩ : Config).dmaRxTxBufferSize := by decide
  have stepped := received
  rw [rxStep, if_pos fits, rxDmaReceive_eq invariant dma (by decide)] at stepped
  obtain ⟨rfl, -⟩ := Prod.mk.inj (Option.some.inj stepped)
  have invariant' := (rxDmaReceive_invariant invariant dma (by decide) fits).1
  exact ⟨init, effects, _, initialised, received, stored, invariant',
    emacps_check_rx_drains_new_run invariant' 5 (fun _ => true) true⟩

/-! ## Payloads -/

section Payloads

variable (config : RxConfig) (pxInterface : Nat) (allocates : Nat → Bool)

/-- A pass of the loop writes fields of the buffer it delivers and of the last one of the chain,
never a payload pointer. -/
theorem checkRxPass_payload (head : Fin n) (loop : RxLoop) (s : RxState n) (d : Nat) :
    ((checkRxPass config pxInterface allocates head loop s).1.descriptors d).pucEthernetBuffer =
      (s.descriptors d).pucEthernetBuffer := by
  unfold checkRxPass
  dsimp only
  split
  · split
    · next pxNewBuffer allocated taken =>
      obtain ⟨-, -, -, rfl⟩ := pxGetNetworkBufferWithDescriptor_eq_some.mp taken
      simp only [rxRepost_descriptors, rxDeliver_payload]
    · simp only [rxRepost_descriptors]
  · simp only [rxRepost_descriptors]

theorem checkRxLoop_payload : ∀ (fuel : Nat) (head : Fin n) (loop : RxLoop) (s : RxState n)
    (result : RxState n × RxLoop × List Effect),
    checkRxLoop config pxInterface allocates fuel head loop s = some result →
    ∀ d, (result.1.descriptors d).pucEthernetBuffer = (s.descriptors d).pucEthernetBuffer
  | 0, _, _, _, _, run => by cases run
  | fuel + 1, head, loop, s, result, run => fun d => by
    simp only [checkRxLoop] at run
    split at run
    · cases run
      rfl
    · obtain ⟨rest, inner, rfl⟩ := Option.map_eq_some'.mp run
      rw [checkRxLoop_payload fuel _ _ _ rest inner d, checkRxPass_payload]

/-- Releasing a chain moves its buffers to the pool and writes no descriptor. -/
theorem releaseChain_descriptors : ∀ (fuel pxDescriptor : Nat) (s : RxState n)
    (result : RxState n × List Effect), releaseChain fuel pxDescriptor s = some result →
    result.1.descriptors = s.descriptors
  | 0, _, _, _, run => by cases run
  | fuel + 1, pxDescriptor, s, result, run => by
    simp only [releaseChain] at run
    split at run
    · cases run
      rfl
    · obtain ⟨rest, inner, rfl⟩ := Option.map_eq_some'.mp run
      exact (releaseChain_descriptors fuel _ _ rest inner).trans rfl

/-- A call of `emacps_check_rx` never moves a payload. -/
theorem emacpsCheckRx_payload {enqueued : Bool} {fuel : Nat} {s : RxState n}
    {result : RxState n × List Effect × RxLoop}
    (run : emacpsCheckRx config pxInterface allocates enqueued fuel s = some result) (d : Nat) :
    (result.1.descriptors d).pucEthernetBuffer = (s.descriptors d).pucEthernetBuffer := by
  obtain ⟨drained, drain, handed⟩ := Option.bind_eq_some.mp run
  rw [← checkRxLoop_payload config pxInterface allocates fuel _ _ s drained drain d]
  split at handed
  · cases handed
    rfl
  · obtain ⟨passed, pass, rfl⟩ := Option.map_eq_some'.mp handed
    unfold prvPassEthMessages at pass
    split at pass
    · cases pass
      rfl
    · obtain ⟨released, chain, rfl⟩ := Option.map_eq_some'.mp pass
      rw [releaseChain_descriptors _ _ _ released chain]

end Payloads

end EmacPsDma
