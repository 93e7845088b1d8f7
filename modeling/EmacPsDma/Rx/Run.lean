import EmacPsDma.Rx.CheckRx

/-!
# Runs of the receive side

Every step of `rxStep` keeps the invariant of `EmacPsDma.Rx.Invariant` and hands buffers from one
owner to another, so along every run from a successful `init_dma` the table holds distinct
buffers matching their descriptors, the slots with `NEW` set run from `rxHead` to where the DMA
stands, and the buffers of the pool, the table and the IP task are those the pool started with.
-/

namespace EmacPsDma

variable {n : Nat}

/-- Each step keeps the invariant and only moves buffers between owners. -/
theorem rxStep_invariant {config : RxConfig} {s s' : RxState n} {action : RxAction}
    {effects : List Effect} (invariant : RxInvariant config.toConfig s [])
    (step : rxStep config s action = some (s', effects)) :
    RxInvariant config.toConfig s' [] ∧ (ownedBuffers s' []).Perm (ownedBuffers s []) := by
  obtain ⟨stored, dma⟩ := invariant.dma
  cases action with
  | receive frame =>
    simp only [rxStep] at step
    split at step
    · next fits =>
      by_cases room : stored < n
      · simp only [rxDmaReceive_eq invariant dma room, Option.map_some', Option.some.injEq,
          Prod.mk.injEq] at step
        obtain ⟨rfl, -⟩ := step
        exact ⟨(rxDmaReceive_invariant invariant dma room fits).1, List.Perm.refl _⟩
      · have full : stored = n := Nat.le_antisymm dma.stored_le (Nat.not_lt.mp room)
        subst full
        simp [rxDmaReceive_full invariant dma] at step
    · cases step
  | checkRx pxInterface allocates enqueued =>
    obtain ⟨result, effects', loop, run, perm, invariant', -⟩ :=
      emacpsCheckRx_spec invariant dma pxInterface allocates enqueued
        (Nat.lt_succ_of_le dma.stored_le)
    simp only [rxStep, run, Option.map_some', Option.some.injEq, Prod.mk.injEq] at step
    obtain ⟨rfl, -⟩ := step
    cases enqueued
    · exact ⟨invariant', perm⟩
    · obtain ⟨handed, same⟩ := invariant'.handOff
      exact ⟨handed, same ▸ perm⟩
  | stackRelease pxDescriptor =>
    simp only [rxStep] at step
    split at step
    · next held =>
      obtain ⟨rfl, -⟩ := Prod.mk.inj (Option.some.inj step)
      exact stackRelease_invariant invariant held
    · cases step

/-- No step of the receive side moves a payload. -/
theorem rxStep_payload {config : RxConfig} {s s' : RxState n} {action : RxAction}
    {effects : List Effect} (step : rxStep config s action = some (s', effects)) (d : Nat) :
    (s'.descriptors d).pucEthernetBuffer = (s.descriptors d).pucEthernetBuffer := by
  cases action with
  | receive frame =>
    simp only [rxStep] at step
    split at step
    · obtain ⟨received, stored, same⟩ := Option.map_eq_some'.mp step
      obtain ⟨rfl, -⟩ := Prod.mk.inj same
      unfold rxDmaReceive at stored
      dsimp only at stored
      split at stored
      · cases stored
      · obtain ⟨next, -, rfl⟩ := Option.map_eq_some'.mp stored
        rfl
    · cases step
  | checkRx pxInterface allocates enqueued =>
    obtain ⟨result, run, same⟩ := Option.map_eq_some'.mp step
    obtain ⟨rfl, -⟩ := Prod.mk.inj same
    exact emacpsCheckRx_payload config pxInterface allocates run d
  | stackRelease pxDescriptor =>
    simp only [rxStep] at step
    split_ifs at step
    obtain ⟨rfl, -⟩ := Prod.mk.inj (Option.some.inj step)
    rfl

/-- Every state reached from a successful `init_dma` keeps the invariant, and the pool, the table
and the IP task hold exactly the buffers the pool started with. -/
theorem rxReachable_invariant [NeZero n] {config : RxConfig} {descriptors : Nat → RxDescriptor}
    {memory : Nat → List UInt8} {pool : List Nat} {init : RxState n} {effects : List Effect}
    (pool_owned : BufferOwnership (fun d => (descriptors d).pucEthernetBuffer) pool)
    (initialised :
      rxInitDma config.toConfig (rxZero n descriptors memory pool) = some (init, effects))
    {s : RxState n} {trace : List (RxAction × List Effect)}
    (reachable : RxReachable config init s trace) :
    RxInvariant config.toConfig s [] ∧ (ownedBuffers s []).Perm pool := by
  induction reachable with
  | init =>
    obtain ⟨invariant, -, perm⟩ := rxInitDma_invariant pool_owned initialised
    exact ⟨invariant, perm⟩
  | step _ step ih =>
    obtain ⟨invariant, perm⟩ := rxStep_invariant ih.1 step
    exact ⟨invariant, perm.trans ih.2⟩

/-! ## Cache maintenance -/

/-- With cached payloads, the call of `emacps_check_rx` that hands on a 60-byte frame at `0x1002`
reads its headers before any invalidation, then invalidates `[0x1000, 0x1000 + 60)`. -/
theorem emacps_check_rx_reads_frame_before_invalidating :
    ∃ init initEffects received handed effects,
      rxInitDma ⟨10, false, 42, fun _ => true⟩
          (rxZero 2 (fun d => ⟨0x1000 * d + 2, 0, 0, 0, 0⟩) (fun _ => []) [1, 2, 3]) =
        some (init, initEffects) ∧
      rxStep ⟨⟨10, false, 42, fun _ => true⟩, ⟨true, false, false, false, fun _ => false⟩,
          fun _ _ => 7⟩ init (.receive (List.replicate 12 0 ++ [8, 6] ++ List.replicate 46 0)) =
        some (received, []) ∧
      rxStep ⟨⟨10, false, 42, fun _ => true⟩, ⟨true, false, false, false, fun _ => false⟩,
          fun _ _ => 7⟩ received (.checkRx 5 (fun _ => true) true) = some (handed, effects) ∧
      effects = [.readPayload 0x1002 38, .invalidateRange 0x1000 60, .invalidateRange 0x3000 1526,
        .sendRxEvent 1 true] ∧
      handed.stack = [1] ∧ (handed.descriptors 1).pucEthernetBuffer = 0x1002 ∧
      (handed.descriptors 1).xDataLength = 60 ∧
      handed.memory 0x1002 = List.replicate 12 0 ++ [8, 6] ++ List.replicate 46 0 :=
  ⟨_, _, _, _, _, rfl, rfl, rfl, rfl, rfl, rfl, rfl, rfl⟩

end EmacPsDma
