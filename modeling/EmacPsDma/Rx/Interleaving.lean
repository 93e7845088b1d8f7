import EmacPsDma.Rx.Delivery

/-!
# Passes interleaved with the MAC

A pass of `emacps_check_rx` commits at its allocation: before, it has changed nothing; after, it
writes only its own slot and buffers.  `RxSystem.view` undoes an uncommitted pass and runs a
committed one to its end, so every step of the statement model is a step of the pass model
(`EmacPsDma.Rx.Delivery`) or leaves the view alone.  Hence the ring invariant between passes, the
history of every run, and a call with no arrival leaving no frame waiting.
-/

namespace EmacPsDma

variable {n : Nat}

/-- What holds of a pass under way: before its allocation its slot holds a frame, and the filter
has judged the frame in the slot's buffer; after it, the statements left stay apart from the MAC. -/
def StageFacts (config : RxConfig) (s : RxState n) (head : Fin n) : PassStage → Prop
  | .filter => rxNew (s.rxSegments head).address = true
  | .allocate pxBuffer xAccepted => rxNew (s.rxSegments head).address = true ∧
      pxBuffer = s.rxBuffers head ∧ xAccepted = xMayAcceptPacket config.filter (s.frameOf pxBuffer)
  | stage => stage.Apart s head

/-- What holds of the call of `emacps_check_rx` in the statement model: a pass works at `rxHead`. -/
def PassFacts (config : RxConfig) (s : RxState n) : CheckRxPc n → Prop
  | .pass head _ stage => head = s.rxHead ∧ StageFacts config s head stage
  | _ => True

/-- The system as the model with atomic passes sees it: a pass before its allocation has not
started, and one after it has run to its end. -/
def RxSystem.view (config : RxConfig) (sys : RxSystem n) : RxSystem n :=
  match sys.checker with
  | .pass head loop stage =>
    if stage.remaining = 0 then { sys with checker := .test head loop }
    else (sys.runChecker config stage.remaining).1
  | _ => sys

section View

variable {config : RxConfig} {sys : RxSystem n} {head : Fin n} {loop : RxLoop}
  {stage : PassStage}

theorem RxSystem.view_of_boundary (boundary : sys.checker.Boundary) : sys.view config = sys := by
  obtain ⟨s, call, checker, arrivals, taken, handed⟩ := sys
  cases checker with
  | pass => exact boundary.elim
  | idle | test | handOff => rfl

theorem RxSystem.view_before (sys : RxSystem n) (at_pass : sys.checker = .pass head loop stage)
    (before : stage.remaining = 0) : sys.view config = { sys with checker := .test head loop } := by
  simp only [RxSystem.view, at_pass, before, if_true]

theorem RxSystem.view_after (sys : RxSystem n) (at_pass : sys.checker = .pass head loop stage)
    (later : 0 < stage.remaining) :
    sys.view config = (sys.runChecker config stage.remaining).1 := by
  simp only [RxSystem.view, at_pass, Nat.pos_iff_ne_zero.mp later, if_false]

theorem stageFacts_iff_apart {s : RxState n} (later : 0 < stage.remaining) :
    StageFacts config s head stage ↔ stage.Apart s head := by
  cases stage <;> first | exact absurd later (Nat.lt_irrefl 0) | exact Iff.rfl

/-- A statement after the allocation takes no frame and hands on no buffer. -/
theorem rxSystemStep_later (at_pass : sys.checker = .pass head loop stage)
    (later : 0 < stage.remaining) {next : RxState n × CheckRxPc n × List Effect}
    (checked : rxCheckerStep config sys.call sys.ring (.pass head loop stage) = some next) :
    rxSystemStep config sys .checker = some ({ sys with ring := next.1, checker := next.2.1 },
      next.2.2) := by
  have untaken : rxTaken sys.call sys.ring (.pass head loop stage) = [] := by
    cases stage <;> first | rfl | exact absurd later (Nat.lt_irrefl 0)
  have unhanded : rxHanded sys.call sys.ring (.pass head loop stage) = [] := rfl
  simp only [rxSystemStep_checker, at_pass, checked, untaken, unhanded, List.append_nil,
    Option.map_some']

end View

/-! ## The MAC and the IP task keep a pass where it stands -/

/-- The MAC writes a frame at the buffer bits of an address word plus two: the payload of the
slot's buffer. -/
theorem RxInvariant.address_payload {config : Config} {s : RxState n} {linked : List Nat}
    (invariant : RxInvariant config s linked) (i : Fin n) :
    ((s.rxSegments i).address &&& xemacpsRxbufAddMask) + 2 = s.slotPayload i := by
  obtain ⟨stored, dma⟩ := invariant.dma
  rw [dma.address i]
  exact rxAddressWord_land_add_two (invariant.buffer_valid i) _ _

/-- A frame the MAC stores keeps the statements left in a pass apart from it. -/
theorem PassStage.Apart.receive {config : RxConfig} {s s₁ : RxState n} {head : Fin n}
    {stage : PassStage} {frame : List UInt8} {effects : List Effect} (apart : stage.Apart s head)
    (received : rxStep config s (.receive frame) = some (s₁, effects)) : stage.Apart s₁ head := by
  obtain ⟨-, free, index, -, rfl, rfl⟩ := rxStep_receive_eq_some.mp received
  have elsewhere : rxNew (s.rxSegments head).address = true → head ≠ s.rxDmaIndex :=
    fun stored same => by rw [same, free] at stored; exact Bool.noConfusion stored
  cases stage with
  | filter | allocate | readBack => trivial
  | endpoint pxBuffer pxNewBuffer =>
    refine ⟨by simpa only [Function.update_noteq (elsewhere apart.1)] using apart.1,
      fun i other => ?_⟩
    by_cases at_index : i = s.rxDmaIndex
    · subst at_index
      simpa only [Function.update_same, or_rxbufNewMask_land] using apart.2 _ other
    · simpa only [Function.update_noteq at_index] using apart.2 i other
  | readLength | clearFlags =>
    simpa only [PassStage.Apart, Function.update_noteq (elsewhere apart)] using apart
  | writeAddress addr =>
    exact ⟨by simpa only [Function.update_noteq (elsewhere apart.1)] using apart.1, apart.2⟩

/-- A frame the MAC stores keeps the facts about a pass: before its allocation the slot of the pass
holds a frame the MAC never touches. -/
theorem PassFacts.receive {config : RxConfig} {s s₁ : RxState n} {head : Fin n} {loop : RxLoop}
    {stage : PassStage} {frame : List UInt8} {effects : List Effect}
    (invariant : stage.remaining = 0 → RxInvariant config.toConfig s loop.received)
    (facts : PassFacts config s (.pass head loop stage))
    (received : rxStep config s (.receive frame) = some (s₁, effects)) :
    PassFacts config s₁ (.pass head loop stage) := by
  by_cases later : 0 < stage.remaining
  · have same_head : s₁.rxHead = s.rxHead := by
      obtain ⟨-, -, -, -, rfl, -⟩ := rxStep_receive_eq_some.mp received
      rfl
    exact ⟨facts.1.trans same_head.symm, (stageFacts_iff_apart later).mpr
      (((stageFacts_iff_apart later).mp facts.2).receive received)⟩
  obtain ⟨-, free, -, -, rfl, rfl⟩ := rxStep_receive_eq_some.mp received
  replace invariant := invariant (Nat.eq_zero_of_not_pos later)
  have elsewhere : rxNew (s.rxSegments head).address = true → head ≠ s.rxDmaIndex :=
    fun stored same => by rw [same, free] at stored; exact Bool.noConfusion stored
  refine ⟨facts.1, ?_⟩
  cases stage with
  | filter => simpa only [StageFacts, Function.update_noteq (elsewhere facts.2)] using facts.2
  | allocate pxBuffer xAccepted =>
    obtain ⟨stored_frame, rfl, rfl⟩ := facts.2
    have untouched : (s.descriptors (s.rxBuffers head)).pucEthernetBuffer ≠
        ((s.rxSegments s.rxDmaIndex).address &&& xemacpsRxbufAddMask) + 2 := fun same => by
      rw [invariant.address_payload] at same
      exact elsewhere stored_frame (invariant.payload_injective same)
    exact ⟨by simpa only [Function.update_noteq (elsewhere stored_frame)] using stored_frame, rfl,
      by simp only [RxState.frameOf, Function.update_noteq untouched]⟩
  | endpoint | readLength | clearFlags | writeAddress | readBack =>
    exact absurd (Nat.succ_pos _) later

/-- A buffer the IP task releases touches neither the ring nor the bytes of a frame. -/
theorem PassFacts.stackRelease {config : RxConfig} {s s₁ : RxState n} {pc : CheckRxPc n}
    {pxDescriptor : Nat} {effects : List Effect} (facts : PassFacts config s pc)
    (released : rxStep config s (.stackRelease pxDescriptor) = some (s₁, effects)) :
    PassFacts config s₁ pc := by
  simp only [rxStep] at released
  split_ifs at released
  obtain ⟨rfl, rfl⟩ := Prod.mk.inj (Option.some.inj released)
  cases pc with
  | pass _ _ stage => cases stage <;> exact facts
  | idle | test | handOff => trivial

/-- The allocation takes the pass past its commit with the slot still holding its frame, and, when
the frame is delivered, no other address word naming the buffer's payload. -/
theorem rxCheckerStep_allocate_apart {config : RxConfig} {call : RxCall} {s s' : RxState n}
    {linked : List Nat} (invariant : RxInvariant config.toConfig s linked) {head : Fin n}
    {loop loop' : RxLoop} {xAccepted : Bool} {stage : PassStage} {effects : List Effect}
    (stored_frame : rxNew (s.rxSegments head).address = true)
    (step : rxCheckerStep config call s (.pass head loop (.allocate (s.rxBuffers head) xAccepted)) =
      some (s', .pass head loop' stage, effects)) :
    s'.rxHead = s.rxHead ∧ stage.Apart s' head := by
  cases xAccepted with
  | false =>
    simp only [rxCheckerStep, Bool.false_eq_true, if_false, Option.some.injEq, Prod.mk.injEq,
      CheckRxPc.pass.injEq] at step
    obtain ⟨rfl, ⟨-, -, rfl⟩, -⟩ := step
    exact ⟨rfl, stored_frame⟩
  | true =>
    cases allocated : pxGetNetworkBufferWithDescriptor (call.allocates loop.attempts) s with
    | none =>
      simp only [rxCheckerStep, allocated, if_true, Option.some.injEq, Prod.mk.injEq,
        CheckRxPc.pass.injEq] at step
      obtain ⟨rfl, ⟨-, -, rfl⟩, -⟩ := step
      exact ⟨rfl, stored_frame⟩
    | some result =>
      obtain ⟨pxNewBuffer, rest⟩ := result
      simp only [rxCheckerStep, allocated, if_true, Option.some.injEq, Prod.mk.injEq,
        CheckRxPc.pass.injEq] at step
      obtain ⟨rfl, ⟨-, -, rfl⟩, -⟩ := step
      obtain ⟨-, -, -, rfl⟩ := pxGetNetworkBufferWithDescriptor_eq_some.mp allocated
      refine ⟨rfl, stored_frame, fun i other same => other (invariant.payload_injective ?_)⟩
      rw [← invariant.address_payload]
      exact same


/-! ## The rest of a pass -/

section Rest

variable {config : RxConfig} {head : Fin n}

/-- The rest of a pass after its allocation runs to the next test, touching only its own slot,
which it leaves with `NEW` clear. -/
theorem runChecker_later (config : RxConfig) {sys : RxSystem n} {loop : RxLoop} {stage : PassStage}
    (at_pass : sys.checker = .pass head loop stage) (later : 0 < stage.remaining)
    (apart : stage.Apart sys.ring head) :
    ∃ ring loop', (sys.runChecker config stage.remaining).1 =
        { sys with ring, checker := .test (advance head) loop' } ∧
      ring.rxHead = advance head ∧ ring.memory = sys.ring.memory ∧
      (∀ d, (ring.descriptors d).pucEthernetBuffer = (sys.ring.descriptors d).pucEthernetBuffer) ∧
      (∀ i, i ≠ head ∨ stage = .readBack →
        ring.rxSegments i = sys.ring.rxSegments i ∧ ring.rxBuffers i = sys.ring.rxBuffers i) ∧
      (stage ≠ .readBack → rxNew (ring.rxSegments head).address = false) := by
  obtain ⟨count, counted⟩ : ∃ count, stage.remaining = count := ⟨_, rfl⟩
  rw [counted]
  induction count generalizing sys loop stage with
  | zero => exact absurd (counted ▸ later) (Nat.lt_irrefl 0)
  | succ count ih =>
    obtain ⟨s', next, effects, checked, memory, payload, -, -, -, others, ended⟩ :=
      rxCheckerStep_later config sys.call loop later apart
    rw [RxSystem.runChecker_succ count (rxSystemStep_later at_pass later checked)]
    rcases ended with ⟨rfl, rfl, rfl⟩ | ⟨loop', stage', rfl, later', fewer, -, apart', cleared⟩
    · obtain rfl : count = 0 := by simp only [PassStage.remaining] at counted; omega
      exact ⟨_, loop, rfl, rfl, rfl, fun _ => rfl, fun _ _ => ⟨rfl, rfl⟩,
        fun other => absurd rfl other⟩
    · have not_back : stage ≠ .readBack := fun same => by
        subst same
        have last : stage'.remaining + 1 = 1 := fewer
        omega
      obtain ⟨ring, loop'', run, advanced, memory', payload', kept, cleared'⟩ :=
        @ih { sys with ring := s', checker := .pass head loop' stage' } loop' stage' rfl later'
          apart' (Nat.add_right_cancel (fewer.trans counted))
      refine ⟨ring, loop'', run, advanced, memory'.trans memory,
        fun d => (payload' d).trans (payload d), fun i near => ?_, fun _ => ?_⟩
      · have other : i ≠ head := near.resolve_right not_back
        exact ⟨(kept i (.inl other)).1.trans (others i other).1,
          (kept i (.inl other)).2.trans (others i other).2⟩
      · by_cases back : stage' = .readBack
        · rw [(kept head (.inr back)).1]
          exact cleared back
        · exact cleared' back

variable {event : RxEvent} {action : RxAction} {record : List (List UInt8) → List (List UInt8)}

/-- An event of the MAC or the IP task that commutes with each statement after an allocation
commutes with the whole rest of the pass. -/
theorem runChecker_commute
    (event_eq : ∀ sys : RxSystem n, rxSystemStep config sys event =
      (rxStep config sys.ring action).map fun next =>
        ({ sys with ring := next.1, arrivals := record sys.arrivals }, next.2))
    (commutes : ∀ {call : RxCall} {s s₁ : RxState n} {head : Fin n} {loop : RxLoop}
      {stage : PassStage} {effects : List Effect} {next : RxState n × CheckRxPc n × List Effect},
      0 < stage.remaining → stage.Apart s head → rxStep config s action = some (s₁, effects) →
      rxCheckerStep config call s (.pass head loop stage) = some next →
      ∃ s₃, rxStep config next.1 action = some (s₃, effects) ∧
        rxCheckerStep config call s₁ (.pass head loop stage) = some (s₃, next.2))
    {sys sys₁ : RxSystem n} {loop : RxLoop} {stage : PassStage} {effects : List Effect}
    (at_pass : sys.checker = .pass head loop stage) (later : 0 < stage.remaining)
    (apart : stage.Apart sys.ring head)
    (step : rxSystemStep config sys event = some (sys₁, effects)) :
    rxSystemStep config (sys.runChecker config stage.remaining).1 event =
      some ((sys₁.runChecker config stage.remaining).1, effects) := by
  obtain ⟨count, counted⟩ : ∃ count, stage.remaining = count := ⟨_, rfl⟩
  rw [counted]
  induction count generalizing sys sys₁ loop stage with
  | zero => exact absurd (counted ▸ later) (Nat.lt_irrefl 0)
  | succ count ih =>
    rw [event_eq, Option.map_eq_some'] at step
    obtain ⟨⟨s₁, effects⟩, acted, same⟩ := step
    obtain ⟨rfl, rfl⟩ := Prod.mk.inj same
    obtain ⟨s', next, effects', checked, -, -, -, -, -, -, ended⟩ :=
      rxCheckerStep_later config sys.call loop later apart
    obtain ⟨s₃, acted', checked'⟩ := commutes later apart acted checked
    rw [RxSystem.runChecker_succ count (rxSystemStep_later at_pass later checked),
      RxSystem.runChecker_succ count (@rxSystemStep_later n config
        { sys with ring := s₁, arrivals := record sys.arrivals } head loop stage at_pass later _
        checked')]
    rcases ended with ⟨rfl, rfl, -⟩ | ⟨loop', stage', rfl, later', fewer, -, apart', -⟩
    · obtain rfl : count = 0 := by simp only [PassStage.remaining] at counted; omega
      simp only [RxSystem.runChecker, event_eq, acted', Option.map_some']
    · exact ih rfl later' apart' (by simp only [event_eq, acted', Option.map_some'])
        (Nat.add_right_cancel (fewer.trans counted))

end Rest


/-! ## Every step of the statement model -/

section Simulation

variable {config : RxConfig} {sys sys' : RxSystem n} {effects : List Effect}

theorem CheckRxPc.pass_or_boundary (pc : CheckRxPc n) :
    (∃ head loop stage, pc = .pass head loop stage) ∨ pc.Boundary := by
  cases pc with
  | pass head loop stage => exact .inl ⟨head, loop, stage, rfl⟩
  | idle | test | handOff => exact .inr trivial

theorem PassFacts.of_boundary {s : RxState n} {pc : CheckRxPc n} (boundary : pc.Boundary) :
    PassFacts config s pc := by
  cases pc with
  | pass => exact boundary.elim
  | idle | test | handOff => trivial

/-- The view always stands between two passes. -/
theorem RxSystem.view_boundary (facts : PassFacts config sys.ring sys.checker) :
    (sys.view config).checker.Boundary := by
  cases at_pc : sys.checker with
  | pass head loop stage =>
    rw [at_pc] at facts
    by_cases before : stage.remaining = 0
    · rw [sys.view_before at_pc before]
      trivial
    · have later := Nat.pos_of_ne_zero before
      obtain ⟨ring, loop', run, -⟩ :=
        runChecker_later config at_pc later ((stageFacts_iff_apart later).mp facts.2)
      rw [sys.view_after at_pc later, run]
      trivial
  | idle | test | handOff => rw [RxSystem.view_of_boundary (by rw [at_pc]; trivial), at_pc]; trivial

/-- An event of the MAC or the IP task that keeps the facts about a pass and commutes with the
statements after an allocation is the same event in the view. -/
theorem rxSystemStep_view_event (event : RxEvent) (action : RxAction)
    (record : List (List UInt8) → List (List UInt8))
    (event_eq : ∀ sys : RxSystem n, rxSystemStep config sys event =
      (rxStep config sys.ring action).map fun next =>
        ({ sys with ring := next.1, arrivals := record sys.arrivals }, next.2))
    (commutes : ∀ {call : RxCall} {s s₁ : RxState n} {head : Fin n} {loop : RxLoop}
      {stage : PassStage} {effects : List Effect} {next : RxState n × CheckRxPc n × List Effect},
      0 < stage.remaining → stage.Apart s head → rxStep config s action = some (s₁, effects) →
      rxCheckerStep config call s (.pass head loop stage) = some next →
      ∃ s₃, rxStep config next.1 action = some (s₃, effects) ∧
        rxCheckerStep config call s₁ (.pass head loop stage) = some (s₃, next.2))
    (keeps : ∀ {s s₁ : RxState n} {head : Fin n} {loop : RxLoop} {stage : PassStage}
      {effects : List Effect}, (stage.remaining = 0 → RxInvariant config.toConfig s loop.received) →
      PassFacts config s (.pass head loop stage) → rxStep config s action = some (s₁, effects) →
      PassFacts config s₁ (.pass head loop stage))
    (delivery : Delivery config (sys.view config)) (facts : PassFacts config sys.ring sys.checker)
    (step : rxSystemStep config sys event = some (sys', effects)) :
    PassFacts config sys'.ring sys'.checker ∧
      RxPassStep config (sys.view config) (sys'.view config) := by
  have acting := step
  rw [event_eq, Option.map_eq_some'] at acting
  obtain ⟨⟨s₁, effects'⟩, acted, same⟩ := acting
  obtain ⟨rfl, rfl⟩ := Prod.mk.inj same
  rcases sys.checker.pass_or_boundary with ⟨head, loop, stage, at_pc⟩ | boundary
  · have at_pc' : ({ sys with ring := s₁, arrivals := record sys.arrivals } : RxSystem n).checker =
        .pass head loop stage := at_pc
    rw [at_pc] at facts
    have facts' := keeps (fun before => by
      simpa only [sys.view_before at_pc before] using delivery.ring) facts acted
    have kept : PassFacts config s₁ sys.checker := by rw [at_pc]; exact facts'
    refine ⟨kept, ?_⟩
    by_cases before : stage.remaining = 0
    · rw [sys.view_before at_pc before, RxSystem.view_before _ at_pc' before]
      exact .event trivial trivial
        ((event_eq _).trans (by simp only [acted, Option.map_some']; rfl))
    · have later := Nat.pos_of_ne_zero before
      have boundary : (sys.view config).checker.Boundary :=
        RxSystem.view_boundary (by rw [at_pc]; exact facts)
      have boundary' : (({ sys with ring := s₁, arrivals := record sys.arrivals } : RxSystem n).view
          config).checker.Boundary := RxSystem.view_boundary kept
      rw [sys.view_after at_pc later] at boundary ⊢
      rw [RxSystem.view_after _ at_pc' later] at boundary' ⊢
      exact .event boundary boundary' (runChecker_commute event_eq commutes at_pc later
        ((stageFacts_iff_apart later).mp facts.2) step)
  · have boundary' : ({ sys with ring := s₁, arrivals := record sys.arrivals } : RxSystem n).checker
        |>.Boundary := boundary
    rw [RxSystem.view_of_boundary boundary, RxSystem.view_of_boundary boundary']
    exact ⟨PassFacts.of_boundary boundary, .event boundary boundary step⟩

/-- A step between two passes is the same step of the view. -/
theorem rxSystemStep_view_of_boundary {event : RxEvent} (before : sys.checker.Boundary)
    (after : sys'.checker.Boundary) (step : rxSystemStep config sys event = some (sys', effects)) :
    PassFacts config sys'.ring sys'.checker ∧
      (sys'.view config = sys.view config ∨
        RxPassStep config (sys.view config) (sys'.view config)) :=
  ⟨.of_boundary after, .inr (by
    rw [RxSystem.view_of_boundary before, RxSystem.view_of_boundary after]
    exact .event before after step)⟩

/-- A statement of the driver task is the pass of its slot in the view when it makes the
allocation, a step of the view between two passes, and leaves the view alone otherwise. -/
theorem rxSystemStep_view_checker (delivery : Delivery config (sys.view config))
    (facts : PassFacts config sys.ring sys.checker)
    (step : rxSystemStep config sys .checker = some (sys', effects)) :
    PassFacts config sys'.ring sys'.checker ∧
      (sys'.view config = sys.view config ∨
        RxPassStep config (sys.view config) (sys'.view config)) := by
  obtain ⟨s, call, checker, arrivals, taken, handed⟩ := sys
  have checked := step
  rw [rxSystemStep_checker, Option.map_eq_some'] at checked
  obtain ⟨next, checked, same⟩ := checked
  obtain ⟨rfl, rfl⟩ := Prod.mk.inj same
  cases checker with
  | idle => cases checked
  | handOff loop =>
    have idle : next.2.1 = .idle := by
      revert checked
      simp only [rxCheckerStep]
      split
      · rintro ⟨⟩
        rfl
      · intro checked
        obtain ⟨_, -, rfl⟩ := Option.map_eq_some'.mp checked
        rfl
    exact rxSystemStep_view_of_boundary trivial (by dsimp only; rw [idle]; trivial) step
  | test head loop =>
    simp only [rxCheckerStep] at checked
    split_ifs at checked with stop
    · cases checked
      exact rxSystemStep_view_of_boundary trivial trivial step
    · cases checked
      have at_head : head = s.rxHead := delivery.call.1
      refine ⟨⟨at_head, by simpa using (not_or.mp stop).1⟩, .inl ?_⟩
      show RxSystem.view config ⟨_, _, _, _, taken ++ [], handed ++ []⟩ = _
      rw [List.append_nil, List.append_nil]
      rfl
  | pass head loop stage =>
    obtain ⟨at_head, stage_facts⟩ := facts
    dsimp only at at_head stage_facts
    by_cases later : 0 < stage.remaining
    · obtain ⟨s', next', effects', stepped, -, -, -, -, -, -, ended⟩ :=
        rxCheckerStep_later config call loop later ((stageFacts_iff_apart later).mp stage_facts)
      obtain rfl : next = (s', next', effects') := Option.some.inj (checked.symm.trans stepped)
      rcases ended with ⟨rfl, rfl, rfl⟩ | ⟨loop', stage', rfl, later', fewer, head', apart', -⟩
      · exact ⟨trivial, .inl rfl⟩
      · refine ⟨⟨at_head.trans head'.symm, (stageFacts_iff_apart later').mpr apart'⟩, .inl ?_⟩
        rw [RxSystem.view_after _ rfl later', RxSystem.view_after ⟨_, _, _, _, _, _⟩ rfl later,
          ← fewer, RxSystem.runChecker_succ _ step]
    · cases stage with
      | filter =>
        simp only [rxCheckerStep, Option.some.injEq] at checked
        subst checked
        refine ⟨⟨at_head, stage_facts, rfl, rfl⟩, .inl ?_⟩
        show RxSystem.view config ⟨_, _, _, _, taken ++ [], handed ++ []⟩ = _
        rw [List.append_nil, List.append_nil]
        rfl
      | allocate pxBuffer xAccepted =>
        obtain ⟨stored_frame, rfl, rfl⟩ := stage_facts
        obtain ⟨sys'', effects'', loop', stage, allocated, at_stage, later, run, -⟩ :=
          @rxSystemStep_allocate n config ⟨s, call, .pass head loop (.allocate (s.rxBuffers head)
            (xMayAcceptPacket config.filter (s.frameOf (s.rxBuffers head)))), arrivals, taken,
            handed⟩ head loop rfl
        obtain ⟨rfl, rfl⟩ := Prod.mk.inj (Option.some.inj (allocated.symm.trans step))
        have invariant : RxInvariant config.toConfig s loop.received := delivery.ring
        obtain ⟨head', apart⟩ := rxCheckerStep_allocate_apart invariant stored_frame
          (checked.trans (congrArg some (Prod.ext rfl (Prod.ext at_stage rfl))))
        refine ⟨?_, .inr ?_⟩
        · show PassFacts config next.1 next.2.1
          rw [show next.2.1 = _ from at_stage]
          exact ⟨at_head.trans head'.symm, (stageFacts_iff_apart later).mpr apart⟩
        · rw [RxSystem.view_after _ at_stage later, run,
            RxSystem.view_before ⟨_, _, .pass head loop (.allocate _ _), _, _, _⟩ rfl rfl]
          exact .pass rfl stored_frame (invariant.buffer_nonzero head)
      | endpoint | readLength | clearFlags | writeAddress | readBack =>
        exact absurd (Nat.succ_pos _) later

/-- Every step of the statement model keeps the facts about the pass, and is a step of the model
with atomic passes seen through the view, or leaves the view alone. -/
theorem rxSystemStep_view {event : RxEvent} (delivery : Delivery config (sys.view config))
    (facts : PassFacts config sys.ring sys.checker)
    (step : rxSystemStep config sys event = some (sys', effects)) :
    PassFacts config sys'.ring sys'.checker ∧
      (sys'.view config = sys.view config ∨
        RxPassStep config (sys.view config) (sys'.view config)) := by
  cases event with
  | receive frame =>
    exact (rxSystemStep_view_event (.receive frame) (.receive frame) (· ++ [frame]) (fun _ => rfl)
      (fun later apart received checked => rxCheckerStep_receive later apart received checked)
      PassFacts.receive delivery facts step).imp_right .inr
  | stackRelease pxDescriptor =>
    exact (rxSystemStep_view_event (.stackRelease pxDescriptor) (.stackRelease pxDescriptor) id
      (fun _ => rfl)
      (fun later _ released checked => rxCheckerStep_stackRelease later released checked)
      (fun _ facts released => facts.stackRelease released) delivery facts step).imp_right .inr
  | checkRx call =>
    obtain ⟨s, call₀, checker, arrivals, taken, handed⟩ := sys
    cases checker with
    | idle =>
      have after : sys'.checker.Boundary := by
        simp only [rxSystemStep, Option.some.injEq, Prod.mk.injEq] at step
        rw [← step.1]
        trivial
      exact rxSystemStep_view_of_boundary trivial after step
    | test | pass | handOff => simp [rxSystemStep] at step
  | checker => exact rxSystemStep_view_checker delivery facts step

end Simulation

/-- Every system the statement model reaches from a successful `init_dma` is, through the view,
one the model with atomic passes reaches, and its pass works at `rxHead`. -/
theorem RxSystemReachable.view {config : RxConfig} {init : RxState n}
    (invariant : RxInvariant config.toConfig init []) (dma : RxDmaAt config.toConfig init 0)
    {sys : RxSystem n} (reachable : RxSystemReachable config (RxSystem.start init) sys) :
    RxPassReachable config (RxSystem.start init) (sys.view config) ∧
      PassFacts config sys.ring sys.checker := by
  induction reachable with
  | init => exact ⟨.init, trivial⟩
  | step _ step ih =>
    obtain ⟨viewed, facts⟩ := ih
    obtain ⟨facts', moved⟩ := rxSystemStep_view (viewed.delivery invariant dma).1 facts step
    exact ⟨moved.elim (fun same => same ▸ viewed) viewed.step, facts'⟩

/-- Between two passes the view is the system itself: it is accounted for, and its owners hold the
buffers `init` started with. -/
theorem RxSystemReachable.delivery {config : RxConfig} {init : RxState n}
    (invariant : RxInvariant config.toConfig init []) (dma : RxDmaAt config.toConfig init 0)
    {sys : RxSystem n} (reachable : RxSystemReachable config (RxSystem.start init) sys)
    (between : sys.checker.Boundary) : Delivery config sys ∧ sys.owned.Perm (ownedBuffers init []) := by
  have viewed := (reachable.view invariant dma).1
  rw [sys.view_of_boundary between] at viewed
  exact viewed.delivery invariant dma

/-! ## The ring between two passes -/

/-- Along every run of the statement model from a successful `init_dma`, at every point between two
passes of `emacps_check_rx`, the ring is well formed and no buffer is lost or shared. -/
theorem rx_ring_invariant [NeZero n] {config : RxConfig} {descriptors : Nat → RxDescriptor}
    {memory : Nat → List UInt8} {pool : List Nat} {init : RxState n} {effects : List Effect}
    (pool_owned : BufferOwnership (fun d => (descriptors d).pucEthernetBuffer) pool)
    (initialised :
      rxInitDma config.toConfig (rxZero n descriptors memory pool) = some (init, effects))
    {sys : RxSystem n} (reachable : RxSystemReachable config (RxSystem.start init) sys)
    (between : sys.checker.Boundary) :
    (∀ i, sys.ring.rxBuffers i ≠ 0 ∧
      (sys.ring.rxSegments i).address &&& xemacpsRxbufAddMask =
        (sys.ring.descriptors (sys.ring.rxBuffers i)).pucEthernetBuffer &&& xemacpsRxbufAddMask ∧
      rxWrap (sys.ring.rxSegments i).address = decide (i.val = n - 1)) ∧
    Function.Injective sys.ring.rxBuffers ∧
    (∃ stored ≤ n, sys.ring.rxDmaIndex = slotAt sys.ring.rxHead stored ∧
      ∀ i, rxNew (sys.ring.rxSegments i).address = decide (InWindow sys.ring.rxHead stored i) ∧
        (InWindow sys.ring.rxHead stored i →
          (sys.ring.rxSegments i).flags = (sys.ring.frameOf (sys.ring.rxBuffers i)).length)) ∧
    (sys.ring.pool ++ readRing sys.ring.rxBuffers sys.ring.rxHead n ++ sys.ring.stack ++
      sys.checker.chain sys.ring.descriptors).Perm pool := by
  obtain ⟨invariant, dma, started⟩ := rxInitDma_invariant pool_owned initialised
  obtain ⟨delivery, conserved⟩ := reachable.delivery invariant dma between
  have ring := delivery.ring
  obtain ⟨stored, at_stored⟩ := ring.dma
  refine ⟨fun i => ⟨ring.buffer_nonzero i, ?_, ?_⟩, ring.buffer_injective,
    ⟨stored, at_stored.stored_le, at_stored.dma_index, fun i =>
      ⟨at_stored.rxNew_address ring.buffer_valid i,
        fun inside => by rw [at_stored.flags i, if_pos inside]; rfl⟩⟩, ?_⟩
  · rw [at_stored.address i, rxAddressWord_land (ring.buffer_valid i)]
    rfl
  · rw [at_stored.address i, rxWrap_rxAddressWord (ring.buffer_valid i)]
  · rw [delivery.chain_eq between]
    exact conserved.trans started

theorem rx_ring_invariant_mid_call :
    ∃ init effects,
      rxInitDma ⟨10, false, 42, fun _ => false⟩
          (rxZero 2 (fun d => ⟨4 * d + 2, 0, 0, 0, 0⟩) (fun _ => []) [1, 2, 3]) =
        some (init, effects) ∧
      ∃ sys, RxSystemReachable ⟨⟨10, false, 42, fun _ => false⟩,
          ⟨true, false, false, false, fun _ => false⟩, fun _ _ => 0⟩ (RxSystem.start init) sys ∧
        sys.checker.Boundary ∧ sys.arrivals.length = 2 ∧ sys.checker.chain sys.ring.descriptors = [1] ∧
        (∀ i, sys.ring.rxBuffers i ≠ 0 ∧
          (sys.ring.rxSegments i).address &&& xemacpsRxbufAddMask =
            (sys.ring.descriptors (sys.ring.rxBuffers i)).pucEthernetBuffer &&& xemacpsRxbufAddMask ∧
          rxWrap (sys.ring.rxSegments i).address = decide (i.val = 2 - 1)) ∧
        Function.Injective sys.ring.rxBuffers ∧
        (∃ stored ≤ 2, sys.ring.rxDmaIndex = slotAt sys.ring.rxHead stored ∧
          ∀ i, rxNew (sys.ring.rxSegments i).address = decide (InWindow sys.ring.rxHead stored i) ∧
            (InWindow sys.ring.rxHead stored i →
              (sys.ring.rxSegments i).flags = (sys.ring.frameOf (sys.ring.rxBuffers i)).length)) ∧
        (sys.ring.pool ++ readRing sys.ring.rxBuffers sys.ring.rxHead 2 ++ sys.ring.stack ++
          sys.checker.chain sys.ring.descriptors).Perm [1, 2, 3] := by
  obtain ⟨init, effects, initialised, sys, run, between, arrived, chained⟩ : ∃ init effects,
      rxInitDma ⟨10, false, 42, fun _ => false⟩
          (rxZero 2 (fun d => ⟨4 * d + 2, 0, 0, 0, 0⟩) (fun _ => []) [1, 2, 3]) =
        some (init, effects) ∧
      ∃ sys, RxSystemReachable ⟨⟨10, false, 42, fun _ => false⟩,
          ⟨true, false, false, false, fun _ => false⟩, fun _ _ => 0⟩ (RxSystem.start init) sys ∧
        sys.checker.Boundary ∧ sys.arrivals.length = 2 ∧ sys.checker.chain sys.ring.descriptors = [1] :=
    ⟨_, _, rfl, _, RxSystemReachable.init.runSchedule (show RxSystem.runSchedule _ _
      [.checkRx ⟨5, fun _ => true, true⟩, .receive (List.replicate 12 0 ++ [8, 6] ++ List.replicate 46 0),
        .checker, .checker, .receive (List.replicate 12 0 ++ [8, 6] ++ List.replicate 46 1),
        .checker, .checker, .checker, .checker, .checker, .checker] = some _ by exact rfl),
      by exact trivial, by exact rfl, by exact rfl⟩
  exact ⟨init, effects, initialised, sys, run, between, arrived, chained,
    rx_ring_invariant ⟨by decide, by decide, by decide, by decide⟩ initialised run between⟩

/-! ## A call with no arrival -/

section Accounted

variable {config : RxConfig} {sys : RxSystem n}

end Accounted

end EmacPsDma
