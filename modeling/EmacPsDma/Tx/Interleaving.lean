import EmacPsDma.Tx.Invariant

/-!
# The transmit path statement by statement

Each call of `emacps_send_message` or `emacps_check_tx` is the sequence of its statements on shared
data, with its locals, interleaved with the completions of the MAC and without a lock.  Serial runs
are those of the atomic model (`txReachable_serial`); an interleaving can do more, as
`emacps_check_tx` reads `txHead` before the semaphore count.
-/

namespace EmacPsDma

variable {n : Nat}

/-- Where a call of `emacps_send_message` stands, with the locals it holds there. -/
inductive SendPc (n : Nat)
  /-- No call in progress. -/
  | idle
  /-- `head` is read; the length check and the credit wait come next. -/
  | takeCredit (pxBuffer : NetworkBufferDescriptor) (head : Fin n)
  /-- A credit is taken; `pxDMA_tx_buffers[ head ]` is written next. -/
  | writeBuffer (pxBuffer : NetworkBufferDescriptor) (head : Fin n)
  /-- The address word is written next, with the low 32 bits of `pxDMA_tx_buffers[ head ]`. -/
  | writeAddress (pxBuffer : NetworkBufferDescriptor) (head : Fin n)
  /-- The flags word is written next. -/
  | writeFlags (pxBuffer : NetworkBufferDescriptor) (head : Fin n)
  /-- `txHead` is written next. -/
  | writeHead (head : Fin n)
  /-- The barriers and the start of the transmitter come next. -/
  | startTx

/-- The slot a call of `emacps_send_message` holds a credit for and has not finished publishing:
from the credit until `txHead` is written. -/
def SendPc.publishing : SendPc n → Option (Fin n)
  | .writeBuffer _ head | .writeAddress _ head | .writeFlags _ head | .writeHead head => some head
  | _ => none

/-- Where a call of `emacps_check_tx` stands, with its locals `tail`, `head`, `uxCount` and
`pvBuffer`. -/
inductive CheckPc (n : Nat)
  /-- No call in progress; a call starts by reading `txTail`. -/
  | idle
  /-- `txHead` is read next. -/
  | readHead (tail : Fin n)
  /-- The semaphore count is read next. -/
  | readCount (tail head : Fin n)
  /-- The loop test comes next: `uxCount`, the `USED` bit of slot `tail`, and the `break`. -/
  | test (tail head : Fin n) (uxCount : Nat)
  /-- `pxDMA_tx_buffers[ tail ]` is read next. -/
  | readBuffer (tail head : Fin n) (uxCount : Nat)
  /-- The entry is cleared and `pvBuffer` released next, when it is not `NULL`. -/
  | clearBuffer (tail head : Fin n) (uxCount : Nat) (pvBuffer : Nat)
  /-- The flags of slot `tail` are reset next. -/
  | resetFlags (tail head : Fin n) (uxCount : Nat)
  /-- `uxCount` is decremented and a credit given next. -/
  | give (tail head : Fin n) (uxCount : Nat)
  /-- `tail` moves on and is written to `txTail` next. -/
  | writeTail (tail head : Fin n) (uxCount : Nat)

/-- The ring with both calls and their program points. -/
structure TxSystem (n : Nat) where
  /-- The shared ring, semaphore and buffer table. -/
  ring : TxState n
  /-- The IP task, in `emacps_send_message` or not. -/
  sender : SendPc n
  /-- The driver task, in `emacps_check_tx` or not. -/
  checker : CheckPc n

/-- The next statement of `emacps_send_message`, with its effects. -/
def senderStep (config : Config) (s : TxState n) :
    SendPc n → Option (TxState n × SendPc n × List Effect)
  | .idle => none
  | .takeCredit pxBuffer head =>
    let refused := fun (logged : List Effect) =>
      some (s, SendPc.idle, logged ++ [.release pxBuffer.pucEthernetBuffer, .dsb, .dsb])
    if xValidLength config (toBaseType pxBuffer.xDataLength) = false then refused []
    else
      match s.txSemaphore with
      | none => refused []
      | some count =>
        match semaphoreTake count with
        | none => refused [.log "emacps_send_message: Time-out waiting for TX buffer\n"]
        | some taken => some ({ s with txSemaphore := some taken }, .writeBuffer pxBuffer head, [])
  | .writeBuffer pxBuffer head =>
    some ({ s with txBuffers := Function.update s.txBuffers head pxBuffer.pucEthernetBuffer },
      .writeAddress pxBuffer head,
      if config.ucIsCachedMemory pxBuffer.pucEthernetBuffer then
        [.flushRange pxBuffer.pucEthernetBuffer pxBuffer.xDataLength] else [])
  | .writeAddress pxBuffer head =>
    some ({ s with
      txSegments := Function.update s.txSegments head
        { s.txSegments head with address := s.txBuffers head % 2 ^ 32 } }, .writeFlags pxBuffer head, [])
  | .writeFlags pxBuffer head =>
    some ({ s with
      txSegments := Function.update s.txSegments head
        { s.txSegments head with flags := txPublishFlags pxBuffer.xDataLength (head.val = n - 1) } },
      .writeHead head, [])
  | .writeHead head => some ({ s with txHead := advance head }, .startTx, [])
  | .startTx => some ({ s with txBusy := true }, .idle, [.dsb, .startTx, .dsb])

@[simp] theorem senderStep_writeBuffer (config : Config) (s : TxState n)
    (pxBuffer : NetworkBufferDescriptor) (head : Fin n) :
    senderStep config s (.writeBuffer pxBuffer head) =
      some ({ s with txBuffers := Function.update s.txBuffers head pxBuffer.pucEthernetBuffer },
        .writeAddress pxBuffer head,
        if config.ucIsCachedMemory pxBuffer.pucEthernetBuffer then
          [.flushRange pxBuffer.pucEthernetBuffer pxBuffer.xDataLength] else []) := rfl

@[simp] theorem senderStep_writeAddress (config : Config) (s : TxState n)
    (pxBuffer : NetworkBufferDescriptor) (head : Fin n) :
    senderStep config s (.writeAddress pxBuffer head) =
      some ({ s with
        txSegments := Function.update s.txSegments head
          { s.txSegments head with address := s.txBuffers head % 2 ^ 32 } },
        .writeFlags pxBuffer head, []) :=
  rfl

@[simp] theorem senderStep_writeFlags (config : Config) (s : TxState n)
    (pxBuffer : NetworkBufferDescriptor) (head : Fin n) :
    senderStep config s (.writeFlags pxBuffer head) =
      some ({ s with
        txSegments := Function.update s.txSegments head
          { s.txSegments head with
            flags := txPublishFlags pxBuffer.xDataLength (head.val = n - 1) } },
        .writeHead head, []) := rfl

@[simp] theorem senderStep_writeHead (config : Config) (s : TxState n) (head : Fin n) :
    senderStep config s (.writeHead head) =
      some ({ s with txHead := advance head }, .startTx, []) :=
  rfl

@[simp] theorem senderStep_startTx (config : Config) (s : TxState n) :
    senderStep config s .startTx =
      some ({ s with txBusy := true }, .idle, [.dsb, .startTx, .dsb]) :=
  rfl

/-- The next statement of `emacps_check_tx`, with its effects; `none` on `uxSemaphoreGetCount`
of a `NULL` semaphore. -/
def checkerStep (s : TxState n) : CheckPc n → Option (TxState n × CheckPc n × List Effect)
  | .idle => some (s, .readHead s.txTail, [])
  | .readHead tail => some (s, .readCount tail s.txHead, [])
  | .readCount tail head => s.txSemaphore.map fun count => (s, .test tail head (n - count), [])
  | .test tail head uxCount =>
    if 0 < uxCount ∧ txUsed (s.txSegments tail).flags = true then
      if tail = head ∧ uxCount ≠ n then some (s, .idle, [])
      else some (s, .readBuffer tail head uxCount, [])
    else some (s, .idle, [])
  | .readBuffer tail head uxCount =>
    some (s, .clearBuffer tail head uxCount (s.txBuffers tail), [])
  | .clearBuffer tail head uxCount pvBuffer =>
    if pvBuffer ≠ 0 then
      some ({ s with txBuffers := Function.update s.txBuffers tail 0 },
        .resetFlags tail head uxCount, [.release pvBuffer])
    else some (s, .resetFlags tail head uxCount, [])
  | .resetFlags tail head uxCount =>
    some ({ s with
      txSegments := Function.update s.txSegments tail
        { s.txSegments tail with
          flags := if tail.val < n - 1 then xemacpsTxbufUsedMask
            else xemacpsTxbufUsedMask ||| xemacpsTxbufWrapMask } },
      .give tail head uxCount, [])
  | .give tail head uxCount =>
    some ({ s with txSemaphore := s.txSemaphore.map (semaphoreGive n) },
      .writeTail tail head (uxCount - 1), [])
  | .writeTail tail head uxCount =>
    some ({ s with txTail := advance tail }, .test (advance tail) head uxCount, [])

@[simp] theorem checkerStep_idle (s : TxState n) :
    checkerStep s .idle = some (s, .readHead s.txTail, []) := rfl

@[simp] theorem checkerStep_readHead (s : TxState n) (tail : Fin n) :
    checkerStep s (.readHead tail) = some (s, .readCount tail s.txHead, []) := rfl

@[simp] theorem checkerStep_readCount (s : TxState n) (tail head : Fin n) :
    checkerStep s (.readCount tail head) =
      s.txSemaphore.map fun count => (s, .test tail head (n - count), []) := rfl

@[simp] theorem checkerStep_readBuffer (s : TxState n) (tail head : Fin n) (uxCount : Nat) :
    checkerStep s (.readBuffer tail head uxCount) =
      some (s, .clearBuffer tail head uxCount (s.txBuffers tail), []) := rfl

theorem checkerStep_clearBuffer (s : TxState n) (tail head : Fin n) (uxCount pvBuffer : Nat) :
    checkerStep s (.clearBuffer tail head uxCount pvBuffer) =
      if pvBuffer ≠ 0 then
        some ({ s with txBuffers := Function.update s.txBuffers tail 0 },
          .resetFlags tail head uxCount, [.release pvBuffer])
      else some (s, .resetFlags tail head uxCount, []) := rfl

@[simp] theorem checkerStep_resetFlags (s : TxState n) (tail head : Fin n) (uxCount : Nat) :
    checkerStep s (.resetFlags tail head uxCount) =
      some ({ s with
        txSegments := Function.update s.txSegments tail
          { s.txSegments tail with
            flags := if tail.val < n - 1 then xemacpsTxbufUsedMask
              else xemacpsTxbufUsedMask ||| xemacpsTxbufWrapMask } },
        .give tail head uxCount, []) := rfl

@[simp] theorem checkerStep_give (s : TxState n) (tail head : Fin n) (uxCount : Nat) :
    checkerStep s (.give tail head uxCount) =
      some ({ s with txSemaphore := s.txSemaphore.map (semaphoreGive n) },
        .writeTail tail head (uxCount - 1), []) := rfl

@[simp] theorem checkerStep_writeTail (s : TxState n) (tail head : Fin n) (uxCount : Nat) :
    checkerStep s (.writeTail tail head uxCount) =
      some ({ s with txTail := advance tail }, .test (advance tail) head uxCount, []) := rfl

/-- What the scheduler runs next. -/
inductive TxEvent
  /-- `emacps_send_message` is called with `pxBuffer` and reads `txHead`. -/
  | send (pxBuffer : NetworkBufferDescriptor)
  /-- The IP task runs its next statement. -/
  | sender
  /-- The driver task runs its next statement, starting a call of `emacps_check_tx` when idle. -/
  | checker
  /-- The MAC completes one frame. -/
  | complete

/-- One event of a schedule, with its effects; `none` when it cannot happen. -/
def systemStep (config : Config) (sys : TxSystem n) : TxEvent → Option (TxSystem n × List Effect)
  | .send pxBuffer =>
    match sys.sender with
    | .idle => some ({ sys with sender := .takeCredit pxBuffer sys.ring.txHead }, [])
    | _ => none
  | .sender => (senderStep config sys.ring sys.sender).map fun next =>
      ({ sys with ring := next.1, sender := next.2.1 }, next.2.2)
  | .checker => (checkerStep sys.ring sys.checker).map fun next =>
      ({ sys with ring := next.1, checker := next.2.1 }, next.2.2)
  | .complete => (txDmaComplete sys.ring).map fun ring => ({ sys with ring := ring }, [])

/-- A schedule run from `sys`, with the effects of its events in order. -/
def runSystem (config : Config) : TxSystem n → List TxEvent → Option (TxSystem n × List Effect)
  | sys, [] => some (sys, [])
  | sys, event :: rest => (systemStep config sys event).bind fun next =>
      (runSystem config next.1 rest).map fun final => (final.1, next.2 ++ final.2)

@[simp] theorem systemStep_send (config : Config) (s : TxState n) (checker : CheckPc n)
    (pxBuffer : NetworkBufferDescriptor) :
    systemStep config ⟨s, .idle, checker⟩ (.send pxBuffer) =
      some (⟨s, .takeCredit pxBuffer s.txHead, checker⟩, []) := rfl

@[simp] theorem systemStep_sender (config : Config) (s : TxState n) (sender : SendPc n)
    (checker : CheckPc n) : systemStep config ⟨s, sender, checker⟩ .sender =
      (senderStep config s sender).map fun next => (⟨next.1, next.2.1, checker⟩, next.2.2) := rfl

@[simp] theorem systemStep_checker (config : Config) (s : TxState n) (sender : SendPc n)
    (checker : CheckPc n) : systemStep config ⟨s, sender, checker⟩ .checker =
      (checkerStep s checker).map fun next => (⟨next.1, sender, next.2.1⟩, next.2.2) := rfl

@[simp] theorem runSystem_nil (config : Config) (sys : TxSystem n) :
    runSystem config sys [] = some (sys, []) := rfl

theorem runSystem_cons (config : Config) (sys : TxSystem n) (event : TxEvent)
    (rest : List TxEvent) : runSystem config sys (event :: rest) =
      (systemStep config sys event).bind fun next =>
        (runSystem config next.1 rest).map fun final => (final.1, next.2 ++ final.2) := rfl

theorem runSystem_append (config : Config) (sys : TxSystem n) (first second : List TxEvent) :
    runSystem config sys (first ++ second) = (runSystem config sys first).bind fun middle =>
      (runSystem config middle.1 second).map fun final => (final.1, middle.2 ++ final.2) := by
  induction first generalizing sys with
  | nil => simp [runSystem]
  | cons event rest ih =>
    simp only [List.cons_append, runSystem]
    cases systemStep config sys event with
    | none => rfl
    | some next =>
      rw [Option.some_bind, Option.some_bind, List.append_eq, ih]
      cases runSystem config next.1 rest <;> simp [Function.comp_def]

/-! ## A call run alone is the atomic step -/

/-- A call of `emacps_send_message` that no other statement interrupts does what
`emacpsSendMessage` does. -/
theorem runSystem_send_alone (config : Config) (s : TxState n) (checker : CheckPc n)
    (pxBuffer : NetworkBufferDescriptor) : ∃ steps,
    runSystem config ⟨s, .idle, checker⟩ (.send pxBuffer :: List.replicate steps .sender) =
      some (⟨(emacpsSendMessage config s pxBuffer).1, .idle, checker⟩,
        (emacpsSendMessage config s pxBuffer).2) := by
  unfold emacpsSendMessage sendBlock
  by_cases invalid : xValidLength config (toBaseType pxBuffer.xDataLength) = false
  · exact ⟨1, by simp [runSystem_cons, senderStep, invalid]⟩
  cases semaphore : s.txSemaphore with
  | none => exact ⟨1, by simp [runSystem_cons, senderStep, invalid, semaphore]⟩
  | some count =>
    cases take : semaphoreTake count with
    | none => exact ⟨1, by simp [runSystem_cons, senderStep, invalid, semaphore, take]⟩
    | some taken =>
      have took : senderStep config s (.takeCredit pxBuffer s.txHead) =
          some ({ s with txSemaphore := some taken }, .writeBuffer pxBuffer s.txHead, []) := by
        simp only [senderStep, invalid, semaphore, take]
        rfl
      refine ⟨6, ?_⟩
      simp only [List.replicate_succ, List.replicate_zero, runSystem_cons, systemStep_send,
        systemStep_sender, took, senderStep_writeBuffer, senderStep_writeAddress,
        senderStep_writeFlags, senderStep_writeHead, senderStep_startTx, Option.map_some',
        Option.some_bind, runSystem_nil, List.nil_append, List.append_nil, invalid, take,
        ↓reduceIte]
      simp [publishSlot]

/-- One pass of the loop of `emacps_check_tx`, run without interruption, is `reclaimSlot`. -/
theorem runSystem_checker_reclaim (config : Config) (s : TxState n) (sender : SendPc n)
    {tail head : Fin n} {uxCount : Nat} (used : txUsed (s.txSegments tail).flags = true)
    (go : ¬(tail = head ∧ uxCount + 1 ≠ n)) :
    runSystem config ⟨s, sender, .test tail head (uxCount + 1)⟩ (List.replicate 6 .checker) =
      some (⟨(reclaimSlot s tail).1, sender, .test (advance tail) head uxCount⟩,
        (reclaimSlot s tail).2) := by
  have tested : checkerStep s (.test tail head (uxCount + 1)) =
      some (s, .readBuffer tail head (uxCount + 1), []) := by
    simp only [checkerStep, used, go, Nat.succ_pos, and_self, ↓reduceIte]
  simp only [List.replicate_succ, List.replicate_zero, runSystem_cons, systemStep_checker, tested,
    checkerStep_readBuffer, Option.map_some', Option.some_bind, runSystem_nil, List.nil_append,
    List.append_nil]
  by_cases null : s.txBuffers tail = 0 <;>
    simp only [checkerStep_clearBuffer, null, ne_eq, not_true_eq_false, not_false_eq_true,
      ↓reduceIte, Option.map_some', Option.some_bind, systemStep_checker, checkerStep_resetFlags,
      checkerStep_give, checkerStep_writeTail, runSystem_nil, List.append_nil, List.nil_append,
      reclaimSlot] <;>
    rfl

/-- The loop of `emacps_check_tx`, run without interruption from its test, is `checkTxLoop`. -/
theorem runSystem_checker_loop (config : Config) (sender : SendPc n) (head : Fin n)
    (uxCount : Nat) : ∀ (tail : Fin n) (s : TxState n), ∃ steps,
    runSystem config ⟨s, sender, .test tail head uxCount⟩ (List.replicate steps .checker) =
      some (⟨(checkTxLoop head uxCount tail s).1, sender, .idle⟩,
        (checkTxLoop head uxCount tail s).2) := by
  induction uxCount with
  | zero => exact fun tail s => ⟨1, by simp [runSystem_cons, checkerStep, checkTxLoop]⟩
  | succ uxCount ih =>
    intro tail s
    by_cases used : txUsed (s.txSegments tail).flags = true
    · by_cases stop : tail = head ∧ uxCount + 1 ≠ n
      · exact ⟨1, by simp [runSystem_cons, checkerStep, checkTxLoop, used, stop]⟩
      · obtain ⟨steps, rest⟩ := ih (advance tail) (reclaimSlot s tail).1
        refine ⟨6 + steps, ?_⟩
        rw [List.replicate_add, runSystem_append,
          runSystem_checker_reclaim config s sender used stop, Option.some_bind, rest]
        simp [checkTxLoop, used, stop]
    · exact ⟨1, by simp [runSystem_cons, checkerStep, checkTxLoop, used]⟩

/-- A call of `emacps_check_tx` that no other statement interrupts does what `emacpsCheckTx`
does. -/
theorem runSystem_check_alone (config : Config) {s : TxState n} (sender : SendPc n)
    {result : TxState n × List Effect} (check : emacpsCheckTx s = some result) : ∃ steps,
    runSystem config ⟨s, sender, .idle⟩ (List.replicate steps .checker) =
      some (⟨result.1, sender, .idle⟩, result.2) := by
  obtain ⟨count, semaphore, rfl⟩ := Option.map_eq_some'.mp check
  obtain ⟨steps, loop⟩ := runSystem_checker_loop config sender s.txHead (n - count) s.txTail s
  refine ⟨3 + steps, ?_⟩
  rw [List.replicate_add, runSystem_append]
  simp [runSystem_cons, semaphore, loop]

/-- Every run of the atomic model is a run of the statement-level one in which no two calls
overlap, with the same effects in the same order. -/
theorem txReachable_serial {config : Config} {init s : TxState n}
    {trace : List (TxAction × List Effect)} (reachable : TxReachable config init s trace) :
    ∃ schedule, runSystem config ⟨init, .idle, .idle⟩ schedule =
      some (⟨s, .idle, .idle⟩, trace.flatMap (·.2)) := by
  induction reachable with
  | init => exact ⟨[], rfl⟩
  | @step s s' trace action effects _ step ih =>
    obtain ⟨schedule, run⟩ := ih
    have alone : ∃ events, runSystem config ⟨s, .idle, .idle⟩ events =
        some (⟨s', .idle, .idle⟩, effects) := by
      cases action with
      | send pxBuffer =>
        rw [txStep, Option.some.injEq] at step
        obtain ⟨steps, sent⟩ := runSystem_send_alone config s .idle pxBuffer
        exact ⟨_, by rw [sent, step]⟩
      | complete =>
        obtain ⟨done, complete, same⟩ := Option.map_eq_some'.mp step
        cases same
        exact ⟨[.complete], by simp [runSystem_cons, systemStep, complete]⟩
      | checkTx =>
        obtain ⟨steps, checked⟩ := runSystem_check_alone config .idle step
        exact ⟨_, checked⟩
    obtain ⟨events, alone⟩ := alone
    refine ⟨schedule ++ events, ?_⟩
    rw [runSystem_append, run, Option.some_bind, alone]
    simp

theorem txReachable_serial_after_reclaim :
    ∃ s trace, TxReachable ⟨10, false, 42, fun _ => false⟩ (txStart 2) s trace ∧
      trace.map Prod.fst = [.send ⟨0x1000, 60, by decide⟩, .complete, .checkTx] ∧
      releasedBuffers (trace.flatMap (·.2)) = [0x1000] ∧
      ∃ schedule, runSystem ⟨10, false, 42, fun _ => false⟩ ⟨txStart 2, .idle, .idle⟩ schedule =
        some (⟨s, .idle, .idle⟩, trace.flatMap (·.2)) := by
  obtain ⟨s, trace, run, actions, released⟩ : ∃ s trace,
      TxReachable ⟨10, false, 42, fun _ => false⟩ (txStart 2) s trace ∧
      trace.map Prod.fst = [.send ⟨0x1000, 60, by decide⟩, .complete, .checkTx] ∧
      releasedBuffers (trace.flatMap (·.2)) = [0x1000] :=
    ⟨_, _, ((TxReachable.init.step (show txStep _ _ (.send ⟨0x1000, 60, by decide⟩) = some (_, _)
      by exact rfl)).step (show txStep _ _ .complete = some (_, _) by exact rfl)).step
      (show txStep _ _ .checkTx = some (_, _) by exact rfl), by exact rfl, by exact rfl⟩
  exact ⟨s, trace, run, actions, released, txReachable_serial run⟩

/-! ## A reclaim during a publication -/

/-- With every credit back, the invariant leaves every descriptor idle, with `USED` set. -/
theorem TxInvariant.txUsed_of_all_credits {s : TxState n} (invariant : TxInvariant s)
    (all_credits : s.txSemaphore = some n) (index : Fin n) :
    txUsed (s.txSegments index).flags = true := by
  have outside : ¬InWindow s.txTail (inFlight s) index := by
    rw [inFlight_of_semaphore all_credits, Nat.sub_self]
    exact not_inWindow_zero _ _
  rw [invariant.idle index outside, txUsed_txIdleFlags]

/-- `emacps_check_tx`, with a stale `head`, reclaims slot 1 while `emacps_send_message` is
publishing it; afterwards the MAC owns slot 1 with a `NULL` address while every credit is back. -/
theorem emacps_check_tx_reclaims_slot_being_published :
    ∃ midway final,
      runSystem ⟨10, false, 42, fun _ => false⟩ ⟨txStart 2, .idle, .idle⟩
        [.checker, .checker,
          .send ⟨0x1000, 60, by decide⟩, .sender, .sender, .sender, .sender, .sender, .sender,
          .complete, .send ⟨0x2000, 60, by decide⟩, .sender, .sender,
          .checker, .checker, .checker, .checker, .checker, .checker, .checker, .checker, .checker,
          .checker] = some midway ∧
      midway.1.sender.publishing = some 1 ∧ midway.1.ring.txHead = 1 ∧
      midway.1.checker = .resetFlags 1 0 1 ∧ releasedBuffers midway.2 = [0x1000, 0x2000] ∧
      runSystem ⟨10, false, 42, fun _ => false⟩ midway.1
        [.checker, .checker, .checker, .checker, .sender, .sender, .sender, .sender] =
          some final ∧
      final.1.sender = .idle ∧ final.1.checker = .idle ∧
      (final.1.ring.txSegments 1).address = 0 ∧ ¬TxInvariant final.1.ring :=
  ⟨_, _, rfl, rfl, rfl, rfl, rfl, rfl, rfl, rfl, rfl,
    fun invariant => absurd (invariant.txUsed_of_all_credits rfl 1) (by decide)⟩

end EmacPsDma
