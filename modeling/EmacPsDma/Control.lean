import EmacPsDma.Basic

/-!
# The network control register

`resetrx_on_no_rxdata`, at the start of `emacps_check_rx`, clears and sets `RXEN` in `NWCTRL` with
two read-modify-writes; the end of `emacps_send_message` sets `STARTTX` with its own.  Neither
holds a lock.  Run one after the other they keep `RXEN` set (`runControl_serial`); interleaved,
the sender's stale value can clear `RXEN` for good.
-/

namespace EmacPsDma

/-- Modelled from the spec: `XEMACPS_NWCTRL_RXEN_MASK`, the receive enable bit (bit 2) of
`NWCTRL`. -/
def xemacpsNwctrlRxenMask : Nat := 0x00000004

/-- Modelled from the spec: `XEMACPS_NWCTRL_STARTTX_MASK`, the start transmission bit (bit 9) of
`NWCTRL`. -/
def xemacpsNwctrlStarttxMask : Nat := 0x00000200

/-- The registers of the MAC that `resetrx_on_no_rxdata` and `emacps_send_message` access. -/
structure MacRegisters where
  /-- `XEMACPS_NWCTRL_OFFSET`, the network control register. -/
  nwctrl : Nat
  /-- `XEMACPS_RXCNT_OFFSET`, the received-frames counter. -/
  rxcnt : Nat
  deriving DecidableEq, Repr

/-- `resetrx_on_no_rxdata` as one call: the two read-modify-writes of `NWCTRL` when the counter
and the remembered counter are both zero, and the new remembered counter. -/
def resetrxOnNoRxdata (regs : MacRegisters) (lastRxFrmsCntr : Nat) : MacRegisters × Nat :=
  let tempcntr := regs.rxcnt
  if tempcntr = 0 ∧ lastRxFrmsCntr = 0 then
    let cleared := regs.nwctrl &&& (0xFFFFFFFF ^^^ xemacpsNwctrlRxenMask)
    ({ regs with nwctrl := cleared ||| xemacpsNwctrlRxenMask }, tempcntr)
  else (regs, tempcntr)

/-! ## Statement by statement -/

/-- Where `resetrx_on_no_rxdata` stands, with its locals `tempcntr` and `regctrl`. -/
inductive ResetPc
  /-- `tempcntr = XEmacPs_ReadReg( ..., XEMACPS_RXCNT_OFFSET )` and the test. -/
  | readCount
  /-- `regctrl = XEmacPs_ReadReg( ..., XEMACPS_NWCTRL_OFFSET )`. -/
  | readCtrl (tempcntr : Nat)
  /-- `XEmacPs_WriteReg( ..., regctrl & ~XEMACPS_NWCTRL_RXEN_MASK )`. -/
  | clearRxen (tempcntr regctrl : Nat)
  /-- The second `regctrl = XEmacPs_ReadReg( ..., XEMACPS_NWCTRL_OFFSET )`. -/
  | readCtrlAgain (tempcntr : Nat)
  /-- `XEmacPs_WriteReg( ..., regctrl | XEMACPS_NWCTRL_RXEN_MASK )`. -/
  | setRxen (tempcntr regctrl : Nat)
  /-- `xemacpsif->last_rx_frms_cntr = tempcntr`. -/
  | saveCount (tempcntr : Nat)
  /-- Returned. -/
  | done
  deriving DecidableEq, Repr

/-- Where the end of `emacps_send_message` stands in its update of `NWCTRL`, with its local
`ulValue`. -/
inductive StartPc
  /-- `ulValue = XEmacPs_ReadReg( ..., XEMACPS_NWCTRL_OFFSET )`. -/
  | readCtrl
  /-- `XEmacPs_WriteReg( ..., ulValue | XEMACPS_NWCTRL_STARTTX_MASK )`. -/
  | writeCtrl (ulValue : Nat)
  /-- The read-back of `NWCTRL`. -/
  | readBack
  /-- Done with the register. -/
  | done
  deriving DecidableEq, Repr

/-- One statement of `resetrx_on_no_rxdata`, on the registers and `last_rx_frms_cntr`; `none`
once it has returned. -/
def resetStep (regs : MacRegisters) (lastRxFrmsCntr : Nat) :
    ResetPc → Option (MacRegisters × Nat × ResetPc)
  | .readCount =>
    let tempcntr := regs.rxcnt
    some (regs, lastRxFrmsCntr,
      if tempcntr = 0 ∧ lastRxFrmsCntr = 0 then .readCtrl tempcntr else .saveCount tempcntr)
  | .readCtrl tempcntr => some (regs, lastRxFrmsCntr, .clearRxen tempcntr regs.nwctrl)
  | .clearRxen tempcntr regctrl =>
    some ({ regs with nwctrl := regctrl &&& (0xFFFFFFFF ^^^ xemacpsNwctrlRxenMask) },
      lastRxFrmsCntr, .readCtrlAgain tempcntr)
  | .readCtrlAgain tempcntr => some (regs, lastRxFrmsCntr, .setRxen tempcntr regs.nwctrl)
  | .setRxen tempcntr regctrl =>
    some ({ regs with nwctrl := regctrl ||| xemacpsNwctrlRxenMask }, lastRxFrmsCntr,
      .saveCount tempcntr)
  | .saveCount tempcntr => some (regs, tempcntr, .done)
  | .done => none

/-- One statement of the sender's update of `NWCTRL`; `none` once it is done. -/
def startStep (regs : MacRegisters) : StartPc → Option (MacRegisters × StartPc)
  | .readCtrl => some (regs, .writeCtrl regs.nwctrl)
  | .writeCtrl ulValue => some ({ regs with nwctrl := ulValue ||| xemacpsNwctrlStarttxMask }, .readBack)
  | .readBack => some (regs, .done)
  | .done => none

/-- The registers, `last_rx_frms_cntr`, and where each task stands. -/
structure ControlSystem where
  /-- The registers of the MAC. -/
  regs : MacRegisters
  /-- `xemacpsif->last_rx_frms_cntr`. -/
  lastRxFrmsCntr : Nat
  /-- The driver task in `resetrx_on_no_rxdata`. -/
  reset : ResetPc
  /-- The sending task in `emacps_send_message`. -/
  start : StartPc
  deriving DecidableEq, Repr

/-- Which task runs its next statement. -/
inductive ControlEvent
  /-- The driver task. -/
  | reset
  /-- The sending task. -/
  | start
  deriving DecidableEq, Repr

/-- One statement of the task the scheduler picks. -/
def controlStep (sys : ControlSystem) : ControlEvent → Option ControlSystem
  | .reset => (resetStep sys.regs sys.lastRxFrmsCntr sys.reset).map fun next =>
      { sys with regs := next.1, lastRxFrmsCntr := next.2.1, reset := next.2.2 }
  | .start => (startStep sys.regs sys.start).map fun next =>
      { sys with regs := next.1, start := next.2 }

/-- A schedule of the two tasks; `none` when it picks a task that has finished. -/
def runControl : ControlSystem → List ControlEvent → Option ControlSystem
  | sys, [] => some sys
  | sys, event :: rest => (controlStep sys event).bind fun next => runControl next rest

theorem runControl_append (sys : ControlSystem) (first second : List ControlEvent) :
    runControl sys (first ++ second) =
      (runControl sys first).bind fun mid => runControl mid second := by
  induction first generalizing sys with
  | nil => rfl
  | cons event rest ih =>
    simp only [List.cons_append, runControl]
    cases controlStep sys event <;> simp [ih]

/-! ## Runs of one task at a time -/

/-- The statements of `resetrx_on_no_rxdata` when both counters are zero. -/
def resetSchedule : List ControlEvent := List.replicate 6 .reset

/-- The statements of the sender's update of `NWCTRL`. -/
def startSchedule : List ControlEvent := List.replicate 3 .start

/-- Uninterrupted, the statements of `resetrx_on_no_rxdata` do what the call does. -/
theorem runControl_reset_alone (regs : MacRegisters) (start : StartPc)
    (count : regs.rxcnt = 0) :
    runControl ⟨regs, 0, .readCount, start⟩ resetSchedule =
      some ⟨(resetrxOnNoRxdata regs 0).1, (resetrxOnNoRxdata regs 0).2, .done, start⟩ := by
  obtain ⟨nwctrl, rxcnt⟩ := regs
  dsimp only at count
  subst count
  rfl

theorem runControl_start_alone (sys : ControlSystem) (ready : sys.start = .readCtrl) :
    runControl sys startSchedule = some { sys with
      regs := { sys.regs with nwctrl := sys.regs.nwctrl ||| xemacpsNwctrlStarttxMask },
      start := .done } := by
  obtain ⟨regs, last, reset, start⟩ := sys
  subst ready
  rfl

/-- `NWCTRL` after both tasks: `RXEN` set, and every bit other than `RXEN` and `STARTTX` as it was
at `before`. -/
def NwctrlKept (before after : Nat) : Prop :=
  after.testBit 2 = true ∧ ∀ i, i ≠ 2 → i ≠ 9 → after.testBit i = before.testBit i

@[simp] theorem testBit_nwctrlRxenMask (i : Nat) :
    xemacpsNwctrlRxenMask.testBit i = decide (i = 2) := by
  rw [show xemacpsNwctrlRxenMask = 2 ^ 2 from rfl, Nat.testBit_two_pow]
  exact decide_eq_decide.mpr eq_comm

@[simp] theorem testBit_nwctrlStarttxMask (i : Nat) :
    xemacpsNwctrlStarttxMask.testBit i = decide (i = 9) := by
  rw [show xemacpsNwctrlStarttxMask = 2 ^ 9 from rfl, Nat.testBit_two_pow]
  exact decide_eq_decide.mpr eq_comm

/-- Clearing `RXEN` and setting it again, on a 32-bit value, changes no bit but `RXEN`. -/
theorem testBit_cycle_rxen {value : Nat} (small : value < 2 ^ 32) {i : Nat} (other : i ≠ 2) :
    (value &&& (0xFFFFFFFF ^^^ xemacpsNwctrlRxenMask) ||| xemacpsNwctrlRxenMask).testBit i =
      value.testBit i := by
  by_cases low : i < 32
  · have ones : (0xFFFFFFFF : Nat).testBit i = true := by
      rw [show (0xFFFFFFFF : Nat) = 2 ^ 32 - 1 from rfl, Nat.testBit_two_pow_sub_one]
      simpa using low
    simp [Nat.testBit_or, Nat.testBit_and, Nat.testBit_xor, ones, other]
  · have beyond : value < 2 ^ i :=
      lt_of_lt_of_le small (Nat.pow_le_pow_right (by decide) (by omega))
    simp [Nat.testBit_or, Nat.testBit_and, Nat.testBit_lt_two_pow beyond, other]

/-- Run one after the other, in either order, `resetrx_on_no_rxdata` and the sender leave `RXEN`
set and every other bit but `STARTTX` as it was. -/
theorem runControl_serial (regs : MacRegisters) (count : regs.rxcnt = 0)
    (small : regs.nwctrl < 2 ^ 32) :
    (∃ final, runControl ⟨regs, 0, .readCount, .readCtrl⟩ (resetSchedule ++ startSchedule) =
      some final ∧ NwctrlKept regs.nwctrl final.regs.nwctrl) ∧
    (∃ final, runControl ⟨regs, 0, .readCount, .readCtrl⟩ (startSchedule ++ resetSchedule) =
      some final ∧ NwctrlKept regs.nwctrl final.regs.nwctrl) := by
  obtain ⟨value, rxcnt⟩ := regs
  dsimp only at count small
  subst count
  have started : value ||| xemacpsNwctrlStarttxMask < 2 ^ 32 :=
    Nat.or_lt_two_pow small (by decide)
  constructor
  · apply Exists.intro
    refine ⟨by rw [runControl_append, runControl_reset_alone _ _ rfl, Option.some_bind,
      runControl_start_alone _ rfl], ?_, fun i rx tx => ?_⟩
    · simp [resetrxOnNoRxdata, Nat.testBit_or]
    · simp [resetrxOnNoRxdata, Nat.testBit_or, tx, testBit_cycle_rxen small rx]
  · apply Exists.intro
    refine ⟨by rw [runControl_append, runControl_start_alone _ rfl, Option.some_bind,
      runControl_reset_alone _ _ rfl], ?_, fun i rx tx => ?_⟩
    · simp [resetrxOnNoRxdata, Nat.testBit_or]
    · simp [resetrxOnNoRxdata, testBit_cycle_rxen started rx, Nat.testBit_or, tx]

/-! ## A lost update -/

/-- When the sender reads `NWCTRL` while `RXEN` is cleared and writes it after
`resetrx_on_no_rxdata` has set `RXEN` again, both tasks finish with `RXEN` clear. -/
theorem nwctrl_rxen_lost_to_stale_write :
    runControl ⟨⟨0x0C, 0⟩, 0, .readCount, .readCtrl⟩
        [.reset, .reset, .reset, .start, .reset, .reset, .reset, .start, .start] =
      some ⟨⟨0x208, 0⟩, 0, .done, .done⟩ ∧
    ¬NwctrlKept 0x0C 0x208 :=
  ⟨rfl, fun kept => absurd kept.1 (by decide)⟩

end EmacPsDma
