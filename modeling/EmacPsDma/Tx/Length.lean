import EmacPsDma.Tx.Invariant

/-!
# The length check and the flags word

On the `__aarch64__` build `xValidLength` compares the `uint32_t` cast of a 64-bit length with
`dmaRX_TX_BUFFER_SIZE`, and the flags word of a published slot holds the low 14 bits of the length,
`LAST`, and `WRAP` on the last slot.  A length below `2 ^ 32` is published only within the bounds;
one of `2 ^ 32` or more whose low 32 bits fit is published with a wrong length field.
-/

namespace EmacPsDma

variable {n : Nat}

/-! ## The casts -/

/-- A `size_t` below `2 ^ 63` keeps its value as a `BaseType_t`. -/
theorem toBaseType_of_lt {value : Nat} (small : value < 2 ^ 63) : toBaseType value = value := by
  have kept : value % 2 ^ 64 = value := Nat.mod_eq_of_lt (by omega)
  simp only [toBaseType, kept, small, if_true]

/-- A `size_t` whose top bit is set is a negative `BaseType_t`. -/
theorem toBaseType_neg {value : Nat} (large : 2 ^ 63 ≤ value % 2 ^ 64) : toBaseType value < 0 := by
  have bounded : value % 2 ^ 64 < 2 ^ 64 := Nat.mod_lt _ (by decide)
  simp only [toBaseType, Nat.not_lt.mpr large, if_false]
  omega

/-- The `uint32_t` cast of a non-negative `BaseType_t` keeps its low 32 bits. -/
theorem toUint32_natCast (value : Nat) : toUint32 value = value % 2 ^ 32 := by
  simp only [toUint32]
  omega

/-! ## `xValidLength` -/

/-- On the `__aarch64__` build `xValidLength` accepts a `size_t` length exactly when its
`BaseType_t` is at least the ARP size and its low 32 bits are at most `dmaRX_TX_BUFFER_SIZE`. -/
theorem xValidLength_toBaseType_iff (config : Config) (xDataLength : Nat) :
    xValidLength config (toBaseType xDataLength) = true ↔
      xDataLength % 2 ^ 64 < 2 ^ 63 ∧ config.arpPacketSize ≤ xDataLength % 2 ^ 64 ∧
        xDataLength % 2 ^ 32 ≤ config.dmaRxTxBufferSize := by
  have low : xDataLength % 2 ^ 64 % 2 ^ 32 = xDataLength % 2 ^ 32 :=
    Nat.mod_mod_of_dvd _ (by decide)
  by_cases small : xDataLength % 2 ^ 64 < 2 ^ 63
  · have as_base : toBaseType xDataLength = ((xDataLength % 2 ^ 64 : Nat) : Int) := by
      rw [← toBaseType_of_lt small, toBaseType, toBaseType, Nat.mod_mod]
    simp only [xValidLength, as_base, toUint32_natCast, low, Bool.and_eq_true, decide_eq_true_eq,
      Int.ofNat_le, small, true_and]
  · have negative := toBaseType_neg (Nat.not_lt.mp small)
    simp only [xValidLength, Bool.and_eq_true, decide_eq_true_eq, small, false_and, iff_false,
      not_and]
    intro at_least
    omega

/-- `dmaRX_TX_BUFFER_SIZE` fits the 14-bit length field, with or without jumbo frames. -/
theorem dmaRxTxBufferSize_lt (config : Config) : config.dmaRxTxBufferSize < 2 ^ 14 := by
  unfold Config.dmaRxTxBufferSize
  split <;> omega

/-! ## The flags word -/

/-- Bit `i` of the flags word of a published slot: a bit of the length below bit 14, `LAST`, and
`WRAP` on the last slot; `USED` and every other bit are clear. -/
theorem testBit_txPublishFlags (length : Nat) (lastSlot : Bool) (i : Nat) :
    (txPublishFlags length lastSlot).testBit i =
      (decide (i < 14) && length.testBit i || decide (i = 15) || decide (i = 30) && lastSlot) := by
  cases lastSlot <;>
    simp only [txPublishFlags, Nat.testBit_or, Nat.testBit_and, testBit_txbufLastMask,
      testBit_txbufLenMask, testBit_txbufWrapMask, if_true, if_false, Bool.and_true,
      Bool.and_false, Bool.or_false, Bool.false_eq_true] <;>
    cases decide (i < 14) <;> cases decide (i = 15) <;> simp [Bool.or_comm]

/-- The length field of a published flags word is the length modulo `2 ^ 14`. -/
theorem txPublishFlags_land_lenMask (length : Nat) (lastSlot : Bool) :
    txPublishFlags length lastSlot &&& xemacpsTxbufLenMask = length % 2 ^ 14 :=
  Nat.eq_of_testBit_eq fun i => by
    rw [Nat.testBit_and, testBit_txPublishFlags, testBit_txbufLenMask, Nat.testBit_mod_two_pow]
    by_cases low : i < 14
    · simp [low, show i ≠ 15 by omega, show i ≠ 30 by omega]
    · simp [low]

/-! ## A published slot -/

/-- A frame `emacps_send_message` publishes has a length that `xValidLength` accepts, and the slot
at `txHead` gets its payload and the flags word of its length. -/
theorem sendBlock_publishes {config : Config} {s s' : TxState n}
    {pxBuffer : NetworkBufferDescriptor} {effects : List Effect}
    (block : sendBlock config s pxBuffer = .ok (s', effects)) :
    xValidLength config (toBaseType pxBuffer.xDataLength) = true ∧
      s'.txSegments s.txHead = ⟨pxBuffer.pucEthernetBuffer % 2 ^ 32,
        txPublishFlags pxBuffer.xDataLength (s.txHead.val = n - 1)⟩ := by
  obtain ⟨count, -, -, published, -⟩ := sendBlock_eq_ok block
  refine ⟨?_, by rw [show s' = _ from published, publishSlot_txSegments, Function.update_same]⟩
  by_contra invalid
  simp [sendBlock, invalid] at block

/-- A length below `2 ^ 32` is published only within the bounds, with itself in bits 13:0 of the
flags, `LAST`, `WRAP` exactly on the last slot, and no other bit. -/
theorem sendBlock_publishes_within_bounds {config : Config} {s s' : TxState n}
    {pxBuffer : NetworkBufferDescriptor} {effects : List Effect}
    (small : pxBuffer.xDataLength < 2 ^ 32)
    (block : sendBlock config s pxBuffer = .ok (s', effects)) :
    config.arpPacketSize ≤ pxBuffer.xDataLength ∧
      pxBuffer.xDataLength ≤ config.dmaRxTxBufferSize ∧
      (s'.txSegments s.txHead).flags &&& xemacpsTxbufLenMask = pxBuffer.xDataLength ∧
      ∀ i, (s'.txSegments s.txHead).flags.testBit i =
        (decide (i < 14) && pxBuffer.xDataLength.testBit i || decide (i = 15) ||
          decide (i = 30) && decide (s.txHead.val = n - 1)) := by
  obtain ⟨valid, slot⟩ := sendBlock_publishes block
  have kept : pxBuffer.xDataLength % 2 ^ 64 = pxBuffer.xDataLength := Nat.mod_eq_of_lt (by omega)
  have low : pxBuffer.xDataLength % 2 ^ 32 = pxBuffer.xDataLength := Nat.mod_eq_of_lt small
  obtain ⟨-, at_least, at_most⟩ := (xValidLength_toBaseType_iff config _).mp valid
  rw [kept] at at_least
  rw [low] at at_most
  have fits : pxBuffer.xDataLength % 2 ^ 14 = pxBuffer.xDataLength :=
    Nat.mod_eq_of_lt (lt_of_le_of_lt at_most (dmaRxTxBufferSize_lt config))
  rw [slot]
  exact ⟨at_least, at_most, (txPublishFlags_land_lenMask _ _).trans fits,
    testBit_txPublishFlags _ _⟩

/-- On the `__aarch64__` build a buffer of `2 ^ 32 + 60` bytes passes `xValidLength` and is published
with 60 in the length field. -/
theorem emacps_send_message_publishes_oversized_length :
    ¬2 ^ 32 + 60 ≤ (⟨10, false, 42, fun _ => false⟩ : Config).dmaRxTxBufferSize ∧
      (emacpsSendMessage ⟨10, false, 42, fun _ => false⟩ (txStart 2)
          ⟨0x1000, 2 ^ 32 + 60, by decide⟩).1.txSegments 0 =
        ⟨0x1000, xemacpsTxbufLastMask ||| 60⟩ ∧
      (emacpsSendMessage ⟨10, false, 42, fun _ => false⟩ (txStart 2)
          ⟨0x1000, 2 ^ 32 + 60, by decide⟩).1.txHead = 1 :=
  ⟨by decide, rfl, rfl⟩

end EmacPsDma
