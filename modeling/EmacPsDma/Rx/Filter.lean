import EmacPsDma.Basic

/-!
# The ingress filter

`xMayAcceptPacket` reads the headers through the packed `ProtocolPacket_t`: the IPv4 header at byte
14 and the UDP header at byte 34, whatever the IHL.  Its 16-bit loads are little-endian and its
constants are in network order, so each comparison is one of big-endian values.  The code decides
the specification's rule with the ports read at those fixed offsets; a header with options tells
the two readings apart.
-/

namespace EmacPsDma

/-! ## Reading the frame -/

/-- Byte `offset` of a buffer, `0` past its end. -/
def byteAt (buffer : List UInt8) (offset : Nat) : Nat := (buffer.getD offset 0).toNat

/-- A `uint16_t` field at `offset`, as the little-endian target loads it. -/
def readUint16 (buffer : List UInt8) (offset : Nat) : Nat :=
  byteAt buffer offset + 256 * byteAt buffer (offset + 1)

/-- The big-endian (network order) value of the two bytes at `offset`. -/
def networkUint16 (buffer : List UInt8) (offset : Nat) : Nat :=
  256 * byteAt buffer offset + byteAt buffer (offset + 1)

/-- `FreeRTOS_ntohs` on a little-endian target: the two bytes swapped. -/
def freeRtosNtohs (value : Nat) : Nat := value % 256 * 256 + value / 256 % 256

theorem byteAt_lt (buffer : List UInt8) (offset : Nat) : byteAt buffer offset < 256 :=
  UInt8.toNat_lt_size _

theorem networkUint16_lt (buffer : List UInt8) (offset : Nat) :
    networkUint16 buffer offset < 65536 := by
  have := byteAt_lt buffer offset
  have := byteAt_lt buffer (offset + 1)
  unfold networkUint16
  omega

/-- `FreeRTOS_ntohs` swaps the two bytes of a 16-bit value. -/
theorem ntohs_bytes {lo hi : Nat} (lo_lt : lo < 256) (hi_lt : hi < 256) :
    freeRtosNtohs (lo + 256 * hi) = hi + 256 * lo := by
  unfold freeRtosNtohs
  omega

theorem ntohs_ntohs {value : Nat} (small : value < 65536) :
    freeRtosNtohs (freeRtosNtohs value) = value := by
  have bytes : value = value % 256 + 256 * (value / 256) := by omega
  rw [bytes, ntohs_bytes (Nat.mod_lt _ (by decide)) (by omega),
    ntohs_bytes (by omega) (Nat.mod_lt _ (by decide))]

/-- A loaded field is the network value with its bytes swapped. -/
theorem readUint16_eq_ntohs (buffer : List UInt8) (offset : Nat) :
    readUint16 buffer offset = freeRtosNtohs (networkUint16 buffer offset) := by
  rw [readUint16, networkUint16, Nat.add_comm (256 * _),
    ntohs_bytes (byteAt_lt _ _) (byteAt_lt _ _)]

theorem ntohs_readUint16 (buffer : List UInt8) (offset : Nat) :
    freeRtosNtohs (readUint16 buffer offset) = networkUint16 buffer offset := by
  rw [readUint16_eq_ntohs, ntohs_ntohs (networkUint16_lt _ _)]

theorem ntohs_inj {first second : Nat} (first_lt : first < 65536) (second_lt : second < 65536) :
    freeRtosNtohs first = freeRtosNtohs second ↔ first = second :=
  ⟨fun same => by rw [← ntohs_ntohs first_lt, same, ntohs_ntohs second_lt], congrArg _⟩

/-! ## The constants of the stack -/

/-- Modelled from the spec: `ipARP_FRAME_TYPE`, the ARP EtherType `0x0806` stored in network byte
order, as a little-endian load sees it. -/
def ipArpFrameType : Nat := 0x0608

/-- Modelled from the spec: `ipIPv4_FRAME_TYPE`, the IPv4 EtherType `0x0800` in network byte
order. -/
def ipIPv4FrameType : Nat := 0x0008

/-- Modelled from the spec: `ipIPv6_FRAME_TYPE`, the IPv6 EtherType `0x86DD` in network byte
order. -/
def ipIPv6FrameType : Nat := 0xDD86

/-- Modelled from the spec: `ipFRAGMENT_OFFSET_BIT_MASK`, the low 13 bits of the
flags/fragment-offset field, `0x1FFF` in network byte order. -/
def ipFragmentOffsetBitMask : Nat := 0xFF1F

theorem testBit_fragmentOffsetBitMask (i : Nat) :
    ipFragmentOffsetBitMask.testBit i = decide (i < 5 ∨ 8 ≤ i ∧ i < 16) := by
  rcases Nat.lt_or_ge i 16 with small | large
  · have low_bits : ∀ j < 16,
        ipFragmentOffsetBitMask.testBit j = decide (j < 5 ∨ 8 ≤ j ∧ j < 16) := by
      decide
    exact low_bits i small
  · have beyond : ipFragmentOffsetBitMask < 2 ^ i :=
      lt_of_lt_of_le (by decide) (Nat.pow_le_pow_right (by decide) large)
    rw [Nat.testBit_lt_two_pow beyond]
    simp only [false_eq_decide_iff, not_or, not_and, not_lt]
    exact ⟨by omega, fun _ => large⟩

/-- The mask keeps the low 13 bits of the big-endian field: the low five bits of its first byte
and all of its second. -/
theorem readUint16_and_fragmentMask (buffer : List UInt8) (offset : Nat) :
    readUint16 buffer offset &&& ipFragmentOffsetBitMask =
      byteAt buffer offset % 32 + 256 * byteAt buffer (offset + 1) := by
  have low := byteAt_lt buffer offset
  have high := byteAt_lt buffer (offset + 1)
  apply Nat.eq_of_testBit_eq
  intro i
  rw [readUint16, Nat.testBit_and, testBit_fragmentOffsetBitMask, Nat.add_comm,
    Nat.add_comm (_ % 32), show (256 : Nat) = 2 ^ 8 from rfl, show (32 : Nat) = 2 ^ 5 from rfl,
    Nat.testBit_mul_pow_two_add _ low, Nat.testBit_mul_pow_two_add _ (by omega),
    Nat.testBit_mod_two_pow]
  rcases Nat.lt_or_ge i 8 with below | above
  · simp only [below, if_true]
    by_cases five : i < 5 <;> simp [five, below, show i < 16 by omega]
  · have not_low : ¬i < 5 := by omega
    simp only [show ¬i < 8 by omega, if_false, not_low, false_or, above, true_and]
    rcases Nat.lt_or_ge i 16 with inside | outside
    · simp [inside]
    · have beyond : byteAt buffer (offset + 1) < 2 ^ (i - 8) :=
        lt_of_lt_of_le high (Nat.pow_le_pow_right (by decide : 2 > 0) (show 8 ≤ i - 8 by omega))
      rw [Nat.testBit_lt_two_pow beyond]
      simp

/-- Modelled from the spec: `ipPROTOCOL_UDP`. -/
def ipProtocolUdp : Nat := 17

/-- Modelled from the spec: `ipLLMNR_PORT`. -/
def ipLlmnrPort : Nat := 5355

/-- Modelled from the spec: `ipNBNS_PORT`. -/
def ipNbnsPort : Nat := 137

/-- Modelled from the spec: `ipDNS_PORT`. -/
def ipDnsPort : Nat := 53

/-- The options of `FreeRTOSIPConfig.h` the filter is compiled with, and the UDP ports the stack
has bound. -/
structure FilterConfig where
  /-- `ipconfigETHERNET_DRIVER_FILTERS_PACKETS == 1`. -/
  ethernetDriverFiltersPackets : Bool
  /-- `ipconfigUSE_LLMNR == 1`. -/
  useLlmnr : Bool
  /-- `ipconfigUSE_NBNS == 1`. -/
  useNbns : Bool
  /-- `ipconfigUSE_DNS == 1`. -/
  useDns : Bool
  /-- The UDP port numbers a socket of the stack is bound to. -/
  boundUdpPort : Nat → Bool

/-- Modelled from the spec: `xPortHasUDPSocket`, whether a UDP socket is bound to the port, given
in network byte order as the frame holds it. -/
def xPortHasUDPSocket (config : FilterConfig) (xPortNumber : Nat) : Bool :=
  config.boundUdpPort (freeRtosNtohs xPortNumber)

/-! ## The filter -/

/-- `xMayAcceptPacket`, `true` for `pdTRUE`.  The fields are those of `ProtocolPacket_t`:
`usFrameType` at byte 12, `ucVersionHeaderLength` at 14, `usFragmentOffset` at 20, `ucProtocol`
at 23, and the UDP `usSourcePort` and `usDestinationPort` at 34 and 36. -/
def xMayAcceptPacket (config : FilterConfig) (pucEthernetBuffer : List UInt8) : Bool :=
  let usFrameType := readUint16 pucEthernetBuffer 12
  if usFrameType = ipArpFrameType then true
  else if usFrameType = ipIPv6FrameType then true
  else if usFrameType ≠ ipIPv4FrameType then false
  else if config.ethernetDriverFiltersPackets = false then true
  else if readUint16 pucEthernetBuffer 20 &&& ipFragmentOffsetBitMask ≠ 0 then false
  else if byteAt pucEthernetBuffer 14 < 0x45 ∨ byteAt pucEthernetBuffer 14 > 0x4F then false
  else if byteAt pucEthernetBuffer 23 = ipProtocolUdp then
    let usSourcePort := freeRtosNtohs (readUint16 pucEthernetBuffer 34)
    let usDestinationPort := freeRtosNtohs (readUint16 pucEthernetBuffer 36)
    if xPortHasUDPSocket config (readUint16 pucEthernetBuffer 36) = false ∧
        (config.useLlmnr = true → usDestinationPort ≠ ipLlmnrPort ∧ usSourcePort ≠ ipLlmnrPort) ∧
        (config.useNbns = true → usDestinationPort ≠ ipNbnsPort ∧ usSourcePort ≠ ipNbnsPort) ∧
        (config.useDns = true → usSourcePort ≠ ipDnsPort) then false
    else true
  else true

/-- The UDP ports the specification admits: a bound destination port, or one of the enabled
well-known ports as destination or source (DNS as source only). -/
def udpPortAdmitted (config : FilterConfig) (source destination : Nat) : Bool :=
  config.boundUdpPort destination ||
    config.useLlmnr && (destination == 5355 || source == 5355) ||
    config.useNbns && (destination == 137 || source == 137) ||
    config.useDns && source == 53

/-- The refusal test of the code, under its compile-time options, is the negation of the
admission of the specification. -/
theorem udpRefused_iff (config : FilterConfig) (source destination : Nat) :
    (config.boundUdpPort destination = false ∧
      (config.useLlmnr = true → destination ≠ 5355 ∧ source ≠ 5355) ∧
      (config.useNbns = true → destination ≠ 137 ∧ source ≠ 137) ∧
      (config.useDns = true → source ≠ 53)) ↔
      udpPortAdmitted config source destination = false := by
  simp only [udpPortAdmitted, Bool.or_eq_false_iff, Bool.and_eq_false_imp, beq_eq_false_iff_ne,
    and_assoc]

/-- The decision the specification describes, with the UDP header read at byte `udpHeader`:
ARP and IPv6 pass; IPv4 passes when its fragment offset is zero, its version/IHL byte lies in
`[0x45, 0x4F]` and, for UDP, its ports are admitted; every other EtherType is refused. -/
def filterSpec (config : FilterConfig) (udpHeader : Nat) (frame : List UInt8) : Bool :=
  let etherType := networkUint16 frame 12
  if etherType = 0x0806 ∨ etherType = 0x86DD then true
  else if etherType = 0x0800 then
    decide (networkUint16 frame 20 % 2 ^ 13 = 0) &&
      (decide (0x45 ≤ byteAt frame 14) && decide (byteAt frame 14 ≤ 0x4F)) &&
      (decide (byteAt frame 23 ≠ 17) ||
        udpPortAdmitted config (networkUint16 frame udpHeader) (networkUint16 frame (udpHeader + 2)))
  else false

/-- Where the specification places the UDP header: behind an IPv4 header of `4 * IHL` bytes. -/
def ipv4PayloadOffset (frame : List UInt8) : Nat := 14 + 4 * (byteAt frame 14 % 16)

/-- An IPv4/UDP frame whose header carries one word of options (IHL 6), sent from port 5001 to
port 5000: its UDP header starts at byte 38, and bytes 34 to 37 hold the options. -/
def udpFrameWithOptions : List UInt8 :=
  List.replicate 12 0 ++ [0x08, 0x00, 0x46, 0x00, 0x00, 0x20, 0x00, 0x00, 0x00, 0x00, 0x40, 0x11] ++
    List.replicate 14 0 ++ [0x13, 0x89, 0x13, 0x88, 0x00, 0x08, 0x00, 0x00]

/-- The frame the specification accepts for a stack bound to port 5000: the code refuses it, as it
reads the destination port in the options. -/
theorem xMayAcceptPacket_refuses_port_after_options :
    xMayAcceptPacket ⟨true, false, false, false, fun port => port == 5000⟩ udpFrameWithOptions =
        false ∧
      filterSpec ⟨true, false, false, false, fun port => port == 5000⟩
        (ipv4PayloadOffset udpFrameWithOptions) udpFrameWithOptions = true := by
  decide

/-- With the filter compiled in, `xMayAcceptPacket` decides exactly the specification with the UDP
ports read at bytes 34 and 36, where `ProtocolPacket_t` places them, for every header length. -/
theorem xMayAcceptPacket_eq_filterSpec (config : FilterConfig)
    (filters : config.ethernetDriverFiltersPackets = true) (pucEthernetBuffer : List UInt8) :
    xMayAcceptPacket config pucEthernetBuffer = filterSpec config 34 pucEthernetBuffer := by
  have frameType (constant value : Nat) (stored : constant = freeRtosNtohs value)
      (small : value < 65536) :
      readUint16 pucEthernetBuffer 12 = constant ↔ networkUint16 pucEthernetBuffer 12 = value := by
    rw [readUint16_eq_ntohs, stored, ntohs_inj (networkUint16_lt _ _) small]
  have fragment : readUint16 pucEthernetBuffer 20 &&& ipFragmentOffsetBitMask = 0 ↔
      networkUint16 pucEthernetBuffer 20 % 2 ^ 13 = 0 := by
    have := byteAt_lt pucEthernetBuffer 20
    have := byteAt_lt pucEthernetBuffer (20 + 1)
    rw [readUint16_and_fragmentMask, networkUint16]
    omega
  unfold xMayAcceptPacket filterSpec xPortHasUDPSocket
  simp only [frameType ipArpFrameType 0x0806 rfl (by decide),
    frameType ipIPv6FrameType 0x86DD rfl (by decide),
    frameType ipIPv4FrameType 0x0800 rfl (by decide),
    filters, ne_eq, fragment, ntohs_readUint16, ipProtocolUdp, ipLlmnrPort, ipNbnsPort, ipDnsPort,
    udpRefused_iff]
  by_cases arp : networkUint16 pucEthernetBuffer 12 = 0x0806
  · simp [arp]
  by_cases ipv6 : networkUint16 pucEthernetBuffer 12 = 0x86DD
  · simp [ipv6]
  by_cases ipv4 : networkUint16 pucEthernetBuffer 12 = 0x0800
  · -- the code refuses a version/IHL byte outside the range the specification admits
    have range : (byteAt pucEthernetBuffer 14 < 0x45 ∨ byteAt pucEthernetBuffer 14 > 0x4F) ↔
        ¬(0x45 ≤ byteAt pucEthernetBuffer 14 ∧ byteAt pucEthernetBuffer 14 ≤ 0x4F) := by omega
    simp only [arp, ipv6, ipv4, range, ← Bool.decide_and]
    by_cases header : 0x45 ≤ byteAt pucEthernetBuffer 14 ∧ byteAt pucEthernetBuffer 14 ≤ 0x4F <;>
      simp [header]
  · simp [arp, ipv6, ipv4]

theorem xMayAcceptPacket_eq_filterSpec_udp :
    FilterConfig.ethernetDriverFiltersPackets
        ⟨true, false, false, false, fun port => port == 5000⟩ = true ∧
      xMayAcceptPacket ⟨true, false, false, false, fun port => port == 5000⟩ udpFrameWithOptions =
        filterSpec ⟨true, false, false, false, fun port => port == 5000⟩ 34 udpFrameWithOptions :=
  ⟨rfl, xMayAcceptPacket_eq_filterSpec _ rfl _⟩

end EmacPsDma
