import GveAdminq.Commands

/-! `gve_adminq_describe_device` and the option walk over the descriptor the device wrote.
The descriptor is the bytes at the buffer's address, by offset: the `ADMINQ_SIZE` bytes of the
buffer and whatever memory follows, since nothing bounds the offsets the walk reads by the
buffer's size. A pointer into the descriptor is its offset. -/

namespace GveAdminq

/-- `be16toh` of the two bytes at `off`. -/
def be16 (desc : Nat → BitVec 8) (off : Nat) : BitVec 16 := desc off ++ desc (off + 1)

/-- `be32toh` of the four bytes at `off`. -/
def be32 (desc : Nat → BitVec 8) (off : Nat) : BitVec 32 := be16 desc off ++ be16 desc (off + 2)

/-- `be64toh` of the eight bytes at `off`. -/
def be64 (desc : Nat → BitVec 8) (off : Nat) : BitVec 64 := be32 desc off ++ be32 desc (off + 4)

/-- `sizeof(struct gve_device_descriptor)`: the options start right after it. -/
def gveDeviceDescriptorSize : Nat := 40

/-- `sizeof(struct gve_device_option)`. -/
def gveDeviceOptionSize : Nat := 8

def gveDevOptIdGqiQpl : BitVec 16 := 0x3

def gveDevOptIdJumboFrames : BitVec 16 := 0x8

def gveDevOptReqFeatMaskGqiQpl : BitVec 32 := 0x0

def gveDevOptReqFeatMaskJumboFrames : BitVec 32 := 0x0

def gveSupJumboFramesMask : BitVec 32 := 1 <<< 2

/-- `GVE_ADMINQ_DEVICE_DESCRIPTOR_VERSION`. -/
def gveAdminqDeviceDescriptorVersion : BitVec 32 := 1

/-- `ETHER_ADDR_LEN`. -/
def etherAddrLen : Nat := 6

/-- `gve_get_next_option`: the end of the option at `option`, unless it is past
`total_length`. -/
def gveGetNextOption (desc : Nat → BitVec 8) (option : Nat) : Option Nat :=
  let optionEnd := option + gveDeviceOptionSize + (be16 desc (option + 2)).toNat
  let descriptorEnd := (be16 desc 32).toNat
  if optionEnd > descriptorEnd then none else some optionEnd

/-- A recognized case of the switch in `gve_parse_device_option`: point at the option's payload
if its length covers the option structure of `size` bytes and its required-features mask is
the expected one; otherwise keep the pointer as it was. -/
def gveAcceptDeviceOption (size : Nat) (expectedMask : BitVec 32) (option : Nat)
    (optionLength : BitVec 16) (reqFeatMask : BitVec 32) (cur : Option Nat) : Option Nat :=
  if optionLength.toNat < size ∨ reqFeatMask ≠ expectedMask then cur
  else some (option + gveDeviceOptionSize)

/-- `gve_parse_device_option`, on the pointers to the GQI-QPL and jumbo-frames payloads. -/
def gveParseDeviceOption (desc : Nat → BitVec 8) (option : Nat)
    (devOpGqiQpl devOpJumboFrames : Option Nat) : Option Nat × Option Nat :=
  let reqFeatMask := be32 desc (option + 4)
  let optionLength := be16 desc (option + 2)
  let optionId := be16 desc option
  if optionId = gveDevOptIdGqiQpl then
    (gveAcceptDeviceOption 4 gveDevOptReqFeatMaskGqiQpl option optionLength reqFeatMask
      devOpGqiQpl, devOpJumboFrames)
  else if optionId = gveDevOptIdJumboFrames then
    (devOpGqiQpl, gveAcceptDeviceOption 8 gveDevOptReqFeatMaskJumboFrames option optionLength
      reqFeatMask devOpJumboFrames)
  else (devOpGqiQpl, devOpJumboFrames)

/-- The loop of `gve_process_device_options` from the option at `devOpt`, with `k` options
left. -/
def processOptionsLoop (desc : Nat → BitVec 8) :
    Nat → Nat → Option Nat → Option Nat → Except Errno (Option Nat × Option Nat)
  | 0, _, qpl, jumbo => .ok (qpl, jumbo)
  | k + 1, devOpt, qpl, jumbo =>
    match gveGetNextOption desc devOpt with
    | none => .error .einval
    | some nextOpt =>
      let (qpl, jumbo) := gveParseDeviceOption desc devOpt qpl jumbo
      processOptionsLoop desc k nextOpt qpl jumbo

/-- `gve_process_device_options`. -/
def gveProcessDeviceOptions (desc : Nat → BitVec 8) : Except Errno (Option Nat × Option Nat) :=
  processOptionsLoop desc (be16 desc 30).toNat gveDeviceDescriptorSize none none

/-- `gve_enable_supported_features`. -/
def gveEnableSupportedFeatures (desc : Nat → BitVec 8) (supportedFeaturesMask : BitVec 32)
    (devOpJumboFrames : Option Nat) (p : Priv) : Priv :=
  match devOpJumboFrames with
  | some j =>
    if supportedFeaturesMask &&& gveSupJumboFramesMask ≠ 0 then
      { p with maxMtu := (be16 desc (j + 4)).toNat }
    else p
  | none => p

/-- `gve_enable_supported_features` touches only `max_mtu`. -/
theorem enableSupportedFeatures_eq (desc : Nat → BitVec 8) (f : BitVec 32) (jumbo : Option Nat)
    (p : Priv) : gveEnableSupportedFeatures desc f jumbo p = { p with maxMtu :=
      (jumbo.elim p.maxMtu fun j =>
        if f &&& gveSupJumboFramesMask ≠ 0 then (be16 desc (j + 4)).toNat else p.maxMtu) } := by
  cases jumbo with
  | none => rfl
  | some j => unfold gveEnableSupportedFeatures; split_ifs <;> rfl

/-- The fields `gve_adminq_describe_device` sets once a GQI-QPL option was found. -/
def gveDescribeDeviceFields (c : GveConsts) (desc : Nat → BitVec 8) (devOpGqiQpl : Nat)
    (devOpJumboFrames : Option Nat) (p : Priv) : Priv :=
  let supportedFeaturesMask := be32 desc devOpGqiQpl
  let p := { p with
    queueFormat := c.gqiQplFormat
    numEventCounters := (be16 desc 18).toNat
    defaultNumQueues := (be16 desc 14).toNat
    txDescCnt := (be16 desc 10).toNat
    rxDescCnt := (be16 desc 12).toNat
    rxPagesPerQpl := (be16 desc 22).toNat
    maxRegisteredPages := (be64 desc 0).toNat
    maxMtu := (be16 desc 16).toNat
    supportedFeatures := supportedFeaturesMask.toNat }
  let p := gveEnableSupportedFeatures desc supportedFeaturesMask devOpJumboFrames p
  let p := if p.maxRxDescCnt < p.rxDescCnt then { p with rxDescCnt := p.maxRxDescCnt } else p
  let p := if p.maxTxDescCnt < p.txDescCnt then { p with txDescCnt := p.maxTxDescCnt } else p
  { p with mac := (List.range etherAddrLen).map fun i => desc (24 + i) }

/-- The part of `gve_adminq_describe_device` after the command succeeded. -/
def gveDescribeDeviceNegotiate (c : GveConsts) (desc : Nat → BitVec 8) (p : Priv) : Rc × Priv :=
  let p := { p with maxRxDescCnt := c.maxRingSize, maxTxDescCnt := c.maxRingSize }
  match gveProcessDeviceOptions desc with
  | .error e => (.err e, p)
  | .ok (none, _) => (.err .einval, p)
  | .ok (some devOpGqiQpl, devOpJumboFrames) =>
    (.ok, gveDescribeDeviceFields c desc devOpGqiQpl devOpJumboFrames p)

/-- The clamping at the end of `gve_adminq_describe_device` touches no admin-queue field. -/
theorem clampDescCnt_adminq {B p : Priv} (m : List (BitVec 8))
    (h : B.adminqOk = p.adminqOk ∧ B.aqMem = p.aqMem ∧ B.adminqMask = p.adminqMask ∧
      ∀ s, B.stat s = p.stat s) :
    let r :=
      let q := if B.maxRxDescCnt < B.rxDescCnt then { B with rxDescCnt := B.maxRxDescCnt } else B
      let q := if q.maxTxDescCnt < q.txDescCnt then { q with txDescCnt := q.maxTxDescCnt } else q
      { q with mac := m }
    r.adminqOk = p.adminqOk ∧ r.aqMem = p.aqMem ∧ r.adminqMask = p.adminqMask ∧
      ∀ s, r.stat s = p.stat s := by
  dsimp only
  split_ifs <;> exact h

/-- The negotiation sets none of the admin queue's own fields. -/
theorem describeDeviceNegotiate_adminq (c : GveConsts) (desc : Nat → BitVec 8) (p : Priv) :
    let q := (gveDescribeDeviceNegotiate c desc p).2
    q.adminqOk = p.adminqOk ∧ q.aqMem = p.aqMem ∧ q.adminqMask = p.adminqMask ∧
      ∀ s, q.stat s = p.stat s := by
  unfold gveDescribeDeviceNegotiate
  split
  · exact ⟨rfl, rfl, rfl, fun _ => rfl⟩
  · exact ⟨rfl, rfl, rfl, fun _ => rfl⟩
  · exact clampDescCnt_adminq _ (by rw [enableSupportedFeatures_eq]; exact ⟨rfl, rfl, rfl, fun _ => rfl⟩)

/-- The command `gve_adminq_describe_device` executes. -/
def describeDeviceCmd (g : AdminqSize) (descMem : GveDmaHandle) : AdminqCommand :=
  .ofPayload .describeDevice <| .describeDevice {
    deviceDescriptorAddr := descMem.busAddr
    deviceDescriptorVersion := gveAdminqDeviceDescriptorVersion
    availableLength := BitVec.ofNat 32 g.bytes }

/-- `gve_adminq_describe_device`. `dma` is what `gve_dma_alloc_coherent` gives for the
`ADMINQ_SIZE`-byte descriptor buffer, and `desc` what the device wrote there. -/
def gveAdminqDescribeDevice (g : AdminqSize) (c : GveConsts) (dma : Except Errno GveDmaHandle)
    (desc : Nat → BitVec 8) (w : World) : Rc × World :=
  match dma with
  | .error e => (.err e, w)
  | .ok descMem =>
    let w := { w with dmaLive := w.dmaLive + 1 }
    let (rc, w) := gveAdminqExecuteCmd g (describeDeviceCmd g descMem) w
    let (rc, w) :=
      if rc ≠ .ok then (rc, w)
      else
        let (rc, p) := gveDescribeDeviceNegotiate c desc w.priv
        (rc, { w with priv := p })
    (rc, { w with dmaLive := w.dmaLive - 1 })

end GveAdminq
