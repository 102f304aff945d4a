import GveAdminq.Wire

/-! The state the admin queue works on: the fields of `struct gve_priv` that the modelled
functions read or write, the ring's DMA page shared with the device, and the device's three
registers. Each driver access to shared state (a register, a ring slot) is preceded by a
`yield`, where the device performs the steps the environment chose for that point, so every
interleaving of device steps with the driver's accesses is one choice of `World.env`. -/

namespace GveAdminq

/-- Modelled from the spec: `ADMINQ_SIZE` is defined in gve.h, which is not under src/. The spec
makes the ring a power-of-two number of 64-byte commands; a 4096-byte page has 64 slots. The
bound keeps the slot count a proper divisor of 2^32. -/
structure AdminqSize where
  log2Slots : Nat
  log2Slots_lt : log2Slots < 32

namespace AdminqSize

variable (g : AdminqSize)

/-- `ADMINQ_SIZE`. -/
def bytes : Nat := 64 * 2 ^ g.log2Slots

/-- `ADMINQ_SIZE / sizeof(union gve_adminq_command)`. -/
def slots : Nat := 2 ^ g.log2Slots

/-- The mask `gve_adminq_alloc` stores in `adminq_mask`. -/
def mask : BitVec 32 := BitVec.ofNat 32 (g.bytes / 64 - 1)

theorem bytes_div : g.bytes / 64 = g.slots := by
  simp [bytes, slots]

theorem slots_pos : 0 < g.slots := Nat.two_pow_pos _

theorem slots_le : g.slots ≤ 2 ^ 31 :=
  Nat.pow_le_pow_right (by decide) (by have := g.log2Slots_lt; omega)

@[simp] theorem mask_toNat : g.mask.toNat = g.slots - 1 := by
  have := g.slots_le
  simp only [mask, bytes_div, BitVec.toNat_ofNat]
  exact Nat.mod_eq_of_lt (by omega)

end AdminqSize

/-- `struct gve_dma_handle` after a successful `gve_dma_alloc_coherent`. -/
structure GveDmaHandle where
  busAddr : BitVec 64
  deriving DecidableEq, Repr

/-- `struct gve_ring_com`: what the queue commands read of it. -/
structure GveRingCom where
  ntfyId : BitVec 32 := 0
  qResourcesBusAddr : BitVec 64 := 0
  qplId : BitVec 32 := 0
  deriving DecidableEq, Repr

/-- `struct gve_rx_ring`: what `gve_adminq_create_rx_queue` reads of it. -/
structure GveRxRing where
  com : GveRingCom := {}
  descRingBusAddr : BitVec 64 := 0
  dataRingBusAddr : BitVec 64 := 0
  deriving DecidableEq, Repr

/-- `struct gve_tx_ring`: what `gve_adminq_create_tx_queue` reads of it. -/
structure GveTxRing where
  com : GveRingCom := {}
  descRingBusAddr : BitVec 64 := 0
  deriving DecidableEq, Repr

/-- The fields of `struct gve_priv` (declared in gve.h, not under src/) that the admin queue
reads or writes. The counters are `uint32_t`, as gve_sysctl.c exports them; the negotiated
fields hold values decoded from at most 64 bits and are kept as `Nat`. The defaults are the
zeroed softc. -/
structure Priv where
  adminqOk : Bool := false
  aqMem : Option GveDmaHandle := none
  adminqBusAddr : BitVec 64 := 0
  adminqMask : BitVec 32 := 0
  adminqProdCnt : BitVec 32 := 0
  adminqCmdFail : BitVec 32 := 0
  adminqTimeouts : BitVec 32 := 0
  adminqDescribeDeviceCnt : BitVec 32 := 0
  adminqCfgDeviceResourcesCnt : BitVec 32 := 0
  adminqRegisterPageListCnt : BitVec 32 := 0
  adminqUnregisterPageListCnt : BitVec 32 := 0
  adminqCreateTxQueueCnt : BitVec 32 := 0
  adminqCreateRxQueueCnt : BitVec 32 := 0
  adminqDestroyTxQueueCnt : BitVec 32 := 0
  adminqDestroyRxQueueCnt : BitVec 32 := 0
  adminqDcfgDeviceResourcesCnt : BitVec 32 := 0
  adminqSetDriverParameterCnt : BitVec 32 := 0
  adminqReportStatsCnt : BitVec 32 := 0
  adminqReportLinkSpeedCnt : BitVec 32 := 0
  adminqGetPtypeMapCnt : BitVec 32 := 0
  adminqVerifyDriverCompatibilityCnt : BitVec 32 := 0
  queueFormat : BitVec 8 := 0
  supportedFeatures : Nat := 0
  maxMtu : Nat := 0
  txDescCnt : Nat := 0
  rxDescCnt : Nat := 0
  maxTxDescCnt : Nat := 0
  maxRxDescCnt : Nat := 0
  numEventCounters : Nat := 0
  defaultNumQueues : Nat := 0
  rxPagesPerQpl : Nat := 0
  maxRegisteredPages : Nat := 0
  mac : List (BitVec 8) := []
  numQueues : Nat := 0
  counterArrayBusAddr : BitVec 64 := 0
  irqsDbBusAddr : BitVec 64 := 0
  rx : Nat → GveRxRing := fun _ => {}
  tx : Nat → GveTxRing := fun _ => {}

/-- The per-opcode issue counter of `op`. -/
def Priv.issueCnt (p : Priv) : AdminqOpcode → BitVec 32
  | .describeDevice => p.adminqDescribeDeviceCnt
  | .configureDeviceResources => p.adminqCfgDeviceResourcesCnt
  | .registerPageList => p.adminqRegisterPageListCnt
  | .unregisterPageList => p.adminqUnregisterPageListCnt
  | .createTxQueue => p.adminqCreateTxQueueCnt
  | .createRxQueue => p.adminqCreateRxQueueCnt
  | .destroyTxQueue => p.adminqDestroyTxQueueCnt
  | .destroyRxQueue => p.adminqDestroyRxQueueCnt
  | .deconfigureDeviceResources => p.adminqDcfgDeviceResourcesCnt
  | .setDriverParameter => p.adminqSetDriverParameterCnt
  | .reportStats => p.adminqReportStatsCnt
  | .reportLinkSpeed => p.adminqReportLinkSpeedCnt
  | .getPtypeMap => p.adminqGetPtypeMapCnt
  | .verifyDriverCompatibility => p.adminqVerifyDriverCompatibilityCnt

/-- The admin queue's statistics in `struct gve_priv`, by field. -/
inductive AdminqStat
  | prodCnt
  | cmdFail
  | timeouts
  | issued (op : AdminqOpcode)
  deriving DecidableEq, Repr

/-- The field of `p` that `s` names. -/
def Priv.stat (p : Priv) : AdminqStat → BitVec 32
  | .prodCnt => p.adminqProdCnt
  | .cmdFail => p.adminqCmdFail
  | .timeouts => p.adminqTimeouts
  | .issued op => p.issueCnt op

/-- The device's registers: the event counter it advances, the last doorbell value, and the
ring's page number (`0` once released). -/
structure Device where
  eventCounter : BitVec 32 := 0
  doorbell : BitVec 32 := 0
  adminqAddr : BitVec 32 := 0
  deriving DecidableEq, Repr

/-- What the run records of the driver's accesses. These events change nothing the code
reads; they name the points the properties are about. -/
inductive AqEvent
  | initialized
  | written (slot : Nat) (prod ev : BitVec 32) (cmd : AdminqCommand)
  | noSpace
  | kicked (head : BitVec 32)
  | polled (ev : BitVec 32)
  | examined (i status : BitVec 32)
  | timedOut
  | executed (cmd : AdminqCommand) (rc : Rc)
  deriving DecidableEq, Repr

/-- A driver and its device mid-run. `env n` is what the device does before the driver's
`n`-th shared access: one step per entry, writing that status (or, for `none`, leaving the
slot's status as it is). `dmaLive` counts the coherent DMA regions the admin queue holds, and
`dmaMem a` holds the 64-bit words of the region at bus address `a`, as the device reads them. -/
structure World where
  priv : Priv
  ring : Nat → AdminqCommand
  dev : Device
  env : Nat → List (Option (BitVec 32))
  clock : Nat
  log : List AqEvent
  dmaLive : Nat
  dmaMem : BitVec 64 → Nat → BitVec 64

/-- The attached device before `gve_adminq_alloc`: a zeroed softc and an idle device. -/
def World.init (env : Nat → List (Option (BitVec 32))) : World :=
  ⟨{}, fun _ => .zero, {}, env, 0, [], 0, fun _ _ => 0⟩

/-- `ring` with slot `i` replaced by `c`. -/
def setSlot (ring : Nat → AdminqCommand) (i : Nat) (c : AdminqCommand) : Nat → AdminqCommand :=
  fun j => if j = i then c else ring j

@[simp] theorem setSlot_same (ring : Nat → AdminqCommand) (i : Nat) (c : AdminqCommand) :
    setSlot ring i c i = c := by simp [setSlot]

theorem setSlot_ne (ring : Nat → AdminqCommand) {i j : Nat} (c : AdminqCommand) (h : j ≠ i) :
    setSlot ring i c j = ring j := by simp [setSlot, h]

namespace World

variable (g : AdminqSize)

/-- One device step: unless it has caught up with the doorbell, the device completes the
command in slot `eventCounter & mask` and advances its event counter by one. -/
def deviceStep (a : Option (BitVec 32)) (w : World) : World :=
  if w.dev.eventCounter = w.dev.doorbell then w
  else
    let slot := (w.dev.eventCounter &&& g.mask).toNat
    { w with
      ring := match a with
        | some s => setSlot w.ring slot { w.ring slot with status := s }
        | none => w.ring
      dev := { w.dev with eventCounter := w.dev.eventCounter + 1 } }

/-- The device's progress before the driver's next shared access. -/
def yield (w : World) : World :=
  { (w.env w.clock).foldl (fun w a => w.deviceStep g a) w with clock := w.clock + 1 }

/-- `w` with `e` appended to its log. -/
def note (e : AqEvent) (w : World) : World := { w with log := w.log ++ [e] }

section frame

variable {g} (a : Option (BitVec 32)) (w : World)

@[simp] theorem deviceStep_priv : (w.deviceStep g a).priv = w.priv := by
  unfold deviceStep; split <;> rfl
@[simp] theorem deviceStep_env : (w.deviceStep g a).env = w.env := by
  unfold deviceStep; split <;> rfl
@[simp] theorem deviceStep_clock : (w.deviceStep g a).clock = w.clock := by
  unfold deviceStep; split <;> rfl
@[simp] theorem deviceStep_log : (w.deviceStep g a).log = w.log := by
  unfold deviceStep; split <;> rfl
@[simp] theorem deviceStep_dmaLive : (w.deviceStep g a).dmaLive = w.dmaLive := by
  unfold deviceStep; split <;> rfl
@[simp] theorem deviceStep_doorbell : (w.deviceStep g a).dev.doorbell = w.dev.doorbell := by
  unfold deviceStep; split <;> rfl

theorem deviceStep_idle (h : w.dev.eventCounter = w.dev.doorbell) : w.deviceStep g a = w := by
  simp [deviceStep, h]

/-- Everything a batch of device steps leaves alone. -/
theorem foldl_deviceStep_frame (as : List (Option (BitVec 32))) (w : World) :
    let w' := as.foldl (fun w a => w.deviceStep g a) w
    w'.priv = w.priv ∧ w'.env = w.env ∧ w'.clock = w.clock ∧ w'.log = w.log ∧
      w'.dmaLive = w.dmaLive ∧ w'.dev.doorbell = w.dev.doorbell := by
  induction as generalizing w with
  | nil => simp
  | cons a as ih =>
    obtain ⟨h1, h2, h3, h4, h5, h6⟩ := ih (w.deviceStep g a)
    simp only [List.foldl_cons] at *
    simp [h1, h2, h3, h4, h5, h6]

@[simp] theorem yield_priv : (w.yield g).priv = w.priv :=
  (foldl_deviceStep_frame _ w).1
@[simp] theorem yield_env : (w.yield g).env = w.env :=
  (foldl_deviceStep_frame _ w).2.1
@[simp] theorem yield_clock : (w.yield g).clock = w.clock + 1 := rfl
@[simp] theorem yield_log : (w.yield g).log = w.log :=
  (foldl_deviceStep_frame _ w).2.2.2.1
@[simp] theorem yield_dmaLive : (w.yield g).dmaLive = w.dmaLive :=
  (foldl_deviceStep_frame _ w).2.2.2.2.1
@[simp] theorem yield_doorbell : (w.yield g).dev.doorbell = w.dev.doorbell :=
  (foldl_deviceStep_frame _ w).2.2.2.2.2

/-- A device that has caught up with the doorbell stays put. -/
theorem yield_of_idle (h : w.dev.eventCounter = w.dev.doorbell) :
    w.yield g = { w with clock := w.clock + 1 } := by
  have run : ∀ (as : List (Option (BitVec 32))),
      as.foldl (fun w a => w.deviceStep g a) w = w := by
    intro as
    induction as with
    | nil => rfl
    | cons a as ih => simpa only [List.foldl_cons, deviceStep_idle a w h] using ih
  simp only [yield, run]

/-- Device steps write statuses only: a slot's opcode and payload stay as the driver wrote them. -/
theorem deviceStep_ring (i : Nat) : ((w.deviceStep g a).ring i).opcode = (w.ring i).opcode ∧
    ((w.deviceStep g a).ring i).payload = (w.ring i).payload := by
  unfold deviceStep
  split
  · exact ⟨rfl, rfl⟩
  · cases a with
    | none => exact ⟨rfl, rfl⟩
    | some s =>
      simp only [setSlot]
      split
      · subst_vars; exact ⟨rfl, rfl⟩
      · exact ⟨rfl, rfl⟩

theorem yield_ring (i : Nat) : ((w.yield g).ring i).opcode = (w.ring i).opcode ∧
    ((w.yield g).ring i).payload = (w.ring i).payload := by
  have run : ∀ (as : List (Option (BitVec 32))) (w : World),
      ((as.foldl (fun w a => w.deviceStep g a) w).ring i).opcode = (w.ring i).opcode ∧
      ((as.foldl (fun w a => w.deviceStep g a) w).ring i).payload = (w.ring i).payload := by
    intro as
    induction as with
    | nil => exact fun _ => ⟨rfl, rfl⟩
    | cons a as ih =>
      intro w
      obtain ⟨h1, h2⟩ := ih (w.deviceStep g a)
      obtain ⟨h3, h4⟩ := deviceStep_ring a w i
      exact ⟨h1.trans h3, h2.trans h4⟩
  exact run _ w

@[simp] theorem note_priv (e : AqEvent) : (w.note e).priv = w.priv := rfl
@[simp] theorem note_dev (e : AqEvent) : (w.note e).dev = w.dev := rfl
@[simp] theorem note_ring (e : AqEvent) : (w.note e).ring = w.ring := rfl
@[simp] theorem note_env (e : AqEvent) : (w.note e).env = w.env := rfl
@[simp] theorem note_clock (e : AqEvent) : (w.note e).clock = w.clock := rfl
@[simp] theorem note_log (e : AqEvent) : (w.note e).log = w.log ++ [e] := rfl
@[simp] theorem note_dmaLive (e : AqEvent) : (w.note e).dmaLive = w.dmaLive := rfl

end frame

end World

end GveAdminq
