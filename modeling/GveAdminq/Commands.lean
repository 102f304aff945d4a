import GveAdminq.Transport

namespace GveAdminq

/-- The constants of gve.h (not under src/) that the builders and the descriptor negotiation
use, with the system's `PAGE_SIZE`. -/
structure GveConsts where
  defaultRxBufferSize : Nat
  maxRingSize : Nat
  gqiQplFormat : BitVec 8
  irqDbSize : Nat
  pageSize : Nat

/-- `GVE_SET_PARAM_MTU`. -/
def gveSetParamMtu : BitVec 32 := 0x1

/-- `GVE_NTFY_BLK_BASE_MSIX_IDX`. -/
def gveNtfyBlkBaseMsixIdx : BitVec 32 := 0

/-- A zeroed command with `opcode` and one payload member written. -/
def AdminqCommand.ofPayload (op : AdminqOpcode) (payload : AdminqPayload) : AdminqCommand :=
  ⟨op.code, 0, payload⟩

/-- The command of `gve_adminq_create_rx_queue`. -/
def createRxQueueCmd (c : GveConsts) (p : Priv) (queueIndex : BitVec 32) : AdminqCommand :=
  let rx := p.rx queueIndex.toNat
  .ofPayload .createRxQueue <| .createRxQueue {
    queueId := queueIndex
    ntfyId := rx.com.ntfyId
    queueResourcesAddr := rx.com.qResourcesBusAddr
    rxRingSize := BitVec.ofNat 16 p.rxDescCnt
    packetBufferSize := BitVec.ofNat 16 c.defaultRxBufferSize
    rxDescRingAddr := rx.descRingBusAddr
    rxDataRingAddr := rx.dataRingBusAddr
    index := queueIndex
    queuePageListId := rx.com.qplId }

/-- The command of `gve_adminq_create_tx_queue`. -/
def createTxQueueCmd (p : Priv) (queueIndex : BitVec 32) : AdminqCommand :=
  let tx := p.tx queueIndex.toNat
  .ofPayload .createTxQueue <| .createTxQueue {
    queueId := queueIndex
    queueResourcesAddr := tx.com.qResourcesBusAddr
    txRingAddr := tx.descRingBusAddr
    ntfyId := tx.com.ntfyId
    txRingSize := BitVec.ofNat 16 p.txDescCnt
    queuePageListId := tx.com.qplId }

/-- The command of `gve_adminq_destroy_tx_queue`. -/
def destroyTxQueueCmd (id : BitVec 32) : AdminqCommand :=
  .ofPayload .destroyTxQueue <| .destroyTxQueue { queueId := id }

/-- The command of `gve_adminq_destroy_rx_queue`. -/
def destroyRxQueueCmd (id : BitVec 32) : AdminqCommand :=
  .ofPayload .destroyRxQueue <| .destroyRxQueue { queueId := id }

section builders

variable (g : AdminqSize)

/-- The loop of `gve_adminq_create_rx_queues` and its three siblings: the per-queue function
for `i = 0, 1, ...` below `num_queues`, returning the first failure. The `int` index is
compared as unsigned with `num_queues` and passed on as a `uint32_t`. -/
def gveAdminqQueueLoop (queueFn : BitVec 32 → World → Rc × World) : Nat → Nat → World → Rc × World
  | 0, _, w => (.ok, w)
  | k + 1, i, w =>
    match queueFn (BitVec.ofNat 32 i) w with
    | (.ok, w) => gveAdminqQueueLoop queueFn k (i + 1) w
    | (.err e, w) => (.err e, w)

def gveAdminqCreateRxQueue (c : GveConsts) (queueIndex : BitVec 32) (w : World) : Rc × World :=
  gveAdminqExecuteCmd g (createRxQueueCmd c w.priv queueIndex) w

def gveAdminqCreateRxQueues (c : GveConsts) (numQueues : BitVec 32) (w : World) : Rc × World :=
  gveAdminqQueueLoop (gveAdminqCreateRxQueue g c) numQueues.toNat 0 w

def gveAdminqCreateTxQueue (queueIndex : BitVec 32) (w : World) : Rc × World :=
  gveAdminqExecuteCmd g (createTxQueueCmd w.priv queueIndex) w

def gveAdminqCreateTxQueues (numQueues : BitVec 32) (w : World) : Rc × World :=
  gveAdminqQueueLoop (gveAdminqCreateTxQueue g) numQueues.toNat 0 w

def gveAdminqDestroyTxQueue (id : BitVec 32) (w : World) : Rc × World :=
  gveAdminqExecuteCmd g (destroyTxQueueCmd id) w

def gveAdminqDestroyRxQueue (id : BitVec 32) (w : World) : Rc × World :=
  gveAdminqExecuteCmd g (destroyRxQueueCmd id) w

def gveAdminqDestroyRxQueues (numQueues : BitVec 32) (w : World) : Rc × World :=
  gveAdminqQueueLoop (gveAdminqDestroyRxQueue g) numQueues.toNat 0 w

def gveAdminqDestroyTxQueues (numQueues : BitVec 32) (w : World) : Rc × World :=
  gveAdminqQueueLoop (gveAdminqDestroyTxQueue g) numQueues.toNat 0 w

def gveAdminqSetMtu (mtu : BitVec 32) (w : World) : Rc × World :=
  gveAdminqExecuteCmd g (.ofPayload .setDriverParameter <| .setDriverParam {
    parameterType := gveSetParamMtu
    parameterValue := mtu.zeroExtend 64 }) w

def gveAdminqUnregisterPageList (pageListId : BitVec 32) (w : World) : Rc × World :=
  gveAdminqExecuteCmd g
    (.ofPayload .unregisterPageList <| .unregPageList { pageListId := pageListId }) w

def gveAdminqConfigureDeviceResources (c : GveConsts) (w : World) : Rc × World :=
  gveAdminqExecuteCmd g (.ofPayload .configureDeviceResources <| .configureDeviceResources {
    counterArray := w.priv.counterArrayBusAddr
    numCounters := BitVec.ofNat 32 w.priv.numEventCounters
    irqDbAddr := w.priv.irqsDbBusAddr
    numIrqDbs := BitVec.ofNat 32 w.priv.numQueues
    irqDbStride := BitVec.ofNat 32 c.irqDbSize
    ntfyBlkMsixBaseIdx := gveNtfyBlkBaseMsixIdx
    queueFormat := w.priv.queueFormat }) w

def gveAdminqDeconfigureDeviceResources (w : World) : Rc × World :=
  gveAdminqExecuteCmd g (.ofPayload .deconfigureDeviceResources .reserved) w

def gveAdminqVerifyDriverCompatibility (driverInfoLen driverInfoAddr : BitVec 64) (w : World) :
    Rc × World :=
  gveAdminqExecuteCmd g (.ofPayload .verifyDriverCompatibility <| .verifyDriverCompatibility {
    driverInfoLen := driverInfoLen
    driverInfoAddr := driverInfoAddr }) w

/-- `struct gve_queue_page_list` (declared in gve.h): what the registration reads of it. -/
structure GveQueuePageList where
  id : BitVec 32
  numEntries : BitVec 32
  dmas : Nat → BitVec 64

/-- The staging loop `page_list[i] = htobe64(qpl->dmas[i].bus_addr)`, from index `i` on with
`k` entries left, into a buffer of `size` bytes; `none` is a store past the buffer's end. -/
def stagePageList (size : Nat) (dmas : Nat → BitVec 64) :
    Nat → Nat → (Nat → BitVec 64) → Option (Nat → BitVec 64)
  | 0, _, buf => some buf
  | k + 1, i, buf =>
    if 8 * i + 8 ≤ size then
      stagePageList size dmas k (i + 1) fun j => if j = i then dmas i else buf j
    else none

/-- The command of `gve_adminq_register_page_list`, pointing at the staging region `dma`. -/
def registerPageListCmd (c : GveConsts) (dma : GveDmaHandle) (qpl : GveQueuePageList) :
    AdminqCommand :=
  .ofPayload .registerPageList <| .regPageList {
    pageListId := qpl.id
    numPages := qpl.numEntries
    pageAddressListAddr := dma.busAddr
    pageSize := BitVec.ofNat 64 c.pageSize }

/-- `gve_adminq_register_page_list`. `dma` is what `gve_dma_alloc_coherent` gives for the
zeroed staging buffer of `size` bytes, whose staged `page_list` the device reads at the
command's `page_address_list_addr`; `none` is undefined behaviour, a store past its end. -/
def gveAdminqRegisterPageList (c : GveConsts) (dma : Except Errno GveDmaHandle)
    (qpl : GveQueuePageList) (w : World) : Option (Rc × World) :=
  let numEntries := qpl.numEntries
  let size : BitVec 32 := numEntries * 8
  match dma with
  | .error _ => some (.err .enomem, w)
  | .ok h =>
    let w := { w with dmaLive := w.dmaLive + 1 }
    match stagePageList size.toNat qpl.dmas numEntries.toNat 0 fun _ => 0 with
    | none => none
    | some pageList =>
      let w := { w with dmaMem := Function.update w.dmaMem h.busAddr pageList }
      let (err, w) := gveAdminqExecuteCmd g (registerPageListCmd c h qpl) w
      some (err, { w with dmaLive := w.dmaLive - 1 })

/-- What `gve_adminq_register_page_list` can do: return ENOMEM with nothing changed when the
allocation fails, or execute its command with the staged list in the new region and free it. -/
theorem registerPageList_cases {c : GveConsts} {dma : Except Errno GveDmaHandle}
    {qpl : GveQueuePageList} {w : World} {r : Rc × World}
    (hr : gveAdminqRegisterPageList g c dma qpl w = some r) :
    r = (.err .enomem, w) ∨ ∃ (h : GveDmaHandle) (pageList : Nat → BitVec 64),
      stagePageList (qpl.numEntries * 8).toNat qpl.dmas qpl.numEntries.toNat 0 (fun _ => 0) =
        some pageList ∧
      let x := gveAdminqExecuteCmd g (registerPageListCmd c h qpl)
        { w with dmaLive := w.dmaLive + 1, dmaMem := Function.update w.dmaMem h.busAddr pageList }
      r = (x.1, { x.2 with dmaLive := x.2.dmaLive - 1 }) := by
  unfold gveAdminqRegisterPageList at hr
  cases dma with
  | error e => exact .inl (Option.some.inj hr).symm
  | ok h =>
    dsimp only at hr
    split at hr
    · cases hr
    · rename_i pageList hstage
      exact .inr ⟨h, pageList, hstage, (Option.some.inj hr).symm⟩

end builders

end GveAdminq
