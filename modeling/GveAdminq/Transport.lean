import GveAdminq.State

/-! The command ring transport of gve_adminq.c: status translation, doorbell, completion
polling, `issue_cmd`, `kick_and_wait`, `execute_cmd`, and the ring's allocation and release.
Register and ring accesses go through `World.yield`, so the device may move between any two
of them. -/

namespace GveAdminq

/-- `GVE_MAX_ADMINQ_EVENT_COUNTER_CHECK`. -/
def gveMaxAdminqEventCounterCheck : Nat := 10

/-- The status switch of `gve_adminq_parse_err`. -/
def adminqStatusRc (status : BitVec 32) : Rc :=
  match AdminqStatus.ofCode? status with
  | some .passed => .ok
  | some .unset => .err .einval
  | some .errorAborted | some .errorCancelled | some .errorDataloss
  | some .errorFailedPrecondition | some .errorUnavailable => .err .eagain
  | some .errorAlreadyExists | some .errorInternalError | some .errorInvalidArgument
  | some .errorNotFound | some .errorOutOfRange | some .errorUnknownError => .err .einval
  | some .errorDeadlineExceeded => .err .etime
  | some .errorPermissionDenied | some .errorUnauthenticated => .err .eacces
  | some .errorResourceExhausted => .err .enomem
  | some .errorUnimplemented => .err .eopnotsupp
  | none => .err .einval

/-- A status `gve_adminq_parse_err` counts in `adminq_cmd_fail`. -/
def countsAsFailure (status : BitVec 32) : Bool :=
  status ≠ AdminqStatus.passed.code && status ≠ AdminqStatus.unset.code

/-- `gve_adminq_parse_err`. -/
def gveAdminqParseErr (status : BitVec 32) (p : Priv) : Rc × Priv :=
  let p := if countsAsFailure status then { p with adminqCmdFail := p.adminqCmdFail + 1 } else p
  (adminqStatusRc status, p)

/-- A case of the opcode switch at the end of `gve_adminq_issue_cmd`: count one command of
opcode `op`. -/
def Priv.countIssued (p : Priv) : AdminqOpcode → Priv
  | .describeDevice => { p with adminqDescribeDeviceCnt := p.adminqDescribeDeviceCnt + 1 }
  | .configureDeviceResources =>
    { p with adminqCfgDeviceResourcesCnt := p.adminqCfgDeviceResourcesCnt + 1 }
  | .registerPageList => { p with adminqRegisterPageListCnt := p.adminqRegisterPageListCnt + 1 }
  | .unregisterPageList =>
    { p with adminqUnregisterPageListCnt := p.adminqUnregisterPageListCnt + 1 }
  | .createTxQueue => { p with adminqCreateTxQueueCnt := p.adminqCreateTxQueueCnt + 1 }
  | .createRxQueue => { p with adminqCreateRxQueueCnt := p.adminqCreateRxQueueCnt + 1 }
  | .destroyTxQueue => { p with adminqDestroyTxQueueCnt := p.adminqDestroyTxQueueCnt + 1 }
  | .destroyRxQueue => { p with adminqDestroyRxQueueCnt := p.adminqDestroyRxQueueCnt + 1 }
  | .deconfigureDeviceResources =>
    { p with adminqDcfgDeviceResourcesCnt := p.adminqDcfgDeviceResourcesCnt + 1 }
  | .setDriverParameter =>
    { p with adminqSetDriverParameterCnt := p.adminqSetDriverParameterCnt + 1 }
  | .reportStats => { p with adminqReportStatsCnt := p.adminqReportStatsCnt + 1 }
  | .reportLinkSpeed => { p with adminqReportLinkSpeedCnt := p.adminqReportLinkSpeedCnt + 1 }
  | .getPtypeMap => { p with adminqGetPtypeMapCnt := p.adminqGetPtypeMapCnt + 1 }
  | .verifyDriverCompatibility =>
    { p with adminqVerifyDriverCompatibilityCnt := p.adminqVerifyDriverCompatibilityCnt + 1 }

/-- The opcode switch at the end of `gve_adminq_issue_cmd`; its `default` only logs. -/
def gveAdminqCountOpcode (opcode : BitVec 32) (p : Priv) : Priv :=
  match AdminqOpcode.ofCode? opcode with
  | some op => p.countIssued op
  | none => p

/-- A write of the `GVE_REG_ADMINQ_ADDR` register. The device model: the device (re)starts its
view of the ring at that page, or releases it for `0`, with its event counter and the doorbell
it has seen back at zero; it reports the page back when the register is read. -/
def Device.writeAdminqAddr (page : BitVec 32) : Device := ⟨0, 0, page⟩

section transport

variable (g : AdminqSize)

/-- `gve_reg_bar_read_4(priv, ADMINQ_EVENT_COUNTER)`. -/
def readEventCounter (w : World) : BitVec 32 × World :=
  let w := w.yield g
  (w.dev.eventCounter, w)

/-- `gve_adminq_kick_cmd`: ring the doorbell with `prod_cnt`. -/
def gveAdminqKickCmd (prodCnt : BitVec 32) (w : World) : World :=
  let w := w.yield g
  ({ w with dev := { w.dev with doorbell := prodCnt } }).note (.kicked prodCnt)

/-- The polling loop of `gve_adminq_wait_for_cmd`, with `n` polls left. -/
def waitForCmdLoop (prodCnt : BitVec 32) : Nat → World → Bool × World
  | 0, w => (false, w)
  | n + 1, w =>
    let (ev, w) := readEventCounter g w
    let w := w.note (.polled ev)
    if ev = prodCnt then (true, w) else waitForCmdLoop prodCnt n w

/-- `gve_adminq_wait_for_cmd`. -/
def gveAdminqWaitForCmd (prodCnt : BitVec 32) (w : World) : Bool × World :=
  waitForCmdLoop g prodCnt gveMaxAdminqEventCounterCheck w

/-- One pass of the completion scan's body: read the status of command `i` and translate it. -/
def scanOne (i : Nat) (w : World) : Rc × World :=
  let w := w.yield g
  let idx := BitVec.ofNat 32 i
  let status := (w.ring (idx &&& w.priv.adminqMask).toNat).status
  let (err, p) := gveAdminqParseErr status w.priv
  (err, ({ w with priv := p }).note (.examined idx status))

/-- The completion scan of `gve_adminq_kick_and_wait`, over the indices left to visit. -/
def scanCompletions : List Nat → World → Rc × World
  | [], w => (.ok, w)
  | i :: is, w =>
    match scanOne g i w with
    | (.ok, w) => scanCompletions is w
    | (.err e, w) => (.err e, w)

/-- `gve_adminq_kick_and_wait`. The loop `for (i = tail; i < head; i++)` has an `int` index
compared as unsigned with the `uint32_t` head (and `i++` taken to wrap), so it visits the
numbers `tail, ..., head - 1`, and none when `head < tail`. -/
def gveAdminqKickAndWait (w : World) : Rc × World :=
  let (tail, w) := readEventCounter g w
  let head := w.priv.adminqProdCnt
  let w := gveAdminqKickCmd g head w
  let (seen, w) := gveAdminqWaitForCmd g head w
  if seen then scanCompletions g (List.range' tail.toNat (head.toNat - tail.toNat)) w
  else
    (.err .enotrecoverable,
      ({ w with priv := { w.priv with adminqTimeouts := w.priv.adminqTimeouts + 1 } }).note .timedOut)

/-- The part of `gve_adminq_issue_cmd` after its space check: copy the command into slot
`adminq_prod_cnt & adminq_mask`, advance the producer counter, and count the opcode read back
from the slot. -/
def writeCommand (cmdOrig : AdminqCommand) (w : World) : Rc × World :=
  let w := w.yield g
  let prod := w.priv.adminqProdCnt
  let slot := (prod &&& w.priv.adminqMask).toNat
  let w := ({ w with
    ring := setSlot w.ring slot cmdOrig
    priv := { w.priv with adminqProdCnt := prod + 1 } }).note
      (.written slot prod w.dev.eventCounter cmdOrig)
  let w := w.yield g
  (.ok, { w with priv := gveAdminqCountOpcode (w.ring slot).opcode w.priv })

/-- `gve_adminq_issue_cmd`. -/
def gveAdminqIssueCmd (cmdOrig : AdminqCommand) (w : World) : Rc × World :=
  let (tail, w) := readEventCounter g w
  if w.priv.adminqProdCnt - tail > w.priv.adminqMask then
    match gveAdminqKickAndWait g w with
    | (.err e, w) => (.err e, w)
    | (.ok, w) =>
      let (tail, w) := readEventCounter g w
      if w.priv.adminqProdCnt - tail > w.priv.adminqMask then (.err .enomem, w.note .noSpace)
      else writeCommand g cmdOrig w
  else writeCommand g cmdOrig w

/-- `gve_adminq_execute_cmd`. -/
def gveAdminqExecuteCmd (cmdOrig : AdminqCommand) (w : World) : Rc × World :=
  let (tail, w) := readEventCounter g w
  let head := w.priv.adminqProdCnt
  let (rc, w) :=
    if tail ≠ head then (.err .einval, w)
    else
      match gveAdminqIssueCmd g cmdOrig w with
      | (.err e, w) => (.err e, w)
      | (.ok, w) => gveAdminqKickAndWait g w
  (rc, w.note (.executed cmdOrig rc))

/-- `gve_adminq_alloc`. `dma` is what `gve_dma_alloc_coherent` gives when the ring page is not
allocated yet; a successful allocation is mapped, so the `adminq == NULL` check cannot fire. -/
def gveAdminqAlloc (dma : Except Errno GveDmaHandle) (w : World) : Rc × World :=
  if w.priv.adminqOk then (.ok, w)
  else
    let mem : Except Errno (GveDmaHandle × World) :=
      match w.priv.aqMem with
      | some h => .ok (h, w)
      | none =>
        match dma with
        | .ok h => .ok (h, { w with ring := fun _ => .zero, dmaLive := w.dmaLive + 1 })
        | .error e => .error e
    match mem with
    | .error e => (.err e, w)
    | .ok (h, w) =>
      let w := { w with priv := { w.priv with
        aqMem := some h
        adminqBusAddr := h.busAddr
        adminqMask := BitVec.ofNat 32 (g.bytes / 64 - 1)
        adminqProdCnt := 0
        adminqCmdFail := 0
        adminqTimeouts := 0
        adminqDescribeDeviceCnt := 0
        adminqCfgDeviceResourcesCnt := 0
        adminqRegisterPageListCnt := 0
        adminqUnregisterPageListCnt := 0
        adminqCreateTxQueueCnt := 0
        adminqCreateRxQueueCnt := 0
        adminqDestroyTxQueueCnt := 0
        adminqDestroyRxQueueCnt := 0
        adminqDcfgDeviceResourcesCnt := 0
        adminqSetDriverParameterCnt := 0
        adminqReportStatsCnt := 0
        adminqReportLinkSpeedCnt := 0
        adminqGetPtypeMapCnt := 0 } }
      let w := w.yield g
      let w := { w with dev := Device.writeAdminqAddr (BitVec.ofNat 32 (h.busAddr.toNat / g.bytes)) }
      (.ok, ({ w with priv := { w.priv with adminqOk := true } }).note .initialized)

/-- `gve_release_adminq`. The device reports the released page at the first read of
`GVE_REG_ADMINQ_ADDR`, so the wait loop makes one read. -/
def gveReleaseAdminq (w : World) : World :=
  if !w.priv.adminqOk then w
  else
    let w := w.yield g
    let w := { w with dev := Device.writeAdminqAddr 0 }
    let w := w.yield g
    { w with
      priv := { w.priv with aqMem := none, adminqBusAddr := 0, adminqOk := false }
      dmaLive := w.dmaLive - 1 }

end transport

end GveAdminq
