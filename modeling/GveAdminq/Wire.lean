import Mathlib.Data.BitVec

/-! The admin queue's wire vocabulary (gve_adminq.h): opcodes, device status codes, the
64-byte command record with its per-opcode payload union, and the errno values the admin
queue returns. Fields hold host-order values: the builders write each with `htobe*` and the
device and `gve_adminq_issue_cmd` read it back with `be*toh`, so the byte order is left out. -/

namespace GveAdminq

/-- The errno values the admin queue returns. Their numbers come from the system headers,
which are not part of this repository; only their being distinct and nonzero matters. -/
inductive Errno
  | einval | eagain | etime | eacces | enomem | eopnotsupp | enotrecoverable
  deriving DecidableEq, Repr

/-- A C `int` return code: `0`, or an errno. -/
inductive Rc
  | ok
  | err (e : Errno)
  deriving DecidableEq, Repr

/-- `enum gve_adminq_opcodes`. -/
inductive AdminqOpcode
  | describeDevice | configureDeviceResources | registerPageList | unregisterPageList
  | createTxQueue | createRxQueue | destroyTxQueue | destroyRxQueue
  | deconfigureDeviceResources | setDriverParameter | reportStats | reportLinkSpeed
  | getPtypeMap | verifyDriverCompatibility
  deriving DecidableEq, Repr

namespace AdminqOpcode

def code : AdminqOpcode → BitVec 32
  | describeDevice => 0x1
  | configureDeviceResources => 0x2
  | registerPageList => 0x3
  | unregisterPageList => 0x4
  | createTxQueue => 0x5
  | createRxQueue => 0x6
  | destroyTxQueue => 0x7
  | destroyRxQueue => 0x8
  | deconfigureDeviceResources => 0x9
  | setDriverParameter => 0xB
  | reportStats => 0xC
  | reportLinkSpeed => 0xD
  | getPtypeMap => 0xE
  | verifyDriverCompatibility => 0xF

def all : List AdminqOpcode :=
  [describeDevice, configureDeviceResources, registerPageList, unregisterPageList,
    createTxQueue, createRxQueue, destroyTxQueue, destroyRxQueue, deconfigureDeviceResources,
    setDriverParameter, reportStats, reportLinkSpeed, getPtypeMap, verifyDriverCompatibility]

/-- The case of `issue_cmd`'s opcode switch a value falls into; `none` is its `default`. -/
def ofCode? (c : BitVec 32) : Option AdminqOpcode := all.find? (·.code = c)

@[simp] theorem ofCode?_code (op : AdminqOpcode) : ofCode? op.code = some op := by
  cases op <;> rfl

theorem code_injective {a b : AdminqOpcode} (h : a.code = b.code) : a = b :=
  Option.some.inj <| by rw [← ofCode?_code a, ← ofCode?_code b, h]

theorem ofCode?_eq_some {c : BitVec 32} {op : AdminqOpcode} :
    ofCode? c = some op ↔ op.code = c := by
  constructor
  · intro h
    simpa using List.find?_some h
  · rintro rfl
    exact ofCode?_code op

end AdminqOpcode

/-- `enum gve_adminq_statuses`. -/
inductive AdminqStatus
  | unset | passed
  | errorAborted | errorAlreadyExists | errorCancelled | errorDataloss
  | errorDeadlineExceeded | errorFailedPrecondition | errorInternalError
  | errorInvalidArgument | errorNotFound | errorOutOfRange | errorPermissionDenied
  | errorUnauthenticated | errorResourceExhausted | errorUnavailable
  | errorUnimplemented | errorUnknownError
  deriving DecidableEq, Repr

namespace AdminqStatus

def code : AdminqStatus → BitVec 32
  | unset => 0x0
  | passed => 0x1
  | errorAborted => 0xFFFFFFF0
  | errorAlreadyExists => 0xFFFFFFF1
  | errorCancelled => 0xFFFFFFF2
  | errorDataloss => 0xFFFFFFF3
  | errorDeadlineExceeded => 0xFFFFFFF4
  | errorFailedPrecondition => 0xFFFFFFF5
  | errorInternalError => 0xFFFFFFF6
  | errorInvalidArgument => 0xFFFFFFF7
  | errorNotFound => 0xFFFFFFF8
  | errorOutOfRange => 0xFFFFFFF9
  | errorPermissionDenied => 0xFFFFFFFA
  | errorUnauthenticated => 0xFFFFFFFB
  | errorResourceExhausted => 0xFFFFFFFC
  | errorUnavailable => 0xFFFFFFFD
  | errorUnimplemented => 0xFFFFFFFE
  | errorUnknownError => 0xFFFFFFFF

def all : List AdminqStatus :=
  [unset, passed, errorAborted, errorAlreadyExists, errorCancelled, errorDataloss,
    errorDeadlineExceeded, errorFailedPrecondition, errorInternalError, errorInvalidArgument,
    errorNotFound, errorOutOfRange, errorPermissionDenied, errorUnauthenticated,
    errorResourceExhausted, errorUnavailable, errorUnimplemented, errorUnknownError]

/-- The case of `parse_err`'s status switch a value falls into; `none` is its `default`. -/
def ofCode? (c : BitVec 32) : Option AdminqStatus := all.find? (·.code = c)

@[simp] theorem ofCode?_code (s : AdminqStatus) : ofCode? s.code = some s := by
  cases s <;> rfl

theorem ofCode?_eq_some {c : BitVec 32} {s : AdminqStatus} :
    ofCode? c = some s ↔ s.code = c := by
  constructor
  · intro h
    simpa using List.find?_some h
  · rintro rfl
    exact ofCode?_code s

end AdminqStatus

/-! Payload structures. A field left out of a C designated initializer is zero, and so is
its default here; padding bytes are always zero and are not fields. -/

/-- `struct gve_adminq_describe_device`. -/
structure GveAdminqDescribeDevice where
  deviceDescriptorAddr : BitVec 64 := 0
  deviceDescriptorVersion : BitVec 32 := 0
  availableLength : BitVec 32 := 0
  deriving DecidableEq, Repr

/-- `struct gve_adminq_configure_device_resources`. -/
structure GveAdminqConfigureDeviceResources where
  counterArray : BitVec 64 := 0
  irqDbAddr : BitVec 64 := 0
  numCounters : BitVec 32 := 0
  numIrqDbs : BitVec 32 := 0
  irqDbStride : BitVec 32 := 0
  ntfyBlkMsixBaseIdx : BitVec 32 := 0
  queueFormat : BitVec 8 := 0
  deriving DecidableEq, Repr

/-- `struct gve_adminq_register_page_list`. -/
structure GveAdminqRegisterPageList where
  pageListId : BitVec 32 := 0
  numPages : BitVec 32 := 0
  pageAddressListAddr : BitVec 64 := 0
  pageSize : BitVec 64 := 0
  deriving DecidableEq, Repr

/-- `struct gve_adminq_unregister_page_list`. -/
structure GveAdminqUnregisterPageList where
  pageListId : BitVec 32 := 0
  deriving DecidableEq, Repr

/-- `struct gve_adminq_create_tx_queue`. -/
structure GveAdminqCreateTxQueue where
  queueId : BitVec 32 := 0
  reserved : BitVec 32 := 0
  queueResourcesAddr : BitVec 64 := 0
  txRingAddr : BitVec 64 := 0
  queuePageListId : BitVec 32 := 0
  ntfyId : BitVec 32 := 0
  txCompRingAddr : BitVec 64 := 0
  txRingSize : BitVec 16 := 0
  txCompRingSize : BitVec 16 := 0
  deriving DecidableEq, Repr

/-- `struct gve_adminq_create_rx_queue`. -/
structure GveAdminqCreateRxQueue where
  queueId : BitVec 32 := 0
  index : BitVec 32 := 0
  reserved : BitVec 32 := 0
  ntfyId : BitVec 32 := 0
  queueResourcesAddr : BitVec 64 := 0
  rxDescRingAddr : BitVec 64 := 0
  rxDataRingAddr : BitVec 64 := 0
  queuePageListId : BitVec 32 := 0
  rxRingSize : BitVec 16 := 0
  packetBufferSize : BitVec 16 := 0
  rxBuffRingSize : BitVec 16 := 0
  enableRsc : BitVec 8 := 0
  deriving DecidableEq, Repr

/-- `struct gve_adminq_destroy_tx_queue` and `struct gve_adminq_destroy_rx_queue`. -/
structure GveAdminqDestroyQueue where
  queueId : BitVec 32 := 0
  deriving DecidableEq, Repr

/-- `struct gve_adminq_set_driver_parameter`. -/
structure GveAdminqSetDriverParameter where
  parameterType : BitVec 32 := 0
  parameterValue : BitVec 64 := 0
  deriving DecidableEq, Repr

/-- `struct gve_adminq_verify_driver_compatibility`. -/
structure GveAdminqVerifyDriverCompatibility where
  driverInfoLen : BitVec 64 := 0
  driverInfoAddr : BitVec 64 := 0
  deriving DecidableEq, Repr

/-- The payload union of `union gve_adminq_command`, tagged by the member last written.
`reserved` is the all-zero payload `memset` leaves when no member is written. -/
inductive AdminqPayload
  | reserved
  | describeDevice (c : GveAdminqDescribeDevice)
  | configureDeviceResources (c : GveAdminqConfigureDeviceResources)
  | regPageList (c : GveAdminqRegisterPageList)
  | unregPageList (c : GveAdminqUnregisterPageList)
  | createTxQueue (c : GveAdminqCreateTxQueue)
  | createRxQueue (c : GveAdminqCreateRxQueue)
  | destroyTxQueue (c : GveAdminqDestroyQueue)
  | destroyRxQueue (c : GveAdminqDestroyQueue)
  | setDriverParam (c : GveAdminqSetDriverParameter)
  | verifyDriverCompatibility (c : GveAdminqVerifyDriverCompatibility)
  deriving DecidableEq, Repr

/-- `union gve_adminq_command`: the 64-byte ring slot. -/
structure AdminqCommand where
  opcode : BitVec 32
  status : BitVec 32
  payload : AdminqPayload
  deriving DecidableEq, Repr

namespace AdminqCommand

/-- A `memset(&cmd, 0, sizeof(cmd))` record; also what a zeroed DMA page holds. -/
def zero : AdminqCommand := ⟨0, 0, .reserved⟩

/-- What the device reads of a command: all but the status it writes back. -/
def request (c : AdminqCommand) : BitVec 32 × AdminqPayload := (c.opcode, c.payload)

/-- The `queue_id` of the four per-queue commands. -/
def queueId? (c : AdminqCommand) : Option (BitVec 32) :=
  match c.payload with
  | .createTxQueue p => some p.queueId
  | .createRxQueue p => some p.queueId
  | .destroyTxQueue p | .destroyRxQueue p => some p.queueId
  | _ => none

end AdminqCommand

end GveAdminq
