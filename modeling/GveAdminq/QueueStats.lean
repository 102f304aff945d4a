import Mathlib.Algebra.Order.Ring.Nat
import GveAdminq.Counters

namespace GveAdminq

/-- `struct gve_rxq_stats`: a receive queue's counters, each a `counter_u64_t`, as
`counter_u64_fetch` returns them. -/
structure GveRxqStats where
  rbytes : BitVec 64 := 0
  rpackets : BitVec 64 := 0
  rxCopybreakCnt : BitVec 64 := 0
  rxFragFlipCnt : BitVec 64 := 0
  rxFragCopyCnt : BitVec 64 := 0
  rxDroppedPkt : BitVec 64 := 0
  rxDroppedPktDescErr : BitVec 64 := 0
  rxDroppedPktMbufAllocFail : BitVec 64 := 0
  deriving DecidableEq, Repr

/-- `struct gve_txq_stats`: a transmit queue's counters. -/
structure GveTxqStats where
  tbytes : BitVec 64 := 0
  tpackets : BitVec 64 := 0
  tsoPacketCnt : BitVec 64 := 0
  txDroppedPkt : BitVec 64 := 0
  txDroppedPktNospaceDevice : BitVec 64 := 0
  txDroppedPktNospaceBufring : BitVec 64 := 0
  deriving DecidableEq, Repr

/-- What gve_sysctl.c reads of a `struct gve_rx_ring`: `com.id`, `fill_cnt` and the
statistics. -/
structure GveRxqView where
  id : BitVec 32 := 0
  fillCnt : BitVec 32 := 0
  stats : GveRxqStats := {}
  deriving DecidableEq, Repr

/-- What gve_sysctl.c reads of a `struct gve_tx_ring`: `com.id`, `req`, `done` and the
statistics. -/
structure GveTxqView where
  id : BitVec 32 := 0
  req : BitVec 32 := 0
  done : BitVec 32 := 0
  stats : GveTxqStats := {}
  deriving DecidableEq, Repr

/-- The queues of `struct gve_priv`: `rx_cfg.num_queues`, `tx_cfg.num_queues` and the ring
arrays `rx` and `tx`. Their structures are declared in gve.h, not under src/; the fields here
are those gve_sysctl.c reads, each with the value sysctl(8) reads through its pointer. -/
structure GveQueueStats where
  rxNumQueues : Nat
  txNumQueues : Nat
  rx : Nat → GveRxqView
  tx : Nat → GveTxqView

/-- `snprintf` into a buffer of `size` bytes: at most `size - 1` characters of the text are
stored before the terminating NUL. The texts formatted here are ASCII. -/
def snprintf (size : Nat) (text : String) : String := ⟨text.data.take (size - 1)⟩

/-- `%d` of a 32-bit id, which `printf` reads as an `int`. -/
def fmtD (x : BitVec 32) : String := toString x.toInt

/-- A read-only node `gve_setup_sysctl` adds under the device: its name and its leaves, each a
name and the value it shows. -/
structure SysctlNode where
  name : String
  leaves : List (String × Nat)
  deriving DecidableEq, Repr

/-- `gve_setup_rxq_sysctl`. -/
def gveSetupRxqSysctl (rxq : GveRxqView) : SysctlNode :=
  let stats := rxq.stats
  { name := snprintf 16 ("rxq" ++ fmtD rxq.id)
    leaves := [
      ("rx_bytes", stats.rbytes.toNat),
      ("rx_packets", stats.rpackets.toNat),
      ("rx_copybreak_cnt", stats.rxCopybreakCnt.toNat),
      ("rx_frag_flip_cnt", stats.rxFragFlipCnt.toNat),
      ("rx_frag_copy_cnt", stats.rxFragCopyCnt.toNat),
      ("rx_dropped_pkt", stats.rxDroppedPkt.toNat),
      ("rx_dropped_pkt_desc_err", stats.rxDroppedPktDescErr.toNat),
      ("rx_dropped_pkt_mbuf_alloc_fail", stats.rxDroppedPktMbufAllocFail.toNat),
      ("num_desc_posted", rxq.fillCnt.toNat)] }

/-- `gve_setup_txq_sysctl`. -/
def gveSetupTxqSysctl (txq : GveTxqView) : SysctlNode :=
  let stats := txq.stats
  { name := snprintf 16 ("txq" ++ fmtD txq.id)
    leaves := [
      ("tx_posted_desc", txq.req.toNat),
      ("tx_completed_desc", txq.done.toNat),
      ("tx_packets", stats.tpackets.toNat),
      ("tx_tso_packets", stats.tsoPacketCnt.toNat),
      ("tx_bytes", stats.tbytes.toNat),
      ("tx_dropped_pkt_nospace_device", stats.txDroppedPktNospaceDevice.toNat),
      ("tx_dropped_pkt_nospace_bufring", stats.txDroppedPktNospaceBufring.toNat)] }

/-- `gve_setup_queue_stat_sysctl`: a node per configured receive queue, then per transmit
queue. -/
def gveSetupQueueStatSysctl (q : GveQueueStats) : List SysctlNode :=
  (List.range q.rxNumQueues).map (fun i => gveSetupRxqSysctl (q.rx i)) ++
    (List.range q.txNumQueues).map fun i => gveSetupTxqSysctl (q.tx i)

/-- `gve_setup_sysctl`: the queue nodes, then `adminq_stats` with the admin queue's
counters. -/
def gveSetupSysctl (p : Priv) (q : GveQueueStats) : List SysctlNode :=
  gveSetupQueueStatSysctl q ++
    [⟨"adminq_stats", gveSetupAdminqStatSysctl.map fun leaf => (leaf.name, (p.stat leaf.stat).toNat)⟩]

/-- The values of the leaves named `name`, node after node. -/
def leafValues (name : String) (nodes : List SysctlNode) : List Nat :=
  nodes.flatMap fun node => (node.leaves.filter fun leaf => leaf.1 = name).map Prod.snd

/-- The six `uint64_t` totals `gve_accum_stats` adds to through its out-parameters. -/
structure AccumStats where
  rpackets : BitVec 64
  rbytes : BitVec 64
  rxDroppedPkt : BitVec 64
  tpackets : BitVec 64
  tbytes : BitVec 64
  txDroppedPkt : BitVec 64
  deriving DecidableEq, Repr

/-- One pass of the receive loop of `gve_accum_stats`, over queue `i`. -/
def accumRxq (q : GveQueueStats) (a : AccumStats) (i : Nat) : AccumStats :=
  let rxqstats := (q.rx i).stats
  { a with
    rpackets := a.rpackets + rxqstats.rpackets
    rbytes := a.rbytes + rxqstats.rbytes
    rxDroppedPkt := a.rxDroppedPkt + rxqstats.rxDroppedPkt }

/-- One pass of the transmit loop of `gve_accum_stats`, over queue `i`. -/
def accumTxq (q : GveQueueStats) (a : AccumStats) (i : Nat) : AccumStats :=
  let txqstats := (q.tx i).stats
  { a with
    tpackets := a.tpackets + txqstats.tpackets
    tbytes := a.tbytes + txqstats.tbytes
    txDroppedPkt := a.txDroppedPkt + txqstats.txDroppedPkt }

/-- `gve_accum_stats`. -/
def gveAccumStats (q : GveQueueStats) (a : AccumStats) : AccumStats :=
  let a := (List.range q.rxNumQueues).foldl (accumRxq q) a
  (List.range q.txNumQueues).foldl (accumTxq q) a

/-- The out-parameters of `gve_accum_stats`. -/
inductive AccumTotal
  | rpackets
  | rbytes
  | rxDroppedPkt
  | tpackets
  | tbytes
  | txDroppedPkt
  deriving DecidableEq, Repr

/-- The total that `t` names. -/
def AccumStats.get (a : AccumStats) : AccumTotal → BitVec 64
  | .rpackets => a.rpackets
  | .rbytes => a.rbytes
  | .rxDroppedPkt => a.rxDroppedPkt
  | .tpackets => a.tpackets
  | .tbytes => a.tbytes
  | .txDroppedPkt => a.txDroppedPkt

namespace AccumTotal

/-- A total the receive loop adds to. -/
def isRx : AccumTotal → Bool
  | .rpackets | .rbytes | .rxDroppedPkt => true
  | .tpackets | .tbytes | .txDroppedPkt => false

/-- The number of queues the loop adding to `t` visits. -/
def numQueues (t : AccumTotal) (q : GveQueueStats) : Nat :=
  if t.isRx then q.rxNumQueues else q.txNumQueues

/-- The counter of queue `i` the loop adds to `t`. -/
def counter : AccumTotal → GveQueueStats → Nat → BitVec 64
  | .rpackets, q, i => (q.rx i).stats.rpackets
  | .rbytes, q, i => (q.rx i).stats.rbytes
  | .rxDroppedPkt, q, i => (q.rx i).stats.rxDroppedPkt
  | .tpackets, q, i => (q.tx i).stats.tpackets
  | .tbytes, q, i => (q.tx i).stats.tbytes
  | .txDroppedPkt, q, i => (q.tx i).stats.txDroppedPkt

/-- The leaf of a queue node that shows the counter `t` sums; the transmit queues' sysctl
nodes show no `tx_dropped_pkt`. -/
def leafName? : AccumTotal → Option String
  | .rpackets => some "rx_packets"
  | .rbytes => some "rx_bytes"
  | .rxDroppedPkt => some "rx_dropped_pkt"
  | .tpackets => some "tx_packets"
  | .tbytes => some "tx_bytes"
  | .txDroppedPkt => none

end AccumTotal

theorem get_accumRxq (q : GveQueueStats) (a : AccumStats) (i : Nat) (t : AccumTotal) :
    (accumRxq q a i).get t = if t.isRx then a.get t + t.counter q i else a.get t := by
  cases t <;> rfl

theorem get_accumTxq (q : GveQueueStats) (a : AccumStats) (i : Nat) (t : AccumTotal) :
    (accumTxq q a i).get t = if t.isRx then a.get t else a.get t + t.counter q i := by
  cases t <;> rfl

/-- A `uint64_t` accumulator holds its start plus the sum of what was added, mod 2^64. -/
theorem foldl_add_toNat (f : Nat → BitVec 64) (l : List Nat) (x : BitVec 64) :
    (l.foldl (fun x i => x + f i) x).toNat = (x.toNat + (l.map fun i => (f i).toNat).sum) % 2 ^ 64 := by
  induction l generalizing x with
  | nil => simp [Nat.mod_eq_of_lt x.isLt]
  | cons i l ih =>
    rw [List.foldl_cons, ih, BitVec.toNat_add, List.map_cons, List.sum_cons, Nat.mod_add_mod,
      Nat.add_assoc]

theorem gveAccumStats_get (q : GveQueueStats) (a : AccumStats) (t : AccumTotal) :
    ((gveAccumStats q a).get t).toNat =
      ((a.get t).toNat + ((List.range (t.numQueues q)).map fun i => (t.counter q i).toNat).sum) %
        2 ^ 64 := by
  have hrx : ∀ b : AccumStats, ((List.range q.rxNumQueues).foldl (accumRxq q) b).get t =
      (List.range q.rxNumQueues).foldl (fun x i => if t.isRx then x + t.counter q i else x) (b.get t) :=
    fun b => (List.foldl_hom (·.get t) _ _ _ b fun x i => (get_accumRxq q x i t).symm).symm
  have htx : ∀ b : AccumStats, ((List.range q.txNumQueues).foldl (accumTxq q) b).get t =
      (List.range q.txNumQueues).foldl (fun x i => if t.isRx then x else x + t.counter q i) (b.get t) :=
    fun b => (List.foldl_hom (·.get t) _ _ _ b fun x i => (get_accumTxq q x i t).symm).symm
  rw [gveAccumStats, htx, hrx, AccumTotal.numQueues]
  have hid : ∀ (l : List Nat) (x : BitVec 64), l.foldl (fun x _ => x) x = x :=
    fun l _ => List.foldl_fixed' (fun _ => rfl) l
  cases t.isRx <;> simp only [Bool.false_eq_true, if_false, if_true, hid] <;>
    exact foldl_add_toNat _ _ _

/-- Among a receive node's leaves, the one named for a total shows the counter it sums. -/
theorem leaves_rxq (q : GveQueueStats) (i : Nat) {t : AccumTotal} {name : String}
    (h : t.leafName? = some name) :
    ((gveSetupRxqSysctl (q.rx i)).leaves.filter fun leaf => leaf.1 = name).map Prod.snd =
      if t.isRx then [(t.counter q i).toNat] else [] := by
  cases t <;> cases h <;> simp [gveSetupRxqSysctl, AccumTotal.isRx, AccumTotal.counter]

theorem leaves_txq (q : GveQueueStats) (i : Nat) {t : AccumTotal} {name : String}
    (h : t.leafName? = some name) :
    ((gveSetupTxqSysctl (q.tx i)).leaves.filter fun leaf => leaf.1 = name).map Prod.snd =
      if t.isRx then [] else [(t.counter q i).toNat] := by
  cases t <;> cases h <;> simp [gveSetupTxqSysctl, AccumTotal.isRx, AccumTotal.counter]

theorem leaves_adminqStats (p : Priv) {t : AccumTotal} {name : String}
    (h : t.leafName? = some name) :
    ((gveSetupAdminqStatSysctl.map fun leaf => (leaf.name, (p.stat leaf.stat).toNat)).filter
      fun leaf => leaf.1 = name).map Prod.snd = [] := by
  cases t <;> cases h <;> simp [gveSetupAdminqStatSysctl]

theorem leafValues_gveSetupSysctl (p : Priv) (q : GveQueueStats) {t : AccumTotal} {name : String}
    (h : t.leafName? = some name) :
    leafValues name (gveSetupSysctl p q) =
      (List.range (t.numQueues q)).map fun i => (t.counter q i).toNat := by
  simp only [leafValues, gveSetupSysctl, gveSetupQueueStatSysctl, List.flatMap_append,
    List.flatMap_map, leaves_rxq q _ h, leaves_txq q _ h, List.flatMap_singleton,
    leaves_adminqStats p h, AccumTotal.numQueues]
  cases t.isRx <;> simp [List.map_eq_flatMap]

/-- `gve_accum_stats` adds to each total, mod 2^64, the counter of every configured queue, and
the leaves of that name in `gve_setup_sysctl`'s nodes show exactly the counters it sums. -/
theorem accum_stats_adds_queue_counters (p : Priv) (q : GveQueueStats) (a : AccumStats)
    (t : AccumTotal) :
    ((gveAccumStats q a).get t).toNat =
        ((a.get t).toNat + ((List.range (t.numQueues q)).map fun i => (t.counter q i).toNat).sum) %
          2 ^ 64 ∧
      ∀ name, t.leafName? = some name →
        leafValues name (gveSetupSysctl p q) =
          (List.range (t.numQueues q)).map fun i => (t.counter q i).toNat :=
  ⟨gveAccumStats_get q a t, fun _ h => leafValues_gveSetupSysctl p q h⟩

end GveAdminq
