import GveAdminq.Queues
import GveAdminq.Execute

namespace GveAdminq

variable (g : AdminqSize)

/-- Every per-opcode issue counter but the compatibility check's counts, mod 2^32, the
commands of its opcode written to the ring since the queue was last initialized. -/
theorem issue_counters_count_writes_since_init {w : World} (hr : Reachable g w)
    (op : AdminqOpcode) (hop : op ≠ .verifyDriverCompatibility) :
    w.priv.issueCnt op = BitVec.ofNat 32 ((sinceInit w.log).countP (AqEvent.wrote op)) :=
  (hr.sessionInv g).counters (.issued op) fun h => hop (AdminqStat.issued.inj h)

theorem issue_counters_count_writes_since_init_after_destroy :
    let g : AdminqSize := ⟨6, by decide⟩
    let w₁ := (gveAdminqAlloc g (.ok ⟨0x1000⟩) (World.init fun _ => [some 1])).2
    let w := (gveAdminqDestroyRxQueue g 0 w₁).2
    w.priv.issueCnt .destroyRxQueue =
      BitVec.ofNat 32 ((sinceInit w.log).countP (AqEvent.wrote .destroyRxQueue)) :=
  issue_counters_count_writes_since_init _
    (.next (.next (.start _) (.alloc (.ok ⟨0x1000⟩))) (.executeCmd _ rfl)) _ (by decide)

/-- `gve_adminq_alloc` leaves `adminq_verify_driver_compatibility_cnt` as it was: after a
compatibility check, a release and a new allocation, the counter still says one while no
command has been written since the queue was initialized. -/
theorem verify_cnt_survives_realloc :
    let g : AdminqSize := ⟨6, by decide⟩
    let w₁ := (gveAdminqAlloc g (.ok ⟨0x1000⟩) (World.init fun _ => [some 1])).2
    let w₂ := (gveAdminqVerifyDriverCompatibility g 64 0x2000 w₁).2
    let w₃ := (gveAdminqAlloc g (.ok ⟨0x1000⟩) (gveReleaseAdminq g w₂)).2
    Reachable g w₃ ∧ w₃.priv.adminqOk = true ∧
      w₃.priv.issueCnt .verifyDriverCompatibility = 1 ∧
      (sinceInit w₃.log).countP (AqEvent.wrote .verifyDriverCompatibility) = 0 :=
  ⟨.next (.next (.next (.next (.start _) (.alloc (.ok ⟨0x1000⟩))) (.executeCmd _ rfl)) .release)
    (.alloc _), by decide⟩

/-- The command a ring write put in its slot. -/
def AqEvent.written? : AqEvent → Option AdminqCommand
  | .written _ _ _ cmd => some cmd
  | _ => none

/-- The commands written to the ring in `log`, oldest first. -/
def writtenCommands (log : List AqEvent) : List AdminqCommand := log.filterMap AqEvent.written?

@[simp] theorem writtenCommands_append (l₁ l₂ : List AqEvent) :
    writtenCommands (l₁ ++ l₂) = writtenCommands l₁ ++ writtenCommands l₂ :=
  List.filterMap_append _ _ _

/-- An `execute_cmd` that passed found the channel idle: it wrote its own command and nothing
else, counted it under its opcode and moved the producer counter by one. -/
theorem executeCmd_writes_of_ok (cmd : AdminqCommand) {w : World} (hinv : RingInv g w)
    (hok : w.priv.adminqOk = true) (h : (gveAdminqExecuteCmd g cmd w).1 = .ok) :
    let r := (gveAdminqExecuteCmd g cmd w).2
    (∃ new, r.log = w.log ++ new ∧ writtenCommands new = [cmd]) ∧
      r.priv.adminqProdCnt = w.priv.adminqProdCnt + 1 ∧
      ∀ op, r.priv.issueCnt op = w.priv.issueCnt op + if op.code = cmd.opcode then 1 else 0 := by
  by_cases hidle : (w.yield g).dev.eventCounter = w.priv.adminqProdCnt
  · obtain ⟨hy₂, -, -, hroom⟩ := yield_yield_of_idle g hinv hok hidle
    obtain ⟨-, hinv₃, -, hlog₃, -, hp₃⟩ := writeCommand_spec g cmd hy₂.ringInv hy₂.ok hroom
    have hok₃ : (writeCommand g cmd ((w.yield g).yield g)).2.priv.adminqOk = true := by
      simp [hp₃, hok]
    obtain ⟨-, -, -, vs, exams, hlog₄, -⟩ := kickAndWait_spec g hinv₃ hok₃
    obtain ⟨-, hprod₄, hcnt₄, -⟩ := kickAndWait_frame g hinv₃ hok₃
    rw [executeCmd_of_idle g cmd hinv hidle]
    refine ⟨⟨_, by rw [World.note_log, hlog₄, hlog₃]; simp; rfl, ?_⟩, by simp [hprod₄, hp₃], fun op => ?_⟩
    · split_ifs <;> simp [writtenCommands, AqEvent.written?, examinedEvents]
    · rw [World.note_priv, hcnt₄, hp₃, issueCnt_countOpcode]
      split_ifs <;> simp
  · rw [executeCmd_of_busy g cmd hidle] at h
    cases h

/-- What a queue loop over `n` queues that returned `0` did: the commands it wrote are, in order,
one for each queue `0, …, n - 1`, all of opcode `op`; it moved `adminq_prod_cnt` by `n` and raised
the issue counter of `op` by `n`, and no other. -/
def WritesEachQueue (op : AdminqOpcode) (n : BitVec 32) (w : World) (r : Rc × World) : Prop :=
  r.1 = .ok → ∃ new, r.2.log = w.log ++ new ∧
    (writtenCommands new).map AdminqCommand.queueId? =
      (List.range n.toNat).map (some ∘ BitVec.ofNat 32) ∧
    (∀ c ∈ writtenCommands new, c.opcode = op.code) ∧
    r.2.priv.adminqProdCnt = w.priv.adminqProdCnt + n ∧
    ∀ o, r.2.priv.issueCnt o = w.priv.issueCnt o + if o = op then n else 0

theorem add_one_add_ofNat (a : BitVec 32) (n : Nat) :
    a + 1 + BitVec.ofNat 32 n = a + BitVec.ofNat 32 (n + 1) := by
  rw [add_assoc, add_comm 1, BitVec.ofNat_add]
  rfl

/-- The shared queue loop from queue `first` on: each pass is one `execute_cmd` that passed. -/
theorem queueLoop_writes (queueFn : BitVec 32 → World → Rc × World)
    (mk : Priv → BitVec 32 → AdminqCommand) (op : AdminqOpcode)
    (hfn : ∀ i w, queueFn i w = gveAdminqExecuteCmd g (mk w.priv i) w)
    (hop : ∀ p i, (mk p i).opcode = op.code) (hid : ∀ p i, (mk p i).queueId? = some i)
    (n first : Nat) {w : World} (hinv : RingInv g w) (hok : w.priv.adminqOk = true)
    (h : (gveAdminqQueueLoop queueFn n first w).1 = .ok) :
    let r := (gveAdminqQueueLoop queueFn n first w).2
    ∃ new, r.log = w.log ++ new ∧
      (writtenCommands new).map AdminqCommand.queueId? =
        (List.range' first n).map (some ∘ BitVec.ofNat 32) ∧
      (∀ c ∈ writtenCommands new, c.opcode = op.code) ∧
      r.priv.adminqProdCnt = w.priv.adminqProdCnt + BitVec.ofNat 32 n ∧
      ∀ o, r.priv.issueCnt o = w.priv.issueCnt o + if o = op then BitVec.ofNat 32 n else 0 := by
  induction n generalizing first w with
  | zero => exact ⟨[], by simp [gveAdminqQueueLoop, writtenCommands]⟩
  | succ n ih =>
    revert h
    simp only [gveAdminqQueueLoop]
    rcases hr : queueFn (BitVec.ofNat 32 first) w with ⟨_ | e, w₁⟩
    · intro h
      rw [hfn] at hr
      obtain ⟨hinv₁, hok₁, -⟩ := executeCmd_calls g (mk w.priv (BitVec.ofNat 32 first)) hinv hok
      obtain ⟨⟨new₁, hlog₁, hw₁⟩, hp₁, hc₁⟩ := executeCmd_writes_of_ok g _ hinv hok (by rw [hr])
      rw [hr] at hinv₁ hok₁ hlog₁ hp₁ hc₁
      obtain ⟨new, hlog, hids, hops, hp, hc⟩ := ih (first + 1) hinv₁ hok₁ h
      have hw : writtenCommands (new₁ ++ new) =
          mk w.priv (BitVec.ofNat 32 first) :: writtenCommands new := by
        rw [writtenCommands_append, hw₁]
        rfl
      refine ⟨new₁ ++ new, by rw [hlog, hlog₁, List.append_assoc], ?_, ?_,
        by rw [hp, hp₁, add_one_add_ofNat], fun o => ?_⟩
      · rw [hw, List.map_cons, hids, hid, List.range'_succ, List.map_cons]
        rfl
      · rw [hw]
        exact List.forall_mem_cons.mpr ⟨hop _ _, hops⟩
      · rw [hc, hc₁, hop]
        by_cases ho : o = op
        · rw [if_pos ho, if_pos ho, if_pos (congrArg _ ho), add_one_add_ofNat]
        · have hcode : o.code ≠ op.code := fun e => ho (AdminqOpcode.code_injective e)
          simp only [if_neg ho, if_neg hcode, add_zero]
    · intro h
      cases h

/-- A queue loop that returns `0` wrote exactly one command per queue, for queues `0, …,
num_queues - 1` in order, and counted each once under its own opcode. -/
theorem queue_loops_write_each_queue_once (c : GveConsts) (n : BitVec 32) {w : World}
    (hr : Reachable g w) (hok : w.priv.adminqOk = true) :
    WritesEachQueue .createRxQueue n w (gveAdminqCreateRxQueues g c n w) ∧
      WritesEachQueue .createTxQueue n w (gveAdminqCreateTxQueues g n w) ∧
      WritesEachQueue .destroyRxQueue n w (gveAdminqDestroyRxQueues g n w) ∧
      WritesEachQueue .destroyTxQueue n w (gveAdminqDestroyTxQueues g n w) := by
  have hinv := (hr.sessionInv g).ringInv
  refine ⟨fun h => ?_, fun h => ?_, fun h => ?_, fun h => ?_⟩
  · simpa only [BitVec.ofNat_toNat, BitVec.setWidth_eq, List.range_eq_range'] using queueLoop_writes g _
      (createRxQueueCmd c) .createRxQueue (fun _ _ => rfl) (fun _ _ => rfl) (fun _ _ => rfl) _ 0 hinv hok h
  · simpa only [BitVec.ofNat_toNat, BitVec.setWidth_eq, List.range_eq_range'] using queueLoop_writes g _
      createTxQueueCmd .createTxQueue (fun _ _ => rfl) (fun _ _ => rfl) (fun _ _ => rfl) _ 0 hinv hok h
  · simpa only [BitVec.ofNat_toNat, BitVec.setWidth_eq, List.range_eq_range'] using queueLoop_writes g _
      (fun _ => destroyRxQueueCmd) .destroyRxQueue (fun _ _ => rfl) (fun _ _ => rfl) (fun _ _ => rfl) _ 0 hinv hok h
  · simpa only [BitVec.ofNat_toNat, BitVec.setWidth_eq, List.range_eq_range'] using queueLoop_writes g _
      (fun _ => destroyTxQueueCmd) .destroyTxQueue (fun _ _ => rfl) (fun _ _ => rfl) (fun _ _ => rfl) _ 0 hinv hok h

theorem queue_loops_write_each_queue_once_after_alloc :
    let g : AdminqSize := ⟨6, by decide⟩
    let c : GveConsts := ⟨2048, 1024, 2, 64, 4096⟩
    let n : BitVec 32 := 3
    let w := (gveAdminqAlloc g (.ok ⟨0x1000⟩) (World.init fun _ => [some 1])).2
    WritesEachQueue .createRxQueue n w (gveAdminqCreateRxQueues g c n w) ∧
      WritesEachQueue .createTxQueue n w (gveAdminqCreateTxQueues g n w) ∧
      WritesEachQueue .destroyRxQueue n w (gveAdminqDestroyRxQueues g n w) ∧
      WritesEachQueue .destroyTxQueue n w (gveAdminqDestroyTxQueues g n w) :=
  queue_loops_write_each_queue_once _ _ _ (.next (.start _) (.alloc _)) rfl

/-- A `SYSCTL_ADD_U32` leaf: its name and the `gve_priv` counter its pointer reads. -/
structure SysctlU32 where
  name : String
  stat : AdminqStat
  deriving DecidableEq, Repr

/-- The leaves `gve_setup_adminq_stat_sysctl` adds under the read-only node `adminq_stats`, in
order. -/
def gveSetupAdminqStatSysctl : List SysctlU32 := [
  ⟨"adminq_prod_cnt", .prodCnt⟩,
  ⟨"adminq_cmd_fail", .cmdFail⟩,
  ⟨"adminq_timeouts", .timeouts⟩,
  ⟨"adminq_describe_device_cnt", .issued .describeDevice⟩,
  ⟨"adminq_cfg_device_resources_cnt", .issued .configureDeviceResources⟩,
  ⟨"adminq_register_page_list_cnt", .issued .registerPageList⟩,
  ⟨"adminq_unregister_page_list_cnt", .issued .unregisterPageList⟩,
  ⟨"adminq_create_tx_queue_cnt", .issued .createTxQueue⟩,
  ⟨"adminq_create_rx_queue_cnt", .issued .createRxQueue⟩,
  ⟨"adminq_destroy_tx_queue_cnt", .issued .destroyTxQueue⟩,
  ⟨"adminq_destroy_rx_queue_cnt", .issued .destroyRxQueue⟩,
  ⟨"adminq_dcfg_device_resources_cnt", .issued .deconfigureDeviceResources⟩,
  ⟨"adminq_set_driver_parameter_cnt", .issued .setDriverParameter⟩,
  ⟨"adminq_verify_driver_compatibility_cnt", .issued .verifyDriverCompatibility⟩]

/-- Only the leaf named for it reads the compatibility check's counter. -/
theorem stat_ne_verify_of_name {leaf : SysctlU32} (hleaf : leaf ∈ gveSetupAdminqStatSysctl)
    (hname : leaf.name ≠ "adminq_verify_driver_compatibility_cnt") :
    leaf.stat ≠ .issued .verifyDriverCompatibility := by
  revert leaf
  decide

/-- Every `adminq_stats` leaf but the compatibility check's shows, mod 2^32, the number of events
of its kind since the queue was last initialized. -/
theorem adminq_stats_count_events_since_init {w : World} (hr : Reachable g w) :
    ∀ leaf ∈ gveSetupAdminqStatSysctl, leaf.name ≠ "adminq_verify_driver_compatibility_cnt" →
      w.priv.stat leaf.stat =
        BitVec.ofNat 32 ((sinceInit w.log).countP (AqEvent.counts leaf.stat)) :=
  fun _ hleaf hname => (hr.sessionInv g).counters _ (stat_ne_verify_of_name hleaf hname)

theorem adminq_stats_count_events_since_init_after_timeout :
    let g : AdminqSize := ⟨6, by decide⟩
    let w₁ := (gveAdminqAlloc g (.ok ⟨0x1000⟩) (World.init fun _ => [])).2
    let w := (gveAdminqDestroyRxQueue g 0 w₁).2
    ∀ leaf ∈ gveSetupAdminqStatSysctl, leaf.name ≠ "adminq_verify_driver_compatibility_cnt" →
      w.priv.stat leaf.stat =
        BitVec.ofNat 32 ((sinceInit w.log).countP (AqEvent.counts leaf.stat)) :=
  adminq_stats_count_events_since_init _
    (.next (.next (.start _) (.alloc (.ok ⟨0x1000⟩))) (.executeCmd _ rfl))

end GveAdminq
