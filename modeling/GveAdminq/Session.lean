import GveAdminq.TransportSpec
import GveAdminq.Descriptor

namespace GveAdminq

/-- The events since the queue was last (re)initialized. -/
def sinceInit (log : List AqEvent) : List AqEvent :=
  log.foldl (fun acc e => if e.isInit then [] else acc ++ [e]) []

theorem foldl_not_isInit {new : List AqEvent} (h : ∀ e ∈ new, e.isInit = false)
    (acc : List AqEvent) :
    new.foldl (fun acc e => if e.isInit then [] else acc ++ [e]) acc = acc ++ new := by
  induction new generalizing acc with
  | nil => simp
  | cons e es ih =>
    rw [List.foldl_cons, if_neg (by simp [h e (.head _)]), ih (fun e he => h e (.tail _ he))]
    simp

theorem sinceInit_append {log new : List AqEvent} (h : ∀ e ∈ new, e.isInit = false) :
    sinceInit (log ++ new) = sinceInit log ++ new := by
  rw [sinceInit, List.foldl_append, foldl_not_isInit h]; rfl

@[simp] theorem sinceInit_initialized (log : List AqEvent) :
    sinceInit (log ++ [.initialized]) = [] := by
  simp [sinceInit, AqEvent.isInit]

/-- The requests of the commands written since the queue was last initialized, in order. -/
def issuedRequests (log : List AqEvent) : List (BitVec 32 × AdminqPayload) :=
  (sinceInit log).filterMap AqEvent.request?

variable (g : AdminqSize)

/-- `gve_adminq_alloc` leaves the world as it is, or initializes the queue on a ring page and
resets every counter but the compatibility check's. -/
theorem alloc_spec (dma : Except Errno GveDmaHandle) (w : World) :
    let r := gveAdminqAlloc g dma w
    r.2 = w ∨
      r.2.log = w.log ++ [.initialized] ∧ r.2.priv.adminqOk = true ∧ r.2.priv.adminqMask = g.mask ∧
      r.2.priv.adminqProdCnt = 0 ∧ r.2.dev.eventCounter = 0 ∧ r.2.dev.doorbell = 0 ∧
      r.2.priv.adminqCmdFail = 0 ∧ r.2.priv.adminqTimeouts = 0 ∧
      (∀ op, op ≠ .verifyDriverCompatibility → r.2.priv.issueCnt op = 0) ∧
      r.2.priv.adminqVerifyDriverCompatibilityCnt = w.priv.adminqVerifyDriverCompatibilityCnt ∧
      w.priv.adminqOk = false ∧ r.2.priv.aqMem.isSome ∧
      r.2.dmaLive = if w.priv.aqMem.isSome then w.dmaLive else w.dmaLive + 1 := by
  have hcnt : ∀ op, op ≠ AdminqOpcode.verifyDriverCompatibility → ∀ p : Priv,
      ({ p with
        adminqDescribeDeviceCnt := 0, adminqCfgDeviceResourcesCnt := 0
        adminqRegisterPageListCnt := 0, adminqUnregisterPageListCnt := 0
        adminqCreateTxQueueCnt := 0, adminqCreateRxQueueCnt := 0, adminqDestroyTxQueueCnt := 0
        adminqDestroyRxQueueCnt := 0, adminqDcfgDeviceResourcesCnt := 0
        adminqSetDriverParameterCnt := 0, adminqReportStatsCnt := 0
        adminqReportLinkSpeedCnt := 0, adminqGetPtypeMapCnt := 0 } : Priv).issueCnt op = 0 := by
    intro op hop p
    cases op <;> first | rfl | exact absurd rfl hop
  unfold gveAdminqAlloc
  split
  · exact .inl rfl
  · rename_i hoff
    rcases haq : w.priv.aqMem with _ | h
    · cases dma with
      | error e => exact .inl (by simp [haq])
      | ok h =>
        exact .inr (by simp [haq, World.note, hoff]; exact ⟨rfl, rfl, rfl, fun op hop => hcnt op hop _⟩)
    · exact .inr (by simp [haq, World.note, hoff]; exact ⟨rfl, rfl, rfl, fun op hop => hcnt op hop _⟩)

/-- `gve_release_adminq` leaves an idle device and touches neither the log nor the counters;
unless the queue was not up, it marks it released and frees the ring page. -/
theorem release_spec (w : World) (hinv : RingInv g w) :
    let r := gveReleaseAdminq g w
    RingInv g r ∧ r.log = w.log ∧ (∀ s, r.priv.stat s = w.priv.stat s) ∧
      (w.priv.adminqOk = false → r = w) ∧
      (w.priv.adminqOk = true →
        r.priv.adminqOk = false ∧ r.priv.aqMem = none ∧ r.dmaLive = w.dmaLive - 1) := by
  unfold gveReleaseAdminq
  split
  · rename_i h
    exact ⟨hinv, rfl, fun _ => rfl, fun _ => rfl, fun h' => by simp [h'] at h⟩
  · let w₂ : World := { (w.yield g) with dev := Device.writeAdminqAddr 0 }
    have hd := drains_yield g w₂
    have hev : (w₂.yield g).dev.eventCounter = (w₂.yield g).dev.doorbell := by
      rw [hd.eventCounter_of_idle rfl, hd.doorbell]; rfl
    refine ⟨⟨?_, fun h => by simp at h, fun h => by simp at h, fun _ => hev⟩, by simp [w₂],
      fun s => ?_, fun h => by simp_all, fun _ => by simp [w₂]⟩
    · simp only [kicked, hev, BitVec.sub_self]
      exact Nat.zero_le _
    · cases s with
      | issued op => cases op <;> simp [w₂, Priv.stat, Priv.issueCnt]
      | _ => simp [w₂, Priv.stat]

/-- The admin queue's entry points as the rest of the driver calls them. The command functions
write through `priv->adminq`, so they are called only while the queue is allocated; each
builder is an `execute_cmd` of its command, and `describe_device` and `register_page_list`
also allocate and free a buffer of their own. `gve_dma_alloc_coherent` may fail at any
allocation; a registration that would store past its staging buffer takes no step. -/
inductive Step : World → World → Prop
  | alloc (dma : Except Errno GveDmaHandle) {w : World} : Step w (gveAdminqAlloc g dma w).2
  | release {w : World} : Step w (gveReleaseAdminq g w)
  | issueCmd (cmd : AdminqCommand) {w : World} (h : w.priv.adminqOk = true) :
      Step w (gveAdminqIssueCmd g cmd w).2
  | kickAndWait {w : World} (h : w.priv.adminqOk = true) : Step w (gveAdminqKickAndWait g w).2
  | executeCmd (cmd : AdminqCommand) {w : World} (h : w.priv.adminqOk = true) :
      Step w (gveAdminqExecuteCmd g cmd w).2
  | describeDevice (c : GveConsts) (dma : Except Errno GveDmaHandle) (desc : Nat → BitVec 8)
      {w : World} (h : w.priv.adminqOk = true) : Step w (gveAdminqDescribeDevice g c dma desc w).2
  | registerPageList (c : GveConsts) (dma : Except Errno GveDmaHandle) (qpl : GveQueuePageList)
      {w : World} {r : Rc × World} (h : w.priv.adminqOk = true)
      (hr : gveAdminqRegisterPageList g c dma qpl w = some r) : Step w r.2

inductive Reachable : World → Prop
  | start (env : Nat → List (Option (BitVec 32))) : Reachable (World.init env)
  | next {w w' : World} : Reachable w → Step g w w' → Reachable w'

/-- The run invariant. Every statistic but the compatibility check's issue counter counts the
events since the last initialization, and the ring's outstanding window is what is left of the
requests written since then once the device consumed a prefix. -/
structure SessionInv (w : World) : Prop where
  ringInv : RingInv g w
  safe : ∀ e ∈ w.log, e.Safe g
  counters : ∀ s, s ≠ .issued .verifyDriverCompatibility →
    w.priv.stat s = BitVec.ofNat 32 ((sinceInit w.log).countP (AqEvent.counts s))
  fifo : w.priv.adminqOk = true →
    ∃ c ≤ (issuedRequests w.log).length, window g w = (issuedRequests w.log).drop c

theorem sessionInv_init (env : Nat → List (Option (BitVec 32))) : SessionInv g (World.init env) := by
  refine ⟨⟨Nat.le_refl _, fun h => by simp [World.init] at h, fun h => by simp [World.init] at h,
    fun _ => rfl⟩, by simp [World.init], fun s _ => ?_, fun h => by simp [World.init] at h⟩
  cases s with
  | issued op => cases op <;> rfl
  | _ => rfl

/-- The run invariant reads of a world only its log, ring and device and the admin queue's own
fields of the softc. -/
theorem SessionInv.of_frame {w w' : World} (hs : SessionInv g w) (hlog : w'.log = w.log)
    (hring : w'.ring = w.ring) (hdev : w'.dev = w.dev) (hok : w'.priv.adminqOk = w.priv.adminqOk)
    (hmask : w'.priv.adminqMask = w.priv.adminqMask) (hstat : ∀ s, w'.priv.stat s = w.priv.stat s) :
    SessionInv g w' := by
  have hd : Drains w w' := .of_eq hok hmask (hstat .prodCnt) hdev hring
  refine ⟨hd.ringInv g hs.ringInv, hlog ▸ hs.safe,
    fun s h => by rw [hstat, hlog, hs.counters s h], fun h => ?_⟩
  rw [hlog, window_congr g hring (by rw [hdev]) (hstat .prodCnt)]
  exact hs.fifo (hok ▸ h)

theorem SessionInv.keeps {w w' : World} (hs : SessionInv g w) (hok : w.priv.adminqOk = true)
    (hk : Keeps g w w') : SessionInv g w' := by
  obtain ⟨new, hlog, hnew, hstat, k, hw⟩ := hk.accounted
  have hsince : sinceInit w'.log = sinceInit w.log ++ new := by
    rw [hlog, sinceInit_append fun e he => AqEvent.isInit_of_transport (hnew e he).2]
  refine ⟨hk.ringInv, fun e he => ?_, fun s hs' => ?_, fun _ => ?_⟩
  · rw [hlog] at he
    rcases List.mem_append.mp he with he | he
    exacts [hs.safe e he, (hnew e he).1]
  · rw [hstat, hs.counters s hs', hsince, List.countP_append, BitVec.ofNat_add]
  · have hissued : issuedRequests w'.log =
        issuedRequests w.log ++ new.filterMap AqEvent.request? := by
      rw [issuedRequests, issuedRequests, hsince, List.filterMap_append]
    obtain ⟨c, hc, hwc⟩ := hs.fifo hok
    obtain ⟨m, hm, hdrop⟩ := exists_drop_eq_le (issuedRequests w'.log) (c + k)
    refine ⟨m, hm, ?_⟩
    rw [hw, hwc, ← hdrop, hissued, ← List.drop_append_of_le_length hc, List.drop_drop]

theorem SessionInv.noteExecuted {w : World} (hs : SessionInv g w) (cmd : AdminqCommand) (rc : Rc) :
    SessionInv g (w.note (.executed cmd rc)) := by
  have hsince : sinceInit (w.log ++ [.executed cmd rc]) = sinceInit w.log ++ [.executed cmd rc] :=
    sinceInit_append (by simp [AqEvent.isInit])
  refine ⟨(drains_note _ w).ringInv g hs.ringInv, fun e he => ?_, fun s hs' => ?_, fun hok => ?_⟩
  · rcases List.mem_append.mp he with he | he
    · exact hs.safe e he
    · simp only [List.mem_singleton] at he; subst he; trivial
  · have hc : AqEvent.counts s (.executed cmd rc) = false := by cases s <;> rfl
    simp [hsince, hs.counters s hs', hc]
  · have hi : issuedRequests (w.note (.executed cmd rc)).log = issuedRequests w.log := by
      simp [issuedRequests, hsince, AqEvent.request?]
    rw [hi]
    exact hs.fifo hok

theorem SessionInv.executeCmd {w : World} (hs : SessionInv g w) (hok : w.priv.adminqOk = true)
    (cmd : AdminqCommand) : SessionInv g (gveAdminqExecuteCmd g cmd w).2 := by
  obtain ⟨w', hk, he⟩ := executeCmd_keeps g cmd hs.ringInv hok
  rw [he]
  exact (hs.keeps g hok hk).noteExecuted g cmd _

theorem SessionInv.alloc {w : World} (hs : SessionInv g w) (dma : Except Errno GveDmaHandle) :
    SessionInv g (gveAdminqAlloc g dma w).2 := by
  rcases alloc_spec g dma w with h | ⟨hlog, hok, hmask, hprod, hev, hdb, hfail, hto, hcnt, -⟩
  · rw [h]; exact hs
  · refine ⟨⟨?_, fun _ => ?_, fun _ => hmask, fun h => by simp [hok] at h⟩, fun e he => ?_,
      fun s hs' => ?_, fun _ => ⟨0, Nat.zero_le _, ?_⟩⟩
    · simp [kicked, outstanding, hev, hdb, hprod]
    · simp [outstanding, hev, hprod]
    · rw [hlog] at he
      rcases List.mem_append.mp he with he | he
      · exact hs.safe e he
      · simp only [List.mem_singleton] at he; subst he; trivial
    · have hzero : (gveAdminqAlloc g dma w).2.priv.stat s = 0 := by
        cases s with
        | prodCnt => exact hprod
        | cmdFail => exact hfail
        | timeouts => exact hto
        | issued op => exact hcnt op fun h => hs' (h ▸ rfl)
      simp [hlog, hzero]
    · simp [window, windowFrom, outstanding, hev, hprod, issuedRequests, hlog]

theorem SessionInv.release {w : World} (hs : SessionInv g w) :
    SessionInv g (gveReleaseAdminq g w) := by
  obtain ⟨hinv, hlog, hstat, hoff, hon⟩ := release_spec g w hs.ringInv
  refine ⟨hinv, hlog ▸ hs.safe, fun s hs' => by rw [hstat, hlog, hs.counters s hs'],
    fun h => ?_⟩
  cases hw : w.priv.adminqOk
  · have he := hoff hw
    rw [he] at h ⊢
    exact hs.fifo h
  · rw [(hon hw).1] at h
    cases h

/-- `gve_adminq_describe_device` is an `execute_cmd` between the allocation and the release of
its descriptor buffer, then a negotiation that leaves the admin queue's fields alone. -/
theorem describeDevice_keeps {w : World} (hs : SessionInv g w) (hok : w.priv.adminqOk = true)
    (c : GveConsts) (dma : Except Errno GveDmaHandle) (desc : Nat → BitVec 8) :
    let r := (gveAdminqDescribeDevice g c dma desc w).2
    SessionInv g r ∧ r.priv.adminqOk = true ∧ r.priv.aqMem = w.priv.aqMem ∧
      r.dmaLive = w.dmaLive := by
  cases dma with
  | error e => exact ⟨hs, hok, rfl, rfl⟩
  | ok descMem =>
    have hs₁ : SessionInv g { w with dmaLive := w.dmaLive + 1 } :=
      hs.of_frame g rfl rfl rfl rfl rfl fun _ => rfl
    obtain ⟨hok₂, haq₂, hm₂⟩ := executeCmd_frame g (describeDeviceCmd g descMem) hs₁.ringInv hok
    have hs₂ := hs₁.executeCmd g hok (describeDeviceCmd g descMem)
    unfold gveAdminqDescribeDevice
    dsimp only
    generalize gveAdminqExecuteCmd g (describeDeviceCmd g descMem)
      { w with dmaLive := w.dmaLive + 1 } = x at hs₂ hok₂ haq₂ hm₂ ⊢
    obtain ⟨rc, w₂⟩ := x
    dsimp only at hs₂ hok₂ haq₂ hm₂ ⊢
    split_ifs
    · exact ⟨hs₂.of_frame g rfl rfl rfl rfl rfl fun _ => rfl, hok₂, haq₂, by simp [hm₂]⟩
    · obtain ⟨h₁, h₂, h₃, h₄⟩ := describeDeviceNegotiate_adminq c desc w₂.priv
      exact ⟨hs₂.of_frame g rfl rfl rfl h₁ h₃ h₄, h₁.trans hok₂, h₂.trans haq₂, by simp [hm₂]⟩

/-- `gve_adminq_register_page_list` is an `execute_cmd` between the allocation and the release
of its staging buffer. -/
theorem registerPageList_keeps {w : World} (hs : SessionInv g w) (hok : w.priv.adminqOk = true)
    (c : GveConsts) (dma : Except Errno GveDmaHandle) (qpl : GveQueuePageList) {r : Rc × World}
    (hr : gveAdminqRegisterPageList g c dma qpl w = some r) :
    SessionInv g r.2 ∧ r.2.priv.adminqOk = true ∧ r.2.priv.aqMem = w.priv.aqMem ∧
      r.2.dmaLive = w.dmaLive := by
  rcases registerPageList_cases g hr with rfl | ⟨h, pageList, -, rfl⟩
  · exact ⟨hs, hok, rfl, rfl⟩
  · have hs₁ : SessionInv g
        { w with dmaLive := w.dmaLive + 1, dmaMem := Function.update w.dmaMem h.busAddr pageList } :=
      hs.of_frame g rfl rfl rfl rfl rfl fun _ => rfl
    have hs₂ := hs₁.executeCmd g hok (registerPageListCmd c h qpl)
    obtain ⟨hok₂, haq₂, hm₂⟩ := executeCmd_frame g (registerPageListCmd c h qpl) hs₁.ringInv hok
    exact ⟨hs₂.of_frame g rfl rfl rfl rfl rfl fun _ => rfl, hok₂, haq₂, by simp [hm₂]⟩

theorem SessionInv.step {w w' : World} (hs : SessionInv g w) (h : Step g w w') :
    SessionInv g w' := by
  cases h with
  | alloc dma => exact hs.alloc g dma
  | release => exact hs.release g
  | issueCmd cmd hok => exact hs.keeps g hok (issueCmd_keeps g cmd hs.ringInv hok)
  | kickAndWait hok => exact hs.keeps g hok (kickAndWait_keeps g hs.ringInv hok)
  | executeCmd cmd hok =>
    exact hs.executeCmd g hok cmd
  | describeDevice c dma desc hok => exact (describeDevice_keeps g hs hok c dma desc).1
  | registerPageList c dma qpl hok hr => exact (registerPageList_keeps g hs hok c dma qpl hr).1

theorem Reachable.sessionInv {w : World} (h : Reachable g w) : SessionInv g w := by
  induction h with
  | start env => exact sessionInv_init g env
  | next _ step ih => exact ih.step g step

/-- No write lands on a command the device has not consumed: each slot written is at most
`adminq_mask` commands ahead of the device, and the ENOMEM re-check never fires. -/
theorem ring_never_overwrites_unconsumed {w : World} (hr : Reachable g w) :
    (w.priv.adminqOk = true →
      w.priv.adminqMask = g.mask ∧ outstanding w ≤ w.priv.adminqMask.toNat + 1) ∧
    AqEvent.noSpace ∉ w.log ∧
    ∀ slot prod ev cmd, AqEvent.written slot prod ev cmd ∈ w.log →
      slot = (prod &&& g.mask).toNat ∧ (prod - ev).toNat ≤ g.mask.toNat ∧
      ∀ j < (prod - ev).toNat, slot ≠ ((ev + BitVec.ofNat 32 j) &&& g.mask).toNat := by
  have hs := hr.sessionInv g
  have hpos := g.slots_pos
  refine ⟨fun hok => ?_, fun h => hs.safe _ h, fun slot prod ev cmd h => ?_⟩
  · have hmask := hs.ringInv.mask_eq hok
    have hb := hs.ringInv.bounded hok
    refine ⟨hmask, ?_⟩
    rw [hmask, AdminqSize.mask_toNat]
    omega
  · obtain ⟨rfl, hlt⟩ := hs.safe _ h
    refine ⟨rfl, by rw [AdminqSize.mask_toNat]; omega, fun j hj => ?_⟩
    have hslot := g.slot_ne ev hlt hj
    rwa [add_ofNat_sub_toNat] at hslot

theorem ring_never_overwrites_unconsumed_after_execute :
    let g : AdminqSize := ⟨6, by decide⟩
    let w₁ := (gveAdminqAlloc g (.ok ⟨0x1000⟩) (World.init fun _ => [some 1])).2
    let w := (gveAdminqExecuteCmd g AdminqCommand.zero w₁).2
    (w.priv.adminqOk = true →
      w.priv.adminqMask = g.mask ∧ outstanding w ≤ w.priv.adminqMask.toNat + 1) ∧
    AqEvent.noSpace ∉ w.log ∧
    ∀ slot prod ev cmd, AqEvent.written slot prod ev cmd ∈ w.log →
      slot = (prod &&& g.mask).toNat ∧ (prod - ev).toNat ≤ g.mask.toNat ∧
      ∀ j < (prod - ev).toNat, slot ≠ ((ev + BitVec.ofNat 32 j) &&& g.mask).toNat :=
  ring_never_overwrites_unconsumed _ (.next (.next (.start _) (.alloc _)) (.executeCmd _ rfl))

/-- The ring refines a FIFO of the commands issued since initialization: its outstanding slots
hold the last `adminq_prod_cnt - event_counter` commands written, oldest first. -/
theorem ring_holds_outstanding_commands_in_order {w : World} (hr : Reachable g w)
    (hok : w.priv.adminqOk = true) :
    outstanding w ≤ (issuedRequests w.log).length ∧
      window g w = (issuedRequests w.log).drop ((issuedRequests w.log).length - outstanding w) := by
  obtain ⟨c, hc, hw⟩ := (hr.sessionInv g).fifo hok
  have hlen : outstanding w = (issuedRequests w.log).length - c := by
    rw [← windowFrom_length g w.ring w.dev.eventCounter (outstanding w), ← window, hw,
      List.length_drop]
  refine ⟨by omega, ?_⟩
  rw [hw, hlen, Nat.sub_sub_self hc]

theorem ring_holds_outstanding_commands_in_order_two_pending :
    let g : AdminqSize := ⟨6, by decide⟩
    let w₁ := (gveAdminqAlloc g (.ok ⟨0x1000⟩) (World.init fun _ => [some 1])).2
    let w₂ := (gveAdminqIssueCmd g .zero w₁).2
    let w := (gveAdminqIssueCmd g ⟨1, 0, .reserved⟩ w₂).2
    outstanding w ≤ (issuedRequests w.log).length ∧
      window g w = (issuedRequests w.log).drop ((issuedRequests w.log).length - outstanding w) :=
  ring_holds_outstanding_commands_in_order _
    (.next (.next (.next (.start _) (.alloc (.ok ⟨0x1000⟩))) (.issueCmd _ rfl)) (.issueCmd _ rfl))
    rfl

/-- The coherent DMA regions the admin queue holds: the ring page while the queue is up, and
nothing else. -/
structure DmaBalanced (w : World) : Prop where
  ringPage : w.priv.aqMem.isSome = w.priv.adminqOk
  live : w.dmaLive = if w.priv.adminqOk then 1 else 0

theorem DmaBalanced.of_frame {w w' : World} (hd : DmaBalanced w) (hok : w.priv.adminqOk = true)
    (hok' : w'.priv.adminqOk = true) (haq : w'.priv.aqMem = w.priv.aqMem)
    (hm : w'.dmaLive = w.dmaLive) : DmaBalanced w' :=
  ⟨by rw [haq, hd.ringPage, hok, hok'], by rw [hm, hd.live, hok, hok']⟩

theorem DmaBalanced.step {w w' : World} (hs : SessionInv g w) (hd : DmaBalanced w)
    (h : Step g w w') : DmaBalanced w' := by
  cases h with
  | alloc dma =>
    rcases alloc_spec g dma w with h | ⟨-, hok, -, -, -, -, -, -, -, -, hoff, haq, hm⟩
    · rw [h]; exact hd
    · have hnone : w.priv.aqMem.isSome = false := by rw [hd.ringPage, hoff]
      exact ⟨by rw [haq, hok], by simp [hm, hnone, hok, hd.live, hoff]⟩
  | release =>
    obtain ⟨-, -, -, hoff, hon⟩ := release_spec g w hs.ringInv
    cases hw : w.priv.adminqOk
    · rw [hoff hw]; exact hd
    · obtain ⟨hok', haq', hm'⟩ := hon hw
      exact ⟨by rw [haq', hok']; rfl, by simp [hm', hd.live, hw, hok']⟩
  | issueCmd cmd hok =>
    have hk := issueCmd_keeps g cmd hs.ringInv hok
    exact hd.of_frame hok hk.ok hk.aqMem hk.dmaLive
  | kickAndWait hok =>
    have hk := kickAndWait_keeps g hs.ringInv hok
    exact hd.of_frame hok hk.ok hk.aqMem hk.dmaLive
  | executeCmd cmd hok =>
    obtain ⟨h₁, h₂, h₃⟩ := executeCmd_frame g cmd hs.ringInv hok
    exact hd.of_frame hok h₁ h₂ h₃
  | describeDevice c dma desc hok =>
    obtain ⟨-, h₁, h₂, h₃⟩ := describeDevice_keeps g hs hok c dma desc
    exact hd.of_frame hok h₁ h₂ h₃
  | registerPageList c dma qpl hok hr =>
    obtain ⟨-, h₁, h₂, h₃⟩ := registerPageList_keeps g hs hok c dma qpl hr
    exact hd.of_frame hok h₁ h₂ h₃

end GveAdminq
