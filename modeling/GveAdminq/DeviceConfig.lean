import GveAdminq.Session

namespace GveAdminq

/-- The softc fields `gve_adminq_describe_device` fills in from the device; no other admin-queue
function writes them. -/
structure DeviceConfig where
  queueFormat : BitVec 8
  supportedFeatures : Nat
  maxMtu : Nat
  txDescCnt : Nat
  rxDescCnt : Nat
  maxTxDescCnt : Nat
  maxRxDescCnt : Nat
  numEventCounters : Nat
  defaultNumQueues : Nat
  rxPagesPerQpl : Nat
  maxRegisteredPages : Nat
  mac : List (BitVec 8)
  deriving DecidableEq

def Priv.deviceConfig (p : Priv) : DeviceConfig :=
  ⟨p.queueFormat, p.supportedFeatures, p.maxMtu, p.txDescCnt, p.rxDescCnt, p.maxTxDescCnt,
    p.maxRxDescCnt, p.numEventCounters, p.defaultNumQueues, p.rxPagesPerQpl,
    p.maxRegisteredPages, p.mac⟩

/-- The issue counters are not part of the configuration. -/
@[simp] theorem deviceConfig_countOpcode (opcode : BitVec 32) (p : Priv) :
    (gveAdminqCountOpcode opcode p).deviceConfig = p.deviceConfig := by
  unfold gveAdminqCountOpcode
  split
  · rename_i op _
    cases op <;> rfl
  · rfl

variable (g : AdminqSize)

/-- What a transport call leaves alone: the configuration, and the log written so far. -/
structure ConfigFrame (w w' : World) : Prop where
  config : w'.priv.deviceConfig = w.priv.deviceConfig
  log : w.log <+: w'.log

namespace ConfigFrame

variable {g} {w w' w'' : World}

theorem refl (w : World) : ConfigFrame w w := ⟨rfl, List.prefix_refl _⟩

theorem trans (h : ConfigFrame w w') (h' : ConfigFrame w' w'') : ConfigFrame w w'' :=
  ⟨h'.config.trans h.config, h.log.trans h'.log⟩

theorem of_eq {new : List AqEvent} (hp : w'.priv.deviceConfig = w.priv.deviceConfig)
    (hl : w'.log = w.log ++ new) : ConfigFrame w w' :=
  ⟨hp, hl ▸ List.prefix_append _ _⟩

theorem yield (w : World) : ConfigFrame w (w.yield g) := ⟨by simp, by simp⟩

theorem note (w : World) (e : AqEvent) : ConfigFrame w (w.note e) := ⟨by simp, by simp⟩

end ConfigFrame

theorem writeCommand_configFrame (cmd : AdminqCommand) (w : World) :
    ConfigFrame w (writeCommand g cmd w).2 := by
  have hcopy : ConfigFrame (w.yield g) (copyIntoRing cmd (w.yield g)) :=
    ⟨rfl, by simp [copyIntoRing]⟩
  rw [writeCommand_eq]
  exact ((ConfigFrame.yield w).trans (hcopy.trans (.yield _))).trans
    ⟨deviceConfig_countOpcode _ _, List.prefix_refl _⟩

theorem scanCompletions_configFrame (is : List Nat) (w : World) :
    ConfigFrame w (scanCompletions g is w).2 := by
  obtain ⟨-, -, exams, hlog, hp, -⟩ := scanCompletions_spec g is w
  exact .of_eq (by rw [hp]; rfl) hlog

theorem kickAndWait_configFrame (w : World) : ConfigFrame w (gveAdminqKickAndWait g w).2 := by
  obtain ⟨hp₂, -, hlog₂, -, -⟩ := kickCmd_spec g (w.yield g).priv.adminqProdCnt (w.yield g)
  obtain ⟨-, hp₃, -, vs, hlog₃, -⟩ := waitForCmdLoop_spec g
    (w.yield g).priv.adminqProdCnt gveMaxAdminqEventCounterCheck
    (gveAdminqKickCmd g (w.yield g).priv.adminqProdCnt (w.yield g))
  rw [kickAndWait_eq]
  dsimp only
  generalize waitForCmdLoop g _ _ _ = r at hp₃ hlog₃ ⊢
  obtain ⟨seen, w₃⟩ := r
  dsimp only at hp₃ hlog₃
  have h₃ : ConfigFrame w w₃ := .of_eq (by rw [hp₃, hp₂, World.yield_priv])
    (by rw [hlog₃, hlog₂, World.yield_log, List.append_assoc])
  cases seen with
  | false => exact h₃.trans ⟨rfl, by simp⟩
  | true => exact h₃.trans (scanCompletions_configFrame g _ w₃)

theorem issueCmd_configFrame (cmd : AdminqCommand) (w : World) :
    ConfigFrame w (gveAdminqIssueCmd g cmd w).2 := by
  have hk := (ConfigFrame.yield w).trans (kickAndWait_configFrame g (w.yield g))
  rw [issueCmd_eq]
  dsimp only
  split_ifs
  · generalize gveAdminqKickAndWait g (w.yield g) = r at hk ⊢
    obtain ⟨_ | e, w₂⟩ := r
    · dsimp only
      split_ifs
      · exact hk.trans ((ConfigFrame.yield w₂).trans (.note _ _))
      · exact hk.trans ((ConfigFrame.yield w₂).trans (writeCommand_configFrame g cmd _))
    · exact hk
  · exact (ConfigFrame.yield w).trans (writeCommand_configFrame g cmd _)

/-- `execute_cmd` is a transport call that keeps the frame, followed by the record of its
result. -/
theorem executeCmd_noted (cmd : AdminqCommand) (w : World) :
    ∃ w', ConfigFrame w w' ∧
      gveAdminqExecuteCmd g cmd w =
        ((gveAdminqExecuteCmd g cmd w).1, w'.note (.executed cmd (gveAdminqExecuteCmd g cmd w).1)) := by
  have hi := (ConfigFrame.yield w).trans (issueCmd_configFrame g cmd (w.yield g))
  rw [executeCmd_eq]
  refine ⟨_, ?_, rfl⟩
  split_ifs
  · exact .yield w
  · generalize gveAdminqIssueCmd g cmd (w.yield g) = r at hi ⊢
    obtain ⟨_ | e, w₂⟩ := r
    exacts [hi.trans (kickAndWait_configFrame g w₂), hi]

theorem executeCmd_configFrame (cmd : AdminqCommand) (w : World) :
    ConfigFrame w (gveAdminqExecuteCmd g cmd w).2 := by
  obtain ⟨w', h, he⟩ := executeCmd_noted g cmd w
  rw [he]
  exact h.trans (.note _ _)

/-- A failed negotiation has set the two ring-size maxima and nothing else. -/
theorem describeDeviceNegotiate_of_ne_ok (c : GveConsts) (desc : Nat → BitVec 8) (p : Priv)
    (h : (gveDescribeDeviceNegotiate c desc p).1 ≠ .ok) :
    (gveDescribeDeviceNegotiate c desc p).2 =
      { p with maxRxDescCnt := c.maxRingSize, maxTxDescCnt := c.maxRingSize } := by
  unfold gveDescribeDeviceNegotiate at h ⊢
  split
  · rfl
  · rfl
  · rename_i heq
    simp [heq] at h

/-- A failed describe leaves the configuration as it was, or sets only the two ring-size maxima
(when the device accepted the command and the options were then rejected). -/
theorem describeDevice_config_of_fail (c : GveConsts)
    (dma : Except Errno GveDmaHandle) (desc : Nat → BitVec 8) (w : World)
    (hfail : (gveAdminqDescribeDevice g c dma desc w).1 ≠ .ok) :
    let cfg := (gveAdminqDescribeDevice g c dma desc w).2.priv.deviceConfig
    cfg = w.priv.deviceConfig ∨
      cfg = { w.priv.deviceConfig with
        maxTxDescCnt := c.maxRingSize, maxRxDescCnt := c.maxRingSize } := by
  cases dma with
  | error e => exact .inl rfl
  | ok descMem =>
    have hx := executeCmd_configFrame g (describeDeviceCmd g descMem)
      { w with dmaLive := w.dmaLive + 1 }
    unfold gveAdminqDescribeDevice at hfail ⊢
    dsimp only at hfail ⊢
    generalize gveAdminqExecuteCmd g _ _ = x at hx hfail ⊢
    obtain ⟨rc, w₂⟩ := x
    dsimp only at hfail ⊢
    split_ifs at hfail ⊢
    · exact .inl hx.config
    · right
      rw [describeDeviceNegotiate_of_ne_ok c desc w₂.priv hfail]
      exact congrArg (fun d : DeviceConfig =>
        { d with maxTxDescCnt := c.maxRingSize, maxRxDescCnt := c.maxRingSize }) hx.config

theorem alloc_deviceConfig (dma : Except Errno GveDmaHandle) (w : World) :
    (gveAdminqAlloc g dma w).2.priv.deviceConfig = w.priv.deviceConfig := by
  unfold gveAdminqAlloc
  split_ifs
  · rfl
  · split <;> (try split) <;> simp [Priv.deviceConfig]

theorem release_deviceConfig (w : World) :
    (gveReleaseAdminq g w).priv.deviceConfig = w.priv.deviceConfig := by
  unfold gveReleaseAdminq
  split_ifs
  · rfl
  · simp [Priv.deviceConfig]

theorem registerPageList_configFrame (c : GveConsts) (dma : Except Errno GveDmaHandle)
    (qpl : GveQueuePageList) {w : World} {r : Rc × World}
    (hr : gveAdminqRegisterPageList g c dma qpl w = some r) : ConfigFrame w r.2 := by
  rcases registerPageList_cases g hr with rfl | ⟨h, pageList, -, rfl⟩
  · exact .refl w
  · have h₁ : ConfigFrame w
        { w with dmaLive := w.dmaLive + 1, dmaMem := Function.update w.dmaMem h.busAddr pageList } :=
      ⟨rfl, List.prefix_refl _⟩
    have h₂ := h₁.trans (executeCmd_configFrame g (registerPageListCmd c h qpl) _)
    exact ⟨h₂.config, h₂.log⟩

/-- A describe that changes the configuration has had its command accepted: the record of that
acceptance is the last event it logs. -/
theorem describeDevice_accepted (c : GveConsts) (dma : Except Errno GveDmaHandle)
    (desc : Nat → BitVec 8) (w : World)
    (hne : (gveAdminqDescribeDevice g c dma desc w).2.priv.deviceConfig ≠ w.priv.deviceConfig) :
    ∃ (descMem : GveDmaHandle) (new : List AqEvent),
      (gveAdminqDescribeDevice g c dma desc w).2.log =
        w.log ++ new ++ [.executed (describeDeviceCmd g descMem) .ok] := by
  cases dma with
  | error e => exact absurd rfl hne
  | ok descMem =>
    obtain ⟨w₂, hf, he⟩ := executeCmd_noted g (describeDeviceCmd g descMem)
      { w with dmaLive := w.dmaLive + 1 }
    unfold gveAdminqDescribeDevice at hne ⊢
    dsimp only at hne ⊢
    rw [he] at hne ⊢
    generalize (gveAdminqExecuteCmd g _ _).1 = rc at hne ⊢
    dsimp only at hne ⊢
    split_ifs at hne ⊢ with hrc
    · exact absurd hf.config hne
    · obtain ⟨new, hnew⟩ := hf.log
      rw [not_not] at hrc
      subst hrc
      exact ⟨descMem, new, by simp [← hnew]⟩

/-- Over every transition, the configuration changes only in a describe whose DESCRIBE_DEVICE
command the device accepted, that acceptance being the step's last event. -/
theorem Step.deviceConfig_changed {w w' : World} (hs : Step g w w')
    (hne : w'.priv.deviceConfig ≠ w.priv.deviceConfig) :
    ∃ (descMem : GveDmaHandle) (new : List AqEvent),
      w'.log = w.log ++ new ++ [.executed (describeDeviceCmd g descMem) .ok] := by
  cases hs with
  | alloc dma => exact absurd (alloc_deviceConfig g dma w) hne
  | release => exact absurd (release_deviceConfig g w) hne
  | issueCmd cmd _ => exact absurd (issueCmd_configFrame g cmd w).config hne
  | kickAndWait _ => exact absurd (kickAndWait_configFrame g w).config hne
  | executeCmd cmd _ => exact absurd (executeCmd_configFrame g cmd w).config hne
  | describeDevice c dma desc _ => exact describeDevice_accepted g c dma desc w hne
  | registerPageList c dma qpl _ hr =>
    exact absurd (registerPageList_configFrame g c dma qpl hr).config hne

end GveAdminq
