import GveAdminq.Session

/-! The completion scan of `gve_adminq_kick_and_wait` over whole runs. While fewer than 2^32
commands have been written since the queue was initialized, no counter has wrapped, and the
statuses the scan reads are those of completed commands, each read once and in order. Each
transport function keeps `ScanSafe`, with no use of the ring invariant. -/

namespace GveAdminq

namespace AqEvent

/-- The index an examination read, as a number. -/
def examinedIndex? : AqEvent → Option Nat
  | .examined i _ => some i.toNat
  | _ => none

/-- Events that are neither an initialization, a write nor an examination. -/
def quiet : AqEvent → Bool
  | .noSpace | .kicked _ | .polled _ | .timedOut | .executed _ _ => true
  | .initialized | .written .. | .examined .. => false

theorem quiet_spec {e : AqEvent} (h : e.quiet) :
    e.isInit = false ∧ e.isWrite = false ∧ e.examinedIndex? = none := by
  cases e <;> simp_all [quiet, isInit, isWrite, examinedIndex?]

end AqEvent

/-- The number of commands written since the queue was last initialized. -/
def writtenSince (log : List AqEvent) : Nat := (sinceInit log).countP AqEvent.isWrite

/-- The indices examined since the queue was last initialized, in the order examined. -/
def examinedSince (log : List AqEvent) : List Nat :=
  (sinceInit log).filterMap AqEvent.examinedIndex?

theorem writtenSince_append {log new : List AqEvent} (h : ∀ e ∈ new, e.isInit = false) :
    writtenSince (log ++ new) = writtenSince log + new.countP AqEvent.isWrite := by
  rw [writtenSince, writtenSince, sinceInit_append h, List.countP_append]

theorem examinedSince_append {log new : List AqEvent} (h : ∀ e ∈ new, e.isInit = false) :
    examinedSince (log ++ new) = examinedSince log ++ new.filterMap AqEvent.examinedIndex? := by
  rw [examinedSince, examinedSince, sinceInit_append h, List.filterMap_append]

theorem since_append_quiet (log : List AqEvent) {new : List AqEvent} (h : ∀ e ∈ new, e.quiet) :
    writtenSince (log ++ new) = writtenSince log ∧ examinedSince (log ++ new) = examinedSince log := by
  have hinit : ∀ e ∈ new, e.isInit = false := fun e he => (AqEvent.quiet_spec (h e he)).1
  rw [writtenSince_append hinit, examinedSince_append hinit,
    List.countP_eq_zero.mpr fun e he => by simp [(AqEvent.quiet_spec (h e he)).2.1],
    List.filterMap_eq_nil_iff.mpr fun e he => (AqEvent.quiet_spec (h e he)).2.2]
  exact ⟨rfl, List.append_nil _⟩

/-- The scan's invariant: the producer counter is the number of writes since the
initialization, the device is behind the doorbell and the doorbell behind the producer, and the
indices examined since the initialization strictly increase and are all below the event
counter. All on the counters' values, unwrapped. -/
structure ScanInv (w : World) : Prop where
  prod : w.priv.adminqProdCnt.toNat = writtenSince w.log
  ev_le : w.dev.eventCounter.toNat ≤ w.dev.doorbell.toNat
  doorbell_le : w.dev.doorbell.toNat ≤ writtenSince w.log
  sorted : (examinedSince w.log).Pairwise (· < ·)
  completed : ∀ i ∈ examinedSince w.log, i < w.dev.eventCounter.toNat

/-- The scan invariant, wherever fewer than 2^32 commands were written since the
initialization. -/
def ScanSafe (w : World) : Prop := writtenSince w.log < 2 ^ 32 → ScanInv w

/-- Behind the doorbell, device progress moves the event counter forward and not past it. -/
theorem Drains.eventCounter_toNat {w w' : World} (h : Drains w w')
    (hle : w.dev.eventCounter.toNat ≤ w.dev.doorbell.toNat) :
    w.dev.eventCounter.toNat ≤ w'.dev.eventCounter.toNat ∧
      w'.dev.eventCounter.toNat ≤ w'.dev.doorbell.toNat := by
  obtain ⟨k, hk, hev⟩ := h.advance
  rw [kicked, BitVec.toNat_sub_of_le (BitVec.le_def.mpr hle)] at hk
  rw [hev, h.doorbell]
  bv_omega

theorem ScanInv.of_quiet {w w' : World} {new : List AqEvent} (hi : ScanInv w)
    (hlog : w'.log = w.log ++ new) (hq : ∀ e ∈ new, e.quiet)
    (hprod : w'.priv.adminqProdCnt = w.priv.adminqProdCnt)
    (hev : w.dev.eventCounter.toNat ≤ w'.dev.eventCounter.toNat)
    (hle : w'.dev.eventCounter.toNat ≤ w'.dev.doorbell.toNat)
    (hdb : w'.dev.doorbell.toNat ≤ writtenSince w.log) : ScanInv w' := by
  obtain ⟨hw, hx⟩ := since_append_quiet w.log hq
  rw [← hlog] at hw hx
  exact ⟨by rw [hprod, hw]; exact hi.prod, hle, hw ▸ hdb, hx ▸ hi.sorted,
    fun i h => Nat.lt_of_lt_of_le (hi.completed i (hx ▸ h)) hev⟩

variable (g : AdminqSize)

namespace ScanSafe

variable {g} {w w' : World}

/-- Device progress and events other than writes and examinations keep the invariant. -/
theorem drains {new : List AqEvent} (hs : ScanSafe w) (hd : Drains w w')
    (hlog : w'.log = w.log ++ new) (hq : ∀ e ∈ new, e.quiet) : ScanSafe w' := by
  intro h
  rw [hlog, (since_append_quiet w.log hq).1] at h
  have hi := hs h
  obtain ⟨hev, hle⟩ := hd.eventCounter_toNat hi.ev_le
  exact hi.of_quiet hlog hq hd.prod hev hle (hd.doorbell ▸ hi.doorbell_le)

theorem of_frame (hs : ScanSafe w) (hlog : w'.log = w.log) (hdev : w'.dev = w.dev)
    (hprod : w'.priv.adminqProdCnt = w.priv.adminqProdCnt) : ScanSafe w' := by
  intro h
  rw [hlog] at h
  have hi := hs h
  exact hi.of_quiet (by rw [hlog, List.append_nil] : w'.log = w.log ++ []) (by simp) hprod (by rw [hdev])
    (by rw [hdev]; exact hi.ev_le) (by rw [hdev]; exact hi.doorbell_le)

theorem yield (hs : ScanSafe w) : ScanSafe (w.yield g) :=
  hs.drains (drains_yield g w) (by simp : (w.yield g).log = w.log ++ []) (by simp)

theorem note (hs : ScanSafe w) {e : AqEvent} (he : e.quiet) : ScanSafe (w.note e) :=
  hs.drains (drains_note e w) rfl (by simpa using he)

/-- Ringing the doorbell with the producer counter announces only written commands. -/
theorem kickCmd (hs : ScanSafe w) : ScanSafe (gveAdminqKickCmd g w.priv.adminqProdCnt w) := by
  obtain ⟨hp, -, hlog, hdb, hev⟩ := kickCmd_spec g w.priv.adminqProdCnt w
  have hq : ∀ e ∈ [AqEvent.kicked w.priv.adminqProdCnt], e.quiet := by simp [AqEvent.quiet]
  intro h
  rw [hlog, (since_append_quiet w.log hq).1] at h
  have hi := hs h
  obtain ⟨hev₁, hle₁⟩ := (drains_yield g w).eventCounter_toNat hi.ev_le
  rw [(drains_yield g w).doorbell] at hle₁
  refine hi.of_quiet hlog hq (by rw [hp]) (hev ▸ hev₁) ?_ (by rw [hdb, hi.prod])
  rw [hev, hdb, hi.prod]
  exact hle₁.trans hi.doorbell_le

/-- A write below 2^32 writes advances the producer counter without wrapping it. -/
theorem copyIntoRing (hs : ScanSafe w) (cmd : AdminqCommand) :
    ScanSafe (GveAdminq.copyIntoRing cmd w) := by
  obtain ⟨e, hlog, hinit, hwrite, hidx⟩ : ∃ e : AqEvent,
      (GveAdminq.copyIntoRing cmd w).log = w.log ++ [e] ∧ e.isInit = false ∧ e.isWrite ∧
        e.examinedIndex? = none := ⟨_, rfl, rfl, rfl, rfl⟩
  have hinit' : ∀ x ∈ [e], x.isInit = false := by simpa using hinit
  have hw : writtenSince (GveAdminq.copyIntoRing cmd w).log = writtenSince w.log + 1 := by
    rw [hlog, writtenSince_append hinit']
    simp [hwrite]
  have hx : examinedSince (GveAdminq.copyIntoRing cmd w).log = examinedSince w.log := by
    rw [hlog, examinedSince_append hinit']
    simp [hidx]
  intro h
  have hi := hs (by omega)
  refine ⟨?_, hi.ev_le, by rw [hw]; exact Nat.le_succ_of_le hi.doorbell_le, hx ▸ hi.sorted,
    hx ▸ hi.completed⟩
  show (w.priv.adminqProdCnt + 1).toNat = _
  rw [hw, BitVec.toNat_add, hi.prod]
  rw [hw] at h
  exact Nat.mod_eq_of_lt h

/-- With the device caught up, the scan examines indices from `tail` on, in order, each below
the event counter, past every index examined before. -/
theorem scanCompletions {tail : Nat} (hs : ScanSafe w)
    (hidle : w.dev.eventCounter = w.dev.doorbell)
    (htail : writtenSince w.log < 2 ^ 32 → ∀ i ∈ examinedSince w.log, i < tail) :
    ScanSafe (GveAdminq.scanCompletions g
      (List.range' tail (w.dev.eventCounter.toNat - tail)) w).2 := by
  obtain ⟨hd, -, exams, hlog, hp, hidx, -⟩ :=
    scanCompletions_spec g (List.range' tail (w.dev.eventCounter.toNat - tail)) w
  generalize (GveAdminq.scanCompletions g _ w).2 = w' at hd hlog hp ⊢
  have hev := hd.eventCounter_of_idle hidle
  have hinit : ∀ e ∈ examinedEvents exams, e.isInit = false := fun e he => by
    obtain ⟨x, -, rfl⟩ := List.mem_map.mp he
    rfl
  have hmem : ∀ j ∈ (List.range' tail (w.dev.eventCounter.toNat - tail)).take exams.length,
      tail ≤ j ∧ j < w.dev.eventCounter.toNat := fun j hj => by
    have := List.mem_range'_1.mp (List.mem_of_mem_take hj)
    omega
  have hnew : (examinedEvents exams).filterMap AqEvent.examinedIndex? =
      (List.range' tail (w.dev.eventCounter.toNat - tail)).take exams.length := by
    have hfst : (examinedEvents exams).filterMap AqEvent.examinedIndex? =
        (exams.map Prod.fst).map BitVec.toNat := by
      rw [examinedEvents, List.filterMap_map, List.map_map]
      exact congrFun (List.filterMap_eq_map _) exams
    rw [hfst, hidx, List.map_map]
    conv_rhs => rw [← List.map_id (List.take _ _)]
    refine List.map_congr_left fun j hj => ?_
    have := (hmem j hj).2
    have := w.dev.eventCounter.isLt
    simp only [Function.comp_apply, BitVec.toNat_ofNat, id]
    omega
  have hw : writtenSince w'.log = writtenSince w.log := by
    rw [hlog, writtenSince_append hinit]
    simp [examinedEvents, AqEvent.isWrite]
  have hx : examinedSince w'.log = examinedSince w.log ++
      (List.range' tail (w.dev.eventCounter.toNat - tail)).take exams.length := by
    rw [hlog, examinedSince_append hinit, hnew]
  intro h
  rw [hw] at h
  have hi := hs h
  refine ⟨by rw [hp, hw]; exact hi.prod, by rw [hev, hd.doorbell]; exact hi.ev_le,
    by rw [hd.doorbell, hw]; exact hi.doorbell_le, ?_, fun i hi' => ?_⟩
  · rw [hx, List.pairwise_append]
    exact ⟨hi.sorted, (List.pairwise_lt_range' _ _).sublist (List.take_sublist _ _),
      fun a ha b hb => Nat.lt_of_lt_of_le (htail h a ha) (hmem b hb).1⟩
  · rw [hev]
    rcases List.mem_append.mp (hx ▸ hi') with hi' | hi'
    exacts [hi.completed i hi', (hmem i hi').2]

end ScanSafe

theorem writeCommand_scanSafe {w : World} (hs : ScanSafe w) (cmd : AdminqCommand) :
    ScanSafe (writeCommand g cmd w).2 := by
  rw [writeCommand_eq]
  exact (((hs.yield (g := g)).copyIntoRing cmd).yield (g := g)).of_frame rfl rfl (by simp)

/-- `kick_and_wait` examines only the commands the device completed since it last read the
event counter, and only once the device has caught up with the doorbell. -/
theorem kickAndWait_scanSafe {w : World} (hs : ScanSafe w) : ScanSafe (gveAdminqKickAndWait g w).2 := by
  have h₁ := hs.yield (g := g)
  obtain ⟨-, -, hlog₂, hdb₂, -⟩ := kickCmd_spec g (w.yield g).priv.adminqProdCnt (w.yield g)
  obtain ⟨hd₃, -, -, vs, hlog₃, -, -, -, hev₃⟩ := waitForCmdLoop_spec g
    (w.yield g).priv.adminqProdCnt gveMaxAdminqEventCounterCheck
    (gveAdminqKickCmd g (w.yield g).priv.adminqProdCnt (w.yield g))
  have hq : ∀ e ∈ .kicked (w.yield g).priv.adminqProdCnt :: vs.map AqEvent.polled, e.quiet := by
    simp [AqEvent.quiet]
  rw [kickAndWait_eq]
  dsimp only
  generalize waitForCmdLoop g _ _ _ = r at hd₃ hlog₃ hev₃ ⊢
  obtain ⟨seen, w₃⟩ := r
  dsimp only at hd₃ hlog₃ hev₃
  have h₃ : ScanSafe w₃ :=
    h₁.kickCmd.drains hd₃ hlog₃ fun e he => hq e (List.mem_cons_of_mem _ he)
  have hlog₁₃ : w₃.log = (w.yield g).log ++ .kicked (w.yield g).priv.adminqProdCnt ::
      vs.map AqEvent.polled := by rw [hlog₃, hlog₂, List.append_assoc, List.singleton_append]
  cases seen with
  | false =>
    simp only [Bool.false_eq_true, if_false]
    refine ScanSafe.note ?_ (e := .timedOut) rfl
    exact h₃.of_frame rfl rfl rfl
  | true =>
    have hidle : w₃.dev.eventCounter = w₃.dev.doorbell := by rw [hev₃ rfl, hd₃.doorbell, hdb₂]
    dsimp only
    rw [← hev₃ rfl]
    refine h₃.scanCompletions hidle fun h => ?_
    rw [hlog₁₃, (since_append_quiet _ hq).1] at h
    rw [hlog₁₃, (since_append_quiet _ hq).2]
    exact (h₁ h).completed

theorem issueCmd_scanSafe {w : World} (hs : ScanSafe w) (cmd : AdminqCommand) :
    ScanSafe (gveAdminqIssueCmd g cmd w).2 := by
  have hk := kickAndWait_scanSafe g (hs.yield (g := g))
  rw [issueCmd_eq]
  dsimp only
  split_ifs
  · generalize gveAdminqKickAndWait g (w.yield g) = r at hk ⊢
    obtain ⟨_ | e, w₂⟩ := r
    · dsimp only
      split_ifs
      · exact (hk.yield (g := g)).note (by rfl)
      · exact writeCommand_scanSafe g (hk.yield (g := g)) cmd
    · exact hk
  · exact writeCommand_scanSafe g (hs.yield (g := g)) cmd

theorem executeCmd_scanSafe {w : World} (hs : ScanSafe w) (cmd : AdminqCommand) :
    ScanSafe (gveAdminqExecuteCmd g cmd w).2 := by
  have hi := issueCmd_scanSafe g (hs.yield (g := g)) cmd
  rw [executeCmd_eq]
  dsimp only
  refine ScanSafe.note ?_ (by rfl)
  split_ifs
  · exact hs.yield
  · generalize gveAdminqIssueCmd g cmd (w.yield g) = r at hi ⊢
    obtain ⟨_ | e, w₂⟩ := r
    exacts [kickAndWait_scanSafe g hi, hi]

theorem describeDevice_scanSafe {w : World} (hs : ScanSafe w) (c : GveConsts)
    (dma : Except Errno GveDmaHandle) (desc : Nat → BitVec 8) :
    ScanSafe (gveAdminqDescribeDevice g c dma desc w).2 := by
  cases dma with
  | error e => exact hs
  | ok descMem =>
    have h₂ := executeCmd_scanSafe g (w := { w with dmaLive := w.dmaLive + 1 })
      (hs.of_frame rfl rfl rfl) (describeDeviceCmd g descMem)
    unfold gveAdminqDescribeDevice
    dsimp only
    generalize gveAdminqExecuteCmd g _ _ = x at h₂ ⊢
    obtain ⟨rc, w₂⟩ := x
    dsimp only
    split_ifs
    · exact h₂.of_frame rfl rfl rfl
    · exact h₂.of_frame rfl rfl ((describeDeviceNegotiate_adminq c desc w₂.priv).2.2.2 .prodCnt)

theorem registerPageList_scanSafe {w : World} (hs : ScanSafe w) (c : GveConsts)
    (dma : Except Errno GveDmaHandle) (qpl : GveQueuePageList) {r : Rc × World}
    (hr : gveAdminqRegisterPageList g c dma qpl w = some r) : ScanSafe r.2 := by
  rcases registerPageList_cases g hr with rfl | ⟨h, pageList, -, rfl⟩
  · exact hs
  · have h₁ : ScanSafe
        { w with dmaLive := w.dmaLive + 1, dmaMem := Function.update w.dmaMem h.busAddr pageList } :=
      hs.of_frame rfl rfl rfl
    exact (executeCmd_scanSafe g h₁ (registerPageListCmd c h qpl)).of_frame rfl rfl rfl

/-- `gve_adminq_alloc` starts the count afresh: no writes, no examinations, zeroed counters. -/
theorem ScanSafe.alloc {w : World} (hs : w.priv.adminqOk = true → ScanSafe w)
    (dma : Except Errno GveDmaHandle) (hok : (gveAdminqAlloc g dma w).2.priv.adminqOk = true) :
    ScanSafe (gveAdminqAlloc g dma w).2 := by
  rcases alloc_spec g dma w with h | ⟨hlog, -, -, hprod, hev, hdb, -⟩
  · rw [h] at hok ⊢; exact hs hok
  · intro _
    refine ⟨?_, ?_, ?_, ?_, ?_⟩ <;> simp [writtenSince, examinedSince, hlog, hprod, hev, hdb]

theorem ScanSafe.step {w w' : World} (hinv : RingInv g w) (hs : w.priv.adminqOk = true → ScanSafe w)
    (h : Step g w w') : w'.priv.adminqOk = true → ScanSafe w' := by
  cases h with
  | alloc dma => exact ScanSafe.alloc g hs dma
  | release =>
    obtain ⟨-, -, -, hoff, hon⟩ := release_spec g w hinv
    cases hw : w.priv.adminqOk
    · rw [hoff hw]; exact hs
    · intro h; rw [(hon hw).1] at h; cases h
  | issueCmd cmd hok => exact fun _ => issueCmd_scanSafe g (hs hok) cmd
  | kickAndWait hok => exact fun _ => kickAndWait_scanSafe g (hs hok)
  | executeCmd cmd hok => exact fun _ => executeCmd_scanSafe g (hs hok) cmd
  | describeDevice c dma desc hok => exact fun _ => describeDevice_scanSafe g (hs hok) c dma desc
  | registerPageList c dma qpl hok hr => exact fun _ => registerPageList_scanSafe g (hs hok) c dma qpl hr

end GveAdminq
