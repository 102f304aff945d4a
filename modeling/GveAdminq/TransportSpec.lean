import GveAdminq.Ring

namespace GveAdminq

/-- The events of a completion scan, one per status read. -/
def examinedEvents (exams : List (BitVec 32 × BitVec 32)) : List AqEvent :=
  exams.map fun e => .examined e.1 e.2

/-- The number of examined statuses that `gve_adminq_parse_err` counts as failures. -/
def failures (exams : List (BitVec 32 × BitVec 32)) : Nat :=
  exams.countP fun e => countsAsFailure e.2

theorem parseErr_snd (status : BitVec 32) (p : Priv) :
    (gveAdminqParseErr status p).2 =
      { p with adminqCmdFail := p.adminqCmdFail + BitVec.ofNat 32 (if countsAsFailure status then 1 else 0) } := by
  unfold gveAdminqParseErr
  split <;> simp_all

theorem adminqStatusRc_eq_ok {status : BitVec 32} :
    adminqStatusRc status = .ok ↔ status = AdminqStatus.passed.code := by
  constructor
  · intro h
    unfold adminqStatusRc at h
    split at h <;> first
      | exact (AdminqStatus.ofCode?_eq_some.mp ‹_›).symm
      | cases h
  · rintro rfl; rfl

theorem adminqStatusRc_ne_enotrecoverable (status : BitVec 32) :
    adminqStatusRc status ≠ .err .enotrecoverable := by
  unfold adminqStatusRc
  split <;> simp

@[simp] theorem countIssued_adminqOk (p : Priv) (op : AdminqOpcode) :
    (p.countIssued op).adminqOk = p.adminqOk := by cases op <;> rfl
@[simp] theorem countIssued_adminqMask (p : Priv) (op : AdminqOpcode) :
    (p.countIssued op).adminqMask = p.adminqMask := by cases op <;> rfl
@[simp] theorem countIssued_adminqProdCnt (p : Priv) (op : AdminqOpcode) :
    (p.countIssued op).adminqProdCnt = p.adminqProdCnt := by cases op <;> rfl
@[simp] theorem countIssued_adminqCmdFail (p : Priv) (op : AdminqOpcode) :
    (p.countIssued op).adminqCmdFail = p.adminqCmdFail := by cases op <;> rfl
@[simp] theorem countIssued_adminqTimeouts (p : Priv) (op : AdminqOpcode) :
    (p.countIssued op).adminqTimeouts = p.adminqTimeouts := by cases op <;> rfl
@[simp] theorem countIssued_aqMem (p : Priv) (op : AdminqOpcode) :
    (p.countIssued op).aqMem = p.aqMem := by cases op <;> rfl

theorem issueCnt_countIssued (p : Priv) (op op' : AdminqOpcode) :
    (p.countIssued op').issueCnt op = if op = op' then p.issueCnt op + 1 else p.issueCnt op := by
  cases op' <;> cases op <;> rfl

@[simp] theorem countOpcode_adminqOk (c : BitVec 32) (p : Priv) :
    (gveAdminqCountOpcode c p).adminqOk = p.adminqOk := by
  unfold gveAdminqCountOpcode; split <;> simp
@[simp] theorem countOpcode_adminqMask (c : BitVec 32) (p : Priv) :
    (gveAdminqCountOpcode c p).adminqMask = p.adminqMask := by
  unfold gveAdminqCountOpcode; split <;> simp
@[simp] theorem countOpcode_adminqProdCnt (c : BitVec 32) (p : Priv) :
    (gveAdminqCountOpcode c p).adminqProdCnt = p.adminqProdCnt := by
  unfold gveAdminqCountOpcode; split <;> simp
@[simp] theorem countOpcode_adminqCmdFail (c : BitVec 32) (p : Priv) :
    (gveAdminqCountOpcode c p).adminqCmdFail = p.adminqCmdFail := by
  unfold gveAdminqCountOpcode; split <;> simp
@[simp] theorem countOpcode_adminqTimeouts (c : BitVec 32) (p : Priv) :
    (gveAdminqCountOpcode c p).adminqTimeouts = p.adminqTimeouts := by
  unfold gveAdminqCountOpcode; split <;> simp
@[simp] theorem countOpcode_aqMem (c : BitVec 32) (p : Priv) :
    (gveAdminqCountOpcode c p).aqMem = p.aqMem := by
  unfold gveAdminqCountOpcode; split <;> simp

/-- Issuing a command counts it under its opcode, and nothing else. -/
theorem issueCnt_countOpcode (c : BitVec 32) (p : Priv) (op : AdminqOpcode) :
    (gveAdminqCountOpcode c p).issueCnt op =
      if op.code = c then p.issueCnt op + 1 else p.issueCnt op := by
  unfold gveAdminqCountOpcode
  split
  · rename_i op' h
    rw [issueCnt_countIssued, ← AdminqOpcode.ofCode?_eq_some.mp h]
    by_cases hop : op = op'
    · simp [hop]
    · have : op.code ≠ op'.code := fun e => hop (AdminqOpcode.code_injective e)
      rw [if_neg hop, if_neg this]
  · rename_i h
    have : op.code ≠ c := fun hc => by simp [← hc] at h
    simp [this]

@[simp] theorem issueCnt_setProdCnt (p : Priv) (c : BitVec 32) (op : AdminqOpcode) :
    ({ p with adminqProdCnt := c }).issueCnt op = p.issueCnt op := by cases op <;> rfl
@[simp] theorem issueCnt_setCmdFail (p : Priv) (c : BitVec 32) (op : AdminqOpcode) :
    ({ p with adminqCmdFail := c }).issueCnt op = p.issueCnt op := by cases op <;> rfl
@[simp] theorem issueCnt_setTimeouts (p : Priv) (c : BitVec 32) (op : AdminqOpcode) :
    ({ p with adminqTimeouts := c }).issueCnt op = p.issueCnt op := by cases op <;> rfl

namespace AqEvent

/-- An examined status that `adminq_cmd_fail` counts. -/
def failed : AqEvent → Bool
  | .examined _ s => countsAsFailure s
  | _ => false

/-- A command of opcode `op` written to the ring. -/
def wrote (op : AdminqOpcode) : AqEvent → Bool
  | .written _ _ _ c => c.opcode = op.code
  | _ => false

/-- A command written to the ring. -/
def isWrite : AqEvent → Bool
  | .written .. => true
  | _ => false

/-- A `kick_and_wait` that gave up polling. -/
def isTimeout : AqEvent → Bool
  | .timedOut => true
  | _ => false

/-- The events the statistic `s` counts: the producer counter counts writes, the failure
counter failed statuses, the timeout counter timeouts, an issue counter writes of its opcode. -/
def counts : AdminqStat → AqEvent → Bool
  | .prodCnt => isWrite
  | .cmdFail => failed
  | .timeouts => isTimeout
  | .issued op => wrote op

/-- The request a write puts into the ring. -/
def request? : AqEvent → Option (BitVec 32 × AdminqPayload)
  | .written _ _ _ c => some c.request
  | _ => none

/-- An event of `issue_cmd` or `kick_and_wait`. -/
def transport : AqEvent → Bool
  | .initialized | .executed _ _ => false
  | _ => true

/-- `alloc`'s (re)initialization of the queue. -/
def isInit : AqEvent → Bool
  | .initialized => true
  | _ => false

theorem isInit_of_transport {e : AqEvent} (h : e.transport) : e.isInit = false := by
  cases e <;> simp_all [transport, isInit]

/-- A write into a slot the device is done with, at most a ring's worth ahead of the device;
and never the "should never happen" branch. -/
def Safe (g : AdminqSize) : AqEvent → Prop
  | .written slot prod ev _ => slot = (prod &&& g.mask).toNat ∧ (prod - ev).toNat < g.slots
  | .noSpace => False
  | _ => True

end AqEvent

@[simp] theorem request?_comp_polled : AqEvent.request? ∘ AqEvent.polled = fun _ => none := rfl

variable (g : AdminqSize)

/-- A transport call from `w` to `w'`: it appends safe transport events, every statistic
grows by exactly the events among them that it counts, and the ring's outstanding window is
the old one with the written requests appended, less what the device consumed from its
front. -/
def Accounted (w w' : World) : Prop :=
  ∃ new : List AqEvent, w'.log = w.log ++ new ∧ (∀ e ∈ new, e.Safe g ∧ e.transport) ∧
    (∀ s, w'.priv.stat s = w.priv.stat s + BitVec.ofNat 32 (new.countP (AqEvent.counts s))) ∧
    ∃ k, window g w' = (window g w ++ new.filterMap AqEvent.request?).drop k

theorem Accounted.trans {w w' w'' : World} (h : Accounted g w w') (h' : Accounted g w' w'') :
    Accounted g w w'' := by
  obtain ⟨n, hl, hs, hi, k, hw⟩ := h
  obtain ⟨n', hl', hs', hi', k', hw'⟩ := h'
  obtain ⟨k₀, hk₀, hk⟩ := exists_drop_eq_le (window g w ++ n.filterMap AqEvent.request?) k
  refine ⟨n ++ n', by simp [hl', hl], fun e he => ?_, fun s => ?_, k₀ + k', ?_⟩
  · rcases List.mem_append.mp he with he | he
    exacts [hs e he, hs' e he]
  · rw [hi', hi, List.countP_append, BitVec.ofNat_add, BitVec.add_assoc]
  · rw [hw', hw, hk, ← List.drop_append_of_le_length hk₀, List.drop_drop, List.filterMap_append,
      List.append_assoc]

theorem waitForCmdLoop_succ (prodCnt : BitVec 32) (n : Nat) (w : World) :
    waitForCmdLoop g prodCnt (n + 1) w =
      let w' := (w.yield g).note (.polled (w.yield g).dev.eventCounter)
      if (w.yield g).dev.eventCounter = prodCnt then (true, w')
      else waitForCmdLoop g prodCnt n w' := rfl

theorem waitForCmdLoop_spec (prodCnt : BitVec 32) (n : Nat) (w : World) :
    let r := waitForCmdLoop g prodCnt n w
    Drains w r.2 ∧ r.2.priv = w.priv ∧ r.2.dmaLive = w.dmaLive ∧
      ∃ vs : List (BitVec 32), r.2.log = w.log ++ vs.map .polled ∧ vs.length ≤ n ∧
        (r.1 = true ↔ prodCnt ∈ vs) ∧ (r.1 = false → vs.length = n) ∧
        (r.1 = true → r.2.dev.eventCounter = prodCnt) := by
  induction n generalizing w with
  | zero => exact ⟨.refl w, rfl, rfl, [], by simp [waitForCmdLoop]⟩
  | succ n ih =>
    have hd : Drains w ((w.yield g).note (.polled (w.yield g).dev.eventCounter)) :=
      (drains_yield g w).trans (drains_note _ _)
    dsimp only
    rw [waitForCmdLoop_succ]
    by_cases hseen : (w.yield g).dev.eventCounter = prodCnt
    · rw [if_pos hseen]
      exact ⟨hd, by simp, by simp, [(w.yield g).dev.eventCounter], by simp [hseen]⟩
    · rw [if_neg hseen]
      obtain ⟨hd', hp, hm, vs, hlog, hlen, hiff, hto, hev⟩ :=
        ih ((w.yield g).note (.polled (w.yield g).dev.eventCounter))
      refine ⟨hd.trans hd', by simp [hp], by simp [hm], (w.yield g).dev.eventCounter :: vs,
        by simp [hlog], by simpa using hlen, ?_, fun h => by simpa using hto h, hev⟩
      rw [hiff, List.mem_cons]
      exact ⟨Or.inr, fun h => h.resolve_left (Ne.symm hseen)⟩

theorem scanOne_spec (i : Nat) (w : World) :
    let r := scanOne g i w
    let status := ((w.yield g).ring (BitVec.ofNat 32 i &&& w.priv.adminqMask).toNat).status
    r.1 = adminqStatusRc status ∧ Drains w r.2 ∧ r.2.dmaLive = w.dmaLive ∧
      r.2.log = w.log ++ [.examined (BitVec.ofNat 32 i) status] ∧
      r.2.priv = { w.priv with adminqCmdFail :=
                     w.priv.adminqCmdFail + BitVec.ofNat 32 (if countsAsFailure status then 1 else 0) } := by
  refine ⟨by simp [scanOne, gveAdminqParseErr], (drains_yield g w).trans (.of_eq ?_ ?_ ?_ rfl rfl),
    by simp [scanOne], by simp [scanOne], by simp [scanOne, parseErr_snd]⟩ <;>
    simp [scanOne, parseErr_snd]

theorem scanCompletions_spec (is : List Nat) (w : World) :
    let r := scanCompletions g is w
    Drains w r.2 ∧ r.2.dmaLive = w.dmaLive ∧
      ∃ exams : List (BitVec 32 × BitVec 32),
        r.2.log = w.log ++ examinedEvents exams ∧
        r.2.priv =
          { w.priv with adminqCmdFail := w.priv.adminqCmdFail + BitVec.ofNat 32 (failures exams) } ∧
        exams.map Prod.fst = (is.take exams.length).map (BitVec.ofNat 32) ∧
        (∀ e ∈ exams.dropLast, e.2 = AdminqStatus.passed.code) ∧
        r.1 = (exams.getLast?.map fun e => adminqStatusRc e.2).getD .ok ∧
        (r.1 = .ok → exams.length = is.length) := by
  induction is generalizing w with
  | nil => exact ⟨.refl w, rfl, [], by simp [scanCompletions, examinedEvents, failures]⟩
  | cons i is ih =>
    obtain ⟨hrc, hd, hm, hlog, hp⟩ := scanOne_spec g i w
    generalize ((w.yield g).ring (BitVec.ofNat 32 i &&& w.priv.adminqMask).toNat).status = status
      at hrc hlog hp
    rcases hr : scanOne g i w with ⟨rc, w₂⟩
    rw [hr] at hrc hd hm hlog hp
    dsimp only at hrc hd hm hlog hp ⊢
    simp only [scanCompletions, hr]
    cases rc with
    | err e =>
      refine ⟨hd, hm, [(BitVec.ofNat 32 i, status)], by simp [hlog, examinedEvents],
        by cases h : countsAsFailure status <;> simp [hp, failures, h], by simp, by simp,
        by simp [hrc], by simp⟩
    | ok =>
      obtain ⟨hd', hm', exams, hlog', hp', hidx, hpass, hres, hlen⟩ := ih w₂
      have hpassed : status = AdminqStatus.passed.code := adminqStatusRc_eq_ok.mp hrc.symm
      refine ⟨hd.trans hd', hm'.trans hm, (BitVec.ofNat 32 i, status) :: exams,
        by simp [hlog', hlog, examinedEvents], ?_, by simp [hidx], ?_, ?_, ?_⟩
      · rw [hp', hp]
        simp [failures, hpassed, countsAsFailure]
      · intro e he
        cases exams with
        | nil => simp at he
        | cons x xs =>
          rcases List.mem_cons.mp (by simpa [List.dropLast_cons₂] using he) with rfl | he
          · exact hpassed
          · exact hpass e he
      · cases exams with
        | nil => simpa [← hrc] using hres
        | cons x xs => simpa using hres
      · intro hok; simp [hlen hok]

theorem kickCmd_spec (head : BitVec 32) (w : World) :
    let r := gveAdminqKickCmd g head w
    r.priv = w.priv ∧ r.dmaLive = w.dmaLive ∧ r.log = w.log ++ [.kicked head] ∧
      r.dev.doorbell = head ∧ r.dev.eventCounter = (w.yield g).dev.eventCounter := by
  simp [gveAdminqKickCmd]

/-- Ringing the doorbell with the producer counter announces every outstanding command. -/
theorem ringInv_kickCmd {w : World} (hinv : RingInv g w) (hok : w.priv.adminqOk = true) :
    RingInv g (gveAdminqKickCmd g w.priv.adminqProdCnt w) := by
  have hd := drains_yield g w
  have hinv₁ := hd.ringInv g hinv
  obtain ⟨hp, -, -, hdb, hev⟩ := kickCmd_spec g w.priv.adminqProdCnt w
  have hout : outstanding (gveAdminqKickCmd g w.priv.adminqProdCnt w) = outstanding (w.yield g) := by
    simp only [outstanding, hp, hev, World.yield_priv]
  have hkick : kicked (gveAdminqKickCmd g w.priv.adminqProdCnt w) = outstanding (w.yield g) := by
    simp only [kicked, hdb, hev, outstanding, World.yield_priv]
  refine ⟨by omega, fun h => ?_, fun h => ?_, fun h => ?_⟩
  · rw [hout]; exact hinv₁.bounded (by simpa [hp] using h)
  · rw [hp]; exact hinv.mask_eq hok
  · rw [hp, hok] at h; cases h

theorem kickAndWait_eq (w : World) :
    gveAdminqKickAndWait g w =
      let w₁ := w.yield g
      let head := w₁.priv.adminqProdCnt
      let r := waitForCmdLoop g head gveMaxAdminqEventCounterCheck (gveAdminqKickCmd g head w₁)
      if r.1 then
        scanCompletions g
          (List.range' w₁.dev.eventCounter.toNat (head.toNat - w₁.dev.eventCounter.toNat)) r.2
      else (.err .enotrecoverable,
        ({ r.2 with priv := { r.2.priv with adminqTimeouts := r.2.priv.adminqTimeouts + 1 } }).note
          .timedOut) := by
  unfold gveAdminqKickAndWait readEventCounter gveAdminqWaitForCmd
  dsimp only

/-- `kick_and_wait` rings the doorbell with the producer counter and polls. A timeout examines
nothing and counts itself; otherwise the device has caught up and the scan examines the
completed commands in order, stopping at the first status that is not PASSED. -/
theorem kickAndWait_spec {w : World} (hinv : RingInv g w) (hok : w.priv.adminqOk = true) :
    let r := gveAdminqKickAndWait g w
    let head := w.priv.adminqProdCnt
    let tail := (w.yield g).dev.eventCounter
    RingInv g r.2 ∧ r.2.dmaLive = w.dmaLive ∧ (∃ k, window g r.2 = (window g w).drop k) ∧
      ∃ (vs : List (BitVec 32)) (exams : List (BitVec 32 × BitVec 32)),
        r.2.log = w.log ++ .kicked head :: vs.map .polled ++
          (if head ∈ vs then [] else [.timedOut]) ++ examinedEvents exams ∧
        vs.length ≤ gveMaxAdminqEventCounterCheck ∧
        (r.1 = .err .enotrecoverable ↔ head ∉ vs) ∧
        (r.1 = .err .enotrecoverable → exams = [] ∧ vs.length = gveMaxAdminqEventCounterCheck ∧
          r.2.priv = { w.priv with adminqTimeouts := w.priv.adminqTimeouts + 1 }) ∧
        (r.1 ≠ .err .enotrecoverable →
          r.2.dev.eventCounter = head ∧ r.2.dev.doorbell = head ∧
          r.2.priv =
            { w.priv with adminqCmdFail := w.priv.adminqCmdFail + BitVec.ofNat 32 (failures exams) } ∧
          exams.map Prod.fst =
            ((List.range' tail.toNat (head.toNat - tail.toNat)).take exams.length).map
              (BitVec.ofNat 32) ∧
          (∀ e ∈ exams.dropLast, e.2 = AdminqStatus.passed.code) ∧
          r.1 = (exams.getLast?.map fun e => adminqStatusRc e.2).getD .ok ∧
          (r.1 = .ok → exams.length = head.toNat - tail.toNat)) := by
  have hhead : (w.yield g).priv.adminqProdCnt = w.priv.adminqProdCnt := by simp
  have hinv₁ := (drains_yield g w).ringInv g hinv
  have hinv₂ := ringInv_kickCmd g hinv₁ (by simpa using hok)
  obtain ⟨k₁, -, hw₁⟩ := (drains_yield g w).window_eq g hinv
  obtain ⟨k₂, -, hw₂⟩ := (drains_yield g (w.yield g)).window_eq g hinv₁
  have hw₂' : window g (gveAdminqKickCmd g w.priv.adminqProdCnt (w.yield g)) =
      (window g w).drop (k₁ + k₂) := by
    rw [← List.drop_drop, ← hw₁, ← hw₂]; rfl
  rw [hhead] at hinv₂
  rw [kickAndWait_eq]
  dsimp only
  rw [hhead]
  obtain ⟨hp₂, hm₂, hlog₂, hdb₂, -⟩ := kickCmd_spec g w.priv.adminqProdCnt (w.yield g)
  obtain ⟨hd₃, hp₃, hm₃, vs, hlog₃, hlen₃, hiff, hto₃, hev₃⟩ := waitForCmdLoop_spec g
    w.priv.adminqProdCnt gveMaxAdminqEventCounterCheck
    (gveAdminqKickCmd g w.priv.adminqProdCnt (w.yield g))
  generalize waitForCmdLoop g w.priv.adminqProdCnt gveMaxAdminqEventCounterCheck
    (gveAdminqKickCmd g w.priv.adminqProdCnt (w.yield g)) = r at hd₃ hp₃ hm₃ hlog₃ hiff hto₃ hev₃ ⊢
  obtain ⟨seen, w₃⟩ := r
  dsimp only at hd₃ hp₃ hm₃ hlog₃ hiff hto₃ hev₃ ⊢
  have hinv₃ := hd₃.ringInv g hinv₂
  obtain ⟨k₃, -, hw₃⟩ := hd₃.window_eq g hinv₂
  rw [hw₂', List.drop_drop] at hw₃
  cases seen with
  | false =>
    simp only [Bool.false_eq_true, if_false]
    refine ⟨Drains.ringInv g hinv₃ (.of_eq rfl rfl rfl rfl rfl), by simp [hm₃, hm₂], ⟨_, hw₃⟩, vs, [],
      by simp [hlog₃, hlog₂, examinedEvents, show w.priv.adminqProdCnt ∉ vs by simpa using hiff],
      hlen₃, by simpa using hiff, fun _ => ⟨rfl, hto₃ rfl, ?_⟩,
      fun h => absurd rfl h⟩
    show { w₃.priv with adminqTimeouts := w₃.priv.adminqTimeouts + 1 } = _
    rw [hp₃, hp₂, World.yield_priv]
  | true =>
    simp only [if_true]
    have hidle : w₃.dev.eventCounter = w₃.dev.doorbell := by
      rw [hev₃ rfl, hd₃.doorbell, hdb₂]
    obtain ⟨hd₄, hm₄, exams, hlog₄, hp₄, hidx, hpass, hres, hlen⟩ :=
      scanCompletions_spec g (List.range' (w.yield g).dev.eventCounter.toNat
        (w.priv.adminqProdCnt.toNat - (w.yield g).dev.eventCounter.toNat)) w₃
    have hnot : (scanCompletions g (List.range' (w.yield g).dev.eventCounter.toNat
        (w.priv.adminqProdCnt.toNat - (w.yield g).dev.eventCounter.toNat)) w₃).1 ≠
        .err .enotrecoverable := by
      rw [hres]
      cases exams.getLast? with
      | none => simp
      | some e => exact adminqStatusRc_ne_enotrecoverable e.2
    obtain ⟨k₄, -, hw₄⟩ := hd₄.window_eq g hinv₃
    rw [hw₃, List.drop_drop] at hw₄
    refine ⟨hd₄.ringInv g hinv₃, by simp [hm₄, hm₃, hm₂], ⟨_, hw₄⟩, vs, exams,
      by simp [hlog₄, hlog₃, hlog₂, hiff.mp rfl], hlen₃, by simpa [hnot] using hiff, fun h => absurd h hnot,
      fun _ => ⟨?_, ?_, ?_, ?_, hpass, hres, fun h => by simpa using hlen h⟩⟩
    · rw [hd₄.eventCounter_of_idle hidle, hev₃ rfl]
    · rw [hd₄.doorbell, hd₃.doorbell, hdb₂]
    · rw [hp₄, hp₃, hp₂, World.yield_priv]
    · rw [hidx, List.map_take]

/-- What `kick_and_wait` logs before its examinations: the doorbell, the polls, and a timeout
unless the device was seen caught up. -/
theorem mem_kickEvents {e : AqEvent} {head : BitVec 32} {vs : List (BitVec 32)}
    (he : e ∈ .kicked head :: vs.map .polled ++ (if head ∈ vs then [] else [.timedOut])) :
    e = .kicked head ∨ (∃ v, e = .polled v) ∨ e = .timedOut := by
  simp only [List.cons_append, List.mem_cons, List.mem_append, List.mem_map] at he
  rcases he with rfl | ⟨v, -, rfl⟩ | he
  · exact .inl rfl
  · exact .inr (.inl ⟨v, rfl⟩)
  · split_ifs at he
    · simp at he
    · exact .inr (.inr (List.mem_singleton.mp he))

theorem kickAndWait_accounted {w : World} (hinv : RingInv g w) (hok : w.priv.adminqOk = true) :
    Accounted g w (gveAdminqKickAndWait g w).2 := by
  obtain ⟨-, -, ⟨k, hw⟩, vs, exams, hlog, -, hiff, hto, hdone⟩ := kickAndWait_spec g hinv hok
  have hmem : ∀ e ∈ AqEvent.kicked w.priv.adminqProdCnt :: vs.map AqEvent.polled ++
      (if w.priv.adminqProdCnt ∈ vs then [] else [AqEvent.timedOut]) ++ examinedEvents exams,
      (e.Safe g ∧ e.transport) ∧ e.request? = none := by
    intro e he
    rcases List.mem_append.mp he with he | he
    · rcases mem_kickEvents he with rfl | ⟨v, rfl⟩ | rfl <;> exact ⟨⟨trivial, rfl⟩, rfl⟩
    · obtain ⟨x, -, rfl⟩ := List.mem_map.mp he
      exact ⟨⟨trivial, rfl⟩, rfl⟩
  refine ⟨_, by simp [hlog], fun e he => (hmem e he).1, fun s => ?_,
    ⟨k, by rw [List.filterMap_eq_nil_iff.mpr fun e he => (hmem e he).2, List.append_nil, hw]⟩⟩
  by_cases h : (gveAdminqKickAndWait g w).1 = .err .enotrecoverable
  · obtain ⟨rfl, -, hp⟩ := hto h
    rw [hp, if_neg (hiff.mp h)]
    cases s <;> simp [Priv.stat, AqEvent.counts, examinedEvents, Function.comp_def, AqEvent.isWrite,
      AqEvent.failed, AqEvent.isTimeout, AqEvent.wrote]
  · obtain ⟨-, -, hp, -⟩ := hdone h
    rw [hp, if_pos (not_not.mp (mt hiff.mpr h))]
    cases s <;> simp [Priv.stat, AqEvent.counts, examinedEvents, failures, Function.comp_def,
      AqEvent.isWrite, AqEvent.failed, AqEvent.isTimeout, AqEvent.wrote]

/-- `issue_cmd`'s copy of the command into slot `adminq_prod_cnt & adminq_mask`, with the
producer counter advanced. -/
def copyIntoRing (cmd : AdminqCommand) (w : World) : World :=
  let prod := w.priv.adminqProdCnt
  let slot := (prod &&& w.priv.adminqMask).toNat
  ({ w with
    ring := setSlot w.ring slot cmd
    priv := { w.priv with adminqProdCnt := prod + 1 } }).note (.written slot prod w.dev.eventCounter cmd)

theorem writeCommand_eq (cmd : AdminqCommand) (w : World) :
    writeCommand g cmd w =
      let slot := ((w.yield g).priv.adminqProdCnt &&& (w.yield g).priv.adminqMask).toNat
      let w₃ := (copyIntoRing cmd (w.yield g)).yield g
      (.ok, { w₃ with priv := gveAdminqCountOpcode (w₃.ring slot).opcode w₃.priv }) := rfl

theorem outstanding_copyIntoRing (cmd : AdminqCommand) {w : World}
    (hroom : outstanding w < g.slots) : outstanding (copyIntoRing cmd w) = outstanding w + 1 := by
  have := g.slots_le
  exact add_one_sub_toNat _ _ (Nat.lt_of_lt_of_le (Nat.succ_lt_succ hroom) (by omega))

/-- The copy appends its request to the window: the producer's slot is the one after the
window's last, and differs from every slot in it. -/
theorem window_copyIntoRing (cmd : AdminqCommand) {w : World} (hinv : RingInv g w)
    (hok : w.priv.adminqOk = true) (hroom : outstanding w < g.slots) :
    window g (copyIntoRing cmd w) = window g w ++ [cmd.request] := by
  have hprod : w.dev.eventCounter + BitVec.ofNat 32 (outstanding w) = w.priv.adminqProdCnt :=
    add_ofNat_sub_toNat _ _
  have hslot : (w.priv.adminqProdCnt &&& w.priv.adminqMask).toNat =
      ((w.dev.eventCounter + BitVec.ofNat 32 (outstanding w)) &&& g.mask).toNat := by
    rw [hprod, hinv.mask_eq hok]
  rw [window, outstanding_copyIntoRing g cmd hroom, windowFrom_succ]
  simp only [copyIntoRing, World.note_ring, World.note_dev, hslot, setSlot_same]
  exact congrArg (· ++ [cmd.request]) (windowFrom_congr g _ _ fun j hj =>
    congrArg AdminqCommand.request (setSlot_ne _ _ (g.slot_ne _ hroom hj).symm))

theorem ringInv_copyIntoRing (cmd : AdminqCommand) {w : World} (hinv : RingInv g w)
    (hok : w.priv.adminqOk = true) (hroom : outstanding w < g.slots) :
    RingInv g (copyIntoRing cmd w) := by
  have hout := outstanding_copyIntoRing g cmd hroom
  have hk : kicked (copyIntoRing cmd w) = kicked w := rfl
  refine ⟨by rw [hk, hout]; have := hinv.kicked_le; omega, fun _ => by rw [hout]; exact hroom,
    fun _ => hinv.mask_eq hok, fun h => ?_⟩
  simp [copyIntoRing, hok] at h

/-- The write step of `issue_cmd`, entered with room in the ring. -/
theorem writeCommand_spec (cmd : AdminqCommand) {w : World} (hinv : RingInv g w)
    (hok : w.priv.adminqOk = true) (hroom : outstanding w < g.slots) :
    let r := writeCommand g cmd w
    let prod := w.priv.adminqProdCnt
    let ev := (w.yield g).dev.eventCounter
    r.1 = .ok ∧ RingInv g r.2 ∧ r.2.dmaLive = w.dmaLive ∧
      r.2.log = w.log ++ [.written (prod &&& g.mask).toNat prod ev cmd] ∧
      (prod - ev).toNat < g.slots ∧
      r.2.priv = gveAdminqCountOpcode cmd.opcode { w.priv with adminqProdCnt := prod + 1 } := by
  have hd₁ := drains_yield g w
  have hroom₁ : outstanding (w.yield g) < g.slots :=
    Nat.lt_of_le_of_lt (hd₁.outstanding_le g hinv) hroom
  have hinv₂ := ringInv_copyIntoRing g cmd (hd₁.ringInv g hinv) (by simpa using hok) hroom₁
  have hop : (((copyIntoRing cmd (w.yield g)).yield g).ring
      ((w.yield g).priv.adminqProdCnt &&& (w.yield g).priv.adminqMask).toNat).opcode = cmd.opcode := by
    rw [(World.yield_ring _ _).1]; simp [copyIntoRing]
  rw [writeCommand_eq]
  refine ⟨rfl, Drains.ringInv g ((drains_yield g _).ringInv g hinv₂) (.of_eq (by simp) (by simp)
    (by simp) rfl rfl), by simp [copyIntoRing], by simp [copyIntoRing, hinv.mask_eq hok], ?_, ?_⟩
  · simpa [outstanding] using hroom₁
  · show gveAdminqCountOpcode _ _ = _
    rw [hop]
    simp [copyIntoRing]

/-- The write appends its request to the window, while the device may consume from the front. -/
theorem writeCommand_window (cmd : AdminqCommand) {w : World} (hinv : RingInv g w)
    (hok : w.priv.adminqOk = true) (hroom : outstanding w < g.slots) :
    ∃ k, window g (writeCommand g cmd w).2 = (window g w ++ [cmd.request]).drop k := by
  have hd₁ := drains_yield g w
  have hinv₁ := hd₁.ringInv g hinv
  have hroom₁ : outstanding (w.yield g) < g.slots :=
    Nat.lt_of_le_of_lt (hd₁.outstanding_le g hinv) hroom
  obtain ⟨k₁, hk₁, hw₁⟩ := hd₁.window_eq g hinv
  obtain ⟨k₂, -, hw₂⟩ := (drains_yield g (copyIntoRing cmd (w.yield g))).window_eq g
    (ringInv_copyIntoRing g cmd hinv₁ (by simpa using hok) hroom₁)
  have hc : window g (writeCommand g cmd w).2 = window g ((copyIntoRing cmd (w.yield g)).yield g) :=
    window_congr g rfl rfl (by simp [writeCommand_eq])
  refine ⟨k₁ + k₂, ?_⟩
  rw [hc, hw₂,
    window_copyIntoRing g cmd hinv₁ (by simpa using hok) hroom₁, hw₁,
    ← List.drop_append_of_le_length (by simpa [window] using hk₁), List.drop_drop]

theorem accounted_yield {w : World} (hinv : RingInv g w) : Accounted g w (w.yield g) := by
  obtain ⟨k, -, hw⟩ := (drains_yield g w).window_eq g hinv
  exact ⟨[], by simp, by simp, fun s => by simp, k, by simpa using hw⟩

theorem writeCommand_accounted (cmd : AdminqCommand) {w : World} (hinv : RingInv g w)
    (hok : w.priv.adminqOk = true) (hroom : outstanding w < g.slots) :
    Accounted g w (writeCommand g cmd w).2 := by
  obtain ⟨-, -, -, hlog, hsafe, hp⟩ := writeCommand_spec g cmd hinv hok hroom
  refine ⟨_, hlog, ?_, fun s => ?_,
    by simpa [AqEvent.request?] using writeCommand_window g cmd hinv hok hroom⟩
  · simp only [List.mem_singleton, forall_eq]
    exact ⟨⟨rfl, hsafe⟩, rfl⟩
  cases s with
  | issued op =>
    rw [Priv.stat, Priv.stat, hp, issueCnt_countOpcode, issueCnt_setProdCnt]
    by_cases h : op.code = cmd.opcode
    · simp [AqEvent.counts, AqEvent.wrote, h]
    · simp [AqEvent.counts, AqEvent.wrote, h, Ne.symm h]
  | _ => simp [Priv.stat, hp, AqEvent.counts, AqEvent.isWrite, AqEvent.failed, AqEvent.isTimeout]

/-- A drained ring has an idle device: nothing is announced that is not complete. -/
theorem RingInv.eventCounter_eq_doorbell {w : World} (hinv : RingInv g w)
    (h : w.dev.eventCounter = w.priv.adminqProdCnt) : w.dev.eventCounter = w.dev.doorbell := by
  have h0 : outstanding w = 0 := sub_toNat_eq_zero.mpr h.symm
  have := hinv.kicked_le
  exact (sub_toNat_eq_zero.mp (by omega : kicked w = 0)).symm

/-- `issue_cmd`'s space check fails only with a full ring. -/
theorem room_of_not_full {w : World} (hinv : RingInv g w) (hok : w.priv.adminqOk = true)
    (h : ¬ w.priv.adminqProdCnt - w.dev.eventCounter > w.priv.adminqMask) :
    outstanding w < g.slots := by
  rw [hinv.mask_eq hok, gt_iff_lt, BitVec.not_lt, BitVec.le_def, AdminqSize.mask_toNat] at h
  have := g.slots_pos
  exact Nat.lt_of_le_of_lt h (by omega)

theorem kickAndWait_frame {w : World} (hinv : RingInv g w) (hok : w.priv.adminqOk = true) :
    (gveAdminqKickAndWait g w).2.priv.adminqOk = true ∧
      (gveAdminqKickAndWait g w).2.priv.adminqProdCnt = w.priv.adminqProdCnt ∧
      (∀ op, (gveAdminqKickAndWait g w).2.priv.issueCnt op = w.priv.issueCnt op) ∧
      (gveAdminqKickAndWait g w).2.priv.aqMem = w.priv.aqMem := by
  obtain ⟨-, -, -, vs, exams, -, -, -, hto, hdone⟩ := kickAndWait_spec g hinv hok
  by_cases h : (gveAdminqKickAndWait g w).1 = .err .enotrecoverable
  · rw [(hto h).2.2]; exact ⟨hok, rfl, fun op => issueCnt_setTimeouts _ _ op, rfl⟩
  · rw [(hdone h).2.2.1]; exact ⟨hok, rfl, fun op => issueCnt_setCmdFail _ _ op, rfl⟩

theorem issueCmd_eq (cmd : AdminqCommand) (w : World) :
    gveAdminqIssueCmd g cmd w =
      let w₁ := w.yield g
      if w₁.priv.adminqProdCnt - w₁.dev.eventCounter > w₁.priv.adminqMask then
        match gveAdminqKickAndWait g w₁ with
        | (.err e, w₂) => (.err e, w₂)
        | (.ok, w₂) =>
          let w₃ := w₂.yield g
          if w₃.priv.adminqProdCnt - w₃.dev.eventCounter > w₃.priv.adminqMask then
            (.err .enomem, w₃.note .noSpace)
          else writeCommand g cmd w₃
      else writeCommand g cmd w₁ := by
  unfold gveAdminqIssueCmd readEventCounter
  rfl

/-- From a drained ring, `issue_cmd` goes straight to the write. -/
theorem issueCmd_of_idle (cmd : AdminqCommand) {w : World} (hinv : RingInv g w)
    (hidle : w.dev.eventCounter = w.priv.adminqProdCnt) :
    gveAdminqIssueCmd g cmd w = writeCommand g cmd (w.yield g) := by
  have hev : (w.yield g).dev.eventCounter = w.dev.eventCounter :=
    (drains_yield g w).eventCounter_of_idle (hinv.eventCounter_eq_doorbell g hidle)
  rw [issueCmd_eq]
  dsimp only
  rw [if_neg (by simp [hev, hidle, BitVec.le_def])]

/-- What a transport call keeps: the ring invariant, the queue allocated, the DMA allocations
and the ring page, and the accounting of its events. -/
structure Keeps (w w' : World) : Prop where
  ringInv : RingInv g w'
  ok : w'.priv.adminqOk = true
  dmaLive : w'.dmaLive = w.dmaLive
  aqMem : w'.priv.aqMem = w.priv.aqMem
  accounted : Accounted g w w'

theorem Keeps.trans {w w' w'' : World} (h : Keeps g w w') (h' : Keeps g w' w'') :
    Keeps g w w'' :=
  ⟨h'.ringInv, h'.ok, h'.dmaLive.trans h.dmaLive, h'.aqMem.trans h.aqMem,
    h.accounted.trans g h'.accounted⟩

theorem keeps_yield {w : World} (hinv : RingInv g w) (hok : w.priv.adminqOk = true) :
    Keeps g w (w.yield g) :=
  ⟨(drains_yield g w).ringInv g hinv, by simpa using hok, by simp, by simp, accounted_yield g hinv⟩

theorem writeCommand_keeps (cmd : AdminqCommand) {w : World} (hinv : RingInv g w)
    (hok : w.priv.adminqOk = true) (hroom : outstanding w < g.slots) :
    Keeps g w (writeCommand g cmd w).2 := by
  obtain ⟨-, hinv', hm, -, -, hp⟩ := writeCommand_spec g cmd hinv hok hroom
  exact ⟨hinv', by simp [hp, hok], hm, by simp [hp], writeCommand_accounted g cmd hinv hok hroom⟩

theorem kickAndWait_keeps {w : World} (hinv : RingInv g w) (hok : w.priv.adminqOk = true) :
    Keeps g w (gveAdminqKickAndWait g w).2 :=
  ⟨(kickAndWait_spec g hinv hok).1, (kickAndWait_frame g hinv hok).1,
    (kickAndWait_spec g hinv hok).2.1, (kickAndWait_frame g hinv hok).2.2.2,
    kickAndWait_accounted g hinv hok⟩

/-- `issue_cmd` keeps the ring invariant and accounts for what it does. Its "should never
happen" branch is never taken: a drain that succeeds leaves the device caught up. -/
theorem issueCmd_keeps (cmd : AdminqCommand) {w : World} (hinv : RingInv g w)
    (hok : w.priv.adminqOk = true) : Keeps g w (gveAdminqIssueCmd g cmd w).2 := by
  have hy := keeps_yield g hinv hok
  rw [issueCmd_eq]
  dsimp only
  by_cases hfull : (w.yield g).priv.adminqProdCnt - (w.yield g).dev.eventCounter >
      (w.yield g).priv.adminqMask
  · rw [if_pos hfull]
    obtain ⟨-, -, -, vs, exams, -, -, -, -, hdone⟩ := kickAndWait_spec g hy.ringInv hy.ok
    have hk := hy.trans g (kickAndWait_keeps g hy.ringInv hy.ok)
    have hprod := (kickAndWait_frame g hy.ringInv hy.ok).2.1
    rcases hkw : gveAdminqKickAndWait g (w.yield g) with ⟨rc, w₂⟩
    rw [hkw] at hdone hk hprod
    cases rc with
    | err e => exact hk
    | ok =>
      obtain ⟨hev₂, -⟩ := hdone (by simp)
      have hidle : w₂.dev.eventCounter = w₂.priv.adminqProdCnt := hev₂.trans hprod.symm
      have hev₃ : (w₂.yield g).dev.eventCounter = w₂.dev.eventCounter :=
        (drains_yield g w₂).eventCounter_of_idle (hk.ringInv.eventCounter_eq_doorbell g hidle)
      have hy₂ := hk.trans g (keeps_yield g hk.ringInv hk.ok)
      have hroom : outstanding (w₂.yield g) < g.slots := by
        rw [outstanding, hev₃, World.yield_priv, hidle, BitVec.sub_self]
        exact g.slots_pos
      dsimp only
      rw [if_neg (by simp [hev₃, hidle, BitVec.le_def])]
      exact hy₂.trans g (writeCommand_keeps g cmd hy₂.ringInv hy₂.ok hroom)
  · rw [if_neg hfull]
    exact hy.trans g (writeCommand_keeps g cmd hy.ringInv hy.ok
      (room_of_not_full g hy.ringInv hy.ok hfull))

theorem executeCmd_eq (cmd : AdminqCommand) (w : World) :
    gveAdminqExecuteCmd g cmd w =
      let w₁ := w.yield g
      let r : Rc × World :=
        if w₁.dev.eventCounter ≠ w₁.priv.adminqProdCnt then (.err .einval, w₁)
        else
          match gveAdminqIssueCmd g cmd w₁ with
          | (.err e, w) => (.err e, w)
          | (.ok, w) => gveAdminqKickAndWait g w
      (r.1, r.2.note (.executed cmd r.1)) := rfl

/-- `execute_cmd` is a transport call followed by the record of its result. -/
theorem executeCmd_keeps (cmd : AdminqCommand) {w : World} (hinv : RingInv g w)
    (hok : w.priv.adminqOk = true) :
    ∃ w', Keeps g w w' ∧
      gveAdminqExecuteCmd g cmd w =
        ((gveAdminqExecuteCmd g cmd w).1, w'.note (.executed cmd (gveAdminqExecuteCmd g cmd w).1)) := by
  have hy := keeps_yield g hinv hok
  have hr : Keeps g w (if (w.yield g).dev.eventCounter ≠ (w.yield g).priv.adminqProdCnt then
      ((.err .einval, w.yield g) : Rc × World)
      else match gveAdminqIssueCmd g cmd (w.yield g) with
        | (.err e, w) => (.err e, w)
        | (.ok, w) => gveAdminqKickAndWait g w).2 := by
    split_ifs
    · exact hy
    · have hi := hy.trans g (issueCmd_keeps g cmd hy.ringInv hy.ok)
      rcases hiss : gveAdminqIssueCmd g cmd (w.yield g) with ⟨_ | e, w₂⟩
      all_goals rw [hiss] at hi
      · exact hi.trans g (kickAndWait_keeps g hi.ringInv hi.ok)
      · exact hi
  exact ⟨_, hr, by rw [executeCmd_eq]⟩

theorem executeCmd_frame (cmd : AdminqCommand) {w : World} (hinv : RingInv g w)
    (hok : w.priv.adminqOk = true) :
    let r := (gveAdminqExecuteCmd g cmd w).2
    r.priv.adminqOk = true ∧ r.priv.aqMem = w.priv.aqMem ∧ r.dmaLive = w.dmaLive := by
  obtain ⟨w', hk, he⟩ := executeCmd_keeps g cmd hinv hok
  rw [he]
  exact ⟨hk.ok, hk.aqMem, hk.dmaLive⟩

end GveAdminq
