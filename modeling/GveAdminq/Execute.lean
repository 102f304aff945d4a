import GveAdminq.Session

namespace GveAdminq

variable (g : AdminqSize)

theorem executeCmd_of_busy (cmd : AdminqCommand) {w : World}
    (h : (w.yield g).dev.eventCounter ≠ w.priv.adminqProdCnt) :
    gveAdminqExecuteCmd g cmd w = (.err .einval, (w.yield g).note (.executed cmd (.err .einval))) := by
  rw [executeCmd_eq]
  simp [h]

/-- From an idle channel, `execute_cmd` writes into a world that keeps the invariant, is caught
up with the producer and has room for the command. -/
theorem yield_yield_of_idle {w : World} (hinv : RingInv g w) (hok : w.priv.adminqOk = true)
    (hidle : (w.yield g).dev.eventCounter = w.priv.adminqProdCnt) :
    let w₂ := (w.yield g).yield g
    Keeps g w w₂ ∧ w₂.dev.eventCounter = w.priv.adminqProdCnt ∧
      w₂.dev.eventCounter = w₂.dev.doorbell ∧ outstanding w₂ < g.slots := by
  have hy := keeps_yield g hinv hok
  have hy₂ := keeps_yield g hy.ringInv hy.ok
  have hev₂ : ((w.yield g).yield g).dev.eventCounter = w.priv.adminqProdCnt := by
    rw [(drains_yield g _).eventCounter_of_idle
      (hy.ringInv.eventCounter_eq_doorbell g (by simpa using hidle)), hidle]
  refine ⟨hy.trans g hy₂, hev₂, hy₂.ringInv.eventCounter_eq_doorbell g (by simpa using hev₂), ?_⟩
  rw [outstanding, hev₂, World.yield_priv, World.yield_priv, BitVec.sub_self]
  exact g.slots_pos

theorem executeCmd_of_idle (cmd : AdminqCommand) {w : World} (hinv : RingInv g w)
    (h : (w.yield g).dev.eventCounter = w.priv.adminqProdCnt) :
    gveAdminqExecuteCmd g cmd w =
      let r := gveAdminqKickAndWait g (writeCommand g cmd ((w.yield g).yield g)).2
      (r.1, r.2.note (.executed cmd r.1)) := by
  have hinv₁ := (drains_yield g w).ringInv g hinv
  rw [executeCmd_eq]
  dsimp only
  rw [if_neg (by simpa using h), issueCmd_of_idle g cmd hinv₁ (by simpa using h)]
  rfl

/-- Execute is all-or-nothing on a busy channel and exactly one command on an idle one: it times
out, after `GVE_MAX_ADMINQ_EVENT_COUNTER_CHECK` polls, exactly when no poll saw `prod + 1`. -/
theorem execute_cmd_atomic_or_one_step (cmd : AdminqCommand) {w : World} (hr : Reachable g w)
    (hok : w.priv.adminqOk = true) :
    let r := gveAdminqExecuteCmd g cmd w
    let prod := w.priv.adminqProdCnt
    ((w.yield g).dev.eventCounter ≠ prod →
      r.1 = .err .einval ∧ r.2.priv = w.priv ∧ r.2.ring = (w.yield g).ring) ∧
    ((w.yield g).dev.eventCounter = prod →
      ∃ (ev : BitVec 32) (vs : List (BitVec 32)) (exams : List (BitVec 32 × BitVec 32)),
        r.2.log = w.log ++ [.written (prod &&& g.mask).toNat prod ev cmd, .kicked (prod + 1)] ++
          vs.map .polled ++ (if prod + 1 ∈ vs then [] else [.timedOut]) ++ examinedEvents exams ++
          [.executed cmd r.1] ∧
        r.2.priv.adminqProdCnt = prod + 1 ∧
        (∀ op, r.2.priv.issueCnt op =
          w.priv.issueCnt op + if op.code = cmd.opcode then 1 else 0) ∧
        vs.length ≤ gveMaxAdminqEventCounterCheck ∧
        (r.1 = .err .enotrecoverable ↔ prod + 1 ∉ vs) ∧
        (r.1 = .err .enotrecoverable → exams = [] ∧ vs.length = gveMaxAdminqEventCounterCheck ∧
          r.2.priv.adminqTimeouts = w.priv.adminqTimeouts + 1) ∧
        (r.1 ≠ .err .enotrecoverable →
          r.2.dev.eventCounter = r.2.priv.adminqProdCnt ∧
          r.2.priv.adminqTimeouts = w.priv.adminqTimeouts)) := by
  have hinv := (hr.sessionInv g).ringInv
  refine ⟨fun hne => by rw [executeCmd_of_busy g cmd hne]; simp, fun heq => ?_⟩
  obtain ⟨hy₂, -, -, hroom⟩ := yield_yield_of_idle g hinv hok heq
  obtain ⟨-, hinv₃, -, hlog₃, -, hp₃⟩ := writeCommand_spec g cmd hy₂.ringInv hy₂.ok hroom
  have hok₃ : (writeCommand g cmd ((w.yield g).yield g)).2.priv.adminqOk = true := by
    simp [hp₃, hok]
  have hhead : (writeCommand g cmd ((w.yield g).yield g)).2.priv.adminqProdCnt =
      w.priv.adminqProdCnt + 1 := by simp [hp₃]
  have hcnt₃ : ∀ op, (writeCommand g cmd ((w.yield g).yield g)).2.priv.issueCnt op =
      w.priv.issueCnt op + if op.code = cmd.opcode then 1 else 0 := fun op => by
    rw [hp₃, issueCnt_countOpcode]; split_ifs <;> simp
  obtain ⟨-, -, -, vs, exams, hlog₄, hlen, hiff, hto, hdone⟩ := kickAndWait_spec g hinv₃ hok₃
  obtain ⟨-, hprod₄, hcnt₄, -⟩ := kickAndWait_frame g hinv₃ hok₃
  rw [executeCmd_of_idle g cmd hinv heq]
  dsimp only
  refine ⟨(((w.yield g).yield g).yield g).dev.eventCounter, vs, exams,
    by simp [hlog₄, hlog₃, hhead], by simp [hprod₄, hhead], fun op => by simp [hcnt₄, hcnt₃],
    hlen, by rw [← hhead]; exact hiff, fun h => ?_, fun h => ?_⟩
  · obtain ⟨rfl, hl, hp⟩ := hto h
    exact ⟨rfl, hl, by simp [hp, hp₃]⟩
  · obtain ⟨hev, -, hp, -⟩ := hdone h
    exact ⟨by simp [hev, hp, hhead], by simp [hp, hp₃]⟩

theorem execute_cmd_atomic_or_one_step_after_alloc :
    let g : AdminqSize := ⟨6, by decide⟩
    let w := (gveAdminqAlloc g (.ok ⟨0x1000⟩) (World.init fun _ => [some 1])).2
    let cmd := AdminqCommand.zero
    let r := gveAdminqExecuteCmd g cmd w
    let prod := w.priv.adminqProdCnt
    ((w.yield g).dev.eventCounter ≠ prod →
      r.1 = .err .einval ∧ r.2.priv = w.priv ∧ r.2.ring = (w.yield g).ring) ∧
    ((w.yield g).dev.eventCounter = prod →
      ∃ (ev : BitVec 32) (vs : List (BitVec 32)) (exams : List (BitVec 32 × BitVec 32)),
        r.2.log = w.log ++ [.written (prod &&& g.mask).toNat prod ev cmd, .kicked (prod + 1)] ++
          vs.map .polled ++ (if prod + 1 ∈ vs then [] else [.timedOut]) ++ examinedEvents exams ++
          [.executed cmd r.1] ∧
        r.2.priv.adminqProdCnt = prod + 1 ∧
        (∀ op, r.2.priv.issueCnt op =
          w.priv.issueCnt op + if op.code = cmd.opcode then 1 else 0) ∧
        vs.length ≤ gveMaxAdminqEventCounterCheck ∧
        (r.1 = .err .enotrecoverable ↔ prod + 1 ∉ vs) ∧
        (r.1 = .err .enotrecoverable → exams = [] ∧ vs.length = gveMaxAdminqEventCounterCheck ∧
          r.2.priv.adminqTimeouts = w.priv.adminqTimeouts + 1) ∧
        (r.1 ≠ .err .enotrecoverable →
          r.2.dev.eventCounter = r.2.priv.adminqProdCnt ∧
          r.2.priv.adminqTimeouts = w.priv.adminqTimeouts)) :=
  execute_cmd_atomic_or_one_step _ _ (.next (.start _) (.alloc _)) rfl

end GveAdminq
