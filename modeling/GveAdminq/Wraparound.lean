import GveAdminq.Execute

/-! The completion scan of `gve_adminq_kick_and_wait` when the producer counter wraps. A device
that completes each announced command at the driver's next access lets every command finish, so
a run of `execute_cmd` calls reaches every counter value; at 0xFFFFFFFF the next scan
`for (i = tail; i < head; i++)` runs from 0xFFFFFFFF to 0 and visits nothing. -/

namespace GveAdminq

/-- A device that, at each of the driver's accesses, completes one announced command with
status `s`. -/
def steadyDevice (s : BitVec 32) : Nat → List (Option (BitVec 32)) := fun _ => [some s]

variable (g : AdminqSize)

theorem yield_of_steady {s : BitVec 32} {w : World} (henv : w.env = steadyDevice s)
    (hbusy : w.dev.eventCounter ≠ w.dev.doorbell) :
    w.yield g = { w with
      ring := setSlot w.ring (w.dev.eventCounter &&& g.mask).toNat
        { w.ring (w.dev.eventCounter &&& g.mask).toNat with status := s }
      dev := { w.dev with eventCounter := w.dev.eventCounter + 1 }
      clock := w.clock + 1 } := by
  simp only [World.yield, henv, steadyDevice, List.foldl, World.deviceStep, if_neg hbusy]

@[simp] theorem scanCompletions_env (is : List Nat) (w : World) :
    (scanCompletions g is w).2.env = w.env := by
  induction is generalizing w with
  | nil => rfl
  | cons i is ih =>
    simp only [scanCompletions]
    rcases h : scanOne g i w with ⟨_ | e, w'⟩
    · rw [ih, show w' = (scanOne g i w).2 by rw [h]]; simp [scanOne]
    · rw [show w' = (scanOne g i w).2 by rw [h]]; simp [scanOne]

@[simp] theorem writeCommand_env (cmd : AdminqCommand) (w : World) :
    (writeCommand g cmd w).2.env = w.env := by
  simp [writeCommand_eq, copyIntoRing]

/-- `kick_and_wait` with one command announced to a caught-up steady device: the doorbell, one
poll that sees the command completed, and the scan from the old event counter. -/
theorem kickAndWait_of_steady {s : BitVec 32} {w : World} (henv : w.env = steadyDevice s)
    (hidle : w.dev.eventCounter = w.dev.doorbell)
    (hone : w.priv.adminqProdCnt = w.dev.eventCounter + 1) :
    let ev := w.dev.eventCounter
    gveAdminqKickAndWait g w =
      scanCompletions g (List.range' ev.toNat ((ev + 1).toNat - ev.toNat)) { w with
        ring := setSlot w.ring (ev &&& g.mask).toNat
          { w.ring (ev &&& g.mask).toNat with status := s }
        dev := { w.dev with eventCounter := ev + 1, doorbell := ev + 1 }
        clock := w.clock + 3
        log := w.log ++ [.kicked (ev + 1), .polled (ev + 1)] } := by
  rw [kickAndWait_eq, World.yield_of_idle w hidle]
  simp only [gveAdminqKickCmd, gveMaxAdminqEventCounterCheck, hone]
  rw [World.yield_of_idle _ (by exact hidle), waitForCmdLoop_succ,
    yield_of_steady g (by simpa using henv) (by simp)]
  simp [World.note]

theorem writeCommand_dev_of_idle (cmd : AdminqCommand) {w : World}
    (hidle : w.dev.eventCounter = w.dev.doorbell) : (writeCommand g cmd w).2.dev = w.dev := by
  rw [writeCommand_eq, World.yield_of_idle w hidle,
    World.yield_of_idle _ (by simpa [copyIntoRing] using hidle)]
  rfl

/-- `execute_cmd` from a drained ring with a steady device: the write, then `kick_and_wait`
over the one command, which the device completes at the first poll. -/
theorem executeCmd_of_steady (cmd : AdminqCommand) {s : BitVec 32} {w : World}
    (hinv : RingInv g w) (hok : w.priv.adminqOk = true) (henv : w.env = steadyDevice s)
    (hev : w.dev.eventCounter = w.priv.adminqProdCnt) (hdb : w.dev.doorbell = w.priv.adminqProdCnt) :
    let p := w.priv.adminqProdCnt
    let w₃ := (writeCommand g cmd ((w.yield g).yield g)).2
    let r := scanCompletions g (List.range' p.toNat ((p + 1).toNat - p.toNat)) { w₃ with
      ring := setSlot w₃.ring (p &&& g.mask).toNat { w₃.ring (p &&& g.mask).toNat with status := s }
      dev := { w.dev with eventCounter := p + 1, doorbell := p + 1 }
      clock := w₃.clock + 3
      log := w₃.log ++ [.kicked (p + 1), .polled (p + 1)] }
    gveAdminqExecuteCmd g cmd w = (r.1, r.2.note (.executed cmd r.1)) ∧
      RingInv g w₃ ∧ w₃.priv = gveAdminqCountOpcode cmd.opcode { w.priv with adminqProdCnt := p + 1 } ∧
      w₃.log = w.log ++ [.written (p &&& g.mask).toNat p p cmd] := by
  have hidle : w.dev.eventCounter = w.dev.doorbell := hev.trans hdb.symm
  have hy₂ : (w.yield g).yield g = { w with clock := w.clock + 1 + 1 } := by
    rw [World.yield_of_idle w hidle, World.yield_of_idle _ (by exact hidle)]
  have hinv₂ : RingInv g ((w.yield g).yield g) :=
    ((drains_yield g w).trans (drains_yield g _)).ringInv g hinv
  have hroom : outstanding ((w.yield g).yield g) < g.slots := by
    simp only [outstanding, hy₂, hev, BitVec.sub_self]; exact g.slots_pos
  obtain ⟨-, hinv₃, -, hlog₃, -, hp₃⟩ := writeCommand_spec g cmd hinv₂ (by simpa using hok) hroom
  have hdev₂ : ((w.yield g).yield g).dev = w.dev := by rw [hy₂]
  have hdev₃ := writeCommand_dev_of_idle g cmd (w := (w.yield g).yield g) (by rw [hdev₂]; exact hidle)
  simp only [World.yield_priv, World.yield_log, hdev₂] at hlog₃ hp₃ hdev₃
  refine ⟨?_, hinv₃, hp₃, ?_⟩
  · rw [executeCmd_of_idle g cmd hinv (by rw [World.yield_of_idle w hidle]; exact hev),
      kickAndWait_of_steady g (by simpa using henv) (by rw [hdev₃]; exact hidle)
        (by rw [hp₃, hdev₃]; simp [hev])]
    simp only [hdev₃, hev, hinv.mask_eq hok]
  · rw [hlog₃, World.yield_of_idle ((w.yield g).yield g) (by rw [hdev₂]; exact hidle)]
    simp [hdev₂, hev]

theorem scanCompletions_singleton (i : Nat) (w : World) :
    scanCompletions g [i] w = scanOne g i w := by
  simp only [scanCompletions]
  rcases scanOne g i w with ⟨_ | e, w'⟩ <;> rfl

/-- Against a device that completes each announced command at the driver's next access with
status `s`, `execute_cmd` from a drained channel returns `gve_adminq_parse_err`'s translation of
`s`, unless the producer counter wraps with this very command: then it returns 0. -/
theorem execute_cmd_reports_prompt_completion (cmd : AdminqCommand) (s : BitVec 32) {w : World}
    (hr : Reachable g w) (hok : w.priv.adminqOk = true) (henv : w.env = steadyDevice s)
    (hdrained : w.dev.eventCounter = w.priv.adminqProdCnt) :
    (gveAdminqExecuteCmd g cmd w).1 =
      if w.priv.adminqProdCnt = 0xFFFFFFFF then .ok else adminqStatusRc s := by
  have hinv := (hr.sessionInv g).ringInv
  have hdb := (hinv.eventCounter_eq_doorbell g hdrained).symm.trans hdrained
  obtain ⟨heq, -, hp₃, -⟩ := executeCmd_of_steady g cmd hinv hok henv hdrained hdb
  rw [heq]
  split_ifs with hwrap
  · rw [hwrap]; rfl
  · have hlt : w.priv.adminqProdCnt.toNat + 1 < 2 ^ 32 := by
      have := w.priv.adminqProdCnt.isLt
      have : w.priv.adminqProdCnt.toNat ≠ 2 ^ 32 - 1 := fun h => hwrap (BitVec.eq_of_toNat_eq h)
      omega
    have hone : (w.priv.adminqProdCnt + 1).toNat - w.priv.adminqProdCnt.toNat = 1 := by
      rw [BitVec.toNat_add, show (1 : BitVec 32).toNat = 1 from rfl, Nat.mod_eq_of_lt hlt]; omega
    rw [hone, List.range'_one, scanCompletions_singleton, (scanOne_spec g _ _).1,
      World.yield_of_idle _ rfl]
    simp [hp₃, hinv.mask_eq hok]

theorem execute_cmd_reports_prompt_completion_after_alloc :
    let g : AdminqSize := ⟨6, by decide⟩
    let w := (gveAdminqAlloc g (.ok ⟨0x1000⟩) (World.init (steadyDevice 1))).2
    (gveAdminqExecuteCmd g .zero w).1 =
      if w.priv.adminqProdCnt = 0xFFFFFFFF then .ok else adminqStatusRc 1 :=
  execute_cmd_reports_prompt_completion _ _ _ (.next (.start _) (.alloc _)) rfl rfl rfl

theorem scanOne_ring (i : Nat) (w : World) : (scanOne g i w).2.ring = (w.yield g).ring := by
  simp [scanOne]

/-- `kick_and_wait` over one command announced to a caught-up device, below the wrap: the
doorbell and the polls, then, unless it times out, one examination, of that command's slot,
whose status it returns translated and which the device leaves as it is. -/
theorem kickAndWait_one {w : World} (hidle : w.dev.eventCounter = w.dev.doorbell)
    (hone : w.priv.adminqProdCnt = w.dev.eventCounter + 1)
    (hlt : w.dev.eventCounter.toNat + 1 < 2 ^ 32) :
    let r := gveAdminqKickAndWait g w
    let ev := w.dev.eventCounter
    let status := (r.2.ring (ev &&& w.priv.adminqMask).toNat).status
    r.1 = .err .enotrecoverable ∨
      r.1 = adminqStatusRc status ∧ ∃ vs : List (BitVec 32), ev + 1 ∈ vs ∧
        r.2.log = w.log ++ .kicked (ev + 1) :: vs.map .polled ++ [.examined ev status] := by
  obtain ⟨hp₂, -, hlog₂, hdb₂, -⟩ := kickCmd_spec g w.priv.adminqProdCnt (w.yield g)
  obtain ⟨hd₃, hp₃, -, vs, hlog₃, -, hiff, -, hev₃⟩ := waitForCmdLoop_spec g w.priv.adminqProdCnt
    gveMaxAdminqEventCounterCheck (gveAdminqKickCmd g w.priv.adminqProdCnt (w.yield g))
  have htail : (w.yield g).dev.eventCounter = w.dev.eventCounter := by
    rw [World.yield_of_idle w hidle]
  have hone' : (w.dev.eventCounter + 1).toNat - w.dev.eventCounter.toNat = 1 := by
    rw [BitVec.toNat_add, show (1 : BitVec 32).toNat = 1 from rfl, Nat.mod_eq_of_lt hlt]; omega
  rw [kickAndWait_eq]
  simp only [World.yield_priv, htail]
  generalize waitForCmdLoop g _ _ _ = r at hd₃ hp₃ hlog₃ hiff hev₃ ⊢
  obtain ⟨seen, w₄⟩ := r
  dsimp only at hd₃ hp₃ hlog₃ hiff hev₃ ⊢
  cases seen with
  | false => exact .inl rfl
  | true =>
    have hidle₄ : w₄.dev.eventCounter = w₄.dev.doorbell := by rw [hev₃ rfl, hd₃.doorbell, hdb₂]
    have hmask : w₄.priv.adminqMask = w.priv.adminqMask := by simp [hp₃, hp₂]
    obtain ⟨hrc, -, -, hlog₅, -⟩ := scanOne_spec g w.dev.eventCounter.toNat w₄
    simp only [if_true, hone, hone', List.range'_one, scanCompletions_singleton, scanOne_ring,
      World.yield_of_idle w₄ hidle₄, BitVec.ofNat_toNat, BitVec.setWidth_eq] at hrc hlog₅ ⊢
    refine .inr ⟨by rw [hrc, hmask], vs, hone ▸ hiff.mp rfl, ?_⟩
    rw [hlog₅, hlog₃, hlog₂, hmask]
    simp [hone]

/-- Below the wrap, `execute_cmd` on an idle channel times out or examines only its own slot,
after a poll saw the device complete it, and returns the translation of the status there. -/
theorem execute_cmd_reports_own_status (cmd : AdminqCommand) {w : World} (hr : Reachable g w)
    (hok : w.priv.adminqOk = true) (hidle : (w.yield g).dev.eventCounter = w.priv.adminqProdCnt)
    (hwrap : w.priv.adminqProdCnt ≠ 0xFFFFFFFF) :
    let r := gveAdminqExecuteCmd g cmd w
    let p := w.priv.adminqProdCnt
    let status := (r.2.ring (p &&& g.mask).toNat).status
    r.1 = .err .enotrecoverable ∨
      r.1 = adminqStatusRc status ∧ ∃ vs : List (BitVec 32), p + 1 ∈ vs ∧
        r.2.log = w.log ++ [.written (p &&& g.mask).toNat p p cmd, .kicked (p + 1)] ++
          vs.map .polled ++ [.examined p status, .executed cmd r.1] := by
  have hinv := (hr.sessionInv g).ringInv
  obtain ⟨hy₂, hev₂, hidle₂, hroom⟩ := yield_yield_of_idle g hinv hok hidle
  obtain ⟨-, hinv₃, -, hlog₃, -, hp₃⟩ := writeCommand_spec g cmd hy₂.ringInv hy₂.ok hroom
  have hdev₃ := writeCommand_dev_of_idle g cmd hidle₂
  have hlt : w.priv.adminqProdCnt.toNat + 1 < 2 ^ 32 := by
    have := w.priv.adminqProdCnt.isLt
    have : w.priv.adminqProdCnt.toNat ≠ 2 ^ 32 - 1 := fun h => hwrap (BitVec.eq_of_toNat_eq h)
    omega
  have hmask₃ : (writeCommand g cmd ((w.yield g).yield g)).2.priv.adminqMask = g.mask := by
    simp [hp₃, hinv.mask_eq hok]
  have hk := kickAndWait_one g (w := (writeCommand g cmd ((w.yield g).yield g)).2)
    (by rw [hdev₃]; exact hidle₂) (by rw [hp₃, hdev₃, hev₂]; simp) (by rw [hdev₃, hev₂]; exact hlt)
  rw [hdev₃, hev₂, hmask₃] at hk
  rw [executeCmd_of_idle g cmd hinv hidle]
  dsimp only at hk ⊢
  simp only [World.note_ring, World.note_log]
  rcases hk with hto | ⟨hrc, vs, hseen, hlog⟩
  · exact .inl hto
  · refine .inr ⟨hrc, vs, hseen, ?_⟩
    rw [hlog, hlog₃, World.yield_of_idle _ hidle₂, hev₂]
    simp

theorem execute_cmd_reports_own_status_after_alloc :
    let g : AdminqSize := ⟨6, by decide⟩
    let w := (gveAdminqAlloc g (.ok ⟨0x1000⟩) (World.init fun _ => [some 2])).2
    let r := gveAdminqExecuteCmd g .zero w
    let p := w.priv.adminqProdCnt
    let status := (r.2.ring (p &&& g.mask).toNat).status
    (w.yield g).dev.eventCounter = w.priv.adminqProdCnt ∧ w.priv.adminqProdCnt ≠ 0xFFFFFFFF ∧
    (r.1 = .err .enotrecoverable ∨
      r.1 = adminqStatusRc status ∧ ∃ vs : List (BitVec 32), p + 1 ∈ vs ∧
        r.2.log = w.log ++ [.written (p &&& g.mask).toNat p p .zero, .kicked (p + 1)] ++
          vs.map .polled ++ [.examined p status, .executed .zero r.1]) :=
  ⟨by decide, by decide,
    execute_cmd_reports_own_status _ _ (.next (.start _) (.alloc _)) rfl (by decide) (by decide)⟩

/-- With a steady device every `execute_cmd` completes, so each counter value is reached, with
no timeout on the way. -/
theorem reachable_steady_at (s : BitVec 32) (n : Nat) :
    ∃ w, Reachable g w ∧ w.env = steadyDevice s ∧ w.priv.adminqOk = true ∧
      w.priv.adminqTimeouts = 0 ∧ w.priv.adminqProdCnt = BitVec.ofNat 32 n ∧
      w.dev.eventCounter = BitVec.ofNat 32 n ∧ w.dev.doorbell = BitVec.ofNat 32 n := by
  induction n with
  | zero =>
    exact ⟨_, .next (.start (steadyDevice s)) (.alloc (.ok ⟨0x1000⟩)), rfl, rfl, rfl, rfl, rfl, rfl⟩
  | succ n ih =>
    obtain ⟨w, hr, henv, hok, hto, hp, hev, hdb⟩ := ih
    have hinv := (hr.sessionInv g).ringInv
    obtain ⟨heq, -, hp₃, -⟩ := executeCmd_of_steady g .zero hinv hok henv (hev.trans hp.symm)
      (hdb.trans hp.symm)
    refine ⟨_, .next hr (.executeCmd .zero hok), ?_⟩
    rw [heq]
    generalize hK : (⟨_, _, _, _, _, _, _, _⟩ : World) = K
    have hidle : K.dev.eventCounter = K.dev.doorbell := by rw [← hK]
    obtain ⟨hd, -, exams, -, hpriv, -⟩ := scanCompletions_spec g (List.range'
      w.priv.adminqProdCnt.toNat ((w.priv.adminqProdCnt + 1).toNat - w.priv.adminqProdCnt.toNat)) K
    simp only [World.note_env, World.note_priv, World.note_dev, scanCompletions_env, hpriv,
      hd.eventCounter_of_idle hidle, hd.doorbell]
    subst hK
    simp [hp₃, henv, hok, hto, hp, BitVec.ofNat_add_ofNat]

theorem allOnes_and_mask_toNat : ((0xFFFFFFFF : BitVec 32) &&& g.mask).toNat = g.slots - 1 := by
  rw [show (0xFFFFFFFF : BitVec 32) = BitVec.allOnes 32 by decide, BitVec.allOnes_and,
    g.mask_toNat]

/-- After 2^32 - 1 commands the next `execute_cmd` wraps the producer counter: whatever status the
device completes it with, the scan from `0xFFFFFFFF` to `0` examines nothing and it returns 0. -/
theorem completion_unexamined_at_wrap (s : BitVec 32) (cmd : AdminqCommand) :
    ∃ w, Reachable g w ∧ w.env = steadyDevice s ∧ w.priv.adminqOk = true ∧
      w.priv.adminqTimeouts = 0 ∧ w.priv.adminqProdCnt = 0xFFFFFFFF ∧
      w.dev.eventCounter = 0xFFFFFFFF ∧
      let r := gveAdminqExecuteCmd g cmd w
      r.1 = .ok ∧ (r.2.ring (g.slots - 1)).status = s ∧ r.2.priv.adminqTimeouts = 0 ∧
        r.2.log = w.log ++ [.written (g.slots - 1) 0xFFFFFFFF 0xFFFFFFFF cmd, .kicked 0,
          .polled 0, .executed cmd .ok] := by
  obtain ⟨w, hr, henv, hok, hto, hp, hev, hdb⟩ := reachable_steady_at g s (2 ^ 32 - 1)
  have hmax : BitVec.ofNat 32 (2 ^ 32 - 1) = 0xFFFFFFFF := rfl
  rw [hmax] at hp hev hdb
  obtain ⟨heq, -, hp₃, hlog₃⟩ := executeCmd_of_steady g cmd (hr.sessionInv g).ringInv hok henv
    (hev.trans hp.symm) (hdb.trans hp.symm)
  refine ⟨w, hr, henv, hok, hto, hp, hev, ?_⟩
  have hnil : List.range' (0xFFFFFFFF : BitVec 32).toNat
      ((0xFFFFFFFF + 1 : BitVec 32).toNat - (0xFFFFFFFF : BitVec 32).toNat) = [] := rfl
  rw [heq, hp, hnil]
  refine ⟨rfl, ?_, by simp [scanCompletions, hp₃, hto], ?_⟩
  · show (setSlot _ ((0xFFFFFFFF : BitVec 32) &&& g.mask).toNat _ (g.slots - 1)).status = s
    rw [allOnes_and_mask_toNat, setSlot_same]
  · simp only [scanCompletions, World.note_log, hlog₃, hp, allOnes_and_mask_toNat,
      List.append_assoc]
    rfl

end GveAdminq
