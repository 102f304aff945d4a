import GveAdminq.Commands
import GveAdminq.Session

namespace GveAdminq

/-- The command and result an `execute_cmd` recorded. -/
def AqEvent.executedOf : AqEvent → Option (AdminqCommand × Rc)
  | .executed cmd rc => some (cmd, rc)
  | _ => none

theorem AqEvent.executedOf_of_transport {e : AqEvent} (h : e.transport) : e.executedOf = none := by
  cases e <;> simp_all [transport, executedOf]

/-- The `execute_cmd` calls recorded in `log`, in order. -/
def executedCalls (log : List AqEvent) : List (AdminqCommand × Rc) :=
  log.filterMap AqEvent.executedOf

/-- What a loop over `n` queues did, given the calls it made in order from queue `first` on and
its result `rc`: the calls are for queues `first, first + 1, ...`, all of opcode `op`; every
call but the last passed; and either all `n` passed and `rc` is `0`, or the last failed and
`rc` is its error. -/
def StopsAtFirstFailure (op : AdminqOpcode) (first n : Nat) (calls : List (AdminqCommand × Rc))
    (rc : Rc) : Prop :=
  calls.map (·.1.queueId?) = (List.range' first calls.length).map (some ∘ BitVec.ofNat 32) ∧
  (∀ c ∈ calls, c.1.opcode = op.code) ∧
  (∀ c ∈ calls.dropLast, c.2 = .ok) ∧
  (rc = .ok ∧ calls.length = n ∧ (∀ c ∈ calls, c.2 = .ok) ∨
    rc ≠ .ok ∧ calls.length ≤ n ∧ calls.getLast?.map Prod.snd = some rc)

variable (g : AdminqSize)

theorem executeCmd_calls (cmd : AdminqCommand) {w : World} (hinv : RingInv g w)
    (hok : w.priv.adminqOk = true) :
    let r := gveAdminqExecuteCmd g cmd w
    RingInv g r.2 ∧ r.2.priv.adminqOk = true ∧
      ∃ new, r.2.log = w.log ++ new ∧ executedCalls new = [(cmd, r.1)] := by
  obtain ⟨w', hk, he⟩ := executeCmd_keeps g cmd hinv hok
  obtain ⟨new, hlog, hnew, -, -⟩ := hk.accounted
  generalize (gveAdminqExecuteCmd g cmd w).1 = rc at he
  rw [he]
  refine ⟨(drains_note _ w').ringInv g hk.ringInv, hk.ok, new ++ [.executed cmd rc],
    by simp [hlog], ?_⟩
  rw [executedCalls, List.filterMap_append,
    List.filterMap_eq_nil_iff.mpr fun e he => AqEvent.executedOf_of_transport (hnew e he).2]
  rfl

theorem stopsAtFirstFailure_err (op : AdminqOpcode) (cmd : AdminqCommand) {first n : Nat} {e : Errno}
    (hop : cmd.opcode = op.code) (hid : cmd.queueId? = some (BitVec.ofNat 32 first)) :
    StopsAtFirstFailure op first (n + 1) [(cmd, .err e)] (.err e) :=
  ⟨by simp [hid], by simp [hop], by simp, .inr ⟨by simp, by simp, rfl⟩⟩

theorem stopsAtFirstFailure_cons (op : AdminqOpcode) (cmd : AdminqCommand) {first n : Nat}
    {calls : List (AdminqCommand × Rc)} {rc : Rc} (hop : cmd.opcode = op.code)
    (hid : cmd.queueId? = some (BitVec.ofNat 32 first))
    (h : StopsAtFirstFailure op (first + 1) n calls rc) :
    StopsAtFirstFailure op first (n + 1) ((cmd, .ok) :: calls) rc := by
  obtain ⟨hids, hops, hpass, hres⟩ := h
  refine ⟨by simp [hid, hids, List.range'_succ], ?_, ?_, ?_⟩
  · simpa [hop] using hops
  · cases calls with
    | nil => simp
    | cons c cs => simpa [List.dropLast_cons₂] using hpass
  · rcases hres with ⟨rfl, hlen, hall⟩ | ⟨hne, hlen, hlast⟩
    · exact .inl ⟨rfl, by simp [hlen], by simpa using hall⟩
    · refine .inr ⟨hne, by simp; omega, ?_⟩
      cases calls with
      | nil => simp at hlast
      | cons c cs => simpa using hlast

/-- The shared queue loop, for per-queue functions that execute one command of opcode `op`
for the queue they are given. -/
theorem queueLoop_spec (queueFn : BitVec 32 → World → Rc × World)
    (mk : Priv → BitVec 32 → AdminqCommand) (op : AdminqOpcode)
    (hfn : ∀ i w, queueFn i w = gveAdminqExecuteCmd g (mk w.priv i) w)
    (hop : ∀ p i, (mk p i).opcode = op.code) (hid : ∀ p i, (mk p i).queueId? = some i)
    (n first : Nat) {w : World} (hinv : RingInv g w) (hok : w.priv.adminqOk = true) :
    let r := gveAdminqQueueLoop queueFn n first w
    ∃ new, r.2.log = w.log ++ new ∧ StopsAtFirstFailure op first n (executedCalls new) r.1 := by
  induction n generalizing first w with
  | zero => exact ⟨[], by simp [gveAdminqQueueLoop], ⟨rfl, by simp [executedCalls],
      by simp [executedCalls], .inl ⟨rfl, by simp [executedCalls], by simp [executedCalls]⟩⟩⟩
  | succ n ih =>
    obtain ⟨hinv₁, hok₁, new₁, hlog₁, hcalls₁⟩ :=
      executeCmd_calls g (mk w.priv (BitVec.ofNat 32 first)) hinv hok
    rw [← hfn] at hinv₁ hok₁ hlog₁ hcalls₁
    dsimp only
    simp only [gveAdminqQueueLoop]
    rcases hr : queueFn (BitVec.ofNat 32 first) w with ⟨_ | e, w₁⟩
    all_goals rw [hr] at hinv₁ hok₁ hlog₁ hcalls₁; dsimp only at hinv₁ hok₁ hlog₁ hcalls₁
    · obtain ⟨new, hlog, hstop⟩ := ih (first + 1) hinv₁ hok₁
      refine ⟨new₁ ++ new, by simp [hlog, hlog₁], ?_⟩
      rw [executedCalls, List.filterMap_append, ← executedCalls, ← executedCalls, hcalls₁]
      exact stopsAtFirstFailure_cons op _ (hop _ _) (hid _ _) hstop
    · refine ⟨new₁, hlog₁, ?_⟩
      rw [hcalls₁]
      exact stopsAtFirstFailure_err op _ (hop _ _) (hid _ _)

/-- The four queue loops execute the commands for queues `0, 1, ...` in order, stop at the
first that fails and return its error, and undo nothing. -/
theorem queue_loops_stop_at_first_failure (c : GveConsts) (n : BitVec 32) {w : World}
    (hr : Reachable g w) (hok : w.priv.adminqOk = true) :
    (∃ new, (gveAdminqCreateRxQueues g c n w).2.log = w.log ++ new ∧
      StopsAtFirstFailure .createRxQueue 0 n.toNat (executedCalls new)
        (gveAdminqCreateRxQueues g c n w).1) ∧
    (∃ new, (gveAdminqCreateTxQueues g n w).2.log = w.log ++ new ∧
      StopsAtFirstFailure .createTxQueue 0 n.toNat (executedCalls new)
        (gveAdminqCreateTxQueues g n w).1) ∧
    (∃ new, (gveAdminqDestroyRxQueues g n w).2.log = w.log ++ new ∧
      StopsAtFirstFailure .destroyRxQueue 0 n.toNat (executedCalls new)
        (gveAdminqDestroyRxQueues g n w).1) ∧
    (∃ new, (gveAdminqDestroyTxQueues g n w).2.log = w.log ++ new ∧
      StopsAtFirstFailure .destroyTxQueue 0 n.toNat (executedCalls new)
        (gveAdminqDestroyTxQueues g n w).1) := by
  have hinv := (hr.sessionInv g).ringInv
  exact ⟨queueLoop_spec g _ (createRxQueueCmd c) .createRxQueue (fun _ _ => rfl)
      (fun _ _ => rfl) (fun _ _ => rfl) _ 0 hinv hok,
    queueLoop_spec g _ createTxQueueCmd .createTxQueue (fun _ _ => rfl) (fun _ _ => rfl)
      (fun _ _ => rfl) _ 0 hinv hok,
    queueLoop_spec g _ (fun _ => destroyRxQueueCmd) .destroyRxQueue (fun _ _ => rfl)
      (fun _ _ => rfl) (fun _ _ => rfl) _ 0 hinv hok,
    queueLoop_spec g _ (fun _ => destroyTxQueueCmd) .destroyTxQueue (fun _ _ => rfl)
      (fun _ _ => rfl) (fun _ _ => rfl) _ 0 hinv hok⟩

theorem queue_loops_stop_at_first_failure_after_alloc :
    let g : AdminqSize := ⟨6, by decide⟩
    let c : GveConsts := ⟨2048, 1024, 2, 64, 4096⟩
    let n : BitVec 32 := 4
    let w := (gveAdminqAlloc g (.ok ⟨0x1000⟩) (World.init fun _ => [some 1])).2
    (∃ new, (gveAdminqCreateRxQueues g c n w).2.log = w.log ++ new ∧
      StopsAtFirstFailure .createRxQueue 0 n.toNat (executedCalls new)
        (gveAdminqCreateRxQueues g c n w).1) ∧
    (∃ new, (gveAdminqCreateTxQueues g n w).2.log = w.log ++ new ∧
      StopsAtFirstFailure .createTxQueue 0 n.toNat (executedCalls new)
        (gveAdminqCreateTxQueues g n w).1) ∧
    (∃ new, (gveAdminqDestroyRxQueues g n w).2.log = w.log ++ new ∧
      StopsAtFirstFailure .destroyRxQueue 0 n.toNat (executedCalls new)
        (gveAdminqDestroyRxQueues g n w).1) ∧
    (∃ new, (gveAdminqDestroyTxQueues g n w).2.log = w.log ++ new ∧
      StopsAtFirstFailure .destroyTxQueue 0 n.toNat (executedCalls new)
        (gveAdminqDestroyTxQueues g n w).1) :=
  queue_loops_stop_at_first_failure _ _ _ (.next (.start _) (.alloc _)) rfl

theorem stagePageList_zero (dmas : Nat → BitVec 64) (k i : Nat) (buf : Nat → BitVec 64) :
    stagePageList 0 dmas (k + 1) i buf = none := by
  simp [stagePageList]

theorem registerPageList_of_size_zero (c : GveConsts) (h : GveDmaHandle)
    (qpl : GveQueuePageList) (w : World) (hsize : (qpl.numEntries * 8).toNat = 0)
    (hpos : qpl.numEntries.toNat ≠ 0) :
    gveAdminqRegisterPageList g c (.ok h) qpl w = none := by
  obtain ⟨k, hk⟩ := Nat.exists_eq_succ_of_ne_zero hpos
  unfold gveAdminqRegisterPageList
  dsimp only
  rw [hsize, hk, stagePageList_zero]

/-- At `num_entries = 2^29` the staging size `num_entries * 8` wraps to `0` in 32 bits: the
first store of the staging loop is already past the buffer, while the command would announce
2^29 pages. -/
theorem register_page_list_size_wraps (c : GveConsts) (h : GveDmaHandle) (id : BitVec 32)
    (dmas : Nat → BitVec 64) (w : World) :
    (0x20000000 : BitVec 32) * 8 = 0 ∧ (0x20000000 : BitVec 32).toNat * 8 = 2 ^ 32 ∧
      gveAdminqRegisterPageList g c (.ok h) ⟨id, 0x20000000, dmas⟩ w = none :=
  ⟨by decide, by decide, registerPageList_of_size_zero g c h _ w
    (show ((0x20000000 : BitVec 32) * 8).toNat = 0 by decide)
    (show (0x20000000 : BitVec 32).toNat ≠ 0 by decide)⟩

/-- The staging loop from index `i` with `k` entries left: it stores `dmas j` at every index
`j` of `[i, i + k)` and keeps the rest of the buffer, unless a store would end past `size`. -/
theorem stagePageList_eq (size : Nat) (dmas : Nat → BitVec 64) (k i : Nat)
    (buf : Nat → BitVec 64) :
    stagePageList size dmas k i buf =
      if k = 0 ∨ 8 * (i + k) ≤ size then
        some fun j => if i ≤ j ∧ j < i + k then dmas j else buf j
      else none := by
  induction k generalizing i buf with
  | zero =>
    rw [stagePageList, if_pos (.inl rfl)]
    exact congrArg some (funext fun j => (if_neg (by omega)).symm)
  | succ k ih =>
    rw [stagePageList]
    by_cases h : 8 * i + 8 ≤ size
    · rw [if_pos h, ih]
      by_cases hk : 8 * (i + (k + 1)) ≤ size
      · rw [if_pos (.inr (by omega)), if_pos (.inr hk)]
        refine congrArg some (funext fun j => ?_)
        by_cases h₁ : i + 1 ≤ j ∧ j < i + 1 + k
        · rw [if_pos h₁, if_pos (by omega)]
        · by_cases hj : j = i
          · rw [if_neg h₁, hj, if_pos rfl, if_pos (by omega)]
          · rw [if_neg h₁, if_neg hj, if_neg (by omega)]
      · rw [if_neg (by omega), if_neg (by omega)]
    · rw [if_neg h, if_neg (by omega)]

theorem pageListSize_toNat (qpl : GveQueuePageList) (hn : qpl.numEntries.toNat < 2 ^ 29) :
    (qpl.numEntries * 8).toNat = qpl.numEntries.toNat * 8 := by
  rw [BitVec.toNat_mul, show (8 : BitVec 32).toNat = 8 from rfl]
  exact Nat.mod_eq_of_lt (by omega)

/-- The page address list the device should read for `qpl`: the bus address of page `i` at
index `i` below `num_entries`, zero past it. -/
def pageAddressList (qpl : GveQueuePageList) : Nat → BitVec 64 :=
  fun j => if j < qpl.numEntries.toNat then qpl.dmas j else 0

/-- Below 2^29 entries the loop stages exactly the page address list. -/
theorem stagePageList_of_lt (qpl : GveQueuePageList) (hn : qpl.numEntries.toNat < 2 ^ 29) :
    stagePageList (qpl.numEntries * 8).toNat qpl.dmas qpl.numEntries.toNat 0 (fun _ => 0) =
      some (pageAddressList qpl) := by
  rw [stagePageList_eq, pageListSize_toNat qpl hn, if_pos (.inr (by omega))]
  exact congrArg some (funext fun j => by simp only [pageAddressList, Nat.zero_le, true_and, Nat.zero_add])

/-- Below 2^29 entries, `gve_adminq_register_page_list` executes its command while the region at
the command's `page_address_list_addr` holds the pages' addresses in order, then frees it. -/
theorem registerPageList_of_lt (c : GveConsts) (h : GveDmaHandle) (qpl : GveQueuePageList)
    (w : World) (hn : qpl.numEntries.toNat < 2 ^ 29) :
    let x := gveAdminqExecuteCmd g (registerPageListCmd c h qpl) { w with
      dmaLive := w.dmaLive + 1, dmaMem := Function.update w.dmaMem h.busAddr (pageAddressList qpl) }
    gveAdminqRegisterPageList g c (.ok h) qpl w =
      some (x.1, { x.2 with dmaLive := x.2.dmaLive - 1 }) := by
  unfold gveAdminqRegisterPageList
  dsimp only
  rw [stagePageList_of_lt qpl hn]

/-- Below 2^29 entries the staging size is the true product, the staging loop stays inside the
buffer, and the buffer is freed whatever the command's outcome. -/
theorem register_page_list_frees_staging (c : GveConsts) (dma : Except Errno GveDmaHandle)
    (qpl : GveQueuePageList) {w : World} (hr : Reachable g w) (hok : w.priv.adminqOk = true)
    (hn : qpl.numEntries.toNat < 2 ^ 29) :
    (qpl.numEntries * 8).toNat = qpl.numEntries.toNat * 8 ∧
      ∃ r, gveAdminqRegisterPageList g c dma qpl w = some r ∧ r.2.dmaLive = w.dmaLive := by
  obtain ⟨r, hreg⟩ : ∃ r, gveAdminqRegisterPageList g c dma qpl w = some r := by
    cases dma with
    | error e => exact ⟨_, rfl⟩
    | ok h => exact ⟨_, registerPageList_of_lt g c h qpl w hn⟩
  exact ⟨pageListSize_toNat qpl hn, r, hreg,
    (registerPageList_keeps g (hr.sessionInv g) hok c dma qpl hreg).2.2.2⟩

theorem register_page_list_frees_staging_two_pages :
    let g : AdminqSize := ⟨6, by decide⟩
    let c : GveConsts := ⟨2048, 1024, 2, 64, 4096⟩
    let qpl : GveQueuePageList := ⟨1, 2, fun _ => 0x3000⟩
    let w := (gveAdminqAlloc g (.ok ⟨0x1000⟩) (World.init fun _ => [some 1])).2
    (qpl.numEntries * 8).toNat = qpl.numEntries.toNat * 8 ∧
      ∃ r, gveAdminqRegisterPageList g c (.ok ⟨0x2000⟩) qpl w = some r ∧ r.2.dmaLive = w.dmaLive :=
  register_page_list_frees_staging _ _ _ _ (.next (.start _) (.alloc _)) rfl (by decide)

end GveAdminq
