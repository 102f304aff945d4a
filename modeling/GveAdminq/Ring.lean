import GveAdminq.Transport

/-! The ring invariant. The driver's producer counter, the device's event counter and the last
doorbell value are 32-bit and wrap; what is bounded is their distances mod 2^32. Device
progress is summarised by `Drains`, so each transport function is checked once against it. -/

namespace GveAdminq

theorem sub_add_ofNat_toNat (a b : BitVec 32) {k : Nat} (h : k ≤ (a - b).toNat) :
    (a - (b + BitVec.ofNat 32 k)).toNat = (a - b).toNat - k := by
  have : k < 2 ^ 32 := by have := (a - b).isLt; omega
  bv_omega

theorem add_one_sub_toNat (a b : BitVec 32) (h : (a - b).toNat + 1 < 2 ^ 32) :
    (a + 1 - b).toNat = (a - b).toNat + 1 := by
  bv_omega

theorem add_ofNat_sub_toNat (a b : BitVec 32) : b + BitVec.ofNat 32 (a - b).toNat = a := by
  bv_omega

theorem sub_toNat_eq_zero {a b : BitVec 32} : (a - b).toNat = 0 ↔ a = b := by
  constructor
  · intro h; bv_omega
  · rintro rfl; simp

namespace AdminqSize

variable (g : AdminqSize)

theorem and_mask_toNat (a : BitVec 32) : (a &&& g.mask).toNat = a.toNat % g.slots := by
  have := g.slots_le
  rw [mask, bytes_div, BitVec.toNat_and, BitVec.toNat_ofNat, Nat.mod_eq_of_lt (by omega), slots,
    Nat.and_pow_two_sub_one_eq_mod]

theorem slots_dvd : g.slots ∣ 2 ^ 32 :=
  Nat.pow_dvd_pow 2 (Nat.le_of_lt g.log2Slots_lt)

/-- Slots `n` and `j` commands past the same counter differ while `j < n < slots`. -/
theorem slot_ne (ev : BitVec 32) {n j : Nat} (hn : n < g.slots) (hj : j < n) :
    ((ev + BitVec.ofNat 32 n) &&& g.mask).toNat ≠ ((ev + BitVec.ofNat 32 j) &&& g.mask).toNat := by
  have := g.slots_le
  rw [and_mask_toNat, and_mask_toNat, BitVec.toNat_add, BitVec.toNat_add, BitVec.toNat_ofNat,
    BitVec.toNat_ofNat, Nat.mod_eq_of_lt (show n < 2 ^ 32 by omega),
    Nat.mod_eq_of_lt (show j < 2 ^ 32 by omega), Nat.mod_mod_of_dvd _ g.slots_dvd,
    Nat.mod_mod_of_dvd _ g.slots_dvd]
  intro h
  have h0 := Nat.sub_mod_eq_zero_of_mod_eq h
  rw [show ev.toNat + n - (ev.toNat + j) = n - j by omega, Nat.mod_eq_of_lt (by omega)] at h0
  omega

end AdminqSize

/-- Commands written and not yet completed: `adminq_prod_cnt - event counter`, mod 2^32. -/
def outstanding (w : World) : Nat := (w.priv.adminqProdCnt - w.dev.eventCounter).toNat

/-- Commands announced by the doorbell and not yet completed. -/
def kicked (w : World) : Nat := (w.dev.doorbell - w.dev.eventCounter).toNat

variable (g : AdminqSize)

/-- The requests in `n` consecutive slots from counter `ev` on, oldest first: slot
`(ev + j) & mask` for `j < n`. -/
def windowFrom (ring : Nat → AdminqCommand) (ev : BitVec 32) (n : Nat) :
    List (BitVec 32 × AdminqPayload) :=
  (List.range n).map fun j => (ring ((ev + BitVec.ofNat 32 j) &&& g.mask).toNat).request

/-- The outstanding commands' requests, oldest first: what the device has yet to consume. -/
def window (w : World) : List (BitVec 32 × AdminqPayload) :=
  windowFrom g w.ring w.dev.eventCounter (outstanding w)

@[simp] theorem windowFrom_length (ring : Nat → AdminqCommand) (ev : BitVec 32) (n : Nat) :
    (windowFrom g ring ev n).length = n := by
  simp [windowFrom]

theorem windowFrom_drop (ring : Nat → AdminqCommand) (ev : BitVec 32) (n k : Nat) :
    (windowFrom g ring ev n).drop k = windowFrom g ring (ev + BitVec.ofNat 32 k) (n - k) := by
  refine List.ext_getElem (by simp) fun i _ _ => ?_
  simp only [windowFrom, List.getElem_drop, List.getElem_map, List.getElem_range]
  rw [BitVec.add_assoc, BitVec.ofNat_add_ofNat]

theorem windowFrom_congr {ring ring' : Nat → AdminqCommand} (ev : BitVec 32) (n : Nat)
    (h : ∀ j < n, (ring' ((ev + BitVec.ofNat 32 j) &&& g.mask).toNat).request =
      (ring ((ev + BitVec.ofNat 32 j) &&& g.mask).toNat).request) :
    windowFrom g ring' ev n = windowFrom g ring ev n :=
  List.map_congr_left fun j hj => h j (List.mem_range.mp hj)

theorem windowFrom_succ (ring : Nat → AdminqCommand) (ev : BitVec 32) (n : Nat) :
    windowFrom g ring ev (n + 1) =
      windowFrom g ring ev n ++ [(ring ((ev + BitVec.ofNat 32 n) &&& g.mask).toNat).request] := by
  simp [windowFrom, List.range_succ]

theorem window_congr {w w' : World} (ring : w'.ring = w.ring)
    (ev : w'.dev.eventCounter = w.dev.eventCounter)
    (prod : w'.priv.adminqProdCnt = w.priv.adminqProdCnt) : window g w' = window g w := by
  simp only [window, outstanding, ring, ev, prod]

/-- A drop that runs past the end of a list can be cut back to its length. -/
theorem exists_drop_eq_le {α : Type} (l : List α) (k : Nat) :
    ∃ k' ≤ l.length, l.drop k = l.drop k' := by
  rcases Nat.le_total k l.length with h | h
  · exact ⟨k, h, rfl⟩
  · exact ⟨l.length, le_rfl, by rw [List.drop_eq_nil_of_le h, List.drop_length]⟩

/-- The ring invariant: the device works only on announced commands, at most one ring's worth
of commands is outstanding, and a released ring has an idle device. -/
structure RingInv (w : World) : Prop where
  kicked_le : kicked w ≤ outstanding w
  bounded : w.priv.adminqOk = true → outstanding w ≤ g.slots
  mask_eq : w.priv.adminqOk = true → w.priv.adminqMask = g.mask
  idle : w.priv.adminqOk = false → w.dev.eventCounter = w.dev.doorbell

/-- `w'` follows `w` by device progress alone, as far as the ring is concerned: the driver's
ring fields and the doorbell are as they were, the event counter moved `k` announced
commands on, and no slot's request changed. -/
structure Drains (w w' : World) : Prop where
  ok : w'.priv.adminqOk = w.priv.adminqOk
  mask : w'.priv.adminqMask = w.priv.adminqMask
  prod : w'.priv.adminqProdCnt = w.priv.adminqProdCnt
  doorbell : w'.dev.doorbell = w.dev.doorbell
  advance : ∃ k ≤ kicked w, w'.dev.eventCounter = w.dev.eventCounter + BitVec.ofNat 32 k
  request : ∀ i, (w'.ring i).request = (w.ring i).request

namespace Drains

variable {w w' w'' : World}

theorem of_eq (ok : w'.priv.adminqOk = w.priv.adminqOk)
    (mask : w'.priv.adminqMask = w.priv.adminqMask)
    (prod : w'.priv.adminqProdCnt = w.priv.adminqProdCnt) (dev : w'.dev = w.dev)
    (ring : w'.ring = w.ring) : Drains w w' :=
  ⟨ok, mask, prod, by rw [dev], ⟨0, Nat.zero_le _, by simp [dev]⟩, fun i => by rw [ring]⟩

theorem refl (w : World) : Drains w w := of_eq rfl rfl rfl rfl rfl

theorem kicked_eq (h : Drains w w') : ∃ k ≤ kicked w,
    w'.dev.eventCounter = w.dev.eventCounter + BitVec.ofNat 32 k ∧ kicked w' = kicked w - k := by
  obtain ⟨k, hk, hev⟩ := h.advance
  exact ⟨k, hk, hev, by rw [kicked, hev, h.doorbell]; exact sub_add_ofNat_toNat _ _ hk⟩

theorem trans (h : Drains w w') (h' : Drains w' w'') : Drains w w'' := by
  obtain ⟨k, hk, hev, hkick⟩ := h.kicked_eq
  obtain ⟨k', hk', hev'⟩ := h'.advance
  refine ⟨h'.ok.trans h.ok, h'.mask.trans h.mask, h'.prod.trans h.prod,
    h'.doorbell.trans h.doorbell, ⟨k + k', by omega, ?_⟩, fun i => (h'.request i).trans (h.request i)⟩
  rw [hev', hev, BitVec.add_assoc, BitVec.ofNat_add_ofNat]

theorem outstanding_eq (hinv : RingInv g w) (h : Drains w w') :
    ∃ k ≤ kicked w, outstanding w' = outstanding w - k ∧ kicked w' = kicked w - k := by
  obtain ⟨k, hk, hev, hkick⟩ := h.kicked_eq
  refine ⟨k, hk, ?_, hkick⟩
  rw [outstanding, hev, h.prod]
  exact sub_add_ofNat_toNat _ _ (Nat.le_trans hk hinv.kicked_le)

theorem outstanding_le (hinv : RingInv g w) (h : Drains w w') : outstanding w' ≤ outstanding w := by
  obtain ⟨k, -, hout, -⟩ := h.outstanding_eq g hinv
  omega

theorem ringInv (hinv : RingInv g w) (h : Drains w w') : RingInv g w' := by
  obtain ⟨k, hk, hout, hkick⟩ := h.outstanding_eq g hinv
  refine ⟨?_, fun hok => ?_, fun hok => ?_, fun hok => ?_⟩
  · have := hinv.kicked_le; omega
  · have := hinv.bounded (h.ok ▸ hok); omega
  · rw [h.mask]; exact hinv.mask_eq (h.ok ▸ hok)
  · have hidle := hinv.idle (h.ok ▸ hok)
    have hk0 : k = 0 := by rw [kicked, hidle] at hk; simpa using hk
    have hkick0 : kicked w' = 0 := by rw [hkick, kicked, hidle]; simp
    exact sub_toNat_eq_zero.mp hkick0 |>.symm

/-- Device progress consumes the window from its front. -/
theorem window_eq (hinv : RingInv g w) (h : Drains w w') :
    ∃ k ≤ outstanding w, window g w' = (window g w).drop k := by
  obtain ⟨k, hk, hev⟩ := h.advance
  have hk' : k ≤ outstanding w := Nat.le_trans hk hinv.kicked_le
  have hout : outstanding w' = outstanding w - k := by
    rw [outstanding, hev, h.prod]; exact sub_add_ofNat_toNat _ _ hk'
  refine ⟨k, hk', ?_⟩
  rw [window, window, windowFrom_drop, hout, hev]
  exact windowFrom_congr g _ _ fun j _ => h.request _

/-- A device that has caught up with the doorbell does not move. -/
theorem eventCounter_of_idle (h : Drains w w') (hidle : w.dev.eventCounter = w.dev.doorbell) :
    w'.dev.eventCounter = w.dev.eventCounter := by
  obtain ⟨k, hk, hev⟩ := h.advance
  have : k = 0 := by rw [kicked, hidle] at hk; simpa using hk
  simp [hev, this]

end Drains

theorem drains_deviceStep (a : Option (BitVec 32)) (w : World) : Drains w (w.deviceStep g a) := by
  by_cases h : w.dev.eventCounter = w.dev.doorbell
  · rw [World.deviceStep_idle a w h]; exact .refl w
  · refine ⟨by simp, by simp, by simp, by simp, ⟨1, ?_, ?_⟩,
      fun i => Prod.ext (World.deviceStep_ring a w i).1 (World.deviceStep_ring a w i).2⟩
    · have : kicked w ≠ 0 := fun h0 => h (sub_toNat_eq_zero.mp h0).symm
      omega
    · simp [World.deviceStep, h]

theorem drains_yield (w : World) : Drains w (w.yield g) := by
  have run : ∀ (as : List (Option (BitVec 32))) (w : World),
      Drains w (as.foldl (fun w a => w.deviceStep g a) w) := by
    intro as
    induction as with
    | nil => exact .refl
    | cons a as ih => exact fun w => (drains_deviceStep g a w).trans (ih _)
  have h := run (w.env w.clock) w
  exact ⟨h.ok, h.mask, h.prod, h.doorbell, h.advance, h.request⟩

theorem drains_note (e : AqEvent) (w : World) : Drains w (w.note e) := .of_eq rfl rfl rfl rfl rfl

end GveAdminq
