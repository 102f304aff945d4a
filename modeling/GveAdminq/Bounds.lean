import GveAdminq.Negotiation

/-! Which bytes of the descriptor the negotiation reads. `gve_adminq_describe_device`
advertises an `ADMINQ_SIZE`-byte buffer, but the walk is bounded by the device's
`total_length` alone, and the next option's length is read before its end is checked. -/

namespace GveAdminq

/-- Two descriptors with the same first `n` bytes. -/
def AgreeBelow (n : Nat) (d d' : Nat → BitVec 8) : Prop := ∀ i < n, d i = d' i

namespace AgreeBelow

variable {n : Nat} {d d' : Nat → BitVec 8} (h : AgreeBelow n d d')
include h

theorem be16_eq (off : Nat) (ho : off + 2 ≤ n) : be16 d off = be16 d' off := by
  rw [be16, be16, h off (by omega), h (off + 1) (by omega)]

theorem be32_eq (off : Nat) (ho : off + 4 ≤ n) : be32 d off = be32 d' off := by
  rw [be32, be32, h.be16_eq off (by omega), h.be16_eq (off + 2) (by omega)]

theorem be64_eq (off : Nat) (ho : off + 8 ≤ n) : be64 d off = be64 d' off := by
  rw [be64, be64, h.be32_eq off (by omega), h.be32_eq (off + 4) (by omega)]

/-- Within `total_length = L ≤ n`, the walk reads an option's length only once its header fits
below `L`: past that, every length ends the walk alike. -/
theorem optionOffsets_eq {L : Nat} (hL : L ≤ n) (k o : Nat) :
    optionOffsets d L k o = optionOffsets d' L k o := by
  induction k generalizing o with
  | zero => rfl
  | succ k ih =>
    simp only [optionOffsets]
    by_cases ho : o + 8 ≤ L
    · rw [h.be16_eq (o + 2) (by omega), ih]
    · rw [if_neg (by omega), if_neg (by omega)]

theorem validOption_eq (id : BitVec 16) (size : Nat) (mask : BitVec 32) {o : Nat} (ho : o + 8 ≤ n) :
    validOption id size mask d o = validOption id size mask d' o := by
  rw [validOption, validOption, h.be16_eq o (by omega), h.be16_eq (o + 2) (by omega),
    h.be32_eq (o + 4) (by omega)]

theorem describeDeviceFields_eq (c : GveConsts) (q : Nat) (jumbo : Option Nat) (p : Priv)
    (hhdr : 40 ≤ n) (hq : q + 4 ≤ n) (hj : ∀ j, jumbo = some j → j + 6 ≤ n) :
    gveDescribeDeviceFields c d q jumbo p = gveDescribeDeviceFields c d' q jumbo p := by
  have hmac : ((List.range etherAddrLen).map fun i => d (24 + i)) =
      (List.range etherAddrLen).map fun i => d' (24 + i) :=
    List.map_congr_left fun i hi => h _ (by simp [etherAddrLen] at hi; omega)
  have hen : gveEnableSupportedFeatures d (be32 d' q) jumbo =
      gveEnableSupportedFeatures d' (be32 d' q) jumbo := by
    funext p
    cases jumbo with
    | none => rfl
    | some j => simp only [gveEnableSupportedFeatures, h.be16_eq (j + 4) (hj j rfl)]
  simp only [gveDescribeDeviceFields, h.be32_eq q hq, h.be16_eq 10 (by omega),
    h.be16_eq 12 (by omega), h.be16_eq 14 (by omega), h.be16_eq 16 (by omega),
    h.be16_eq 18 (by omega), h.be16_eq 22 (by omega), h.be64_eq 0 (by omega), hmac, hen]

end AgreeBelow

theorem optionOffsets_end_le {d : Nat → BitVec 8} {L : Nat} {k o : Nat} {os : List Nat}
    (hos : optionOffsets d L k o = some os) : ∀ o' ∈ os, o' + 8 + (be16 d (o' + 2)).toNat ≤ L := by
  induction k generalizing o os with
  | zero => cases hos; simp
  | succ k ih =>
    simp only [optionOffsets] at hos
    split at hos
    · obtain ⟨os', hos', rfl⟩ := Option.map_eq_some'.mp hos
      intro o' ho'
      rcases List.mem_cons.mp ho' with rfl | ho'
      · assumption
      · exact ih hos' o' ho'
    · cases hos

theorem lastValid_mem {valid : Nat → Bool} {os : List Nat} {q : Nat}
    (h : lastValid valid os = some q) : q ∈ os ∧ valid q = true :=
  List.mem_filter.mp (List.mem_of_getLast?_eq_some h)

theorem validOption_length {id : BitVec 16} {size : Nat} {mask : BitVec 32} {d : Nat → BitVec 8}
    {o : Nat} (h : validOption id size mask d o = true) : size ≤ (be16 d (o + 2)).toNat := by
  simp only [validOption, Bool.and_eq_true, decide_eq_true_eq] at h
  exact h.1.2

/-- With `total_length` within the first `n` bytes, the negotiation reads nothing else: every
option it parses, and every payload it takes a field from, ends within `total_length`. -/
theorem AgreeBelow.describeDeviceNegotiate_eq {n : Nat} {d d' : Nat → BitVec 8}
    (h : AgreeBelow n d d') (c : GveConsts) (p : Priv) (hhdr : 40 ≤ n)
    (hL : (be16 d 32).toNat ≤ n) :
    gveDescribeDeviceNegotiate c d p = gveDescribeDeviceNegotiate c d' p := by
  rw [GveAdminq.describeDeviceNegotiate_eq, GveAdminq.describeDeviceNegotiate_eq,
    ← h.be16_eq 32 (by omega), ← h.be16_eq 30 (by omega), ← h.optionOffsets_eq hL]
  cases hos : optionOffsets d (be16 d 32).toNat (be16 d 30).toNat 40 with
  | none => rfl
  | some os =>
    have hend := optionOffsets_end_le hos
    have hin : ∀ o ∈ os, o + 8 ≤ n := fun o ho => by have := hend o ho; omega
    have hq : lastValid (validGqiQpl d) os = lastValid (validGqiQpl d') os :=
      congrArg List.getLast? (List.filter_congr fun o ho => h.validOption_eq _ _ _ (hin o ho))
    have hj : lastValid (validJumboFrames d) os = lastValid (validJumboFrames d') os :=
      congrArg List.getLast? (List.filter_congr fun o ho => h.validOption_eq _ _ _ (hin o ho))
    dsimp only
    rw [← hq, ← hj]
    cases hl : lastValid (validGqiQpl d) os with
    | none => rfl
    | some q =>
      obtain ⟨hqm, hqv⟩ := lastValid_mem hl
      have := hend q hqm
      have : 4 ≤ _ := validOption_length hqv
      refine congrArg _ (h.describeDeviceFields_eq c _ _ _ hhdr (by omega) fun j hj' => ?_)
      obtain ⟨j₀, hj₀, rfl⟩ := Option.map_eq_some'.mp hj'
      obtain ⟨hjm, hjv⟩ := lastValid_mem hj₀
      have := hend j₀ hjm
      have : 8 ≤ _ := validOption_length hjv
      omega

theorem AdminqSize.bytes_ge (g : AdminqSize) : 64 ≤ g.bytes :=
  Nat.le_mul_of_pos_right 64 (Nat.two_pow_pos _)

variable (g : AdminqSize)

/-- As long as `total_length` stays within the buffer, what `gve_adminq_describe_device`
returns and sets is determined by the buffer's `ADMINQ_SIZE` bytes. -/
theorem describe_device_determined_by_buffer (c : GveConsts) (dma : Except Errno GveDmaHandle)
    (desc desc' : Nat → BitVec 8) (w : World) (hagree : ∀ i < g.bytes, desc i = desc' i)
    (hL : (be16 desc 32).toNat ≤ g.bytes) :
    gveAdminqDescribeDevice g c dma desc w = gveAdminqDescribeDevice g c dma desc' w := by
  have := g.bytes_ge
  simp only [gveAdminqDescribeDevice,
    fun p => AgreeBelow.describeDeviceNegotiate_eq hagree c p (by omega) hL]

theorem describe_device_determined_by_buffer_one_option :
    let g : AdminqSize := ⟨6, by decide⟩
    let c : GveConsts := ⟨2048, 1024, 2, 64, 4096⟩
    let desc : Nat → BitVec 8 := fun i =>
      if i = 31 then 1 else if i = 33 then 52 else if i = 41 then 3 else if i = 43 then 4 else 0
    let desc' : Nat → BitVec 8 := fun i => if i < 4096 then desc i else 0xFF
    let w := (gveAdminqAlloc g (.ok ⟨0x1000⟩) (World.init fun _ => [some 1])).2
    (∀ i < g.bytes, desc i = desc' i) ∧ (be16 desc 32).toNat ≤ g.bytes ∧
      gveAdminqDescribeDevice g c (.ok ⟨0x5000⟩) desc w =
        gveAdminqDescribeDevice g c (.ok ⟨0x5000⟩) desc' w :=
  ⟨fun _ hi => (if_pos hi).symm, by decide,
    describe_device_determined_by_buffer _ _ _ _ _ _ (fun _ hi => (if_pos hi).symm) (by decide)⟩

/-- A descriptor whose `ADMINQ_SIZE = 4096` bytes are the same, and whose outcome is not:
`total_length` is 0xFFFF, the first of two options runs to offset 4104, and the second option,
past the buffer, decides. The walk reads the header at 4104 without rejecting the list. -/
theorem option_walk_reads_past_buffer :
    let g : AdminqSize := ⟨6, by decide⟩
    let c : GveConsts := ⟨2048, 1024, 2, 64, 4096⟩
    let inside : Nat → BitVec 8 := fun i =>
      if i = 31 then 2 else if i = 32 ∨ i = 33 then 0xFF else if i = 42 then 0x0F
      else if i = 43 then 0xD8 else 0
    let past : Nat → BitVec 8 := fun i => if i = 4105 then 3 else if i = 4107 then 4 else inside i
    let w := (gveAdminqAlloc g (.ok ⟨0x1000⟩) (World.init fun _ => [some 1])).2
    (∀ i < g.bytes, past i = inside i) ∧
      optionOffsets past (be16 past 32).toNat (be16 past 30).toNat 40 = some [40, 4104] ∧
      (gveAdminqDescribeDevice g c (.ok ⟨0x5000⟩) past w).1 = .ok ∧
      (gveAdminqDescribeDevice g c (.ok ⟨0x5000⟩) inside w).1 = .err .einval := by
  refine ⟨fun i hi => ?_, by decide, by decide, by decide⟩
  have : i < 4096 := hi
  simp only [if_neg (show i ≠ 4105 by omega), if_neg (show i ≠ 4107 by omega)]

end GveAdminq
