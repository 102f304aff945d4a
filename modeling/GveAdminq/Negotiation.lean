import GveAdminq.Descriptor

namespace GveAdminq

/-- The option offsets of the walk `o₀ = 40`, `o_{k+1} = o_k + 8 + option_length_k` over `n`
options, as long as every `o_{k+1}` is within `total_length = L`. -/
def optionOffsets (desc : Nat → BitVec 8) (L : Nat) : Nat → Nat → Option (List Nat)
  | 0, _ => some []
  | k + 1, o =>
    if o + 8 + (be16 desc (o + 2)).toNat ≤ L then
      (optionOffsets desc L k (o + 8 + (be16 desc (o + 2)).toNat)).map (o :: ·)
    else none

/-- An option `gve_parse_device_option` takes as the payload of id `id`: that id,
`option_length ≥ size` and a required-features mask equal to `mask`. -/
def validOption (id : BitVec 16) (size : Nat) (mask : BitVec 32) (desc : Nat → BitVec 8) (o : Nat) :
    Bool :=
  be16 desc o = id && size ≤ (be16 desc (o + 2)).toNat && be32 desc (o + 4) = mask

/-- An option of id GQI_QPL (3), `option_length ≥ 4` and a zero required-features mask. -/
def validGqiQpl (desc : Nat → BitVec 8) (o : Nat) : Bool :=
  validOption gveDevOptIdGqiQpl 4 gveDevOptReqFeatMaskGqiQpl desc o

/-- An option of id JUMBO_FRAMES (8), `option_length ≥ 8` and a zero required-features mask. -/
def validJumboFrames (desc : Nat → BitVec 8) (o : Nat) : Bool :=
  validOption gveDevOptIdJumboFrames 8 gveDevOptReqFeatMaskJumboFrames desc o

/-- The offset of the last option of `os` that `valid` accepts. -/
def lastValid (valid : Nat → Bool) (os : List Nat) : Option Nat := (os.filter valid).getLast?

theorem acceptDeviceOption_eq (size : Nat) (mask : BitVec 32) (o : Nat) (len : BitVec 16)
    (req : BitVec 32) (cur : Option Nat) :
    gveAcceptDeviceOption size mask o len req cur =
      if size ≤ len.toNat ∧ req = mask then some (o + 8) else cur := by
  unfold gveAcceptDeviceOption gveDeviceOptionSize
  by_cases h : size ≤ len.toNat ∧ req = mask
  · rw [if_neg (fun h' => h'.elim (by omega) (· h.2)), if_pos h]
  · rw [if_pos ?_, if_neg h]
    by_cases hs : size ≤ len.toNat
    · exact .inr fun he => h ⟨hs, he⟩
    · exact .inl (by omega)

theorem gveDevOptId_ne : gveDevOptIdGqiQpl ≠ gveDevOptIdJumboFrames := by decide

/-- One option updates each payload pointer that it is valid for, and only that one. -/
theorem parseDeviceOption_eq (desc : Nat → BitVec 8) (o : Nat) (qpl jumbo : Option Nat) :
    gveParseDeviceOption desc o qpl jumbo =
      (if validGqiQpl desc o then some (o + 8) else qpl,
        if validJumboFrames desc o then some (o + 8) else jumbo) := by
  unfold gveParseDeviceOption validGqiQpl validJumboFrames validOption
  by_cases h3 : be16 desc o = gveDevOptIdGqiQpl
  · simp [h3, acceptDeviceOption_eq, gveDevOptId_ne]
  by_cases h8 : be16 desc o = gveDevOptIdJumboFrames
  · simp [h3, h8, acceptDeviceOption_eq, gveDevOptId_ne.symm]
  · simp [h3, h8]

/-- `gve_parse_device_option` folded over a list of option offsets. -/
def parseOptions (desc : Nat → BitVec 8) (os : List Nat) (qpl jumbo : Option Nat) :
    Option Nat × Option Nat :=
  os.foldl (fun acc o => gveParseDeviceOption desc o acc.1 acc.2) (qpl, jumbo)

/-- The option loop walks `optionOffsets` and folds `gve_parse_device_option` over it. -/
theorem processOptionsLoop_eq (desc : Nat → BitVec 8) (k o : Nat) (qpl jumbo : Option Nat) :
    processOptionsLoop desc k o qpl jumbo =
      match optionOffsets desc (be16 desc 32).toNat k o with
      | none => .error .einval
      | some os => .ok (parseOptions desc os qpl jumbo) := by
  induction k generalizing o qpl jumbo with
  | zero => rfl
  | succ k ih =>
    simp only [processOptionsLoop, gveGetNextOption, optionOffsets, gveDeviceOptionSize]
    by_cases h : o + 8 + (be16 desc (o + 2)).toNat ≤ (be16 desc 32).toNat
    · rw [if_neg (by omega), if_pos h]
      dsimp only
      rw [ih]
      cases optionOffsets desc (be16 desc 32).toNat k (o + 8 + (be16 desc (o + 2)).toNat) <;> rfl
    · rw [if_pos (by omega), if_neg h]

theorem lastValid_cons_or (valid : Nat → Bool) (o : Nat) (os : List Nat) (init : Option Nat) :
    ((lastValid valid (o :: os)).map (· + 8)).or init =
      ((lastValid valid os).map (· + 8)).or (if valid o then some (o + 8) else init) := by
  unfold lastValid
  by_cases h : valid o
  · rw [List.filter_cons_of_pos h, List.getLast?_cons, if_pos h]
    cases (os.filter valid).getLast? <;> rfl
  · rw [List.filter_cons_of_neg h, if_neg h]

/-- The fold keeps, for each payload, the last option valid for it. -/
theorem parseOptions_eq (desc : Nat → BitVec 8) (os : List Nat) (qpl jumbo : Option Nat) :
    parseOptions desc os qpl jumbo =
      (((lastValid (validGqiQpl desc) os).map (· + 8)).or qpl,
        ((lastValid (validJumboFrames desc) os).map (· + 8)).or jumbo) := by
  induction os generalizing qpl jumbo with
  | nil => rfl
  | cons o os ih =>
    rw [parseOptions, List.foldl_cons, ← parseOptions, parseDeviceOption_eq, ih, lastValid_cons_or,
      lastValid_cons_or]

theorem processDeviceOptions_eq (desc : Nat → BitVec 8) :
    gveProcessDeviceOptions desc =
      match optionOffsets desc (be16 desc 32).toNat (be16 desc 30).toNat 40 with
      | none => .error .einval
      | some os => .ok ((lastValid (validGqiQpl desc) os).map (· + 8),
          (lastValid (validJumboFrames desc) os).map (· + 8)) := by
  rw [gveProcessDeviceOptions, processOptionsLoop_eq, gveDeviceDescriptorSize]
  cases optionOffsets desc (be16 desc 32).toNat (be16 desc 30).toNat 40 with
  | none => rfl
  | some os =>
    exact congrArg Except.ok (by rw [parseOptions_eq, Option.or_none, Option.or_none])

/-- The MTU the negotiation settles on: the `max_mtu` of the last valid jumbo-frames option
when the supported features have the jumbo-frames bit, the descriptor's `mtu` otherwise. -/
def negotiatedMtu (desc : Nat → BitVec 8) (os : List Nat) (features : BitVec 32) : Nat :=
  match lastValid (validJumboFrames desc) os with
  | some j =>
    if features &&& gveSupJumboFramesMask ≠ 0 then (be16 desc (j + 12)).toNat
    else (be16 desc 16).toNat
  | none => (be16 desc 16).toNat

theorem describeDeviceNegotiate_eq (c : GveConsts) (desc : Nat → BitVec 8) (p : Priv) :
    gveDescribeDeviceNegotiate c desc p =
      let p := { p with maxRxDescCnt := c.maxRingSize, maxTxDescCnt := c.maxRingSize }
      match optionOffsets desc (be16 desc 32).toNat (be16 desc 30).toNat 40 with
      | none => (.err .einval, p)
      | some os =>
        match lastValid (validGqiQpl desc) os with
        | none => (.err .einval, p)
        | some q => (.ok, gveDescribeDeviceFields c desc (q + 8)
            ((lastValid (validJumboFrames desc) os).map (· + 8)) p) := by
  unfold gveDescribeDeviceNegotiate
  rw [processDeviceOptions_eq]
  rcases optionOffsets desc (be16 desc 32).toNat (be16 desc 30).toNat 40 with _ | os
  · rfl
  · cases hq : lastValid (validGqiQpl desc) os
    · simp only [hq, Option.map_none']
    · simp only [hq, Option.map_some']

theorem describeDeviceFields_spec (c : GveConsts) (desc : Nat → BitVec 8) (q : Nat)
    (os : List Nat) (p : Priv) (hrx : p.maxRxDescCnt = c.maxRingSize)
    (htx : p.maxTxDescCnt = c.maxRingSize) :
    let r := gveDescribeDeviceFields c desc (q + 8) ((lastValid (validJumboFrames desc) os).map (· + 8)) p
    r.queueFormat = c.gqiQplFormat ∧
      r.supportedFeatures = (be32 desc (q + 8)).toNat ∧
      r.maxMtu = negotiatedMtu desc os (be32 desc (q + 8)) ∧
      r.txDescCnt = min (be16 desc 10).toNat c.maxRingSize ∧
      r.rxDescCnt = min (be16 desc 12).toNat c.maxRingSize ∧
      r.numEventCounters = (be16 desc 18).toNat ∧
      r.defaultNumQueues = (be16 desc 14).toNat ∧
      r.rxPagesPerQpl = (be16 desc 22).toNat ∧
      r.maxRegisteredPages = (be64 desc 0).toNat ∧
      r.mac = (List.range 6).map fun i => desc (24 + i) := by
  have hmtu : (((lastValid (validJumboFrames desc) os).map (· + 8)).elim (be16 desc 16).toNat
      fun j => if be32 desc (q + 8) &&& gveSupJumboFramesMask ≠ 0 then (be16 desc (j + 4)).toNat
        else (be16 desc 16).toNat) = negotiatedMtu desc os (be32 desc (q + 8)) := by
    unfold negotiatedMtu
    cases lastValid (validJumboFrames desc) os <;> rfl
  simp only [gveDescribeDeviceFields, enableSupportedFeatures_eq, hmtu]
  split_ifs <;> simp only [hrx, htx, etherAddrLen, true_and, and_true] at * <;> omega

variable (g : AdminqSize)

theorem describeDevice_of_cmd_ok (c : GveConsts) (descMem : GveDmaHandle) (desc : Nat → BitVec 8)
    (w : World)
    (hcmd : (gveAdminqExecuteCmd g (describeDeviceCmd g descMem)
      { w with dmaLive := w.dmaLive + 1 }).1 = .ok) :
    let w' := (gveAdminqExecuteCmd g (describeDeviceCmd g descMem)
      { w with dmaLive := w.dmaLive + 1 }).2
    gveAdminqDescribeDevice g c (.ok descMem) desc w =
      ((gveDescribeDeviceNegotiate c desc w'.priv).1,
        { w' with priv := (gveDescribeDeviceNegotiate c desc w'.priv).2,
                  dmaLive := w'.dmaLive - 1 }) := by
  unfold gveAdminqDescribeDevice
  dsimp only
  generalize gveAdminqExecuteCmd g (describeDeviceCmd g descMem)
    { w with dmaLive := w.dmaLive + 1 } = x at hcmd ⊢
  obtain ⟨rc, w'⟩ := x
  cases hcmd
  rfl

/-- Once DESCRIBE_DEVICE succeeded, the negotiation succeeds exactly when the option walk stays
within `total_length` and finds a valid GQI-QPL option, and takes the fields from the last ones. -/
theorem describe_device_negotiation_is_fold (c : GveConsts) (descMem : GveDmaHandle)
    (desc : Nat → BitVec 8) (w : World)
    (hcmd : (gveAdminqExecuteCmd g (describeDeviceCmd g descMem)
      { w with dmaLive := w.dmaLive + 1 }).1 = .ok) :
    let r := gveAdminqDescribeDevice g c (.ok descMem) desc w
    let offsets := optionOffsets desc (be16 desc 32).toNat (be16 desc 30).toNat 40
    (r.1 = .ok ↔ ∃ os, offsets = some os ∧ ∃ o ∈ os, validGqiQpl desc o) ∧
    ∀ os q, offsets = some os → lastValid (validGqiQpl desc) os = some q →
      r.2.priv.queueFormat = c.gqiQplFormat ∧
      r.2.priv.supportedFeatures = (be32 desc (q + 8)).toNat ∧
      r.2.priv.maxMtu = negotiatedMtu desc os (be32 desc (q + 8)) ∧
      r.2.priv.txDescCnt = min (be16 desc 10).toNat c.maxRingSize ∧
      r.2.priv.rxDescCnt = min (be16 desc 12).toNat c.maxRingSize ∧
      r.2.priv.numEventCounters = (be16 desc 18).toNat ∧
      r.2.priv.defaultNumQueues = (be16 desc 14).toNat ∧
      r.2.priv.rxPagesPerQpl = (be16 desc 22).toNat ∧
      r.2.priv.maxRegisteredPages = (be64 desc 0).toNat ∧
      r.2.priv.mac = (List.range 6).map fun i => desc (24 + i) := by
  rw [describeDevice_of_cmd_ok g c descMem desc w hcmd]
  dsimp only
  rw [describeDeviceNegotiate_eq]
  cases hoff : optionOffsets desc (be16 desc 32).toNat (be16 desc 30).toNat 40 with
  | none => exact ⟨by simp, fun os q h => by cases h⟩
  | some os =>
    dsimp only
    cases hq : lastValid (validGqiQpl desc) os with
    | none =>
      have hnone : ∀ o ∈ os, validGqiQpl desc o = false := by
        simpa [lastValid, List.filter_eq_nil_iff] using hq
      refine ⟨?_, fun os' q h hq' => ?_⟩
      · simp only [Option.some.injEq, exists_eq_left']
        exact ⟨nofun, fun ⟨o, ho, hv⟩ => absurd hv (by simp [hnone o ho])⟩
      · cases h; rw [hq] at hq'; cases hq'
    | some q =>
      have hmem : q ∈ os.filter (validGqiQpl desc) := List.mem_of_getLast?_eq_some hq
      refine ⟨iff_of_true rfl ⟨os, rfl, q, List.mem_filter.mp hmem⟩, fun os' q' h hq' => ?_⟩
      cases h
      rw [hq] at hq'
      cases hq'
      refine describeDeviceFields_spec c desc q os _ ?_ ?_ <;> rfl

theorem describe_device_negotiation_is_fold_one_option :
    let g : AdminqSize := ⟨6, by decide⟩
    let c : GveConsts := ⟨2048, 1024, 2, 64, 4096⟩
    let desc : Nat → BitVec 8 := fun i =>
      if i = 31 then 1 else if i = 33 then 52 else if i = 41 then 3 else if i = 43 then 4 else 0
    let w := (gveAdminqAlloc g (.ok ⟨0x1000⟩) (World.init fun _ => [some 1])).2
    let r := gveAdminqDescribeDevice g c (.ok ⟨0x5000⟩) desc w
    let offsets := optionOffsets desc (be16 desc 32).toNat (be16 desc 30).toNat 40
    (r.1 = .ok ↔ ∃ os, offsets = some os ∧ ∃ o ∈ os, validGqiQpl desc o) ∧
    ∀ os q, offsets = some os → lastValid (validGqiQpl desc) os = some q →
      r.2.priv.queueFormat = c.gqiQplFormat ∧
      r.2.priv.supportedFeatures = (be32 desc (q + 8)).toNat ∧
      r.2.priv.maxMtu = negotiatedMtu desc os (be32 desc (q + 8)) ∧
      r.2.priv.txDescCnt = min (be16 desc 10).toNat c.maxRingSize ∧
      r.2.priv.rxDescCnt = min (be16 desc 12).toNat c.maxRingSize ∧
      r.2.priv.numEventCounters = (be16 desc 18).toNat ∧
      r.2.priv.defaultNumQueues = (be16 desc 14).toNat ∧
      r.2.priv.rxPagesPerQpl = (be16 desc 22).toNat ∧
      r.2.priv.maxRegisteredPages = (be64 desc 0).toNat ∧
      r.2.priv.mac = (List.range 6).map fun i => desc (24 + i) :=
  describe_device_negotiation_is_fold _ _ _ _ _ (by decide)

end GveAdminq
