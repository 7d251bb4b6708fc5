import PolicyRuntime.St3215Stream

/-!
# The two framers of the ST3215

The serial transport cuts frames from its stream by header and length and leaves
the checksums to its reader.  The stream parser checks them itself.  On the same
bytes both find the same packets.
-/

namespace PolicyRuntime

open St3215Protocol St3215StreamParser

/-! ## The recursion of the transport's framer -/

/-- `extract_frame`, with a bound on the depth of its recursion. -/
def extractFrameWithin (maximumFrameSize : ℕ) :
    ℕ → Bytes → Bool → Option (Option Bytes × Bytes × Bool)
  | 0, _, _ => none
  | depth + 1, stream, sawFramingError =>
      let sought := seekHeader stream
      if sought.length < 4 then
        some (none, sought, sawFramingError)
      else
        let length := sought.getD 3 0
        let frameSize := length.toNat + 4
        if length < 2 || maximumFrameSize < frameSize ||
            kMaximumFrameStorage < frameSize then
          extractFrameWithin maximumFrameSize depth (sought.drop 2) true
        else if sought.length < frameSize then
          some (none, sought, sawFramingError)
        else
          some (some (sought.take frameSize), sought.drop frameSize,
            sawFramingError)

theorem seekHeader_shape (stream : Bytes) :
    (seekHeader stream).length < 2 ∨
      ∃ rest, seekHeader stream = 0xff :: 0xff :: rest := by
  induction stream using seekHeader.induct with
  | case1 first second rest hheader =>
      obtain ⟨rfl, rfl⟩ := hheader
      exact Or.inr ⟨rest, if_pos ⟨rfl, rfl⟩⟩
  | case2 first second rest hheader ih =>
      rw [seekHeader, if_neg hheader]
      exact ih
  | case3 short hshort =>
      left
      rw [seekHeader]
      · cases short with
        | nil => exact Nat.zero_lt_two
        | cons first tail =>
            cases tail with
            | nil => exact Nat.one_lt_two
            | cons second rest => exact (hshort first second rest rfl).elim
      · exact hshort

theorem seekHeader_seekHeader (stream : Bytes) :
    seekHeader (seekHeader stream) = seekHeader stream := by
  rcases seekHeader_shape stream with hshort | ⟨rest, hrest⟩
  · match h : seekHeader stream with
    | [] => rfl
    | [byte] => rfl
    | first :: second :: rest =>
        rw [h] at hshort
        simp only [List.length_cons] at hshort
        omega
  · rw [hrest]
    exact if_pos ⟨rfl, rfl⟩

theorem extractFrame_seekHeader (maximumFrameSize : ℕ) (stream : Bytes)
    (saw : Bool) :
    extractFrame maximumFrameSize (seekHeader stream) saw =
      extractFrame maximumFrameSize stream saw := by
  induction stream using seekHeader.induct with
  | case1 first second rest hheader => rw [seekHeader, if_pos hheader]
  | case2 first second rest hheader ih =>
      have hbytes : ¬ ((decide (first = 0xff) && decide (second = 0xff)) =
          true) := by
        rw [Bool.and_eq_true, decide_eq_true_eq, decide_eq_true_eq]
        exact hheader
      rw [seekHeader, if_neg hheader, ih]
      conv => rhs; rw [extractFrame, if_neg hbytes]
  | case3 short hshort =>
      rw [seekHeader]
      exact hshort

/-- A header whose length no frame has. -/
def badLength (maximumFrameSize : ℕ) (length : UInt8) : Bool :=
  length < 2 || maximumFrameSize < length.toNat + 4 ||
    kMaximumFrameStorage < length.toNat + 4

theorem extractFrame_short (maximumFrameSize : ℕ) {sought : Bytes}
    (hshape : sought.length < 2 ∨ ∃ rest, sought = 0xff :: 0xff :: rest)
    (hshort : sought.length < 4) (saw : Bool) :
    extractFrame maximumFrameSize sought saw = (none, sought, saw) := by
  match sought with
  | [] => rfl
  | [byte] => rfl
  | first :: second :: rest =>
      rcases hshape with hlength | ⟨body, hbody⟩
      · simp only [List.length_cons] at hlength
        omega
      · cases hbody
        simp only [List.length_cons] at hshort
        rw [extractFrame]
        simp only [decide_true, Bool.and_self, if_true]
        rw [if_pos (by omega)]

theorem extractFrame_bad {maximumFrameSize : ℕ} {length : UInt8}
    (hbad : badLength maximumFrameSize length = true) (id : UInt8)
    (body : Bytes) (saw : Bool) :
    extractFrame maximumFrameSize (0xff :: 0xff :: id :: length :: body) saw =
      extractFrame maximumFrameSize (id :: length :: body) true := by
  unfold badLength at hbad
  conv => lhs; rw [extractFrame]
  simp only [decide_true, Bool.and_self, if_true, List.length_cons,
    List.getD_cons_succ, List.getD_cons_zero]
  rw [if_neg (by omega), if_pos hbad]

theorem fits_of_not_bad {maximumFrameSize : ℕ} {length : UInt8}
    (hbad : ¬ badLength maximumFrameSize length = true) :
    2 ≤ length.toNat ∧ length.toNat + 4 ≤ maximumFrameSize ∧
      length.toNat + 4 ≤ kMaximumFrameStorage := by
  have htwo : (2 : UInt8).toNat = 2 := rfl
  unfold badLength at hbad
  simp only [Bool.or_eq_true, decide_eq_true_eq, not_or,
    UInt8.lt_iff_toNat_lt, htwo, not_lt] at hbad
  exact ⟨hbad.1.1, hbad.1.2, hbad.2⟩

/-- Every level of the recursion is two bytes deeper in the stream. -/
theorem extractFrameWithin_eq (maximumFrameSize : ℕ) {depth : ℕ}
    {stream : Bytes} (hdepth : stream.length < depth) (saw : Bool) :
    extractFrameWithin maximumFrameSize depth stream saw =
      some (extractFrame maximumFrameSize stream saw) := by
  induction depth generalizing stream saw with
  | zero => omega
  | succ depth ih =>
      have hle := length_seekHeader_le stream
      have hshape := seekHeader_shape stream
      rw [← extractFrame_seekHeader]
      unfold extractFrameWithin
      dsimp only
      generalize seekHeader stream = sought at hle hshape
      split
      · next hshort =>
          rw [extractFrame_short maximumFrameSize hshape hshort]
      · next hlong =>
          match sought with
          | [] => exact absurd (by decide : 0 < 4) hlong
          | [_] => exact absurd (by decide : 1 < 4) hlong
          | [_, _] => exact absurd (by decide : 2 < 4) hlong
          | [_, _, _] => exact absurd (by decide : 3 < 4) hlong
          | first :: second :: id :: length :: body =>
              rcases hshape with hlength | ⟨rest, hrest⟩
              · simp only [List.length_cons] at hlength
                omega
              · cases hrest
                simp only [List.length_cons] at hle
                rw [List.getD_cons_succ, List.getD_cons_succ,
                  List.getD_cons_succ, List.getD_cons_zero]
                split
                · next hbad =>
                    rw [extractFrame_bad hbad]
                    apply ih
                    simp only [List.drop_succ_cons, List.drop_zero,
                      List.length_cons]
                    omega
                · next hgood =>
                    obtain ⟨htwo, hfits, hstored⟩ := fits_of_not_bad hgood
                    rw [extractFrame_header id length body htwo hfits
                      hstored]
                    simp only [List.length_cons]
                    by_cases hpartial : body.length < length.toNat
                    · rw [if_pos (by omega), if_pos hpartial]
                    · rw [if_neg (by omega), if_neg hpartial]
                      rfl

/-! ## Draining both framers -/

/-- Calls of `extract_frame` until it returns false.  No more than the given
number of calls are made. -/
def extractAll (maximumFrameSize : ℕ) :
    ℕ → Bytes → Option (List Bytes × Bytes)
  | 0, _ => none
  | calls + 1, stream =>
      match extractFrame maximumFrameSize stream false with
      | (none, left, _) => some ([], left)
      | (some frame, left, _) =>
          (extractAll maximumFrameSize calls left).map fun (frames, last) =>
            (frame :: frames, last)

/-- The packets among frames, without those which do not decode. -/
def decodeFrames (frames : List Bytes) : List St3215Packet :=
  frames.filterMap fun frame => (decodePacket frame).toOption

/-- The packets among the results of a parser, without its errors. -/
def decodedPackets (results : List (Except Error St3215Packet)) :
    List St3215Packet :=
  results.filterMap Except.toOption

theorem extractFrame_saw (maximumFrameSize : ℕ) (stream : Bytes)
    (saw other : Bool) :
    (extractFrame maximumFrameSize stream saw).1 =
        (extractFrame maximumFrameSize stream other).1 ∧
      (extractFrame maximumFrameSize stream saw).2.1 =
        (extractFrame maximumFrameSize stream other).2.1 := by
  fun_induction extractFrame maximumFrameSize stream saw with
  | case1 first second rest saw hheader hshort =>
      rw [extractFrame, if_pos hheader, if_pos hshort]
      exact ⟨rfl, rfl⟩
  | case2 first second rest saw hheader hshort length frameSize hbad ih =>
      rw [extractFrame, if_pos hheader, if_neg hshort, if_pos hbad]
      exact ⟨rfl, rfl⟩
  | case3 first second rest saw hheader hshort length frameSize hbad
      hpartial =>
      rw [extractFrame, if_pos hheader, if_neg hshort, if_neg hbad,
        if_pos hpartial]
      exact ⟨rfl, rfl⟩
  | case4 first second rest saw hheader hshort length frameSize hbad
      hpartial =>
      rw [extractFrame, if_pos hheader, if_neg hshort, if_neg hbad,
        if_neg hpartial]
      exact ⟨rfl, rfl⟩
  | case5 first second rest saw hheader ih =>
      have hskip : extractFrame maximumFrameSize (first :: second :: rest)
          other = extractFrame maximumFrameSize (second :: rest) other := by
        rw [extractFrame, if_neg hheader]
      rw [hskip]
      exact ih
  | case6 short saw hshort =>
      rw [extractFrame]
      · exact ⟨rfl, rfl⟩
      · exact hshort

theorem extractAll_saw {maximumFrameSize calls : ℕ} {stream other : Bytes}
    {saw : Bool}
    (hsame : extractFrame maximumFrameSize stream false =
      extractFrame maximumFrameSize other saw) :
    extractAll maximumFrameSize calls stream =
      extractAll maximumFrameSize calls other := by
  cases calls with
  | zero => rfl
  | succ calls =>
      obtain ⟨hframe, hleft⟩ :=
        extractFrame_saw maximumFrameSize other saw false
      rw [← hsame] at hframe hleft
      unfold extractAll
      rcases hfirst : extractFrame maximumFrameSize stream false with
        ⟨frame, left, sawFirst⟩
      rcases hsecond : extractFrame maximumFrameSize other false with
        ⟨frame', left', sawSecond⟩
      rw [hfirst, hsecond] at hframe hleft
      dsimp only at hframe hleft
      rw [hframe, hleft]
      cases frame' <;> rfl

theorem next_seekHeader (bytes : Bytes) :
    next ⟨seekHeader bytes⟩ = next ⟨bytes⟩ := by
  unfold next
  dsimp only
  rw [seekHeader_seekHeader]

/-- A short stream gives neither framer anything. -/
theorem next_short {sought : Bytes}
    (hshape : sought.length < 2 ∨ ∃ rest, sought = 0xff :: 0xff :: rest)
    (hshort : sought.length < 4) : next ⟨sought⟩ = (⟨sought⟩, .ok none) := by
  have hseek : seekHeader sought = sought := by
    match sought with
    | [] => rfl
    | [byte] => rfl
    | first :: second :: rest =>
        rcases hshape with hlength | ⟨body, hbody⟩
        · simp only [List.length_cons] at hlength
          omega
        · cases hbody
          exact if_pos ⟨rfl, rfl⟩
  unfold next
  dsimp only
  rw [hseek]
  split
  · rfl
  · rfl

theorem next_bad {length : UInt8}
    (hbad : badLength kSt3215MaximumFrameSize length = true) (id : UInt8)
    (body : Bytes) :
    next ⟨0xff :: 0xff :: id :: length :: body⟩ =
      (⟨id :: length :: body⟩,
        .error ⟨.protocol, "invalid ST3215 packet length"⟩) := by
  have hbound := length.toNat_lt
  have hsmall : length < 2 := by
    unfold badLength kSt3215MaximumFrameSize kMaximumFrameStorage at hbad
    simp only [Bool.or_eq_true, decide_eq_true_eq] at hbad
    rcases hbad with (hbad | hbad) | hbad
    · exact hbad
    · omega
    · omega
  have hseek : seekHeader (0xff :: 0xff :: id :: length :: body) =
      0xff :: 0xff :: id :: length :: body :=
    if_pos ⟨rfl, rfl⟩
  have hget : (0xff :: 0xff :: id :: length :: body : Bytes).getD 3 0 =
      length := rfl
  have hcount : (0xff :: 0xff :: id :: length :: body : Bytes).length =
      body.length + 4 := rfl
  unfold next
  dsimp only
  rw [hseek, hget, hcount, if_neg (by omega), if_neg (by omega),
    if_pos hsmall]
  rfl

theorem extractAll_frame {maximumFrameSize calls : ℕ}
    {stream frame left : Bytes} {saw : Bool}
    (hframe : extractFrame maximumFrameSize stream false =
      (some frame, left, saw)) :
    extractAll maximumFrameSize (calls + 1) stream =
      (extractAll maximumFrameSize calls left).map fun (frames, last) =>
        (frame :: frames, last) := by
  rw [extractAll, hframe]

theorem extractAll_none {maximumFrameSize calls : ℕ}
    {stream left : Bytes} {saw : Bool}
    (hnone : extractFrame maximumFrameSize stream false =
      (none, left, saw)) :
    extractAll maximumFrameSize (calls + 1) stream = some ([], left) := by
  rw [extractAll, hnone]

theorem drain_next_congr {bytes other : Bytes} (calls : ℕ)
    (hnext : next ⟨bytes⟩ = next ⟨other⟩) :
    drain calls ⟨bytes⟩ = drain calls ⟨other⟩ := by
  cases calls with
  | zero => rfl
  | succ calls =>
      rw [drain, drain, hnext]

/-- Both framers find the same packets and leave the same bytes. -/
def SameFrames (bytes : Bytes) (extractions calls : ℕ) : Prop :=
  ∃ frames results residual,
    extractAll kSt3215MaximumFrameSize extractions bytes =
      some (frames, residual) ∧
    drain calls ⟨bytes⟩ = some (results, ⟨residual⟩) ∧
    decodedPackets results = decodeFrames frames

theorem SameFrames.of_seekHeader {bytes : Bytes} {extractions calls : ℕ}
    (h : SameFrames (seekHeader bytes) extractions calls) :
    SameFrames bytes extractions calls := by
  obtain ⟨frames, results, residual, hall, hdrain, hsame⟩ := h
  refine ⟨frames, results, residual, ?_, ?_, hsame⟩
  · rw [← hall]
    exact extractAll_saw (extractFrame_seekHeader _ bytes false).symm
  · rw [← hdrain]
    exact drain_next_congr calls (next_seekHeader bytes).symm

theorem SameFrames.short {sought : Bytes}
    (hshape : sought.length < 2 ∨ ∃ rest, sought = 0xff :: 0xff :: rest)
    (hshort : sought.length < 4) (extractions calls : ℕ) :
    SameFrames sought (extractions + 1) (calls + 1) := by
  refine ⟨[], [], sought, ?_, ?_, rfl⟩
  · exact extractAll_none
      (extractFrame_short kSt3215MaximumFrameSize hshape hshort false)
  · rw [drain, next_short hshape hshort]

theorem SameFrames.bad {length : UInt8}
    (hbad : badLength kSt3215MaximumFrameSize length = true) {id : UInt8}
    {body : Bytes} {extractions calls : ℕ}
    (h : SameFrames (id :: length :: body) extractions calls) :
    SameFrames (0xff :: 0xff :: id :: length :: body) extractions
      (calls + 1) := by
  obtain ⟨frames, results, residual, hall, hdrain, hsame⟩ := h
  refine ⟨frames, .error ⟨.protocol, "invalid ST3215 packet length"⟩ :: results,
    residual, ?_, ?_, hsame⟩
  · rw [← hall]
    exact extractAll_saw (extractFrame_bad hbad id body false)
  · rw [drain, next_bad hbad]
    dsimp only
    rw [hdrain]
    rfl

theorem SameFrames.begun {length : UInt8} (hlength : 2 ≤ length.toNat)
    {id : UInt8} {body : Bytes} (hmissing : body.length < length.toNat)
    (extractions calls : ℕ) :
    SameFrames (0xff :: 0xff :: id :: length :: body) (extractions + 1)
      (calls + 1) := by
  have hbound := length.toNat_lt
  have hextract := extractFrame_header id length body hlength
    (show length.toNat + 4 ≤ kSt3215MaximumFrameSize by
      unfold kSt3215MaximumFrameSize
      omega)
    (show length.toNat + 4 ≤ kMaximumFrameStorage by
      unfold kMaximumFrameStorage
      omega) false
  rw [if_pos hmissing] at hextract
  refine ⟨[], [], _, extractAll_none hextract, ?_, rfl⟩
  rw [drain, next_header id length body hlength, if_pos hmissing]

theorem SameFrames.whole {length : UInt8} (hlength : 2 ≤ length.toNat)
    {id : UInt8} {body : Bytes} (hwhole : ¬ body.length < length.toNat)
    {extractions calls : ℕ}
    (h : SameFrames (body.drop length.toNat) extractions calls) :
    SameFrames (0xff :: 0xff :: id :: length :: body) (extractions + 1)
      (calls + 1) := by
  have hbound := length.toNat_lt
  have hextract := extractFrame_header id length body hlength
    (show length.toNat + 4 ≤ kSt3215MaximumFrameSize by
      unfold kSt3215MaximumFrameSize
      omega)
    (show length.toNat + 4 ≤ kMaximumFrameStorage by
      unfold kMaximumFrameStorage
      omega) false
  rw [if_neg hwhole] at hextract
  obtain ⟨frames, results, residual, hall, hdrain, hsame⟩ := h
  have hframes := @extractAll_frame _ extractions _ _ _ _ hextract
  rw [hall] at hframes
  cases hdecode : decodePacket
      (0xff :: 0xff :: id :: length :: body.take length.toNat) with
  | error error =>
      refine ⟨_, .error error :: results, residual, hframes, ?_, ?_⟩
      · rw [drain, next_header id length body hlength, if_neg hwhole, hdecode]
        dsimp only
        rw [hdrain]
        rfl
      · unfold decodeFrames
        rw [List.filterMap_cons, hdecode]
        exact hsame
  | ok packet =>
      refine ⟨_, .ok packet :: results, residual, hframes, ?_, ?_⟩
      · rw [drain, next_header id length body hlength, if_neg hwhole, hdecode]
        dsimp only
        rw [hdrain]
        rfl
      · unfold decodeFrames
        rw [List.filterMap_cons, hdecode]
        exact congrArg (packet :: ·) hsame

theorem sameFrames {size : ℕ} {bytes : Bytes} {extractions calls : ℕ}
    (hsize : bytes.length ≤ size) (hextractions : bytes.length < extractions)
    (hcalls : bytes.length < calls) : SameFrames bytes extractions calls := by
  induction size using Nat.strong_induction_on generalizing bytes extractions
    calls with
  | _ size ih =>
  have hle := length_seekHeader_le bytes
  have hshape := seekHeader_shape bytes
  apply SameFrames.of_seekHeader
  generalize seekHeader bytes = sought at hle hshape
  cases extractions with
  | zero => omega
  | succ extractions =>
  cases calls with
  | zero => omega
  | succ calls =>
  by_cases hshort : sought.length < 4
  · exact .short hshape hshort extractions calls
  · match sought with
    | [] => exact absurd (by decide : 0 < 4) hshort
    | [_] => exact absurd (by decide : 1 < 4) hshort
    | [_, _] => exact absurd (by decide : 2 < 4) hshort
    | [_, _, _] => exact absurd (by decide : 3 < 4) hshort
    | first :: second :: id :: length :: body =>
        rcases hshape with hlength | ⟨rest, hrest⟩
        · simp only [List.length_cons] at hlength
          omega
        · cases hrest
          simp only [List.length_cons] at hle
          by_cases hbad : badLength kSt3215MaximumFrameSize length = true
          · apply SameFrames.bad hbad
            apply ih (body.length + 2) (by omega)
            · exact le_rfl
            · simp only [List.length_cons]
              omega
            · simp only [List.length_cons]
              omega
          · obtain ⟨hlength, -, -⟩ := fits_of_not_bad hbad
            by_cases hpartial : body.length < length.toNat
            · exact .begun hlength hpartial extractions calls
            · apply SameFrames.whole hlength hpartial
              apply ih body.length (by omega)
              · rw [List.length_drop]
                omega
              · rw [List.length_drop]
                omega
              · rw [List.length_drop]
                omega

/-- Both framers agree on every buffer, and the recursion of `extract_frame`
ends on every buffer. -/
theorem framers_agree :
    (∀ (buffer : Bytes) (extractions calls : ℕ),
      buffer.length < extractions → buffer.length < calls →
      ∃ frames results residual,
        extractAll kSt3215MaximumFrameSize extractions buffer =
          some (frames, residual) ∧
        drain calls ⟨buffer⟩ = some (results, ⟨residual⟩) ∧
        decodedPackets results = decodeFrames frames) ∧
    ∀ (maximumFrameSize : ℕ) (buffer : Bytes) (saw : Bool) (depth : ℕ),
      buffer.length < depth →
      extractFrameWithin maximumFrameSize depth buffer saw =
        some (extractFrame maximumFrameSize buffer saw) := by
  constructor
  · intro buffer extractions calls hextractions hcalls
    exact sameFrames le_rfl hextractions hcalls
  · intro maximumFrameSize buffer saw depth hdepth
    exact extractFrameWithin_eq maximumFrameSize hdepth saw

/-- Noise before a ping, and a header with a bad length. -/
theorem framers_agree_noise :
    (∃ frames results residual,
      extractAll kSt3215MaximumFrameSize 20
          [7, 0xff, 0xff, 1, 0, 0xff, 0xff, 1, 2, 1, 0xfb, 9] =
        some (frames, residual) ∧
      drain 20 ⟨[7, 0xff, 0xff, 1, 0, 0xff, 0xff, 1, 2, 1, 0xfb, 9]⟩ =
        some (results, ⟨residual⟩) ∧
      decodedPackets results = decodeFrames frames) ∧
    extractFrameWithin kSt3215MaximumFrameSize 2 [7] false =
      some (extractFrame kSt3215MaximumFrameSize [7] false) :=
  ⟨framers_agree.1 _ 20 20 (by decide) (by decide),
    framers_agree.2 kSt3215MaximumFrameSize [7] false 2 (by decide)⟩

end PolicyRuntime
