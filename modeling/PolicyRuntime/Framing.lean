import Mathlib.Tactic

/-!
# Frames in a buffer

A sender writes frames one after the other and a receiver gets their bytes in
pieces.  Whatever the pieces are, a buffer of received bytes holds some complete
frames and then the beginning of the next one.
-/

namespace PolicyRuntime

variable {α : Type*}

/-- The bytes are the beginning of the first frame, but not all of it. -/
def Begun (left : List α) : List (List α) → Prop
  | [] => left = []
  | frame :: _ => ∃ missing, missing ≠ [] ∧ left ++ missing = frame

theorem Begun.length_lt {left frame : List α} {rest : List (List α)}
    (h : Begun left (frame :: rest)) : left.length < frame.length := by
  obtain ⟨missing, hmissing, rfl⟩ := h
  have hpos := List.length_pos_of_ne_nil hmissing
  rw [List.length_append]
  omega

theorem begun_of_length_lt {left frame future : List α}
    {rest : List (List α)} (hlength : left.length < frame.length)
    (hbytes : left ++ future = frame ++ rest.flatten) :
    Begun left (frame :: rest) := by
  rcases List.append_eq_append_iff.mp hbytes with
    ⟨missing, rfl, -⟩ | ⟨extra, rfl, -⟩
  · refine ⟨missing, ?_, rfl⟩
    rintro rfl
    rw [List.append_nil] at hlength
    exact lt_irrefl _ hlength
  · rw [List.length_append] at hlength
    omega

theorem begun_nil {frames : List (List α)}
    (hframes : ∀ frame ∈ frames, frame ≠ []) : Begun [] frames := by
  cases frames with
  | nil => rfl
  | cons frame rest =>
      exact ⟨frame, hframes frame (List.mem_cons_self ..), rfl⟩

/-- The complete frames of a buffer. -/
theorem exists_complete {frames : List (List α)} {buffer future : List α}
    (hbytes : buffer ++ future = frames.flatten) :
    ∃ complete rest left, frames = complete ++ rest ∧
      buffer = complete.flatten ++ left ∧ left ++ future = rest.flatten ∧
      Begun left rest := by
  induction frames generalizing buffer with
  | nil =>
      obtain ⟨hbuffer, hfuture⟩ := List.append_eq_nil_iff.mp hbytes
      exact ⟨[], [], [], rfl, hbuffer, hfuture, rfl⟩
  | cons frame tail ih =>
      rw [List.flatten_cons] at hbytes
      by_cases hlength : buffer.length < frame.length
      · exact ⟨[], frame :: tail, buffer, rfl, rfl, hbytes,
          begun_of_length_lt hlength hbytes⟩
      · have hsplit : ∃ more, buffer = frame ++ more ∧
            more ++ future = tail.flatten := by
          rcases List.append_eq_append_iff.mp hbytes with
            ⟨missing, rfl, hfuture⟩ | ⟨more, rfl, htail⟩
          · rw [List.length_append] at hlength
            have hempty : missing = [] := by
              apply List.eq_nil_of_length_eq_zero
              omega
            refine ⟨[], ?_, ?_⟩
            · rw [hempty, List.append_nil, List.append_nil]
            · rw [hfuture, hempty]
              rfl
          · exact ⟨more, rfl, htail.symm⟩
        obtain ⟨more, hbuffer, hmore⟩ := hsplit
        obtain ⟨complete, rest, left, hframes, hleft, hrest, hbegun⟩ :=
          ih hmore
        refine ⟨frame :: complete, rest, left, ?_, ?_, hrest, hbegun⟩
        · rw [hframes]
          rfl
        · rw [hbuffer, hleft, List.flatten_cons, List.append_assoc]

/-- The number of frames which are complete after so many bytes. -/
def wholeFrames : ℕ → List (List α) → ℕ
  | _, [] => 0
  | received, frame :: rest =>
      if frame.length ≤ received then
        wholeFrames (received - frame.length) rest + 1
      else 0

theorem wholeFrames_append (complete rest : List (List α)) (received : ℕ) :
    wholeFrames (complete.flatten.length + received) (complete ++ rest) =
      complete.length + wholeFrames received rest := by
  induction complete with
  | nil => simp
  | cons frame more ih =>
      have hleft : frame.length + more.flatten.length + received -
          frame.length = more.flatten.length + received := by
        omega
      rw [List.flatten_cons, List.length_append, List.cons_append,
        wholeFrames, if_pos (by omega), hleft, ih, List.length_cons]
      omega

theorem wholeFrames_begun {left : List α} {frames : List (List α)}
    (h : Begun left frames) : wholeFrames left.length frames = 0 := by
  cases frames with
  | nil => rfl
  | cons frame rest => exact if_neg (Nat.not_le.mpr h.length_lt)

/-- No piece completes more than one frame. -/
def OneAtATime (frames : List (List α)) (pieces : List (List α)) : Prop :=
  ∀ count,
    wholeFrames (pieces.take (count + 1)).flatten.length frames ≤
      wholeFrames (pieces.take count).flatten.length frames + 1

/-- The same, after the beginning of a frame. -/
def OneAtATimeFrom (begun : ℕ) (frames : List (List α))
    (pieces : List (List α)) : Prop :=
  ∀ count,
    wholeFrames (begun + (pieces.take (count + 1)).flatten.length) frames ≤
      wholeFrames (begun + (pieces.take count).flatten.length) frames + 1

theorem oneAtATime_iff (frames pieces : List (List α)) :
    OneAtATime frames pieces ↔ OneAtATimeFrom 0 frames pieces := by
  unfold OneAtATime OneAtATimeFrom
  simp only [Nat.zero_add]

theorem oneAtATimeFrom_cons {begun piece left : List α}
    {complete rest : List (List α)} {pieces : List (List α)}
    (hbegun : Begun begun (complete ++ rest)) (hleft : Begun left rest)
    (hbytes : begun ++ piece = complete.flatten ++ left) :
    OneAtATimeFrom begun.length (complete ++ rest) (piece :: pieces) ↔
      complete.length ≤ 1 ∧ OneAtATimeFrom left.length rest pieces := by
  have hlength := congrArg List.length hbytes
  rw [List.length_append, List.length_append] at hlength
  have hat : ∀ count,
      wholeFrames (begun.length +
          ((piece :: pieces).take (count + 1)).flatten.length)
        (complete ++ rest) =
      complete.length +
        wholeFrames (left.length + (pieces.take count).flatten.length)
          rest := by
    intro count
    rw [← wholeFrames_append, List.take_succ_cons, List.flatten_cons,
      List.length_append]
    congr 1
    omega
  have hfirst : wholeFrames (begun.length +
      ((piece :: pieces).take 0).flatten.length) (complete ++ rest) = 0 :=
    wholeFrames_begun hbegun
  have hnone : wholeFrames (left.length + (pieces.take 0).flatten.length)
      rest = 0 := wholeFrames_begun hleft
  constructor
  · intro h
    constructor
    · have hzero := h 0
      rw [hat, hfirst, hnone] at hzero
      exact hzero
    · intro count
      have hsucc := h (count + 1)
      rw [hat, hat] at hsucc
      omega
  · rintro ⟨hone, hlater⟩ count
    cases count with
    | zero =>
        rw [hat, hfirst, hnone]
        exact hone
    | succ count =>
        have hsucc := hlater count
        rw [hat, hat]
        omega

/-! ## Frames among other bytes -/

/-- The frames lie in the bytes one after the other, with anything between
them. -/
inductive FramesWithin : List (List α) → List α → Prop
  | nil (bytes : List α) : FramesWithin [] bytes
  | cons (gap frame : List α) {frames : List (List α)} {rest : List α} :
      FramesWithin frames rest →
        FramesWithin (frame :: frames) (gap ++ frame ++ rest)

theorem FramesWithin.prepend {frames : List (List α)} {bytes : List α}
    (h : FramesWithin frames bytes) (gap : List α) :
    FramesWithin frames (gap ++ bytes) := by
  cases h with
  | nil => exact FramesWithin.nil _
  | cons first frame hrest =>
      rw [← List.append_assoc, ← List.append_assoc]
      exact FramesWithin.cons (gap ++ first) frame hrest

theorem FramesWithin.append {earlier later : List (List α)}
    {left right : List α} (h : FramesWithin earlier left)
    (hlater : FramesWithin later right) :
    FramesWithin (earlier ++ later) (left ++ right) := by
  induction h with
  | nil bytes => exact hlater.prepend bytes
  | cons gap frame _ ih =>
      rw [List.append_assoc]
      exact FramesWithin.cons gap frame ih

end PolicyRuntime
