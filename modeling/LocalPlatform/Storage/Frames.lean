import LocalPlatform.Lib.Encoding
import LocalPlatform.Storage.Replication

/-!
# Frames of the database protocol

`write_frame` and `read_frame`: four bytes with the length of a frame and then its bytes, over a
stream that delivers them in pieces of any size.
-/

namespace LocalPlatform.Storage

open Text List

/-- The error of a frame that is longer than the handshake allows. -/
def handshakeTooLarge (kind : ErrorKind) : IoError := ⟨kind, "database sync handshake too large"⟩

/-- The pieces that arrive before the end of a stream and the text of the error after it, the number
of bytes that have been read, and the sizes of the buffers that were made for frames. -/
structure RecvStream where
  pieces : List (List UInt8)
  failure : String
  consumed : ℕ
  buffers : List ℕ

/-- A read and what is left of the stream. -/
abbrev ReadResult (α : Type) := Except IoError α × RecvStream

/-- The next `n` bytes, out of as many pieces as it takes. -/
def takeExact (n : ℕ) : List (List UInt8) → Option (List UInt8 × List (List UInt8))
  | [] => if n = 0 then some ([], []) else none
  | piece :: pieces =>
    if piece.length ≤ n then
      (takeExact (n - piece.length) pieces).map fun (bytes, rest) => (piece ++ bytes, rest)
    else some (piece.take n, piece.drop n :: pieces)

namespace RecvStream

/-- `read_exact`: all the bytes or an error, with the stream used up. -/
def readExact (s : RecvStream) (n : ℕ) : ReadResult (List UInt8) :=
  match takeExact n s.pieces with
  | some (bytes, rest) => (.ok bytes, { s with pieces := rest, consumed := s.consumed + n })
  | none => (.error ⟨.other, s.failure⟩,
      { s with pieces := [], consumed := s.consumed + s.pieces.flatten.length })

/-- `read_frame`: the length is checked before a buffer is made for it. -/
def readFrame (s : RecvStream) (max : ℕ) : ReadResult (List UInt8) :=
  match s.readExact 4 with
  | (.error e, s) => (.error e, s)
  | (.ok header, s) =>
    let length := ofBeBytes header
    if length > max then (.error (handshakeTooLarge .invalidData), s)
    else readExact { s with buffers := s.buffers ++ [length] } length

/-- One frame after the other, until one fails. -/
def readFrames (max : ℕ) : ℕ → RecvStream → ReadResult (List (List UInt8))
  | 0, s => (.ok [], s)
  | n + 1, s =>
    match s.readFrame max with
    | (.error e, s) => (.error e, s)
    | (.ok frame, s) => ((frame :: ·) <$> (readFrames max n s).1, (readFrames max n s).2)

end RecvStream

/-- `write_frame`, behind the bytes that have been sent; `beBytes 4` casts to `u32`. -/
def writeFrame (sent frame : List UInt8) : Except IoError (List UInt8) :=
  if frame.length > maxHandshakeBytes then .error (handshakeTooLarge .invalidInput)
  else .ok (sent ++ beBytes 4 frame.length ++ frame)

/-- What is written for a frame. -/
def frameBytes (frame : List UInt8) : List UInt8 := beBytes 4 frame.length ++ frame

/-! ## Reading bytes -/

section
variable {n : ℕ} {pieces : List (List UInt8)}

/-- The pieces do not matter, only what they make up. -/
lemma takeExact_of_le (h : n ≤ pieces.flatten.length) : ∃ rest,
    takeExact n pieces = some (pieces.flatten.take n, rest) ∧
      rest.flatten = pieces.flatten.drop n := by
  induction pieces generalizing n with
  | nil =>
    obtain rfl : n = 0 := by simpa using h
    exact ⟨[], rfl, rfl⟩
  | cons piece pieces ih =>
    rw [flatten_cons, length_append] at h
    rw [flatten_cons, take_append, drop_append, takeExact]
    split
    · rename_i hle
      obtain ⟨rest, htake, hrest⟩ := ih (n := n - piece.length) (by omega)
      rw [htake, take_of_length_le hle, drop_eq_nil_of_le hle]
      exact ⟨rest, rfl, hrest⟩
    · rw [Nat.sub_eq_zero_of_le (by omega)]
      exact ⟨piece.drop n :: pieces, by simp, by simp⟩

lemma takeExact_of_lt (h : pieces.flatten.length < n) : takeExact n pieces = none := by
  induction pieces generalizing n with
  | nil => exact if_neg (by simpa using h.ne')
  | cons piece pieces ih =>
    rw [flatten_cons, length_append] at h
    rw [takeExact, if_pos (by omega), ih (by omega)]
    rfl

end

namespace RecvStream

variable {s : RecvStream} {frame rest : List UInt8}

/-- A state after some bytes have been read: what is left, and what it took. -/
structure After (s s' : RecvStream) (rest : List UInt8) (taken : ℕ) (buffers : List ℕ) : Prop where
  left : s'.pieces.flatten = rest
  consumed : s'.consumed = s.consumed + taken
  buffers : s'.buffers = s.buffers ++ buffers

/-- Bytes that are there are read, however they arrive in pieces. -/
lemma readExact_append {bytes : List UInt8} {n : ℕ} (hn : bytes.length = n)
    (h : s.pieces.flatten = bytes ++ rest) :
    ∃ s', s.readExact n = (.ok bytes, s') ∧ s.After s' rest n [] := by
  subst hn
  have hle : bytes.length ≤ s.pieces.flatten.length := by
    rw [h, length_append]
    omega
  obtain ⟨pieces, htake, hrest⟩ := takeExact_of_le hle
  rw [h, take_left] at htake
  rw [h, drop_left] at hrest
  exact ⟨_, by rw [readExact, htake], hrest, rfl, by simp⟩

/-- A stream that ends early is an error. -/
lemma readExact_short {n : ℕ} (h : s.pieces.flatten.length < n) :
    ∃ e s', s.readExact n = (.error e, s') :=
  ⟨_, _, by rw [readExact, takeExact_of_lt h]⟩

/-- Reading a frame that was written takes exactly its own bytes. -/
lemma readFrame_written (hlen : frame.length ≤ maxHandshakeBytes)
    (h : s.pieces.flatten = frameBytes frame ++ rest) :
    ∃ s', s.readFrame maxHandshakeBytes = (.ok frame, s') ∧
      s.After s' rest (4 + frame.length) [frame.length] := by
  obtain ⟨s1, hhdr, hleft, hconsumed, hbuffers⟩ := readExact_append (length_beBytes 4 _)
    (h.trans (append_assoc ..))
  obtain ⟨s2, hbody, hafter⟩ := readExact_append
    (s := { s1 with buffers := s1.buffers ++ [frame.length] }) rfl hleft
  have hdec : ofBeBytes (beBytes 4 frame.length) = frame.length :=
    ofBeBytes_beBytes (hlen.trans_lt (by decide))
  refine ⟨s2, ?_, hafter.left, ?_, ?_⟩
  · simp only [readFrame, hhdr, hdec, if_neg hlen.not_gt, hbody]
  · rw [hafter.consumed, hconsumed]
    omega
  · rw [hafter.buffers, hbuffers, append_nil, append_nil]

/-- A frame that is cut short is not read. -/
lemma readFrame_short (hlen : frame.length ≤ maxHandshakeBytes) {cut : List UInt8}
    (hcut : cut ≠ []) (h : s.pieces.flatten ++ cut = frameBytes frame) :
    ∃ e s', s.readFrame maxHandshakeBytes = (.error e, s') := by
  have hsize := congrArg length h
  rw [frameBytes, length_append, length_append, length_beBytes] at hsize
  have hpos := length_pos_of_ne_nil hcut
  by_cases hhdr : s.pieces.flatten.length < 4
  · obtain ⟨e, s', hread⟩ := readExact_short hhdr
    exact ⟨e, s', by rw [readFrame, hread]⟩
  · obtain ⟨body, hbody, hframe⟩ : ∃ body, s.pieces.flatten = beBytes 4 frame.length ++ body ∧
        frame = body ++ cut := by
      rcases append_eq_append_iff.mp h with ⟨more, hmore, hcut⟩ | ⟨body, hbody, hframe⟩
      · have hmoreSize := congrArg length hmore
        rw [length_append, length_beBytes] at hmoreSize
        obtain rfl : more = [] := length_eq_zero_iff.mp (by omega)
        exact ⟨[], by simpa using hmore.symm, by simpa using hcut.symm⟩
      · exact ⟨body, hbody, hframe⟩
    obtain ⟨s1, hread, hleft, -, -⟩ := readExact_append (length_beBytes 4 _) hbody
    have hdec : ofBeBytes (beBytes 4 frame.length) = frame.length :=
      ofBeBytes_beBytes (hlen.trans_lt (by decide))
    have hshort : s1.pieces.flatten.length < frame.length := by
      rw [hleft, hframe, length_append]
      omega
    obtain ⟨e, s', hrest⟩ := readExact_short
      (s := { s1 with buffers := s1.buffers ++ [frame.length] }) hshort
    exact ⟨e, s', by simp only [readFrame, hread, hdec, if_neg hlen.not_gt, hrest]⟩

/-! ## Sequences of frames -/

/-- A frame is sent exactly up to the limit. -/
lemma writeFrame_ok_iff {sent : List UInt8} : writeFrame [] frame = .ok sent ↔
    frame.length ≤ maxHandshakeBytes ∧ sent = frameBytes frame := by
  unfold writeFrame
  split
  · simp_all
  · rename_i hlen
    rw [Except.ok.injEq, nil_append, eq_comm]
    exact ⟨fun h => ⟨not_lt.mp hlen, h⟩, And.right⟩

lemma writeFrames_ok {frames : List (List UInt8)}
    (h : ∀ frame ∈ frames, frame.length ≤ maxHandshakeBytes) (sent : List UInt8) :
    frames.foldlM writeFrame sent = .ok (sent ++ frames.flatMap frameBytes) := by
  induction frames generalizing sent with
  | nil => simp [pure, Except.pure]
  | cons frame frames ih =>
    obtain ⟨hframe, hframes⟩ := forall_mem_cons.mp h
    rw [foldlM_cons, writeFrame, if_neg hframe.not_gt]
    refine (ih hframes _).trans ?_
    rw [flatMap_cons, frameBytes, append_assoc, append_assoc, append_assoc]

/-- By induction on the frames: all are read back in order. -/
lemma readFrames_written {frames : List (List UInt8)}
    (hlen : ∀ frame ∈ frames, frame.length ≤ maxHandshakeBytes)
    (h : s.pieces.flatten = frames.flatMap frameBytes ++ rest) :
    ∃ s', readFrames maxHandshakeBytes frames.length s = (.ok frames, s') ∧
      s.After s' rest (frames.flatMap frameBytes).length
        (frames.map length) := by
  induction frames generalizing s with
  | nil => exact ⟨s, rfl, h, rfl, (append_nil _).symm⟩
  | cons frame frames ih =>
    obtain ⟨hframe, hframes⟩ := forall_mem_cons.mp hlen
    rw [flatMap_cons, append_assoc] at h
    obtain ⟨s1, hread, hleft, hconsumed, hbuffers⟩ := readFrame_written hframe h
    obtain ⟨s2, hreads, hafter⟩ := ih hframes hleft
    refine ⟨s2, ?_, hafter.left, ?_, ?_⟩
    · simp only [length_cons, readFrames, hread, hreads]
      rfl
    · rw [hafter.consumed, hconsumed, flatMap_cons, length_append, frameBytes,
        length_append, length_beBytes]
      omega
    · rw [hafter.buffers, hbuffers, map_cons, append_assoc, singleton_append]

/-- Frames are read as they were written, however the stream is cut into pieces, each read takes the
bytes of its own frame, a length above the limit is refused before a buffer is made or anything but
the length is read, and of a stream that ends within a frame the frame is not read. -/
theorem frames_roundTrip :
    (∀ frames : List (List UInt8), (∀ frame ∈ frames, frame.length ≤ maxHandshakeBytes) →
      ∃ sent, frames.foldlM writeFrame [] = .ok sent ∧ ∀ (s : RecvStream) (rest : List UInt8),
        s.pieces.flatten = sent ++ rest →
          ∃ s', readFrames maxHandshakeBytes frames.length s = (.ok frames, s') ∧
            s.After s' rest sent.length (frames.map length)) ∧
    (∀ frame sent, writeFrame [] frame = .ok sent → ∀ (s : RecvStream) (rest : List UInt8),
      s.pieces.flatten = sent ++ rest → ∃ s', s.readFrame maxHandshakeBytes = (.ok frame, s') ∧
        s.After s' rest sent.length [frame.length]) ∧
    (∀ header : List UInt8, header.length = 4 → maxHandshakeBytes < ofBeBytes header →
      ∀ (s : RecvStream) (rest : List UInt8), s.pieces.flatten = header ++ rest →
        ∃ s', s.readFrame maxHandshakeBytes = (.error (handshakeTooLarge .invalidData), s') ∧
          s.After s' rest 4 []) ∧
    ∀ frame part cut, writeFrame [] frame = .ok (part ++ cut) → cut ≠ [] →
      ∀ s : RecvStream, s.pieces.flatten = part →
        ∃ e s', s.readFrame maxHandshakeBytes = (.error e, s') := by
  refine ⟨fun frames h => ⟨_, writeFrames_ok h [], fun s rest hs => readFrames_written h hs⟩,
    ?_, fun header hhdr hlen s rest hs => ?_, ?_⟩
  · intro frame sent hwrite s rest hs
    obtain ⟨hlen, rfl⟩ := writeFrame_ok_iff.mp hwrite
    rw [frameBytes, length_append, length_beBytes]
    exact readFrame_written hlen hs
  · obtain ⟨s', hread, hafter⟩ := readExact_append hhdr hs
    exact ⟨s', by simp only [readFrame, hread, if_pos hlen], hafter⟩
  · rintro frame part cut hwrite hcut s rfl
    obtain ⟨hlen, hsent⟩ := writeFrame_ok_iff.mp hwrite
    exact readFrame_short hlen hcut hsent

end RecvStream

end LocalPlatform.Storage
