import PacketSession.Connection.Stream
import PacketSession.Proofs.Wire.Exact

/-!
# Frames on a stream are read back exactly

A reader finds a frame at the front of a stream just if the stream starts with the written form
of that frame and the frame is within the limit (`Framing.read_eq_frame_iff`). What it decides
does not depend on what comes later (`Framing.Waits`), so a written frame that is cut leaves it
waiting, and once the stream has ended the cut is either the proper end or an I/O error.

`StreamEnd.reads_exactly` says what the readings of a whole stream find: the frames that were
written, those in front of a cut, and on any stream frames whose written forms are the bytes
consumed. Behind the end or a failure nothing else is found, and it does not matter in which
pieces the stream arrived.
-/

namespace PacketSession

namespace Bytes

/-- Four bytes are the written form of exactly the signed word that they read as. -/
theorem eq_i32_iff {word : Bytes} (h : word.length = 4) (n : Int32) :
    word = i32 n ↔ (UInt32.ofNat (value word)).toInt32 = n := by
  constructor
  · rintro rfl
    have hlt : n.toUInt32.toNat < 256 ^ 4 := n.toUInt32.toNat_lt
    rw [i32, u32, value_bigEndian, Nat.mod_eq_of_lt hlt, UInt32.ofNat_toNat,
      Int32.toInt32_toUInt32]
  · rintro rfl
    have hlt := value_lt word
    have hword := bigEndian_value word
    rw [h] at hlt hword
    have hmod : value word % 2 ^ 32 = value word := Nat.mod_eq_of_lt hlt
    rw [i32, u32, UInt32.toUInt32_toInt32, UInt32.toNat_ofNat', hmod, hword]

end Bytes

/-- A channel has one number on the wire, and numbers below the smallest one have no channel. -/
private theorem Channel.ofRaw?_eq_some_iff {raw : Int32} {channel : Channel} :
    Channel.ofRaw? raw = some channel ↔ raw = channel.raw := by
  rw [ofRaw?]
  constructor
  · intro h
    split at h
    · rw [← Option.some.inj h]
    · exact nomatch h
  · rintro rfl
    rw [dif_pos channel.ge_neg_one]

/-- A delivery class has one byte on the wire. -/
private theorem Reliability.ofByte?_eq_some_iff {byte : UInt8} {reliability : Reliability} :
    Reliability.ofByte? byte = some reliability ↔ byte = reliability.toByte := by
  constructor
  · intro h
    unfold ofByte? at h
    split at h <;> first | (rw [← Option.some.inj h]; rfl) | exact nomatch h
  · rintro rfl
    exact ofByte?_toByte reliability

/-- A frame is within a limit together with its header. -/
def WireFrame.Fits (limit : Nat) (frame : WireFrame) : Prop :=
  Settings.wireHeaderSize + frame.payload.length ≤ limit

namespace Framing

variable {limit count length : Nat} {ended : Bool} {cause : TransportError}
  {input rest : Bytes} {frame : WireFrame}

/-! ### Which bytes are a frame -/

/-- With too few bytes, a reader waits as long as more may come, and fails once they have ended. -/
private theorem need_of_lt {next : Bytes → Bytes → Reading} (h : input.length < count) :
    need count ended cause input next = if ended then .failed cause else .pending := by
  rw [need, List.splitAt_eq]
  simp [h]

/-- With enough bytes, a reader goes on with as many as it needs, and with those behind them. -/
private theorem need_append {front : Bytes} {next : Bytes → Bytes → Reading}
    (h : front.length = count) : need count ended cause (front ++ rest) next = next front rest := by
  subst h
  rw [need, List.splitAt_eq]
  simp

/-- A frame that is found behind some bytes splits the input at these bytes. -/
private theorem need_eq_frame_iff {next : Bytes → Bytes → Reading} :
    need count ended cause input next = .frame frame rest ↔
      ∃ front back, input = front ++ back ∧ front.length = count ∧
        next front back = .frame frame rest := by
  constructor
  · intro h
    by_cases hlt : input.length < count
    · rw [need_of_lt hlt] at h
      split at h <;> exact nomatch h
    · have hfront : (input.take count).length = count := List.length_take_of_le (by omega)
      refine ⟨input.take count, input.drop count, (List.take_append_drop count input).symm,
        hfront, ?_⟩
      rw [← List.take_append_drop count input, need_append hfront] at h
      exact h
  · rintro ⟨front, back, rfl, hfront, h⟩
    rw [need_append hfront, h]

/-- Behind its length, a frame reads as its channel, its delivery class and a payload of the length
that is left, and as nothing else. -/
private theorem readBody_eq_frame_iff :
    readBody length ended input = .frame frame rest ↔
      input = Bytes.i32 frame.delivery.channel.raw ++
          (frame.delivery.reliability.toByte :: (frame.payload ++ rest)) ∧
        frame.payload.length = length - Settings.wireHeaderSize := by
  rw [readBody, need_eq_frame_iff]
  constructor
  · rintro ⟨word, back, rfl, hword, h⟩
    dsimp only at h
    split at h
    next => exact nomatch h
    -- the channel is read, then one byte for the delivery class
    next channel hchannel =>
      obtain ⟨mark, back, rfl, hmark, h⟩ := need_eq_frame_iff.mp h
      obtain ⟨byte, rfl⟩ := List.length_eq_one_iff.mp hmark
      split at h
      next => exact nomatch h
      next reliability hreliability =>
        obtain ⟨payload, back, rfl, hpayload, h⟩ := need_eq_frame_iff.mp h
        cases h
        rw [Channel.ofRaw?_eq_some_iff, ← Bytes.eq_i32_iff hword] at hchannel
        rw [Reliability.ofByte?_eq_some_iff] at hreliability
        have hbyte : UInt8.ofNat (Bytes.value [byte]) = byte := by simp [Bytes.value]
        rw [hbyte] at hreliability
        refine ⟨?_, hpayload⟩
        rw [hchannel, hreliability]
        rfl
  · rintro ⟨rfl, hpayload⟩
    obtain ⟨⟨channel, reliability⟩, payload⟩ := frame
    have hword : (Bytes.i32 channel.raw).length = 4 := Bytes.length_bigEndian 4 _
    have hbyte : UInt8.ofNat (Bytes.value [reliability.toByte]) = reliability.toByte := by
      simp [Bytes.value]
    refine ⟨_, _, rfl, hword, ?_⟩
    simp only [(Bytes.eq_i32_iff hword _).mp rfl, Channel.ofRaw?_eq_some_iff.mpr rfl]
    refine need_eq_frame_iff.mpr ⟨[reliability.toByte], payload ++ rest, rfl, rfl, ?_⟩
    simp only [hbyte, Reliability.ofByte?_toByte]
    exact need_append hpayload

/-- A stream that ends before the first length is complete ends without a frame, and without a
failure. -/
private theorem read_of_lt (h : input.length < 4) :
    read limit input ended = if ended then .ended else .pending := by
  rw [read, List.splitAt_eq]
  simp [h]

/-- The length at the front is checked against the header and the limit before anything behind it is
read. -/
private theorem read_word_append {word : Bytes} (h : word.length = 4) :
    read limit (word ++ rest) ended =
      if Bytes.value word < Settings.wireHeaderSize then
        .failed (.invalidFrame
          ("frame length " ++ toString (Bytes.value word) ++ " shorter than header"))
      else if limit < Bytes.value word then .failed (.frameTooLarge (Bytes.value word) limit)
      else readBody (Bytes.value word) ended rest := by
  rw [read, List.splitAt_eq, ← h]
  simp

/-- A stream without a whole word at its front is shorter than one. -/
theorem lt_or_exists_word (input : Bytes) :
    input.length < 4 ∨ ∃ word rest, input = word ++ rest ∧ word.length = 4 := by
  rcases Nat.lt_or_ge input.length 4 with hlt | hge
  · exact .inl hlt
  · exact .inr ⟨input.take 4, input.drop 4, (List.take_append_drop 4 input).symm,
      List.length_take_of_le hge⟩

/-- A written frame has its payload, the header of five bytes and the four bytes of its length. -/
theorem length_encode (frame : WireFrame) :
    (encode frame).length = 4 + (Settings.wireHeaderSize + frame.payload.length) := by
  simp only [encode, Bytes.size, Bytes.i32, Bytes.u32, List.length_append, List.length_cons,
    Bytes.length_bigEndian, Settings.wireHeaderSize]
  omega

/-- Only the written form of a frame within the limit reads as that frame. -/
theorem read_eq_frame_iff (hlimit : limit < 2 ^ 32) :
    read limit input ended = .frame frame rest ↔
      input = encode frame ++ rest ∧ frame.Fits limit := by
  constructor
  · intro h
    rcases lt_or_exists_word input with hlt | ⟨word, back, rfl, hword⟩
    · rw [read_of_lt hlt] at h
      split at h <;> exact nomatch h
    · rw [read_word_append hword] at h
      split at h
      next => exact nomatch h
      next hheader =>
        split at h
        next => exact nomatch h
        next hfits =>
          obtain ⟨rfl, hpayload⟩ := readBody_eq_frame_iff.mp h
          have hlength : Settings.wireHeaderSize + frame.payload.length = Bytes.value word := by
            omega
          -- four bytes are the only way to write their value
          have hsize : Bytes.size (Bytes.value word) = word := by
            rw [Bytes.size, ← hword, Bytes.bigEndian_value]
          refine ⟨?_, hlength.le.trans (Nat.le_of_not_lt hfits)⟩
          rw [encode, hlength, hsize, List.append_assoc, List.append_assoc, List.cons_append]
  · rintro ⟨rfl, hfits⟩
    have hword : (Bytes.size (Settings.wireHeaderSize + frame.payload.length)).length = 4 :=
      Bytes.length_bigEndian 4 _
    have hvalue : Bytes.value (Bytes.size (Settings.wireHeaderSize + frame.payload.length)) =
        Settings.wireHeaderSize + frame.payload.length := by
      rw [Bytes.size, Bytes.value_bigEndian]
      exact Nat.mod_eq_of_lt (hfits.trans_lt hlimit)
    rw [encode, List.append_assoc, read_word_append hword, hvalue, if_neg (by omega),
      if_neg (Nat.not_lt.mpr hfits), readBody_eq_frame_iff]
    exact ⟨by rw [List.append_assoc, List.cons_append], by omega⟩

/-! ### What comes later -/

/-- What a reader finds, with more bytes behind it. -/
def Reading.extend (more : Bytes) : Reading → Reading
  | .frame frame rest => .frame frame (rest ++ more)
  | reading => reading

@[simp] theorem Reading.extend_nil (reading : Reading) : reading.extend [] = reading := by
  cases reading with
  | frame frame rest => rw [extend, List.append_nil]
  | _ => rfl

/-- A reader *waits* if what it decides holds whatever comes later, and if it lacks bytes of a
frame whenever it does not decide. -/
structure Waits (reader : Bool → Bytes → Reading) : Prop where
  append : ∀ input more ended, reader false input ≠ .pending →
    reader ended (input ++ more) = (reader false input).extend more
  broken : ∀ input, reader false input = .pending →
    ∃ what, reader true input = .failed (.io what)

namespace Waits

theorem failed (cause : TransportError) : Waits fun _ _ => .failed cause where
  append _ _ _ _ := rfl
  broken _ h := nomatch h

/-- A reader that has found its frame leaves what comes later for the next one. -/
theorem found (frame : WireFrame) : Waits fun _ rest => .frame frame rest where
  append _ _ _ _ := rfl
  broken _ h := nomatch h

/-- Asking for some bytes first keeps a reader waiting: it decides nothing before these are
there. -/
theorem need {next : Bool → Bytes → Bytes → Reading} (what : String)
    (h : ∀ front, Waits fun ended rest => next ended front rest) :
    Waits fun ended input => Framing.need count ended (.io what) input (next ended) where
  append input more ended hdecided := by
    by_cases hlt : input.length < count
    · rw [need_of_lt hlt] at hdecided
      exact absurd rfl hdecided
    · have hfront : (input.take count).length = count := List.length_take_of_le (by omega)
      rw [← List.take_append_drop count input, need_append hfront] at hdecided ⊢
      rw [List.append_assoc, need_append hfront]
      exact (h _).append _ _ _ hdecided
  broken input hpending := by
    by_cases hlt : input.length < count
    · exact ⟨what, need_of_lt hlt⟩
    · have hfront : (input.take count).length = count := List.length_take_of_le (by omega)
      rw [← List.take_append_drop count input, need_append hfront] at hpending ⊢
      exact (h _).broken _ hpending

/-- The reader of a frame behind its length waits, since each of its three steps does. -/
theorem readBody (length : Nat) : Waits (Framing.readBody length) := by
  refine need _ fun word => ?_
  dsimp only
  split
  next => exact failed _
  next channel _ =>
    refine need _ fun mark => ?_
    split
    next => exact failed _
    next reliability _ => exact need _ fun payload => found _

end Waits

/-- What is decided at the front of a stream holds whatever comes later. -/
theorem read_append (more : Bytes) (h : read limit input false ≠ .pending) :
    read limit (input ++ more) ended = (read limit input false).extend more := by
  rcases lt_or_exists_word input with hlt | ⟨word, back, rfl, hword⟩
  · rw [read_of_lt hlt] at h
    exact absurd rfl h
  · rw [read_word_append hword] at h ⊢
    rw [List.append_assoc, read_word_append hword]
    split at h
    next hshort =>
      rw [if_pos hshort, if_pos hshort]
      rfl
    next hshort =>
      split at h
      next hlong =>
        rw [if_neg hshort, if_neg hshort, if_pos hlong, if_pos hlong]
        rfl
      next hlong =>
        rw [if_neg hshort, if_neg hshort, if_neg hlong, if_neg hlong]
        exact (Waits.readBody _).append _ _ _ h

/-- A stream that ends before anything is decided ends properly inside the length of the next
frame and is broken later. -/
theorem read_of_pending (h : read limit input false = .pending) :
    (input.length ≤ 3 ∧ read limit input true = .ended) ∨
      (3 < input.length ∧ ∃ what, read limit input true = .failed (.io what)) := by
  rcases lt_or_exists_word input with hlt | ⟨word, back, rfl, hword⟩
  · exact .inl ⟨Nat.le_of_lt_succ hlt, read_of_lt hlt⟩
  · rw [read_word_append hword] at h ⊢
    split at h
    next => exact nomatch h
    next hshort =>
      split at h
      next => exact nomatch h
      next hlong =>
        refine .inr ⟨?_, ?_⟩
        · rw [List.length_append]
          omega
        · rw [if_neg hshort, if_neg hlong]
          exact (Waits.readBody _).broken _ h

/-- Nothing is decided at a cut inside a written frame. -/
theorem read_of_append_eq_encode {more : Bytes} (hlimit : limit < 2 ^ 32) (hfits : frame.Fits limit)
    (hcut : input ++ more = encode frame) (hmore : more ≠ []) :
    read limit input false = .pending := by
  by_contra hdecided
  have hwhole : read limit (input ++ more) false = .frame frame [] := by
    rw [read_eq_frame_iff hlimit, hcut, List.append_nil]
    exact ⟨rfl, hfits⟩
  rw [read_append more hdecided] at hwhole
  cases hfront : read limit input false with
  | frame found rest =>
    rw [hfront, Reading.extend] at hwhole
    obtain ⟨-, hrest⟩ := Reading.frame.inj hwhole
    exact hmore (List.append_eq_nil_iff.mp hrest).2
  | pending => exact hdecided hfront
  | ended =>
    rw [hfront] at hwhole
    exact nomatch hwhole
  | failed cause =>
    rw [hfront] at hwhole
    exact nomatch hwhole

/-- A stream that has ended is not waited for. -/
private theorem read_true_ne_pending : read limit input true ≠ .pending := by
  by_cases h : read limit input false = .pending
  · rcases read_of_pending h with ⟨-, hended⟩ | ⟨-, what, hfailed⟩
    · rw [hended]
      exact nofun
    · rw [hfailed]
      exact nofun
  · have hread : read limit (input ++ []) true = (read limit input false).extend [] :=
      read_append [] h
    rw [List.append_nil, Reading.extend_nil] at hread
    rw [hread]
    exact h

/-! ### Written streams -/

/-- Written frames one behind the other. -/
def written (frames : List WireFrame) : Bytes := frames.flatMap encode

@[simp] theorem written_nil : written [] = [] := rfl

@[simp] theorem written_cons (frame : WireFrame) (frames : List WireFrame) :
    written (frame :: frames) = encode frame ++ written frames := rfl

/-- The bytes at the front of a stream that are frames, and the rest, which starts with none. -/
theorem exists_written (hlimit : limit < 2 ^ 32) (stream : Bytes) :
    ∃ frames rest, stream = written frames ++ rest ∧ (∀ frame ∈ frames, frame.Fits limit) ∧
      ∀ frame more, read limit rest true ≠ .frame frame more := by
  by_cases h : ∃ frame rest, read limit stream true = .frame frame rest
  · obtain ⟨frame, rest, hread⟩ := h
    obtain ⟨rfl, hfits⟩ := (read_eq_frame_iff hlimit).mp hread
    have hshorter : rest.length < (encode frame ++ rest).length := by
      rw [List.length_append, length_encode]
      omega
    obtain ⟨frames, last, rfl, hall, hlast⟩ := exists_written hlimit rest
    refine ⟨frame :: frames, last, ?_, ?_, hlast⟩
    · rw [written_cons, List.append_assoc]
    · rw [List.forall_mem_cons]
      exact ⟨hfits, hall⟩
  · exact ⟨[], stream, rfl, nofun, fun frame more hread => h ⟨frame, more, hread⟩⟩
termination_by stream.length

/-- A cut goes through one frame or is behind the last one. -/
private theorem exists_cut (frames : List WireFrame) (cut : Nat)
    (h : cut ≤ (written frames).length) : ∃ whole part, whole ≤ frames.length ∧
      (written frames).take cut = written (frames.take whole) ++ part ∧
      (part = [] ∧ whole = frames.length ∨
        ∃ frame ∈ frames, ∃ more, more ≠ [] ∧ part ++ more = encode frame) ∧
      ∀ n ≤ frames.length, (written (frames.take n)).length ≤ cut ↔ n ≤ whole := by
  induction frames generalizing cut with
  | nil => exact ⟨0, [], by simp, by simp, .inl ⟨rfl, rfl⟩, by simp⟩
  | cons frame frames ih =>
    rw [written_cons] at h ⊢
    -- the cut is inside of the first frame or behind it
    rcases Nat.lt_or_ge cut (encode frame).length with hinside | hbehind
    · refine ⟨0, (encode frame).take cut, Nat.zero_le _, ?_, ?_, ?_⟩
      · rw [List.take_append_of_le_length hinside.le]
        rfl
      · refine .inr ⟨frame, List.mem_cons_self, (encode frame).drop cut, ?_,
          List.take_append_drop _ _⟩
        exact List.ne_nil_of_length_pos (by rw [List.length_drop]; omega)
      · rintro (_ | n) hn
        · simp
        · rw [List.take_succ_cons, written_cons, List.length_append]
          omega
    · rw [List.length_append] at h
      obtain ⟨whole, part, hwhole, htake, hend, hcount⟩ :=
        ih (cut - (encode frame).length) (by omega)
      refine ⟨whole + 1, part, Nat.succ_le_succ hwhole, ?_, ?_, ?_⟩
      · rw [List.take_append, List.take_of_length_le hbehind, htake, List.take_succ_cons,
          written_cons, List.append_assoc]
      · rcases hend with ⟨hpart, rfl⟩ | ⟨cutFrame, hmem, more⟩
        · exact .inl ⟨hpart, rfl⟩
        · exact .inr ⟨cutFrame, List.mem_cons_of_mem _ hmem, more⟩
      · rintro (_ | n) hn
        · simp
        · have hn' := hcount n (Nat.le_of_succ_le_succ hn)
          rw [List.take_succ_cons, written_cons, List.length_append]
          omega

end Framing

namespace StreamEnd

variable {limit : Nat} {stream rest : Bytes} {e : StreamEnd}

/-! ### Reading again and again -/

/-- What the next `count` readings find, and the end behind them. -/
def readings : (count : Nat) → StreamEnd → List Reading × StreamEnd
  | 0, e => ([], e)
  | count + 1, e =>
    let (reading, e) := e.next
    let (more, e) := readings count e
    (reading :: more, e)

/-- The reading end of a stream that arrived and ended. -/
def complete (limit : Nat) (stream : Bytes) : StreamEnd := ((fresh limit).receive stream).endInput

/-- Behind the end or a failure only the end is found. -/
theorem readings_of_done (count : Nat) (h : e.done = true) :
    readings count e = (List.replicate count .ended, e) := by
  induction count with
  | zero => rfl
  | succ count ih =>
    have hnext : e.next = (.ended, e) := by rw [next, if_pos h]
    rw [readings, hnext]
    dsimp only
    rw [ih]
    rfl

/-- Whoever found the end or a failure has reached the end. -/
private theorem done_next (h : (e.next).1 = .ended ∨ ∃ cause, (e.next).1 = .failed cause) :
    (e.next).2.done = true := by
  unfold next at h ⊢
  split
  next hdone => exact hdone
  next hdone =>
    rw [if_neg hdone] at h
    split
    next hexit => cases e.failure <;> rfl
    next hexit =>
      rw [if_neg hexit] at h
      split at h <;> simp_all

/-- What a reader finds that has reached no end of any kind. -/
theorem next_of_reading (hdone : e.done = false) (hexit : e.writerExit = false) :
    e.next =
      match Framing.read e.limit e.input e.inputEnded with
      | .frame frame rest => (.frame frame, { e with input := rest })
      | .pending => (.pending, e)
      | .ended => (.ended, { e with done := true })
      | .failed cause => (.failed cause, { e with done := true }) := by
  have hreads : ¬ e.done = true := by simp [hdone]
  have hwrites : ¬ e.writerExit = true := by simp [hexit]
  exact (if_neg hreads).trans (if_neg hwrites)

/-- A frame at the front of a complete stream is found, and reading goes on behind it. -/
private theorem readings_complete_frame {frame : WireFrame} (count : Nat)
    (h : Framing.read limit stream true = .frame frame rest) :
    readings (count + 1) (complete limit stream) =
      (.frame frame :: (readings count (complete limit rest)).1,
        (readings count (complete limit rest)).2) := by
  have hread : Framing.read (complete limit stream).limit (complete limit stream).input
      (complete limit stream).inputEnded = .frame frame rest := h
  rw [readings, next_of_reading rfl rfl, hread]
  rfl

/-- Written frames are found in order, and reading goes on behind them. -/
theorem readings_complete_written (hlimit : limit < 2 ^ 32) {frames : List WireFrame}
    (h : ∀ frame ∈ frames, frame.Fits limit) (rest : Bytes) (count : Nat) :
    readings (frames.length + count) (complete limit (Framing.written frames ++ rest)) =
      (frames.map .frame ++ (readings count (complete limit rest)).1,
        (readings count (complete limit rest)).2) := by
  induction frames with
  | nil =>
    rw [List.length_nil, Nat.zero_add]
    rfl
  | cons frame frames ih =>
    obtain ⟨hfits, hall⟩ := List.forall_mem_cons.mp h
    have hread : Framing.read limit (Framing.written (frame :: frames) ++ rest) true =
        .frame frame (Framing.written frames ++ rest) := by
      rw [Framing.read_eq_frame_iff hlimit, Framing.written_cons, List.append_assoc]
      exact ⟨rfl, hfits⟩
    rw [List.length_cons, Nat.add_right_comm, readings_complete_frame _ hread, ih hall]
    rfl

/-- A complete stream that ends is found to end, again and again. -/
private theorem readings_complete_ended (later : Nat)
    (h : Framing.read limit stream true = .ended) :
    (readings (1 + later) (complete limit stream)).1 = .ended :: List.replicate later .ended := by
  have hread : Framing.read (complete limit stream).limit (complete limit stream).input
      (complete limit stream).inputEnded = .ended := h
  rw [Nat.add_comm, readings, next_of_reading rfl rfl, hread]
  dsimp only
  rw [readings_of_done later rfl]

private theorem readings_complete_nil (later : Nat) :
    (readings later (complete limit [])).1 = List.replicate later .ended := by
  cases later with
  | zero => rfl
  | succ later =>
    rw [Nat.add_comm, readings_complete_ended later rfl, Nat.add_comm, List.replicate_succ]

/-- A failure is found once, and after that only the end. -/
private theorem readings_complete_failed {cause : TransportError} (later : Nat)
    (h : Framing.read limit stream true = .failed cause) :
    (readings (1 + later) (complete limit stream)).1 =
      .failed cause :: List.replicate later .ended := by
  have hread : Framing.read (complete limit stream).limit (complete limit stream).input
      (complete limit stream).inputEnded = .failed cause := h
  rw [Nat.add_comm, readings, next_of_reading rfl rfl, hread]
  dsimp only
  rw [readings_of_done later rfl]

/-! ### Bytes that arrive in pieces -/

/-- What happens at the reading end of a stream. -/
inductive Turn
  /-- Bytes arrive. -/
  | arrive (bytes : Bytes)
  /-- The next frame is asked for. -/
  | ask

/-- What is found over some turns, and the end behind them; asking too early finds nothing. -/
def listen : List Turn → StreamEnd → List Reading × StreamEnd
  | [], e => ([], e)
  | .arrive bytes :: turns, e => listen turns (e.receive bytes)
  | .ask :: turns, e =>
    let (reading, e) := e.next
    let (more, e) := listen turns e
    (if reading = .pending then more else reading :: more, e)

/-- The bytes that arrive over some turns. -/
def arrived : List Turn → Bytes
  | [] => []
  | .arrive bytes :: turns => bytes ++ arrived turns
  | .ask :: turns => arrived turns

/-- A reader that is done finds nothing but the end, whatever still arrives. -/
private theorem listen_of_done (turns : List Turn) (h : e.done = true) :
    ∃ count, (listen turns e).1 = List.replicate count .ended := by
  induction turns generalizing e with
  | nil => exact ⟨0, rfl⟩
  | cons turn turns ih =>
    cases turn with
    | arrive bytes => exact ih (e := e.receive bytes) h
    | ask =>
      obtain ⟨count, hcount⟩ := ih h
      have hnext : e.next = (.ended, e) := by rw [next, if_pos h]
      refine ⟨count + 1, ?_⟩
      rw [listen, hnext]
      dsimp only
      rw [hcount]
      rfl

/-- A reader that has to wait leaves everything as it is. -/
private theorem next_of_pending (h : (e.next).1 = .pending) : (e.next).2 = e := by
  unfold next at h ⊢
  split
  next hdone => rfl
  next hdone =>
    rw [if_neg hdone] at h
    split
    next hexit =>
      rw [if_pos hexit] at h
      split at h <;> exact nomatch h
    next hexit =>
      rw [if_neg hexit] at h
      split at h <;> first | rfl | exact nomatch h

@[simp] theorem inputEnded_next : (e.next).2.inputEnded = e.inputEnded := by
  unfold next
  split
  · rfl
  · split
    · cases e.failure <;> rfl
    · split <;> rfl

private theorem writerExit_next (h : e.writerExit = false) : (e.next).2.writerExit = false := by
  unfold next
  split
  · exact h
  · rw [if_neg (by simp [h])]
    split <;> exact h

/-- What is found before the bytes ended is found after they ended, too. -/
private theorem next_endInput_receive (more : Bytes) (hexit : e.writerExit = false)
    (hended : e.inputEnded = false) (h : (e.next).1 ≠ .pending) :
    (e.receive more).endInput.next = ((e.next).1, ((e.next).2.receive more).endInput) := by
  cases hdone : e.done with
  | true =>
    have hnext : e.next = (.ended, e) := by rw [next, if_pos hdone]
    have hlater : (e.receive more).endInput.next = (.ended, (e.receive more).endInput) := by
      rw [next, if_pos (by exact hdone)]
    rw [hnext, hlater]
  | false =>
    have hnext := next_of_reading hdone hexit
    have hlater := next_of_reading (e := (e.receive more).endInput) hdone hexit
    -- more bytes do not change what could be told without them
    have hdecided : Framing.read e.limit e.input false ≠ .pending := by
      intro hpending
      rw [hnext, hended, hpending] at h
      exact h rfl
    have hread : Framing.read (e.receive more).endInput.limit (e.receive more).endInput.input
        (e.receive more).endInput.inputEnded =
          (Framing.read e.limit e.input false).extend more := Framing.read_append more hdecided
    rw [hread] at hlater
    rw [hlater, hnext, hended]
    cases hfound : Framing.read e.limit e.input false with
    | pending => exact absurd hfound hdecided
    | frame frame rest => rfl
    | ended => rfl
    | failed cause => rfl

/-- What is found while the bytes arrive and after they ended is what is found if they all
arrive first. -/
private theorem listen_append_readings (turns : List Turn) (count : Nat)
    (hexit : e.writerExit = false) (hended : e.inputEnded = false) :
    (listen turns e).1 ++ (readings count (listen turns e).2.endInput).1 =
      (readings ((listen turns e).1.length + count) (e.receive (arrived turns)).endInput).1 := by
  induction turns generalizing e with
  | nil =>
    have hreceive : e.receive [] = e := by rw [receive, List.append_nil]
    rw [arrived, hreceive, listen, List.length_nil, Nat.zero_add, List.nil_append]
  | cons turn turns ih =>
    cases turn with
    | arrive bytes =>
      have hreceive : (e.receive bytes).receive (arrived turns) =
          e.receive (bytes ++ arrived turns) := by
        rw [receive, receive, receive, List.append_assoc]
      rw [listen, arrived, ← hreceive]
      exact ih hexit hended
    | ask =>
      have hnext := ih (e := (e.next).2) (writerExit_next hexit) (inputEnded_next.trans hended)
      rw [listen, arrived]
      dsimp only
      split
      -- an answer that is not there yet changes nothing and is asked for again
      next hpending =>
        rw [next_of_pending hpending] at hnext ⊢
        exact hnext
      next hfound =>
        rw [List.cons_append, hnext, List.length_cons, Nat.add_right_comm, readings,
          next_endInput_receive _ hexit hended hfound]

/-! ### Exact framing -/

/-- Framing under a limit is *exact*. -/
structure Exact (limit : Nat) : Prop where
  /-- Written frames are found in order, and then only the end. -/
  whole : ∀ frames : List WireFrame, (∀ frame ∈ frames, frame.Fits limit) → ∀ later,
    (readings (frames.length + later) (complete limit (Framing.written frames))).1 =
      frames.map .frame ++ List.replicate later .ended
  /-- If written frames are cut, exactly those wholly before the cut are found; behind them is
  the end if at most three bytes of the next length remain, and else an I/O error. -/
  cut : ∀ frames : List WireFrame, (∀ frame ∈ frames, frame.Fits limit) →
    ∀ cut ≤ (Framing.written frames).length, ∃ whole ≤ frames.length, ∃ last,
      (∀ n ≤ frames.length, (Framing.written (frames.take n)).length ≤ cut ↔ n ≤ whole) ∧
      (cut ≤ (Framing.written (frames.take whole)).length + 3 → last = .ended) ∧
      ((Framing.written (frames.take whole)).length + 3 < cut → ∃ what, last = .failed (.io what)) ∧
      ∀ later,
        (readings (whole + (1 + later)) (complete limit ((Framing.written frames).take cut))).1 =
          (frames.take whole).map .frame ++ last :: List.replicate later .ended
  /-- On any stream, the frames found before the end or the first failure are written with
  exactly the bytes consumed for them. -/
  any : ∀ stream, ∃ frames rest last,
    stream = Framing.written frames ++ rest ∧
      (readings frames.length (complete limit stream)).2.input = rest ∧
      (last = .ended ∨ ∃ cause, last = .failed cause) ∧
      ∀ later, (readings (frames.length + (1 + later)) (complete limit stream)).1 =
        frames.map .frame ++ last :: List.replicate later .ended
  /-- Behind the end or a failure only the end is found, whatever still arrives. -/
  silence : ∀ e : StreamEnd, ((e.next).1 = .ended ∨ ∃ cause, (e.next).1 = .failed cause) →
    ∀ turns, ∀ reading ∈ (listen turns (e.next).2).1, reading = .ended
  /-- It makes no difference in which pieces the bytes arrive, and when frames are asked for. -/
  pieces : ∀ turns count,
    (listen turns (fresh limit)).1 ++
        (readings count (listen turns (fresh limit)).2.endInput).1 =
      (readings ((listen turns (fresh limit)).1.length + count)
        (StreamEnd.complete limit (arrived turns))).1

/-- What is found on a stream that starts with no frame. -/
private theorem exists_last (h : ∀ frame more, Framing.read limit rest true ≠ .frame frame more) :
    ∃ last, (last = .ended ∨ ∃ cause, last = .failed cause) ∧
      ∀ later, (readings (1 + later) (complete limit rest)).1 =
        last :: List.replicate later .ended := by
  cases hread : Framing.read limit rest true with
  | frame frame more => exact absurd hread (h frame more)
  | pending => exact absurd hread Framing.read_true_ne_pending
  | ended => exact ⟨.ended, .inl rfl, fun later => readings_complete_ended later hread⟩
  | failed cause =>
    exact ⟨.failed cause, .inr ⟨cause, rfl⟩, fun later => readings_complete_failed later hread⟩

/-- What is found on a stream that starts with a part of a written frame. -/
theorem exists_last_of_cut {part : Bytes} (hpart : Framing.read limit part false = .pending) :
    ∃ last, (part.length ≤ 3 → last = .ended) ∧
      (3 < part.length → ∃ what, last = .failed (.io what)) ∧
      ∀ later, (readings (1 + later) (complete limit part)).1 =
        last :: List.replicate later .ended := by
  rcases Framing.read_of_pending hpart with ⟨hshort, hread⟩ | ⟨hlong, what, hread⟩
  · exact ⟨.ended, fun _ => rfl, fun hlong => by omega,
      fun later => readings_complete_ended later hread⟩
  · exact ⟨.failed (.io what), fun hshort => by omega, fun _ => ⟨what, rfl⟩,
      fun later => readings_complete_failed later hread⟩

/-- Under a limit that a length of four bytes can express, framing is exact: on whole streams, on
streams that are cut, and however their bytes arrive. -/
theorem framing_exact (hlimit : limit < 2 ^ 32) : Exact limit where
  whole frames hfits later := by
    have hwritten := readings_complete_written hlimit hfits [] later
    rw [List.append_nil] at hwritten
    rw [hwritten, readings_complete_nil]
  cut frames hfits cut hcut := by
    obtain ⟨whole, part, hwhole, htake, hend, hcount⟩ := Framing.exists_cut frames cut hcut
    have hpending : Framing.read limit part false = .pending := by
      rcases hend with ⟨rfl, -⟩ | ⟨frame, hmem, more, hmore, hpart⟩
      · rfl
      · exact Framing.read_of_append_eq_encode hlimit (hfits frame hmem) hpart hmore
    obtain ⟨last, hshort, hlong, hlast⟩ := exists_last_of_cut hpending
    have hlength : cut = (Framing.written (frames.take whole)).length + part.length := by
      rw [← List.length_append, ← htake, List.length_take, Nat.min_eq_left hcut]
    refine ⟨whole, hwhole, last, hcount, fun h => hshort (by omega), fun h => hlong (by omega),
      fun later => ?_⟩
    have htaken : ∀ frame ∈ frames.take whole, frame.Fits limit :=
      fun frame hmem => hfits frame (List.mem_of_mem_take hmem)
    have hwritten := readings_complete_written hlimit htaken part (1 + later)
    rw [List.length_take, Nat.min_eq_left hwhole, ← htake] at hwritten
    rw [hwritten, hlast later]
  any stream := by
    -- every stream is written frames and a rest that does not start with one
    obtain ⟨frames, rest, rfl, hfits, hrest⟩ := Framing.exists_written hlimit stream
    obtain ⟨last, hlast, hreadings⟩ := exists_last hrest
    refine ⟨frames, rest, last, rfl, ?_, hlast, fun later => ?_⟩
    · have hwritten := readings_complete_written hlimit hfits rest 0
      rw [Nat.add_zero] at hwritten
      rw [hwritten]
      rfl
    · rw [readings_complete_written hlimit hfits rest (1 + later), hreadings later]
  silence e h turns reading hmem := by
    obtain ⟨count, hcount⟩ := listen_of_done turns (done_next h)
    rw [hcount] at hmem
    exact (List.mem_replicate.mp hmem).2
  pieces turns count := listen_append_readings turns count rfl rfl

/-- Two frames of which the second is cut in its payload. -/
theorem framing_exact_cutInside :
    (16 : Nat) < 2 ^ 32 ∧ Exact 16 ∧
      (readings 3 (complete 16 ((Framing.written [⟨⟨⟨7, by decide⟩, .reliable⟩, [1, 2, 3]⟩,
        ⟨⟨.unset, .unreliable⟩, [4, 5]⟩]).take 22))).1 =
      [.frame ⟨⟨⟨7, by decide⟩, .reliable⟩, [1, 2, 3]⟩, .failed Framing.endInPayload, .ended] :=
  ⟨by decide, framing_exact (by decide), by decide⟩

end StreamEnd

end PacketSession
