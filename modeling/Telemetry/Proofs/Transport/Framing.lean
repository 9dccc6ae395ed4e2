import Mathlib.Data.List.Basic
import Telemetry.Proofs.Text.Delimited
import Telemetry.Transport.Writer

namespace Telemetry

/-!
# Streams of frames

A stream is read frame by frame: a size in decimal up to a line feed, then as many bytes.
The size that a frame states is that of its body, so each frame is read to its own end,
whatever its texts contain.

* `bodies?` — the reader of a stream, for frames with a fixed gap after each.
* `Message.length_encode_body` — the size put together from the parts is that of the body.
* `Message.readFrame?_frame`, `Message.bodies?_frames` — one frame in front of any rest, and a
  stream of them.
* `Message.body_inj` — a body determines its message.
* `TakesAll`, `WriterTransport.holds_sendAll` — what a writer puts into a sink that takes
  everything.
* `bodies?_streams` — so joined frames and written streams are split into their bodies.
-/

open Text (startsIn_cons)

/-! ### The reader -/

/-- The number that bytes stand for, if they are decimal digits and at least one. -/
def readDecimal? (bytes : List UInt8) : Option Nat :=
  let digits := bytes.map fun b => Char.ofNat b.toNat
  if digits.isEmpty || !digits.all Char.isDigit then none
  else some (Nat.ofDigitChars 10 digits 0)

/-- A decimal number up to the first line feed, and what follows the line feed. -/
def readSize? (bytes : List UInt8) : Option (Nat × List UInt8) :=
  match bytes.dropWhile (· != 10), readDecimal? (bytes.takeWhile (· != 10)) with
  | _ :: rest, some size => some (size, rest)
  | _, _ => none

/-- One frame: a size, as many bytes, and the gap.  The bytes, and what follows the gap. -/
def readFrame? (gap bytes : List UInt8) : Option (List UInt8 × List UInt8) :=
  match readSize? bytes with
  | none => none
  | some (size, rest) =>
    if size ≤ rest.length && gap.isPrefixOf (rest.drop size) then
      some (rest.take size, rest.drop (size + gap.length))
    else none

/-- A size takes the line feed after it at least. -/
theorem length_lt_of_readSize? {bytes rest : List UInt8} {size : Nat}
    (h : readSize? bytes = some (size, rest)) : rest.length < bytes.length := by
  unfold readSize? at h
  split at h
  · rename_i b tail _ hdrop _
    have hsuffix := (List.dropWhile_suffix (l := bytes) (· != 10)).length_le
    rw [hdrop, List.length_cons] at hsuffix
    rw [← (Prod.mk.inj (Option.some.inj h)).2]
    omega
  · exact absurd h (by simp)

/-- A frame takes a byte at least, so reading frames ends. -/
theorem length_lt_of_readFrame? {gap bytes body rest : List UInt8}
    (h : readFrame? gap bytes = some (body, rest)) : rest.length < bytes.length := by
  unfold readFrame? at h
  split at h
  · exact absurd h (by simp)
  · rename_i size tail hsize
    have hlt := length_lt_of_readSize? hsize
    split at h
    · rw [← (Prod.mk.inj (Option.some.inj h)).2, List.length_drop]
      omega
    · exact absurd h (by simp)

/-- The bodies of a stream that consists of frames, each with the gap after it, and of
    nothing else. -/
def bodies? (gap bytes : List UInt8) : Option (List (List UInt8)) :=
  if bytes.isEmpty then some []
  else
    match _h : readFrame? gap bytes with
    | none => none
    | some (body, rest) => (bodies? gap rest).map (body :: ·)
termination_by bytes.length
decreasing_by exact length_lt_of_readFrame? _h

/-! ### Sizes -/

/-- A number has as many digits as are counted. -/
theorem length_toDigits (n : Nat) : (Nat.toDigits 10 n).length = digitCount n := by
  induction n using Nat.strongRecOn with
  | _ n ih =>
    rw [digitCount]
    by_cases hn : n < 10
    · rw [if_pos hn, Nat.toDigits_of_lt_base hn, List.length_singleton]
    · rw [if_neg hn, Nat.toDigits_of_base_le (by decide) (Nat.not_lt.1 hn), List.length_append,
        ih (n / 10) (by omega), List.length_singleton]

/-- The byte of a character below 0x80 is its number. -/
theorem utf8EncodeChar_of_lt {c : Char} (hc : c.toNat < 0x80) :
    String.utf8EncodeChar c = [UInt8.ofNat c.toNat] := by
  have hval : c.val.toNat = c.toNat := rfl
  unfold String.utf8EncodeChar
  simp only [hval]
  rw [if_pos (by omega)]

/-- Digits are one byte each. -/
theorem toNat_lt_of_isDigit {c : Char} (hc : c.isDigit = true) : c.toNat < 0x80 := by
  have hhigh := (Char.isDigit_iff_toNat.1 hc).2
  have hnine : '9'.toNat = 57 := rfl
  omega

/-- A number is written with one byte for each digit. -/
theorem encode_toString (n : Nat) :
    Utf8.encode (toString n) = (Nat.toDigits 10 n).map fun c => UInt8.ofNat c.toNat := by
  rw [Nat.toString_eq_ofList_toDigits, Utf8.encode_ofList, List.map_eq_flatMap]
  refine List.flatMap_congr fun c hc => ?_
  exact utf8EncodeChar_of_lt (toNat_lt_of_isDigit (Text.isDigit_of_mem_toDigits hc))

/-- A number takes as many bytes as it has digits. -/
theorem utf8ByteSize_toString (n : Nat) : (toString n).utf8ByteSize = digitCount n := by
  rw [← Utf8.length_encode, encode_toString, List.length_map, length_toDigits]

/-- No digit is a line feed. -/
theorem ne_lineFeed_of_mem_encode_toString {n : Nat} {b : UInt8}
    (hb : b ∈ Utf8.encode (toString n)) : (b != 10) = true := by
  rw [encode_toString, List.mem_map] at hb
  obtain ⟨c, hc, rfl⟩ := hb
  have hdigit := Text.isDigit_of_mem_toDigits hc
  have hlow := (Char.isDigit_iff_toNat.1 hdigit).1
  have hzero : '0'.toNat = 48 := rfl
  have hlt := toNat_lt_of_isDigit hdigit
  rw [bne_iff_ne]
  intro h
  have hten := congrArg UInt8.toNat h
  rw [UInt8.toNat_ofNat', Nat.mod_eq_of_lt (by omega)] at hten
  have : (10 : UInt8).toNat = 10 := rfl
  omega

/-- A number is read back from its digits. -/
theorem readDecimal?_encode_toString (n : Nat) :
    readDecimal? (Utf8.encode (toString n)) = some n := by
  have hchar : ∀ c ∈ Nat.toDigits 10 n, Char.ofNat (UInt8.ofNat c.toNat).toNat = c := by
    intro c hc
    have hlt := toNat_lt_of_isDigit (Text.isDigit_of_mem_toDigits hc)
    rw [UInt8.toNat_ofNat', Nat.mod_eq_of_lt (by omega), Char.ofNat_toNat]
  have hdigits : (Utf8.encode (toString n)).map (fun b => Char.ofNat b.toNat) =
      Nat.toDigits 10 n := by
    rw [encode_toString, List.map_map]
    exact (List.map_congr_left hchar).trans (List.map_id' _)
  have hall : (Nat.toDigits 10 n).all Char.isDigit = true :=
    List.all_eq_true.2 fun _ => Text.isDigit_of_mem_toDigits
  rw [readDecimal?, hdigits]
  simp [hall, Nat.toDigits_ne_nil, Nat.ofDigitChars_ten_toDigits]

/-- A size is read up to its line feed. -/
theorem readSize?_append (n : Nat) (rest : List UInt8) :
    readSize? (Utf8.encode (toString n) ++ 10 :: rest) = some (n, rest) := by
  have hne : ∀ b ∈ Utf8.encode (toString n), (b != 10) = true :=
    fun _ => ne_lineFeed_of_mem_encode_toString
  rw [readSize?, List.takeWhile_append_of_pos hne, List.dropWhile_append_of_pos hne]
  have htake : (10 :: rest : List UInt8).takeWhile (· != 10) = [] := rfl
  have hdrop : (10 :: rest : List UInt8).dropWhile (· != 10) = 10 :: rest := rfl
  rw [htake, hdrop, List.append_nil, readDecimal?_encode_toString]

namespace Message

/-- **The size of a message is that of its body,** though it is put together from parts. -/
theorem length_encode_body (m : Message) : (Utf8.encode m.body).length = m.bodySize := by
  have hopen : "[".utf8ByteSize = 1 := by decide
  have hcomma : ",".utf8ByteSize = 1 := by decide
  have hclose : "]".utf8ByteSize = 1 := by decide
  rw [Utf8.length_encode, body, bodySize]
  simp only [String.utf8ByteSize_append, utf8ByteSize_toString, hopen, hcomma, hclose]

/-- A frame is the length of its body, a line feed and the body. -/
theorem encode_frame (m : Message) :
    Utf8.encode m.frame = Utf8.encode (toString m.bodySize) ++ 10 :: Utf8.encode m.body := by
  have hfeed : Utf8.encode "\n" = [10] := by decide
  rw [frame, Utf8.encode_append, Utf8.encode_append, hfeed, List.append_assoc,
    List.singleton_append]

/-! ### Streams -/

/-- **One frame is read to its end,** in front of any rest. -/
theorem readFrame?_frame (m : Message) (gap rest : List UInt8) :
    readFrame? gap (Utf8.encode m.frame ++ gap ++ rest) = some (Utf8.encode m.body, rest) := by
  have hsize := m.length_encode_body
  have hfits : m.bodySize ≤ (Utf8.encode m.body ++ (gap ++ rest)).length := by
    rw [List.length_append]
    omega
  have hgap : gap.isPrefixOf (gap ++ rest) = true :=
    List.isPrefixOf_iff_prefix.2 (List.prefix_append gap rest)
  rw [readFrame?, encode_frame, List.append_assoc, List.append_assoc, List.cons_append,
    readSize?_append]
  simp only [List.take_left' hsize, List.drop_left' hsize, hfits, hgap, decide_true,
    Bool.and_self, if_true]
  rw [← List.drop_drop, List.drop_left' hsize, List.drop_left]

/-- **A stream of frames is split into exactly their bodies,** in order and with nothing left
    over. -/
theorem bodies?_frames (gap : List UInt8) (ms : List Message) :
    bodies? gap (ms.flatMap fun m => Utf8.encode m.frame ++ gap) =
      some (ms.map fun m => Utf8.encode m.body) := by
  induction ms with
  | nil =>
    rw [bodies?]
    rfl
  | cons m ms ih =>
    have hne : (Utf8.encode m.frame ++ gap ++
        ms.flatMap fun m => Utf8.encode m.frame ++ gap).isEmpty = false := by
      simp [encode_frame]
    rw [List.flatMap_cons, bodies?, hne, if_neg (by decide)]
    split
    · -- There is a frame in front, so it is read.
      rename_i hread
      rw [readFrame?_frame] at hread
      exact absurd hread (by simp)
    · rename_i hread
      rw [readFrame?_frame, Option.some.injEq, Prod.mk.injEq] at hread
      rw [← hread.1, ← hread.2, ih]
      rfl

/-! ### Bodies -/

/-- **A body determines its message,** whatever its texts contain. -/
theorem body_inj {m n : Message} (h : m.body = n.body) : m = n := by
  obtain ⟨source, id, payload⟩ := m
  obtain ⟨source', id', payload'⟩ := n
  have hchars := congrArg String.toList h
  have hopen : "[".toList = ['['] := rfl
  have hcomma : ",".toList = [','] := rfl
  simp only [body, Json.quote, Nat.toString_eq_ofList_toDigits, String.toList_append,
    String.toList_ofList, hopen, hcomma, List.append_assoc, List.cons_append,
    List.nil_append] at hchars
  -- The source is quoted, the number ends at the comma, and the bracket is the last character.
  obtain ⟨hsource, hrest⟩ := Json.quoteChars_append_inj (List.cons.inj hchars).2
  obtain ⟨hid, hpayload⟩ := Text.delimited_toDigits (startsIn_cons.2 rfl) (startsIn_cons.2 rfl)
    (List.cons.inj hrest).2
  have hlast := List.append_cancel_right (List.cons.inj hpayload).2
  rw [String.toList_inj.1 hsource, hid, String.toList_inj.1 hlast]

/-- The bytes of a frame determine its message. -/
theorem encode_frame_inj {m n : Message} (h : Utf8.encode m.frame = Utf8.encode n.frame) :
    m = n := by
  have hm := readFrame?_frame m [] []
  rw [h, readFrame?_frame, Option.some.injEq, Prod.mk.injEq] at hm
  exact (body_inj (Utf8.encode_inj.1 hm.1)).symm

end Message

/-! ### Writers -/

/-- Parcels of a source and a line, numbered one after the other. -/
def Message.numbered (first : Nat) : List (String × String) → List Message
  | [] => []
  | (source, payload) :: parcels => ⟨source, first, payload⟩ :: numbered (first + 1) parcels

/-- Parcels sent one after the other, with the answers. -/
def Transport.sendAll {τ : Type} [Transport τ] (t : τ) :
    List (String × String) → List (Except Error Unit) × τ
  | [] => ([], t)
  | (source, payload) :: parcels =>
    let (answer, t) := Transport.send t source payload
    let (answers, t) := sendAll t parcels
    (answer :: answers, t)

/-- A sink that takes everything: `holds s written` says that the sink `s` has taken the bytes
    `written`.  Every write succeeds and adds its bytes; flushing, whether it succeeds or not,
    changes nothing of what was taken. -/
structure TakesAll {σ : Type} [Sink σ] (holds : σ → List UInt8 → Prop) : Prop where
  write {s : σ} {written : List UInt8} (h : holds s written) (bytes : List UInt8) :
    (Sink.write s bytes).1 = .ok () ∧ holds (Sink.write s bytes).2 (written ++ bytes)
  flush {s : σ} {written : List UInt8} (h : holds s written) : holds (Sink.flush s).2 written

namespace WriterTransport

variable {σ : Type} [Sink σ] {holds : σ → List UInt8 → Prop}

/-- A sink that takes all takes what is written through. -/
theorem holds_writeThrough (hsink : TakesAll holds) {s : σ} {written : List UInt8}
    (h : holds s written) (bytes : List UInt8) :
    holds (writeThrough s bytes).2 (written ++ bytes) := by
  obtain ⟨hok, hwrite⟩ := hsink.write h bytes
  unfold writeThrough
  rcases hs : Sink.write s bytes with ⟨r, s'⟩
  rw [hs] at hok hwrite
  simp only at hok hwrite
  subst hok
  exact hsink.flush hwrite

/-- A send that is not refused takes the next number and goes through the sink. -/
theorem send_of_isOpen {t : WriterTransport σ} (ht : t.isClosed = false)
    (source payload : String) :
    (t.send source payload).2.isClosed = false ∧
      (t.send source payload).2.nextId = t.nextId + 1 ∧
      (t.send source payload).2.sink =
        (writeThrough t.sink
          (Utf8.encode ((⟨source, t.nextId, payload⟩ : Message).frame ++ "\n"))).2 := by
  rw [send, if_neg (by rw [ht]; decide)]
  exact ⟨ht, rfl, rfl⟩

/-- A writer adds the frames of its messages, each with a line feed after it. -/
theorem holds_sendAll (hsink : TakesAll holds) {t : WriterTransport σ} {written : List UInt8}
    (ht : t.isClosed = false) (h : holds t.sink written) (parcels : List (String × String)) :
    holds (Transport.sendAll t parcels).2.sink (written ++
      (Message.numbered t.nextId parcels).flatMap fun m => Utf8.encode m.frame ++ [10]) := by
  induction parcels generalizing t written with
  | nil => simpa [Transport.sendAll, Message.numbered] using h
  | cons p parcels ih =>
    obtain ⟨source, payload⟩ := p
    have hfeed : Utf8.encode "\n" = [10] := by decide
    obtain ⟨hopen, hid, hafter⟩ := send_of_isOpen ht source payload
    have hnext := holds_writeThrough hsink h
      (Utf8.encode ((⟨source, t.nextId, payload⟩ : Message).frame ++ "\n"))
    rw [← hafter, Utf8.encode_append, hfeed] at hnext
    have hrest := ih hopen hnext
    rw [hid, List.append_assoc] at hrest
    exact hrest

end WriterTransport

/-- A sink without a limit takes everything. -/
theorem BoundedSink.takesAll :
    TakesAll fun (s : BoundedSink) written => s.limit = none ∧ s.written.toList = written where
  write := by
    rintro s _ ⟨hlimit, rfl⟩ bytes
    have hwrite : Sink.write s bytes = s.write bytes := rfl
    have hroom : s.room bytes.length = bytes.length := by rw [room, hlimit]
    simp [hwrite, write, hroom, hlimit]
  flush := fun h => h

/-! ### Joined frames and written streams -/

/-- Frames that are joined stand one after the other, with nothing between them. -/
theorem encode_join_frames (ms : List Message) :
    Utf8.encode (String.join (ms.map Message.frame)) =
      ms.flatMap fun m => Utf8.encode m.frame ++ [] := by
  induction ms with
  | nil => rfl
  | cons m ms ih =>
    rw [List.map_cons, String.join_cons, Utf8.encode_append, ih, List.flatMap_cons,
      List.append_nil]

/-- **Streams are split into the bodies of their frames,** in order and with nothing left over:
    the frames of any messages joined to one text, and what a writer transport has written for
    any parcels, where the reader also takes the line feed after each body.  The messages of a
    writer are numbered from 1.  And a body determines its message. -/
theorem bodies?_streams :
    (∀ ms : List Message, bodies? [] (Utf8.encode (String.join (ms.map Message.frame))) =
      some (ms.map fun m => Utf8.encode m.body)) ∧
    (∀ {σ : Type} [Sink σ] {holds : σ → List UInt8 → Prop}, TakesAll holds →
      ∀ sink : σ, holds sink [] → ∀ parcels : List (String × String), ∃ stream,
        holds (Transport.sendAll ({ sink := sink } : WriterTransport σ) parcels).2.sink stream ∧
        bodies? [10] stream =
          some ((Message.numbered 1 parcels).map fun m => Utf8.encode m.body)) ∧
    ∀ m n : Message, m.body = n.body → m = n := by
  refine ⟨fun ms => ?_, ?_, fun m n => Message.body_inj⟩
  · rw [encode_join_frames]
    exact Message.bodies?_frames [] ms
  · intro σ _ holds hsink sink hempty parcels
    have hstream := WriterTransport.holds_sendAll (t := { sink := sink }) hsink rfl hempty parcels
    rw [List.nil_append] at hstream
    exact ⟨_, hstream, Message.bodies?_frames [10] _⟩

/-- Two parcels with digits, line feeds and brackets in them, written into a sink without a limit
    that refuses to be flushed. -/
theorem bodies?_streams_unlimited :
    let sink : BoundedSink := { flushFails := true }
    let parcels := [("app\n7", "1,[],[\"é\n\"]"), ("", "12\n[]")]
    sink.limit = none ∧ sink.written.toList = [] ∧
      bodies? [10] (Transport.sendAll ({ sink := sink } : WriterTransport BoundedSink)
          parcels).2.sink.written.toList =
        some ([(⟨"app\n7", 1, "1,[],[\"é\n\"]"⟩ : Message), ⟨"", 2, "12\n[]"⟩].map
          fun m => Utf8.encode m.body) := by
  intro sink parcels
  obtain ⟨stream, ⟨-, hwritten⟩, hbodies⟩ :=
    bodies?_streams.2.1 BoundedSink.takesAll sink ⟨rfl, rfl⟩ parcels
  exact ⟨rfl, rfl, hwritten ▸ hbodies⟩

end Telemetry
