namespace Telemetry.Utf8

/-!
# UTF-8

* `encode` — the bytes of a text.
* `decode?` — strict: the text of bytes that are UTF-8.
* `decodeLossy` — total: each maximal part that could have begun a character, and each
  other stray byte, becomes one U+FFFD.
-/

/-- The bytes of a text. -/
def encode (s : String) : List UInt8 := s.toUTF8.data.toList

/-- Texts are encoded one after the other. -/
@[simp] theorem encode_append (s t : String) : encode (s ++ t) = encode s ++ encode t := by
  simp [encode]

/-- Characters are encoded one by one. -/
theorem encode_ofList (s : List Char) :
    encode (String.ofList s) = s.flatMap String.utf8EncodeChar := by
  simp [encode, List.utf8Encode]

/-- The bytes of a text are as many as its size says. -/
@[simp] theorem length_encode (s : String) : (encode s).length = s.utf8ByteSize := by
  simp [encode]

/-- Different texts have different bytes. -/
@[simp] theorem encode_inj {s t : String} : encode s = encode t ↔ s = t := by
  rw [encode, encode, Array.toList_inj, ← String.toByteArray_inj]
  exact ⟨fun h => ByteArray.ext h, fun h => congrArg ByteArray.data h⟩

/-- The bytes that continue a character. -/
def isTail (b : UInt8) : Bool := decide (0x80 ≤ b.toNat) && decide (b.toNat ≤ 0xBF)

/-- The length of the character that a byte begins, and the range of its second byte; a
    byte that begins none has length 0. -/
def lead (b : UInt8) : Nat × Nat × Nat :=
  let n := b.toNat
  if n < 0x80 then (1, 0, 0)
  else if n < 0xC2 then (0, 0, 0)
  else if n < 0xE0 then (2, 0x80, 0xBF)
  else if n = 0xE0 then (3, 0xA0, 0xBF)
  else if n = 0xED then (3, 0x80, 0x9F)
  else if n < 0xF0 then (3, 0x80, 0xBF)
  else if n = 0xF0 then (4, 0x90, 0xBF)
  else if n < 0xF4 then (4, 0x80, 0xBF)
  else if n = 0xF4 then (4, 0x80, 0x8F)
  else (0, 0, 0)

/-- Whether a byte may stand second after the byte `a`. -/
def follows (a b : UInt8) : Bool :=
  decide ((lead a).2.1 ≤ b.toNat) && decide (b.toNat ≤ (lead a).2.2)

/-- The payload of a byte that continues a character. -/
def low (b : UInt8) : Nat := b.toNat % 64

/-- A character at the front of nonempty bytes, or how many bytes of the front form the
    longest start of a character (at least one). -/
def front : List UInt8 → Char ⊕ Nat
  | [] => .inr 0
  | a :: rest =>
    match (lead a).1, rest with
    | 1, _ => .inl (Char.ofNat a.toNat)
    | 2, b :: _ =>
      if follows a b then .inl (Char.ofNat (a.toNat % 32 * 64 + low b)) else .inr 1
    | 3, b :: rest =>
      if follows a b then
        match rest with
        | c :: _ =>
          if isTail c then
            .inl (Char.ofNat (a.toNat % 16 * 4096 + low b * 64 + low c))
          else .inr 2
        | [] => .inr 2
      else .inr 1
    | 4, b :: rest =>
      if follows a b then
        match rest with
        | c :: rest =>
          if isTail c then
            match rest with
            | d :: _ =>
              if isTail d then
                .inl (Char.ofNat (a.toNat % 8 * 262144 + low b * 4096 + low c * 64 + low d))
              else .inr 3
            | [] => .inr 3
          else .inr 2
        | [] => .inr 2
      else .inr 1
    | _, _ => .inr 1

/-- How many bytes the front of the bytes takes: one character or one malformed part. -/
def frontSize (bytes : List UInt8) : Nat :=
  match front bytes, bytes with
  | .inl _, a :: _ => max 1 (lead a).1
  | .inr n, _ => max 1 n
  | _, [] => 1

/-- The characters of the bytes after those in `done` (last first). -/
def lossyAfter (done : List Char) (bytes : List UInt8) : List Char :=
  match bytes with
  | [] => done.reverse
  | a :: rest =>
    let c := match front (a :: rest) with
      | .inl c => c
      | .inr _ => '\uFFFD'
    lossyAfter (c :: done) (rest.drop (frontSize (a :: rest) - 1))
termination_by bytes.length
decreasing_by simp only [List.length_drop, List.length_cons]; omega

/-- The text of any bytes, malformed parts replaced by U+FFFD. -/
def decodeLossy (bytes : List UInt8) : String := String.ofList (lossyAfter [] bytes)

/-- The characters of the bytes after those in `done` (last first). -/
def strictAfter (done : List Char) (bytes : List UInt8) : Option (List Char) :=
  match bytes with
  | [] => some done.reverse
  | a :: rest =>
    match front (a :: rest) with
    | .inl c => strictAfter (c :: done) (rest.drop (frontSize (a :: rest) - 1))
    | .inr _ => none
termination_by bytes.length
decreasing_by simp only [List.length_drop, List.length_cons]; omega

/-- The text of bytes, `none` when they are not UTF-8. -/
def decode? (bytes : List UInt8) : Option String := (strictAfter [] bytes).map String.ofList

end Telemetry.Utf8
