import Mathlib.Tactic.SplitIfs
import Telemetry.Text.Utf8

namespace Telemetry.Utf8

/-!
# Text read back from its bytes

The strict reader takes a character off the bytes as one to four of them, as the writer put
them there, so every text comes back, and nothing but the bytes of texts is read.

* `lead_of_two`, `lead_of_three`, `lead_of_four` — what the first byte of a longer character
  says about the others.
* `fronts_utf8EncodeChar` — one character in front of any rest.
* `decode?_encode` — a whole text.
* `lead_range` — the first byte of a character by its length; `exists_of_front` — what is read as a
  character are its bytes.
* `decode?_eq_some_iff` — the bytes that are read are those of texts.
-/

/-! ### The first byte -/

theorem toNat_ofNat {n : Nat} (hn : n < 256) : (UInt8.ofNat n).toNat = n := by
  rw [UInt8.toNat_ofNat']
  exact Nat.mod_eq_of_lt hn

/-- Where the first byte of two lies, and so the second. -/
theorem lead_of_two {a : UInt8} (hlow : 0xC2 ≤ a.toNat) (hhigh : a.toNat < 0xE0) :
    lead a = (2, 0x80, 0xBF) := by
  simp only [lead]
  rw [if_neg (by omega), if_neg (by omega), if_pos (by omega)]

/-- The second byte is restricted after `0xE0`, where a shorter form would do, and after
    `0xED`, where the surrogates lie. -/
theorem lead_of_three {a : UInt8} (hlow : 0xE0 ≤ a.toNat) (hhigh : a.toNat < 0xF0) :
    lead a = (3, if a.toNat = 0xE0 then 0xA0 else 0x80,
      if a.toNat = 0xED then 0x9F else 0xBF) := by
  simp only [lead]
  rw [if_neg (by omega), if_neg (by omega), if_neg (by omega)]
  by_cases hE0 : a.toNat = 0xE0
  · simp [hE0]
  by_cases hED : a.toNat = 0xED
  · simp [hED]
  · simp [hE0, hED, hhigh]

/-- The second byte is restricted after `0xF0`, where a shorter form would do, and after
    `0xF4`, where the code points end. -/
theorem lead_of_four {a : UInt8} (hlow : 0xF0 ≤ a.toNat) (hhigh : a.toNat ≤ 0xF4) :
    lead a = (4, if a.toNat = 0xF0 then 0x90 else 0x80,
      if a.toNat = 0xF4 then 0x8F else 0xBF) := by
  simp only [lead]
  rw [if_neg (by omega), if_neg (by omega), if_neg (by omega), if_neg (by omega),
    if_neg (by omega), if_neg (by omega)]
  by_cases hF0 : a.toNat = 0xF0
  · simp [hF0]
  by_cases hF4 : a.toNat = 0xF4
  · simp [hF4]
  · rw [if_neg hF0, if_pos (by omega), if_neg hF0, if_neg hF4]

/-! ### The front of the bytes -/

theorem front_one {a : UInt8} (ha : (lead a).1 = 1) (rest : List UInt8) :
    front (a :: rest) = .inl (Char.ofNat a.toNat) := by
  simp [front, ha]

/-- The character of two bytes has eleven bits. -/
theorem front_two {a b : UInt8} (ha : (lead a).1 = 2) (hb : follows a b = true)
    (rest : List UInt8) :
    front (a :: b :: rest) = .inl (Char.ofNat (a.toNat % 32 * 64 + low b)) := by
  simp [front, ha, hb]

theorem front_three {a b c : UInt8} (ha : (lead a).1 = 3) (hb : follows a b = true)
    (hc : isTail c = true) (rest : List UInt8) :
    front (a :: b :: c :: rest) =
      .inl (Char.ofNat (a.toNat % 16 * 4096 + low b * 64 + low c)) := by
  simp [front, ha, hb, hc]

theorem front_four {a b c d : UInt8} (ha : (lead a).1 = 4) (hb : follows a b = true)
    (hc : isTail c = true) (hd : isTail d = true) (rest : List UInt8) :
    front (a :: b :: c :: d :: rest) =
      .inl (Char.ofNat (a.toNat % 8 * 262144 + low b * 4096 + low c * 64 + low d)) := by
  simp [front, ha, hb, hc, hd]

/-- A byte that carries six bits continues a character. -/
theorem isTail_ofNat (n : Nat) : isTail (UInt8.ofNat (n % 64 + 128)) = true := by
  rw [isTail, toNat_ofNat (by omega)]
  simp only [Bool.and_eq_true, decide_eq_true_eq]
  omega

/-- A continuation byte holds six bits. -/
theorem low_ofNat (n : Nat) : low (UInt8.ofNat (n % 64 + 128)) = n % 64 := by
  rw [low, toNat_ofNat (by omega)]
  omega

/-- The bytes, in front of any others, are read as the character, all of them. -/
def Fronts (bytes : List UInt8) (c : Char) : Prop :=
  ∃ a tail, bytes = a :: tail ∧ (lead a).1 = tail.length + 1 ∧
    ∀ rest, front (a :: (tail ++ rest)) = .inl c

section Fronts

variable {n : Nat}

theorem fronts_one (hn : n ≤ 0x7f) : Fronts [UInt8.ofNat n] (Char.ofNat n) := by
  have ha : (UInt8.ofNat n).toNat = n := toNat_ofNat (by omega)
  have hlead : (lead (UInt8.ofNat n)).1 = 1 := by
    simp only [lead, ha]
    rw [if_pos (by omega)]
  refine ⟨_, _, rfl, hlead, fun rest => ?_⟩
  rw [List.nil_append, front_one hlead, ha]

theorem fronts_two (hlow : 0x7f < n) (hn : n ≤ 0x7ff) :
    Fronts [UInt8.ofNat (n / 64 % 32 + 192), UInt8.ofNat (n % 64 + 128)] (Char.ofNat n) := by
  have ha : (UInt8.ofNat (n / 64 % 32 + 192)).toNat = n / 64 % 32 + 192 := toNat_ofNat (by omega)
  have hlead := lead_of_two (a := UInt8.ofNat (n / 64 % 32 + 192)) (by omega) (by omega)
  have hb : follows (UInt8.ofNat (n / 64 % 32 + 192)) (UInt8.ofNat (n % 64 + 128)) = true := by
    rw [follows, hlead, toNat_ofNat (by omega)]
    simp only [Bool.and_eq_true, decide_eq_true_eq]
    omega
  refine ⟨_, _, rfl, by rw [hlead]; rfl, fun rest => ?_⟩
  have hsum : (n / 64 % 32 + 192) % 32 * 64 + n % 64 = n := by omega
  rw [List.cons_append, front_two (by rw [hlead]) hb, low_ofNat, ha, hsum]

/-- Surrogates are the code points that the second byte excludes. -/
theorem fronts_three (hlow : 0x7ff < n) (hn : n ≤ 0xffff) (hvalid : n < 0xD800 ∨ 0xDFFF < n) :
    Fronts [UInt8.ofNat (n / 4096 % 16 + 224), UInt8.ofNat (n / 64 % 64 + 128),
      UInt8.ofNat (n % 64 + 128)] (Char.ofNat n) := by
  have ha : (UInt8.ofNat (n / 4096 % 16 + 224)).toNat = n / 4096 % 16 + 224 :=
    toNat_ofNat (by omega)
  have hlead := lead_of_three (a := UInt8.ofNat (n / 4096 % 16 + 224)) (by omega) (by omega)
  have hb : follows (UInt8.ofNat (n / 4096 % 16 + 224))
      (UInt8.ofNat (n / 64 % 64 + 128)) = true := by
    rw [follows, hlead, toNat_ofNat (n := n / 64 % 64 + 128) (by omega), ha]
    simp only [Bool.and_eq_true, decide_eq_true_eq]
    split <;> split <;> omega
  refine ⟨_, _, rfl, by rw [hlead]; rfl, fun rest => ?_⟩
  have hsum : (n / 4096 % 16 + 224) % 16 * 4096 + n / 64 % 64 * 64 + n % 64 = n := by omega
  rw [List.cons_append, List.cons_append,
    front_three (by rw [hlead]) hb (isTail_ofNat n), low_ofNat, low_ofNat, ha, hsum]

theorem fronts_four (hlow : 0xffff < n) (hn : n < 0x110000) :
    Fronts [UInt8.ofNat (n / 262144 % 8 + 240), UInt8.ofNat (n / 4096 % 64 + 128),
      UInt8.ofNat (n / 64 % 64 + 128), UInt8.ofNat (n % 64 + 128)] (Char.ofNat n) := by
  have ha : (UInt8.ofNat (n / 262144 % 8 + 240)).toNat = n / 262144 % 8 + 240 :=
    toNat_ofNat (by omega)
  have hlead := lead_of_four (a := UInt8.ofNat (n / 262144 % 8 + 240)) (by omega) (by omega)
  have hb : follows (UInt8.ofNat (n / 262144 % 8 + 240))
      (UInt8.ofNat (n / 4096 % 64 + 128)) = true := by
    rw [follows, hlead, toNat_ofNat (n := n / 4096 % 64 + 128) (by omega), ha]
    simp only [Bool.and_eq_true, decide_eq_true_eq]
    split <;> split <;> omega
  refine ⟨_, _, rfl, by rw [hlead]; rfl, fun rest => ?_⟩
  have hsum : (n / 262144 % 8 + 240) % 8 * 262144 + n / 4096 % 64 * 4096 + n / 64 % 64 * 64 +
      n % 64 = n := by omega
  rw [List.cons_append, List.cons_append, List.cons_append,
    front_four (by rw [hlead]) hb (isTail_ofNat _) (isTail_ofNat n), low_ofNat, low_ofNat,
    low_ofNat, ha, hsum]

end Fronts

/-- **A character is read as itself,** and the reader takes as many bytes as the writer put
    there. -/
theorem fronts_utf8EncodeChar (c : Char) : Fronts (String.utf8EncodeChar c) c := by
  have hvalid : c.val.toNat < 0xD800 ∨ 0xDFFF < c.val.toNat ∧ c.val.toNat < 0x110000 := c.valid
  have hofNat : Char.ofNat c.val.toNat = c := Char.ofNat_toNat c
  unfold String.utf8EncodeChar
  by_cases hone : c.val.toNat ≤ 0x7f
  · have h := fronts_one hone
    simpa only [if_pos hone, hofNat] using h
  by_cases htwo : c.val.toNat ≤ 0x7ff
  · have h := fronts_two (Nat.lt_of_not_le hone) htwo
    simpa only [if_neg hone, if_pos htwo, hofNat] using h
  by_cases hthree : c.val.toNat ≤ 0xffff
  · have h := fronts_three (Nat.lt_of_not_le htwo) hthree (by omega)
    simpa only [if_neg hone, if_neg htwo, if_pos hthree, hofNat] using h
  · have h := fronts_four (Nat.lt_of_not_le hthree) (by omega)
    simpa only [if_neg hone, if_neg htwo, if_neg hthree, hofNat] using h

/-! ### Whole texts -/

/-- One character is read back. -/
theorem strictAfter_utf8EncodeChar (done : List Char) (c : Char) (rest : List UInt8) :
    strictAfter done (String.utf8EncodeChar c ++ rest) = strictAfter (c :: done) rest := by
  obtain ⟨a, tail, hbytes, hlead, hfront⟩ := fronts_utf8EncodeChar c
  rw [hbytes, List.cons_append, strictAfter, hfront rest]
  have hsize : frontSize (a :: (tail ++ rest)) - 1 = tail.length := by
    simp only [frontSize, hfront rest, hlead]
    omega
  simp only [hsize, List.drop_left]

/-- Characters are read back one after the other. -/
theorem strictAfter_flatMap (done s : List Char) :
    strictAfter done (s.flatMap String.utf8EncodeChar) = some (done.reverse ++ s) := by
  induction s generalizing done with
  | nil => simp [strictAfter]
  | cons c s ih =>
    rw [List.flatMap_cons, strictAfter_utf8EncodeChar, ih]
    simp

/-- **A text is read back from its bytes.** -/
theorem decode?_encode (s : String) : decode? (encode s) = some s := by
  have hbytes : encode s = s.toList.flatMap String.utf8EncodeChar := by
    rw [← encode_ofList, String.ofList_toList]
  rw [decode?, hbytes, strictAfter_flatMap]
  simp

/-! ### Bytes of characters that were read -/

/-- The first bytes of characters of each length. -/
theorem lead_range (a : UInt8) :
    match (lead a).1 with
    | 1 => a.toNat < 0x80
    | 2 => 0xC2 ≤ a.toNat ∧ a.toNat < 0xE0
    | 3 => 0xE0 ≤ a.toNat ∧ a.toNat < 0xF0
    | 4 => 0xF0 ≤ a.toNat ∧ a.toNat ≤ 0xF4
    | _ => True := by
  fun_cases lead a <;> simp only <;> omega

/-- Where a continuation byte lies. -/
theorem range_of_isTail {b : UInt8} (h : isTail b = true) : 0x80 ≤ b.toNat ∧ b.toNat ≤ 0xBF := by
  rwa [isTail, Bool.and_eq_true, decide_eq_true_eq, decide_eq_true_eq] at h

/-- The first byte bounds the second. -/
theorem range_of_follows {a b : UInt8} (h : follows a b = true) :
    (lead a).2.1 ≤ b.toNat ∧ b.toNat ≤ (lead a).2.2 := by
  rwa [follows, Bool.and_eq_true, decide_eq_true_eq, decide_eq_true_eq] at h

theorem ofNat_eq {n : Nat} {a : UInt8} (h : n = a.toNat) : UInt8.ofNat n = a := by
  rw [h, UInt8.ofNat_toNat]

section Read

variable {a b c d : UInt8}

/-- The bytes of a code point. -/
theorem utf8EncodeChar_ofNat {n : Nat} (hn : n < 0xD800 ∨ 0xDFFF < n ∧ n < 0x110000) :
    String.utf8EncodeChar (Char.ofNat n) =
      if n ≤ 0x7f then [UInt8.ofNat n]
      else if n ≤ 0x7ff then [UInt8.ofNat (n / 64 % 32 + 192), UInt8.ofNat (n % 64 + 128)]
      else if n ≤ 0xffff then
        [UInt8.ofNat (n / 4096 % 16 + 224), UInt8.ofNat (n / 64 % 64 + 128),
          UInt8.ofNat (n % 64 + 128)]
      else
        [UInt8.ofNat (n / 262144 % 8 + 240), UInt8.ofNat (n / 4096 % 64 + 128),
          UInt8.ofNat (n / 64 % 64 + 128), UInt8.ofNat (n % 64 + 128)] := by
  have hvalue : (Char.ofNat n).val.toNat = n := by
    have hvalid : n.isValidChar := hn
    rw [Char.ofNat, dif_pos hvalid]
    rfl
  simp only [String.utf8EncodeChar, hvalue]

/-- One byte that was read is written again. -/
theorem utf8EncodeChar_one (ha : (lead a).1 = 1) :
    String.utf8EncodeChar (Char.ofNat a.toNat) = [a] := by
  have hrange : a.toNat < 0x80 := by simpa only [ha] using lead_range a
  rw [utf8EncodeChar_ofNat (by omega), if_pos (by omega), UInt8.ofNat_toNat]

theorem utf8EncodeChar_two (ha : (lead a).1 = 2) (hb : follows a b = true) :
    String.utf8EncodeChar (Char.ofNat (a.toNat % 32 * 64 + low b)) = [a, b] := by
  have hrange : 0xC2 ≤ a.toNat ∧ a.toNat < 0xE0 := by simpa only [ha] using lead_range a
  have hsecond := range_of_follows hb
  simp only [lead_of_two hrange.1 hrange.2] at hsecond
  rw [low, utf8EncodeChar_ofNat (by omega), if_neg (by omega), if_pos (by omega),
    ofNat_eq (a := a) (by omega), ofNat_eq (a := b) (by omega)]

/-- The second byte excludes the shorter forms and the surrogates. -/
theorem utf8EncodeChar_three (ha : (lead a).1 = 3) (hb : follows a b = true)
    (hc : isTail c = true) :
    String.utf8EncodeChar (Char.ofNat (a.toNat % 16 * 4096 + low b * 64 + low c)) = [a, b, c] := by
  have hrange : 0xE0 ≤ a.toNat ∧ a.toNat < 0xF0 := by simpa only [ha] using lead_range a
  have hsecond : 0x80 ≤ b.toNat ∧ b.toNat ≤ 0xBF ∧ (a.toNat = 0xE0 → 0xA0 ≤ b.toNat) ∧
      (a.toNat = 0xED → b.toNat ≤ 0x9F) := by
    have h := range_of_follows hb
    simp only [lead_of_three hrange.1 hrange.2] at h
    split_ifs at h <;> omega
  have hthird := range_of_isTail hc
  rw [low, low, utf8EncodeChar_ofNat (by omega), if_neg (by omega), if_neg (by omega),
    if_pos (by omega), ofNat_eq (a := a) (by omega), ofNat_eq (a := b) (by omega),
    ofNat_eq (a := c) (by omega)]

/-- The second byte excludes the shorter forms and what is above the code points. -/
theorem utf8EncodeChar_four (ha : (lead a).1 = 4) (hb : follows a b = true) (hc : isTail c = true)
    (hd : isTail d = true) :
    String.utf8EncodeChar
      (Char.ofNat (a.toNat % 8 * 262144 + low b * 4096 + low c * 64 + low d)) = [a, b, c, d] := by
  have hrange : 0xF0 ≤ a.toNat ∧ a.toNat ≤ 0xF4 := by simpa only [ha] using lead_range a
  have hsecond : 0x80 ≤ b.toNat ∧ b.toNat ≤ 0xBF ∧ (a.toNat = 0xF0 → 0x90 ≤ b.toNat) ∧
      (a.toNat = 0xF4 → b.toNat ≤ 0x8F) := by
    have h := range_of_follows hb
    simp only [lead_of_four hrange.1 hrange.2] at h
    split_ifs at h <;> omega
  have hthird := range_of_isTail hc
  have hfourth := range_of_isTail hd
  rw [low, low, low, utf8EncodeChar_ofNat (by omega), if_neg (by omega), if_neg (by omega),
    if_neg (by omega), ofNat_eq (a := a) (by omega), ofNat_eq (a := b) (by omega),
    ofNat_eq (a := c) (by omega), ofNat_eq (a := d) (by omega)]

end Read

/-- **What is read as a character are its bytes.** -/
theorem exists_of_front {bytes : List UInt8} {c : Char} (h : front bytes = .inl c) :
    ∃ rest, bytes = String.utf8EncodeChar c ++ rest := by
  fun_cases front bytes with
  | case2 a rest ha =>
    rw [front_one ha, Sum.inl.injEq] at h
    exact ⟨rest, by rw [← h, utf8EncodeChar_one ha]; rfl⟩
  | case3 a b rest ha hb =>
    rw [front_two ha hb, Sum.inl.injEq] at h
    exact ⟨rest, by rw [← h, utf8EncodeChar_two ha hb]; rfl⟩
  | case5 a b ha hb c rest hc =>
    rw [front_three ha hb hc, Sum.inl.injEq] at h
    exact ⟨rest, by rw [← h, utf8EncodeChar_three ha hb hc]; rfl⟩
  | case9 a b ha hb c hc d rest hd =>
    rw [front_four ha hb hc hd, Sum.inl.injEq] at h
    exact ⟨rest, by rw [← h, utf8EncodeChar_four ha hb hc hd]; rfl⟩
  -- In all other cases no character is read.
  | _ => simp [front, *] at h

/-! ### Exactly the texts -/

/-- By the length of the bytes: a character has one at least. -/
theorem exists_of_strictAfter {done s : List Char} {bytes : List UInt8}
    (h : strictAfter done bytes = some s) :
    ∃ t, s = done.reverse ++ t ∧ bytes = t.flatMap String.utf8EncodeChar := by
  induction hlength : bytes.length using Nat.strongRecOn generalizing done bytes with
  | ind n ih =>
    cases bytes with
    | nil =>
      rw [strictAfter, Option.some.injEq] at h
      exact ⟨[], by rw [← h, List.append_nil], rfl⟩
    | cons a tail =>
      cases hfront : front (a :: tail) with
      | inr k =>
        rw [strictAfter, hfront] at h
        cases h
      | inl c =>
        obtain ⟨rest, hrest⟩ := exists_of_front hfront
        rw [hrest, strictAfter_utf8EncodeChar] at h
        -- The character in front has a byte at least.
        have hshorter : rest.length < n := by
          rw [← hlength, hrest, List.length_append]
          exact Nat.lt_add_of_pos_left (List.length_pos_iff.2 String.utf8EncodeChar_ne_nil)
        obtain ⟨t, hs, hbytes⟩ := ih rest.length hshorter h rfl
        refine ⟨c :: t, ?_, ?_⟩
        · rw [hs, List.reverse_cons, List.append_assoc, List.singleton_append]
        · rw [hrest, hbytes, List.flatMap_cons]

/-- **Exactly the bytes of texts are read.** -/
theorem decode?_eq_some_iff {bytes : List UInt8} {s : String} :
    decode? bytes = some s ↔ encode s = bytes := by
  constructor
  · intro h
    obtain ⟨t, ht, rfl⟩ := Option.map_eq_some_iff.1 h
    obtain ⟨u, rfl, hbytes⟩ := exists_of_strictAfter ht
    rw [encode_ofList, hbytes]
  · rintro rfl
    exact decode?_encode s

/-- Bytes that are of no text are not read. -/
theorem decode?_eq_none_iff {bytes : List UInt8} :
    decode? bytes = none ↔ ∀ s, encode s ≠ bytes := by
  rw [Option.eq_none_iff_forall_ne_some]
  exact forall_congr' fun s => not_congr decode?_eq_some_iff

end Telemetry.Utf8
