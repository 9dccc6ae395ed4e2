import Mathlib.Data.List.DropRight
import Mathlib.Data.Nat.Digits.Defs
import Telemetry.Ack

namespace Telemetry

/-!
# Lines that are acknowledgements

The receiver's lines as a grammar, beside the function that reads them.

* `Text.Word` — a number of 64 bits in decimal: how it may be written, and its value.
* `Text.word?_eq_some_iff` — exactly these texts are read.
* `Ack.Written` — a number alone, or a number, a colon and a code.
* `Ack.parse?_eq_some_iff` — what is read is what is written, before any carriage returns.
* `AckStatus.code_ofCode` — a status tells its code.
* `Ack.parse?_written` — all of this together.
-/

/-! ### Numbers -/

namespace Text

/-- The value of a digit. -/
def digitValue (c : Char) : Nat := c.toNat - '0'.toNat

/-- One digit or more, after a plus sign perhaps, whose value in decimal fits 64 bits. -/
inductive Word : List Char → Nat → Prop
  | mk (sign digits : List Char) (n : Nat) (hsign : sign = [] ∨ sign = ['+']) (hne : digits ≠ [])
      (hdigits : ∀ c ∈ digits, '0' ≤ c ∧ c ≤ '9')
      (hvalue : Nat.ofDigits 10 (digits.reverse.map digitValue) = n) (hfits : n < 2 ^ 64) :
    Word (sign ++ digits) n

/-- The digits are a range of characters. -/
theorem isDigit_iff {c : Char} : c.isDigit = true ↔ '0' ≤ c ∧ c ≤ '9' := by
  rw [Char.isDigit, Bool.and_eq_true, decide_eq_true_eq, decide_eq_true_eq]
  exact Iff.rfl

/-- Digits from the left have the value of the digits from the right. -/
theorem ofDigits_reverse (digits : List Char) :
    Nat.ofDigits 10 (digits.reverse.map digitValue) = Nat.ofDigitChars 10 digits 0 := by
  induction digits using List.reverseRecOn with
  | nil => rfl
  | append_singleton digits c ih =>
    rw [List.reverse_concat, List.map_cons, Nat.ofDigits_cons, ih, Nat.ofDigitChars_append,
      Nat.ofDigitChars_cons, Nat.ofDigitChars_nil, Nat.add_comm]
    rfl

/-- The number of digits, when there are digits only and it fits. -/
theorem ite_digits_eq_some_iff {digits : List Char} {n : Nat} :
    (if digits.isEmpty || !digits.all Char.isDigit then none
      else if Nat.ofDigitChars 10 digits 0 < 0x10000000000000000 then
        some (Nat.ofDigitChars 10 digits 0)
      else none) = some n ↔
    digits ≠ [] ∧ (∀ c ∈ digits, '0' ≤ c ∧ c ≤ '9') ∧
      Nat.ofDigits 10 (digits.reverse.map digitValue) = n ∧ n < 2 ^ 64 := by
  -- The first test rejects exactly what has no digits, or not only digits.
  have hread : (digits.isEmpty || !digits.all Char.isDigit) = true ↔
      ¬ (digits ≠ [] ∧ ∀ c ∈ digits, '0' ≤ c ∧ c ≤ '9') := by
    simp only [Bool.or_eq_true, List.isEmpty_iff, Bool.not_eq_true', ← Bool.not_eq_true,
      List.all_eq_true, isDigit_iff, not_and_or, not_not]
  rw [ofDigits_reverse, ← and_assoc]
  by_cases hdigits : digits ≠ [] ∧ ∀ c ∈ digits, '0' ≤ c ∧ c ≤ '9'
  · rw [if_neg (mt hread.1 (not_not.2 hdigits))]
    rw [and_iff_right hdigits]
    by_cases hfits : Nat.ofDigitChars 10 digits 0 < 0x10000000000000000
    · rw [if_pos hfits, Option.some.injEq]
      exact ⟨fun heq => ⟨heq, heq ▸ hfits⟩, And.left⟩
    · rw [if_neg hfits]
      exact ⟨nofun, fun ⟨heq, hlt⟩ => absurd (heq ▸ hlt) hfits⟩
  · rw [if_pos (hread.2 hdigits)]
    exact ⟨nofun, fun h => absurd h.1 hdigits⟩

/-- **Exactly the words are read.** -/
theorem word?_eq_some_iff {s : List Char} {n : Nat} : word? s = some n ↔ Word s n := by
  constructor
  · intro h
    unfold word? at h
    split at h
    · rename_i digits
      obtain ⟨hne, hdigits, hvalue, hfits⟩ := ite_digits_eq_some_iff.1 h
      exact .mk ['+'] digits n (.inr rfl) hne hdigits hvalue hfits
    · obtain ⟨hne, hdigits, hvalue, hfits⟩ := ite_digits_eq_some_iff.1 h
      exact .mk [] s n (.inl rfl) hne hdigits hvalue hfits
  · rintro ⟨sign, digits, n, rfl | rfl, hne, hdigits, hvalue, hfits⟩
    · have hread := ite_digits_eq_some_iff.2 ⟨hne, hdigits, hvalue, hfits⟩
      -- A digit is no plus sign.
      obtain ⟨c, cs, rfl⟩ := List.exists_cons_of_ne_nil hne
      have hplus : c ≠ '+' := by
        rintro rfl
        exact absurd (hdigits '+' List.mem_cons_self).1 (by decide)
      rw [List.nil_append, word?]
      · exact hread
      · intro rest heq
        exact hplus (List.cons.inj heq).1
    · exact ite_digits_eq_some_iff.2 ⟨hne, hdigits, hvalue, hfits⟩

/-- A number in decimal is a word. -/
theorem word_toDigits {n : Nat} (hn : n < 2 ^ 64) : Word (Nat.toDigits 10 n) n := by
  show Word ([] ++ Nat.toDigits 10 n) n
  apply Word.mk [] (Nat.toDigits 10 n) n (.inl rfl) Nat.toDigits_ne_nil _ _ hn
  · intro c hc
    exact isDigit_iff.1 (Nat.isDigit_of_mem_toDigits (by decide) (by decide) hc)
  · rw [ofDigits_reverse, Nat.ofDigitChars_ten_toDigits]

/-- A word has no colon. -/
theorem Word.ne_colon {s : List Char} {n : Nat} (h : Word s n) : ∀ c ∈ s, c ≠ ':' := by
  obtain ⟨sign, digits, n, hsign, hne, hdigits, hvalue, hfits⟩ := h
  rintro c hc rfl
  rcases List.mem_append.1 hc with hc | hc
  · rcases hsign with rfl | rfl
    · exact absurd hc List.not_mem_nil
    · exact absurd hc (by decide)
  · exact absurd (hdigits ':' hc).2 (by decide)

end Text

/-! ### Codes -/

namespace AckStatus

/-- The code of a status. -/
def code : AckStatus → String
  | success => "0"
  | failed => "1"
  | unknownSchemaId => "2"
  | decodeError => "3"
  | invalidSource => "4"
  | duplicateSchemaId => "5"
  | unknown code => code

/-- **A status tells its code.** -/
@[simp] theorem code_ofCode (c : String) : (ofCode c).code = c := by
  rw [ofCode]
  split_ifs with h h h h h h
  exacts [h.symm, h.symm, h.symm, h.symm, h.symm, h.symm, rfl]

/-- A status tells its code: what is not known is kept as it was written. -/
theorem ofCode_injective : Function.Injective ofCode :=
  Function.LeftInverse.injective code_ofCode

end AckStatus

/-! ### Lines -/

namespace Ack

/-- The lines of the receiver, with the acknowledgements that they are.  A word has no colon, so
    the colon is the first of the line, and the code may have more. -/
inductive Written : List Char → Ack → Prop
  | bare {number : List Char} {n : Nat} (hnumber : Text.Word number n) :
    Written number ⟨n, .success⟩
  | coded {number code : List Char} {n : Nat} (hnumber : Text.Word number n) (hcode : code ≠ []) :
    Written (number ++ ':' :: code) ⟨n, .ofCode (String.ofList code)⟩

/-- Text up to its carriage returns is what stands before some number of them and does not end
    with one. -/
theorem trimReturns_eq_iff {s body : List Char} :
    trimReturns s = body ↔
      ∃ k, s = body ++ List.replicate k '\r' ∧ body.getLast? ≠ some '\r' := by
  show s.rdropWhile (· == '\r') = body ↔ _
  constructor
  · rintro rfl
    refine ⟨(s.rtakeWhile (· == '\r')).length, ?_, ?_⟩
    · have hreturns : s.rtakeWhile (· == '\r') =
          List.replicate (s.rtakeWhile (· == '\r')).length '\r' :=
        List.eq_replicate_iff.2 ⟨rfl, fun c hc => by simpa using List.mem_rtakeWhile_imp hc⟩
      rw [← hreturns, List.rdropWhile_append_rtakeWhile]
    · intro hlast
      have hne : s.rdropWhile (· == '\r') ≠ [] := by
        intro hnil
        rw [hnil] at hlast
        cases hlast
      rw [List.getLast?_eq_some_getLast hne, Option.some.injEq] at hlast
      exact List.rdropWhile_last_not _ _ hne (beq_iff_eq.2 hlast)
  · rintro ⟨k, rfl, hlast⟩
    -- They come off one by one, and the body stays.
    induction k with
    | zero =>
      rw [List.replicate_zero, List.append_nil, List.rdropWhile_eq_self_iff]
      intro hne hreturn
      exact hlast (by rw [List.getLast?_eq_some_getLast hne, beq_iff_eq.1 hreturn])
    | succ k ih =>
      rw [List.replicate_succ', ← List.append_assoc, List.rdropWhile_concat_pos _ _ _ (by simp), ih]

/-- Both parts of a line are read, the number and the status. -/
theorem parse?_eq_some_iff_parts {line : String} {n : Nat} {status : AckStatus} :
    parse? line = some ⟨n, status⟩ ↔
      readStatus? ((trimReturns line.toList).dropWhile (· != ':')) = some status ∧
        Text.word? ((trimReturns line.toList).takeWhile (· != ':')) = some n := by
  simp only [parse?]
  split
  · rename_i status' n' hstatus hnumber
    rw [hstatus, hnumber, Option.some.injEq, Option.some.injEq, Option.some.injEq, Ack.mk.injEq,
      and_comm]
  · rename_i hnone
    refine ⟨nofun, fun ⟨hstatus, hnumber⟩ => ?_⟩
    exact absurd hnumber (hnone status n hstatus)

/-- **What can be read is what can be written.** -/
theorem parts_iff_written {body : List Char} {n : Nat} {status : AckStatus} :
    (readStatus? (body.dropWhile (· != ':')) = some status ∧
      Text.word? (body.takeWhile (· != ':')) = some n) ↔ Written body ⟨n, status⟩ := by
  rw [Text.word?_eq_some_iff]
  constructor
  · rintro ⟨hstatus, hnumber⟩
    rw [← List.takeWhile_append_dropWhile (p := (· != ':')) (l := body)]
    cases hrest : body.dropWhile (· != ':') with
    | nil =>
      rw [hrest, readStatus?, Option.some.injEq] at hstatus
      rw [List.append_nil, ← hstatus]
      exact .bare hnumber
    | cons c code =>
      -- Only a colon stops the number.
      have hc : c = ':' := by
        have hhead := List.head?_dropWhile_not (· != ':') body
        rw [hrest] at hhead
        simpa using hhead
      rw [hrest] at hstatus
      cases code with
      | nil => cases hstatus
      | cons d code =>
        obtain rfl : AckStatus.ofCode (String.ofList (d :: code)) = status :=
          Option.some.inj hstatus
        rw [hc]
        exact .coded hnumber (List.cons_ne_nil d code)
  · rintro (hnumber | ⟨hnumber, hcode⟩)
    · have hpass : ∀ c ∈ body, (c != ':') = true := fun c hc => bne_iff_ne.2 (hnumber.ne_colon c hc)
      rw [List.takeWhile_eq_self_iff.2 hpass, List.dropWhile_eq_nil_iff.2 hpass]
      exact ⟨rfl, hnumber⟩
    · rename_i number code
      have hpass : ∀ c ∈ number, (c != ':') = true :=
        fun c hc => bne_iff_ne.2 (hnumber.ne_colon c hc)
      rw [List.takeWhile_append_of_pos hpass, List.dropWhile_append_of_pos hpass]
      obtain ⟨d, code, rfl⟩ := List.exists_cons_of_ne_nil hcode
      exact ⟨rfl, by simpa using hnumber⟩

/-- **Exactly the lines that can be written are read,** with any number of carriage returns after
    them. -/
theorem parse?_eq_some_iff {line : String} {a : Ack} :
    parse? line = some a ↔ ∃ body k, line.toList = body ++ List.replicate k '\r' ∧
      body.getLast? ≠ some '\r' ∧ Written body a := by
  obtain ⟨n, status⟩ := a
  rw [parse?_eq_some_iff_parts, parts_iff_written]
  constructor
  · intro h
    obtain ⟨k, hline, hlast⟩ := trimReturns_eq_iff.1 (rfl : trimReturns line.toList = _)
    exact ⟨trimReturns line.toList, k, hline, hlast, h⟩
  · rintro ⟨body, k, hline, hlast, h⟩
    rwa [trimReturns_eq_iff.2 ⟨k, hline, hlast⟩]

/-- The lines with a code, as the receiver writes them. -/
theorem parse?_coded (n : UInt64) {code : String} (hcode : code ≠ "")
    (hlast : code.toList.getLast? ≠ some '\r') :
    parse? (toString n.toNat ++ ":" ++ code) = some ⟨n.toNat, .ofCode code⟩ := by
  have hne : code.toList ≠ [] := by simpa using hcode
  have hline : (toString n.toNat ++ ":" ++ code).toList =
      Nat.toDigits 10 n.toNat ++ ':' :: code.toList := by
    rw [String.toList_append, String.toList_append, Nat.toString_eq_ofList_toDigits]
    simp
  have hwritten := Written.coded (Text.word_toDigits n.toNat_lt) hne
  rw [String.ofList_toList] at hwritten
  apply parse?_eq_some_iff.2 ⟨_, 0, ?_, ?_, hwritten⟩
  · rw [hline, List.replicate_zero, List.append_nil]
  · rwa [List.getLast?_append_of_ne_nil _ (List.cons_ne_nil _ _), List.getLast?_cons_of_ne_nil hne]

/-- **Lines that are acknowledgements.** A line is one if, up to the carriage returns at its end, it
    is a number, or a number, a colon and a code that is not empty; the number is in decimal, fits
    64 bits, and may have a plus sign and any zeros before it.  The acknowledgement has this number,
    and the status of everything that follows the first colon, or success.

    So an acknowledgement written as its number, a colon and a code is read back if the code does
    not end with a carriage return, and then no two codes are confused. -/
theorem parse?_written :
    (∀ line a, parse? line = some a ↔ ∃ body k, line.toList = body ++ List.replicate k '\r' ∧
      body.getLast? ≠ some '\r' ∧ Written body a) ∧
    (∀ (n : UInt64) (code : String), code ≠ "" → code.toList.getLast? ≠ some '\r' →
      parse? (toString n.toNat ++ ":" ++ code) = some ⟨n.toNat, .ofCode code⟩) ∧
    Function.Injective AckStatus.ofCode :=
  ⟨fun _ _ => parse?_eq_some_iff, fun n _ => parse?_coded n, AckStatus.ofCode_injective⟩

/-- The largest number, with a code that begins with a carriage return and has a colon. -/
theorem parse?_written_largest :
    parse? (toString (18446744073709551615 : UInt64).toNat ++ ":" ++ "\r:") =
      some ⟨18446744073709551615, .unknown "\r:"⟩ := by
  exact parse?_written.2.1 18446744073709551615 "\r:" (by decide) (by decide)

end Ack

end Telemetry
