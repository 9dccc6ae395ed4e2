import Telemetry.Proofs.Json.Quoted
import Telemetry.Proofs.Text.Delimited
import Telemetry.Text.Utf8

namespace Telemetry.Text

/-!
# Printable texts

A text without control characters below 0x20 has no byte below 0x20, so that a line feed
after it is the first one.

* `Printable` — no character below 0x20; kept by joining texts.
* `le_of_mem_encode` — no byte below 0x20.
-/

/-- No character below 0x20. -/
def Printable (s : List Char) : Prop := ∀ c ∈ s, 0x20 ≤ c.toNat

/-- A text of which each character can be looked at. -/
theorem printable_of_all {s : List Char} (h : (s.all fun c => decide (0x20 ≤ c.toNat)) = true) :
    Printable s := by
  intro c hc
  exact of_decide_eq_true (List.all_eq_true.1 h c hc)

namespace Printable

theorem nil : Printable [] := by
  intro c hc
  exact absurd hc List.not_mem_nil

theorem cons {c : Char} {s : List Char} (hc : 0x20 ≤ c.toNat) (hs : Printable s) :
    Printable (c :: s) := by
  intro d hd
  rcases List.mem_cons.1 hd with rfl | hd
  · exact hc
  · exact hs d hd

theorem append {s t : List Char} (hs : Printable s) (ht : Printable t) : Printable (s ++ t) := by
  intro c hc
  rcases List.mem_append.1 hc with hc | hc
  · exact hs c hc
  · exact ht c hc

/-- A printable text in brackets. -/
theorem brackets {s : List Char} (hs : Printable s) : Printable ('[' :: (s ++ [']'])) := by
  have hend : Printable [']'] := nil.cons (by decide)
  exact (hs.append hend).cons (by decide)

/-- Printable texts with commas between them. -/
theorem intercalate {ss : List (List Char)} (h : ∀ s ∈ ss, Printable s) :
    Printable ([','].intercalate ss) := by
  induction ss with
  | nil => exact nil
  | cons s ss ih =>
    have hs := h s (by simp)
    cases ss with
    | nil => simpa using hs
    | cons t ts =>
      have htail := ih fun u hu => h u (by simp [hu])
      rw [List.intercalate_cons_cons, List.append_assoc]
      exact hs.append ((nil.cons (c := ',') (by decide)).append htail)

end Printable

theorem printable_of_isDigit {s : List Char} (h : ∀ c ∈ s, c.isDigit = true) : Printable s := by
  intro c hc
  have hlow := (Char.isDigit_iff_toNat.1 (h c hc)).1
  have hzero : '0'.toNat = 48 := rfl
  omega

theorem printable_toDigits (n : Nat) : Printable (Nat.toDigits 10 n) :=
  printable_of_isDigit fun _ => isDigit_of_mem_toDigits

/-- Quoted texts are printable, whatever is quoted. -/
theorem printable_quoteChars (s : List Char) : Printable (Json.quoteChars s) :=
  fun _ => Json.le_of_mem_quoteChars

/-! ### Bytes -/

/-- A character that is not below 0x20 has no such byte. -/
theorem le_of_mem_utf8EncodeChar {c : Char} (hc : 0x20 ≤ c.toNat) {b : UInt8}
    (hb : b ∈ String.utf8EncodeChar c) : 0x20 ≤ b.toNat := by
  have hval : c.val.toNat = c.toNat := rfl
  unfold String.utf8EncodeChar at hb
  simp only [hval] at hb
  -- A character of one byte is its byte; the bytes of any other one are 0x80 and above.
  split at hb
  · rw [List.mem_singleton.1 hb, UInt8.toNat_ofNat']
    omega
  · split at hb
    · simp only [List.mem_cons, List.not_mem_nil, or_false] at hb
      rcases hb with rfl | rfl <;> rw [UInt8.toNat_ofNat'] <;> omega
    · split at hb
      · simp only [List.mem_cons, List.not_mem_nil, or_false] at hb
        rcases hb with rfl | rfl | rfl <;> rw [UInt8.toNat_ofNat'] <;> omega
      · simp only [List.mem_cons, List.not_mem_nil, or_false] at hb
        rcases hb with rfl | rfl | rfl | rfl <;> rw [UInt8.toNat_ofNat'] <;> omega

/-- **No byte below 0x20** stands in a printable text. -/
theorem le_of_mem_encode {s : List Char} (hs : Printable s) {b : UInt8}
    (hb : b ∈ Utf8.encode (String.ofList s)) : 0x20 ≤ b.toNat := by
  rw [Utf8.encode_ofList, List.mem_flatMap] at hb
  obtain ⟨c, hc, hb⟩ := hb
  exact le_of_mem_utf8EncodeChar (hs c hc) hb

end Telemetry.Text
