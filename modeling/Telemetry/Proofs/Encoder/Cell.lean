import Telemetry.Encoder.Cell
import Telemetry.Proofs.Double.Reading
import Telemetry.Proofs.Text.Printable
import Telemetry.Proofs.Value.Compact

namespace Telemetry

/-!
# Cells read back

A cell is a JSON text of its own, so that a line keeps its columns apart whatever the values
contain.

* `Value.cellDocument` — what a cell stands for.
* `Value.reads_cellChars` — a cell is read as that document.
* `Value.printable_cellChars` — no control character stands in a cell.
* `Value.ofText?_cell_map` — a map that travels as JSON text is read as a text, and this text
  as the document of the map.
-/

open Json (Document Number Numeral Reads)
open Text (Printable)

/-! ### Numerals -/

namespace Json.Numeral

/-- A numeral is made of digits, signs, a point and an exponent mark. -/
theorem printable_chars {n : Numeral} (hn : n.WellFormed) : Printable n.chars := by
  have hsign : Printable (if n.negative then ['-'] else []) := by
    cases n.negative with
    | true => exact Printable.nil.cons (c := '-') (by decide)
    | false => exact Printable.nil
  have hwhole := Text.printable_of_isDigit hn.whole_digits
  have hfraction : Printable (fractionChars n.fraction) := by
    have hdigits := Text.printable_of_isDigit hn.fraction_digits
    cases hds : n.fraction with
    | nil => exact Printable.nil
    | cons d ds =>
      rw [hds] at hdigits
      exact hdigits.cons (c := '.') (by decide)
  have hexponent : Printable (exponentChars n.exponent) := by
    cases hexp : n.exponent with
    | none => exact Printable.nil
    | some p =>
      obtain ⟨negative, ds⟩ := p
      have hdigits := Text.printable_of_isDigit (hn.exponent_digits _ hexp)
      cases negative with
      | true => exact (hdigits.cons (c := '-') (by decide)).cons (c := 'e') (by decide)
      | false => exact (hdigits.cons (c := '+') (by decide)).cons (c := 'e') (by decide)
  exact hsign.append (hwhole.append (hfraction.append hexponent))

theorem printable_toString_int (n : Int) : Printable (toString n).toList := by
  rw [toList_toString_int]
  exact printable_chars (wellFormed_ofInt n)

end Json.Numeral

/-- The text of a double is a numeral or null. -/
theorem Double.printable_chars (x : Double) : Printable x.chars := by
  unfold chars
  split
  · rw [finiteChars_eq]
    exact Numeral.printable_chars (wellFormed_numeral x)
  · exact Text.printable_of_all (by decide)

/-! ### Arrays of two -/

/-- Two pieces with a comma between them and brackets around. -/
theorem Json.Reads.pair {depth : Nat} {s t : List Char} {d e : Document} (hs : Reads depth s d)
    (ht : Reads depth t e) :
    Reads (depth + 1) ('[' :: (s ++ ',' :: (t ++ [']']))) (.array [d, e]) := by
  have hpieces : ∀ p ∈ [(s, d), (t, e)], Reads depth p.1 p.2 := by
    intro p hp
    simp only [List.mem_cons, List.not_mem_nil, or_false] at hp
    rcases hp with rfl | rfl
    · exact hs
    · exact ht
  simpa [List.intercalate] using Reads.array hpieces

theorem Text.Printable.pair {s t : List Char} (hs : Printable s) (ht : Printable t) :
    Printable ('[' :: (s ++ ',' :: (t ++ [']']))) := by
  have hrest : Printable (',' :: t) := ht.cons (by decide)
  simpa using (hs.append hrest).brackets

namespace Value

/-! ### The cells -/

/-- **What a cell stands for.** Texts and booleans are themselves, and so are integers; an
    absent value is the text `null`; bytes are their base64 text; an instant is its seconds and
    nanoseconds; arrays and maps are their stringified form as a text, or a map its JSON text. -/
def cellDocument (mapsAsJson : Bool) : Value → Document
  | null => .text "null"
  | bool b => .bool b
  | int n => .number (.ofInt64 n)
  | uint n => .number (.ofUInt64 n)
  | float x => x.readBack
  | time t => timeDocument t
  | text s => .text s
  | bytes b => .text (Base64.encode b)
  | array items => .text (array items).display
  | map entries =>
    .text (if mapsAsJson then (map entries).toDocument.toText else (map entries).display)

/-- **A cell is read as what it stands for.** -/
theorem reads_cellChars (depth : Nat) (mapsAsJson : Bool) (v : Value) :
    Reads (depth + 1) (v.cellChars mapsAsJson) (v.cellDocument mapsAsJson) := by
  cases v with
  | null => exact Json.reads_text _ "null"
  | bool b => exact Json.reads_bool _ b
  | int n => exact Json.reads_int _ _
  | uint n =>
    rw [cellChars, Nat.toString_eq_ofList_toDigits, String.toList_ofList]
    exact Json.reads_nat _ (by have := n.toNat_lt; omega)
  | float x => exact x.reads_chars _
  | time t =>
    have hnanos : Reads depth (toString t.nanos).toList
        (.number (.integer t.nanos (by have := t.nanos_lt; omega))) := by
      rw [Nat.toString_eq_ofList_toDigits, String.toList_ofList]
      exact Json.reads_nat _ (by have := t.nanos_lt; omega)
    exact Json.Reads.pair (Json.reads_int _ _) hnanos
  | text s => exact Json.reads_text _ s
  -- What follows is written as one quoted text, whatever is inside.
  | bytes b =>
    have hread := Json.reads_text (depth + 1) (Base64.encode b)
    rwa [Base64.encode, String.toList_ofList] at hread
  | array items =>
    have hread := Json.reads_text (depth + 1) (array items).display
    rwa [display, String.toList_ofList] at hread
  | map entries =>
    have hread := Json.reads_text (depth + 1)
      (if mapsAsJson then (map entries).toDocument.toText else (map entries).display)
    cases mapsAsJson with
    | true =>
      rw [if_pos rfl, Document.toText, String.toList_ofList] at hread
      exact hread
    | false =>
      rw [if_neg (by decide), display, String.toList_ofList] at hread
      exact hread

theorem printable_boolChars (b : Bool) : Printable (boolChars b) := by
  cases b with
  | true => exact Text.printable_of_all (by decide)
  | false => exact Text.printable_of_all (by decide)

/-- No control character stands in a cell. -/
theorem printable_cellChars (mapsAsJson : Bool) (v : Value) :
    Printable (v.cellChars mapsAsJson) := by
  cases v with
  | null => exact Text.printable_quoteChars _
  | bool b => exact printable_boolChars b
  | int n => exact Numeral.printable_toString_int _
  | uint n =>
    rw [cellChars, Nat.toString_eq_ofList_toDigits, String.toList_ofList]
    exact Text.printable_toDigits _
  | float x => exact x.printable_chars
  | time t =>
    have hnanos : Printable (toString t.nanos).toList := by
      rw [Nat.toString_eq_ofList_toDigits, String.toList_ofList]
      exact Text.printable_toDigits _
    exact (Numeral.printable_toString_int _).pair hnanos
  | text s => exact Text.printable_quoteChars _
  | bytes b => exact Text.printable_quoteChars _
  | array items => exact Text.printable_quoteChars _
  | map entries => exact Text.printable_quoteChars _

/-! ### Maps as JSON text -/

/-- **A map is read twice.** Where maps travel as JSON text, the cell of a map without doubles
    is read as one text, and this text is read as exactly the document of the map, whatever
    stands in its texts, keys and nested maps; only a document that nests deeper than the reader
    does is refused. -/
theorem ofText?_cell_map {entries : List (Value × Value)} (h : Floatless (map entries)) :
    ∃ s : String, Document.ofText? ((map entries).cell true).toList = some (.text s) ∧
      Document.ofText? s.toList =
        if (map entries).toDocument.depth ≤ Json.nestingLimit
        then some (map entries).toDocument else none := by
  have hcell := (reads_cellChars 126 true (map entries)).ofText?
  refine ⟨(map entries).toDocument.toText, ?_, h.ofText?_toText⟩
  rw [cell, String.toList_ofList, hcell, cellDocument, if_pos rfl]

/-- Keys that are no texts, a name twice, and quotes, a backslash and a line feed inside. -/
theorem ofText?_cell_map_nested :
    let m := map [(text "a\"\\", text "\n\""), (array [null], map [(float ⟨0⟩, int (-1)),
      (text "0.0", array [bytes [0xff], time .epoch])])]
    Floatless m ∧ ∃ s : String, Document.ofText? (m.cell true).toList = some (.text s) ∧
      Document.ofText? s.toList = some (.object [("a\"\\", .text "\n\""),
        ("[null]", .object [("0.0", .array [.text "/w==", timeDocument .epoch])])]) := by
  intro m
  have h : Floatless m := by
    refine .map ?_
    simp [Floatless.text, Floatless.map, Floatless.int, Floatless.array, Floatless.bytes,
      Floatless.time]
  obtain ⟨s, hs, hread⟩ := ofText?_cell_map h
  rw [if_pos (by decide)] at hread
  exact ⟨h, s, hs, hread.trans rfl⟩

end Value

end Telemetry
