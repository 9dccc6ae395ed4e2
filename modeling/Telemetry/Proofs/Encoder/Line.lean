import Telemetry.Encoder
import Telemetry.Proofs.Encoder.Cell
import Telemetry.Proofs.Schema.History

namespace Telemetry

/-!
# Lines read back

A line in brackets is one JSON array.  Reading it gives back the schema id, the shape of the
record, and what each cell stands for, column by column.

* `Descriptor.document`, `Descriptor.reads_chars` — what a descriptor stands for.
* `Encoder.reads_lineChars` — a line is read part by part.
* `Encoder.schema_descriptor` — after any calls the registry answers with the descriptor of
  the record at hand.
* `Encoder.ofText?_encode` — a line in brackets is accepted, and columns stay aligned.
-/

open Json (Document Reads)
open Text (Printable)

/-! ### Words -/

/-- A number of 64 bits as a document. -/
def Json.Document.word (n : Nat) : Document := .number (.ofUInt64 (.ofNat n))

/-- Unsigned words are read back, as integers. -/
theorem Json.reads_word (depth : Nat) {n : Nat} (hn : n < 0x10000000000000000) :
    Reads depth (Nat.toDigits 10 n) (.word n) := by
  have hword : (UInt64.ofNat n).toNat = n := UInt64.toNat_ofNat_of_lt hn
  have hread : Reads depth (Nat.toDigits 10 (UInt64.ofNat n).toNat) (.word n) :=
    reads_nat depth (UInt64.ofNat n).toNat_lt
  rwa [hword] at hread

/-! ### Descriptors -/

namespace Descriptor

/-- What a descriptor stands for: the position of the time column, if there is one, and a pair
    of name and type for each field. -/
def document (r : Record) (timeIndex : Option Nat) : Document :=
  .array (timeIndex.toList.map .word ++
    r.fields.map fun f => .array [.text f.1, .text (WireType.of f.2).name])

/-- No name of a type needs an escape. -/
theorem quoteChars_name (type : WireType) :
    Json.quoteChars type.name.toList = '"' :: (type.name.toList ++ ['"']) := by
  cases type <;> decide

/-- The pair of a field is its name and its type, whatever the name. -/
theorem reads_fieldChars (depth : Nat) (name : String) (type : WireType) :
    Reads (depth + 1) (fieldChars name type) (.array [.text name, .text type.name]) := by
  have hpair := (Json.reads_text depth name).pair (Json.reads_text depth type.name)
  rw [quoteChars_name] at hpair
  simpa [fieldChars] using hpair

/-- **A descriptor is read as the shape.** -/
theorem reads_chars (depth : Nat) (r : Record) {timeIndex : Option Nat}
    (hindex : ∀ i ∈ timeIndex, i < 0x10000000000000000) :
    Reads (depth + 2) (chars r timeIndex) (document r timeIndex) := by
  -- Every piece of the array, with what it is read as.
  let pieces : List (List Char × Document) :=
    timeIndex.toList.map (fun i => (Nat.toDigits 10 i, .word i)) ++
      r.fields.map fun f => (fieldChars f.1 (WireType.of f.2),
        .array [.text f.1, .text (WireType.of f.2).name])
  have hpieces : ∀ p ∈ pieces, Reads (depth + 1) p.1 p.2 := by
    intro p hp
    rcases List.mem_append.1 hp with hp | hp
    · obtain ⟨i, hi, rfl⟩ := List.mem_map.1 hp
      exact Json.reads_word _ (hindex i (Option.mem_toList.1 hi))
    · obtain ⟨f, -, rfl⟩ := List.mem_map.1 hp
      exact reads_fieldChars depth f.1 _
  have hparts : parts r timeIndex = pieces.map Prod.fst := by
    cases timeIndex <;> simp [parts, pieces]
  have hdocument : document r timeIndex = .array (pieces.map Prod.snd) := by
    simp [document, pieces, Function.comp_def]
  rw [chars, hparts, hdocument]
  exact Reads.array hpieces

/-- A descriptor has no control characters: its names are quoted. -/
theorem printable_chars (r : Record) (timeIndex : Option Nat) : Printable (chars r timeIndex) := by
  have hparts : ∀ s ∈ parts r timeIndex, Printable s := by
    intro s hs
    rcases List.mem_append.1 hs with hs | hs
    · cases timeIndex with
      | none => exact absurd hs (by simp)
      | some i =>
        rw [List.mem_singleton.1 hs]
        exact Text.printable_toDigits i
    · obtain ⟨f, -, rfl⟩ := List.mem_map.1 hs
      have hpair := (Text.printable_quoteChars f.1.toList).pair
        (Text.printable_quoteChars (WireType.of f.2).name.toList)
      rw [quoteChars_name] at hpair
      simpa [fieldChars] using hpair
  exact (Printable.intercalate hparts).brackets

end Descriptor

/-! ### Lines -/

namespace Encoder

/-- A line in brackets is the array of its three parts. -/
theorem reads_lineChars {entry : SchemaEntry} {depth : Nat} {descriptor : Document}
    {cells : List (List Char × Document)} (hid : entry.id < 0x10000000000000000)
    (hdescriptor : Reads (depth + 2) entry.descriptor.toList descriptor)
    (hcells : ∀ p ∈ cells, Reads (depth + 1) p.1 p.2) :
    Reads (depth + 3) ('[' :: (lineChars entry (cells.map Prod.fst) ++ [']']))
      (.array [.word entry.id, descriptor, .array (cells.map Prod.snd)]) := by
  have hparts : ∀ p ∈ [(Nat.toDigits 10 entry.id, Document.word entry.id),
      (entry.descriptor.toList, descriptor),
      ('[' :: ([','].intercalate (cells.map Prod.fst) ++ [']']), .array (cells.map Prod.snd))],
      Reads (depth + 2) p.1 p.2 := by
    intro p hp
    simp only [List.mem_cons, List.not_mem_nil, or_false] at hp
    rcases hp with rfl | rfl | rfl
    · exact Json.reads_word _ hid
    · exact hdescriptor
    · exact Reads.array hcells
  simpa [lineChars, List.intercalate] using Reads.array hparts

/-- A line has none if its descriptor and its cells have none. -/
theorem printable_lineChars {entry : SchemaEntry} {cells : List (List Char)}
    (hdescriptor : Printable entry.descriptor.toList) (hcells : ∀ s ∈ cells, Printable s) :
    Printable (lineChars entry cells) := by
  have harray : Printable (',' :: '[' :: ([','].intercalate cells ++ [']'])) :=
    (Printable.intercalate hcells).brackets.cons (by decide)
  exact (Text.printable_toDigits _).append ((hdescriptor.append harray).cons (by decide))

/-- The time column is one of the fields. -/
theorem timeIndex_lt {e : Encoder} {r : Record} {i : Nat} (hi : i ∈ e.timeIndex r) :
    i < r.size := by
  unfold timeIndex at hi
  split at hi
  · rename_i hlast
    have hpos : 0 < r.fields.length := by
      rw [List.length_pos_iff]
      rintro hnil
      rw [hnil] at hlast
      exact absurd hlast (by simp)
    split at hi
    · rw [← Option.some.inj hi, Record.size]
      omega
    · exact absurd hi (by simp)
  · exact absurd hi (by simp)

/-- Whatever calls came before, the entry of a record has its own descriptor. -/
theorem schema_descriptor (calls : List SchemaCall) (r : Record) (timeIndex : Option Nat) :
    ((Registry.empty.run calls).2.schema r timeIndex).1.descriptor =
      Descriptor.text r timeIndex := by
  have hentry := ((Registry.tracks_run calls).2.schema ⟨r, timeIndex⟩).1
  simp only at hentry
  rw [hentry]
  rfl

/-- **A line in brackets is one array of three:** the schema id, the descriptor with the exact
    names and types of the fields after the position of the time column, and one element for
    each value in field order, which is what its cell stands for.  So it is for every encoder,
    after any calls on its registry, and for every record, as long as id and size are words of
    64 bits.  No byte of the line is below 0x20. -/
theorem ofText?_encode (e : Encoder) (calls : List SchemaCall) (r : Record)
    (hid : ((Registry.empty.run calls).2.schema r (e.timeIndex r)).1.id < 0x10000000000000000)
    (hsize : r.size ≤ 0x10000000000000000) :
    let g := (Registry.empty.run calls).2
    let line := (e.encode g r).1
    Document.ofText? ("[" ++ line ++ "]").toList = some (.array
        [.word (g.schema r (e.timeIndex r)).1.id,
          Descriptor.document r (e.timeIndex r),
          .array (r.values.map (Value.cellDocument e.mapsAsJson))]) ∧
      ∀ b ∈ Utf8.encode line, 0x20 ≤ b.toNat := by
  intro g line
  have hdescriptor := schema_descriptor calls r (e.timeIndex r)
  have hline : line = String.ofList (lineChars (g.schema r (e.timeIndex r)).1
      (r.values.map (·.cellChars e.mapsAsJson))) := rfl
  constructor
  · -- The reader nests up to 127 deep, and a line takes three levels.
    have hread : Reads (124 + 2) (g.schema r (e.timeIndex r)).1.descriptor.toList
        (Descriptor.document r (e.timeIndex r)) := by
      rw [hdescriptor, Descriptor.text, String.toList_ofList]
      refine Descriptor.reads_chars 124 r ?_
      intro i hi
      exact Nat.lt_of_lt_of_le (timeIndex_lt hi) hsize
    -- Each cell is an element of the array of cells, one level further in.
    have hcells : ∀ p ∈ r.values.map fun v =>
        (v.cellChars e.mapsAsJson, v.cellDocument e.mapsAsJson), Reads (124 + 1) p.1 p.2 := by
      intro p hp
      obtain ⟨v, -, rfl⟩ := List.mem_map.1 hp
      exact Value.reads_cellChars 124 e.mapsAsJson v
    have hwhole := (reads_lineChars hid hread hcells).ofText?
    simp only [List.map_map, Function.comp_def] at hwhole
    rw [hline]
    simpa using hwhole
  · intro b hb
    rw [hline] at hb
    refine Text.le_of_mem_encode (printable_lineChars ?_ ?_) hb
    · rw [hdescriptor, Descriptor.text, String.toList_ofList]
      exact Descriptor.printable_chars r _
    · intro s hs
      obtain ⟨v, -, rfl⟩ := List.mem_map.1 hs
      exact v.printable_cellChars e.mapsAsJson

/-- A name with a quote, a bracket as a text, an absent value, and a time column. -/
theorem ofText?_encode_stamped :
    let e : Encoder := ⟨some "at", true, recordSizeCeiling, false, .empty⟩
    let r : Record := ⟨[("a\",", .text "]"), ("", .null), ("at", .time .epoch)], by decide⟩
    (Registry.empty.schema r (e.timeIndex r)).1.id < 0x10000000000000000 ∧
      r.size ≤ 0x10000000000000000 ∧
      Document.ofText? ("[" ++ (e.encode .empty r).1 ++ "]").toList = some (.array
        [.word 1,
          .array [.word 2, .array [.text "a\",", .text "FT_STRING"],
            .array [.text "", .text "FT_STRING"], .array [.text "at", .text "FT_TIME"]],
          .array [.text "]", .text "null", Value.timeDocument .epoch]]) := by
  intro e r
  have hid : (Registry.empty.schema r (e.timeIndex r)).1.id < 0x10000000000000000 := by decide
  have hsize : r.size ≤ 0x10000000000000000 := by decide
  exact ⟨hid, hsize, (ofText?_encode e [] r hid hsize).1⟩

end Encoder

end Telemetry
