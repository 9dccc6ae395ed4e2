import Mathlib.Data.Set.Function
import Telemetry.Encoder
import Telemetry.Proofs.Schema.History

namespace Telemetry

/-!
# Encoders that share a registry

A registry decides no more than the id at the head of a line.  What follows the id depends on
the record and its encoder alone, whatever other calls there are.

* `EncodeCall`, `Registry.encodeAll` — a record with the encoder of its choice, and calls one
  after the other on one registry.
* `Registry.encodeAll_empty` — the line of a call has its entry among all calls.
* `Encoder.Carries` — the entry whose id and descriptor stand in a line; there is only one.
* `Signature.bijOn_ordinal`, `exists_bijOn_ordinal` — ordinals number the signatures seen, so
  two histories of the same signatures differ by a bijection.
* `Registry.encodeAll_perm` — lines repeat, ids and descriptors tell lines apart alike, and
  another order of the calls renames the ids and nothing else.
-/

/-! ### Signatures seen in two orders -/

namespace Signature

/-- Signatures that were seen are told apart by their ordinals. -/
theorem ordinal_inj {seen : List Signature} {s t : Signature} (hs : s ∈ seen) (ht : t ∈ seen)
    (h : ordinal seen s = ordinal seen t) : s = t := by
  rcases Nat.lt_trichotomy (seen.idxOf s) (seen.idxOf t) with hlt | heq | hgt
  · exact absurd h (Nat.ne_of_lt (ordinal_lt_ordinal ht hlt))
  · exact (List.idxOf_inj hs).1 heq
  · exact absurd h.symm (Nat.ne_of_lt (ordinal_lt_ordinal hs hgt))

/-- **Ordinals number the signatures seen** from 1 without gaps. -/
theorem bijOn_ordinal (seen : List Signature) :
    Set.BijOn (ordinal seen) {s | s ∈ seen} (Set.Icc 1 seen.toFinset.card) := by
  refine ⟨fun s hs => ?_, fun s hs t ht => ordinal_inj hs ht, fun n hn => ?_⟩
  · exact (exists_ordinal_eq_iff seen _).1 ⟨s, hs, rfl⟩
  · exact (exists_ordinal_eq_iff seen n).2 hn

/-- Two histories of the same signatures number them alike up to a bijection. -/
theorem exists_bijOn_ordinal {seen seen' : List Signature} (h : ∀ s, s ∈ seen ↔ s ∈ seen') :
    ∃ σ : Nat → Nat, Set.BijOn σ (ordinal seen '' {s | s ∈ seen})
        (ordinal seen' '' {s | s ∈ seen'}) ∧
      ∀ s ∈ seen, σ (ordinal seen s) = ordinal seen' s := by
  -- Back from the number in the first history to the signature, and on to the second.
  have : Nonempty Signature := ⟨⟨""⟩⟩
  have hfirst := bijOn_ordinal seen
  have hsecond := bijOn_ordinal seen'
  rw [hfirst.image_eq, hsecond.image_eq]
  have hsame : {s | s ∈ seen} = {s | s ∈ seen'} := Set.ext h
  have hinv := Set.BijOn.invOn_invFunOn hfirst
  have hback := Set.BijOn.symm hinv.symm hfirst
  rw [← hsame] at hsecond
  refine ⟨ordinal seen' ∘ Function.invFunOn (ordinal seen) {s | s ∈ seen},
    Set.BijOn.comp hsecond hback, fun s hs => ?_⟩
  rw [Function.comp_apply, hinv.1 hs]

end Signature

/-! ### Calls -/

/-- A record, and the encoder that encodes it. -/
structure EncodeCall where
  encoder : Encoder
  record : Record

namespace EncodeCall

/-- What the call asks the registry for. -/
def schemaCall (c : EncodeCall) : SchemaCall := ⟨c.record, c.encoder.timeIndex c.record⟩

/-- The line of the call if the registry answers with the entry. -/
def lineWith (c : EncodeCall) (entry : SchemaEntry) : String :=
  String.ofList (Encoder.lineChars entry
    (c.record.values.map (·.cellChars c.encoder.mapsAsJson)))

end EncodeCall

namespace Registry

/-- The lines of calls one after the other, and the registry after them. -/
def encodeAll (g : Registry) : List EncodeCall → List String × Registry
  | [] => ([], g)
  | c :: cs =>
    let (line, g) := c.encoder.encode g c.record
    let (lines, g) := g.encodeAll cs
    (line :: lines, g)

/-- Encoding asks the registry for one schema per call and nothing else. -/
theorem encodeAll_eq (g : Registry) (calls : List EncodeCall) :
    g.encodeAll calls =
      (List.zipWith EncodeCall.lineWith calls (g.run (calls.map (·.schemaCall))).1,
        (g.run (calls.map (·.schemaCall))).2) := by
  induction calls generalizing g with
  | nil => rfl
  | cons c calls ih =>
    simp only [encodeAll, ih, List.map_cons, run, List.zipWith_cons_cons]
    rfl

/-- The entry of a call among all calls. -/
def entryIn (calls : List EncodeCall) (c : EncodeCall) : SchemaEntry :=
  entryOf (calls.map (·.schemaCall)) c.schemaCall

/-- **The lines of a run.** Each call's line has its entry among all calls of the run, those
    after it included. -/
theorem encodeAll_empty (calls : List EncodeCall) :
    (Registry.empty.encodeAll calls).1 = calls.map fun c => c.lineWith (entryIn calls c) := by
  rw [encodeAll_eq, (tracks_run _).1, List.map_map, List.zipWith_map_right, List.zipWith_self]
  rfl

/-- The signatures that calls ask for. -/
def signatures (calls : List EncodeCall) : List Signature := calls.map (·.schemaCall.signature)

theorem mem_signatures {calls : List EncodeCall} {c : EncodeCall} (hc : c ∈ calls) :
    c.schemaCall.signature ∈ signatures calls :=
  List.mem_map.2 ⟨c, hc, rfl⟩

/-- The id of a call is the ordinal of its signature. -/
theorem id_entryIn (calls : List EncodeCall) (c : EncodeCall) :
    (entryIn calls c).id = Signature.ordinal (signatures calls) c.schemaCall.signature := by
  rw [entryIn, entryOf, List.map_map]
  rfl

/-- Calls of a run have one id exactly if they have one descriptor. -/
theorem id_entryIn_eq_iff {calls : List EncodeCall} {c d : EncodeCall} (hc : c ∈ calls)
    (hd : d ∈ calls) :
    (entryIn calls c).id = (entryIn calls d).id ↔
      (entryIn calls c).descriptor = (entryIn calls d).descriptor := by
  have hdescriptor : (entryIn calls c).descriptor = (entryIn calls d).descriptor ↔
      c.schemaCall.signature = d.schemaCall.signature :=
    Descriptor.text_eq_iff.trans Signature.of_eq_iff.symm
  rw [hdescriptor, id_entryIn, id_entryIn]
  constructor
  · exact Signature.ordinal_inj (mem_signatures hc) (mem_signatures hd)
  · intro h
    rw [h]

end Registry

/-! ### The entry in a line -/

namespace Encoder

/-- The line begins with the id of the entry and its descriptor, which is that of some record,
    and cells follow. -/
def Carries (line : String) (entry : SchemaEntry) : Prop :=
  ∃ r timeIndex cells, entry.descriptor = Descriptor.text r timeIndex ∧
    line = String.ofList (lineChars entry cells)

/-- A line carries one id and one descriptor. -/
theorem Carries.unique {line : String} {entry entry' : SchemaEntry} (h : Carries line entry)
    (h' : Carries line entry') : entry = entry' := by
  obtain ⟨id, descriptor⟩ := entry
  obtain ⟨id', descriptor'⟩ := entry'
  obtain ⟨r, i, cells, rfl, rfl⟩ := h
  obtain ⟨r', i', cells', hdescriptor, hline⟩ := h'
  simp only at hdescriptor
  subst hdescriptor
  have hchars := String.ofList_inj.1 hline
  simp only [lineChars, Descriptor.text, String.toList_ofList] at hchars
  -- The id ends at the comma and the descriptor at its own bracket.
  obtain ⟨rfl, hrest⟩ := Text.delimited_toDigits (Text.startsIn_cons.2 rfl)
    (Text.startsIn_cons.2 rfl) hchars
  obtain ⟨hshape, -⟩ := Descriptor.chars_append_inj (List.cons.inj hrest).2
  rw [Descriptor.text_eq_iff.2 hshape]

/-- The line of a call carries the entry of the call. -/
theorem carries_lineWith (calls : List EncodeCall) (c : EncodeCall) :
    Carries (c.lineWith (Registry.entryIn calls c)) (Registry.entryIn calls c) :=
  ⟨_, _, _, rfl, rfl⟩

/-- What follows the id does not depend on it. -/
theorem exists_lineWith_eq (c : EncodeCall) (descriptor : String) :
    ∃ rest, ∀ id, c.lineWith ⟨id, descriptor⟩ = toString id ++ "," ++ rest := by
  refine ⟨String.ofList (descriptor.toList ++ ',' :: '[' ::
    ([','].intercalate (c.record.values.map (·.cellChars c.encoder.mapsAsJson)) ++ [']'])),
    fun id => String.toList_inj.1 ?_⟩
  simp [EncodeCall.lineWith, lineChars]

end Encoder

/-! ### Runs -/

namespace Registry

/-- The schema ids that lines carry. -/
def idsIn (lines : List String) : Set Nat :=
  {id | ∃ line ∈ lines, ∃ descriptor, Encoder.Carries line ⟨id, descriptor⟩}

/-- The ids of a run are the ordinals of its signatures. -/
theorem idsIn_encodeAll (calls : List EncodeCall) :
    idsIn (Registry.empty.encodeAll calls).1 =
      Signature.ordinal (signatures calls) '' {s | s ∈ signatures calls} := by
  rw [encodeAll_empty]
  ext id
  constructor
  · rintro ⟨line, hline, descriptor, hcarries⟩
    obtain ⟨c, hc, rfl⟩ := List.mem_map.1 hline
    refine ⟨c.schemaCall.signature, mem_signatures hc, ?_⟩
    rw [← id_entryIn, ← hcarries.unique (Encoder.carries_lineWith calls c)]
  · rintro ⟨s, hs, rfl⟩
    obtain ⟨c, hc, rfl⟩ := List.mem_map.1 hs
    refine ⟨_, List.mem_map_of_mem hc, (entryIn calls c).descriptor, ?_⟩
    rw [← id_entryIn]
    exact Encoder.carries_lineWith calls c

/-- The line of a call in a run. -/
theorem line_eq_of_mem_zip {calls : List EncodeCall} {c : EncodeCall} {line : String}
    (h : (c, line) ∈ calls.zip (Registry.empty.encodeAll calls).1) :
    c ∈ calls ∧ line = c.lineWith (entryIn calls c) := by
  rw [encodeAll_empty, ← List.map_prod_left_eq_zip] at h
  obtain ⟨d, hd, heq⟩ := List.mem_map.1 h
  cases heq
  exact ⟨hd, rfl⟩

/-- **Shared registries.** Let encoders of any settings share a fresh registry.  A call made
    again gives the same line, whatever was encoded in between.  Each line carries one id and
    one descriptor, and two lines of a run have the same id exactly if they have the same
    descriptor.  The same calls in another order on another fresh registry give the same lines
    but for the leading ids, which one bijection renames. -/
theorem encodeAll_perm (calls : List EncodeCall) :
    let lines := (Registry.empty.encodeAll calls).1
    lines.length = calls.length ∧
    (∀ i j : Nat, calls[i]? = calls[j]? → lines[i]? = lines[j]?) ∧
    (∀ line ∈ lines, ∃! entry, Encoder.Carries line entry) ∧
    (∀ line ∈ lines, ∀ line' ∈ lines, ∀ entry entry', Encoder.Carries line entry →
      Encoder.Carries line' entry' →
        (entry.id = entry'.id ↔ entry.descriptor = entry'.descriptor)) ∧
    ∀ calls', calls'.Perm calls →
      let lines' := (Registry.empty.encodeAll calls').1
      ∃ σ : Nat → Nat, Set.BijOn σ (idsIn lines) (idsIn lines') ∧
        ∀ c line line', (c, line) ∈ calls.zip lines → (c, line') ∈ calls'.zip lines' →
          ∃ id rest, line = toString id ++ "," ++ rest ∧
            line' = toString (σ id) ++ "," ++ rest := by
  intro lines
  have hlines : lines = calls.map fun c => c.lineWith (entryIn calls c) := encodeAll_empty calls
  refine ⟨?_, fun i j h => ?_, fun line hline => ?_, ?_, fun calls' hperm => ?_⟩
  · rw [hlines, List.length_map]
  · simp only [hlines, List.getElem?_map, h]
  · obtain ⟨c, -, rfl⟩ := List.mem_map.1 (hlines ▸ hline)
    exact ⟨_, Encoder.carries_lineWith calls c, fun entry h =>
      h.unique (Encoder.carries_lineWith calls c)⟩
  · intro line hline line' hline' entry entry' h h'
    obtain ⟨c, hc, rfl⟩ := List.mem_map.1 (hlines ▸ hline)
    obtain ⟨d, hd, rfl⟩ := List.mem_map.1 (hlines ▸ hline')
    rw [h.unique (Encoder.carries_lineWith calls c), h'.unique (Encoder.carries_lineWith calls d)]
    exact id_entryIn_eq_iff hc hd
  · -- The same signatures are asked for, in another order: their ordinals are renamed.
    have hsame : ∀ s, s ∈ signatures calls ↔ s ∈ signatures calls' := fun s =>
      (hperm.map _).mem_iff.symm
    obtain ⟨σ, hσ, hrename⟩ := Signature.exists_bijOn_ordinal hsame
    refine ⟨σ, ?_, fun c line line' h h' => ?_⟩
    · rw [idsIn_encodeAll, idsIn_encodeAll]
      exact hσ
    · obtain ⟨hc, rfl⟩ := line_eq_of_mem_zip h
      obtain ⟨-, rfl⟩ := line_eq_of_mem_zip h'
      obtain ⟨rest, hrest⟩ :=
        Encoder.exists_lineWith_eq c (Descriptor.text c.record c.schemaCall.timeIndex)
      refine ⟨(entryIn calls c).id, rest, hrest _, ?_⟩
      rw [id_entryIn, hrename _ (mem_signatures hc), ← id_entryIn]
      exact hrest _

/-- One record through an encoder that has a time column and one that has none: two schemas,
    whose ids trade places when the other encoder goes first. -/
theorem encodeAll_perm_swap :
    let r : Record := ⟨[("at", .time .epoch)], by decide⟩
    let stamped : EncodeCall := ⟨⟨some "at", true, recordSizeCeiling, false, .empty⟩, r⟩
    let plain : EncodeCall := ⟨⟨none, true, recordSizeCeiling, false, .empty⟩, r⟩
    let lines := (Registry.empty.encodeAll [stamped, plain, stamped]).1
    let lines' := (Registry.empty.encodeAll [plain, stamped, stamped]).1
    lines = ["1,[0,[\"at\",\"FT_TIME\"]],[[0,0]]", "2,[[\"at\",\"FT_TIME\"]],[[0,0]]",
      "1,[0,[\"at\",\"FT_TIME\"]],[[0,0]]"] ∧
    lines[0]? = lines[2]? ∧
    ∃ σ : Nat → Nat, Set.BijOn σ (idsIn lines) (idsIn lines') ∧
      ∀ c line line', (c, line) ∈ [stamped, plain, stamped].zip lines →
        (c, line') ∈ [plain, stamped, stamped].zip lines' →
          ∃ id rest, line = toString id ++ "," ++ rest ∧
            line' = toString (σ id) ++ "," ++ rest := by
  intro r stamped plain lines lines'
  obtain ⟨-, hrepeat, -, -, horder⟩ := encodeAll_perm [stamped, plain, stamped]
  exact ⟨by decide, hrepeat 0 2 rfl, horder _ (List.Perm.swap stamped plain [stamped])⟩

end Registry

end Telemetry
