import Telemetry.Config.File
import Telemetry.Proofs.Files.Folder
import Telemetry.Proofs.Text.Utf8
import Telemetry.Proofs.Toml.Document

namespace Telemetry.Config

/-!
# Configuration files read back

A configuration that was saved is loaded as itself, whatever its texts contain.

* `keys`, `keyed_document`, `ofDocument?_document` — the document of a configuration has keys
  without quotes, all different, and stands for the configuration.
* `Fits`, `exists_toToml_eq_ok`, `toToml_eq_error` — what can be written: the numbers are signed
  words.
* `load_save` — the file.
-/

/-! ### Documents -/

/-- The keys of all settings. -/
def keys : List String :=
  ["djson_socket", "ack_timeout_ms", "resend_interval_ms", "conn_retry_timeout_ms",
    "tag_regex_patterns", "emit_timestamp_name", "use_source_timestamp", "max_record_size",
    "convert_hash_to_json"]

/-- What is absent has no key, and nothing has another one. -/
theorem map_fst_document_sublist (c : Config) : (c.document.map Prod.fst).Sublist keys := by
  unfold document
  cases c.socketPath <;> cases c.timeField <;> simp [textEntry, keys]

/-- A configuration is written under different keys, none of which needs quotes. -/
theorem keyed_document (c : Config) : c.document.Keyed where
  isKey e he := by
    have hkeys : ∀ key ∈ keys, Toml.IsKey key := by decide
    exact hkeys e.1 ((map_fst_document_sublist c).subset (List.mem_map_of_mem he))
  nodup := (map_fst_document_sublist c).nodup (by decide)

/-- **A configuration is what its document says.** -/
theorem ofDocument?_document (c : Config) : ofDocument? c.document = some c := by
  obtain ⟨socketPath, ackTimeout, resendInterval, connRetryTimeout, tagPatterns, timeField,
    useSourceTime, recordSizeLimit, mapsAsJson⟩ := c
  cases socketPath <;> cases timeField <;> rfl

/-! ### Numbers -/

/-- The numeric settings. -/
def numbers (c : Config) : List Nat :=
  [c.ackTimeout, c.resendInterval, c.connRetryTimeout, c.recordSizeLimit]

/-- The numeric settings are signed words. -/
def Fits (c : Config) : Prop := ∀ n ∈ c.numbers, n ≤ 0x7fffffffffffffff

instance (c : Config) : Decidable c.Fits := by
  unfold Fits
  infer_instance

/-- An unsigned number fits a document up to the largest signed word. -/
theorem fits_integer_iff (n : Nat) :
    (Toml.Value.integer n).fits = true ↔ n ≤ 0x7fffffffffffffff := by
  simp only [Toml.Value.fits, Toml.fitsInteger, Bool.and_eq_true, decide_eq_true_eq]
  omega

/-- Texts fit, whether or not they are left out. -/
theorem all_fits_textEntry (key : String) (s : Option String) :
    (textEntry key s).all (·.2.fits) = true := by
  cases s <;> rfl

/-- The integers of a document are the numeric settings. -/
theorem all_fits_document_iff (c : Config) :
    (c.document.all (·.2.fits)) = true ↔ c.Fits := by
  have hboolean : ∀ b, (Toml.Value.boolean b).fits = true := fun _ => rfl
  have htexts : ∀ xs, (Toml.Value.texts xs).fits = true := fun _ => rfl
  simp [document, all_fits_textEntry, fits_integer_iff, hboolean, htexts, Fits, numbers]

/-- What fits is written, and read back. -/
theorem exists_toToml_eq_ok {c : Config} (hc : c.Fits) :
    ∃ s, c.toToml = .ok s ∧ Toml.read? s = some c.document := by
  have hwrite : ∃ s, Toml.write? c.document = some s :=
    ⟨_, if_pos ((all_fits_document_iff c).2 hc)⟩
  obtain ⟨s, hs⟩ := hwrite
  refine ⟨s, ?_, Toml.read?_of_write? (keyed_document c) hs⟩
  rw [toToml, hs]

/-- A number that does not fit is refused before anything is written. -/
theorem toToml_eq_error {c : Config} (hc : ¬ c.Fits) :
    c.toToml =
      .error (.config "Failed to serialize config: out-of-range value for u64 type") := by
  have hwrite : Toml.write? c.document = none :=
    if_neg fun h => hc ((all_fits_document_iff c).1 h)
  rw [toToml, hwrite]

/-! ### Files -/

section Files

variable {φ : Type} [Files φ] {f : φ} {path : String}

/-- **A saved configuration is loaded as itself,** with any texts in it; one with a number that
    does not fit is refused, and nothing is written. -/
theorem load_save (c : Config) :
    (c.validate = .ok () → c.Fits → Files.Writable f path →
      ∃ f', c.save f path = (.ok (), f') ∧ load f' path = .ok c) ∧
    (¬ c.Fits → ∃ reason, c.save f path = (.error (.config reason), f)) := by
  constructor
  · intro hvalid hfits hpath
    obtain ⟨s, hs, hread⟩ := exists_toToml_eq_ok hfits
    -- The path takes the bytes of the text, and gives them back.
    obtain ⟨f', hwrite, hbytes⟩ := hpath (Utf8.encode s)
    refine ⟨f', ?_, ?_⟩
    · simp only [save, hs, hwrite]
      rfl
    · have htext : Files.readText f' path = .ok s := by
        simp only [Files.readText, hbytes, Utf8.decode?_encode]
      simp only [load, htext, ofTomlOr, hread, Option.bind_some, ofDocument?_document, hvalid]
      rfl
  · intro hfits
    exact ⟨_, by rw [save, toToml_eq_error hfits]⟩

/-- A configuration whose texts need every style of writing. -/
def quoted : Config where
  socketPath := some "/run/\"a'\\\n\t\x01'''.socket"
  tagPatterns := ["^mdsd\\.[a-z]+", "'", "\"'\"", "^$"]
  timeField := some "\"\\\n''"

/-- Saved in an empty folder, it is loaded as itself; with a number that is no signed word it is
    not saved. -/
theorem load_save_quoted :
    (∃ f', quoted.save ({} : Folder) "djson.toml" = (.ok (), f') ∧
      load f' "djson.toml" = .ok quoted) ∧
    ∃ reason, { quoted with ackTimeout := 0x8000000000000000 }.save ({} : Folder) "djson.toml" =
      (.error (.config reason), {}) := by
  have hpath : Files.Writable ({} : Folder) "djson.toml" :=
    Folder.writable_iff.2 ⟨.free "djson.toml", "djson.toml", by decide +kernel, .inr rfl⟩
  constructor
  · exact (load_save quoted).1 (by decide +kernel) (by decide) hpath
  · exact (load_save { quoted with ackTimeout := 0x8000000000000000 }).2 (by decide)

end Files

end Telemetry.Config
