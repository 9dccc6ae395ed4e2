import Telemetry.Files.Folder

namespace Telemetry

/-!
# Writable paths

* `Files.Writable` — whatever is written at a path is found there afterwards.
* `Folder.follow_put`, `Folder.place_put` — a path leads to the file that was put at its end.
* `Folder.writable_iff` — in a folder, the writable paths are those that lead to a file or to a
  free name.
-/

/-- Whatever is written at the path is found there afterwards. -/
def Files.Writable {φ : Type} [Files φ] (f : φ) (path : String) : Prop :=
  ∀ bytes : List UInt8, ∃ f', Files.write f path bytes = (.ok (), f') ∧
    Files.read f' path = .ok bytes

namespace Folder

variable {f : Folder} {name path : String} {p : Place}

/-- A file of that name is at the place, or could be. -/
def Place.Holds (p : Place) (name : String) : Prop := p = .file name ∨ p = .free name

/-- A file that was put has its new bytes. -/
theorem lookup_put (f : Folder) (name : String) (bytes : List UInt8) :
    (f.put name bytes).files.lookup name = some bytes := by
  simp [put]

/-- A file that was put at the end of a path is found by following the path again. -/
theorem follow_put {parts : List String} (h : f.follow parts = .ok p) (hp : p.Holds name)
    (bytes : List UInt8) : (f.put name bytes).follow parts = .ok (.file name) := by
  induction parts with
  | nil =>
    obtain rfl : Place.folder = p := Except.ok.inj h
    rcases hp with hp | hp <;> exact absurd hp (by simp)
  | cons part rest ih =>
    unfold follow at h ⊢
    by_cases hstay : (part = "" || part = ".") = true
    · rw [if_pos hstay] at h ⊢
      exact ih h
    by_cases hup : part = ".."
    · rw [if_neg hstay, if_pos hup] at h
      exact absurd h (by simp)
    by_cases hlong : nameLimit < part.utf8ByteSize
    · rw [if_neg hstay, if_neg hup, if_pos hlong] at h
      exact absurd h (by simp)
    rw [if_neg hstay, if_neg hup, if_neg hlong] at h ⊢
    -- The path ends here: behind a name that is not the last one nothing can be put.
    cases rest with
    | nil =>
      have hname : part = name := by
        cases hlookup : f.files.lookup part <;> rw [hlookup] at h <;>
          obtain rfl := Except.ok.inj h <;> simpa [Place.Holds] using hp
      rw [hname, lookup_put]
    | cons next rest =>
      cases hlookup : f.files.lookup part with
      | some _ =>
        rw [hlookup] at h
        exact absurd h (by simp)
      | none =>
        rw [hlookup] at h
        simp only at h
        split at h
        · obtain rfl := Except.ok.inj h
          simp [Place.Holds] at hp
        · exact absurd h (by simp)

/-- A path to a file, or to where one may be, leads to the file once it is put. -/
theorem place_put (h : f.place path = .ok p) (hp : p.Holds name) (bytes : List UInt8) :
    (f.put name bytes).place path = .ok (.file name) := by
  unfold place at h ⊢
  by_cases hzero : path.toList.contains '\x00' = true
  · rw [if_pos hzero] at h
    exact absurd h (by simp)
  by_cases hempty : path = ""
  · rw [if_neg hzero, if_pos hempty] at h
    exact absurd h (by simp)
  by_cases hlong : pathLimit < path.utf8ByteSize
  · rw [if_neg hzero, if_neg hempty, if_pos hlong] at h
    exact absurd h (by simp)
  by_cases habsolute : path.toList.head? = some '/'
  · rw [if_neg hzero, if_neg hempty, if_neg hlong, if_pos habsolute] at h
    split at h
    · obtain rfl := Except.ok.inj h
      simp [Place.Holds] at hp
    · exact absurd h (by simp)
  · rw [if_neg hzero, if_neg hempty, if_neg hlong, if_neg habsolute] at h ⊢
    exact follow_put h hp bytes

/-- **What can be written in a folder:** the paths that lead to a file or to a free name. -/
theorem writable_iff : Files.Writable f path ↔ ∃ p name, f.place path = .ok p ∧ p.Holds name := by
  constructor
  · intro h
    obtain ⟨f', hwrite, -⟩ := h []
    have hwrite : f.write path [] = (.ok (), f') := hwrite
    unfold write at hwrite
    split at hwrite
    · rename_i name hplace
      exact ⟨_, name, hplace, .inl rfl⟩
    · rename_i name hplace
      exact ⟨_, name, hplace, .inr rfl⟩
    · exact absurd (Prod.mk.inj hwrite).1 (by simp)
    · exact absurd (Prod.mk.inj hwrite).1 (by simp)
  · rintro ⟨p, name, hplace, hp⟩ bytes
    refine ⟨f.put name bytes, ?_, ?_⟩
    · show f.write path bytes = _
      rcases hp with rfl | rfl <;> rw [write, hplace]
    · show (f.put name bytes).read path = _
      rw [read, place_put hplace hp]
      simp only [lookup_put, Option.getD_some]

end Folder

end Telemetry
