import LogSift.Directory

/-!
# Writing files

* `Directory.place?`: the place of the file that is at a path or can be made there.
* `Directory.DiffersAt`: whether a directory differs from another one in the file at one place.
  Putting octets at a place changes this file and no other (`differsAt_put`).
* `Directory.write_eq_ok_iff`: a text can be written if there is a place for it, or on the device
  that takes everything.
* `Directory.hasNull_of_write`: where writing fails because of a null character.
* `Directory.read_put`: what is put at the place of a path is read there.
-/

namespace LogSift

/-- The place of a file that is there or can be made. -/
def Target.place? : Target → Option Path
  | .file f => some f.path
  | .free path => some path
  | .folder | .null | .noFolder | .notFolder | .nameTooLong | .embeddedNull => none

namespace Directory

/-- The place of the file that is at a path or can be made there. -/
def place? (d : Directory) (p : Path) : Option Path := (d.target p).place?

variable {d : Directory} {path : Path}

/-! ## The file that is put -/

theorem path_of_find? {f : File} (h : d.find? path = some f) : f.path = path := by
  have hsame := List.find?_some h
  simpa using hsame

theorem find?_put (d : Directory) (path : Path) (octets : List UInt8) (other : Path) :
    (d.put path octets).find? other =
      if other = path then some ⟨path, octets⟩ else d.find? other := by
  cases hthere : d.find? path with
  | none =>
    have hfiles : (d.put path octets).files = d.files ++ [⟨path, octets⟩] := by
      simp [put, hthere]
    have happend : (d.put path octets).find? other =
        (d.find? other).or (if path = other then some ⟨path, octets⟩ else none) := by
      simp [find?, hfiles, List.find?_append, List.find?_singleton]
    rw [happend]
    by_cases hother : other = path
    · simp [hother, hthere]
    · simp [hother, Ne.symm hother]
  | some old =>
    -- The files keep their places, so the one that is found is the one that was found before.
    let replaced : File → File := fun f => if f.path == path then ⟨path, octets⟩ else f
    have hfiles : (d.put path octets).files = d.files.map replaced := by
      simp [put, hthere, replaced]
    have hkept : (fun f : File => f.path == other) ∘ replaced = fun f => f.path == other := by
      funext f
      by_cases hf : f.path = path
      · simp [replaced, hf]
      · simp [replaced, hf]
    have hfind : (d.put path octets).find? other = (d.find? other).map replaced := by
      rw [find?, hfiles, List.find?_map, hkept, find?]
    rw [hfind]
    by_cases hother : other = path
    · simp [hother, hthere, replaced, path_of_find? hthere]
    · cases hfound : d.find? other with
      | none => simp [hother]
      | some f =>
        have hne : ¬ f.path = path := fun hf => hother ((path_of_find? hfound).symm.trans hf)
        simp [hother, replaced, hne]

/-- Whether a directory differs from another one in the file at a place alone, which holds certain
octets. -/
structure DiffersAt (d d' : Directory) (path : Path) (octets : List UInt8) : Prop where
  written : d'.find? path = some ⟨path, octets⟩
  others : ∀ other, other ≠ path → d'.find? other = d.find? other
  folders : d'.folders = d.folders

theorem differsAt_put (d : Directory) (path : Path) (octets : List UInt8) :
    DiffersAt d (d.put path octets) path octets where
  written := by simp [find?_put]
  others other hother := by simp [find?_put, hother]
  folders := rfl

/-- Every file is still there, perhaps with other octets. -/
theorem exists_file_put {f : File} (h : f ∈ d.files) (path : Path) (octets : List UInt8) :
    ∃ f' ∈ (d.put path octets).files, f'.path = f.path := by
  unfold put
  dsimp only
  split
  · refine ⟨_, List.mem_map_of_mem h, ?_⟩
    by_cases hf : f.path = path
    · simp [hf]
    · simp [hf]
  · exact ⟨f, List.mem_append_left _ h, rfl⟩

/-- No folder goes away. -/
theorem hasFolder_put {folder : Path} (h : d.hasFolder folder = true) (path : Path)
    (octets : List UInt8) : (d.put path octets).hasFolder folder = true := by
  unfold hasFolder at h ⊢
  rcases Bool.or_eq_true_iff.1 h with hfolder | hfile
  · exact Bool.or_eq_true_iff.2 (.inl hfolder)
  · obtain ⟨f, hf, hinside⟩ := List.any_eq_true.1 hfile
    obtain ⟨f', hf', hpath⟩ := exists_file_put hf path octets
    refine Bool.or_eq_true_iff.2 (.inr (List.any_eq_true.2 ⟨f', hf', ?_⟩))
    rw [hpath]
    exact hinside

/-! ## Ways to places -/

/-- Whether names lead from a folder through folders to a place where there is a file or one can be
made. -/
inductive Leads (d : Directory) (path : Path) : Path → List String → Prop
  | up {here : Path} {rest : List String} : Leads d path (here.step "..") rest →
    Leads d path here (".." :: rest)
  | down {here : Path} {name : String} {rest : List String} : name ≠ ".." →
    ¬ nameLimit < name.utf8ByteSize → here.step name ≠ nullDevice →
    d.find? (here.step name) = none → d.hasFolder (here.step name) = true →
    Leads d path (here.step name) rest → Leads d path here (name :: rest)
  | last {here : Path} {name : String} : name ≠ ".." → ¬ nameLimit < name.utf8ByteSize →
    here.step name ≠ nullDevice → here.step name = path →
    (d.find? path).isSome ∨ d.hasFolder path = false → Leads d path here [name]

theorem leads_of_follow {here : Path} {names : List String}
    (h : (d.follow here names).place? = some path) : Leads d path here names := by
  induction names generalizing here with
  | nil => cases h
  | cons name rest ih =>
    simp only [follow] at h
    split at h
    · next hup =>
      subst hup
      exact .up (ih h)
    next hup =>
    split at h
    · cases h
    next hlong =>
    split at h
    · split at h <;> cases h
    next hnull =>
    split at h
    · next f hfound =>
      split at h
      · next hrest =>
        cases h
        have hpath := path_of_find? hfound
        rw [← hpath] at hfound
        rw [List.isEmpty_iff.1 hrest]
        exact .last hup hlong hnull hpath.symm (.inl (Option.isSome_of_eq_some hfound))
      · cases h
    next hnone =>
    split at h
    · next hfolder => exact .down hup hlong hnull hnone hfolder (ih h)
    next hfolder =>
    split at h
    · next hrest =>
      cases h
      rw [List.isEmpty_iff.1 hrest]
      exact .last hup hlong hnull rfl (.inr (Bool.eq_false_iff.2 hfolder))
    · cases h

namespace Leads

variable {here : Path} {names : List String}

theorem find?_or_no_folder (h : Leads d path here names) :
    (d.find? path).isSome ∨ d.hasFolder path = false := by
  induction h with
  | up _ ih => exact ih
  | down _ _ _ _ _ _ ih => exact ih
  | last _ _ _ _ hplace => exact hplace

/-- The names lead to the file that is put at the place. -/
theorem follow_put (h : Leads d path here names) (octets : List UInt8) :
    (d.put path octets).follow here names = .file ⟨path, octets⟩ := by
  induction h with
  | up _ ih =>
    rw [follow]
    exact ih
  | @down here name rest hup hlong hnull hnone hfolder hrest ih =>
    -- A folder on the way is not the place: it is no file, and the place is no folder.
    have hother : here.step name ≠ path := by
      intro hsame
      rw [hsame] at hnone hfolder
      rcases hrest.find?_or_no_folder with hfile | hno
      · simp [hnone] at hfile
      · simp [hfolder] at hno
    simp [follow, hup, hlong, hnull, find?_put, hother, hnone, hasFolder_put hfolder, ih]
  | last hup hlong hnull hpath _ =>
    subst hpath
    simp [follow, hup, hlong, hnull, find?_put]

end Leads

/-! ## Reading and writing -/

/-- What is put at the place of a path is read there. -/
theorem read_put {p : Path} (h : d.place? p = some path) (octets : List UInt8) :
    (d.put path octets).read p = .ok octets := by
  unfold place? target at h
  split at h
  · cases h
  next hnull =>
  split at h
  · cases h
  · next hlong =>
    rw [read, target, if_neg hnull, if_neg hlong, (leads_of_follow h).follow_put octets]

/-- A text is written to the place of a path, or to the device that takes everything. -/
theorem write_eq_ok_iff {p : Path} {text : String} {d' : Directory} :
    d.write p text = .ok d' ↔
      (∃ path, d.place? p = some path ∧ d' = d.put path (Text.Utf8.encode text)) ∨
        d.target p = .null ∧ d' = d := by
  unfold write place?
  cases d.target p with
  | file f => simp [Target.place?, eq_comm]
  | free path => simp [Target.place?, eq_comm]
  | null => simp [Target.place?, eq_comm]
  | folder => simp [Target.place?]
  | noFolder => simp [Target.place?]
  | notFolder => simp [Target.place?]
  | nameTooLong => simp [Target.place?]
  | embeddedNull => simp [Target.place?]

theorem follow_ne_embeddedNull (d : Directory) (here : Path) (names : List String) :
    d.follow here names ≠ .embeddedNull := by
  induction names generalizing here with
  | nil => simp [follow]
  | cons name rest ih => grind [follow]

theorem target_eq_embeddedNull_iff {p : Path} :
    d.target p = .embeddedNull ↔ p.hasNull = true := by
  unfold target
  split
  · next hnull => simp [hnull]
  next hnull =>
  split
  · simp [hnull]
  · simp [hnull, follow_ne_embeddedNull]

theorem hasNull_of_write {p : Path} {text : String} (h : d.write p text = .error .embeddedNull) :
    p.hasNull = true := by
  unfold write at h
  cases htarget : d.target p with
  | embeddedNull => exact target_eq_embeddedNull_iff.1 htarget
  | file f => simp [htarget] at h
  | free path => simp [htarget] at h
  | null => simp [htarget] at h
  | folder => simp [htarget] at h
  | noFolder => simp [htarget] at h
  | notFolder => simp [htarget] at h
  | nameTooLong => simp [htarget] at h

end Directory

end LogSift
