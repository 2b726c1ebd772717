import DenseSketch.Storage.Tree
import DenseSketch.Proofs.Fault.Results

/-!
# What was written is read

Putting a file where no directory is leaves every way through the directories as it was.  So a text
that was written is read at the same location.
-/

namespace DenseSketch.Tree

variable (key : List String) (content : Content)

/-! ### Putting a file -/

theorem find?_putFile_self (files : List (List String × Content)) :
    (putFile key content files).find? (fun f => f.1 == key) = some (key, content) := by
  induction files with
  | nil => simp [putFile]
  | cons f files ih =>
    rw [putFile]
    split
    · simp
    · next hother =>
      rw [Bool.not_eq_true] at hother
      simp only [List.find?_cons, hother, ih]

theorem find?_putFile_other {other : List String} (hother : other ≠ key)
    (files : List (List String × Content)) :
    (putFile key content files).find? (fun f => f.1 == other) =
      files.find? (fun f => f.1 == other) := by
  induction files with
  | nil => simp [putFile, hother.symm]
  | cons f files ih =>
    rw [putFile]
    split
    · next hf =>
      have hkey : (key == other) = false := beq_false_of_ne hother.symm
      simp only [List.find?_cons, beq_iff_eq.1 hf, hkey]
    · rw [List.find?_cons, List.find?_cons, ih]

theorem mem_putFile_fst {other : List String} {files : List (List String × Content)} :
    other ∈ (putFile key content files).map Prod.fst ↔ other = key ∨ other ∈ files.map Prod.fst := by
  induction files with
  | nil => simp [putFile]
  | cons f files ih =>
    rw [putFile]
    split
    · next hf =>
      have hkey : f.1 = key := beq_iff_eq.1 hf
      simp [hkey]
    · rw [List.map_cons, List.mem_cons, ih, List.map_cons, List.mem_cons]
      exact or_left_comm

/-! ### Files and directories -/

/-- The tree with one file put. -/
def withFile (tree : Tree) : Tree := { tree with files := putFile key content tree.files }

variable {tree : Tree}

theorem fileAt?_withFile_self : (tree.withFile key content).fileAt? key = some content := by
  rw [fileAt?, withFile, find?_putFile_self]
  rfl

theorem isFile_withFile_of_ne {other : List String} (hother : other ≠ key) :
    (tree.withFile key content).isFile other = tree.isFile other := by
  rw [isFile, isFile, fileAt?, fileAt?, withFile, find?_putFile_other key content hother]

/-- A directory is one that stands there without files, or one on the way to a file. -/
theorem isDirectory_iff {other : List String} :
    tree.isDirectory other ↔
      (other.all (· == "..") || other == [""] || tree.directories.contains other) ∨
        ∃ file ∈ tree.files.map Prod.fst, other.isPrefixOf file ∧ file ≠ other := by
  simp [isDirectory, or_assoc]

theorem isDirectory_withFile {other : List String} (hother : tree.isDirectory other) :
    (tree.withFile key content).isDirectory other := by
  rw [isDirectory_iff] at hother ⊢
  rcases hother with hplain | ⟨file, hfile, hway⟩
  · exact .inl hplain
  · exact .inr ⟨file, (mem_putFile_fst key content).2 (.inr hfile), hway⟩

theorem isDirectory_withFile_self (hkey : ¬ tree.isDirectory key) :
    ¬ (tree.withFile key content).isDirectory key := by
  rw [isDirectory_iff] at hkey ⊢
  rintro (hplain | ⟨file, hfile, hprefix, hne⟩)
  · exact hkey (.inl hplain)
  · rcases (mem_putFile_fst key content).1 hfile with heq | hold
    · exact hne heq
    · exact hkey (.inr ⟨file, hold, hprefix, hne⟩)

/-! ### Ways -/

theorem enter_withFile (hkey : ¬ tree.isDirectory key) {directory next : List String} {part : String}
    (hstep : tree.enter directory part = .ok next) :
    (tree.withFile key content).enter directory part = .ok next := by
  unfold enter at hstep ⊢
  dsimp only at hstep ⊢
  split at hstep
  · cases hstep
  · next hfile =>
    split at hstep
    · next hdirectory =>
      have hne : Location.enter directory part ≠ key := by
        rintro rfl
        exact hkey hdirectory
      rw [isFile_withFile_of_ne key content hne, if_neg hfile,
        if_pos (isDirectory_withFile key content hdirectory)]
      exact hstep
    · cases hstep

theorem foldlM_enter_withFile (hkey : ¬ tree.isDirectory key) {parts start found : List String}
    (hsteps : parts.foldlM tree.enter start = .ok found) :
    parts.foldlM (tree.withFile key content).enter start = .ok found := by
  induction parts generalizing start with
  | nil => exact hsteps
  | cons part parts ih =>
    rw [List.foldlM_cons, bind_eq_ok] at hsteps ⊢
    obtain ⟨next, hstep, hrest⟩ := hsteps
    exact ⟨next, enter_withFile key content hkey hstep, ih hrest⟩

theorem find_withFile (hkey : ¬ tree.isDirectory key) {l : Location} {found : List String}
    (hfind : tree.find l = .ok found) : (tree.withFile key content).find l = .ok found := by
  unfold find at hfind ⊢
  rw [bind_eq_ok] at hfind ⊢
  obtain ⟨checked, hcheck, hfind⟩ := hfind
  rw [bind_eq_ok] at hfind
  obtain ⟨directory, hsteps, hlast⟩ := hfind
  refine ⟨checked, hcheck, ?_⟩
  rw [bind_eq_ok]
  exact ⟨directory, foldlM_enter_withFile key content hkey hsteps, hlast⟩

/-- A text is written where the way to it ends at no directory. -/
theorem write_eq_ok {l : Location} {text : String} {written : Tree} :
    tree.write l text = (written, .ok ()) ↔
      ∃ key, tree.find l = .ok key ∧ ¬ tree.isDirectory key ∧ Text.isEncodable text ∧
        tree.withFile key (.text text) = written := by
  unfold write
  split
  · next fault hfind => simp [hfind]
  · next key hfind =>
    simp only [hfind, Except.ok.injEq, exists_eq_left']
    split
    · next hkey => simp [hkey]
    · next hkey =>
      split
      · next hencodable => simp [hkey, hencodable, withFile]
      · next hencodable => simp [hencodable]

theorem write_of_find {l : Location} {text : String} (key : List String)
    (hfind : tree.find l = .ok key) (hkey : tree.isDirectory key = false)
    (htext : Text.isEncodable text = true) :
    tree.write l text = (tree.withFile key (.text text), .ok ()) :=
  write_eq_ok.2 ⟨key, hfind, Bool.eq_false_iff.1 hkey, htext, rfl⟩

/-- A text that was written is read. -/
theorem read_of_write {l : Location} {text : String} {written : Tree}
    (hwrite : tree.write l text = (written, .ok ())) : written.read l = .ok text := by
  obtain ⟨key, hfind, hkey, -, rfl⟩ := write_eq_ok.1 hwrite
  have hfound := find_withFile key (.text text) hkey hfind
  have hself := isDirectory_withFile_self key (.text text) hkey
  have hcontent : (tree.withFile key (.text text)).fileAt? key = some (.text text) :=
    fileAt?_withFile_self key (.text text)
  rw [Bool.not_eq_true] at hself
  rw [read, Tree.content, hfound]
  simp only [bind, Except.bind, hself, hcontent]
  rfl

end DenseSketch.Tree
