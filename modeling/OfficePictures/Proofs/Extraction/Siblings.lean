import OfficePictures.Proofs.Document
import OfficePictures.Proofs.Extraction.Files

/-!
# Siblings — output directories beside each other

The output directories of all documents are in one directory.  The number in front of a unique name
keeps them apart, whatever the documents are called.

* `IsWithin` — the paths that lead into a directory;
* `AreSiblings` — directories of one directory, under safe names that differ also in lower case;
* `AreSiblings.disjoint` — no path leads into both of them;
* `areSiblings_outputDirectory` — the output directories of two documents are siblings.
-/

namespace OfficePictures
namespace Extraction

/-! ## Directories beside each other -/

/-- What a directory can call what is in it. -/
structure IsEntryName (name : List Char) : Prop where
  ne_nil : name ≠ []
  slash_notMem : '/' ∉ name
  ne_dot : name ≠ ['.']
  ne_dots : name ≠ ['.', '.']

/-- A path that leads to a directory or, name by name, to something in it. -/
def IsWithin (directory path : String) : Prop :=
  ∃ names : List (List Char), (∀ name ∈ names, IsEntryName name) ∧
    path = String.ofList (names.foldl Sink.joinPath directory.toList)

/-- Directories of one directory, under safe names that differ also in lower case. -/
def AreSiblings (directory other : String) : Prop :=
  ∃ parent name otherName : List Char, FileName.IsSafe name ∧ FileName.IsSafe otherName ∧
    Text.lower name ≠ Text.lower otherName ∧
    directory = String.ofList (Sink.joinPath parent name) ∧
    other = String.ofList (Sink.joinPath parent otherName)

theorem isWithin_self (directory : String) : IsWithin directory directory :=
  ⟨[], List.forall_mem_nil _, String.ofList_toList.symm⟩

theorem isEntryName_of_isSafe {name : List Char} (h : FileName.IsSafe name) : IsEntryName name := by
  refine ⟨h.ne_nil, h.slash_notMem, ?_, ?_⟩
  · rintro rfl
    rcases h.named with ⟨c, hc, hne⟩
    exact hne (List.mem_singleton.1 hc)
  · rintro rfl
    rcases h.named with ⟨c, hc, hne⟩
    exact hne (by simpa using hc)

theorem isWithin_pathOf (sink : Sink) {name : String} (h : FileName.IsSafe name.toList) :
    IsWithin sink.directory (sink.pathOf name) :=
  ⟨[name.toList], List.forall_mem_singleton.2 (isEntryName_of_isSafe h), rfl⟩

/-- The names in a directory stand behind the same text. -/
theorem exists_joinPath_eq_append (directory : List Char) :
    ∃ front, ∀ name : List Char, '/' ∉ name → Sink.joinPath directory name = front ++ name := by
  have hrelative : ∀ {name : List Char}, '/' ∉ name → name.head? ≠ some '/' := by
    intro name hname hhead
    exact hname (List.mem_of_head? hhead)
  by_cases hnil : directory = []
  · refine ⟨[], ?_⟩
    intro name _
    simp [Sink.joinPath, hnil]
  · by_cases hslash : directory.getLast? = some '/'
    · refine ⟨directory, ?_⟩
      intro name hname
      simp [Sink.joinPath, hrelative hname, hnil, hslash]
    · refine ⟨directory ++ ['/'], ?_⟩
      intro name hname
      simp [Sink.joinPath, hrelative hname, hnil, hslash]

/-- Behind a name, a path goes on with a slash. -/
theorem exists_foldl_joinPath {directory : List Char} (hne : directory ≠ [])
    (hlast : directory.getLast? ≠ some '/') {names : List (List Char)}
    (hnames : ∀ name ∈ names, IsEntryName name) :
    ∃ rest : List Char, rest.head?.getD '/' = '/' ∧
      names.foldl Sink.joinPath directory = directory ++ rest := by
  induction names generalizing directory with
  | nil => exact ⟨[], rfl, (List.append_nil _).symm⟩
  | cons name names ih =>
      rcases List.forall_mem_cons.1 hnames with ⟨hname, hmore⟩
      have hhead : name.head? ≠ some '/' := fun h => hname.slash_notMem (List.mem_of_head? h)
      have hjoin : Sink.joinPath directory name = directory ++ '/' :: name := by
        simp [Sink.joinPath, hhead, hne, hlast]
      have hjoinLast : (directory ++ '/' :: name).getLast? ≠ some '/' := by
        intro h
        rw [List.getLast?_append_of_ne_nil _ (List.cons_ne_nil _ _),
          List.getLast?_cons_of_ne_nil hname.ne_nil] at h
        exact hname.slash_notMem (List.mem_of_getLast? h)
      rcases ih (by simp) hjoinLast hmore with ⟨rest, -, hrest⟩
      refine ⟨'/' :: name ++ rest, rfl, ?_⟩
      rw [List.foldl_cons, hjoin, hrest, List.append_assoc]

/-- A name ends where a slash or nothing follows. -/
theorem eq_of_append_eq_append {name other rest otherRest : List Char} (hname : '/' ∉ name)
    (hother : '/' ∉ other) (hrest : rest.head?.getD '/' = '/')
    (hotherRest : otherRest.head?.getD '/' = '/') (h : name ++ rest = other ++ otherRest) :
    name = other := by
  -- A name is what is in front of the first slash.
  have hcut : ∀ {name rest : List Char}, '/' ∉ name → rest.head?.getD '/' = '/' →
      (name ++ rest).takeWhile (· ≠ '/') = name := by
    intro name rest hname hrest
    have hall : ∀ c ∈ name, decide (c ≠ '/') = true := by
      intro c hc
      exact decide_eq_true fun heq => hname (heq ▸ hc)
    rw [List.takeWhile_append_of_pos hall]
    cases rest with
    | nil => simp
    | cons c rest =>
        have hc : c = '/' := hrest
        simp [hc]
  calc
    name = (name ++ rest).takeWhile (· ≠ '/') := (hcut hname hrest).symm
    _ = (other ++ otherRest).takeWhile (· ≠ '/') := by rw [h]
    _ = other := hcut hother hotherRest

/-- No path leads into both of two directories beside each other. -/
theorem AreSiblings.disjoint {directory other path : String} (h : AreSiblings directory other)
    (hwithin : IsWithin directory path) : ¬ IsWithin other path := by
  rintro ⟨otherNames, hotherNames, hotherPath⟩
  rcases h with ⟨parent, name, otherName, hname, hotherName, hlower, rfl, rfl⟩
  rcases hwithin with ⟨names, hnames, rfl⟩
  rcases exists_joinPath_eq_append parent with ⟨front, hfront⟩
  have hlast : ∀ {name : List Char}, FileName.IsSafe name →
      front ++ name ≠ [] ∧ (front ++ name).getLast? ≠ some '/' := by
    intro name hsafe
    refine ⟨by simp [hsafe.ne_nil], ?_⟩
    rw [List.getLast?_append_of_ne_nil _ hsafe.ne_nil]
    exact fun hslash => hsafe.slash_notMem (List.mem_of_getLast? hslash)
  rw [String.toList_ofList, String.toList_ofList, hfront _ hname.slash_notMem,
    hfront _ hotherName.slash_notMem, String.ofList_inj] at hotherPath
  rcases exists_foldl_joinPath (hlast hname).1 (hlast hname).2 hnames with ⟨rest, hrest, heq⟩
  rcases exists_foldl_joinPath (hlast hotherName).1 (hlast hotherName).2 hotherNames with
    ⟨otherRest, hotherRest, hotherEq⟩
  rw [heq, hotherEq, List.append_assoc, List.append_assoc] at hotherPath
  refine hlower (congrArg Text.lower ?_)
  exact eq_of_append_eq_append hname.slash_notMem hotherName.slash_notMem hrest hotherRest
    (List.append_cancel_left hotherPath)

/-- The number in the name of an output directory keeps it apart from those of other documents,
whatever these are called. -/
theorem areSiblings_outputDirectory (config : Config) {document other : Document}
    (hid : document.id ≠ other.id) :
    AreSiblings (outputDirectory config document) (outputDirectory config other) := by
  refine ⟨config.directory.toList, document.uniqueName.toList, other.uniqueName.toList,
    document.isSafe_uniqueName, other.isSafe_uniqueName, ?_, rfl, rfl⟩
  intro hlower
  exact hid (Document.id_eq_of_lower_uniqueName_eq hlower)

end Extraction
end OfficePictures
