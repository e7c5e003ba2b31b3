import Mathlib.Data.List.Basic
import Mathlib.Data.List.Induction
import OfficePictures.Proofs.Bytes
import OfficePictures.Word.FormattedPage

/-!
# FormattedPage — which picture locations are collected

A table names pages, a page holds a byte for each run, and that byte leads to the property list of
the run.  At each level something may lead nowhere; it is passed over, and the rest is read as if it
were not there.

* `HasList`, `runProperties?_eq_some_iff` — the list of a run, from the bytes it leads to;
* `PageLayout`, `pageProperties_bytes` — a page as it is written, and the lists that are read of it;
* `pictureLocations_eq` — the locations of all pages, each once;
* `pictureLocations_of_pages` — all of it together.
-/

namespace OfficePictures
namespace Word

/-! ## First occurrences -/

theorem firstOccurrences_eq_loop (seen list : List UInt32) :
    firstOccurrences seen list = List.eraseDupsBy.loop (· == ·) list seen := by
  induction list generalizing seen with
  | nil => rfl
  | cons location list ih =>
      rw [firstOccurrences, List.eraseDupsBy.loop, ih, List.contains_eq_any_beq]
      cases seen.any (location == ·) <;> rfl

theorem firstOccurrences_eq_eraseDups (list : List UInt32) :
    firstOccurrences [] list = list.eraseDups :=
  firstOccurrences_eq_loop [] list

theorem nodup_eraseDups (list : List UInt32) : list.eraseDups.Nodup := by
  -- From the back: the last element is left out exactly if it came before.
  induction list using List.reverseRecOn with
  | nil => exact List.nodup_nil
  | append_singleton list location ih =>
      rw [List.eraseDups_append]
      by_cases hseen : location ∈ list
      · have hnone : [location].removeAll list = [] := by simp [List.removeAll, hseen]
        rw [hnone, List.eraseDups_nil, List.append_nil]
        exact ih
      · have hnew : [location].removeAll list = [location] := by simp [List.removeAll, hseen]
        have hone : [location].eraseDups = [location] := rfl
        rw [hnew, hone, List.nodup_append]
        refine ⟨ih, List.pairwise_singleton _ location, ?_⟩
        intro a ha b hb
        rintro rfl
        rw [List.mem_singleton.1 hb] at ha
        exact hseen (List.mem_eraseDups.1 ha)

/-! ## The list of a run -/

/-- A list stands at a place of the page, behind a byte that tells its length. -/
def HoldsListAt (page : Bytes) (place : Nat) (list : Bytes) : Prop :=
  list.length < 256 ∧ Bytes.StandsAt (UInt8.ofNat list.length :: list) page 0 place

/-- The byte of a run on a page of so many runs leads to the list.  A zero leads to none. -/
def HasList (page : Bytes) (runs run : Nat) (list : Bytes) : Prop :=
  ∃ half : UInt8, page[4 * (runs + 1) + run]? = some half ∧ half ≠ 0 ∧
    HoldsListAt page (2 * half.toNat) list

theorem holdsListAt_iff {page list : Bytes} {place : Nat} :
    HoldsListAt page place list ↔ ∃ length, page[place]? = some length ∧
      Bytes.slice? page (place + 1) length.toNat = some list := by
  rw [HoldsListAt, Bytes.standsAt_iff_slice?, List.length_cons, Bytes.slice?_eq_some_cons_iff]
  constructor
  · rintro ⟨hlength, hbyte, hslice⟩
    refine ⟨_, hbyte, ?_⟩
    rwa [UInt8.toNat_ofNat_of_lt' hlength]
  · rintro ⟨length, hbyte, hslice⟩
    rcases Bytes.slice?_eq_some_iff.1 hslice with ⟨hinside, hlist⟩
    have hlength : list.length = length.toNat := by
      rw [hlist, List.length_take, List.length_drop]
      omega
    rw [hlength, UInt8.ofNat_toNat]
    exact ⟨length.toNat_lt, hbyte, hslice⟩

theorem runProperties?_eq_some_iff {page list : Bytes} {runs run : Nat} :
    runProperties? page runs run = some list ↔ HasList page runs run list := by
  unfold runProperties? HasList
  rw [Option.bind_eq_bind, Option.bind_eq_some_iff]
  refine exists_congr fun half => and_congr_right fun _ => ?_
  have hzero : 2 * half.toNat = 0 ↔ half = 0 := by
    rw [← UInt8.toNat_inj, UInt8.toNat_zero]
    omega
  dsimp only
  rw [Option.ite_none_left_eq_some, hzero, holdsListAt_iff, Option.bind_eq_some_iff]

/-! ## Pages as they are written -/

/-- What a run of a page leads to. -/
inductive PageRun
  /-- No list; the byte of the run is zero. -/
  | bare
  /-- A list, and half the place where it stands. -/
  | listed (half : UInt8) (list : Bytes)
  /-- Half a place from which a list would reach behind the page. -/
  | astray (half : UInt8)

namespace PageRun

def half : PageRun → UInt8
  | bare => 0
  | listed half _ => half
  | astray half => half

def list? : PageRun → Option Bytes
  | bare => none
  | listed _ list => some list
  | astray _ => none

/-- The page has at its places what the run leads to. -/
def FitsIn (page : Bytes) : PageRun → Prop
  | bare => True
  | listed half list => half ≠ 0 ∧ HoldsListAt page (2 * half.toNat) list
  | astray half => ∃ length, page[2 * half.toNat]? = some length ∧
      page.length < 2 * half.toNat + 1 + length.toNat

end PageRun

/-- What is chosen for a page.  The lists may stand in any order, with gaps between them, and runs
may share them; there is room for 101 runs. -/
structure PageLayout where
  positions : Bytes
  runs : List PageRun
  area : Bytes
  length_positions : positions.length = 4 * (runs.length + 1)
  length_area : 5 * runs.length + area.length = 507

namespace PageLayout

variable (layout : PageLayout)

def bytes : Bytes :=
  layout.positions ++ (layout.runs.map PageRun.half ++ (layout.area ++
    [UInt8.ofNat layout.runs.length]))

theorem length_runs_le : layout.runs.length ≤ 101 := by
  have harea := layout.length_area
  omega

/-- The last byte of a page is the number of its runs. -/
theorem getLast?_bytes : (layout.bytes.getLast?.getD 0).toNat = layout.runs.length := by
  have hruns : layout.runs.length < UInt8.size :=
    Nat.lt_of_le_of_lt layout.length_runs_le (by decide)
  have hlast : layout.bytes.getLast? = some (UInt8.ofNat layout.runs.length) := by
    rw [bytes, ← List.append_assoc, ← List.append_assoc, List.getLast?_append,
      List.getLast?_singleton, Option.some_or]
  rw [hlast, Option.getD_some, UInt8.toNat_ofNat_of_lt' hruns]

/-- The bytes of the runs stand behind the positions, of which there is one more. -/
theorem getElem?_bytes {run : Nat} {pageRun : PageRun} (hrun : layout.runs[run]? = some pageRun) :
    layout.bytes[4 * (layout.runs.length + 1) + run]? = some pageRun.half := by
  have hinside : run < layout.runs.length := (List.getElem?_eq_some_iff.1 hrun).1
  rw [bytes, ← layout.length_positions, List.getElem?_append_right (Nat.le_add_right _ _),
    Nat.add_sub_cancel_left, List.getElem?_append_left (by rwa [List.length_map]),
    List.getElem?_map, hrun, Option.map_some]

theorem runProperties?_bytes {run : Nat} {pageRun : PageRun}
    (hrun : layout.runs[run]? = some pageRun) (hfits : pageRun.FitsIn layout.bytes) :
    runProperties? layout.bytes layout.runs.length run = pageRun.list? := by
  have hhalf := layout.getElem?_bytes hrun
  cases pageRun with
  | bare =>
      refine Option.eq_none_iff_forall_ne_some.2 fun list hlist => ?_
      rcases runProperties?_eq_some_iff.1 hlist with ⟨half, hbyte, hzero, -⟩
      rw [hhalf] at hbyte
      exact hzero (Option.some.inj hbyte).symm
  | listed half list =>
      exact runProperties?_eq_some_iff.2 ⟨half, hhalf, hfits⟩
  | astray half =>
      refine Option.eq_none_iff_forall_ne_some.2 fun list hlist => ?_
      rcases runProperties?_eq_some_iff.1 hlist with ⟨other, hbyte, -, hholds⟩
      rcases hfits with ⟨length, hlength, houtside⟩
      rcases holdsListAt_iff.1 hholds with ⟨told, htold, hslice⟩
      -- The byte that tells the length tells one that leaves the page.
      cases hhalf.symm.trans hbyte
      cases hlength.symm.trans htold
      exact absurd (Bytes.slice?_eq_some_iff.1 hslice).1 (Nat.not_le.2 houtside)

end PageLayout

/-- What is read of a list by position is read of its elements. -/
theorem filterMap_range_getElem? {α β : Type} (list : List α) (f : α → Option β) :
    ((List.range list.length).filterMap fun index => list[index]?.bind f) = list.filterMap f := by
  -- From the back, so that the elements in front keep their positions.
  induction list using List.reverseRecOn with
  | nil => rfl
  | append_singleton list a ih =>
      have hfront : ((List.range list.length).filterMap fun index => (list ++ [a])[index]?.bind f) =
          (List.range list.length).filterMap fun index => list[index]?.bind f := by
        refine List.filterMap_congr fun index hindex => ?_
        rw [List.getElem?_append_left (List.mem_range.1 hindex)]
      have hlast : (list ++ [a])[list.length]? = some a := List.getElem?_concat_length
      rw [List.length_append, List.length_singleton, List.range_succ, List.filterMap_append, hfront,
        ih, List.filterMap_append]
      simp only [List.filterMap_cons, List.filterMap_nil, hlast, Option.bind_some]

/-- Of a page as it was written the lists are read in the order of the runs. -/
theorem pageProperties_bytes (layout : PageLayout)
    (hfits : ∀ run ∈ layout.runs, run.FitsIn layout.bytes) :
    pageProperties layout.bytes = layout.runs.filterMap PageRun.list? := by
  have hruns : ∀ run ∈ List.range layout.runs.length,
      runProperties? layout.bytes layout.runs.length run =
        layout.runs[run]?.bind PageRun.list? := by
    intro run hrun
    have hpage := List.getElem?_eq_getElem (List.mem_range.1 hrun)
    rw [hpage, Option.bind_some]
    exact layout.runProperties?_bytes hpage (hfits _ (List.getElem_mem _))
  calc
    pageProperties layout.bytes =
        (List.range layout.runs.length).filterMap
          (runProperties? layout.bytes layout.runs.length) := by
      rw [pageProperties, layout.getLast?_bytes]
    _ = (List.range layout.runs.length).filterMap
          fun run => layout.runs[run]?.bind PageRun.list? := List.filterMap_congr hruns
    _ = layout.runs.filterMap PageRun.list? := filterMap_range_getElem? _ _

/-- Of any page the list of each run is read, or none, and one run has no part in what is read of
another. -/
theorem exists_pageProperties_eq (page : Bytes) :
    ∃ lists : List (Option Bytes), lists.length = (page.getLast?.getD 0).toNat ∧
      (∀ run list, lists[run]? = some (some list) ↔
        run < lists.length ∧ HasList page lists.length run list) ∧
      pageProperties page = lists.filterMap id := by
  refine ⟨(List.range (page.getLast?.getD 0).toNat).map
    (runProperties? page (page.getLast?.getD 0).toNat), ?_, ?_, ?_⟩
  · rw [List.length_map, List.length_range]
  · intro run list
    rw [List.length_map, List.length_range, ← runProperties?_eq_some_iff, List.getElem?_map,
      Option.map_eq_some_iff]
    constructor
    · rintro ⟨index, hindex, hlist⟩
      rcases List.getElem?_eq_some_iff.1 hindex with ⟨hrun, rfl⟩
      rw [List.getElem_range] at hlist
      rw [List.length_range] at hrun
      exact ⟨hrun, hlist⟩
    · rintro ⟨hrun, hlist⟩
      exact ⟨run, List.getElem?_range hrun, hlist⟩
  · rw [List.filterMap_map]
    rfl

/-! ## Tables of pages -/

/-- The number of pages in a table, which has one more position of the text than pages. -/
def pageCount (table : Bytes) : Nat :=
  (table.length - 4) / 8

/-- The number in the place of a page, behind all positions. -/
def numberAt (table : Bytes) (index : Nat) : Nat :=
  table.valueAt (4 * (pageCount table + 1 + index)) 4

def listedNumbers (table : Bytes) : List Nat :=
  (List.range (pageCount table)).map (numberAt table)

def pagePlace (number : Nat) : Nat :=
  512 * (number % 0x400000)

/-- The page of a number lies inside the stream. -/
def IsInside (stream : Bytes) (number : Nat) : Prop :=
  pagePlace number + 512 ≤ stream.length

instance (stream : Bytes) (number : Nat) : Decidable (IsInside stream number) :=
  inferInstanceAs (Decidable (_ ≤ _))

/-- The locations of the runs of a page; a page outside the stream has none. -/
def locationsAt (stream : Bytes) (number : Nat) : List UInt32 :=
  if IsInside stream number then
    (pageProperties ((stream.drop (pagePlace number)).take 512)).filterMap pictureLocation?
  else
    []

theorem pageLocations_eq (stream : Bytes) (number : Nat) :
    pageLocations stream (number % pageNumberCount) = locationsAt stream number := by
  have hplace : pageLength * (number % pageNumberCount) = pagePlace number := rfl
  by_cases hinside : IsInside stream number
  · have hslice : Bytes.slice? stream (pagePlace number) pageLength =
        some ((stream.drop (pagePlace number)).take 512) := if_pos hinside
    rw [pageLocations, hplace, hslice, locationsAt, if_pos hinside]
  · have hslice : Bytes.slice? stream (pagePlace number) pageLength = none := if_neg hinside
    rw [pageLocations, hplace, hslice, locationsAt, if_neg hinside]

/-- All numbers of a table lie inside it. -/
theorem pageNumbers_eq (table : Bytes) :
    pageNumbers table = (listedNumbers table).map (· % pageNumberCount) := by
  have hnumber : ∀ index ∈ List.range (pageCount table),
      (Bytes.u32? table (4 * (pageCount table + 1 + index))).map (·.toNat % pageNumberCount) =
        some (numberAt table index % pageNumberCount) := by
    intro index hindex
    have hless := List.mem_range.1 hindex
    have hinside : ¬ table.length < 4 * (pageCount table + 1 + index) + 4 := by
      unfold pageCount at hless ⊢
      omega
    have hvalue : (UInt32.ofNat (numberAt table index)).toNat = numberAt table index :=
      UInt32.toNat_ofNat_of_lt' (Bytes.valueAt_lt table _ 4)
    rw [Bytes.u32?, Bytes.natAt?_eq _ _ (by decide), if_neg hinside, Option.map_some,
      Option.map_some, ← numberAt, hvalue]
  rw [pageNumbers, listedNumbers, List.map_map, ← List.filterMap_eq_map]
  exact List.filterMap_congr hnumber

/-- The locations of all pages in the order of the table, each at its first place. -/
theorem pictureLocations_eq (stream table : Bytes) :
    pictureLocations stream table =
      ((listedNumbers table).flatMap (locationsAt stream)).eraseDups := by
  rw [pictureLocations, firstOccurrences_eq_eraseDups, pageNumbers_eq, List.flatMap_map]
  simp only [pageLocations_eq]

/-- The numbers of a table as it was written are those that are read, and no position of the text is
taken for one. -/
theorem listedNumbers_bytes (positions rest : Bytes) (numbers : List UInt32)
    (hpositions : positions.length = 4 * (numbers.length + 1)) (hrest : rest.length < 8) :
    listedNumbers (positions ++ (numbers.flatMap Bytes.ofU32 ++ rest)) =
      numbers.map UInt32.toNat := by
  have hwidth : (numbers.flatMap Bytes.ofU32).length = 4 * numbers.length := by
    simp [List.length_flatMap, Nat.mul_comm]
  have hcount : pageCount (positions ++ (numbers.flatMap Bytes.ofU32 ++ rest)) =
      numbers.length := by
    rw [pageCount, List.length_append, List.length_append, hwidth, hpositions]
    omega
  have hdrop : (positions ++ (numbers.flatMap Bytes.ofU32 ++ rest)).drop (4 * (numbers.length + 1)) =
      numbers.flatMap Bytes.ofU32 ++ rest := List.drop_left' hpositions
  refine List.ext_getElem ?_ fun index hleft hright => ?_
  · rw [listedNumbers, List.length_map, List.length_range, hcount, List.length_map]
  · rw [List.length_map] at hright
    have hholds := Bytes.holds_of_drop_flatMap_u32 hdrop (List.getElem?_eq_getElem hright)
    simp only [listedNumbers, List.getElem_map, List.getElem_range, numberAt, hcount]
    rw [Nat.mul_add]
    exact hholds.1

/-- Numbers of pages outside the stream can stand anywhere in a table. -/
theorem pictureLocations_congr {stream table otherTable : Bytes}
    (h : (listedNumbers table).filter (IsInside stream ·) =
      (listedNumbers otherTable).filter (IsInside stream ·)) :
    pictureLocations stream table = pictureLocations stream otherTable := by
  have hinside : ∀ numbers : List Nat, numbers.flatMap (locationsAt stream) =
      (numbers.filter (IsInside stream ·)).flatMap (locationsAt stream) := by
    intro numbers
    induction numbers with
    | nil => rfl
    | cons number numbers ih =>
        rw [List.filter_cons, List.flatMap_cons, ih]
        by_cases hnumber : IsInside stream number
        · rw [if_pos (decide_eq_true hnumber), List.flatMap_cons]
        · have hnone : locationsAt stream number = [] := if_neg hnumber
          rw [if_neg (by simpa using hnumber), hnone, List.nil_append]
  rw [pictureLocations_eq, pictureLocations_eq, hinside (listedNumbers table),
    hinside (listedNumbers otherTable), h]

/-- The picture locations of a document are those of the runs on the pages of its table, page by page
and run by run, each once.  The numbers of a table and the lists of a page are read as they were
written; what leads outside the stream or its page takes nothing away from the others. -/
theorem pictureLocations_of_pages :
    (∀ stream table : Bytes, pictureLocations stream table =
      ((listedNumbers table).flatMap (locationsAt stream)).eraseDups) ∧
    (∀ (positions rest : Bytes) (numbers : List UInt32),
      positions.length = 4 * (numbers.length + 1) → rest.length < 8 →
        listedNumbers (positions ++ (numbers.flatMap Bytes.ofU32 ++ rest)) =
          numbers.map UInt32.toNat) ∧
    (∀ layout : PageLayout, (∀ run ∈ layout.runs, run.FitsIn layout.bytes) →
      pageProperties layout.bytes = layout.runs.filterMap PageRun.list?) ∧
    (∀ page : Bytes, ∃ lists : List (Option Bytes),
      lists.length = (page.getLast?.getD 0).toNat ∧
        (∀ run list, lists[run]? = some (some list) ↔
          run < lists.length ∧ HasList page lists.length run list) ∧
        pageProperties page = lists.filterMap id) ∧
    (∀ stream table otherTable : Bytes,
      (listedNumbers table).filter (IsInside stream ·) =
        (listedNumbers otherTable).filter (IsInside stream ·) →
          pictureLocations stream table = pictureLocations stream otherTable) ∧
    ∀ stream table : Bytes, (pictureLocations stream table).Nodup := by
  refine ⟨pictureLocations_eq, listedNumbers_bytes, pageProperties_bytes, exists_pageProperties_eq,
    fun _ _ _ h => pictureLocations_congr h, fun stream table => ?_⟩
  rw [pictureLocations_eq]
  exact nodup_eraseDups _

/-- The changes of a picture with its data at 48. -/
def sharedList : Bytes :=
  [0x55, 0x08, 1, 0x03, 0x6A, 0x30, 0, 0, 0]

/-- A page of four runs: two of them share a list, one has none, and the list of one would reach
behind the page. -/
def sharedPage : PageLayout where
  positions := List.replicate 20 0
  runs := [.listed 128 sharedList, .bare, .astray 255, .listed 128 sharedList]
  area := List.replicate 232 0 ++ (9 :: (sharedList ++ List.replicate 245 0xFF))
  length_positions := rfl
  length_area := by decide +kernel

theorem fitsIn_sharedPage : ∀ run ∈ sharedPage.runs, run.FitsIn sharedPage.bytes := by
  have hlist : HoldsListAt sharedPage.bytes 256 sharedList :=
    holdsListAt_iff.2 ⟨9, by decide +kernel, by decide +kernel⟩
  intro run hrun
  have hruns : sharedPage.runs = [.listed 128 sharedList, .bare, .astray 255,
    .listed 128 sharedList] := rfl
  simp only [hruns, List.mem_cons, List.not_mem_nil, or_false] at hrun
  rcases hrun with rfl | rfl | rfl | rfl
  · exact ⟨by decide, hlist⟩
  · trivial
  · exact ⟨0xFF, by decide +kernel, by decide +kernel⟩
  · exact ⟨by decide, hlist⟩

/-- The second page of a stream is that page; a number of a table that leads outside, whatever is in
its upper bits, takes nothing away. -/
theorem pictureLocations_of_pages_shared :
    pageProperties sharedPage.bytes = [sharedList, sharedList] ∧
    listedNumbers (List.replicate 12 7 ++ ([7, 0xFFC00001].flatMap Bytes.ofU32 ++ [0])) =
      [7, 0xFFC00001] ∧
    pictureLocations (List.replicate 512 0 ++ sharedPage.bytes)
        (List.replicate 12 7 ++ ([7, 0xFFC00001].flatMap Bytes.ofU32 ++ [0])) =
      pictureLocations (List.replicate 512 0 ++ sharedPage.bytes)
        (List.replicate 8 0 ++ [1, 0, 0xC0, 0xFF]) ∧
    pictureLocations (List.replicate 512 0 ++ sharedPage.bytes)
        (List.replicate 8 0 ++ [1, 0, 0xC0, 0xFF]) = [48] := by
  obtain ⟨hlocations, hnumbers, hpage, -, hcongr, -⟩ := pictureLocations_of_pages
  refine ⟨hpage sharedPage fitsIn_sharedPage,
    hnumbers (List.replicate 12 7) [0] [7, 0xFFC00001] (by decide) (by decide), ?_, ?_⟩
  · exact hcongr _ _ _ (by decide +kernel)
  · rw [hlocations]
    decide +kernel

end Word
end OfficePictures
