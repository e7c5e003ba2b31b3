import Mathlib.Data.List.Forall2
import Mathlib.Data.List.Pairwise
import OfficePictures.Proofs.Package.Document
import OfficePictures.Proofs.Package.Miniature
import OfficePictures.Proofs.Text.Path

/-!
# PictureParts — which parts are listed as pictures

The relationships of a package refer to its picture parts, some of them several times and in other
spellings, and to parts that are not there.  Each picture part is listed once, under the name of the
first reference to it.

* `Reference.Means.find?_eq_iff` — two references mean the same part if and only if their targets
  differ at most in letter case;
* `Reference.Means`, `references` — what a relationship means, and all relationships in their order;
* `IsPictureListing` — what is listed of references, which nothing else satisfies;
* `pictureParts_listing` — all of this for the parts that are listed, and for what is read of them.
-/

namespace OfficePictures
namespace Package

variable {package : Package} {root : List Char} {name other : PartName} {part : Archive.Entry}
  {names parts : List PartName}

/-! ## Targets -/

theorem mem_startOf {folder path segment : List Char} (h : segment ∈ startOf folder path) :
    segment ≠ [] ∧ '/' ∉ segment := by
  unfold startOf at h
  split at h
  · cases h
  · rcases List.mem_filter.1 h with ⟨hsegment, hne⟩
    exact ⟨of_decide_eq_true hne, Text.sep_notMem_of_mem_split hsegment⟩

/-- A target does not begin with a slash once it is resolved, so its key is its lower case. -/
theorem key_of_resolveTarget? {folder target : List Char}
    (h : resolveTarget? folder target = some name) : PartName.key name = Text.lower name := by
  rcases Option.bind_eq_some_iff.1 h with ⟨place, hplace, h⟩
  have hhead : name.head? ≠ some '/' := by
    split at h
    · cases h
    · cases h
      refine Text.head?_join_ne fun segment hmem => ?_
      rcases Text.mem_of_follow? hplace hmem with hstart | ⟨hname, hslash⟩
      · exact mem_startOf hstart
      · exact ⟨fun hnil => hname.1 (.inl hnil), hslash⟩
  have hdrop : name.dropWhile (· = '/') = name := by
    cases name with
    | nil => rfl
    | cons first rest =>
        have hfirst : first ≠ '/' := fun hslash => hhead (congrArg some hslash)
        simp [hfirst]
  rw [PartName.key, hdrop]

/-! ## Parts -/

theorem key_of_find? (h : package.find? name = some part) :
    PartName.key part.name = PartName.key name := by
  have hfound := List.find?_some h
  exact of_decide_eq_true hfound

theorem find?_congr (h : PartName.key name = PartName.key other) :
    package.find? name = package.find? other := by
  rw [find?, find?, findIn?, findIn?, h]

theorem find?_eq_iff_key_eq (h : package.find? name = some part) :
    package.find? name = package.find? other ↔ PartName.key name = PartName.key other := by
  constructor
  · intro hsame
    exact (key_of_find? h).symm.trans (key_of_find? (hsame ▸ h))
  · exact find?_congr

/-! ## Distinct names -/

theorem distinct_cons (name : PartName) (names : List PartName) :
    distinct (name :: names) =
      name :: distinct (names.filter fun other => ¬ Text.lower other = Text.lower name) := by
  simp [distinct, List.eraseDupsBy_cons]

/-- The names are gone through one by one, each time without those that are like it. -/
theorem distinct_induction {P : List PartName → Prop} (nil : P [])
    (cons : ∀ name names, P (names.filter fun other => ¬ Text.lower other = Text.lower name) →
      P (name :: names)) (names : List PartName) : P names := by
  induction hlength : names.length using Nat.strongRecOn generalizing names with
  | ind size ih =>
      cases names with
      | nil => exact nil
      | cons name names =>
          refine cons name names (ih _ ?_ _ rfl)
          rw [← hlength, List.length_cons]
          exact Nat.lt_succ_of_le (List.length_filter_le _ _)

theorem exists_mem_distinct (h : name ∈ names) :
    ∃ listed ∈ distinct names, Text.lower listed = Text.lower name := by
  induction names using distinct_induction with
  | nil => cases h
  | cons first names ih =>
      rw [distinct_cons]
      by_cases hlike : Text.lower name = Text.lower first
      · exact ⟨first, List.mem_cons_self .., hlike.symm⟩
      · rcases List.mem_cons.1 h with rfl | h
        · exact absurd rfl hlike
        · rcases ih (List.mem_filter.2 ⟨h, decide_eq_true hlike⟩) with ⟨listed, hlisted, hsame⟩
          exact ⟨listed, List.mem_cons_of_mem _ hlisted, hsame⟩

/-- Everything in front of a listed name is like one that is listed in front of it. -/
theorem exists_of_distinct_eq_append {front back : List PartName}
    (h : distinct names = front ++ name :: back) :
    ∃ before after, names = before ++ name :: after ∧
      ∀ earlier ∈ before, ∃ listed ∈ front, Text.lower listed = Text.lower earlier := by
  induction names using distinct_induction generalizing front with
  | nil =>
      rw [show distinct [] = [] from rfl] at h
      cases front <;> cases h
  | cons first names ih =>
      rw [distinct_cons] at h
      cases front with
      | nil =>
          cases h
          exact ⟨[], names, rfl, fun _ hearlier => absurd hearlier List.not_mem_nil⟩
      | cons listed front =>
          rw [List.cons_append] at h
          rcases List.cons.inj h with ⟨rfl, htail⟩
          rcases ih htail with ⟨before, after, hsplit, hbefore⟩
          rcases List.filter_eq_append_iff.1 hsplit with ⟨before', rest, rfl, rfl, hrest⟩
          rcases List.filter_eq_cons_iff.1 hrest with ⟨between, after', rfl, hbetween, -, -⟩
          refine ⟨first :: (before' ++ between), after', by simp, ?_⟩
          intro earlier hearlier
          -- What was left out on the way is like the first name.
          by_cases hlike : Text.lower earlier = Text.lower first
          · exact ⟨first, List.mem_cons_self .., hlike.symm⟩
          · rcases List.mem_cons.1 hearlier with rfl | hearlier
            · exact absurd rfl hlike
            rcases List.mem_append.1 hearlier with hearlier | hearlier
            · rcases hbefore earlier (List.mem_filter.2 ⟨hearlier, decide_eq_true hlike⟩) with
                ⟨listed, hlisted, hsame⟩
              exact ⟨listed, List.mem_cons_of_mem _ hlisted, hsame⟩
            · exact absurd (decide_eq_true hlike) (hbetween earlier hearlier)

theorem mem_of_mem_distinct (h : name ∈ distinct names) : name ∈ names := by
  rcases List.append_of_mem h with ⟨front, back, hsplit⟩
  rcases exists_of_distinct_eq_append hsplit with ⟨before, after, rfl, -⟩
  exact List.mem_append_right _ (List.mem_cons_self ..)

theorem pairwise_distinct (names : List PartName) :
    (distinct names).Pairwise fun name other => Text.lower name ≠ Text.lower other := by
  induction names using distinct_induction with
  | nil => exact .nil
  | cons first names ih =>
      rw [distinct_cons]
      refine .cons ?_ ih
      intro other hother
      have hunlike := (List.mem_filter.1 (mem_of_mem_distinct hother)).2
      exact fun hlike => of_decide_eq_true hunlike hlike.symm

/-! ## References -/

/-- A relationship, with the folder to which its target is relative. -/
structure Reference where
  folder : List Char
  relationship : Relationship
  deriving DecidableEq, Repr

/-- The relationships of all parts under `root`, in their order. -/
def references [Toolkit] (package : Package) (root : List Char) : Except Fault (List Reference) :=
  Walk.gatherItems
    (fun (name, folder) =>
      (package.relationships name).map fun found => (found.getD []).map (Reference.mk folder))
    (relationshipPartsUnder package.partNames root)

/-- The reference is to a picture, by the given name and in the given part of the package. -/
structure Reference.Means (reference : Reference) (package : Package) (name : PartName)
    (part : Archive.Entry) : Prop where
  isInside : reference.relationship.isExternal = false
  isPicture : "/image".toList <:+ reference.relationship.type.toList
  resolve_eq : resolveTarget? reference.folder reference.relationship.target = some name
  find?_eq : package.find? name = some part

/-- Two references mean the same part if and only if their names differ at most in letter case. -/
theorem Reference.Means.find?_eq_iff {reference reference' : Reference} {part' : Archive.Entry}
    (hname : reference.Means package name part) (hother : reference'.Means package other part') :
    package.find? name = package.find? other ↔ Text.lower name = Text.lower other := by
  rw [find?_eq_iff_key_eq hname.find?_eq, key_of_resolveTarget? hname.resolve_eq,
    key_of_resolveTarget? hother.resolve_eq]

/-- The name by which a reference means a picture, if it means one. -/
def pictureTarget? (package : Package) (reference : Reference) : Option PartName :=
  if reference.relationship.isInternal "/image" then
    (resolveTarget? reference.folder reference.relationship.target).filter package.contains
  else
    none

theorem pictureTarget?_eq_some_iff {reference : Reference} :
    package.pictureTarget? reference = some name ↔ ∃ part, reference.Means package name part := by
  have hinternal : reference.relationship.isInternal "/image" = true ↔
      reference.relationship.isExternal = false ∧
        "/image".toList <:+ reference.relationship.type.toList := by
    simp [Relationship.isInternal]
  unfold pictureTarget?
  constructor
  · intro h
    split at h
    · rename_i htype
      rcases Option.filter_eq_some_iff.1 h with ⟨hresolve, hcontains⟩
      rcases Option.isSome_iff_exists.1 hcontains with ⟨part, hpart⟩
      rcases hinternal.1 htype with ⟨hinside, hpicture⟩
      exact ⟨part, hinside, hpicture, hresolve, hpart⟩
    · cases h
  · rintro ⟨part, hmeans⟩
    rw [if_pos (hinternal.2 ⟨hmeans.isInside, hmeans.isPicture⟩)]
    refine Option.filter_eq_some_iff.2 ⟨hmeans.resolve_eq, ?_⟩
    rw [contains, hmeans.find?_eq]
    rfl

/-- The reference is to a picture in the package. -/
def Reference.IsMeaningful (reference : Reference) (package : Package) : Prop :=
  ∃ name part, reference.Means package name part

instance (reference : Reference) : Decidable (reference.IsMeaningful package) :=
  decidable_of_iff ((package.pictureTarget? reference).isSome = true) <| by
    rw [Option.isSome_iff_exists]
    exact exists_congr fun _ => pictureTarget?_eq_some_iff

theorem pictureTargets_eq (package : Package) (folder : List Char)
    (relationships : List Relationship) :
    package.pictureTargets folder relationships =
      (relationships.map (Reference.mk folder)).filterMap package.pictureTarget? := by
  rw [List.filterMap_map]
  rfl

theorem pictureParts_eq [Toolkit] (package : Package) (root : List Char) :
    package.pictureParts root =
      (package.references root).map fun references =>
        distinct (references.filterMap package.pictureTarget?) := by
  have htargets : ∀ file : PartName × List Char,
      ((package.relationships file.1).map fun found =>
          package.pictureTargets file.2 (found.getD [])) =
        ((package.relationships file.1).map fun found =>
          (found.getD []).map (Reference.mk file.2)).map
            (List.filterMap package.pictureTarget?) := by
    intro file
    cases package.relationships file.1 with
    | error fault => rfl
    | ok found => exact congrArg Except.ok (package.pictureTargets_eq file.2 (found.getD []))
  simp only [pictureParts, htargets, Walk.gatherItems_filterMap, references]
  cases Walk.gatherItems _ (relationshipPartsUnder package.partNames root) <;> rfl

/-- The references are the relationships in the parts that hold those of parts under `root`. -/
theorem mem_references_iff [Toolkit] {references : List Reference} {reference : Reference}
    (h : package.references root = .ok references) :
    reference ∈ references ↔
      ∃ file ∈ relationshipPartsUnder package.partNames root, file.2 = reference.folder ∧
        ∃ relationships, package.relationships file.1 = .ok (some relationships) ∧
          reference.relationship ∈ relationships := by
  constructor
  · intro hmem
    rcases Walk.mem_of_gatherItems h hmem with ⟨file, hfile, list, hlist, hreference⟩
    rcases Result.exists_of_map hlist with ⟨found, hfound, rfl⟩
    rcases List.mem_map.1 hreference with ⟨relationship, hrelationship, rfl⟩
    cases found with
    | none => cases hrelationship
    | some relationships => exact ⟨file, hfile, rfl, relationships, hfound, hrelationship⟩
  · rintro ⟨file, hfile, hfolder, relationships, hfound, hrelationship⟩
    have hreference : reference ∈ relationships.map (Reference.mk file.2) :=
      List.mem_map.2 ⟨reference.relationship, hrelationship, by rw [hfolder]⟩
    refine Walk.mem_gatherItems_of_mem h hfile ?_ hreference
    dsimp only
    rw [hfound]
    rfl

/-! ## Listings -/

/-- What is listed of references: each part that they mean, by the name that the first reference to
it gives, in the order of these. -/
structure IsPictureListing (package : Package) (references : List Reference)
    (names : List PartName) : Prop where
  contained : ∀ name ∈ names, ∃ part, package.find? name = some part
  different : names.Pairwise fun name other => package.find? name ≠ package.find? other
  unique : ∀ reference ∈ references, ∀ name part, reference.Means package name part →
    ∃! listed, listed ∈ names ∧ package.find? listed = some part
  first : ∀ front name back, names = front ++ name :: back →
    ∃ before reference after part, references = before ++ reference :: after ∧
      reference.Means package name part ∧
        ∀ earlier ∈ before, ∀ other part', earlier.Means package other part' →
          part' ≠ part ∧ ∃ listed ∈ front, package.find? listed = some part'

theorem mem_pictureTargets_iff {references : List Reference} :
    name ∈ references.filterMap package.pictureTarget? ↔
      ∃ reference ∈ references, ∃ part, reference.Means package name part := by
  simp only [List.mem_filterMap, pictureTarget?_eq_some_iff]

theorem find?_eq_iff_of_mem_pictureTargets {references : List Reference}
    (hname : name ∈ references.filterMap package.pictureTarget?)
    (hother : other ∈ references.filterMap package.pictureTarget?) :
    package.find? name = package.find? other ↔ Text.lower name = Text.lower other := by
  rcases mem_pictureTargets_iff.1 hname with ⟨_, -, _, hmeans⟩
  rcases mem_pictureTargets_iff.1 hother with ⟨_, -, _, hmeans'⟩
  exact hmeans.find?_eq_iff hmeans'

theorem pairwise_find?_distinct (package : Package) (references : List Reference) :
    (distinct (references.filterMap package.pictureTarget?)).Pairwise
      fun name other => package.find? name ≠ package.find? other := by
  refine (pairwise_distinct _).imp_of_mem ?_
  intro name other hname hother hunlike hsame
  exact hunlike ((find?_eq_iff_of_mem_pictureTargets (mem_of_mem_distinct hname)
    (mem_of_mem_distinct hother)).1 hsame)

/-- Names that mean different parts are told apart by these. -/
theorem eq_of_find?_eq
    (h : names.Pairwise fun name other => package.find? name ≠ package.find? other)
    (hname : name ∈ names) (hother : other ∈ names)
    (hsame : package.find? name = package.find? other) : name = other := by
  have hsymm : Std.Symm fun name other => package.find? name ≠ package.find? other :=
    ⟨fun _ _ => Ne.symm⟩
  by_contra hne
  exact h.forall hname hother hne hsame

theorem find?_ne_of_mem_front {front back : List PartName} {listed : PartName}
    (h : names.Pairwise fun name other => package.find? name ≠ package.find? other)
    (hsplit : names = front ++ name :: back) (hname : package.find? name = some part)
    (hlisted : listed ∈ front) : package.find? listed ≠ some part := by
  rw [hsplit] at h
  have hne := (List.pairwise_append.1 h).2.2 listed hlisted name (List.mem_cons_self ..)
  rwa [hname] at hne

/-- The distinct names by which the references mean pictures are a listing. -/
theorem isPictureListing_distinct (package : Package) (references : List Reference) :
    package.IsPictureListing references
      (distinct (references.filterMap package.pictureTarget?)) where
  contained := by
    intro name hname
    rcases mem_pictureTargets_iff.1 (mem_of_mem_distinct hname) with ⟨_, -, part, hmeans⟩
    exact ⟨part, hmeans.find?_eq⟩
  different := pairwise_find?_distinct package references
  unique := by
    intro reference hreference name part hmeans
    have hname : name ∈ references.filterMap package.pictureTarget? :=
      mem_pictureTargets_iff.2 ⟨reference, hreference, part, hmeans⟩
    rcases exists_mem_distinct hname with ⟨listed, hlisted, hlike⟩
    have hfound : package.find? listed = some part :=
      ((find?_eq_iff_of_mem_pictureTargets (mem_of_mem_distinct hlisted) hname).2 hlike).trans
        hmeans.find?_eq
    refine ⟨listed, ⟨hlisted, hfound⟩, ?_⟩
    rintro listed' ⟨hlisted', hfound'⟩
    exact eq_of_find?_eq (pairwise_find?_distinct package references) hlisted' hlisted
      (hfound'.trans hfound.symm)
  first := by
    intro front name back hsplit
    rcases exists_of_distinct_eq_append hsplit with ⟨before, after, htargets, hbefore⟩
    rcases List.filterMap_eq_append_iff.1 htargets with ⟨before', rest, hreferences, rfl, hrest⟩
    rcases List.filterMap_eq_cons_iff.1 hrest with
      ⟨skipped, reference, after', rfl, hskipped, htarget, -⟩
    rcases pictureTarget?_eq_some_iff.1 htarget with ⟨part, hmeans⟩
    refine ⟨before' ++ skipped, reference, after', part, by simp [hreferences], hmeans, ?_⟩
    intro earlier hearlier other part' hmeans'
    have htarget' := pictureTarget?_eq_some_iff.2 ⟨part', hmeans'⟩
    rcases List.mem_append.1 hearlier with hearlier | hearlier
    · rcases hbefore other (List.mem_filterMap.2 ⟨earlier, hearlier, htarget'⟩) with
        ⟨listed, hlisted, hlike⟩
      have hmem : listed ∈ distinct (references.filterMap package.pictureTarget?) :=
        hsplit ▸ List.mem_append_left _ hlisted
      have hother : other ∈ references.filterMap package.pictureTarget? :=
        mem_pictureTargets_iff.2
          ⟨earlier, hreferences ▸ List.mem_append_left _ hearlier, part', hmeans'⟩
      have hfound : package.find? listed = some part' :=
        ((find?_eq_iff_of_mem_pictureTargets (mem_of_mem_distinct hmem) hother).2 hlike).trans
          hmeans'.find?_eq
      refine ⟨?_, listed, hlisted, hfound⟩
      rintro rfl
      exact find?_ne_of_mem_front (pairwise_find?_distinct package references) hsplit
        hmeans.find?_eq hlisted hfound
    · rw [hskipped earlier hearlier] at htarget'
      cases htarget'

namespace IsPictureListing

variable {references : List Reference}

/-- Two listings of the same references agree as far as they go. -/
theorem isPrefix (h : package.IsPictureListing references names) {names' : List PartName}
    (h' : package.IsPictureListing references names') {front back : List PartName}
    (hsplit : names = front ++ back) : front <+: names' := by
  induction hlength : front.length generalizing front back with
  | zero =>
      rw [List.length_eq_zero_iff.1 hlength]
      exact List.nil_prefix
  | succ length ih =>
      rcases List.eq_nil_or_concat front with rfl | ⟨earlier, name, rfl⟩
      · cases hlength
      rw [List.concat_eq_append] at hsplit hlength ⊢
      rw [List.append_assoc, List.singleton_append] at hsplit
      rcases ih hsplit (by simpa using hlength) with ⟨back', hsplit'⟩
      rcases h.first earlier name back hsplit with
        ⟨before, reference, after, part, hreferences, hmeans, hbefore⟩
      have hmem : reference ∈ references := hreferences ▸ List.mem_append_right _ (by simp)
      have hnew : ∀ listed ∈ earlier, package.find? listed ≠ some part :=
        fun _ => find?_ne_of_mem_front h.different hsplit hmeans.find?_eq
      rcases h'.unique reference hmem name part hmeans with ⟨listed, ⟨hlisted, hfound⟩, -⟩
      cases back' with
      | nil =>
          rw [List.append_nil] at hsplit'
          exact absurd hfound (hnew listed (hsplit' ▸ hlisted))
      | cons next back' =>
          rcases h'.first earlier next back' hsplit'.symm with
            ⟨before', reference', after', part', hreferences', hmeans', hbefore'⟩
          have hnew' : ∀ listed ∈ earlier, package.find? listed ≠ some part' :=
            fun _ => find?_ne_of_mem_front h'.different hsplit'.symm hmeans'.find?_eq
          -- Whichever of the two references came first would be to an earlier name.
          have hsame : reference = reference' := by
            rcases List.append_eq_append_iff.1 (hreferences.symm.trans hreferences') with
              ⟨between, rfl, hrest⟩ | ⟨between, rfl, hrest⟩
            · cases between with
              | nil => exact (List.cons.inj hrest).1
              | cons first between =>
                  cases hrest
                  rcases hbefore' reference (by simp) name part hmeans with
                    ⟨-, listed, hlisted, hfound⟩
                  exact absurd hfound (hnew listed hlisted)
            · cases between with
              | nil => exact (List.cons.inj hrest).1.symm
              | cons first between =>
                  cases hrest
                  rcases hbefore reference' (by simp) next part' hmeans' with
                    ⟨-, listed, hlisted, hfound⟩
                  exact absurd hfound (hnew' listed hlisted)
          subst hsame
          have hname : name = next :=
            Option.some.inj (hmeans.resolve_eq.symm.trans hmeans'.resolve_eq)
          exact ⟨back', by rw [← hsplit', hname, List.append_assoc, List.singleton_append]⟩

theorem eq (h : package.IsPictureListing references names) {names' : List PartName}
    (h' : package.IsPictureListing references names') : names = names' := by
  have hfront : names <+: names' := h.isPrefix h' (List.append_nil names).symm
  have hback : names' <+: names := h'.isPrefix h (List.append_nil names').symm
  exact hfront.eq_of_length (Nat.le_antisymm hfront.length_le hback.length_le)

end IsPictureListing

/-- References that mean nothing in the package do not matter, and the listing is the only one. -/
theorem isPictureListing_iff {references others : List Reference}
    (h : others.filter (·.IsMeaningful package) = references.filter (·.IsMeaningful package)) :
    package.IsPictureListing others names ↔
      names = distinct (references.filterMap package.pictureTarget?) := by
  have hsift : ∀ list : List Reference,
      (list.filter (·.IsMeaningful package)).filterMap package.pictureTarget? =
        list.filterMap package.pictureTarget? := by
    intro list
    rw [List.filterMap_filter]
    refine List.filterMap_congr ?_
    intro reference _
    by_cases hmeaningful : reference.IsMeaningful package
    · simp [hmeaningful]
    · cases htarget : package.pictureTarget? reference with
      | none => simp
      | some name => exact absurd ⟨name, pictureTarget?_eq_some_iff.1 htarget⟩ hmeaningful
  have hsame : others.filterMap package.pictureTarget? =
      references.filterMap package.pictureTarget? := by
    rw [← hsift others, h, hsift references]
  constructor
  · intro hlisting
    rw [← hsame]
    exact hlisting.eq (isPictureListing_distinct package others)
  · rintro rfl
    rw [← hsame]
    exact isPictureListing_distinct package others

/-! ## What is read of the parts -/

/-- The picture is read from the part that the name means. -/
def IsPictureOf [Toolkit] (package : Package) (limits : Limits) (name : PartName)
    (picture : Picture) : Prop :=
  ∃ part content, package.find? name = some part ∧
    part.read limits.maxPictureBytes = .ok content ∧ picture = toPicture name part content

theorem partPictures_eq_ok_iff [Toolkit] {limits : Limits} {list : List Picture}
    (h : package.find? name = some part) :
    package.partPictures limits name = .ok list ↔
      ∃ picture, package.IsPictureOf limits name picture ∧ list = [picture] := by
  rw [partPictures, read_eq, h]
  dsimp only
  constructor
  · intro hlist
    rcases Result.exists_of_map hlist with ⟨found, hfound, rfl⟩
    rcases Result.exists_of_map hfound with ⟨content, hcontent, rfl⟩
    exact ⟨_, ⟨part, content, h, Result.ok_of_mapError hcontent, rfl⟩, rfl⟩
  · rintro ⟨picture, ⟨part', content, hpart', hcontent, rfl⟩, rfl⟩
    cases h.symm.trans hpart'
    rw [hcontent]
    rfl

/-- One picture is read for each part, in the order of the parts. -/
theorem gatherItems_partPictures_iff [Toolkit] {limits : Limits} {list : List Picture}
    (h : ∀ name ∈ names, ∃ part, package.find? name = some part) :
    Walk.gatherItems (package.partPictures limits) names = .ok list ↔
      List.Forall₂ (package.IsPictureOf limits) names list := by
  induction names generalizing list with
  | nil =>
      rw [List.forall₂_nil_left_iff]
      constructor
      · intro hlist
        cases hlist
        rfl
      · rintro rfl
        rfl
  | cons name names ih =>
      rcases List.forall_mem_cons.1 h with ⟨⟨part, hpart⟩, hnames⟩
      rw [Walk.gatherItems_cons, List.forall₂_cons_left_iff]
      constructor
      · intro hlist
        rcases Result.exists_of_bind hlist with ⟨found, hfound, hlist⟩
        rcases Result.exists_of_bind hlist with ⟨more, hmore, hlist⟩
        rcases (partPictures_eq_ok_iff hpart).1 hfound with ⟨picture, hpicture, rfl⟩
        cases hlist
        exact ⟨picture, more, hpicture, (ih hnames).1 hmore, rfl⟩
      · rintro ⟨picture, more, hpicture, hmore, rfl⟩
        rw [(partPictures_eq_ok_iff hpart).2 ⟨picture, hpicture, rfl⟩, (ih hnames).2 hmore]
        rfl

theorem picturesOf_eq_ok_iff [Toolkit] {application : Application} {limits : Limits}
    {main : PartName} {list : List Picture} (hmain : package.mainPartOf application = .ok main)
    (hnames : package.pictureParts (PartName.folder main) = .ok names)
    (h : ∀ name ∈ names, ∃ part, package.find? name = some part) :
    package.picturesOf application limits = .ok list ↔
      List.Forall₂ (package.IsPictureOf limits) names list := by
  rw [← gatherItems_partPictures_iff h, picturesOf, hmain]
  simp only [bind, Except.bind, hnames]

/-! ## Miniatures -/

namespace Miniature

variable [Toolkit] {application : Application} (miniature : Miniature application)
  {file : Archive.StoredFile} {limits : Limits}

theorem isPictureOf (hfile : miniature.find? name = some file)
    (hfits : file.content.length ≤ limits.maxPictureBytes) :
    miniature.package.IsPictureOf limits name (toPicture name (file.entry 0) file.content) := by
  rcases exists_findIn?_entriesOf hfile 0 with ⟨offset, hpart⟩
  exact ⟨file.entry offset, file.content, hpart, Archive.StoredFile.read_entry hfits offset, rfl⟩

/-- The pictures of a miniature with a single picture part. -/
theorem pictures_of_single (hnames : miniature.package.pictureParts
      (PartName.folder miniature.text.name.toList) = .ok [name])
    (hfile : miniature.find? name = some file)
    (hfits : file.content.length ≤ limits.maxPictureBytes) :
    pictures application miniature.bytes limits =
      .ok [toPicture name (file.entry 0) file.content] := by
  have hpicture := miniature.isPictureOf hfile hfits
  have hcontained : ∀ listed ∈ [name], ∃ part, miniature.package.find? listed = some part := by
    rcases hpicture with ⟨part, -, hpart, -⟩
    exact List.forall_mem_singleton.2 ⟨part, hpart⟩
  rw [pictures_bytes]
  exact (picturesOf_eq_ok_iff miniature.mainPartOf_package hnames hcontained).2
    (.cons hpicture .nil)

end Miniature

/-! ## What is listed of a package -/

/-- What is listed of a package, whatever is in it.  Each part that a picture relationship of a part
under `root` means is listed once and none is missed, in the order of the first relationships; other
relationships, and those to parts that are not there, do not matter.  One picture is read of each
part that is listed. -/
theorem pictureParts_listing [Toolkit] (h : package.pictureParts root = .ok names) :
    ∃ references, package.references root = .ok references ∧
      (∀ reference, reference ∈ references ↔
        ∃ file ∈ relationshipPartsUnder package.partNames root, file.2 = reference.folder ∧
          ∃ relationships, package.relationships file.1 = .ok (some relationships) ∧
            reference.relationship ∈ relationships) ∧
      package.IsPictureListing references names ∧
      (∀ others : List Reference,
        others.filter (·.IsMeaningful package) = references.filter (·.IsMeaningful package) →
          ∀ names', package.IsPictureListing others names' ↔ names' = names) ∧
      (∀ application main limits list, package.mainPartOf application = .ok main →
        PartName.folder main = root →
          (package.picturesOf application limits = .ok list ↔
            List.Forall₂ (package.IsPictureOf limits) names list)) := by
  have hparts := h
  rw [pictureParts_eq] at h
  rcases Result.exists_of_map h with ⟨references, hreferences, rfl⟩
  have hlisting := isPictureListing_distinct package references
  refine ⟨references, hreferences, fun _ => mem_references_iff hreferences, hlisting,
    fun others hothers _ => isPictureListing_iff hothers, ?_⟩
  rintro application main limits list hmain rfl
  exact picturesOf_eq_ok_iff hmain hparts hlisting.contained

/-- A picture to which a document refers twice is read once, by the name of the first reference. -/
theorem pictureParts_listing_leaflet :
    (leaflet .usual).package.picturesOf .word ⟨4, 200⟩ =
      .ok [⟨[0x50, 0x4E, 0x47], .png, some "A.png", some "png", none⟩] := by
  rcases pictureParts_listing pictureParts_leaflet with ⟨references, -, -, -, -, hread⟩
  have hpicture : (leaflet .usual).package.IsPictureOf ⟨4, 200⟩ "word/media/A.png".toList _ :=
    (leaflet .usual).isPictureOf find?_leaflet (by decide)
  exact (hread .word _ ⟨4, 200⟩ _ (leaflet .usual).mainPartOf_package rfl).2
    (.cons hpicture .nil)

end Package
end OfficePictures
