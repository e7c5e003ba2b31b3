import OfficePictures.Package.Relationship
import OfficePictures.Proofs.Text.Segments

/-!
# RelationshipParts — which parts hold the relationships of others

The relationships of a part stand in the folder `_rels` next to it, in a part that is called like it
with `.rels` behind.  Names are recognised by their ends, so that a folder whose name only ends in
`_rels` is taken for one that holds relationships, too; what is in front of `_rels` is then not the
folder of any part.

* `relationshipsSource?_eq_some_iff` — the names that are recognised, and what is made of them;
* `IsWhole`, `IsLinksName.isWhole_iff` — the names among them in which `_rels` is a segment of its own;
* `Kept`, `kept_iff` — some items of a list, in its order, each with what belongs to it;
* `relationshipPartsUnder_kept` — the parts that are found under a root, whatever parts there are;
* `not_forall_isWhole` — a part that is found in a folder of another name.
-/

namespace OfficePictures

namespace Package

variable {root folder source : List Char} {name : PartName} {names : List PartName}

/-! ## Names -/

theorem dropEnding?_eq_some_iff {ending text front : List Char} :
    dropEnding? ending text = some front ↔ text = front ++ ending := by
  unfold dropEnding?
  constructor
  · intro h
    split at h
    · rename_i hending
      rcases List.isSuffixOf_iff_suffix.1 hending with ⟨before, rfl⟩
      cases h
      simp
    · cases h
  · rintro rfl
    rw [if_pos (List.isSuffixOf_iff_suffix.2 (List.suffix_append front ending))]
    simp

/-- The name ends as that of the part with the relationships of `source`, and `folder` is in front of
this end. -/
structure IsLinksName (name : PartName) (folder source : List Char) : Prop where
  name_eq : name = folder ++ ("_rels/".toList ++ (source ++ ".rels".toList))
  slash_notMem : '/' ∉ source

theorem relationshipsSource?_eq_some_iff :
    relationshipsSource? name = some (folder, source) ↔ IsLinksName name folder source := by
  have hfolder : relationshipsFolder ++ ['/'] = "_rels/".toList := rfl
  constructor
  · intro h
    rcases Option.bind_eq_some_iff.1 h with ⟨stem, hstem, h⟩
    rcases Option.bind_eq_some_iff.1 h with ⟨⟨links, found⟩, hsplit, h⟩
    rcases Option.bind_eq_some_iff.1 h with ⟨front, hfront, h⟩
    cases h
    rcases Text.splitLast?_eq_some_iff.1 hsplit with ⟨hcut, hflat⟩
    refine ⟨?_, hflat⟩
    rw [dropEnding?_eq_some_iff.1 hstem, hcut, dropEnding?_eq_some_iff.1 hfront, ← hfolder]
    simp [relationshipsExtension]
  · rintro ⟨rfl, hflat⟩
    have hcut : folder ++ ("_rels/".toList ++ (source ++ ".rels".toList)) =
        (folder ++ relationshipsFolder ++ '/' :: source) ++ relationshipsExtension := by
      rw [← hfolder]
      simp [relationshipsExtension]
    rw [relationshipsSource?, dropEnding?_eq_some_iff.2 hcut]
    simp only [Option.bind_eq_bind, Option.bind_some, Text.splitLast?_append_cons hflat,
      dropEnding?_eq_some_iff.2 rfl]
    rfl

/-- The text is a folder with the slash at its end, or nothing. -/
def IsWhole (folder : List Char) : Prop :=
  folder = [] ∨ folder.getLast? = some '/'

instance (folder : List Char) : Decidable (IsWhole folder) :=
  inferInstanceAs (Decidable (_ ∨ _))

/-- A text behind a folder is a segment of its own if and only if the folder is whole. -/
theorem isWhole_iff_split_append {text : List Char} (h : '/' ∉ text) :
    IsWhole folder ↔ ∃ front, Text.split '/' (folder ++ text) = front ++ [text] := by
  unfold IsWhole
  cases hcut : Text.splitLast? '/' folder with
  | none =>
      have hflat : '/' ∉ folder := Text.splitLast?_eq_none_iff.1 hcut
      have hlast : folder.getLast? ≠ some '/' := fun hlast => hflat (List.mem_of_getLast? hlast)
      have hsplit : Text.split '/' (folder ++ text) = [folder ++ text] :=
        Text.split_eq_self (by simp [hflat, h])
      rw [or_iff_left hlast, hsplit]
      constructor
      · rintro rfl
        exact ⟨[], rfl⟩
      · rintro ⟨front, hfront⟩
        have hsegments : [] ++ [folder ++ text] = front ++ [text] := hfront
        simpa using (List.append_inj' hsegments rfl).2
  | some cut =>
      rcases cut with ⟨outer, inner⟩
      rcases Text.splitLast?_eq_some_iff.1 hcut with ⟨rfl, hinner⟩
      have hsplit : Text.split '/' (outer ++ '/' :: inner ++ text) =
          Text.split '/' outer ++ [inner ++ text] := by
        have hrest : Text.split '/' (inner ++ text) = [inner ++ text] :=
          Text.split_eq_self (by simp [hinner, h])
        rw [List.append_assoc, List.cons_append, Text.split_append_cons, hrest]
      rw [hsplit, or_iff_right (by simp)]
      constructor
      · intro hlast
        -- The last character of the folder is the slash only if nothing follows it.
        cases inner with
        | nil => exact ⟨Text.split '/' outer, rfl⟩
        | cons c inner =>
            rw [List.getLast?_append_of_ne_nil _ (List.cons_ne_nil _ _),
              List.getLast?_cons_cons] at hlast
            exact absurd (List.mem_of_getLast? hlast) hinner
      · rintro ⟨front, hfront⟩
        have hsegments := List.append_inj' hfront rfl
        have hinner : inner = [] := by simpa using hsegments.2
        rw [hinner]
        simp

/-- The folder is whole if and only if `_rels` is a segment of the name, the last but one. -/
theorem IsLinksName.isWhole_iff (h : IsLinksName name folder source) :
    IsWhole folder ↔
      ∃ front last, Text.split '/' name = front ++ ["_rels".toList, last] := by
  have hflat : '/' ∉ source ++ ".rels".toList := by
    simp [h.slash_notMem]
  have hsplit : Text.split '/' name =
      Text.split '/' (folder ++ "_rels".toList) ++ [source ++ ".rels".toList] := by
    have hname : name = (folder ++ "_rels".toList) ++ '/' :: (source ++ ".rels".toList) := by
      rw [h.name_eq]
      simp
    rw [hname, Text.split_append_cons, Text.split_eq_self hflat]
  rw [isWhole_iff_split_append (by decide : '/' ∉ "_rels".toList), hsplit]
  constructor
  · rintro ⟨front, hfront⟩
    exact ⟨front, source ++ ".rels".toList, by rw [hfront]; simp⟩
  · rintro ⟨front, last, hfront⟩
    have hsegments : Text.split '/' (folder ++ "_rels".toList) ++ [source ++ ".rels".toList] =
        (front ++ ["_rels".toList]) ++ [last] := by
      rw [hfront]
      simp
    exact ⟨front, (List.append_inj' hsegments rfl).1⟩

/-! ## Some items of a list -/

section Kept

variable {α β : Type} {BelongsTo : α → β → Prop} {items : List α} {kept : List (α × β)}

/-- The items to which something belongs, each with that, in the order of the list. -/
inductive Kept (BelongsTo : α → β → Prop) : List α → List (α × β) → Prop where
  | nil : Kept BelongsTo [] []
  | keep {item : α} {b : β} {items : List α} {kept : List (α × β)} :
      BelongsTo item b → Kept BelongsTo items kept →
      Kept BelongsTo (item :: items) ((item, b) :: kept)
  | drop {item : α} {items : List α} {kept : List (α × β)} :
      (∀ b, ¬ BelongsTo item b) → Kept BelongsTo items kept → Kept BelongsTo (item :: items) kept

theorem kept_iff {f : α → Option (α × β)}
    (hf : ∀ item pair, f item = some pair ↔ pair.1 = item ∧ BelongsTo item pair.2) :
    Kept BelongsTo items kept ↔ kept = items.filterMap f := by
  constructor
  · intro h
    induction h with
    | nil => rfl
    | @keep item b items kept hitem _ ih =>
        rw [List.filterMap_cons_some ((hf item (item, b)).2 ⟨rfl, hitem⟩), ih]
    | @drop item items kept hitem _ ih =>
        have hnone : f item = none :=
          Option.eq_none_iff_forall_ne_some.2 fun pair hpair =>
            hitem pair.2 ((hf item pair).1 hpair).2
        rw [List.filterMap_cons_none hnone, ih]
  · rintro rfl
    induction items with
    | nil => exact .nil
    | cons item items ih =>
        cases hitem : f item with
        | none =>
            rw [List.filterMap_cons_none hitem]
            refine .drop ?_ ih
            intro b hb
            rw [(hf item (item, b)).2 ⟨rfl, hb⟩] at hitem
            cases hitem
        | some pair =>
            rcases pair with ⟨first, b⟩
            rcases (hf item (first, b)).1 hitem with ⟨rfl, hb⟩
            rw [List.filterMap_cons_some hitem]
            exact .keep hb ih

end Kept

/-! ## Parts under a root -/

/-- The part that holds relationships of a part under the root, with the folder of the latter. -/
def linksUnder? (root : List Char) (name : PartName) : Option (PartName × List Char) :=
  match relationshipsSource? name with
  | some (folder, source) =>
      if (PartName.key root).isPrefixOf (PartName.key (folder ++ source)) then some (name, folder)
      else none
  | none => none

theorem relationshipPartsUnder_eq (names : List PartName) (root : List Char) :
    relationshipPartsUnder names root = names.filterMap (linksUnder? root) :=
  rfl

/-- The part `name` holds the relationships of a part under the root, and `folder` is in front of the
end of its name. -/
def HoldsLinks (root : List Char) (name : PartName) (folder : List Char) : Prop :=
  ∃ source, IsLinksName name folder source ∧ PartName.key root <+: PartName.key (folder ++ source)

theorem linksUnder?_eq_some_iff {part : PartName × List Char} :
    linksUnder? root name = some part ↔ part.1 = name ∧ HoldsLinks root name part.2 := by
  unfold linksUnder? HoldsLinks
  constructor
  · intro h
    split at h
    · rename_i folder source hsource
      split at h
      · rename_i hroot
        cases h
        exact ⟨rfl, source, relationshipsSource?_eq_some_iff.1 hsource,
          List.isPrefixOf_iff_prefix.1 hroot⟩
      · cases h
    · cases h
  · rcases part with ⟨found, folder⟩
    rintro ⟨rfl, source, hname, hroot⟩
    rw [relationshipsSource?_eq_some_iff.2 hname]
    exact if_pos (List.isPrefixOf_iff_prefix.2 hroot)

/-- The same, and `_rels` is a folder of its own. -/
def HoldsWholeLinks (root : List Char) (name : PartName) (folder : List Char) : Prop :=
  HoldsLinks root name folder ∧ IsWhole folder

theorem kept_holdsLinks_iff {kept : List (PartName × List Char)} :
    Kept (HoldsLinks root) names kept ↔ kept = relationshipPartsUnder names root :=
  kept_iff fun _ _ => linksUnder?_eq_some_iff

theorem kept_holdsWholeLinks_iff {kept : List (PartName × List Char)} :
    Kept (HoldsWholeLinks root) names kept ↔
      kept = (relationshipPartsUnder names root).filter fun part => IsWhole part.2 := by
  have hwhole : ∀ name part,
      (linksUnder? root name).filter (fun part => IsWhole part.2) = some part ↔
        part.1 = name ∧ HoldsWholeLinks root name part.2 := by
    intro name part
    rw [Option.filter_eq_some_iff, linksUnder?_eq_some_iff, decide_eq_true_iff, and_assoc]
    rfl
  rw [kept_iff hwhole, relationshipPartsUnder_eq, List.filter_filterMap]

/-- The parts that are found under a root, whatever parts there are: in their order, all those whose
names end in the right way.  Those among them with a segment `_rels` of their own, which are the ones
that were to be found, are the ones whose folder is whole. -/
theorem relationshipPartsUnder_kept (names : List PartName) (root : List Char) :
    (∀ kept, Kept (HoldsLinks root) names kept ↔ kept = relationshipPartsUnder names root) ∧
    (∀ kept, Kept (HoldsWholeLinks root) names kept ↔
      kept = (relationshipPartsUnder names root).filter fun part => IsWhole part.2) ∧
    ∀ name folder, HoldsLinks root name folder →
      (IsWhole folder ↔ ∃ front last, Text.split '/' name = front ++ ["_rels".toList, last]) := by
  refine ⟨fun _ => kept_holdsLinks_iff, fun _ => kept_holdsWholeLinks_iff, ?_⟩
  rintro name folder ⟨source, hname, -⟩
  exact hname.isWhole_iff

/-- The parts with relationships of a document and of its glossary, among others. -/
def glossaryNames : List PartName :=
  ["_rels/.rels", "WORD/_rels/document.xml.rels", "word/x_rels/d.rels",
    "word/glossary/_rels/document.xml.rels", "customXml/_rels/item1.xml.rels"].map String.toList

theorem relationshipPartsUnder_kept_glossary :
    Kept (HoldsWholeLinks "word/".toList) glossaryNames
      [("WORD/_rels/document.xml.rels".toList, "WORD/".toList),
        ("word/glossary/_rels/document.xml.rels".toList, "word/glossary/".toList)] ∧
    HoldsLinks "word/".toList "word/x_rels/d.rels".toList "word/x".toList ∧
    ¬ ∃ front last, Text.split '/' "word/x_rels/d.rels".toList = front ++ ["_rels".toList, last] := by
  have hlinks : HoldsLinks "word/".toList "word/x_rels/d.rels".toList "word/x".toList :=
    ⟨['d'], ⟨by decide, by decide⟩, by decide +kernel⟩
  refine ⟨?_, hlinks, ?_⟩
  · rw [(relationshipPartsUnder_kept glossaryNames "word/".toList).2.1]
    decide +kernel
  · rw [← (relationshipPartsUnder_kept glossaryNames "word/".toList).2.2 _ _ hlinks]
    decide

/-- A part in a folder whose name only ends in `_rels` is found, with the start of that name as the
folder. -/
theorem not_forall_isWhole :
    ¬ ∀ (names : List PartName) (root : List Char),
      Kept (HoldsWholeLinks root) names (relationshipPartsUnder names root) := by
  intro h
  have hkept := kept_holdsWholeLinks_iff.1 (h ["word/x_rels/d.rels".toList] "word/".toList)
  exact absurd hkept (by decide +kernel)

end Package
end OfficePictures
