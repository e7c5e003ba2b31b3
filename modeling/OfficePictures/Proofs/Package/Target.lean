import OfficePictures.Package.Target
import OfficePictures.Proofs.Text.Path
import OfficePictures.Proofs.Text.Utf8

/-!
# Target — every spelling of a target leads to its part, and none out of the package

A part can be referred to in many ways: from the root or from any folder on the way to it, with
characters escaped, with segments that change nothing, and with something behind the path.

* `Spells`, `percentDecode_of_spells` — a text with any of its characters escaped is read as it was;
* `Leads` — the paths from a folder to a part;
* `resolveTarget?_of_leads` — all of them, in every spelling, are resolved to that part;
* `isPlace_of_resolveTarget?`, `resolveTarget?_eq_none_iff` — what any target can be resolved to,
  and which targets are not resolved.
-/

namespace OfficePictures
namespace Package

variable {c high low : Char} {b : UInt8} {bytes rest : Bytes}
  {written text suffix folder target path : List Char} {base part : List (List Char)}

/-! ## Escapes -/

/-- Two hexadecimal digits for each byte, each time behind a percent sign. -/
inductive Escapes : Bytes → List Char → Prop where
  | nil : Escapes [] []
  | cons {b : UInt8} {bytes : Bytes} {high low : Char} {escapes : List Char} :
      Text.hexDigit? high = some (b.toNat / 16) → Text.hexDigit? low = some (b.toNat % 16) →
      Escapes bytes escapes → Escapes (b :: bytes) ('%' :: high :: low :: escapes)

/-- A text as it can be written in a target: each character is either itself or the escapes of all
of its bytes.  The characters that would end the path or begin an escape have to be escaped. -/
inductive Spells : List Char → List Char → Prop where
  | nil : Spells [] []
  | literal {c : Char} {written text : List Char} :
      c ≠ '%' → c ≠ '#' → c ≠ '?' → Spells written text → Spells (c :: written) (c :: text)
  | escaped {c : Char} {escapes written text : List Char} :
      Escapes (String.utf8EncodeChar c) escapes → Spells written text →
      Spells (escapes ++ written) (c :: text)

/-- A text without the characters that have a meaning of their own is one of its spellings. -/
theorem spells_self (text : List Char) (h : '%' ∉ text ∧ '#' ∉ text ∧ '?' ∉ text) :
    Spells text text := by
  induction text with
  | nil => exact .nil
  | cons c text ih =>
      simp only [List.mem_cons, not_or] at h
      rcases h with ⟨⟨hpercent, hpercents⟩, ⟨hfragment, hfragments⟩, ⟨hquery, hqueries⟩⟩
      exact .literal (Ne.symm hpercent) (Ne.symm hfragment) (Ne.symm hquery)
        (ih ⟨hpercents, hfragments, hqueries⟩)

theorem Spells.append {written' text' : List Char} (h : Spells written text)
    (h' : Spells written' text') : Spells (written ++ written') (text ++ text') := by
  induction h with
  | nil => exact h'
  | literal hpercent hfragment hquery _ ih => exact .literal hpercent hfragment hquery ih
  | escaped hescapes _ ih =>
      rw [List.append_assoc]
      exact .escaped hescapes ih

theorem toNat_lt_of_hexDigit? {n : Nat} (h : Text.hexDigit? c = some n) : c.toNat < 0x80 := by
  unfold Text.hexDigit? at h
  split at h
  · rename_i hdigit
    exact Nat.lt_of_le_of_lt hdigit.2 (by decide)
  split at h
  · rename_i hletter
    exact Nat.lt_of_le_of_lt hletter.2 (by decide)
  split at h
  · rename_i hcapital
    exact Nat.lt_of_le_of_lt hcapital.2 (by decide)
  · cases h

/-- A character that is no digit does not stand where a digit stands. -/
theorem ne_of_hexDigit? {n : Nat} {d : Char} (h : Text.hexDigit? c = some n)
    (hd : Text.hexDigit? d = none) : c ≠ d := by
  rintro rfl
  rw [hd] at h
  cases h

theorem escapedByte?_of_hexDigit? (hhigh : Text.hexDigit? high = some (b.toNat / 16))
    (hlow : Text.hexDigit? low = some (b.toNat % 16)) :
    escapedByte? (UInt8.ofNat high.toNat) (UInt8.ofNat low.toNat) = some b := by
  have hchar : ∀ {digit : Char} {n : Nat}, Text.hexDigit? digit = some n →
      (UInt8.ofNat digit.toNat).toNat = digit.toNat := by
    intro digit n hdigit
    have hlt := toNat_lt_of_hexDigit? hdigit
    rw [UInt8.toNat_ofNat']
    omega
  -- A plus sign would be read in another way, but it is no digit.
  have hplus : UInt8.ofNat high.toNat ≠ 0x2B := by
    intro hbyte
    have hcode : high.toNat = '+'.toNat := by
      rw [← hchar hhigh, hbyte]
      rfl
    exact ne_of_hexDigit? hhigh (by decide : Text.hexDigit? '+' = none) (Char.toNat_inj.1 hcode)
  have hvalue : 16 * (b.toNat / 16) + b.toNat % 16 = b.toNat := by
    omega
  rw [escapedByte?, hchar hhigh, hchar hlow, Char.ofNat_toNat, Char.ofNat_toNat, hhigh, hlow]
  simp only [Option.bind_eq_bind, Option.bind_some, if_neg hplus, hvalue, UInt8.ofNat_toNat]
  rfl

/-! ## Reading escapes -/

theorem unescape_cons_of_ne (h : b ≠ percent) (rest : Bytes) :
    unescape (b :: rest) = b :: unescape rest := by
  rw [unescape, if_neg h]

theorem unescape_append (h : percent ∉ bytes) (rest : Bytes) :
    unescape (bytes ++ rest) = bytes ++ unescape rest := by
  induction bytes with
  | nil => rfl
  | cons b bytes ih =>
      rw [List.mem_cons, not_or] at h
      rw [List.cons_append, unescape_cons_of_ne (Ne.symm h.1), ih h.2]
      rfl

theorem percent_notMem_utf8EncodeChar (h : c ≠ '%') : percent ∉ String.utf8EncodeChar c := by
  intro hmem
  have hcode : '%'.toNat = c.toNat :=
    Text.Utf8.toNat_of_mem_utf8EncodeChar hmem (by decide)
  exact h (Char.toNat_inj.1 hcode).symm

theorem unescape_encode_of_escapes {escapes : List Char} (h : Escapes bytes escapes)
    (rest : Bytes) :
    unescape (Text.Utf8.encode escapes ++ rest) = bytes ++ unescape rest := by
  induction h with
  | nil => rfl
  | @cons b bytes high low escapes hhigh hlow _ ih =>
      have hpercent : String.utf8EncodeChar '%' = [percent] := by
        decide
      have hencode : Text.Utf8.encode ('%' :: high :: low :: escapes) =
          percent :: UInt8.ofNat high.toNat :: UInt8.ofNat low.toNat ::
            Text.Utf8.encode escapes := by
        simp only [Text.Utf8.encode_cons, hpercent,
          Text.Utf8.utf8EncodeChar_of_le (Nat.le_of_lt_succ (toNat_lt_of_hexDigit? hhigh)),
          Text.Utf8.utf8EncodeChar_of_le (Nat.le_of_lt_succ (toNat_lt_of_hexDigit? hlow))]
        rfl
      rw [hencode, List.cons_append, unescape, if_pos rfl]
      simp only [List.cons_append, escape?, escapedByte?_of_hexDigit? hhigh hlow]
      exact congrArg _ ih

theorem percentDecode_of_spells (h : Spells written text) : percentDecode written = text := by
  have hbytes : unescape (Text.Utf8.encode written) = Text.Utf8.encode text := by
    induction h with
    | nil => rw [Text.Utf8.encode, List.flatMap_nil, unescape]
    | @literal c written text hpercent _ _ _ ih =>
        rw [Text.Utf8.encode_cons, Text.Utf8.encode_cons,
          unescape_append (percent_notMem_utf8EncodeChar hpercent), ih]
    | @escaped c escapes written text hescapes _ ih =>
        rw [Text.Utf8.encode_append, Text.Utf8.encode_cons, unescape_encode_of_escapes hescapes,
          ih]
  rw [percentDecode, hbytes, Text.Utf8.decode_encode]

/-! ## The path of a target -/

/-- The path of a target: what is in front of the first mark of a query or a fragment, with its
escapes read. -/
def pathOf (target : List Char) : List Char :=
  percentDecode (target.takeWhile fun c => c ≠ '#' && c ≠ '?')

/-- What may stand behind a path: nothing, or something behind such a mark. -/
def EndsPath (suffix : List Char) : Prop :=
  ∀ c, suffix.head? = some c → c = '#' ∨ c = '?'

theorem endsPath_nil : EndsPath [] :=
  fun _ hc => nomatch hc

theorem endsPath_cons (suffix : List Char) (h : c = '#' ∨ c = '?') : EndsPath (c :: suffix) := by
  intro mark hmark
  cases hmark
  exact h

theorem Escapes.ne_mark {escapes : List Char} (h : Escapes bytes escapes) :
    ∀ c ∈ escapes, c ≠ '#' ∧ c ≠ '?' := by
  have hdigit : ∀ {c : Char} {n : Nat}, Text.hexDigit? c = some n → c ≠ '#' ∧ c ≠ '?' :=
    fun hvalue => ⟨ne_of_hexDigit? hvalue (by decide), ne_of_hexDigit? hvalue (by decide)⟩
  induction h with
  | nil => exact List.forall_mem_nil _
  | cons hhigh hlow _ ih =>
      exact List.forall_mem_cons.2 ⟨by decide, List.forall_mem_cons.2
        ⟨hdigit hhigh, List.forall_mem_cons.2 ⟨hdigit hlow, ih⟩⟩⟩

theorem Spells.ne_mark (h : Spells written text) : ∀ c ∈ written, c ≠ '#' ∧ c ≠ '?' := by
  induction h with
  | nil => exact List.forall_mem_nil _
  | literal _ hfragment hquery _ ih => exact List.forall_mem_cons.2 ⟨⟨hfragment, hquery⟩, ih⟩
  | escaped hescapes _ ih =>
      intro c hc
      rcases List.mem_append.1 hc with hfirst | hrest
      · exact hescapes.ne_mark c hfirst
      · exact ih c hrest

theorem pathOf_of_spells (h : Spells written path) (hsuffix : EndsPath suffix) :
    pathOf (written ++ suffix) = path := by
  have hwritten : ∀ c ∈ written, (c ≠ '#' && c ≠ '?') = true :=
    fun c hc => by simpa using h.ne_mark c hc
  have hcut : suffix.takeWhile (fun c => c ≠ '#' && c ≠ '?') = [] := by
    cases suffix with
    | nil => rfl
    | cons c suffix => rcases hsuffix c rfl with rfl | rfl <;> rfl
  rw [pathOf, List.takeWhile_append_of_pos hwritten, hcut, List.append_nil]
  exact percentDecode_of_spells h

/-! ## Where a target leads -/

/-- The text of a folder has slashes between the names that lead to it; empty segments do not
count. -/
def IsFolder (folder : List Char) (base : List (List Char)) : Prop :=
  ∃ segments, folder = Text.join '/' segments ∧ segments.filter (· ≠ []) = base

/-- The paths from a folder to a part: back to a place that is on the way to both and then on to the
part, or from the root to the part.  Only a path from the root begins with a slash. -/
inductive Leads (base part : List (List Char)) : List Char → Prop where
  | relative {common rest more steps : List (List Char)} :
      base = common ++ rest → part = common ++ more → Text.IsDetour rest more steps →
      steps.head? ≠ some [] → Leads base part (Text.join '/' steps)
  | absolute {steps : List (List Char)} :
      Text.IsDetour [] part steps → Leads base part ('/' :: Text.join '/' steps)

/-- Without empty segments, a folder is its names with slashes between them. -/
theorem isFolder_join (hbase : Text.IsPlace base) : IsFolder (Text.join '/' base) base := by
  refine ⟨base, rfl, List.filter_eq_self.2 ?_⟩
  intro segment hmem
  exact decide_eq_true fun hnil => (hbase segment hmem).1.1 (.inl hnil)

theorem startOf_of_isFolder (hfolder : IsFolder folder base) (hbase : Text.IsPlace base)
    (path : List Char) : startOf folder path = if path.head? = some '/' then [] else base := by
  rcases hfolder with ⟨segments, rfl, hsegments⟩
  have hslash : ∀ segment ∈ segments, '/' ∉ segment := by
    intro segment hmem
    by_cases hnil : segment = []
    · rw [hnil]
      exact List.not_mem_nil
    · refine (hbase segment ?_).2
      rw [← hsegments]
      exact List.mem_filter.2 ⟨hmem, by simpa using hnil⟩
  have hsplit : (Text.split '/' (Text.join '/' segments)).filter (· ≠ []) = base := by
    by_cases hempty : segments = []
    · rw [← hsegments, hempty]
      rfl
    · rw [Text.split_join hempty hslash, hsegments]
  rw [startOf, hsplit]

theorem follow?_of_leads (hfolder : IsFolder folder base) (hbase : Text.IsPlace base)
    (hpart : Text.IsPlace part) (h : Leads base part path) :
    Text.follow? (startOf folder path) path = some part := by
  rw [startOf_of_isFolder hfolder hbase]
  cases h with
  | @relative common rest more steps hcommon hmore hsteps hfirst =>
      have hplace : Text.IsPlace more := by
        intro segment hmem
        refine hpart segment ?_
        rw [hmore]
        exact List.mem_append_right _ hmem
      have hslash := hsteps.slash_notMem hplace
      rw [if_neg (Text.head?_join_ne_of_head? hfirst hslash), Text.follow?_join hslash, hcommon,
        hmore]
      exact hsteps.foldlM_step? hplace common
  | @absolute steps hsteps =>
      have hslash := hsteps.slash_notMem hpart
      -- The slash in front is one more empty segment.
      have hempty : Text.split '/' ('/' :: Text.join '/' steps) =
          [] :: Text.split '/' (Text.join '/' steps) := if_pos rfl
      rw [List.head?_cons, if_pos rfl, Text.follow?, hempty, List.foldlM_cons,
        Text.step?_of_isIdle (.inl rfl)]
      exact (Text.follow?_join hslash []).trans (hsteps.foldlM_step? hpart [])

theorem resolveTarget?_eq (folder target : List Char) : resolveTarget? folder target =
    (Text.follow? (startOf folder (pathOf target)) (pathOf target)).bind fun place =>
      if place = [] then none else some (Text.join '/' place) :=
  rfl

theorem resolveTarget?_of_leads (hfolder : IsFolder folder base) (hbase : Text.IsPlace base)
    (hpart : Text.IsPlace part) (hleads : Leads base part path) (hspells : Spells written path)
    (hsuffix : EndsPath suffix) : resolveTarget? folder (written ++ suffix) =
      if part = [] then none else some (Text.join '/' part) := by
  have hpath := pathOf_of_spells hspells hsuffix
  have hplace := follow?_of_leads hfolder hbase hpart hleads
  rw [resolveTarget?_eq, hpath, hplace, Option.bind_some]

/-! ## What any target leads to -/

/-- How many names there are to go back by where a path begins. -/
def depthOf (base : List (List Char)) (path : List Char) : Nat :=
  if path.head? = some '/' then 0 else base.length

theorem isPlace_startOf (hfolder : IsFolder folder base) (hbase : Text.IsPlace base)
    (path : List Char) : Text.IsPlace (startOf folder path) := by
  rw [startOf_of_isFolder hfolder hbase]
  split
  · exact List.forall_mem_nil _
  · exact hbase

theorem length_startOf (hfolder : IsFolder folder base) (hbase : Text.IsPlace base)
    (path : List Char) : (startOf folder path).length = depthOf base path := by
  rw [startOf_of_isFolder hfolder hbase, depthOf]
  split <;> rfl

theorem isPlace_of_resolveTarget? {name : PartName} (hfolder : IsFolder folder base)
    (hbase : Text.IsPlace base) (h : resolveTarget? folder target = some name) :
    Text.IsPlace (Text.split '/' name) := by
  rw [resolveTarget?_eq] at h
  rcases Option.bind_eq_some_iff.1 h with ⟨place, hplace, h⟩
  have hnames : Text.IsPlace place :=
    Text.isPlace_of_follow? hplace (isPlace_startOf hfolder hbase _)
  split at h
  · cases h
  · rename_i hne
    cases h
    rwa [Text.split_join hne fun segment hmem => (hnames segment hmem).2]

theorem resolveTarget?_eq_none_iff (hfolder : IsFolder folder base) (hbase : Text.IsPlace base) :
    resolveTarget? folder target = none ↔
      Text.Climbs (depthOf base (pathOf target)) (Text.split '/' (pathOf target)) ∨
      depthOf base (pathOf target) + Text.onward (Text.split '/' (pathOf target)) =
        Text.backward (Text.split '/' (pathOf target)) := by
  rw [resolveTarget?_eq, ← length_startOf hfolder hbase, ← Text.follow?_eq_none_iff]
  cases hfound : Text.follow? (startOf folder (pathOf target)) (pathOf target) with
  | none => exact iff_of_true rfl (.inl rfl)
  | some place =>
      -- How deep the place is, follows from the counts.
      have hlength := Text.length_of_follow? hfound
      have hresult : (some place).bind (fun place =>
          if place = [] then none else some (Text.join '/' place)) = none ↔ place = [] := by
        by_cases hempty : place = [] <;> simp [hempty]
      rw [hresult, or_iff_right (Option.some_ne_none place), ← List.length_eq_zero_iff]
      omega

/-! ## From the folder of the slides -/

def slideFolder : List (List Char) :=
  ["ppt".toList, "slides".toList]

def accentedPicture : List (List Char) :=
  ["ppt".toList, "media".toList, "á.png".toList]

theorem isPlace_slideFolder : Text.IsPlace slideFolder := by
  unfold Text.IsPlace
  decide

theorem isPlace_accentedPicture : Text.IsPlace accentedPicture := by
  unfold Text.IsPlace
  decide

/-- The slash at the end adds an empty segment. -/
theorem isFolder_slideFolder : IsFolder "ppt/slides/".toList slideFolder :=
  ⟨["ppt".toList, "slides".toList, []], by decide, by decide⟩

theorem leads_accentedPicture :
    Leads slideFolder accentedPicture "../media/.//á.png".toList := by
  have hcommon : slideFolder = ["ppt".toList] ++ ["slides".toList] := rfl
  have hmore : accentedPicture = ["ppt".toList] ++ ["media".toList, "á.png".toList] := rfl
  have hsteps : Text.IsDetour ["slides".toList] ["media".toList, "á.png".toList]
      ["..".toList, "media".toList, ".".toList, [], "á.png".toList] := by
    unfold Text.IsDetour
    decide
  have hpath : Text.join '/' ["..".toList, "media".toList, ".".toList, [], "á.png".toList] =
      "../media/.//á.png".toList := by
    decide
  rw [← hpath]
  exact .relative hcommon hmore hsteps (by decide)

theorem spells_accentedPicture :
    Spells "../%6Dedia/.//%C3%A1.png".toList "../media/.//á.png".toList := by
  have hm : Escapes (String.utf8EncodeChar 'm') "%6D".toList :=
    .cons (by decide) (by decide) .nil
  have ha : Escapes (String.utf8EncodeChar 'á') "%C3%A1".toList :=
    .cons (by decide) (by decide) (.cons (by decide) (by decide) .nil)
  exact (spells_self "../".toList (by decide)).append (.escaped hm
    ((spells_self "edia/.//".toList (by decide)).append (.escaped ha
      (spells_self ".png".toList (by decide)))))

/-- Escaped slashes are slashes of the path. -/
theorem pathOf_escapedSlashes : pathOf "..%2F..%2f../x".toList = "../../../x".toList := by
  have hcapital : Escapes (String.utf8EncodeChar '/') "%2F".toList :=
    .cons (by decide) (by decide) .nil
  have hsmall : Escapes (String.utf8EncodeChar '/') "%2f".toList :=
    .cons (by decide) (by decide) .nil
  have hspells : Spells "..%2F..%2f../x".toList "../../../x".toList :=
    (spells_self "..".toList (by decide)).append (.escaped hcapital
      ((spells_self "..".toList (by decide)).append (.escaped hsmall
        (spells_self "../x".toList (by decide)))))
  have hpath := pathOf_of_spells hspells endsPath_nil
  rwa [List.append_nil] at hpath

/-- Every spelling of a target leads to the part that it was written for.  No target leads out of
the package: what is found consists of names, and nothing is found exactly if the path climbs above
the root somewhere, or goes back by all names in the end. -/
theorem resolveTarget?_spelled_inside (hfolder : IsFolder folder base)
    (hbase : Text.IsPlace base) :
    (∀ {part : List (List Char)} {path written suffix : List Char}, Text.IsPlace part →
      Leads base part path → Spells written path → EndsPath suffix →
        resolveTarget? folder (written ++ suffix) =
          if part = [] then none else some (Text.join '/' part)) ∧
    ∀ target : List Char,
      (∀ name, resolveTarget? folder target = some name →
        Text.IsPlace (Text.split '/' name)) ∧
      (resolveTarget? folder target = none ↔
        Text.Climbs (depthOf base (pathOf target)) (Text.split '/' (pathOf target)) ∨
        depthOf base (pathOf target) + Text.onward (Text.split '/' (pathOf target)) =
          Text.backward (Text.split '/' (pathOf target))) := by
  constructor
  case left =>
    intro part path written suffix hpart hleads hspells hsuffix
    exact resolveTarget?_of_leads hfolder hbase hpart hleads hspells hsuffix
  case right =>
    intro target
    exact ⟨fun _ => isPlace_of_resolveTarget? hfolder hbase,
      resolveTarget?_eq_none_iff hfolder hbase⟩

/-- An escaped target with idle segments and a fragment leads to the picture, and slashes that are
escaped do not lead out of the package. -/
theorem resolveTarget?_spelled_inside_escaped :
    resolveTarget? "ppt/slides/".toList ("../%6Dedia/.//%C3%A1.png".toList ++ "#x".toList) =
      some "ppt/media/á.png".toList ∧
    resolveTarget? "ppt/slides".toList "..%2F..%2f../x".toList = none := by
  have hfound := (resolveTarget?_spelled_inside isFolder_slideFolder isPlace_slideFolder).1
    isPlace_accentedPicture leads_accentedPicture spells_accentedPicture
    (endsPath_cons "x".toList (.inl rfl))
  -- Three times back, from two names.
  have hclimbs : Text.Climbs 2 (Text.split '/' "../../../x".toList) :=
    ⟨List.replicate 3 Text.back, ⟨["x".toList], by decide⟩, by decide⟩
  have hjoined : Text.join '/' slideFolder = "ppt/slides".toList := by
    decide
  have hnone := ((resolveTarget?_spelled_inside (isFolder_join isPlace_slideFolder)
    isPlace_slideFolder).2 "..%2F..%2f../x".toList).2
  rw [pathOf_escapedSlashes, hjoined] at hnone
  exact ⟨hfound, hnone.2 (.inl hclimbs)⟩

end Package
end OfficePictures
