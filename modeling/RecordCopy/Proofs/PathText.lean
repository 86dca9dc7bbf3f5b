import Mathlib.Data.List.DropRight
import RecordCopy.Proofs.Names
import RecordCopy.Proofs.Traversals

/-!
# Paths as text

Reading a path trims the text, takes it apart at its dots and trims each piece, and the text is
malformed if nothing is left of a piece.  Of the two kinds of trimming the first makes no difference
(`map_segments_parse?`): no dot is among the blanks before and behind the whole text, so they go to
the first and the last piece, which are trimmed as well.

What is left of a piece has no dot in it and no blank at either end.  Joined by dots again, such
segments are taken apart at the very same places, and nothing is trimmed off them: what is
displayed is read back as the same path.  This holds of every path that reading and prefixing can
make (`Obtained`), as prefixing puts the segments of one path before those of the other.
-/

namespace RecordCopy

namespace Text

/-! ### Pieces -/

theorem splitOn_eq_cut (sep : Char) (cs : List Char) :
    cs.splitOn sep = (cut sep cs).1 :: (cut sep cs).2 := by
  induction cs with
  | nil => exact List.splitOn_nil sep
  | cons c rest ih =>
    rw [List.splitOn_cons_eq_if_modifyHead, ih, cut]
    by_cases hc : c = sep
    · simp [hc]
    · simp [hc]

theorem splitOn_cons_of_ne {sep c : Char} (hc : c ≠ sep) (cs : List Char) :
    (c :: cs).splitOn sep = (c :: (cut sep cs).1) :: (cut sep cs).2 := by
  rw [splitOn_eq_cut, cut, if_neg hc]

theorem length_splitOn (sep : Char) (cs : List Char) :
    (cs.splitOn sep).length = cs.count sep + 1 := by
  induction cs with
  | nil => simp
  | cons c rest ih =>
    rw [List.splitOn_cons_eq_if_modifyHead]
    by_cases hc : c = sep
    · simp [hc, ih]
    · simp [hc, ih]

theorem not_mem_of_mem_splitOn {sep : Char} {cs piece : List Char} (h : piece ∈ cs.splitOn sep) :
    sep ∉ piece := by
  induction cs generalizing piece with
  | nil =>
    obtain rfl : piece = [] := by simpa using h
    simp
  | cons c rest ih =>
    by_cases hc : c = sep
    · rw [List.splitOn_cons_eq_if_modifyHead, if_pos (by simpa using hc)] at h
      rcases List.mem_cons.mp h with rfl | hrest
      · simp
      · exact ih hrest
    · rw [splitOn_cons_of_ne hc] at h
      rw [splitOn_eq_cut] at ih
      rcases List.mem_cons.mp h with rfl | hrest
      · rw [List.mem_cons, not_or]
        exact ⟨Ne.symm hc, ih List.mem_cons_self⟩
      · exact ih (List.mem_cons_of_mem _ hrest)

/-- What is written behind a text, without a separator, goes to the last piece. -/
theorem exists_splitOn_append (sep : Char) (cs : List Char) :
    ∃ init last, ∀ tail, sep ∉ tail → (cs ++ tail).splitOn sep = init ++ [last ++ tail] := by
  induction cs with
  | nil => exact ⟨[], [], fun tail htail => List.splitOn_eq_singleton htail⟩
  | cons c rest ih =>
    obtain ⟨init, last, hpieces⟩ := ih
    by_cases hc : c = sep
    · refine ⟨[] :: init, last, ?_⟩
      intro tail htail
      rw [List.cons_append, List.splitOn_cons_eq_if_modifyHead, if_pos (by simpa using hc),
        hpieces tail htail, List.cons_append]
    · have hcons : ∀ tail, sep ∉ tail → (c :: rest ++ tail).splitOn sep =
          (init ++ [last ++ tail]).modifyHead (c :: ·) := by
        intro tail htail
        rw [List.cons_append, List.splitOn_cons_eq_if_modifyHead, if_neg (by simpa using hc),
          hpieces tail htail]
      -- the character goes to the first piece, which may be the last one
      rcases init with - | ⟨first, init⟩
      · exact ⟨[], c :: last, hcons⟩
      · exact ⟨(c :: first) :: init, last, hcons⟩

/-! ### Blanks at the ends -/

theorem trim_eq_rdropWhile (cs : List Char) :
    trim cs = (cs.dropWhile isBlank).rdropWhile isBlank := rfl

theorem trim_cons_of_isBlank {c : Char} (hc : isBlank c = true) (cs : List Char) :
    trim (c :: cs) = trim cs := by
  rw [trim, List.dropWhile_cons_of_pos hc]
  rfl

theorem trim_append_of_isBlank (cs : List Char) {tail : List Char}
    (htail : ∀ c ∈ tail, isBlank c = true) : trim (cs ++ tail) = trim cs := by
  have hreverse : ∀ c ∈ tail.reverse, isBlank c = true := by
    intro c hc
    exact htail c (List.mem_reverse.mp hc)
  rw [trim, trim, List.dropWhile_append]
  split
  · rename_i hempty
    rw [List.isEmpty_iff.mp hempty, List.dropWhile_eq_nil_iff.mpr htail]
  · rw [List.reverse_append, List.dropWhile_append_of_pos hreverse]

theorem exists_trim (cs : List Char) : ∃ lead tail, cs = lead ++ trim cs ++ tail ∧
    (∀ c ∈ lead, isBlank c = true) ∧ ∀ c ∈ tail, isBlank c = true := by
  refine ⟨cs.takeWhile isBlank, (cs.dropWhile isBlank).rtakeWhile isBlank, ?_, ?_, ?_⟩
  · rw [trim_eq_rdropWhile, List.append_assoc, List.rdropWhile_append_rtakeWhile,
      List.takeWhile_append_dropWhile]
  · intro c hc
    exact List.mem_takeWhile_imp hc
  · intro c hc
    exact List.mem_rtakeWhile_imp hc

theorem mem_of_mem_trim {cs : List Char} {c : Char} (h : c ∈ trim cs) : c ∈ cs := by
  obtain ⟨lead, tail, hcs, -, -⟩ := exists_trim cs
  rw [hcs]
  simp [h]

theorem trim_eq_nil_iff {cs : List Char} : trim cs = [] ↔ ∀ c ∈ cs, isBlank c = true := by
  constructor
  · intro htrim
    obtain ⟨lead, tail, hcs, hlead, htail⟩ := exists_trim cs
    rw [htrim, List.append_nil] at hcs
    rw [hcs]
    intro c hc
    rcases List.mem_append.mp hc with hc | hc
    · exact hlead c hc
    · exact htail c hc
  · intro hall
    rw [trim, List.dropWhile_eq_nil_iff.mpr hall]
    rfl

theorem isBlank_head?_trim {cs : List Char} {c : Char} (h : (trim cs).head? = some c) :
    isBlank c = false := by
  have hdrop : (cs.dropWhile isBlank).head? = some c := by
    obtain ⟨tail, htail⟩ := List.rdropWhile_prefix isBlank (l := cs.dropWhile isBlank)
    rw [← htail, ← trim_eq_rdropWhile, List.head?_append, h]
    rfl
  have hnot := List.head?_dropWhile_not isBlank cs
  rw [hdrop] at hnot
  exact hnot

theorem isBlank_getLast?_trim {cs : List Char} {c : Char} (h : (trim cs).getLast? = some c) :
    isBlank c = false := by
  rw [trim, List.getLast?_reverse] at h
  have hnot := List.head?_dropWhile_not isBlank (cs.dropWhile isBlank).reverse
  rw [h] at hnot
  exact hnot

theorem trim_trim (cs : List Char) : trim (trim cs) = trim cs := by
  have hdrop : (trim cs).dropWhile isBlank = trim cs := by
    cases htrim : trim cs with
    | nil => rfl
    | cons c rest =>
      have hc : isBlank c = false := isBlank_head?_trim (by rw [htrim]; rfl)
      exact List.dropWhile_cons_of_neg (by simp [hc])
  rw [trim_eq_rdropWhile, hdrop, trim_eq_rdropWhile, List.rdropWhile_idempotent]

/-! ### Blanks around a text that is taken apart -/

variable {sep : Char}

theorem map_trim_splitOn_append_left (hsep : isBlank sep = false) {lead : List Char}
    (hlead : ∀ c ∈ lead, isBlank c = true) (cs : List Char) :
    ((lead ++ cs).splitOn sep).map trim = (cs.splitOn sep).map trim := by
  induction lead with
  | nil => rfl
  | cons c rest ih =>
    obtain ⟨hc, hrest⟩ := List.forall_mem_cons.mp hlead
    have hne : c ≠ sep := by
      rintro rfl
      rw [hc] at hsep
      cases hsep
    rw [← ih hrest, List.cons_append, splitOn_cons_of_ne hne, splitOn_eq_cut, List.map_cons,
      List.map_cons, trim_cons_of_isBlank hc]

theorem map_trim_splitOn_append_right (hsep : isBlank sep = false) (cs : List Char)
    {tail : List Char} (htail : ∀ c ∈ tail, isBlank c = true) :
    ((cs ++ tail).splitOn sep).map trim = (cs.splitOn sep).map trim := by
  have hne : sep ∉ tail := by
    intro hmem
    rw [htail sep hmem] at hsep
    cases hsep
  obtain ⟨init, last, hpieces⟩ := exists_splitOn_append sep cs
  have hnothing := hpieces [] (by simp)
  rw [List.append_nil, List.append_nil] at hnothing
  rw [hpieces tail hne, hnothing, List.map_append, List.map_append]
  simp only [List.map_cons, List.map_nil, trim_append_of_isBlank last htail]

/-- Trimming a text before it is taken apart changes nothing in the trimmed pieces. -/
theorem map_trim_splitOn_trim (hsep : isBlank sep = false) (cs : List Char) :
    ((trim cs).splitOn sep).map trim = (cs.splitOn sep).map trim := by
  obtain ⟨lead, tail, hcs, hlead, htail⟩ := exists_trim cs
  conv_rhs => rw [hcs]
  rw [map_trim_splitOn_append_right hsep _ htail, map_trim_splitOn_append_left hsep hlead]

end Text

namespace FieldPath

variable {p q : FieldPath} {raw s : String} {piece : List Char}

/-! ### Segments -/

theorem segment?_eq_some_iff :
    segment? piece = some s ↔ Text.trim piece ≠ [] ∧ String.ofList (Text.trim piece) = s := by
  unfold segment?
  cases Text.trim piece with
  | nil => simp
  | cons c rest => simp

theorem segment?_eq_none_iff : segment? piece = none ↔ ∀ c ∈ piece, Text.isBlank c = true := by
  rw [← Text.trim_eq_nil_iff]
  unfold segment?
  cases Text.trim piece with
  | nil => simp
  | cons c rest => simp

theorem segment?_trim (piece : List Char) : segment? (Text.trim piece) = segment? piece := by
  unfold segment?
  rw [Text.trim_trim]

theorem canonicalSegment_of_segment? (hdot : '.' ∉ piece) (h : segment? piece = some s) :
    CanonicalSegment s := by
  obtain ⟨hne, rfl⟩ := segment?_eq_some_iff.mp h
  unfold CanonicalSegment
  rw [String.toList_ofList]
  exact ⟨hne, fun hmem => hdot (Text.mem_of_mem_trim hmem), Text.trim_trim piece⟩

/-! ### Reading all pieces -/

theorem segments_inj : p.segments = q.segments ↔ p = q := by
  cases p
  cases q
  simp [segments]

/-- Trimming a text before it is taken apart changes nothing in what its pieces are read as. -/
theorem mapM_segment?_splitOn_trim (cs : List Char) :
    ((Text.trim cs).splitOn '.').mapM segment? = (cs.splitOn '.').mapM segment? := by
  have hpieces : ∀ pieces : List (List Char),
      pieces.mapM segment? = (pieces.map Text.trim).mapM segment? := by
    intro pieces
    rw [List.mapM_map]
    congr 1
    funext piece
    exact (segment?_trim piece).symm
  rw [hpieces, Text.map_trim_splitOn_trim (by decide), ← hpieces]

theorem map_segments_parse? (raw : String) :
    (parse? raw).map segments = (raw.toList.splitOn '.').mapM segment? := by
  rw [← mapM_segment?_splitOn_trim, Text.splitOn_eq_cut, List.mapM_cons]
  unfold parse?
  dsimp only
  cases segment? (Text.cut '.' (Text.trim raw.toList)).1 with
  | none => rfl
  | some root =>
    cases (Text.cut '.' (Text.trim raw.toList)).2.mapM segment? with
    | none => rfl
    | some rest => rfl

theorem parse?_eq_some_iff :
    parse? raw = some p ↔ (raw.toList.splitOn '.').mapM segment? = some p.segments := by
  rw [← map_segments_parse?, Option.map_eq_some_iff]
  simp only [segments_inj, exists_eq_right]

theorem parse?_eq_none_iff : parse? raw = none ↔
    ∃ piece ∈ raw.toList.splitOn '.', ∀ c ∈ piece, Text.isBlank c = true := by
  rw [← Option.map_eq_none_iff (f := segments), map_segments_parse?, mapM_eq_none_iff]
  simp only [segment?_eq_none_iff]

/-- Blanks around a text do not count. -/
theorem parse?_trimmed (raw : String) : parse? (Text.trimmed raw) = parse? raw := by
  unfold parse?
  rw [Text.trimmed, String.toList_ofList, Text.trim_trim]

theorem canonical_of_parse? (h : parse? raw = some p) : p.Canonical := by
  intro s hs
  obtain ⟨piece, hpiece, hsegment⟩ := exists_of_mem_mapM (parse?_eq_some_iff.mp h) s hs
  exact canonicalSegment_of_segment? (Text.not_mem_of_mem_splitOn hpiece) hsegment

theorem segments_of_parse? (h : parse? raw = some p) :
    p.segments = (raw.toList.splitOn '.').map fun piece => String.ofList (Text.trim piece) := by
  apply eq_map_of_mapM _ (parse?_eq_some_iff.mp h)
  intro piece s hsegment
  exact (segment?_eq_some_iff.mp hsegment).2

theorem length_of_parse? (h : parse? raw = some p) : p.length = raw.toList.count '.' + 1 := by
  rw [length, segments_of_parse? h, List.length_map, Text.length_splitOn]

theorem CanonicalSegment.isBlank_ends (h : CanonicalSegment s) :
    (∀ c ∈ s.toList.head?, Text.isBlank c = false) ∧
      ∀ c ∈ s.toList.getLast?, Text.isBlank c = false := by
  obtain ⟨-, -, htrim⟩ := h
  rw [← htrim]
  exact ⟨fun _ hc => Text.isBlank_head?_trim hc, fun _ hc => Text.isBlank_getLast?_trim hc⟩

/-! ### Displaying -/

theorem toList_joinDots (first : String) (rest : List String) :
    (joinDots first rest).toList = ['.'].intercalate ((first :: rest).map String.toList) := by
  induction rest generalizing first with
  | nil => simp [joinDots]
  | cons next rest ih =>
    rw [joinDots, String.toList_append, String.toList_append, ih, List.map_cons, List.map_cons,
      List.map_cons, List.intercalate_cons_cons]
    rfl

theorem splitOn_display (h : p.Canonical) :
    p.display.toList.splitOn '.' = p.segments.map String.toList := by
  rw [display, toList_joinDots]
  apply List.splitOn_intercalate
  · intro piece hpiece
    obtain ⟨s, hs, rfl⟩ := List.mem_map.mp hpiece
    exact (h s hs).2.1
  · simp

theorem parse?_display (h : p.Canonical) : parse? p.display = some p := by
  rw [parse?_eq_some_iff, splitOn_display h, mapM_eq_some_iff, List.map_map]
  apply List.map_congr_left
  intro s hs
  exact (h s hs).segment?

/-- Paths that are read from a text, or made of such paths by putting one before another. -/
inductive Obtained : FieldPath → Prop where
  | read {raw : String} {p : FieldPath} (h : parse? raw = some p) : Obtained p
  | within {outer inner : FieldPath} (houter : Obtained outer) (hinner : Obtained inner) :
      Obtained (outer.within inner)

theorem Obtained.canonical (h : p.Obtained) : p.Canonical := by
  induction h with
  | read hparse => exact canonical_of_parse? hparse
  | within houter hinner ihOuter ihInner =>
    intro s hs
    rw [segments_within] at hs
    rcases List.mem_append.mp hs with hs | hs
    · exact ihOuter s hs
    · exact ihInner s hs

/-- A text is malformed exactly if a piece between its dots is empty or all blanks, and blanks
    around the whole text do not count.  What is read otherwise has one segment more than the text
    has dots, namely its pieces, each trimmed: not empty, without dots, and with no blank at either
    end.  A path that is read, or made of such paths by putting one before another, is read back
    from what it displays, so two of them are equal exactly if they display the same. -/
theorem parse?_display_obtained :
    (∀ raw : String,
      (parse? raw = none ↔
        ∃ piece ∈ raw.toList.splitOn '.', ∀ c ∈ piece, Text.isBlank c = true) ∧
      parse? (Text.trimmed raw) = parse? raw ∧
      ∀ p, parse? raw = some p →
        p.length = raw.toList.count '.' + 1 ∧
        p.segments = (raw.toList.splitOn '.').map (fun piece => String.ofList (Text.trim piece)) ∧
        ∀ s ∈ p.segments, s ≠ "" ∧ '.' ∉ s.toList ∧
          (∀ c ∈ s.toList.head?, Text.isBlank c = false) ∧
          ∀ c ∈ s.toList.getLast?, Text.isBlank c = false) ∧
    (∀ p : FieldPath, p.Obtained → parse? p.display = some p) ∧
    ∀ p q : FieldPath, p.Obtained → q.Obtained → (p = q ↔ p.display = q.display) := by
  have hback : ∀ p : FieldPath, p.Obtained → parse? p.display = some p := by
    intro p hp
    exact parse?_display hp.canonical
  refine ⟨?_, hback, ?_⟩
  · intro raw
    refine ⟨parse?_eq_none_iff, parse?_trimmed raw, ?_⟩
    intro p hp
    refine ⟨length_of_parse? hp, segments_of_parse? hp, ?_⟩
    intro s hs
    have hsegment := canonical_of_parse? hp s hs
    refine ⟨?_, hsegment.2.1, hsegment.isBlank_ends⟩
    rintro rfl
    exact hsegment.1 rfl
  · intro p q hp hq
    constructor
    · rintro rfl
      rfl
    · intro hdisplay
      have hread := hback q hq
      rw [← hdisplay, hback p hp] at hread
      exact Option.some.inj hread

/-- Blanks around a segment are no part of the path, which is displayed without them. -/
theorem parse?_display_inner :
    let inner : FieldPath := ⟨"inner", ["value"]⟩
    let path : FieldPath := ⟨"outer", ["inner", "value"]⟩
    parse? "\u2003inner . value " = some inner ∧ inner.length = 2 ∧
      path.Obtained ∧ path.display = "outer.inner.value" ∧
      parse? "outer.inner.value" = some path := by
  intro inner path
  have hread : parse? "\u2003inner . value " = some inner := by decide
  have hpath : path.Obtained :=
    .within (.read (by decide : parse? "outer" = some ⟨"outer", []⟩)) (.read hread)
  obtain ⟨hparse, hback, -⟩ := parse?_display_obtained
  obtain ⟨-, -, hfound⟩ := hparse "\u2003inner . value "
  exact ⟨hread, (hfound inner hread).1, hpath, rfl, hback path hpath⟩

end FieldPath

end RecordCopy
