import RecordCopy.Derive.Grammar
import RecordCopy.FieldPath

/-!
# Names of fields as paths

The name that a declaration gives a field is later read as a path, by whoever resolves a mapping
or looks for a field of the same name.  It is one segment then, and the very name: the lexer makes
names of the characters of identifiers and of the hash mark of a raw name, and among those are
neither blanks nor dots.
-/

namespace RecordCopy

/-! ### Characters of identifiers -/

namespace Text

theorem inRanges_eq_true_iff {ranges : List (Nat × Nat)} {n : Nat} :
    inRanges ranges n = true ↔ ∃ r ∈ ranges, r.1 ≤ n ∧ n ≤ r.2 := by
  simp [inRanges]

theorem blankRanges_apart : ∀ r ∈ blankRanges,
    ∀ q ∈ identifierStartRanges ++ identifierMarkRanges, r.2 < q.1 ∨ q.2 < r.1 := by
  have htables : (blankRanges.all fun r =>
      (identifierStartRanges ++ identifierMarkRanges).all fun q =>
        decide (r.2 < q.1) || decide (q.2 < r.1)) = true := by
    decide +kernel
  simpa only [List.all_eq_true, Bool.or_eq_true, decide_eq_true_eq] using htables

/-- In ASCII the characters of identifiers stand behind the blanks and the dot. -/
theorem le_of_isIdentifierPart_ascii {c : Char} (hc : c.toNat < 0x80)
    (h : isIdentifierPart c = true) : 0x30 ≤ c.toNat := by
  rw [isIdentifierPart_ascii hc] at h
  delta Char.isAlpha Char.isUpper Char.isLower at h
  simp only [Bool.or_eq_true, Char.isDigit, beq_iff_eq, Bool.and_eq_true, decide_eq_true_eq,
    ge_iff_le, UInt32.le_iff_toNat_le] at h
  change _ ≤ c.val.toNat
  rcases h with (((⟨hge, -⟩ | ⟨hge, -⟩) | rfl) | ⟨hge, -⟩)
  · exact Nat.le_trans (by decide) hge
  · exact Nat.le_trans (by decide) hge
  · decide
  · exact hge

theorem isBlank_of_isIdentifierPart {c : Char} (h : isIdentifierPart c = true) :
    isBlank c = false := by
  rw [Bool.eq_false_iff]
  intro hblank
  obtain ⟨r, hr, hlow, hhigh⟩ := inRanges_eq_true_iff.mp hblank
  by_cases hc : c.toNat < 0x80
  · -- a range of blanks that begins behind the digits begins behind ASCII
    have hascii : ∀ r ∈ blankRanges, r.2 < 0x30 ∨ 0x80 ≤ r.1 := by decide
    have hpart := le_of_isIdentifierPart_ascii hc h
    rcases hascii r hr with hbelow | habove
    · omega
    · omega
  · have hranges : ∃ q ∈ identifierStartRanges ++ identifierMarkRanges,
        q.1 ≤ c.toNat ∧ c.toNat ≤ q.2 := by
      simp only [isIdentifierPart, isIdentifierStart, hc, if_false, Bool.or_eq_true] at h
      rw [← inRanges_eq_true_iff]
      simpa [inRanges] using h
    obtain ⟨q, hq, hfrom, hto⟩ := hranges
    rcases blankRanges_apart r hr q hq with hbelow | habove
    · omega
    · omega

theorem ne_dot_of_isIdentifierPart {c : Char} (h : isIdentifierPart c = true) : c ≠ '.' := by
  rintro rfl
  revert h
  decide

/-! ### Trimming and cutting -/

theorem trim_eq_self {cs : List Char} (h : ∀ c ∈ cs, isBlank c = false) : trim cs = cs := by
  have hdrop : ∀ ds : List Char, (∀ c ∈ ds, isBlank c = false) → ds.dropWhile isBlank = ds := by
    intro ds hds
    cases ds with
    | nil => rfl
    | cons d rest => simp [hds d List.mem_cons_self]
  have hreverse : ∀ c ∈ cs.reverse, isBlank c = false := by
    intro c hc
    exact h c (List.mem_reverse.mp hc)
  rw [trim, hdrop cs h, hdrop _ hreverse, List.reverse_reverse]

theorem cut_of_not_mem {sep : Char} {cs : List Char} (h : sep ∉ cs) : cut sep cs = (cs, []) := by
  induction cs with
  | nil => rfl
  | cons c rest ih =>
    rw [List.mem_cons, not_or] at h
    rw [cut, if_neg (Ne.symm h.1), ih h.2]

end Text

/-! ### Segments -/

namespace FieldPath

theorem CanonicalSegment.segment? {s : String} (h : CanonicalSegment s) :
    segment? s.toList = some s := by
  obtain ⟨hne, -, htrim⟩ := h
  unfold FieldPath.segment?
  rw [htrim]
  cases hs : s.toList with
  | nil => exact absurd hs hne
  | cons c rest =>
    have hback : String.ofList (c :: rest) = s := by rw [← hs, String.ofList_toList]
    exact congrArg some hback

theorem CanonicalSegment.parse? {s : String} (h : CanonicalSegment s) :
    parse? s = some ⟨s, []⟩ := by
  have hcut := Text.cut_of_not_mem h.2.1
  simp only [FieldPath.parse?, h.2.2, hcut, h.segment?]
  rfl

end FieldPath

/-! ### Names among the tokens -/

namespace Derive

/-- Made of the characters of identifiers and the hash mark. -/
def Word (s : String) : Prop :=
  s.toList ≠ [] ∧ ∀ c ∈ s.toList, Text.isIdentifierPart c = true ∨ c = '#'

theorem Word.canonicalSegment {s : String} (h : Word s) : FieldPath.CanonicalSegment s := by
  obtain ⟨hne, hchars⟩ := h
  refine ⟨hne, ?_, Text.trim_eq_self ?_⟩
  · intro hdot
    rcases hchars '.' hdot with hpart | hhash
    · exact Text.ne_dot_of_isIdentifierPart hpart rfl
    · exact absurd hhash (by decide)
  · intro c hc
    rcases hchars c hc with hpart | rfl
    · exact Text.isBlank_of_isIdentifierPart hpart
    · decide

theorem Literal.exists_of_afterWord? {cs rest : List Char} (h : afterWord? cs = some rest) :
    ∃ word, cs = word ++ rest ∧ word ≠ [] ∧ ∀ c ∈ word, Text.isIdentifierPart c = true := by
  cases cs with
  | nil => cases h
  | cons c more =>
    simp only [afterWord?] at h
    split at h
    · rename_i hstart
      obtain rfl := Option.some.inj h
      refine ⟨c :: more.takeWhile Text.isIdentifierPart, ?_, List.cons_ne_nil _ _, ?_⟩
      · rw [List.cons_append, List.takeWhile_append_dropWhile]
      · intro d hd
        rcases List.mem_cons.mp hd with rfl | hd
        · exact Text.isIdentifierPart_of_isIdentifierStart hstart
        · exact List.all_eq_true.mp List.all_takeWhile d hd
    · cases h

namespace Token

theorem spelled_append (word rest : List Char) :
    spelled (word ++ rest) rest = String.ofList word := by
  simp [spelled]

theorem word_of_afterName? {cs rest : List Char} (h : afterName? cs = some rest) :
    Word (spelled cs rest) := by
  unfold afterName? at h
  split at h
  · rename_i more
    obtain ⟨hafter, -⟩ := Option.filter_eq_some_iff.mp h
    obtain ⟨word, rfl, -, hword⟩ := Literal.exists_of_afterWord? hafter
    have hspelled := spelled_append ('r' :: '#' :: word) rest
    rw [List.cons_append, List.cons_append] at hspelled
    rw [hspelled]
    refine ⟨by simp, ?_⟩
    intro c hc
    rw [String.toList_ofList] at hc
    rcases List.mem_cons.mp hc with rfl | hc
    · exact .inl (by decide)
    · rcases List.mem_cons.mp hc with rfl | hc
      · exact .inr rfl
      · exact .inl (hword c hc)
  · obtain ⟨word, rfl, hne, hword⟩ := Literal.exists_of_afterWord? h
    rw [spelled_append]
    refine ⟨by simpa using hne, ?_⟩
    intro c hc
    rw [String.toList_ofList] at hc
    exact .inl (hword c hc)

theorem word_of_name? {cs rest : List Char} {t : Token} (h : name? cs = some (t, rest)) :
    ∃ s, t = .name s ∧ Word s := by
  unfold name? at h
  split at h
  · cases h
  · obtain ⟨behind, hafter, hfound⟩ := Option.map_eq_some_iff.mp h
    obtain ⟨rfl, rfl⟩ := Prod.mk.inj hfound
    exact ⟨_, rfl, word_of_afterName? hafter⟩

theorem literal?_ne_name {cs rest : List Char} {t : Token} (h : literal? cs = some (t, rest))
    (s : String) : t ≠ .name s := by
  have hother : ∀ found : Option (List Char),
      (found.map fun rest => (Token.literal (spelled cs rest), rest)) = some (t, rest) →
        t ≠ .name s := by
    intro found hfound
    obtain ⟨behind, -, hpair⟩ := Option.map_eq_some_iff.mp hfound
    obtain ⟨rfl, -⟩ := Prod.mk.inj hpair
    exact Token.noConfusion
  simp only [literal?] at h
  split at h
  · obtain ⟨rfl, -⟩ := Prod.mk.inj (Option.some.inj h)
    exact Token.noConfusion
  · split at h
    · exact hother _ h
    · exact hother _ h
    · exact hother _ h

theorem word_of_first? {cs rest : List Char} {s : String} (h : first? cs = some (.name s, rest)) :
    Word s := by
  unfold first? at h
  split at h
  · rename_i found hliteral
    obtain rfl := Option.some.inj h
    exact absurd rfl (literal?_ne_name hliteral s)
  · split at h
    · cases h
    · obtain ⟨name, -, hfound⟩ := Option.map_eq_some_iff.mp h
      cases congrArg Prod.fst hfound
    · split at h
      · cases h
      · split at h
        · cases h
        · split at h
          · split at h
            · cases h
            · cases h
          · obtain ⟨name, hname, hword⟩ := word_of_name? h
            obtain rfl := Token.name.inj hname
            exact hword

theorem word_of_documentation? {cs rest : List Char} {ts : List Token}
    (h : documentation? cs = some (ts, rest)) {s : String} (hs : .name s ∈ ts) : Word s := by
  unfold documentation? at h
  extract_lets found at h
  clear_value found
  cases found with
  | none => cases h
  | some comment =>
    dsimp only at h
    split at h
    · obtain ⟨rfl, -⟩ := Prod.mk.inj (Option.some.inj h)
      have hdoc : s = "doc" := by
        cases comment.1 <;> simpa [documentation, ofContent] using hs
      rw [hdoc]
      refine ⟨by decide, ?_⟩
      intro c hc
      have hletter : c = 'd' ∨ c = 'o' ∨ c = 'c' := by simpa using hc
      rcases hletter with rfl | rfl | rfl
      · exact .inl (by decide)
      · exact .inl (by decide)
      · exact .inl (by decide)
    · cases h

/-- Every name among the tokens of a text is a word. -/
theorem word_of_lex {fuel : Nat} {cs : List Char} {ts : List Token} (h : lex fuel cs = some ts)
    {s : String} (hs : .name s ∈ ts) : Word s := by
  induction fuel generalizing cs ts with
  | zero =>
    cases cs with
    | nil =>
      obtain rfl := Option.some.inj h
      cases hs
    | cons c rest => cases h
  | succ fuel ih =>
    cases cs with
    | nil =>
      obtain rfl := Option.some.inj h
      cases hs
    | cons c rest =>
      -- a gap, a comment, a doc comment, the mark of a failure, or another token
      rw [lex] at h
      split at h
      · exact ih h hs
      · split at h
        · exact ih h hs
        · split at h
          · rename_i first behind hdocumentation
            obtain ⟨more, hmore, rfl⟩ := Option.map_eq_some_iff.mp h
            rcases List.mem_append.mp hs with hfirst | hlater
            · exact word_of_documentation? hdocumentation hfirst
            · exact ih hmore hlater
          · split at h
            · obtain ⟨more, hmore, rfl⟩ := Option.map_eq_some_iff.mp h
              rcases List.mem_cons.mp hs with hfirst | hlater
              · cases hfirst
              · exact ih hmore hlater
            · split at h
              · rename_i t behind hfirst
                obtain ⟨more, hmore, rfl⟩ := Option.map_eq_some_iff.mp h
                rcases List.mem_cons.mp hs with rfl | hlater
                · exact word_of_first? hfirst
                · exact ih hmore hlater
              · cases h

theorem mem_of_grouped? {ts inner : List Token} (h : grouped? ts = some inner) :
    ∀ t ∈ inner, t ∈ ts := by
  unfold grouped? at h
  split at h
  · split at h
    · obtain rfl := Option.some.inj h
      intro t ht
      exact List.mem_cons_of_mem _ (List.dropLast_subset _ ht)
    · cases h
  · cases h

theorem word_of_ofPart? {text : String} {ts : List Token} (h : ofPart? text = some ts)
    {s : String} (hs : .name s ∈ ts) : Word s := by
  obtain ⟨whole, hwhole, hgrouped⟩ := Option.bind_eq_some_iff.mp h
  obtain ⟨hlex, -⟩ := Option.filter_eq_some_iff.mp hwhole
  exact word_of_lex hlex (mem_of_grouped? hgrouped _ hs)

end Token

/-! ### Names that are given -/

namespace Grammar

theorem run_givenName (low : Bool) (t : Token) (rest : List Token) :
    (givenName low).run (.ofTokens (t :: rest)) =
      match t with
      | .name text =>
        if isName text || (low && text == "_") then some (text, ⟨rest, [t], false⟩) else none
      | _ => none := by
  cases t with
  | name text =>
    change (if isName text || (low && text == "_") then (pure text : Reader String)
      else failure).run ⟨rest, [.name text], false⟩ = _
    dsimp only
    split
    · rfl
    · rfl
  | _ => rfl

theorem mem_of_whole_givenName {low : Bool} {ts : List Token} {name : String}
    (h : whole (givenName low) ts = some name) : .name name ∈ ts := by
  unfold whole at h
  split at h
  · rename_i a after hrun
    split at h
    · obtain rfl := Option.some.inj h
      cases ts with
      | nil => cases hrun
      | cons t rest =>
        rw [run_givenName] at hrun
        split at hrun
        · split at hrun
          · obtain ⟨rfl, -⟩ := Prod.mk.inj (Option.some.inj hrun)
            exact List.mem_cons_self
          · cases hrun
        · cases hrun
    · cases h
  · cases h

/-- What is given as a name to a field or a type is one segment of a path. -/
theorem canonicalSegment_of_givenName {low : Bool} {text name : String}
    (h : whole? (givenName low) text = some name) : FieldPath.CanonicalSegment name := by
  obtain ⟨ts, hpart, hwhole⟩ := Option.bind_eq_some_iff.mp h
  have hword := Token.word_of_ofPart? hpart (mem_of_whole_givenName hwhole)
  exact hword.canonicalSegment

end Grammar

end Derive

end RecordCopy
