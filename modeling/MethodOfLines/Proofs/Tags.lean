import Mathlib.Data.List.DropRight
import Mathlib.Data.List.Forall2
import MethodOfLines.Boundary.Condition

/-!
# Proofs/Tags — one grammar for the tags of boundary conditions

A tag is read in three steps, none of which looks at the others: blanks are dropped at both ends,
ASCII letters are lowered, and the beginning is compared.  `BoundaryCondition.Begins` is the grammar
that comes out: white space, then a word in any case, then anything.  Trimming at the end cannot be
seen in it, because it stops at the last letter of the word at the latest
(`Text.trim_append_of_visible`).

The policy of a tag depends on its folded characters alone, and these change neither with the case
of its letters (`BoundaryCondition.folded_of_sameLetters`) nor with white space around it
(`Text.trim_append_append`).
-/

namespace MethodOfLines

namespace Text

/-! ## White space -/

/-- The code points of the space separators. -/
def spaceSeparators : List Nat :=
  [0x0020, 0x00A0, 0x1680] ++ List.range' 0x2000 11 ++ [0x202F, 0x205F, 0x3000]

/-- **White space**: the space separators, the separators of lines and of paragraphs, and the
control characters that go to another column or line. -/
def WhiteSpace (c : Char) : Prop :=
  c.toNat ∈ spaceSeparators ∨ c.toNat ∈ [0x2028, 0x2029]
    ∨ c.toNat ∈ [0x09, 0x0A, 0x0B, 0x0C, 0x0D, 0x85]

/-- **The blanks are the white space.** -/
theorem isBlank_iff {c : Char} : isBlank c = true ↔ WhiteSpace c := by
  simp only [isBlank, inRanges, blankRanges, WhiteSpace, spaceSeparators, List.any_cons,
    List.any_nil, Bool.or_false, Bool.or_eq_true, Bool.and_eq_true, decide_eq_true_eq,
    List.mem_append, List.mem_cons, List.mem_range'_1, List.not_mem_nil, or_false]
  omega

/-! ## Trimming -/

section Trim

variable {w w' : List Char}

/-- Trimming takes blanks away, at the two ends. -/
theorem exists_trim (cs : List Char) : ∃ w w', cs = w ++ trim cs ++ w'
    ∧ (∀ c ∈ w, isBlank c) ∧ ∀ c ∈ w', isBlank c := by
  refine ⟨cs.takeWhile isBlank, (trimStart cs).rtakeWhile isBlank, ?_,
    fun c hc => List.mem_takeWhile_imp hc, fun c hc => List.mem_rtakeWhile_imp hc⟩
  have hend : trim cs ++ (trimStart cs).rtakeWhile isBlank = trimStart cs :=
    List.rdropWhile_append_rtakeWhile
  rw [List.append_assoc, hend]
  exact List.takeWhile_append_dropWhile.symm

theorem trimStart_append (hw : ∀ c ∈ w, isBlank c) (cs : List Char) :
    trimStart (w ++ cs) = trimStart cs := by
  rw [trimStart, List.dropWhile_append, List.dropWhile_eq_nil_iff.mpr hw]
  rfl

theorem trimEnd_append (hw : ∀ c ∈ w, isBlank c) (cs : List Char) :
    trimEnd (cs ++ w) = trimEnd cs := by
  have hnil : w.reverse.dropWhile isBlank = [] :=
    List.dropWhile_eq_nil_iff.mpr fun c hc => hw c (List.mem_reverse.mp hc)
  rw [trimEnd, List.reverse_append, List.dropWhile_append, hnil]
  rfl

/-- **Blanks around characters leave no trace in what is trimmed.** -/
theorem trim_append_append (hw : ∀ c ∈ w, isBlank c) (hw' : ∀ c ∈ w', isBlank c)
    (cs : List Char) : trim (w ++ cs ++ w') = trim cs := by
  rw [trim, trim, List.append_assoc, trimStart_append hw, trimStart, List.dropWhile_append]
  split
  · next hnil =>
    -- All of `cs` is blank, so the blanks after it are dropped from the front.
    rw [List.dropWhile_eq_nil_iff.mpr hw', trimStart, List.isEmpty_iff.mp hnil]
  · exact trimEnd_append hw' _

/-- **Trimming keeps the visible characters in front**, whatever follows them. -/
theorem trim_append_of_visible {word : List Char} (hne : word ≠ [])
    (hword : ∀ c ∈ word, ¬isBlank c) (rest : List Char) :
    trim (word ++ rest) = word ++ trimEnd rest := by
  have hstart : trimStart (word ++ rest) = word ++ rest :=
    List.dropWhile_eq_self_iff.mpr fun _ => by
      rw [List.getElem_append_left (List.length_pos_of_ne_nil hne)]
      exact hword _ (List.getElem_mem _)
  have hstop : word.reverse.dropWhile isBlank = word.reverse :=
    List.dropWhile_eq_self_iff.mpr fun _ => hword _ (List.mem_reverse.mp (List.getElem_mem _))
  rw [trim, hstart, trimEnd, trimEnd, List.reverse_append, List.dropWhile_append, hstop]
  split
  · next hnil => simp [List.isEmpty_iff.mp hnil]
  · rw [List.reverse_append, List.reverse_reverse]

end Trim

/-! ## The case of letters -/

/-- **The same character up to the case of an ASCII letter.** -/
def SameLetter (c d : Char) : Prop :=
  c = d ∨ ∃ k < 26, c.toNat = 'A'.toNat + k ∧ d.toNat = 'a'.toNat + k
    ∨ c.toNat = 'a'.toNat + k ∧ d.toNat = 'A'.toNat + k

/-- **Two strings that differ in the case of ASCII letters only.** -/
def SameLetters (s t : String) : Prop := List.Forall₂ SameLetter s.toList t.toList

/-- Lowering moves the capital letters up by 32 code points. -/
theorem toLower_cases (c : Char) :
    (65 ≤ c.toNat ∧ c.toNat ≤ 90) ∧ c.toLower.toNat = c.toNat + 32
      ∨ ¬(65 ≤ c.toNat ∧ c.toNat ≤ 90) ∧ c.toLower.toNat = c.toNat := by
  have hcapital : (c.val ≥ 'A'.val ∧ c.val ≤ 'Z'.val) ↔ 65 ≤ c.toNat ∧ c.toNat ≤ 90 := Iff.rfl
  by_cases h : 65 ≤ c.toNat ∧ c.toNat ≤ 90
  · have hlower : c.toLower.toNat = (c.val + 32).toNat :=
      congrArg Char.toNat (dif_pos (hcapital.mpr h))
    refine .inl ⟨h, hlower.trans ?_⟩
    rw [UInt32.toNat_add]
    change (c.toNat + 32) % 2 ^ 32 = c.toNat + 32
    omega
  · exact .inr ⟨h, congrArg Char.toNat (dif_neg (hcapital.not.mpr h))⟩

/-- Lowering identifies a letter with its other case, and nothing else. -/
theorem toLower_eq_toLower_iff {c d : Char} : c.toLower = d.toLower ↔ SameLetter c d := by
  have hA : 'A'.toNat = 65 := rfl
  have ha : 'a'.toNat = 97 := rfl
  have hc := toLower_cases c
  have hd := toLower_cases d
  rw [SameLetter, ← Char.toNat_inj, ← Char.toNat_inj, hA, ha]
  constructor
  · intro h
    -- Of two different characters that are lowered alike, the one that comes first is a capital.
    rcases Nat.lt_trichotomy c.toNat d.toNat with hlt | heq | hlt
    · exact .inr ⟨c.toNat - 65, by omega⟩
    · exact .inl heq
    · exact .inr ⟨d.toNat - 65, by omega⟩
  · rintro (h | ⟨k, hk, h⟩) <;> omega

theorem sameLetters_iff {s t : String} :
    SameLetters s t ↔ s.toList.map Char.toLower = t.toList.map Char.toLower := by
  rw [SameLetters, ← List.forall₂_eq_eq_eq, List.forall₂_map_left_iff, List.forall₂_map_right_iff]
  simp only [toLower_eq_toLower_iff]

/-- No letter is blank, in whichever case. -/
theorem isBlank_toLower (c : Char) : isBlank c.toLower = isBlank c := by
  rw [Bool.eq_iff_iff, isBlank_iff, isBlank_iff, WhiteSpace, WhiteSpace]
  rcases toLower_cases c with ⟨hcapital, hlower⟩ | ⟨-, hlower⟩ <;> rw [hlower]
  simp only [spaceSeparators, List.mem_append, List.mem_cons, List.mem_range'_1,
    List.not_mem_nil, or_false]
  omega

/-- Trimming and lowering can be done in either order. -/
theorem trim_map_toLower (cs : List Char) :
    trim (cs.map Char.toLower) = (trim cs).map Char.toLower := by
  have hblank : isBlank ∘ Char.toLower = isBlank := funext isBlank_toLower
  simp only [trim, trimEnd, trimStart, List.dropWhile_map, ← List.map_reverse, hblank]

end Text

namespace BoundaryCondition

open Text

/-! ## The grammar -/

/-- **The grammar of tags**: white space, a word in any case, and anything. -/
def Begins (word tag : String) : Prop :=
  ∃ blanks spelling rest : String, tag = blanks ++ spelling ++ rest
    ∧ (∀ c ∈ blanks.toList, WhiteSpace c) ∧ SameLetters spelling word

/-- The characters of a tag that are compared. -/
def folded (tag : String) : List Char := (trim tag.toList).map Char.toLower

/-- **A word that tags can begin with**: lower-case, and nothing in it is blank. -/
structure IsWord (word : String) : Prop where
  nonempty : word.toList ≠ []
  lower : word.toList.map Char.toLower = word.toList
  visible : ∀ c ∈ word.toList, ¬isBlank c

theorem isWord_extrapolation : IsWord "extrapolation" :=
  ⟨by decide, by decide, List.any_eq_false.mp (by decide)⟩

theorem isWord_radiation : IsWord "radiation" :=
  ⟨by decide, by decide, List.any_eq_false.mp (by decide)⟩

/-- What is compared of a tag that the grammar puts together. -/
theorem IsWord.folded_append {word blanks spelling : String} (h : IsWord word)
    (hblanks : ∀ c ∈ blanks.toList, WhiteSpace c) (hspelling : SameLetters spelling word)
    (rest : String) :
    folded (blanks ++ spelling ++ rest)
      = word.toList ++ (trimEnd rest.toList).map Char.toLower := by
  rw [sameLetters_iff, h.lower] at hspelling
  have hne : spelling.toList ≠ [] := fun hnil => h.nonempty (by rw [← hspelling, hnil]; rfl)
  have hvisible : ∀ c ∈ spelling.toList, ¬isBlank c := fun c hc => by
    rw [← isBlank_toLower]
    exact h.visible _ (hspelling ▸ List.mem_map_of_mem hc)
  have htrim : trim (blanks ++ spelling ++ rest).toList
      = spelling.toList ++ trimEnd rest.toList := by
    rw [← trim_append_of_visible hne hvisible, String.toList_append, String.toList_append,
      List.append_assoc, trim, trim, trimStart_append]
    exact fun c hc => isBlank_iff.mpr (hblanks c hc)
  rw [folded, htrim, List.map_append, hspelling]

/-- **A tag begins with a word if its folded characters do.** -/
theorem IsWord.prefix_folded_iff {word : String} (h : IsWord word) {tag : String} :
    word.toList <+: folded tag ↔ Begins word tag := by
  constructor
  · rw [folded, List.prefix_map_iff]
    rintro ⟨spelling, ⟨rest, hrest⟩, hspelling⟩
    -- The blanks that were trimmed at the end belong to what follows the word.
    obtain ⟨w, w', htag, hw, -⟩ := exists_trim tag.toList
    refine ⟨.ofList w, .ofList spelling, .ofList (rest ++ w'), ?_, ?_, ?_⟩
    · rw [← String.toList_inj, htag, ← hrest]
      simp
    · simpa only [String.toList_ofList, ← isBlank_iff] using hw
    · rw [sameLetters_iff, String.toList_ofList, ← hspelling, h.lower]
  · rintro ⟨blanks, spelling, rest, rfl, hblanks, hspelling⟩
    rw [h.folded_append hblanks hspelling]
    exact List.prefix_append ..

theorem Begins.append {word tag : String} (h : Begins word tag) (suffix : String) :
    Begins word (tag ++ suffix) := by
  obtain ⟨blanks, spelling, rest, rfl, hblanks, hspelling⟩ := h
  exact ⟨blanks, spelling, rest ++ suffix, String.append_assoc, hblanks, hspelling⟩

/-! ## What a tag names -/

/-- **What can become of a tag**: it begins with one of the words, or with neither and is kept. -/
theorem ofTag_cases (tag : String) :
    (Begins "extrapolation" tag ∧ ¬Begins "radiation" tag ∧ ofTag tag = .extrapolation)
      ∨ (¬Begins "extrapolation" tag ∧ Begins "radiation" tag ∧ ofTag tag = .radiation)
      ∨ (¬Begins "extrapolation" tag ∧ ¬Begins "radiation" tag ∧ ofTag tag = .other tag) := by
  simp only [← isWord_extrapolation.prefix_folded_iff, ← isWord_radiation.prefix_folded_iff, ofTag,
    List.isPrefixOf_iff_prefix]
  by_cases he : "extrapolation".toList <+: folded tag
  · -- The two words begin with different letters.
    have hr : ¬"radiation".toList <+: folded tag := fun hr => by
      obtain ⟨⟨rest, hrest⟩, ⟨rest', hrest'⟩⟩ := And.intro he hr
      exact absurd (List.cons.inj (hrest.trans hrest'.symm)).1 (by decide)
    exact .inl ⟨he, hr, if_pos he⟩
  · by_cases hr : "radiation".toList <+: folded tag
    · exact .inr (.inl ⟨he, hr, (if_neg he).trans (if_pos hr)⟩)
    · exact .inr (.inr ⟨he, hr, (if_neg he).trans (if_neg hr)⟩)

theorem ofTag_eq_extrapolation_iff {tag : String} :
    ofTag tag = .extrapolation ↔ Begins "extrapolation" tag := by
  rcases ofTag_cases tag with ⟨he, -, h⟩ | ⟨he, -, h⟩ | ⟨he, -, h⟩ <;> simp [h, he]

theorem ofTag_eq_radiation_iff {tag : String} :
    ofTag tag = .radiation ↔ Begins "radiation" tag := by
  rcases ofTag_cases tag with ⟨-, hr, h⟩ | ⟨-, hr, h⟩ | ⟨-, hr, h⟩ <;> simp [h, hr]

theorem ofTag_eq_other_iff {tag : String} :
    ofTag tag = .other tag ↔ ¬Begins "extrapolation" tag ∧ ¬Begins "radiation" tag := by
  rcases ofTag_cases tag with ⟨he, hr, h⟩ | ⟨he, hr, h⟩ | ⟨he, hr, h⟩ <;> simp [h, he, hr]

/-- **The policy of a tag depends on its folded characters alone.** -/
theorem policy_ofTag_congr {tag tag' : String} (h : folded tag' = folded tag) :
    (ofTag tag').policy = (ofTag tag).policy := by
  have hpolicy : ∀ tag, (ofTag tag).policy
      = if "extrapolation".toList.isPrefixOf (folded tag) then .extrapolateAndInner
        else if "radiation".toList.isPrefixOf (folded tag) then .radiationAndInner
        else .noOp := fun tag => by
    rw [ofTag, apply_ite policy, apply_ite policy]
    rfl
  rw [hpolicy, hpolicy, h]

theorem folded_of_sameLetters {tag tag' : String} (h : SameLetters tag tag') :
    folded tag' = folded tag := by
  rw [folded, folded, ← trim_map_toLower, ← trim_map_toLower, sameLetters_iff.mp h]

theorem folded_append_append {before after : String} (hbefore : ∀ c ∈ before.toList, WhiteSpace c)
    (hafter : ∀ c ∈ after.toList, WhiteSpace c) (tag : String) :
    folded (before ++ tag ++ after) = folded tag := by
  simp only [← isBlank_iff] at hbefore hafter
  rw [folded, String.toList_append, String.toList_append, trim_append_append hbefore hafter, folded]

/-- A recognised tag names the same whatever is appended. -/
theorem ofTag_append {tag : String} (h : ∀ t, ofTag tag ≠ .other t) (suffix : String) :
    ofTag (tag ++ suffix) = ofTag tag := by
  rcases ofTag_cases tag with ⟨he, -, heq⟩ | ⟨-, hr, heq⟩ | ⟨-, -, heq⟩
  · rw [heq, ofTag_eq_extrapolation_iff]
    exact he.append suffix
  · rw [heq, ofTag_eq_radiation_iff]
    exact hr.append suffix
  · exact absurd heq (h tag)

/-- What is shown of a tag is read as the tag was. -/
theorem ofTag_display (tag : String) : ofTag (ofTag tag).display = ofTag tag := by
  rcases ofTag_cases tag with ⟨-, -, h⟩ | ⟨-, -, h⟩ | ⟨-, -, h⟩
  · rw [h]
    decide
  · rw [h]
    decide
  · have hdisplay : (ofTag tag).display = tag := congrArg display h
    rw [hdisplay]

/-- **Tags are recognised by one grammar.**  A tag names a condition if it begins with the word for
it, after white space and in any case, and any other tag is kept as it was given.  Hence neither the
case of letters nor white space around the tag decides the policy, a tag that is recognised stays so
whatever is appended, and a condition is read back from what it is shown as. -/
theorem ofTag_follows_grammar (tag : String) :
    (ofTag tag = .extrapolation ↔ Begins "extrapolation" tag)
    ∧ (ofTag tag = .radiation ↔ Begins "radiation" tag)
    ∧ (ofTag tag = .other tag ↔ ¬Begins "extrapolation" tag ∧ ¬Begins "radiation" tag)
    ∧ (∀ tag', SameLetters tag tag' → (ofTag tag').policy = (ofTag tag).policy)
    ∧ (∀ before after : String, (∀ c ∈ before.toList, WhiteSpace c) →
        (∀ c ∈ after.toList, WhiteSpace c) →
        (ofTag (before ++ tag ++ after)).policy = (ofTag tag).policy)
    ∧ (∀ suffix, (∀ t, ofTag tag ≠ .other t) → ofTag (tag ++ suffix) = ofTag tag)
    ∧ ofTag (ofTag tag).display = ofTag tag := by
  refine ⟨ofTag_eq_extrapolation_iff, ofTag_eq_radiation_iff, ofTag_eq_other_iff, ?_, ?_,
    fun suffix h => ofTag_append h suffix, ofTag_display tag⟩
  · exact fun tag' h => policy_ofTag_congr (folded_of_sameLetters h)
  · exact fun before after hbefore hafter =>
      policy_ofTag_congr (folded_append_append hbefore hafter tag)

/-- An ideographic space, a next line and mixed case do not hide the radiation condition, and
neither does what follows the word; a zero-width space in front of it does. -/
theorem ofTag_follows_grammar_radiation :
    ofTag "\u3000\u0085RaDiation" = .radiation
    ∧ (ofTag "\u3000\u0085rADIATION").policy = .radiationAndInner
    ∧ (ofTag ("\u2028" ++ "\u3000\u0085RaDiation" ++ "\t\u00a0")).policy = .radiationAndInner
    ∧ ofTag ("\u3000\u0085RaDiation" ++ "\u200b and inner") = .radiation
    ∧ ofTag "\u200bradiation" = .other "\u200bradiation" := by
  obtain ⟨-, hradiation, -, hcase, hblanks, hsuffix, -⟩ :=
    ofTag_follows_grammar "\u3000\u0085RaDiation"
  have hspace : ∀ {s : String}, s.toList.all isBlank = true → ∀ c ∈ s.toList, WhiteSpace c :=
    fun h c hc => isBlank_iff.mp (List.all_eq_true.mp h c hc)
  have hnamed : ofTag "\u3000\u0085RaDiation" = .radiation :=
    hradiation.mpr ⟨"\u3000\u0085", "RaDiation", "", by decide, hspace (by decide),
      sameLetters_iff.mpr (by decide)⟩
  have hpolicy : (ofTag "\u3000\u0085RaDiation").policy = .radiationAndInner :=
    congrArg policy hnamed
  refine ⟨hnamed, (hcase _ (sameLetters_iff.mpr (by decide))).trans hpolicy,
    (hblanks _ _ (hspace (by decide)) (hspace (by decide))).trans hpolicy,
    (hsuffix _ ?_).trans hnamed, by decide⟩
  simp [hnamed]

end BoundaryCondition

end MethodOfLines
