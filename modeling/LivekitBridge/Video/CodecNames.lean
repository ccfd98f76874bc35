import LivekitBridge.Video.RosStream

/-!
# The format of a compressed image

`parseCompressedCodec` reads what `image_transport` writes, such as `"jpeg"` or
`"bgr8; jpeg compressed bgr8"`: the first word, or if that is not the name of a codec the first word
after the first semicolon.  `BeginsWithCodec` says what a first word is.  `trim` takes more spaces
away than end a word: the name may be followed by a vertical tab only if nothing else is.
-/

namespace LivekitBridge

namespace Video

def NamesCodec (codec word : Str) : Prop :=
  (codec = lit "jpeg" ∧ (word.map toLower = lit "jpeg" ∨ word.map toLower = lit "jpg")) ∨
    (codec = lit "png" ∧ word.map toLower = lit "png")

/-- A text begins with the name of a codec, after spaces; what follows the name begins with a
separator or is nothing but spaces. -/
def BeginsWithCodec (codec text : Str) : Prop :=
  ∃ lead word rest, text = lead ++ word ++ rest ∧ (∀ b ∈ lead, isSpace b = true) ∧
    NamesCodec codec word ∧ ((∀ b ∈ rest, isSpace b = true) ∨ ∃ b ∈ rest.head?, isTokenEnd b = true)

theorem eq_append_trim (text : Str) :
    ∃ lead trail, text = lead ++ trim text ++ trail ∧ (∀ b ∈ lead, isSpace b = true) ∧
      ∀ b ∈ trail, isSpace b = true := by
  refine ⟨text.takeWhile isSpace, (text.dropWhile isSpace).rtakeWhile isSpace, ?_, ?_, ?_⟩
  · rw [List.append_assoc, trim, List.rdropWhile_append_rtakeWhile, List.takeWhile_append_dropWhile]
  · intro b hb
    exact List.mem_takeWhile_imp hb
  · intro b hb
    exact List.mem_rtakeWhile_imp hb

theorem isSpace_of_isTokenEnd {b : UInt8} (h : isTokenEnd b = true) : isSpace b = true := by
  simp only [isTokenEnd, Bool.or_eq_true, beq_iff_eq] at h
  rcases h with ((rfl | rfl) | rfl) | rfl <;> rfl

theorem isSpace_eq_false_of_toLower {b : UInt8} (h : 0x61 ≤ toLower b) : isSpace b = false := by
  rw [Bool.eq_false_iff]
  intro hspace
  have hsmall : b ≤ 0x20 := by
    simp only [isSpace, Bool.or_eq_true, Bool.and_eq_true, beq_iff_eq, decide_eq_true_eq,
      UInt8.le_iff_toNat_le] at hspace ⊢
    rcases hspace with rfl | ⟨-, hle⟩
    · decide
    · exact Nat.le_trans hle (by decide)
  have hsame : toLower b = b := by
    rw [toLower, if_neg]
    simp only [Bool.and_eq_true, decide_eq_true_eq, UInt8.le_iff_toNat_le] at hsmall ⊢
    intro hupper
    exact absurd (Nat.le_trans hupper.1 hsmall) (by decide)
  rw [hsame, UInt8.le_iff_toNat_le] at h
  rw [UInt8.le_iff_toNat_le] at hsmall
  exact absurd (Nat.le_trans h hsmall) (by decide)

section Words

variable {codec word : Str}

theorem NamesCodec.letters (h : NamesCodec codec word) :
    word ≠ [] ∧ ∀ b ∈ word, isSpace b = false := by
  have hletters : ∀ name : Str, word.map toLower = name → name ≠ [] →
      name.all (fun b => 0x61 ≤ b) = true → word ≠ [] ∧ ∀ b ∈ word, isSpace b = false := by
    intro name hname hne hletters
    rw [List.all_eq_true] at hletters
    refine ⟨?_, fun b hb => isSpace_eq_false_of_toLower (of_decide_eq_true (hletters _ ?_))⟩
    · rintro rfl
      exact hne hname.symm
    · rw [← hname]
      exact List.mem_map_of_mem hb
  rcases h with ⟨-, hname | hname⟩ | ⟨-, hname⟩
  · exact hletters _ hname (by decide) (by decide)
  · exact hletters _ hname (by decide) (by decide)
  · exact hletters _ hname (by decide) (by decide)

/-- The word of `parse_token`, in lower case. -/
theorem parseToken_eq_some_iff (token : Str) :
    parseToken token = some codec ↔
      NamesCodec codec ((trim token).takeWhile (!isTokenEnd ·)) := by
  unfold parseToken NamesCodec
  simp only [Bool.or_eq_true, decide_eq_true_eq]
  split
  · rename_i hjpeg
    constructor
    · intro h
      exact .inl ⟨(Option.some.inj h).symm, hjpeg⟩
    · rintro (⟨rfl, -⟩ | ⟨-, hpng⟩)
      · rfl
      · rcases hjpeg with hjpeg | hjpeg
        · rw [hpng] at hjpeg
          exact absurd hjpeg (by decide)
        · rw [hpng] at hjpeg
          exact absurd hjpeg (by decide)
  · rename_i hjpeg
    split
    · rename_i hpng
      constructor
      · intro h
        exact .inr ⟨(Option.some.inj h).symm, hpng⟩
      · rintro (⟨-, h⟩ | ⟨rfl, -⟩)
        · exact absurd h hjpeg
        · rfl
    · rename_i hpng
      constructor
      · intro h
        cases h
      · rintro (⟨-, h⟩ | ⟨-, h⟩)
        · exact absurd h hjpeg
        · exact absurd h hpng

/-- The first word of a text that begins with it. -/
theorem takeWhile_trim {lead rest : Str} (hlead : ∀ b ∈ lead, isSpace b = true) (hne : word ≠ [])
    (hword : ∀ b ∈ word, isSpace b = false)
    (hrest : (∀ b ∈ rest, isSpace b = true) ∨ ∃ b ∈ rest.head?, isTokenEnd b = true) :
    (trim (lead ++ word ++ rest)).takeWhile (!isTokenEnd ·) = word := by
  have hinside : ∀ b ∈ word, (!isTokenEnd b) = true := by
    intro b hb
    rw [Bool.not_eq_true', Bool.eq_false_iff]
    intro hend
    have hspace := isSpace_of_isTokenEnd hend
    rw [hword b hb] at hspace
    cases hspace
  have htrim : trim word = word :=
    trim_eq_self (fun c hc => hword c (List.mem_of_mem_head? hc))
      fun c hc => hword c (List.mem_of_mem_getLast? hc)
  rw [List.append_assoc, trim_spaces_append hlead]
  rcases hrest with hspaces | ⟨b, hb, hend⟩
  · rw [trim_append_spaces hspaces, htrim]
    exact List.takeWhile_eq_self_iff.mpr hinside
  · -- what is left of `rest` still begins with the separator
    obtain ⟨c, w, rfl⟩ := List.exists_cons_of_ne_nil hne
    have hcut : trim (c :: w ++ rest) = c :: w ++ rest.rdropWhile isSpace := by
      rw [List.cons_append, trim_cons (hword c (by simp)), ← List.cons_append]
      exact rdropWhile_append_of_not fun d hd => hword d (List.mem_of_mem_getLast? hd)
    rw [hcut, List.takeWhile_append_of_pos hinside]
    have hstop : (rest.rdropWhile isSpace).takeWhile (!isTokenEnd ·) = [] := by
      cases hleft : rest.rdropWhile isSpace with
      | nil => rfl
      | cons d r =>
        obtain ⟨tail, htail⟩ := List.rdropWhile_prefix (p := isSpace) (l := rest)
        rw [hleft] at htail
        rw [← htail] at hb
        obtain rfl : d = b := by simpa using hb
        simp [hend]
    rw [hstop, List.append_nil]

theorem parseToken_eq_some_iff_begins (token : Str) :
    parseToken token = some codec ↔ BeginsWithCodec codec token := by
  rw [parseToken_eq_some_iff]
  constructor
  · intro h
    obtain ⟨lead, trail, htext, hlead, htrail⟩ := eq_append_trim token
    refine ⟨lead, _, (trim token).dropWhile (!isTokenEnd ·) ++ trail, ?_, hlead, h, ?_⟩
    · rw [List.append_assoc lead, ← List.append_assoc _ _ trail, List.takeWhile_append_dropWhile,
        ← List.append_assoc]
      exact htext
    · cases hrest : (trim token).dropWhile (!isTokenEnd ·) with
      | nil => exact .inl (by simpa using htrail)
      | cons b r =>
        have hhead := List.head_dropWhile_not (!isTokenEnd ·) (l := trim token)
          (by rw [hrest]; simp)
        simp only [hrest, List.head_cons, Bool.not_eq_false'] at hhead
        exact .inr ⟨b, by simp, hhead⟩
  · rintro ⟨lead, word, rest, rfl, hlead, hnames, hrest⟩
    obtain ⟨hne, hword⟩ := hnames.letters
    rw [takeWhile_trim hlead hne hword hrest]
    exact hnames

end Words

/-- The first semicolon of a text. -/
theorem split_semicolon {primary rest : Str} (h : semicolon ∉ primary) :
    (primary ++ semicolon :: rest).takeWhile (· != semicolon) = primary ∧
      (primary ++ semicolon :: rest).dropWhile (· != semicolon) = semicolon :: rest := by
  have hbefore : ∀ b ∈ primary, (b != semicolon) = true := by
    intro b hb
    rw [bne_iff_ne]
    rintro rfl
    exact h hb
  rw [List.takeWhile_append_of_pos hbefore, List.dropWhile_append_of_pos hbefore]
  exact ⟨by simp, by simp⟩

/-- **Which formats are decoded, and how.**  A format is that of a codec exactly if it begins with
the codec's name, or if what is before its first semicolon begins with no codec's name and what
is after it begins with this one's.  What follows a second semicolon without a space is part of the
word. -/
theorem parseCompressedCodec_eq_some_iff (format codec : Str) :
    parseCompressedCodec format = some codec ↔
      BeginsWithCodec codec (format.takeWhile (· != semicolon)) ∨
      ∃ primary rest, format = primary ++ semicolon :: rest ∧ semicolon ∉ primary ∧
        (∀ other, ¬ BeginsWithCodec other primary) ∧ BeginsWithCodec codec rest := by
  unfold parseCompressedCodec
  cases hprimary : parseToken (format.takeWhile (· != semicolon)) with
  | some found =>
    have hfound := (parseToken_eq_some_iff_begins _).mp hprimary
    constructor
    · intro h
      rw [← Option.some.inj h]
      exact .inl hfound
    · rintro (hbegins | ⟨primary, rest, rfl, hno, hnone, -⟩)
      · have hsame := (parseToken_eq_some_iff_begins _).mpr hbegins
        rw [hprimary] at hsame
        exact hsame
      · rw [(split_semicolon hno).1] at hfound
        exact absurd hfound (hnone found)
  | none =>
    have hnone : ∀ other, ¬ BeginsWithCodec other (format.takeWhile (· != semicolon)) := by
      intro other hbegins
      rw [(parseToken_eq_some_iff_begins _).mpr hbegins] at hprimary
      cases hprimary
    cases hrest : format.dropWhile (· != semicolon) with
    | nil =>
      constructor
      · intro h
        cases h
      · rintro (hbegins | ⟨primary, rest, rfl, hno, -, -⟩)
        · exact absurd hbegins (hnone codec)
        · rw [(split_semicolon hno).2] at hrest
          cases hrest
    | cons b rest =>
      dsimp only
      rw [parseToken_eq_some_iff_begins]
      constructor
      · intro hbegins
        have hhead := List.head_dropWhile_not (· != semicolon) (l := format) (by rw [hrest]; simp)
        simp only [hrest, List.head_cons, bne_eq_false_iff_eq] at hhead
        refine .inr ⟨format.takeWhile (· != semicolon), rest, ?_, ?_, hnone, hbegins⟩
        · obtain rfl : b = semicolon := hhead
          rw [← hrest, List.takeWhile_append_dropWhile]
        · intro hmem
          have hnot := List.mem_takeWhile_imp hmem
          simp at hnot
      · rintro (hbegins | ⟨primary, rest', rfl, hno, -, hbegins⟩)
        · exact absurd hbegins (hnone codec)
        · rw [(split_semicolon hno).2] at hrest
          rw [← (List.cons.inj hrest).2]
          exact hbegins

example : parseCompressedCodec (lit "bgr8; JPEG compressed bgr8") = some (lit "jpeg") := by decide

end Video

end LivekitBridge
