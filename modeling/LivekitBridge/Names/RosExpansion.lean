import LivekitBridge.Names.Pattern

/-!
# ROS name expansion

What rclcpp's `expand_topic_or_service_name` is documented to do with a name,
for the node name and the namespace it is given:

* `~` at the front stands for the node's own namespace, `namespace/node`;
* `{node}`, `{ns}` and `{namespace}` are replaced, and any other substitution is
  an error;
* a name that is still relative is put under the namespace;
* the result must be a valid absolute name.

`NameGrammar` holds the two validity checks (of the name as written, and of the
expanded name) with the facts about them that the ROS naming rules state, and
`rosExpand` is the expansion for a grammar.  `ros2Grammar` is the grammar of the
naming rules themselves, so the hypotheses are met by a real one.

`Implements` says that an `Expand` returns what `rosExpand` returns.  The last
part compares one name under two nodes.  A name that uses neither the node name
nor the namespace expands alike under all of them (`rosExpand_congr`).  The
other way about, each `{node}` and each `{ns}` adds the length of what it stands
for (`length_piecesText`), so an agreement of two expansions says that the name
does not use what has two lengths (`not_usesNode_of_eq`,
`namespace_length_of_eq`).
-/

namespace LivekitBridge

open Lib

/-- `'~'` -/
def tilde : UInt8 := 0x7E

/-- `'\x7b'`, the opening brace -/
def openBrace : UInt8 := 0x7B

/-- `'\x7d'`, the closing brace -/
def closeBrace : UInt8 := 0x7D

/-! ### Pieces of a name -/

/-- A byte of the name, or a substitution. -/
inductive Piece
  | byte (c : UInt8)
  | subst (key : Str)
deriving DecidableEq, Repr

/-- Reads the pieces of a name; the first argument is the open substitution, if
there is one, with its key reversed.  Braces neither nest nor stay open. -/
def piecesFrom : Option Str → Str → Option (List Piece)
  | none, [] => some []
  | some _, [] => none
  | none, c :: r =>
    if c = openBrace then piecesFrom (some []) r
    else if c = closeBrace then none
    else (piecesFrom none r).map (Piece.byte c :: ·)
  | some key, c :: r =>
    if c = closeBrace then (piecesFrom none r).map (Piece.subst key.reverse :: ·)
    else if c = openBrace then none
    else piecesFrom (some (c :: key)) r

def pieces (name : Str) : Option (List Piece) := piecesFrom none name

/-- `{node}` -/
def Piece.isNode (p : Piece) : Bool := p == .subst (lit "node")

/-- `{ns}` or `{namespace}` -/
def Piece.isNamespace (p : Piece) : Bool := p == .subst (lit "ns") || p == .subst (lit "namespace")

/-- What a piece stands for; nothing for an unknown substitution. -/
def Piece.text (nodeName namespace_ : Str) (p : Piece) : Option Str :=
  match p with
  | .byte c => some [c]
  | .subst key =>
    if key = lit "node" then some nodeName
    else if key = lit "ns" ∨ key = lit "namespace" then some namespace_
    else none

def piecesText (nodeName namespace_ : Str) : List Piece → Option Str
  | [] => some []
  | p :: ps =>
    match p.text nodeName namespace_, piecesText nodeName namespace_ ps with
    | some s, some r => some (s ++ r)
    | _, _ => none

/-- A name put under a namespace; the root namespace needs no separator. -/
def joinNamespace (namespace_ name : Str) : Str :=
  if namespace_.length = 1 then namespace_ ++ name else namespace_ ++ slash :: name

/-! ### The grammar -/

/-- The two checks a name passes, with what the ROS naming rules say of them. -/
structure NameGrammar where
  /-- the name as it is written -/
  validName : Str → Bool
  /-- the expanded name, of a topic or of a service -/
  validFull : Bool → Str → Bool
  full_absolute : ∀ {svc n}, validFull svc n = true → IsAbsolute n
  full_plain : ∀ {svc n}, validFull svc n = true →
    ∀ c ∈ n, c ≠ openBrace ∧ c ≠ closeBrace ∧ c ≠ tilde ∧ isSpace c = false
  full_valid : ∀ {svc n}, validFull svc n = true → validName n = true
  name_no_star : ∀ {n}, validName n = true → star ∉ n
  name_tilde : ∀ {n}, validName n = true → tilde ∉ n.tail
  name_no_repeat : ∀ {n}, validName n = true → ¬ [slash, slash] <:+: n
  name_no_trailing : ∀ {n}, validName n = true → n.getLast? ≠ some slash
  name_relative : ∀ {n}, n ≠ [] → n.head? ≠ some slash → validName (slash :: n) = true →
    validName n = true

/-- The name with a leading `~` replaced. -/
def expandTilde (nodeName namespace_ : Str) (name : Str) : Str :=
  match name with
  | [] => []
  | c :: r => if c = tilde then joinNamespace namespace_ nodeName ++ r else c :: r

/-- A name made absolute, unless it is already. -/
def makeAbsolute (namespace_ name : Str) : Str :=
  if name.head? = some slash then name else joinNamespace namespace_ name

/-- **ROS name expansion.** -/
def rosExpand (G : NameGrammar) (name nodeName namespace_ : Str) (isService : Bool) : Option Str :=
  if G.validName name then
    match pieces (expandTilde nodeName namespace_ name) with
    | none => none
    | some ps =>
      match piecesText nodeName namespace_ ps with
      | none => none
      | some text =>
        let full := makeAbsolute namespace_ text
        if G.validFull isService full then some full else none
  else none

/-- `expand` returns what ROS name expansion returns, and throws where it has no
result. -/
def Implements (G : NameGrammar) (expand : Expand) : Prop :=
  ∀ name nodeName namespace_ isService n,
    expand name nodeName namespace_ isService = .ok n ↔
      rosExpand G name nodeName namespace_ isService = some n

theorem rosExpand_eq_some {G : NameGrammar} {name nodeName namespace_ n : Str} {isService : Bool} :
    rosExpand G name nodeName namespace_ isService = some n ↔
      G.validName name = true ∧
      ∃ ps text, pieces (expandTilde nodeName namespace_ name) = some ps ∧
        piecesText nodeName namespace_ ps = some text ∧ n = makeAbsolute namespace_ text ∧
        G.validFull isService n = true := by
  unfold rosExpand
  by_cases hv : G.validName name = true
  · rw [if_pos hv]
    cases hp : pieces (expandTilde nodeName namespace_ name) with
    | none => simp
    | some ps =>
      cases ht : piecesText nodeName namespace_ ps with
      | none => simp [ht]
      | some text =>
        by_cases hf : G.validFull isService (makeAbsolute namespace_ text) = true
        · simp only [ht, if_pos hf, Option.some.injEq, hv, true_and]
          constructor
          · rintro rfl; exact ⟨ps, text, rfl, ht, rfl, hf⟩
          · rintro ⟨_, _, rfl, h, rfl, _⟩
            rw [ht] at h
            rw [Option.some.inj h]
        · simp only [ht, if_neg hf, hv, true_and]
          constructor
          · intro h; cases h
          · rintro ⟨_, _, h₁, h₂, rfl, h₃⟩
            rw [← Option.some.inj h₁, ht] at h₂
            rw [← Option.some.inj h₂] at h₃
            exact absurd h₃ hf
  · rw [if_neg hv]
    simp [hv]

/-! ### Plain text -/

theorem piecesFrom_plain : ∀ (plain rest : Str), (∀ c ∈ plain, c ≠ openBrace ∧ c ≠ closeBrace) →
    piecesFrom none (plain ++ rest) = (piecesFrom none rest).map (plain.map Piece.byte ++ ·) := by
  intro plain rest
  induction plain with
  | nil => intro _; cases h : piecesFrom none rest <;> simp [h]
  | cons c plain ih =>
    intro h
    obtain ⟨ho, hc⟩ := h c List.mem_cons_self
    rw [List.cons_append, piecesFrom, if_neg ho, if_neg hc,
      ih (fun x hx => h x (List.mem_cons_of_mem _ hx)), Option.map_map]
    rfl

theorem piecesText_append (nodeName namespace_ : Str) : ∀ (plain : Str) (ps : List Piece),
    piecesText nodeName namespace_ (plain.map Piece.byte ++ ps) =
      (piecesText nodeName namespace_ ps).map (plain ++ ·) := by
  intro plain ps
  induction plain with
  | nil => cases h : piecesText nodeName namespace_ ps <;> simp [h]
  | cons c plain ih =>
    rw [List.map_cons, List.cons_append, piecesText, ih]
    cases piecesText nodeName namespace_ ps <;> simp [Piece.text]

theorem expandTilde_of_ne {nodeName namespace_ name : Str} (h : name.head? ≠ some tilde) :
    expandTilde nodeName namespace_ name = name := by
  cases name with
  | nil => rfl
  | cons c r =>
    rw [expandTilde, if_neg]
    rintro rfl
    exact h rfl

/-- **A valid absolute name expands to itself**, under every node. -/
theorem rosExpand_full {G : NameGrammar} {n : Str} {isService : Bool}
    (h : G.validFull isService n = true) (nodeName namespace_ : Str) :
    rosExpand G n nodeName namespace_ isService = some n := by
  have hplain := G.full_plain h
  have hhead := (G.full_absolute h).head?
  rw [rosExpand_eq_some]
  refine ⟨G.full_valid h, n.map Piece.byte, n, ?_, ?_, ?_, h⟩
  · rw [expandTilde_of_ne (by rw [hhead]; decide), pieces]
    have := piecesFrom_plain n [] (fun c hc => ⟨(hplain c hc).1, (hplain c hc).2.1⟩)
    simpa [piecesFrom] using this
  · have := piecesText_append nodeName namespace_ n []
    simpa [piecesText] using this
  · rw [makeAbsolute, if_pos hhead]

theorem Implements.yieldsAbsolute {G : NameGrammar} {expand : Expand} (h : Implements G expand) :
    YieldsAbsolute expand := by
  intro name nodeName namespace_ isService n hn
  obtain ⟨_, _, _, _, _, _, hf⟩ := rosExpand_eq_some.mp ((h _ _ _ _ _).mp hn)
  exact G.full_absolute hf

/-- What an implementation returns, it returns again when given it back. -/
theorem Implements.idem {G : NameGrammar} {expand : Expand} (h : Implements G expand)
    {name nodeName namespace_ n : Str} {isService : Bool}
    (hn : expand name nodeName namespace_ isService = .ok n) (nodeName' namespace' : Str) :
    expand n nodeName' namespace' isService = .ok n := by
  obtain ⟨_, _, _, _, _, _, hf⟩ := rosExpand_eq_some.mp ((h _ _ _ _ _).mp hn)
  exact (h _ _ _ _ _).mpr (rosExpand_full hf _ _)

theorem trim_full {G : NameGrammar} {n : Str} {isService : Bool}
    (h : G.validFull isService n = true) : trim n = n := by
  have hplain := G.full_plain h
  exact trim_eq_self (fun c hc => (hplain c (List.mem_of_mem_head? hc)).2.2.2)
    (fun c hc => (hplain c (List.mem_of_getLast? hc)).2.2.2)

theorem Implements.trim_eq {G : NameGrammar} {expand : Expand} (h : Implements G expand)
    {name nodeName namespace_ n : Str} {isService : Bool}
    (hn : expand name nodeName namespace_ isService = .ok n) : trim n = n := by
  obtain ⟨_, _, _, _, _, _, hf⟩ := rosExpand_eq_some.mp ((h _ _ _ _ _).mp hn)
  exact trim_full hf

/-- A valid absolute name is returned as it is. -/
def KeepsFull (G : NameGrammar) (expand : Expand) : Prop :=
  ∀ n nodeName namespace_ isService, G.validFull isService n = true →
    expand n nodeName namespace_ isService = .ok n

theorem Implements.keepsFull {G : NameGrammar} {expand : Expand} (h : Implements G expand) :
    KeepsFull G expand := by
  intro n nodeName namespace_ isService hfull
  exact (h _ _ _ _ _).mpr (rosExpand_full hfull _ _)

/-! ### The grammar of the naming rules -/

def isDigit (c : UInt8) : Bool := 0x30 ≤ c && c ≤ 0x39

/-- A letter, a digit or an underscore. -/
def isNameByte (c : UInt8) : Bool :=
  isDigit c || (0x41 ≤ c && c ≤ 0x5A) || (0x61 ≤ c && c ≤ 0x7A) || c == 0x5F

/-- A token must not start with a digit. -/
def startsWithDigit (s : Str) : Bool := s.head?.any isDigit

/-- A name as it may be written: name bytes and separators, `~` in front only and
followed by a separator, braces, no empty token but the first. -/
def ros2ValidName (n : Str) : Bool :=
  !n.isEmpty && (segments slash n).all (fun s => !s.isEmpty) &&
    n.all (fun c => isNameByte c || c == slash || c == tilde || c == openBrace || c == closeBrace) &&
    !n.tail.contains tilde && (n.head? != some tilde || n.tail.head?.all (· == slash)) &&
    (n.splitOn slash).all (fun s => !startsWithDigit s)

/-- An expanded name: a separator before each token, tokens of name bytes. -/
def ros2ValidFull (n : Str) : Bool :=
  n.head? == some slash &&
    (segments slash n).all (fun s => !s.isEmpty && s.all isNameByte && !startsWithDigit s)

theorem isNameByte_ne {c d : UInt8} (h : isNameByte c = true) (hd : isNameByte d = false) :
    c ≠ d := by
  rintro rfl
  rw [h] at hd
  cases hd

theorem isSpace_of_isNameByte {c : UInt8} (h : isNameByte c = true) : isSpace c = false := by
  rw [Bool.eq_false_iff]
  intro hs
  simp only [isNameByte, isDigit, isSpace, Bool.or_eq_true, Bool.and_eq_true, decide_eq_true_eq,
    beq_iff_eq, UInt8.le_iff_toNat_le, ← UInt8.toNat_inj, UInt8.reduceToNat] at h hs
  omega

theorem ros2ValidFull_segments {n : Str} (h : ros2ValidFull n = true) :
    n.head? = some slash ∧
      ∀ s ∈ segments slash n, s ≠ [] ∧ (∀ c ∈ s, isNameByte c = true) ∧ startsWithDigit s = false := by
  simp only [ros2ValidFull, Bool.and_eq_true, beq_iff_eq, List.all_eq_true, Bool.not_eq_true',
    List.isEmpty_eq_false_iff] at h
  exact ⟨h.1, fun s hs => ⟨(h.2 s hs).1.1, (h.2 s hs).1.2, (h.2 s hs).2⟩⟩

theorem mem_render {sep c : UInt8} {segs : List Str} (h : c ∈ render sep segs) :
    c = sep ∨ ∃ s ∈ segs, c ∈ s := by
  obtain ⟨s, hs, hc⟩ := List.mem_flatMap.mp h
  exact (List.mem_cons.mp hc).imp_right fun hc => ⟨s, hs, hc⟩

theorem ros2ValidFull_bytes {n : Str} (h : ros2ValidFull n = true) :
    ∀ c ∈ n, c = slash ∨ isNameByte c = true := by
  obtain ⟨hhead, hsegs⟩ := ros2ValidFull_segments h
  intro c hc
  rw [← render_segments hhead] at hc
  exact (mem_render hc).imp_right fun ⟨s, hs, hcs⟩ => (hsegs s hs).2.1 c hcs

/-- An empty token after the first makes a name invalid. -/
theorem ros2ValidName_segments {n : Str} (h : ros2ValidName n = true) : [] ∉ segments slash n := by
  simp only [ros2ValidName, Bool.and_eq_true] at h
  intro hmem
  have := List.all_eq_true.mp h.1.1.1.1.2 [] hmem
  cases this

/-- The grammar of the ROS naming rules. -/
def ros2Grammar : NameGrammar where
  validName := ros2ValidName
  validFull := fun _ n => ros2ValidFull n
  full_absolute := by
    intro _ n h
    obtain ⟨hhead, hsegs⟩ := ros2ValidFull_segments h
    refine ⟨segments slash n, ?_, fun s hs => ⟨(hsegs s hs).1, ?_, ?_⟩, (render_segments hhead).symm⟩
    · cases n with
      | nil => cases hhead
      | cons c r =>
        rw [List.head?_cons, Option.some.injEq] at hhead
        rw [hhead, segments, splitOn_cons_self, List.tail_cons]
        exact List.splitOn_ne_nil slash r
    · exact fun hc => isNameByte_ne ((hsegs s hs).2.1 slash hc) (by decide) rfl
    · exact fun hc => isNameByte_ne ((hsegs s hs).2.1 star hc) (by decide) rfl
  full_plain := by
    intro _ n h c hc
    rcases ros2ValidFull_bytes h c hc with rfl | hb
    · decide
    · exact ⟨isNameByte_ne hb (by decide), isNameByte_ne hb (by decide),
        isNameByte_ne hb (by decide), isSpace_of_isNameByte hb⟩
  full_valid := by
    intro _ n h
    obtain ⟨hhead, hsegs⟩ := ros2ValidFull_segments h
    have hbytes := ros2ValidFull_bytes h
    have hne : n ≠ [] := by rintro rfl; cases hhead
    have htilde : tilde ∉ n := by
      intro hc
      rcases hbytes tilde hc with he | hb
      · exact absurd he (by decide)
      · exact absurd hb (by decide)
    have hsplit : n.splitOn slash = [] :: segments slash n := by
      cases n with
      | nil => cases hhead
      | cons c r =>
        rw [List.head?_cons, Option.some.injEq] at hhead
        rw [hhead, segments, splitOn_cons_self, List.tail_cons]
    simp only [ros2ValidName, Bool.and_eq_true, List.all_eq_true, Bool.not_eq_true',
      List.isEmpty_eq_false_iff, Bool.or_eq_true, beq_iff_eq, List.contains_eq_mem,
      decide_eq_false_iff_not, bne_iff_ne]
    refine ⟨⟨⟨⟨⟨hne, fun s hs => (hsegs s hs).1⟩, fun c hc => ?_⟩, ?_⟩, .inl ?_⟩, ?_⟩
    · rcases hbytes c hc with rfl | hb
      · simp
      · simp [hb]
    · exact fun hc => htilde (List.mem_of_mem_tail hc)
    · rw [hhead]; decide
    · rw [hsplit]
      intro s hs
      rcases List.mem_cons.mp hs with rfl | hs
      · rfl
      · exact (hsegs s hs).2.2
  name_no_star := by
    intro n h hc
    simp only [ros2ValidName, Bool.and_eq_true] at h
    have := List.all_eq_true.mp h.1.1.1.2 star hc
    exact absurd this (by decide)
  name_tilde := by
    intro n h
    simp only [ros2ValidName, Bool.and_eq_true, Bool.not_eq_true', List.contains_eq_mem,
      decide_eq_false_iff_not] at h
    exact h.1.1.2
  name_no_repeat := by
    rintro n h ⟨a, b, rfl⟩
    apply ros2ValidName_segments h
    have hsplit : (a ++ [slash, slash] ++ b).splitOn slash
        = a.splitOn slash ++ [] :: b.splitOn slash := by
      rw [List.append_assoc, List.cons_append, List.splitOn_append_cons_self, List.singleton_append,
        splitOn_cons_self]
    obtain ⟨x, xs, hx⟩ := List.exists_cons_of_ne_nil (List.splitOn_ne_nil slash a)
    rw [segments, hsplit, hx, List.cons_append, List.tail_cons]
    simp
  name_no_trailing := by
    intro n h hlast
    obtain ⟨a, rfl⟩ : ∃ a, n = a ++ [slash] := by
      rw [List.getLast?_eq_some_iff] at hlast
      exact hlast
    apply ros2ValidName_segments h
    have hsplit : (a ++ [slash]).splitOn slash = a.splitOn slash ++ [[]] := by
      rw [List.splitOn_append_cons_self, List.splitOn_nil]
    obtain ⟨x, xs, hx⟩ := List.exists_cons_of_ne_nil (List.splitOn_ne_nil slash a)
    rw [segments, hsplit, hx, List.cons_append, List.tail_cons]
    simp
  name_relative := by
    intro n hne hhead h
    have hsplit : (slash :: n).splitOn slash = [] :: n.splitOn slash := splitOn_cons_self slash n
    simp only [ros2ValidName, Bool.and_eq_true, List.all_eq_true, Bool.not_eq_true',
      List.isEmpty_eq_false_iff, List.contains_eq_mem, decide_eq_false_iff_not, List.tail_cons,
      segments, hsplit] at h ⊢
    obtain ⟨⟨⟨⟨⟨_, hsegs⟩, hbytes⟩, htilde⟩, _⟩, hdigit⟩ := h
    refine ⟨⟨⟨⟨⟨hne, fun s hs => hsegs s (List.mem_of_mem_tail hs)⟩,
      fun c hc => hbytes c (List.mem_cons_of_mem _ hc)⟩, fun hc => htilde (List.mem_of_mem_tail hc)⟩,
      ?_⟩, fun s hs => hdigit s (List.mem_cons_of_mem _ hs)⟩
    rw [Bool.or_eq_true]
    left
    rw [bne_iff_ne]
    exact fun he => htilde (List.mem_of_mem_head? he)

/-- The expansion the naming rules give, as an `Expand`. -/
def ros2Expand : Expand := fun name nodeName namespace_ isService =>
  match rosExpand ros2Grammar name nodeName namespace_ isService with
  | some n => .ok n
  | none => .error (.nameValidation (lit "name is invalid"))

theorem implements_ros2Expand : Implements ros2Grammar ros2Expand := by
  intro name nodeName namespace_ isService n
  unfold ros2Expand
  cases rosExpand ros2Grammar name nodeName namespace_ isService <;> simp

/-! ### Relative names under the root -/

/-- **A relative name is resolved from `/`** in the root namespace: it expands to
what it expands to with the leading `/` written out. -/
theorem rosExpand_relative {G : NameGrammar} {name nodeName n : Str} {isService : Bool}
    (hne : name ≠ []) (hhead : name.head? ≠ some slash)
    (h : rosExpand G (slash :: name) nodeName [slash] isService = some n) :
    rosExpand G name nodeName [slash] isService = some n := by
  obtain ⟨hv, ps, text, hp, ht, rfl, hf⟩ := rosExpand_eq_some.mp h
  have htilde : name.head? ≠ some tilde := by
    intro he
    exact G.name_tilde hv (List.mem_of_mem_head? he)
  rw [expandTilde_of_ne (by simp [slash, tilde]), pieces, piecesFrom, if_neg (by decide),
    if_neg (by decide)] at hp
  cases hq : piecesFrom none name with
  | none => rw [hq] at hp; cases hp
  | some qs =>
    rw [hq, Option.map_some, Option.some.injEq] at hp
    subst hp
    rw [piecesText] at ht
    cases htq : piecesText nodeName [slash] qs with
    | none => simp [Piece.text, htq] at ht
    | some rest =>
      simp only [Piece.text, htq, List.singleton_append, Option.some.injEq] at ht
      subst ht
      -- the first segment is not empty, so the rest does not start with a separator
      have hrest : rest.head? ≠ some slash := by
        intro he
        obtain ⟨segs, hsne, hsegs, heq⟩ := G.full_absolute hf
        rw [makeAbsolute, if_pos (by rfl)] at heq
        cases segs with
        | nil => exact hsne rfl
        | cons s segs =>
          obtain ⟨hs, hslash, _⟩ := hsegs s List.mem_cons_self
          rw [render_cons, List.cons.injEq] at heq
          cases s with
          | nil => exact hs rfl
          | cons c s =>
            rw [heq.2, List.cons_append, List.head?_cons, Option.some.injEq] at he
            exact hslash (he ▸ List.mem_cons_self)
      rw [rosExpand_eq_some]
      refine ⟨G.name_relative hne hhead hv, qs, rest, ?_, htq, ?_, hf⟩
      · rw [expandTilde_of_ne htilde]; exact hq
      · rw [makeAbsolute, makeAbsolute, if_pos (by rfl), if_neg hrest]; rfl

/-! ### One name under two nodes -/

/-- The names a node may have: what rclcpp accepts when the node is created. -/
structure ValidNode (nodeName namespace_ : Str) : Prop where
  node_ne : nodeName ≠ []
  node_plain : ∀ c ∈ nodeName, c ≠ openBrace ∧ c ≠ closeBrace ∧ c ≠ slash
  namespace_head : namespace_.head? = some slash
  namespace_plain : ∀ c ∈ namespace_, c ≠ openBrace ∧ c ≠ closeBrace

/-- The text starts with a separator, whatever the node is. -/
def startsAbsolute : List Piece → Bool
  | [] => false
  | .byte c :: _ => c == slash
  | .subst key :: _ => (Piece.subst key).isNamespace

/-- The expansion of the name depends on the node name. -/
def usesNode (name : Str) : Bool :=
  name.head? == some tilde || ((pieces name).getD []).any Piece.isNode

/-- The expansion of the name depends on the namespace: through `~`, because the
name is relative, or through a substitution. -/
def usesNamespace (name : Str) : Bool :=
  name.head? == some tilde || !startsAbsolute ((pieces name).getD []) ||
    ((pieces name).getD []).any Piece.isNamespace

theorem Piece.text_congr {p : Piece} {node₁ ns₁ node₂ ns₂ : Str} (hn : p.isNode = false)
    (hs : p.isNamespace = false ∨ ns₁ = ns₂) : p.text node₁ ns₁ = p.text node₂ ns₂ := by
  cases p with
  | byte c => rfl
  | subst key =>
    have hkey : key ≠ lit "node" := by
      rintro rfl
      simp [Piece.isNode] at hn
    rw [Piece.text, Piece.text, if_neg hkey, if_neg hkey]
    rcases hs with hs | rfl
    · have hns : ¬ (key = lit "ns" ∨ key = lit "namespace") := by
        rintro (rfl | rfl) <;> simp [Piece.isNamespace] at hs
      rw [if_neg hns, if_neg hns]
    · rfl

theorem piecesText_congr {node₁ ns₁ : Str} (node₂ ns₂ : Str) : ∀ {ps : List Piece},
    (∀ p ∈ ps, p.isNode = false) → ((∀ p ∈ ps, p.isNamespace = false) ∨ ns₁ = ns₂) →
    piecesText node₁ ns₁ ps = piecesText node₂ ns₂ ps := by
  intro ps
  induction ps with
  | nil => intro _ _; rfl
  | cons p ps ih =>
    intro hn hs
    rw [piecesText, piecesText,
      Piece.text_congr (hn p List.mem_cons_self) (hs.imp_left (· p List.mem_cons_self)),
      ih (fun q hq => hn q (List.mem_cons_of_mem _ hq))
        (hs.imp_left (fun h q hq => h q (List.mem_cons_of_mem _ hq)))]

theorem piecesText_head? {node ns : Str} (hv : ValidNode node ns) {ps : List Piece} {text : Str}
    (h : piecesText node ns ps = some text) : text.head? = some slash ↔ startsAbsolute ps = true := by
  cases ps with
  | nil =>
    rw [piecesText, Option.some.injEq] at h
    subst h
    simp [startsAbsolute]
  | cons p ps =>
    rw [piecesText] at h
    cases p with
    | byte c =>
      cases hr : piecesText node ns ps with
      | none => simp [Piece.text, hr] at h
      | some r =>
        simp only [Piece.text, hr, Option.some.injEq] at h
        subst h
        simp [startsAbsolute]
    | subst key =>
      rw [Piece.text] at h
      by_cases hnode : key = lit "node"
      · subst hnode
        cases hr : piecesText node ns ps with
        | none => simp [hr] at h
        | some r =>
          simp only [if_true, hr, Option.some.injEq] at h
          subst h
          obtain ⟨c, t, rfl⟩ := List.exists_cons_of_ne_nil hv.node_ne
          have hc := (hv.node_plain c List.mem_cons_self).2.2
          have hns : (Piece.subst (lit "node")).isNamespace = false := by decide
          simp [startsAbsolute, hns, hc]
      · by_cases hns : key = lit "ns" ∨ key = lit "namespace"
        · cases hr : piecesText node ns ps with
          | none => simp [hr] at h
          | some r =>
            simp only [if_neg hnode, if_pos hns, hr, Option.some.injEq] at h
            subst h
            have habs : startsAbsolute (Piece.subst key :: ps) = true := by
              rw [startsAbsolute, Piece.isNamespace]
              rcases hns with rfl | rfl <;> decide
            simp [habs, List.head?_append, hv.namespace_head]
        · simp [if_neg hnode, if_neg hns] at h

/-- **A name that uses neither the node name nor the namespace** expands alike
under all nodes. -/
theorem rosExpand_congr {G : NameGrammar} {name node₁ ns₁ node₂ ns₂ : Str} {isService : Bool}
    (hv₂ : ValidNode node₂ ns₂) (hn : usesNode name = false)
    (hs : usesNamespace name = false ∨ ns₁ = ns₂) :
    rosExpand G name node₁ ns₁ isService = rosExpand G name node₂ ns₂ isService := by
  simp only [usesNode, Bool.or_eq_false_iff] at hn
  have htilde : name.head? ≠ some tilde := by simpa using hn.1
  unfold rosExpand
  rw [expandTilde_of_ne htilde, expandTilde_of_ne htilde]
  cases hp : pieces name with
  | none => rfl
  | some ps =>
    rw [hp] at hn
    have hnode : ∀ p ∈ ps, p.isNode = false := by
      simpa [List.any_eq_false] using hn.2
    have hns : ((∀ p ∈ ps, p.isNamespace = false) ∧ startsAbsolute ps = true) ∨ ns₁ = ns₂ := by
      refine hs.imp_left fun h => ?_
      simp only [usesNamespace, hp, Option.getD_some, Bool.or_eq_false_iff, Bool.not_eq_false'] at h
      exact ⟨by simpa [List.any_eq_false] using h.2, h.1.2⟩
    simp only
    rw [piecesText_congr node₂ ns₂ hnode (hns.imp_left And.left)]
    cases ht : piecesText node₂ ns₂ ps with
    | none => rfl
    | some text =>
      simp only
      rcases hns with ⟨_, habs⟩ | rfl
      · have hhead := (piecesText_head? hv₂ ht).mpr habs
        rw [makeAbsolute, makeAbsolute, if_pos hhead, if_pos hhead]
      · rfl

/-- The bytes of a list of pieces that are written out. -/
def Piece.isByte : Piece → Bool
  | .byte _ => true
  | .subst _ => false

/-- **The length of an expansion**: a byte for each byte, and the length of what
it stands for, for each substitution. -/
theorem length_piecesText {node ns : Str} : ∀ {ps : List Piece} {text : Str},
    piecesText node ns ps = some text →
      text.length = ps.countP Piece.isByte + ps.countP Piece.isNode * node.length
        + ps.countP Piece.isNamespace * ns.length := by
  intro ps
  induction ps with
  | nil =>
    intro text h
    rw [piecesText, Option.some.injEq] at h
    subst h
    simp
  | cons p ps ih =>
    intro text h
    rw [piecesText] at h
    cases hr : piecesText node ns ps with
    | none => cases hp : p.text node ns <;> simp [hp, hr] at h
    | some r =>
      have ih := ih hr
      rw [List.countP_cons, List.countP_cons, List.countP_cons]
      cases p with
      | byte c =>
        simp only [Piece.text, hr, Option.some.injEq] at h
        subst h
        have h1 : (Piece.byte c).isNode = false := rfl
        have h2 : (Piece.byte c).isNamespace = false := rfl
        simp only [List.length_append, List.length_singleton, ih, Piece.isByte, h1, h2, if_true,
          Bool.false_eq_true, if_false, Nat.add_zero]
        omega
      | subst key =>
        rw [Piece.text] at h
        have h0 : (Piece.subst key).isByte = false := rfl
        by_cases hnode : key = lit "node"
        · subst hnode
          have h1 : (Piece.subst (lit "node")).isNode = true := by decide
          have h2 : (Piece.subst (lit "node")).isNamespace = false := by decide
          simp only [if_true, hr, Option.some.injEq] at h
          subst h
          simp only [List.length_append, ih, h0, h1, h2, if_true, Bool.false_eq_true, if_false,
            Nat.add_zero]
          rw [Nat.add_mul]
          omega
        · by_cases hns : key = lit "ns" ∨ key = lit "namespace"
          · have h1 : (Piece.subst key).isNode = false := by simp [Piece.isNode, hnode]
            have h2 : (Piece.subst key).isNamespace = true := by
              rcases hns with rfl | rfl <;> decide
            simp only [if_neg hnode, if_pos hns, hr, Option.some.injEq] at h
            subst h
            simp only [List.length_append, ih, h0, h1, h2, if_true, Bool.false_eq_true, if_false,
              Nat.add_zero]
            rw [Nat.add_mul]
            omega
          · simp [if_neg hnode, if_neg hns] at h

theorem length_joinNamespace (ns name : Str) :
    (joinNamespace ns name).length = ns.length + name.length + if ns.length = 1 then 0 else 1 := by
  unfold joinNamespace
  split
  · simp
  · simp; omega

theorem rosExpand_length {G : NameGrammar} {name node ns n : Str} {isService : Bool}
    (hv : ValidNode node ns) (htilde : name.head? ≠ some tilde)
    (h : rosExpand G name node ns isService = some n) :
    n.length = ((pieces name).getD []).countP Piece.isByte
      + ((pieces name).getD []).countP Piece.isNode * node.length
      + ((pieces name).getD []).countP Piece.isNamespace * ns.length
      + if startsAbsolute ((pieces name).getD []) then 0
        else ns.length + if ns.length = 1 then 0 else 1 := by
  obtain ⟨_, ps, text, hp, ht, rfl, _⟩ := rosExpand_eq_some.mp h
  rw [expandTilde_of_ne htilde] at hp
  have hlen := length_piecesText ht
  have hhead := piecesText_head? hv ht
  rw [hp, Option.getD_some, makeAbsolute]
  by_cases habs : startsAbsolute ps = true
  · rw [if_pos (hhead.mpr habs), if_pos habs, hlen]
    rfl
  · rw [if_neg (fun he => habs (hhead.mp he)), if_neg habs, length_joinNamespace, hlen]
    omega

/-- The length of the expansion of a name that starts with `~`. -/
theorem rosExpand_length_tilde {G : NameGrammar} {r node ns n : Str} {isService : Bool}
    (hv : ValidNode node ns) (h : rosExpand G (tilde :: r) node ns isService = some n) :
    n.length = (joinNamespace ns node).length + ((pieces r).getD []).countP Piece.isByte
      + ((pieces r).getD []).countP Piece.isNode * node.length
      + ((pieces r).getD []).countP Piece.isNamespace * ns.length := by
  obtain ⟨_, ps, text, hp, ht, rfl, _⟩ := rosExpand_eq_some.mp h
  have hjoin : ∀ c ∈ joinNamespace ns node, c ≠ openBrace ∧ c ≠ closeBrace := by
    intro c hc
    unfold joinNamespace at hc
    split at hc
    · rcases List.mem_append.mp hc with hc | hc
      · exact hv.namespace_plain c hc
      · exact ⟨(hv.node_plain c hc).1, (hv.node_plain c hc).2.1⟩
    · rcases List.mem_append.mp hc with hc | hc
      · exact hv.namespace_plain c hc
      · rcases List.mem_cons.mp hc with rfl | hc
        · decide
        · exact ⟨(hv.node_plain c hc).1, (hv.node_plain c hc).2.1⟩
  have hhead : (joinNamespace ns node).head? = some slash := by
    unfold joinNamespace
    split <;> rw [List.head?_append, hv.namespace_head] <;> rfl
  rw [expandTilde, if_pos rfl, pieces, piecesFrom_plain _ _ hjoin] at hp
  cases hq : piecesFrom none r with
  | none => rw [hq] at hp; cases hp
  | some qs =>
    rw [hq, Option.map_some, Option.some.injEq] at hp
    subst hp
    rw [piecesText_append] at ht
    cases htq : piecesText node ns qs with
    | none => rw [htq] at ht; cases ht
    | some rest =>
      rw [htq, Option.map_some, Option.some.injEq] at ht
      subst ht
      have hlen := length_piecesText htq
      rw [makeAbsolute, if_pos (by rw [List.head?_append, hhead]; rfl), List.length_append, hlen,
        pieces, hq, Option.getD_some]
      omega

/-- **Nodes with names of two lengths agree only on names that do not use the
node name.** -/
theorem not_usesNode_of_eq {G : NameGrammar} {name node₁ node₂ ns n : Str} {isService : Bool}
    (hv₁ : ValidNode node₁ ns) (hv₂ : ValidNode node₂ ns) (hlt : node₁.length < node₂.length)
    (h₁ : rosExpand G name node₁ ns isService = some n)
    (h₂ : rosExpand G name node₂ ns isService = some n) : usesNode name = false := by
  by_cases htilde : name.head? = some tilde
  · cases name with
    | nil => cases htilde
    | cons c r =>
      rw [List.head?_cons, Option.some.injEq] at htilde
      subst htilde
      have e₁ := rosExpand_length_tilde hv₁ h₁
      have e₂ := rosExpand_length_tilde hv₂ h₂
      rw [length_joinNamespace] at e₁ e₂
      have hmul := Nat.mul_le_mul_left (((pieces r).getD []).countP Piece.isNode) hlt.le
      omega
  · have e₁ := rosExpand_length hv₁ htilde h₁
    have e₂ := rosExpand_length hv₂ htilde h₂
    have hmul : ((pieces name).getD []).countP Piece.isNode * node₁.length
        = ((pieces name).getD []).countP Piece.isNode * node₂.length := by omega
    have hzero : ((pieces name).getD []).countP Piece.isNode = 0 := by
      by_contra hne
      exact absurd (Nat.eq_of_mul_eq_mul_left (Nat.pos_of_ne_zero hne) hmul) hlt.ne
    rw [usesNode, Bool.or_eq_false_iff]
    refine ⟨by simpa using htilde, ?_⟩
    rw [List.any_eq_false]
    exact List.countP_eq_zero.mp hzero

/-- **A namespace that is not the root shows** in every name that uses it. -/
theorem namespace_length_of_eq {G : NameGrammar} {name node₁ node₂ ns n : Str} {isService : Bool}
    (hv₁ : ValidNode node₁ [slash]) (hv₂ : ValidNode node₂ ns) (hn : usesNode name = false)
    (hs : usesNamespace name = true) (h₁ : rosExpand G name node₁ [slash] isService = some n)
    (h₂ : rosExpand G name node₂ ns isService = some n) : ns.length = 1 := by
  simp only [usesNode, Bool.or_eq_false_iff] at hn
  have htilde : name.head? ≠ some tilde := by simpa using hn.1
  have hzero : ((pieces name).getD []).countP Piece.isNode = 0 := by
    rw [List.countP_eq_zero]
    exact List.any_eq_false.mp hn.2
  have hpos : 1 ≤ ns.length := by
    cases hns : ns with
    | nil => rw [hns] at hv₂; cases hv₂.namespace_head
    | cons c r => simp
  have e₁ := rosExpand_length hv₁ htilde h₁
  have e₂ := rosExpand_length hv₂ htilde h₂
  rw [hzero, Nat.zero_mul] at e₁ e₂
  rw [List.length_singleton, if_pos rfl, Nat.mul_one] at e₁
  by_contra hne
  have hmul := Nat.mul_le_mul_left (((pieces name).getD []).countP Piece.isNamespace) hpos
  rw [Nat.mul_one] at hmul
  simp only [usesNamespace, Bool.or_eq_true, beq_iff_eq, htilde, false_or,
    Bool.not_eq_true'] at hs
  rcases hs with hrel | hany
  · rw [hrel] at e₁ e₂
    simp only [Bool.false_eq_true, if_false, if_neg hne] at e₁ e₂
    omega
  · have hcount : 0 < ((pieces name).getD []).countP Piece.isNamespace := by
      rw [List.countP_pos_iff]
      exact List.any_eq_true.mp hany
    have hstrict := Nat.mul_lt_mul_of_pos_left (show 1 < ns.length by omega) hcount
    rw [Nat.mul_one] at hstrict
    by_cases habs : startsAbsolute ((pieces name).getD []) = true
    · rw [if_pos habs] at e₁ e₂
      omega
    · rw [if_neg habs] at e₁ e₂
      rw [if_neg hne] at e₂
      omega

end LivekitBridge
