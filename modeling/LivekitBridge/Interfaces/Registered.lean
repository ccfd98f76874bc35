import LivekitBridge.Interfaces.Lookup

/-!
# Which files are served

A definition is meant to be a file that its package has registered: the entry of the package in
the ament index lists its definitions, one on each line.  `resolveDefinitionPath` looks for the
line, and goes on to the same path when there is none, for the sake of the message that opening
the file then fails with.  If there is a file it is opened.

A path is opened by its C string.  So the file that is opened has the name that was asked for
only if that has no zero byte, and `FileSystem` has the names that files can have apart from the
texts that are asked for.

`servesRegistered_iff` says that these two are all that can go wrong.
-/

namespace LivekitBridge

/-- The files, by their paths; there is no zero byte in a path. -/
structure FileSystem where
  content : Str → Option Str
  no_nul : ∀ path, 0 ∈ path → content path = none

/-- `c_str()`, up to where C reads it. -/
def cString (text : Str) : Str := text.takeWhile (· != 0)

/-- The ament index and the files; a file is opened by the C string of its path. -/
def World.of (index : Str → Option (Str × Str)) (files : FileSystem) : World where
  resource := index
  file path := files.content (cString path)

/-- The line that registers a definition, `kind/Name.kind`. -/
def ParsedType.registeredPath (parsed : ParsedType) : Str :=
  parsed.kind ++ lit "/" ++ parsed.name ++ lit "." ++ parsed.kind

/-- `prefix/share/package/kind/Name.kind` -/
def ParsedType.definitionPath (parsed : ParsedType) (pre : Str) : Str :=
  joinPath (joinPath (joinPath pre (lit "share")) parsed.package) parsed.registeredPath

/-- The body is that of a registered definition. -/
structure RegisteredBody (index : Str → Option (Str × Str)) (files : FileSystem) (type body : Str)
    (parsed : ParsedType) (contents pre : Str) : Prop where
  type_eq : type = parsed.package ++ slash :: (parsed.kind ++ slash :: parsed.name)
  wellFormed : parsed.WellFormed
  entry : index parsed.package = some (contents, pre)
  registered : parsed.registeredPath ∈ getlines [] contents
  file : files.content (parsed.definitionPath pre) = some body

section Serving

variable (index : Str → Option (Str × Str)) (files : FileSystem) (failures : FailureCache)
  (type : Str)

/-- What is loaded is registered. -/
def ServesRegistered : Prop :=
  ∀ body, load (World.of index files) failures type = .ok body →
    ∃ parsed contents pre, RegisteredBody index files type body parsed contents pre

/-- The type has not failed before, its package is in the index, and there is a file to open,
which is not registered or not the one that is named. -/
def OpensOther : Prop :=
  failures.lookup type = none ∧
    ∃ parsed contents pre, ParsedType.parse type = .ok parsed ∧
      index parsed.package = some (contents, pre) ∧
      files.content (cString (parsed.definitionPath pre)) ≠ none ∧
      (parsed.registeredPath ∉ getlines [] contents ∨ 0 ∈ parsed.definitionPath pre)

end Serving

section Served

variable {index : Str → Option (Str × Str)} {files : FileSystem} {failures : FailureCache}
  {type : Str}

/-- A line that is found and a line that is not lead to the same path. -/
theorem resolveDefinitionPath_eq {parsed : ParsedType} {contents pre : Str}
    (h : index parsed.package = some (contents, pre)) :
    resolveDefinitionPath (World.of index files) parsed = .ok (parsed.definitionPath pre) := by
  have hentry : (World.of index files).resource parsed.package = some (contents, pre) := h
  simp only [resolveDefinitionPath, hentry]
  split
  · rename_i registeredPath hfound
    have heq := List.find?_some hfound
    rw [beq_iff_eq] at heq
    rw [heq]
    rfl
  · rfl

/-- A text is taken apart at the first separator. -/
theorem splitFirst_append {sep : UInt8} {before after : Str} (h : sep ∉ before) :
    splitFirst sep (before ++ sep :: after) = some (before, after) := by
  have hne : ∀ c ∈ before, (c != sep) = true := by
    intro c hc
    rw [bne_iff_ne]
    intro hsep
    rw [hsep] at hc
    exact h hc
  rw [splitFirst, List.dropWhile_append_of_pos hne, List.dropWhile_cons_of_neg (by simp),
    List.takeWhile_append_of_pos hne, List.takeWhile_cons_of_neg (by simp), List.append_nil]

/-- Parts of the right form are those that their type parses to. -/
theorem parse_of_wellFormed {parsed : ParsedType} (h : parsed.WellFormed) :
    ParsedType.parse (parsed.package ++ slash :: (parsed.kind ++ slash :: parsed.name)) =
      .ok parsed := by
  have hkind : slash ∉ parsed.kind ∧ parsed.kind ≠ [] := by
    rcases h.kind with hk | hk | hk <;> rw [hk] <;> decide
  have hempty : ¬ (parsed.package = [] ∨ parsed.kind = [] ∨ parsed.name = []) := by
    simp only [not_or]
    exact ⟨h.package.1, hkind.2, h.name.1⟩
  have hknown : ¬ (parsed.kind ≠ lit "msg" ∧ parsed.kind ≠ lit "srv" ∧
      parsed.kind ≠ lit "action") := by
    intro hnone
    rcases h.kind with hk | hk | hk
    · exact hnone.1 hk
    · exact hnone.2.1 hk
    · exact hnone.2.2 hk
  simp only [ParsedType.parse, splitFirst_append h.package.2, splitFirst_append hkind.1,
    if_neg hempty, if_neg h.name.2, if_neg hknown]

theorem cString_eq_self {text : Str} (h : 0 ∉ text) : cString text = text := by
  rw [cString, List.takeWhile_eq_self_iff]
  intro c hc
  rw [bne_iff_ne]
  intro h0
  rw [h0] at hc
  exact h hc

theorem load_eq_ok_iff {body : Str} :
    load (World.of index files) failures type = .ok body ↔
      failures.lookup type = none ∧
        ∃ parsed contents pre, ParsedType.parse type = .ok parsed ∧
          index parsed.package = some (contents, pre) ∧
          files.content (cString (parsed.definitionPath pre)) = some body := by
  rw [load]
  cases hl : (failures.lookup type : Option StdException) with
  | some failure =>
    constructor
    · intro h
      cases h
    · intro h
      cases h.1
  | none =>
    constructor
    · intro h
      obtain ⟨parsed, path, hparse, hpath, hfile⟩ := loadDefinition_ok h
      refine ⟨rfl, parsed, ?_⟩
      cases hentry : index parsed.package with
      | none =>
        have hnone : (World.of index files).resource parsed.package = none := hentry
        rw [resolveDefinitionPath, hnone] at hpath
        cases hpath
      | some entry =>
        obtain ⟨contents, pre⟩ := entry
        rw [resolveDefinitionPath_eq hentry, Except.ok.injEq] at hpath
        rw [← hpath] at hfile
        exact ⟨contents, pre, hparse, rfl, hfile⟩
    · intro h
      obtain ⟨_, parsed, contents, pre, hparse, hentry, hfile⟩ := h
      have hfile' : (World.of index files).file (parsed.definitionPath pre) = some body := hfile
      simp only [loadDefinition, hparse, resolveDefinitionPath_eq hentry, hfile']

theorem RegisteredBody.of_parse {body : Str} {parsed parsed' : ParsedType}
    {contents contents' pre pre' : Str}
    (h : RegisteredBody index files type body parsed' contents' pre')
    (hparse : ParsedType.parse type = .ok parsed)
    (hentry : index parsed.package = some (contents, pre)) :
    parsed.registeredPath ∈ getlines [] contents ∧
      files.content (parsed.definitionPath pre) = some body := by
  have hsame : parsed' = parsed := by
    have hparse' := parse_of_wellFormed h.wellFormed
    rw [← h.type_eq, hparse, Except.ok.injEq] at hparse'
    exact hparse'.symm
  subst hsame
  have hentry' := h.entry
  rw [hentry, Option.some.injEq, Prod.mk.injEq] at hentry'
  obtain ⟨rfl, rfl⟩ := hentry'
  exact ⟨h.registered, h.file⟩

/-- **Which types are served from registered files only**: all but those for which a file is
there to be opened that is not registered, or whose path is cut off at a zero byte. -/
theorem servesRegistered_iff :
    ServesRegistered index files failures type ↔ ¬ OpensOther index files failures type := by
  constructor
  · intro h hother
    obtain ⟨hfresh, parsed, contents, pre, hparse, hentry, hfile, hother⟩ := hother
    obtain ⟨body, hbody⟩ := Option.ne_none_iff_exists'.mp hfile
    obtain ⟨parsed', contents', pre', hreg⟩ :=
      h body (load_eq_ok_iff.mpr ⟨hfresh, parsed, contents, pre, hparse, hentry, hbody⟩)
    obtain ⟨hregistered, hcontent⟩ := hreg.of_parse hparse hentry
    rcases hother with hunregistered | hnul
    · exact hunregistered hregistered
    · have hnone := files.no_nul _ hnul
      rw [hcontent] at hnone
      cases hnone
  · intro hnot body hload
    obtain ⟨hfresh, parsed, contents, pre, hparse, hentry, hbody⟩ := load_eq_ok_iff.mp hload
    obtain ⟨htype, hform⟩ := eq_of_parse hparse
    have hgood : ¬ (parsed.registeredPath ∉ getlines [] contents ∨
        0 ∈ parsed.definitionPath pre) := by
      intro hbad
      apply hnot
      refine ⟨hfresh, parsed, contents, pre, hparse, hentry, ?_, hbad⟩
      rw [hbody]
      exact Option.some_ne_none body
    obtain ⟨hregistered, hnul⟩ := not_or.mp hgood
    rw [cString_eq_self hnul] at hbody
    exact ⟨parsed, contents, pre, htype, hform, hentry, not_not.mp hregistered, hbody⟩

end Served

/-! ### A file that is not registered -/

/-- `std_msgs` registers `String` and nothing else. -/
def stringOnly (package : Str) : Option (Str × Str) :=
  if package = lit "std_msgs" then some (lit "msg/String.msg", lit "/opt/ros") else none

/-- There is one file, beside those that are registered. -/
def secretFile : FileSystem where
  content path :=
    if path = lit "/opt/ros/share/std_msgs/msg/Secret.msg" then some (lit "string token") else none
  no_nul path h := by
    rw [if_neg]
    intro heq
    rw [heq] at h
    revert h
    decide

/-- It is served. -/
theorem not_servesRegistered_secret :
    ¬ ServesRegistered stringOnly secretFile ∅ (lit "std_msgs/msg/Secret") := by
  intro h
  obtain ⟨parsed, contents, pre, hreg⟩ := h (lit "string token") rfl
  have hparse : ParsedType.parse (lit "std_msgs/msg/Secret") =
      .ok ⟨lit "std_msgs", lit "msg", lit "Secret"⟩ := rfl
  have hentry : stringOnly (lit "std_msgs") = some (lit "msg/String.msg", lit "/opt/ros") := rfl
  obtain ⟨hregistered, _⟩ := hreg.of_parse hparse hentry
  revert hregistered
  decide

end LivekitBridge
