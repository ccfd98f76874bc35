import LivekitBridge.Lib.Assoc
import LivekitBridge.Protocol.Json

/-!
# Interface definitions

`ros_interfaces/definition_lookup.cpp` and the loop of `RpcRouter::showInterfaces`.  A type is
`package/kind/Name`; its definition is a file in the share directory of the package, and each line
of that file may name a message that it depends on.  `collect` adds a type to the definitions and
then, one after the other, what it depends on; a type that has been seen is not added again.

The ament index and the files do not change: `World` is what they hold.  A type that could not be
loaded is remembered with the exception, in a cache that outlives the request.

`collect` follows definitions as far as they go, in cycles too; its `fuel` bounds the depth of the
recursion, and the result is none when it runs out.
-/

namespace LivekitBridge

/-! ### Types -/

structure ParsedType where
  package : Str
  kind : Str
  name : Str
deriving DecidableEq, Repr

/-- `throwInvalidType` -/
def invalidType (type reason : Str) : StdException :=
  .invalidArgument (lit "Invalid ROS interface type '" ++ type ++ lit "': " ++ reason)

/-- The text before the first `sep` and the text after it. -/
def splitFirst (sep : UInt8) (text : Str) : Option (Str × Str) :=
  match text.dropWhile (· != sep) with
  | [] => none
  | _ :: rest => some (text.takeWhile (· != sep), rest)

def ParsedType.parse (type : Str) : Except StdException ParsedType :=
  match splitFirst slash type with
  | none => .error (invalidType type (lit "expected package/kind/Name"))
  | some (package, rest) =>
    match splitFirst slash rest with
    | none => .error (invalidType type (lit "expected package/kind/Name"))
    | some (kind, name) =>
      if package = [] ∨ kind = [] ∨ name = [] then
        .error (invalidType type (lit "empty component"))
      else if slash ∈ name then .error (invalidType type (lit "expected package/kind/Name"))
      else if kind ≠ lit "msg" ∧ kind ≠ lit "srv" ∧ kind ≠ lit "action" then
        .error (invalidType type (lit "kind must be msg, srv, or action"))
      else .ok ⟨package, kind, name⟩

example : ParsedType.parse (lit "std_msgs/msg/String") =
    .ok ⟨lit "std_msgs", lit "msg", lit "String"⟩ := by decide

theorem eq_of_splitFirst {sep : UInt8} {text before after : Str}
    (h : splitFirst sep text = some (before, after)) :
    text = before ++ sep :: after ∧ sep ∉ before := by
  rw [splitFirst] at h
  cases hdrop : text.dropWhile (· != sep) with
  | nil =>
    rw [hdrop] at h
    cases h
  | cons c rest =>
    rw [hdrop, Option.some.injEq, Prod.mk.injEq] at h
    obtain ⟨rfl, rfl⟩ := h
    have hsep : c = sep := by
      have hhead := List.head?_dropWhile_not (· != sep) text
      rw [hdrop] at hhead
      simpa using hhead
    have hrest : sep :: rest = text.dropWhile (· != sep) := by rw [hdrop, hsep]
    constructor
    · rw [hrest]
      exact List.takeWhile_append_dropWhile.symm
    · intro hmem
      have htake := List.mem_takeWhile_imp hmem
      simp at htake

/-- A type with three parts of the right form. -/
structure ParsedType.WellFormed (parsed : ParsedType) : Prop where
  package : parsed.package ≠ [] ∧ slash ∉ parsed.package
  kind : parsed.kind = lit "msg" ∨ parsed.kind = lit "srv" ∨ parsed.kind = lit "action"
  name : parsed.name ≠ [] ∧ slash ∉ parsed.name

/-- **A type that parses is its parts**, and these have the right form. -/
theorem eq_of_parse {type : Str} {parsed : ParsedType} (h : ParsedType.parse type = .ok parsed) :
    type = parsed.package ++ slash :: (parsed.kind ++ slash :: parsed.name) ∧
      parsed.WellFormed := by
  rw [ParsedType.parse] at h
  cases hfirst : splitFirst slash type with
  | none =>
    rw [hfirst] at h
    cases h
  | some split =>
    obtain ⟨package, rest⟩ := split
    rw [hfirst] at h
    cases hsecond : splitFirst slash rest with
    | none =>
      simp only [hsecond] at h
      cases h
    | some split =>
      obtain ⟨kind, name⟩ := split
      simp only [hsecond] at h
      split at h
      · cases h
      rename_i hempty
      split at h
      · cases h
      rename_i hname
      split at h
      · cases h
      rename_i hkind
      rw [Except.ok.injEq] at h
      subst h
      obtain ⟨htype, hpackage⟩ := eq_of_splitFirst hfirst
      obtain ⟨hrest, _⟩ := eq_of_splitFirst hsecond
      simp only [not_or] at hempty
      refine ⟨by rw [htype, hrest], ⟨hempty.1, hpackage⟩, ?_, ⟨hempty.2.2, hname⟩⟩
      show kind = lit "msg" ∨ kind = lit "srv" ∨ kind = lit "action"
      by_contra hnone
      simp only [not_or] at hnone
      exact hkind hnone

/-! ### Files -/

/-- The ament index (the contents and the prefix of a package's resource) and the files. -/
structure World where
  resource : Str → Option (Str × Str)
  file : Str → Option Str

/-- `std::getline`, until the stream ends; the first argument is the line so far, reversed. -/
def getlines (line : Str) : Str → List Str
  | [] => if line = [] then [] else [line.reverse]
  | c :: text => if c = 0x0A then line.reverse :: getlines [] text else getlines (c :: line) text

/-- `operator/` of `std::filesystem::path`, for a second part that is relative. -/
def joinPath (path part : Str) : Str :=
  if path = [] ∨ path.getLast? = some slash then path ++ part else path ++ slash :: part

def resolveDefinitionPath (world : World) (parsed : ParsedType) : Except StdException Str :=
  match world.resource parsed.package with
  | none =>
    .error (.runtimeError (lit "Package '" ++ parsed.package ++ lit "' not found in ament index"))
  | some (index, pre) =>
    let requestedPath := parsed.kind ++ lit "/" ++ parsed.name ++ lit "." ++ parsed.kind
    let share := joinPath (joinPath pre (lit "share")) parsed.package
    match (getlines [] index).find? fun registeredPath => registeredPath == requestedPath with
    | some registeredPath => .ok (joinPath share registeredPath)
    | none => .ok (joinPath share requestedPath)

/-- `load`, when the type has not failed before. -/
def loadDefinition (world : World) (type : Str) : Except StdException Str :=
  match ParsedType.parse type with
  | .error e => .error e
  | .ok parsed =>
    match resolveDefinitionPath world parsed with
    | .error e => .error e
    | .ok path =>
      match world.file path with
      | none => .error (.runtimeError (lit "Cannot open interface definition file: " ++ path))
      | some body => .ok body

/-! ### Failures -/

/-- `FailureCache` of `load`, with the capacity `kFailureCapacity`. -/
abbrev FailureCache := AList fun _ : Str => StdException

def kFailureCapacity : Nat := 256

def remember (failures : FailureCache) (type : Str) (failure : StdException) : FailureCache :=
  if type ∈ failures then failures.insert type failure
  else if kFailureCapacity ≤ failures.entries.length then AList.insert type failure ∅
  else failures.insert type failure

/-- `load`; what it throws is then remembered. -/
def load (world : World) (failures : FailureCache) (type : Str) : Except StdException Str :=
  match (failures.lookup type : Option StdException) with
  | some failure => .error failure
  | none => loadDefinition world type

/-! ### Dependencies -/

/-- The words of a text: what `>>` extracts, one after the other.  The first argument is the word
so far, reversed. -/
def wordsOf (word : Str) : Str → List Str
  | [] => if word = [] then [] else [word.reverse]
  | c :: text =>
    if isSpace c then (if word = [] then wordsOf [] text else word.reverse :: wordsOf [] text)
    else wordsOf (c :: word) text

def kSectionSeparator : Str := lit "---"

/-- The type of a field, as a message type: `package` is that of the definition. -/
def messageType (package base : Str) : Option Str :=
  match splitFirst slash base with
  | none =>
    match base with
    | [] => none
    | c :: _ => if c < 0x41 ∨ 0x5A < c then none else some (package ++ lit "/msg/" ++ base)
  | some (first, rest) =>
    if slash ∈ rest then some base else some (first ++ lit "/msg/" ++ rest)

/-- The dependency of one line of `parseDependencies`. -/
def parseDependency (package line : Str) : Option Str :=
  let content := (line.takeWhile (· != 0x23)).dropWhile fun c => c == 0x20 || c == 0x09
  if content = [] ∨ kSectionSeparator <+: content then none
  else
    match wordsOf [] content with
    | type :: name :: _ =>
      if 0x3D ∈ name then none else messageType package (type.takeWhile (· != 0x5B))
    | _ => none

def parseDependencies (body package : Str) : List Str :=
  (getlines [] body).filterMap (parseDependency package)

example : parseDependencies (lit "# a\nstd_msgs/Header header\nPoint[3] p\nint8 X=1\n---\nfloat64 y\n")
    (lit "geometry_msgs") = [lit "std_msgs/msg/Header", lit "geometry_msgs/msg/Point"] := by decide

/-! ### Collecting -/

structure InterfaceDefinition where
  type : Str
  body : Str
deriving DecidableEq, Repr

/-- The arguments of `collect` that it changes: `seen` and `definitions`. -/
structure Collected where
  seen : List Str
  definitions : List InterfaceDefinition
deriving DecidableEq, Repr

/-- A loop that stops at the first exception (or when the fuel has run out). -/
def forEach {α σ ε : Type} (body : α → σ → Option (Except ε σ)) : List α → σ → Option (Except ε σ)
  | [], s => some (.ok s)
  | a :: rest, s =>
    match body a s with
    | some (.ok s') => forEach body rest s'
    | stopped => stopped

/-- `collect`; an exception comes with the type that could not be loaded. -/
def collect (world : World) (failures : FailureCache) :
    Nat → Str → Collected → Option (Except (Str × StdException) Collected)
  | 0, _, _ => none
  | fuel + 1, type, s =>
    if type ∈ s.seen then some (.ok s)
    else
      match load world failures type with
      | .error e => some (.error (type, e))
      | .ok body =>
        match ParsedType.parse type with
        | .error e => some (.error (type, e))
        | .ok parsed =>
          forEach (collect world failures fuel) (parseDependencies body parsed.package)
            ⟨type :: s.seen, s.definitions ++ [⟨type, body⟩]⟩

def lookupDefinitions (world : World) (failures : FailureCache) (fuel : Nat) (type : Str) :
    Option (Except (Str × StdException) (List InterfaceDefinition)) :=
  match collect world failures fuel type ⟨[], []⟩ with
  | none => none
  | some (.error e) => some (.error e)
  | some (.ok s) => some (.ok s.definitions)

/-- The inner loop of `showInterfaces`: definitions of types that were not seen are appended. -/
def mergeDefinitions (s : Collected) (found : List InterfaceDefinition) : Collected :=
  found.foldl (fun s definition =>
    if definition.type ∈ s.seen then s
    else ⟨definition.type :: s.seen, s.definitions ++ [definition]⟩) s

/-- The loops of `RpcRouter::showInterfaces`. -/
def showTypes (world : World) (failures : FailureCache) (fuel : Nat) (types : List Str) :
    Option (Except (Str × StdException) Collected) :=
  forEach (fun type s =>
    match lookupDefinitions world failures fuel type with
    | none => none
    | some (.error e) => some (.error e)
    | some (.ok found) => some (.ok (mergeDefinitions s found))) types ⟨[], []⟩

/-- `RpcRouter::showInterfaces` after the request has been parsed: the failures that are remembered,
and the definitions or what is thrown. -/
def showInterfaces (world : World) (failures : FailureCache) (fuel : Nat) (types : List Str) :
    Option (FailureCache × Except StdException (List InterfaceDefinition)) :=
  match showTypes world failures fuel types with
  | none => none
  | some (.error (type, e)) => some (remember failures type e, .error e)
  | some (.ok s) => some (failures, .ok s.definitions)

/-- The failures that can be in the cache after requests have been served. -/
inductive Remembered (world : World) : FailureCache → Prop
  | empty : Remembered world ∅
  | served {failures failures' : FailureCache} {fuel : Nat} {types : List Str}
      {response : Except StdException (List InterfaceDefinition)} : Remembered world failures →
      showInterfaces world failures fuel types = some (failures', response) →
      Remembered world failures'

end LivekitBridge
