import Mathlib.Data.List.DropRight
import Mathlib.Data.List.Induction

/-!
# Byte strings and trimming

A `std::string` is a list of bytes.  `lit` writes an ASCII literal of the
source as its bytes, so that the names, prefixes and messages of the model read
as they do in the code.

`trim` is `utils/trim.hpp`: it drops the bytes `std::isspace` accepts (in the
"C" locale) from both ends and keeps everything between.
-/

namespace LivekitBridge

/-- A `std::string`: its bytes. -/
abbrev Str := List UInt8

instance : LawfulBEq Str := inferInstance

/-- The bytes of an ASCII literal. -/
def lit (s : String) : Str := s.toList.map Char.toUInt8

/-- `'/'` -/
def slash : UInt8 := 0x2F

/-- `'*'` -/
def star : UInt8 := 0x2A

/-- `std::isspace` in the "C" locale: space, `\t`, `\n`, `\v`, `\f`, `\r`. -/
def isSpace (ch : UInt8) : Bool := ch == 0x20 || (0x09 ≤ ch && ch ≤ 0x0D)

/-- `trim`: the text between the first and the last byte that is not a space. -/
def trim (text : Str) : Str := (text.dropWhile isSpace).rdropWhile isSpace

theorem dropWhile_cons_of_not {c : UInt8} {r : Str} (h : isSpace c = false) :
    (c :: r).dropWhile isSpace = c :: r := by
  rw [List.dropWhile_cons, if_neg (by simp [h])]

/-- A text that starts with no space is trimmed from the right only. -/
theorem trim_cons {c : UInt8} {r : Str} (h : isSpace c = false) :
    trim (c :: r) = (c :: r).rdropWhile isSpace := by
  rw [trim, dropWhile_cons_of_not h]

/-- A text with no space at either end is left alone. -/
theorem trim_eq_self {text : Str} (hfirst : ∀ c ∈ text.head?, isSpace c = false)
    (hlast : ∀ c ∈ text.getLast?, isSpace c = false) : trim text = text := by
  cases text with
  | nil => rfl
  | cons c r =>
    rw [trim_cons (hfirst c (by simp)), List.rdropWhile_eq_self_iff]
    intro hne
    simp [hlast _ (List.getLast?_eq_some_getLast hne)]

theorem isSpace_of_mem_head?_trim (text : Str) {c : UInt8} (h : c ∈ (trim text).head?) :
    isSpace c = false := by
  have hne : text.dropWhile isSpace ≠ [] := by
    intro he
    rw [trim, he] at h
    simp at h
  have hpre : trim text <+: text.dropWhile isSpace := List.rdropWhile_prefix _ _
  have hc : (text.dropWhile isSpace).head? = some c := by
    obtain ⟨t, ht⟩ := hpre
    rw [← ht, List.head?_append, Option.mem_def.mp h]
    rfl
  rw [List.head?_eq_some_head hne, Option.some.injEq] at hc
  rw [← hc]
  exact List.head_dropWhile_not isSpace hne

theorem isSpace_of_mem_getLast?_trim (text : Str) {c : UInt8} (h : c ∈ (trim text).getLast?) :
    isSpace c = false := by
  have hne : trim text ≠ [] := by
    intro he
    rw [he] at h
    simp at h
  rw [List.getLast?_eq_some_getLast hne, Option.mem_def, Option.some.injEq] at h
  rw [← h]
  exact Bool.eq_false_iff.mpr (List.rdropWhile_last_not isSpace _ hne)

/-- **Trimming twice is trimming once.** -/
@[simp] theorem trim_trim (text : Str) : trim (trim text) = trim text :=
  trim_eq_self (fun _ => isSpace_of_mem_head?_trim _) (fun _ => isSpace_of_mem_getLast?_trim _)

/-- Spaces are dropped after the last byte that is none. -/
theorem rdropWhile_append_of_not {a b : Str} (ha : ∀ c ∈ a.getLast?, isSpace c = false) :
    (a ++ b).rdropWhile isSpace = a ++ b.rdropWhile isSpace := by
  induction b using List.reverseRecOn with
  | nil =>
    rw [List.append_nil, List.rdropWhile_nil, List.append_nil, List.rdropWhile_eq_self_iff]
    intro hne
    simp [ha _ (List.getLast?_eq_some_getLast hne)]
  | append_singleton b c ih =>
    rw [← List.append_assoc, List.rdropWhile_concat, List.rdropWhile_concat, ih]
    split
    · rfl
    · rw [List.append_assoc]

theorem trim_spaces_append {l : Str} (h : ∀ c ∈ l, isSpace c = true) (text : Str) :
    trim (l ++ text) = trim text := by
  rw [trim, trim, List.dropWhile_append_of_pos h]

theorem trim_append_spaces {r : Str} (h : ∀ c ∈ r, isSpace c = true) (text : Str) :
    trim (text ++ r) = trim text := by
  have hr : r.dropWhile isSpace = [] := List.dropWhile_eq_nil_iff.mpr h
  have hdrop : ∀ a : Str, (a ++ r).rdropWhile isSpace = a.rdropWhile isSpace := by
    intro a
    rw [List.rdropWhile, List.rdropWhile, List.reverse_append,
      List.dropWhile_append_of_pos (fun c hc => h c (List.mem_reverse.mp hc))]
  rw [trim, trim, List.dropWhile_append]
  split
  · rename_i hall
    rw [List.isEmpty_iff.mp hall, hr]
  · exact hdrop _

example : trim (lit "  camera/front \t") = lit "camera/front" := by decide

end LivekitBridge
