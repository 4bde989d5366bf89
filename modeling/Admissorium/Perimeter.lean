import Admissorium.JavaScript.Text

/-!
# Protected perimeters

What a list of path patterns is for: it fences off a set of paths. A zone is one
fence, and a perimeter is a finite union of zones. The three shapes are those
path policies are written in: everything below a directory, one file, and the
entries of a directory whose name contains a given part.

Every zone has a matcher whose accepted paths are exactly those it covers
(`test_matcher`), so coverage is decidable, and a head that all its paths start
with, so that zones with incomparable heads are disjoint (`not_covers_of_apart`).
-/
namespace Admissorium
set_option autoImplicit false

open JavaScript

inductive Zone where
  | directory (dir : String)
  | file (name : String)
  | entries (dir part : String)
  deriving DecidableEq, Repr

abbrev Perimeter := List Zone

/-- No line terminator occurs, so `.` can pass over every character. -/
def OnOneLine (text : String) : Prop := ∀ c ∈ text.toList, c ∉ lineTerminators

instance (text : String) : Decidable (OnOneLine text) :=
  List.decidableBAll (fun c => c ∉ lineTerminators) text.toList

/-- The text names nothing below a further directory. -/
def OneSegment (text : String) : Prop := '/' ∉ text.toList

namespace Zone

def Covers : Zone → String → Prop
  | directory dir, path => ∃ rest, OnOneLine rest ∧ path = dir ++ "/" ++ rest
  | file name, path => path = name
  | entries dir part, path =>
      ∃ u v, OneSegment u ∧ OneSegment v ∧ path = dir ++ "/" ++ u ++ part ++ v

/-- The way a path policy writes the zone. -/
def pattern : Zone → String
  | directory dir => dir ++ "/**"
  | file name => name
  | entries dir part => dir ++ "/*" ++ part ++ "*"

/-- What every covered path starts with. -/
def head : Zone → String
  | directory dir => dir ++ "/"
  | file name => name
  | entries dir _ => dir ++ "/"

def chars (text : String) : List RegExp := text.toList.map (fun c => .set (.char c))

/-- `[^/]*`. -/
def segment : RegExp := .star (.compl (.char '/')) false

def matcher : Zone → List RegExp
  | directory dir => chars (dir ++ "/") ++ [.star .dot false]
  | file name => chars name
  | entries dir part => chars (dir ++ "/") ++ [segment] ++ chars part ++ [segment]

theorem chars_plain (text : String) : (chars text).all RegExp.plain = true := by
  simp [chars, RegExp.plain]

theorem matcher_plain (z : Zone) : z.matcher.all RegExp.plain = true := by
  cases z <;> simp [matcher, segment, RegExp.plain, chars_plain]

theorem mem_lang_chars (text : String) (w : List Char) :
    w ∈ (RegExp.concat (chars text)).lang ↔ w = text.toList :=
  RegExp.mem_lang_chars text.toList w

theorem mem_lang_single (r : RegExp) (w : List Char) :
    w ∈ (RegExp.concat [r]).lang ↔ w ∈ r.lang := by
  simp [RegExp.concat, RegExp.lang, mul_one]

theorem mem_lang_segment (w : List Char) : w ∈ segment.lang ↔ '/' ∉ w := by
  have h : w ∈ segment.lang ↔ ∀ c ∈ w, c ≠ '/' := by
    change (∀ c ∈ w, _) ↔ _
    simp [CharSet.member]
  rw [h]
  exact ⟨fun hw hm => hw '/' hm rfl, fun hw c hc he => hw (he ▸ hc)⟩

theorem mem_lang_rest (w : List Char) :
    w ∈ (RegExp.star .dot false).lang ↔ ∀ c ∈ w, c ∉ lineTerminators := by
  change (∀ c ∈ w, _) ↔ _
  simp [CharSet.member]

/-- A text followed by a word of a further pattern. -/
theorem mem_lang_after (text : String) (rs : List RegExp) (path : String) :
    path.toList ∈ (RegExp.concat (chars text ++ rs)).lang ↔
      ∃ rest : String, rest.toList ∈ (RegExp.concat rs).lang ∧ path = text ++ rest := by
  rw [RegExp.lang_concat_append, Language.mem_mul]
  constructor
  · intro hcase
    obtain ⟨u, hu, v, hv, h⟩ := hcase
    rw [mem_lang_chars] at hu
    refine ⟨String.ofList v, by simpa using hv, ?_⟩
    rw [← String.toList_inj, String.toList_append, String.toList_ofList, ← h, hu]
  · intro hcase
    obtain ⟨rest, hr, rfl⟩ := hcase
    exact ⟨text.toList, (mem_lang_chars _ _).mpr rfl, rest.toList, hr,
      String.toList_append.symm⟩

/-- A segment followed by a word of a further pattern. -/
theorem mem_lang_segment_then (rs : List RegExp) (path : String) :
    path.toList ∈ (RegExp.concat (segment :: rs)).lang ↔
      ∃ u rest : String, OneSegment u ∧ rest.toList ∈ (RegExp.concat rs).lang ∧
        path = u ++ rest := by
  rw [RegExp.concat_cons, RegExp.lang, Language.mem_mul]
  constructor
  · intro hcase
    obtain ⟨u, hu, v, hv, h⟩ := hcase
    refine ⟨String.ofList u, String.ofList v, ?_, by simpa using hv, ?_⟩
    · unfold OneSegment
      rw [String.toList_ofList]
      exact (mem_lang_segment u).mp hu
    · rw [← String.toList_inj, String.toList_append, String.toList_ofList,
        String.toList_ofList, h]
  · intro hcase
    obtain ⟨u, rest, hu, hr, rfl⟩ := hcase
    exact ⟨u.toList, (mem_lang_segment _).mpr hu, rest.toList, hr, String.toList_append.symm⟩

theorem mem_lang_matcher (z : Zone) (path : String) :
    path.toList ∈ (RegExp.concat z.matcher).lang ↔ z.Covers path := by
  cases z with
  | directory dir =>
      rw [matcher, mem_lang_after]
      simp only [mem_lang_single, mem_lang_rest]
      exact Iff.rfl
  | file name =>
      rw [matcher, mem_lang_chars, String.toList_inj]
      exact Iff.rfl
  | entries dir part =>
      simp only [matcher, List.append_assoc, List.cons_append, List.nil_append,
        mem_lang_after, mem_lang_segment_then, mem_lang_single, mem_lang_segment]
      constructor
      · intro h
        obtain ⟨_, ⟨u, _, hu, ⟨v, hv, rfl⟩, rfl⟩, rfl⟩ := h
        exact ⟨u, v, hu, hv, by simp only [String.append_assoc]⟩
      · intro h
        obtain ⟨u, v, hu, hv, rfl⟩ := h
        exact ⟨u ++ (part ++ v), ⟨u, part ++ v, hu, ⟨v, hv, rfl⟩, rfl⟩,
          by simp only [String.append_assoc]⟩

/-- The matcher accepts exactly the covered paths. -/
theorem test_matcher (z : Zone) (path : String) :
    (RegExp.anchored z.matcher).test path = true ↔ z.Covers path := by
  rw [RegExp.test_anchored z.matcher_plain, mem_lang_matcher]

instance (z : Zone) (path : String) : Decidable (z.Covers path) :=
  decidable_of_iff _ (z.test_matcher path)

theorem starts_with_head {z : Zone} {path : String} (h : z.Covers path) :
    z.head.toList <+: path.toList := by
  cases z with
  | directory dir =>
      obtain ⟨rest, _, rfl⟩ := h
      exact ⟨rest.toList, String.toList_append.symm⟩
  | file name => obtain rfl := h; exact List.prefix_rfl
  | entries dir part =>
      obtain ⟨u, v, _, _, rfl⟩ := h
      exact ⟨(u ++ part ++ v).toList, by
        rw [← String.toList_append]; simp only [head, String.append_assoc]⟩

/-- Neither head starts with the other. -/
def Apart (y z : Zone) : Prop :=
  ¬ y.head.toList <+: z.head.toList ∧ ¬ z.head.toList <+: y.head.toList

instance (y z : Zone) : Decidable (Apart y z) := inferInstanceAs (Decidable (_ ∧ _))

/-- Two heads of one path are comparable, so zones apart have no common path. -/
theorem not_prefix_of_apart {y z : Zone} {path : String} (h : Apart y z)
    (hy : y.head.toList <+: path.toList) : ¬ z.head.toList <+: path.toList := by
  intro hz
  rcases List.prefix_or_prefix_of_prefix hy hz with hyz | hzy
  · exact h.1 hyz
  · exact h.2 hzy

theorem not_covers_of_apart {y z : Zone} {path : String} (h : Apart y z)
    (hy : y.head.toList <+: path.toList) : ¬ z.Covers path :=
  fun hz => not_prefix_of_apart h hy (starts_with_head hz)

end Zone

namespace Perimeter

def Covers (perimeter : Perimeter) (path : String) : Prop := ∃ z ∈ perimeter, z.Covers path

instance (perimeter : Perimeter) (path : String) : Decidable (perimeter.Covers path) :=
  inferInstanceAs (Decidable (∃ z ∈ perimeter, z.Covers path))

theorem covers_append (xs ys : Perimeter) (path : String) :
    Perimeter.Covers (xs ++ ys) path ↔ Perimeter.Covers xs path ∨ Perimeter.Covers ys path := by
  simp only [Covers, List.mem_append, or_and_right, exists_or]

end Perimeter
end Admissorium
