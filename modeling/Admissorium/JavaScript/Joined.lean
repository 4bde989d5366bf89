import Admissorium.JavaScript.JsonOrder

/-!
# Sorted and joined texts

`split` undoes `join` up to the separators inside the parts: a joined text is as good as the
list of its pieces (`join_eq_iff`), and a sorted list of texts as good as the list up to order.
-/
namespace Admissorium.JavaScript.Text
set_option autoImplicit false

/-- `parts.join(separator)` for a one-character separator. -/
def join (parts : List String) (separator : Char) : String :=
  (String.singleton separator).intercalate parts

/-- `[...texts].sort()`. -/
def sorted (texts : List String) : List String := texts.insertionSort Json.textLe

/-! ## Pieces -/

theorem split_injective (separator : Char) : Function.Injective (split · separator) := by
  intro a b hab
  have hsplit : a.toList.splitOn separator = b.toList.splitOn separator :=
    List.map_injective_iff.mpr (fun _ _ h => String.ofList_injective h) hab
  have hback : ∀ text : String, [separator].intercalate (text.toList.splitOn separator) = text.toList :=
    fun _ => List.intercalate_splitOn separator
  apply String.toList_injective
  rw [← hback a, hsplit, hback b]

/-- The pieces of a joined text, an empty list joining to the empty text. -/
def pieces (parts : List String) (separator : Char) : List String :=
  if parts = [] then [""] else parts.flatMap (fun part => split part separator)

/-- Joined texts are equal when the pieces are. -/
theorem join_eq_iff (parts others : List String) (separator : Char) :
    join parts separator = join others separator ↔
      pieces parts separator = pieces others separator := by
  have hpieces : ∀ texts, pieces texts separator = split (join texts separator) separator := by
    intro texts
    unfold pieces
    split
    · subst texts
      exact (split_eq_singleton (by simp)).symm
    · exact (split_intercalate ‹_› separator).symm
  rw [hpieces, hpieces]
  exact (split_injective separator).eq_iff.symm

/-- Parts without the separator are their own pieces. -/
theorem pieces_eq_self {parts : List String} {separator : Char} (hne : parts ≠ [])
    (h : ∀ part ∈ parts, separator ∉ part.toList) : pieces parts separator = parts := by
  rw [pieces, if_neg hne]
  have hsplit : parts.flatMap (fun part => split part separator) = parts.flatMap (fun part => [part]) :=
    List.flatMap_congr (fun part hpart => split_eq_singleton (h part hpart))
  rw [hsplit, List.flatMap_singleton']

/-! ## Sorting -/

theorem perm_sorted (texts : List String) : (sorted texts).Perm texts :=
  List.perm_insertionSort _ _

theorem sorted_eq_iff (texts others : List String) :
    sorted texts = sorted others ↔ texts.Perm others := by
  constructor
  · intro h
    exact (perm_sorted texts).symm.trans (h ▸ perm_sorted others)
  · intro h
    exact ((perm_sorted texts).trans (h.trans (perm_sorted others).symm)).eq_of_pairwise
      (fun _ _ _ _ hab hba => Json.textLe_antisymm hab hba)
      (List.pairwise_insertionSort _ _) (List.pairwise_insertionSort _ _)

end Admissorium.JavaScript.Text
