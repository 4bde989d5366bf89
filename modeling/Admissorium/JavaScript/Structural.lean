import Admissorium.JavaScript.Barriers
import Admissorium.JavaScript.Json

/-!
# What a check sees in a JSON text

The characters that structure a JSON text separate its parts. A check that never sees
across them finds in the text of an array or an object what it finds in some part.
-/
namespace Admissorium.JavaScript
set_option autoImplicit false

/-- The characters that open, close and separate, and the quote. -/
def structural : List Char := ['"', '[', ']', '{', '}', ',']

/-- A check of a text that finds nothing in the empty text, nor across a structural character. -/
structure Local (check : String → Bool) : Prop where
  empty : check "" = false
  split : ∀ a b : String, ∀ d ∈ structural,
    check (a ++ String.singleton d ++ b) = (check a || check b)

/-- Lower case does not look across a structural character: none has a case of its own, and
each ends the word in which a sigma is final. -/
def LowersApart (rt : Runtime) : Prop :=
  ∀ a b : String, ∀ d ∈ structural, rt.toLowerCase (a ++ String.singleton d ++ b) =
    rt.toLowerCase a ++ String.singleton d ++ rt.toLowerCase b

theorem asciiLower_append (a b : String) : asciiLower (a ++ b) = asciiLower a ++ asciiLower b := by
  rw [asciiLower, asciiLower, asciiLower, String.toList_append, List.map_append,
    String.ofList_append]

theorem lowersApart_of_asciiLower {rt : Runtime} (h : rt.toLowerCase = asciiLower) :
    LowersApart rt := by
  intro a b d hd
  have hfixed : asciiLower (String.singleton d) = String.singleton d := by
    revert d
    decide
  rw [h, asciiLower_append, asciiLower_append, hfixed]

theorem Runtime.toLowerCase_empty (rt : Runtime) : rt.toLowerCase "" = "" :=
  rt.lower_ascii "" rfl

namespace Local

theorem any {ι : Type} {checks : ι → String → Bool} {l : List ι} (h : ∀ i ∈ l, Local (checks i)) :
    Local (fun text => l.any (fun i => checks i text)) := by
  induction l with
  | nil => exact ⟨rfl, fun _ _ _ _ => rfl⟩
  | cons i l ih =>
      obtain ⟨hi, hl⟩ := List.forall_mem_cons.mp h
      refine ⟨?_, ?_⟩
      · simp only [List.any_cons, hi.empty, (ih hl).empty, Bool.or_self]
      · intro a b d hd
        have hsplit := (ih hl).split a b d hd
        simp only [List.any_cons, hi.split a b d hd, hsplit]
        ac_rfl

theorem comp {check : String → Bool} (h : Local check) {f : String → String} (hempty : f "" = "")
    (hsplit : ∀ a b : String, ∀ d ∈ structural,
      f (a ++ String.singleton d ++ b) = f a ++ String.singleton d ++ f b) :
    Local (fun text => check (f text)) :=
  ⟨by rw [hempty, h.empty], fun a b d hd => by rw [hsplit a b d hd, h.split _ _ d hd]⟩

/-- A nonempty phrase without structural characters is looked for locally. -/
theorem includes {phrase : String} (hne : phrase ≠ "")
    (h : ∀ d ∈ structural, d ∉ phrase.toList) : Local (fun text => Text.includes text phrase) := by
  refine ⟨?_, fun a b d hd => Text.includes_barrier (h d hd) a b⟩
  rw [Bool.eq_false_iff, ne_eq, Text.includes_iff, String.toList_empty, List.infix_nil,
    String.toList_eq_nil_iff]
  exact hne

/-- So is a pattern that shuns them all. -/
theorem test {r : RegExp} (hempty : r.test "" = false) (h : ∀ d ∈ structural, r.shuns d = true) :
    Local r.test := by
  have hword : ∀ d ∈ structural, isWordChar d = false := by decide
  exact ⟨hempty, fun a b d hd => RegExp.test_barrier (hword d hd) (h d hd) a b⟩

section Parts
variable {check : String → Bool} (h : Local check)
include h

theorem cons {d : Char} (hd : d ∈ structural) (b : String) :
    check (String.singleton d ++ b) = check b := by
  have hsplit := h.split "" b d hd
  rw [String.empty_append, h.empty, Bool.false_or] at hsplit
  exact hsplit

theorem snoc {d : Char} (hd : d ∈ structural) (a : String) :
    check (a ++ String.singleton d) = check a := by
  have hsplit := h.split a "" d hd
  rw [String.append_empty, h.empty, Bool.or_false] at hsplit
  exact hsplit

theorem intercalate (texts : List String) :
    check (",".intercalate texts) = texts.any check := by
  induction texts with
  | nil => exact h.empty
  | cons text rest ih =>
      cases rest with
      | nil => simp
      | cons next rest =>
          have hjoin : ",".intercalate (text :: next :: rest) =
              text ++ String.singleton ',' ++ ",".intercalate (next :: rest) := by
            rw [String.intercalate_cons_cons]
            rfl
          rw [hjoin, h.split _ _ ',' (by decide), ih]
          rfl

theorem bracketed {opens closes : Char} (ho : opens ∈ structural) (hc : closes ∈ structural)
    (head : String) (texts : List String) :
    check (head ++ (String.singleton opens ++ ",".intercalate texts ++ String.singleton closes)) =
      (check head || texts.any check) := by
  rw [String.append_assoc, ← String.append_assoc, h.split _ _ _ ho, h.snoc hc, h.intercalate]

/-- An array is seen in its items, and what is before it apart. -/
theorem array (head : String) (texts : List String) :
    check (head ++ ("[" ++ ",".intercalate texts ++ "]")) = (check head || texts.any check) := by
  have hopens : '[' ∈ structural := by decide
  have hcloses : ']' ∈ structural := by decide
  exact h.bracketed hopens hcloses head texts

/-- So is an object in its members. -/
theorem object (head : String) (texts : List String) :
    check (head ++ ("\x7b" ++ ",".intercalate texts ++ "\x7d")) =
      (check head || texts.any check) := by
  have hopens : '{' ∈ structural := by decide
  have hcloses : '}' ∈ structural := by decide
  exact h.bracketed hopens hcloses head texts

theorem quoted (word tail : String) :
    check ("\"" ++ word ++ "\"" ++ tail) = (check word || check tail) := by
  have hquote : '"' ∈ structural := by decide
  have hsplit : "\"" ++ word ++ "\"" ++ tail = String.singleton '"' ++ word ++
      String.singleton '"' ++ tail := rfl
  rw [hsplit, h.split _ _ _ hquote, h.cons hquote]

/-- In the text of an object it finds what it finds in a member. -/
theorem stringify_obj {rt : Runtime} {fields : List (String × Value)} {text : String}
    (ht : Json.stringify rt (.obj fields) = some text) :
    check text = (Json.members rt fields).any check := by
  rw [Json.stringify, Option.some.injEq] at ht
  have hobject := h.object "" (Json.members rt fields)
  rwa [ht, String.empty_append, h.empty, Bool.false_or] at hobject

end Parts

end Local
end Admissorium.JavaScript
