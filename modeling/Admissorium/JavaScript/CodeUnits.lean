import Admissorium.JavaScript.Text

/-!
# Patterns over code units

A pattern made from a source is run over the code units of a text, and a piece of it can stop
between the two halves of a character. Characters, stars of wide sets and a wide set with such a
star behind it do not let it: what they accept over code units is what they accept over characters
(`test_compiled`).
-/
namespace Admissorium.JavaScript
set_option autoImplicit false

/-! ## Symbols of code units -/

namespace Text

/-- The code unit a symbol stands for. -/
def unit (u : Char) : Nat := if u.toNat < 0x10000 then u.toNat else 0xD800 + (u.toNat - 0x10000)

theorem toNat_ofNat {n : Nat} (h : n.isValidChar) : (Char.ofNat n).toNat = n := by
  rw [Char.ofNat, dif_pos h]
  rfl

theorem toNat_lt (c : Char) : c.toNat < 0x110000 := by
  rcases c.valid with hlow | hhigh
  · have hbound : c.toNat < 0xD800 := hlow
    omega
  · exact hhigh.2

theorem halves_of_lt {c : Char} (h : c.toNat < 0x10000) : halves c = [c] := if_pos h

/-- A character beyond the basic plane is a high symbol and a low one. -/
theorem halves_of_le {c : Char} (h : 0x10000 ≤ c.toNat) : ∃ high low : Char,
    halves c = [high, low] ∧ high.toNat = 0x10000 + (c.toNat - 0x10000) / 0x400 ∧
      low.toNat = 0x10400 + (c.toNat - 0x10000) % 0x400 := by
  have hlt := toNat_lt c
  refine ⟨_, _, if_neg (Nat.not_lt.mpr h), toNat_ofNat (Or.inr ?_), toNat_ofNat (Or.inr ?_)⟩
  · constructor <;> omega
  · constructor <;> omega

theorem map_unit_halves (c : Char) : (halves c).map unit = charUnits c := by
  rcases Nat.lt_or_ge c.toNat 0x10000 with h | h
  · rw [halves_of_lt h, charUnits, if_pos h, List.map_singleton, unit, if_pos h]
  · obtain ⟨high, low, heq, hhigh, hlow⟩ := halves_of_le h
    have hhigh' : ¬ high.toNat < 0x10000 := by omega
    have hlow' : ¬ low.toNat < 0x10000 := by omega
    have hunit : 0xD800 + (low.toNat - 0x10000) = 0xDC00 + (c.toNat - 0x10000) % 0x400 := by omega
    have hunit' : 0xD800 + (high.toNat - 0x10000) = 0xD800 + (c.toNat - 0x10000) / 0x400 := by
      rw [hhigh, Nat.add_sub_cancel_left]
    rw [heq, charUnits, if_neg (Nat.not_lt.mpr h), List.map_cons, List.map_singleton, unit, unit,
      if_neg hhigh', if_neg hlow', hunit, hunit']

theorem halves_inj {c d : Char} {u v : List Char} (h : halves c ++ u = halves d ++ v) :
    c = d ∧ u = v := by
  have hunits := congrArg (List.map unit) h
  rw [List.map_append, List.map_append, map_unit_halves, map_unit_halves] at hunits
  obtain ⟨rfl, _⟩ := charUnits_inj hunits
  exact ⟨rfl, List.append_cancel_left h⟩

/-- No character starts with a low symbol. -/
theorem low_ne_halves {low d : Char} {u v : List Char} (hlow : 0x10400 ≤ low.toNat) :
    low :: u ≠ halves d ++ v := by
  intro h
  rcases Nat.lt_or_ge d.toNat 0x10000 with hd | hd
  · rw [halves_of_lt hd] at h
    rw [(List.cons.inj h).1] at hlow
    omega
  · obtain ⟨high, _, heq, hhigh, _⟩ := halves_of_le hd
    have hlt := toNat_lt d
    rw [heq] at h
    rw [(List.cons.inj h).1, hhigh] at hlow
    omega

end Text

/-! ## Patterns that keep the halves together -/

namespace RegExp

open Text

/-- A set with everything beyond the basic plane. -/
def Wide (s : CharSet) : Prop := ∀ c : Char, 0x10000 ≤ c.toNat → s.member c = true

theorem wide_dot : Wide .dot := by
  intro c hc
  have hall : ∀ d ∈ lineTerminators, d.toNat < 0x10000 := by decide
  have hfree : c ∉ lineTerminators := fun hmem => absurd (hall c hmem) (Nat.not_lt.mpr hc)
  simpa [CharSet.member] using hfree

theorem wide_compl {d : Char} (hd : d.toNat < 0x10000) : Wide (.compl (.char d)) := by
  intro c hc
  have hne : c ≠ d := fun he => absurd (he ▸ hd) (Nat.not_lt.mpr hc)
  simpa [CharSet.member] using hne

/-- The terms of a pattern over characters, over code units. -/
def unitTerms : RegExp → List RegExp
  | set (.char c) => (halves c).map (fun u => set (.char u))
  | r => [r]

/-- What a source that reads as these terms is compiled to. -/
def compiled (rs : List RegExp) : SourceRegExp := ⟨anchored (rs.flatMap unitTerms)⟩

/-- Terms that accept the halves of a character together or not at all: characters and stars of wide
sets, with one more wide set before a star at the end. -/
inductive Paired : List RegExp → Prop where
  | nil : Paired []
  | char (c : Char) {rs : List RegExp} : Paired rs → Paired (set (.char c) :: rs)
  | star {s : CharSet} (reluctant : Bool) {rs : List RegExp} :
      Wide s → Paired rs → Paired (star s reluctant :: rs)
  | set_star {s t : CharSet} (reluctant : Bool) :
      unitTerms (set s) = [set s] → Wide s → Wide t → Paired [set s, star t reluctant]

theorem member_halves {s : CharSet} (hs : Wide s) {c : Char} (hc : s.member c = true) :
    ∀ u ∈ halves c, s.member u = true := by
  rcases Nat.lt_or_ge c.toNat 0x10000 with h | h
  · rwa [halves_of_lt h, List.forall_mem_singleton]
  · obtain ⟨high, low, heq, hhigh, hlow⟩ := halves_of_le h
    rw [heq, List.forall_mem_cons, List.forall_mem_singleton]
    exact ⟨hs high (by omega), hs low (by omega)⟩

theorem member_of_halves {s : CharSet} (hs : Wide s) {c : Char}
    (hc : ∀ u ∈ halves c, s.member u = true) : s.member c = true := by
  rcases Nat.lt_or_ge c.toNat 0x10000 with h | h
  · rwa [halves_of_lt h, List.forall_mem_singleton] at hc
  · exact hs c h

theorem member_flatMap_halves {s : CharSet} (hs : Wide s) (text : List Char) :
    (∀ u ∈ text.flatMap halves, s.member u = true) ↔ ∀ c ∈ text, s.member c = true := by
  simp only [List.mem_flatMap, forall_exists_index, and_imp]
  exact ⟨fun h c hc => member_of_halves hs (fun u hu => h u c hc hu),
    fun h u c hc hu => member_halves hs (h c hc) u hu⟩

/-- Where a star over code units stops in the middle of a character, what follows takes the low half
of it; then it takes the whole. -/
theorem exists_split_of_star {s : CharSet} (hs : Wide s) {units chars : Language Char}
    (hwhole : ∀ text, text.flatMap halves ∈ units → text ∈ chars)
    (hlow : ∀ (c low : Char) text, 0x10000 ≤ c.toNat → 0x10400 ≤ low.toNat →
      low :: text.flatMap halves ∈ units → c :: text ∈ chars)
    {text w v : List Char} (hw : ∀ u ∈ w, s.member u = true) (hv : v ∈ units)
    (h : w ++ v = text.flatMap halves) :
    ∃ a, (∀ c ∈ a, s.member c = true) ∧ ∃ b ∈ chars, a ++ b = text := by
  induction text generalizing w with
  | nil =>
      obtain ⟨rfl, rfl⟩ := List.append_eq_nil_iff.mp h
      exact ⟨[], by simp, [], hwhole [] hv, rfl⟩
  | cons c text ih =>
      rw [List.flatMap_cons] at h
      cases w with
      | nil =>
          refine ⟨[], by simp, c :: text, hwhole _ ?_, rfl⟩
          rw [List.flatMap_cons, ← h]
          exact hv
      | cons u w =>
          obtain ⟨hu, hw⟩ := List.forall_mem_cons.mp hw
          have hmore {rest : List Char} (hrest : ∀ u ∈ rest, s.member u = true)
              (hc : s.member c = true) (heq : rest ++ v = text.flatMap halves) :
              ∃ a, (∀ c ∈ a, s.member c = true) ∧ ∃ b ∈ chars, a ++ b = c :: text := by
            obtain ⟨a, ha, b, hb, hab⟩ := ih hrest heq
            exact ⟨c :: a, List.forall_mem_cons.mpr ⟨hc, ha⟩, b, hb, congrArg (c :: ·) hab⟩
          rcases Nat.lt_or_ge c.toNat 0x10000 with hc | hc
          · rw [halves_of_lt hc] at h
            obtain ⟨rfl, hrest⟩ := List.cons.inj h
            exact hmore hw hu hrest
          · obtain ⟨high, low, heq, _, hlo⟩ := halves_of_le hc
            rw [heq] at h
            obtain ⟨rfl, hrest⟩ := List.cons.inj h
            cases w with
            | nil =>
                change v = low :: text.flatMap halves at hrest
                rw [hrest] at hv
                exact ⟨[], by simp, c :: text, hlow c low text hc (by omega) hv, rfl⟩
            | cons u' w =>
                obtain ⟨_, hrest⟩ := List.cons.inj hrest
                exact hmore (List.forall_mem_cons.mp hw).2 (hs c hc) hrest

theorem mem_lang_unitTerms_char (c : Char) (w : List Char) (rs : List RegExp) :
    w ∈ (concat (unitTerms (set (.char c)) ++ rs)).lang ↔
      ∃ v ∈ (concat rs).lang, halves c ++ v = w := by
  rw [unitTerms, lang_concat_append, Language.mem_mul]
  simp only [mem_lang_chars, exists_eq_left]

/-- Paired terms accept over code units what they accept over characters. -/
theorem mem_lang_units_iff {rs : List RegExp} (h : Paired rs) :
    (∀ text : List Char, text.flatMap halves ∈ (concat (rs.flatMap unitTerms)).lang ↔
      text ∈ (concat rs).lang) ∧
    ∀ (c low : Char) (text : List Char), 0x10000 ≤ c.toNat → 0x10400 ≤ low.toNat →
      low :: text.flatMap halves ∈ (concat (rs.flatMap unitTerms)).lang →
        c :: text ∈ (concat rs).lang := by
  induction h with
  | nil =>
      refine ⟨fun text => ?_, fun c low text _ _ h => absurd h (List.cons_ne_nil _ _)⟩
      cases text with
      | nil => exact Iff.rfl
      | cons c text =>
          refine iff_of_false (fun h => ?_) (List.cons_ne_nil _ _)
          obtain ⟨hnil, _⟩ := List.append_eq_nil_iff.mp h
          have hunits := map_unit_halves c
          rw [hnil] at hunits
          exact charUnits_ne_nil c hunits.symm
  | @char c rs _ ih =>
      rw [List.flatMap_cons, concat_cons, lang]
      refine ⟨fun text => ?_, fun d low text _ hlow h => ?_⟩
      · rw [mem_lang_unitTerms_char, Language.mem_mul]
        constructor
        · intro h
          obtain ⟨v, hv, heq⟩ := h
          cases text with
          | nil =>
              have hhalves := (List.append_eq_nil_iff.mp heq).1
              have hunits := map_unit_halves c
              rw [hhalves] at hunits
              exact absurd hunits.symm (charUnits_ne_nil c)
          | cons d text =>
              obtain ⟨rfl, rfl⟩ := halves_inj heq
              exact ⟨[c], ⟨c, by simp [CharSet.member], rfl⟩, text, (ih.1 text).mp hv, rfl⟩
        · intro h
          obtain ⟨u, ⟨x, hx, rfl⟩, v, hv, rfl⟩ := h
          obtain rfl : x = c := by simpa [CharSet.member] using hx
          exact ⟨_, (ih.1 v).mpr hv, rfl⟩
      · rw [mem_lang_unitTerms_char] at h
        obtain ⟨v, _, heq⟩ := h
        exact absurd heq.symm (low_ne_halves hlow)
  | @star s reluctant rs hs _ ih =>
      have hstop : ∀ text : List Char,
          text.flatMap halves ∈ (concat ((star s reluctant :: rs).flatMap unitTerms)).lang →
            text ∈ (concat (star s reluctant :: rs)).lang := by
        intro text h
        obtain ⟨w, hw, v, hv, heq⟩ := h
        obtain ⟨a, ha, b, hb, hab⟩ := exists_split_of_star hs (fun text => (ih.1 text).mp) ih.2 hw hv
          heq
        exact ⟨a, ha, b, hb, hab⟩
      refine ⟨fun text => ⟨hstop text, fun h => ?_⟩, fun c low text hc hlow h => ?_⟩
      · obtain ⟨a, ha, b, hb, rfl⟩ := h
        exact ⟨a.flatMap halves, (member_flatMap_halves hs a).mpr ha, b.flatMap halves,
          (ih.1 b).mpr hb, (List.flatMap_append).symm⟩
      · obtain ⟨w, hw, v, hv, heq⟩ := h
        cases w with
        | nil =>
            change v = low :: text.flatMap halves at heq
            rw [heq] at hv
            exact ⟨[], fun _ hu => absurd hu List.not_mem_nil, c :: text,
              ih.2 c low text hc hlow hv, rfl⟩
        | cons u w =>
            obtain ⟨a, ha, b, hb, rfl⟩ := hstop text
              ⟨w, (List.forall_mem_cons.mp hw).2, v, hv, (List.cons.inj heq).2⟩
            exact ⟨c :: a, List.forall_mem_cons.mpr ⟨hs c hc, ha⟩, b, hb, rfl⟩
  | @set_star s t reluctant hset hs ht =>
      have hterms : [set s, star t reluctant].flatMap unitTerms = [set s, star t reluctant] := by
        rw [List.flatMap_cons, hset]
        rfl
      have hmem : ∀ w : List Char, w ∈ (concat [set s, star t reluctant]).lang ↔
          ∃ u rest, s.member u = true ∧ (∀ x ∈ rest, t.member x = true) ∧ w = u :: rest := by
        intro w
        constructor
        · intro h
          obtain ⟨_, ⟨u, hu, rfl⟩, _, ⟨rest, hrest, _, rfl, rfl⟩, rfl⟩ := h
          exact ⟨u, rest, hu, hrest, by simp⟩
        · intro h
          obtain ⟨u, rest, hu, hrest, rfl⟩ := h
          exact ⟨[u], ⟨u, hu, rfl⟩, rest, ⟨rest, hrest, [], rfl, List.append_nil rest⟩, rfl⟩
      simp only [hterms, hmem]
      refine ⟨fun text => ?_, fun c low text hc _ h => ?_⟩
      · cases text with
        | nil => simp
        | cons c text =>
            simp only [List.cons.injEq, List.flatMap_cons]
            rcases Nat.lt_or_ge c.toNat 0x10000 with hc | hc
            · simp only [halves_of_lt hc, List.cons_append, List.nil_append, List.cons.injEq]
              constructor
              · rintro ⟨_, _, hu, hrest, rfl, rfl⟩
                exact ⟨c, text, hu, (member_flatMap_halves ht text).mp hrest, rfl, rfl⟩
              · rintro ⟨_, _, hu, hrest, rfl, rfl⟩
                exact ⟨c, _, hu, (member_flatMap_halves ht text).mpr hrest, rfl, rfl⟩
            · obtain ⟨high, low, heq, hhigh, hlow⟩ := halves_of_le hc
              simp only [heq, List.cons_append, List.nil_append, List.cons.injEq]
              constructor
              · rintro ⟨_, _, _, hrest, rfl, rfl⟩
                exact ⟨c, text, hs c hc,
                  (member_flatMap_halves ht text).mp (List.forall_mem_cons.mp hrest).2, rfl, rfl⟩
              · rintro ⟨_, _, _, hrest, rfl, rfl⟩
                exact ⟨high, _, hs high (by omega), List.forall_mem_cons.mpr
                  ⟨ht low (by omega), (member_flatMap_halves ht text).mpr hrest⟩, rfl, rfl⟩
      · obtain ⟨u, rest, _, hrest, heq⟩ := h
        obtain ⟨_, rfl⟩ := List.cons.inj heq
        exact ⟨c, text, hs c hc, (member_flatMap_halves ht text).mp hrest, rfl⟩

theorem plain_unitTerms {rs : List RegExp} (h : rs.all plain = true) :
    (rs.flatMap unitTerms).all plain = true := by
  rw [List.all_flatMap, List.all_eq_true]
  intro r hr
  have hplain := List.all_eq_true.mp h r hr
  unfold unitTerms
  split
  · simp [plain]
  · simpa using hplain

/-- A source of paired terms matches what the terms match. -/
theorem test_compiled {rs : List RegExp} (hr : rs.all plain = true) (h : Paired rs) (text : String) :
    (compiled rs).test text = (anchored rs).test text := by
  rw [Bool.eq_iff_iff, test_anchored hr, ← (mem_lang_units_iff h).1]
  exact search_anchored (plain_unitTerms hr) _

end RegExp

end Admissorium.JavaScript
